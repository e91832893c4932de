import Aise.Domain.Activation.Compile
import Aise.Lib.Replace

/-! What the check of a key's macros promises and what expanding them makes of the key. The check
reads the key once from left to right; the expansion replaces one macro after the other. -/
namespace Aise.Domain
open RustText Occurrence

/-! ### Keys as characters and macros -/

inductive Macro where
  | playerName | playerRoleLabel
  deriving DecidableEq

def Macro.name : Macro → String
  | .playerName => "player_name"
  | .playerRoleLabel => "player_role_label"

def Macro.text (known : Macro) : List Char := macroText known.name

def Macro.value (macros : ActivationMacroValues) : Macro → List Char
  | .playerName => macros.playerName.toList
  | .playerRoleLabel => macros.playerRoleLabel.toList

def macroAt (text : List Char) : Option Macro :=
  [Macro.playerName, Macro.playerRoleLabel].find? fun known => known.text.isPrefixOf text

inductive KeyToken where
  | char (c : Char)
  | known (which : Macro)
  deriving DecidableEq

def KeyToken.text : KeyToken → List Char
  | .char c => [c]
  | .known which => which.text

def KeyToken.last : KeyToken → Char
  | .char c => c
  | .known _ => '\x7d'

def KeyToken.filled (macros : ActivationMacroValues) : KeyToken → List Char
  | .char c => [c]
  | .known which => which.value macros

/-- The key read once from left to right; `skip` characters still belong to the last macro. -/
def tokensFrom : (skip : Nat) → List Char → List KeyToken
  | _, [] => []
  | skip + 1, _ :: rest => tokensFrom skip rest
  | 0, c :: rest =>
    match macroAt (c :: rest) with
    | some which => .known which :: tokensFrom (which.text.length - 1) rest
    | none => .char c :: tokensFrom 0 rest

def keyTokens (key : List Char) : List KeyToken := tokensFrom 0 key

def tokenText (tokens : List KeyToken) : List Char := tokens.flatMap KeyToken.text

/-- All macros of the key at once, each by its value. -/
def substituted (macros : ActivationMacroValues) (key : List Char) : List Char :=
  (keyTokens key).flatMap (KeyToken.filled macros)

/-- Two braces at this position lie within a macro of the key. -/
def InMacro (key : List Char) (position : Nat) : Prop :=
  ∃ (which : Macro) (start : Nat), At which.text key start ∧ start ≤ position ∧
    position + 2 ≤ start + which.text.length

def boundedExpansion (maxBytes : UInt64) (expanded : String) : Except ActivationError String :=
  if len expanded > maxBytes.toNat then .error (.workLimitExceeded "macro_expansion_bytes")
  else .ok expanded

/-- The only braces in pairs are those of macros, and expanding puts the values where the macros
stand and does nothing else. -/
structure MacrosSound (macros : ActivationMacroValues) (key : String) : Prop where
  braces : ∀ position, At openBraces key.toList position ∨ At closeBraces key.toList position →
    InMacro key.toList position
  expansion : ∀ maxBytes, expandMacros macros maxBytes key =
    boundedExpansion maxBytes (String.ofList (substituted macros key.toList))

/-- No token ends with the brace right in front of another one. -/
def Apart (brace : Char) : List KeyToken → Prop
  | [] => True
  | token :: rest =>
    ¬ (token.last = brace ∧ (tokenText rest).head? = some brace) ∧ Apart brace rest

instance Apart.decide (brace : Char) : (tokens : List KeyToken) → Decidable (Apart brace tokens)
  | [] => .isTrue trivial
  | _ :: rest => @instDecidableAnd _ _ inferInstance (Apart.decide brace rest)

/-- The key between its role labels, with the player's name filled in. -/
def stretches (macros : ActivationMacroValues) : List KeyToken → List (List Char)
  | [] => [[]]
  | .known .playerRoleLabel :: rest => [] :: stretches macros rest
  | token :: rest => (stretches macros rest).modifyHead (token.filled macros ++ ·)

/-! ### The two macros -/

theorem Macro.text_ne_nil (which : Macro) : which.text ≠ [] := by
  cases which <;> exact List.cons_ne_nil _ _

theorem Macro.open_prefix (which : Macro) : openBraces <+: which.text := by
  cases which <;> decide

theorem Macro.length_pos (which : Macro) : 2 < which.text.length := by
  cases which <;> decide

/-- Inside a macro no other pair of opening braces begins. -/
theorem Macro.opens_once (which : Macro) : ∀ place < which.text.length, 0 < place →
    which.text[place]? ≠ some '\x7b' ∨ place + 1 < which.text.length ∧
      which.text[place + 1]? ≠ some '\x7b' := by
  cases which <;> decide

/-- A macro ends with a closing brace, not with an opening one. -/
theorem Macro.closes {which : Macro} : (KeyToken.known which).last ≠ '\x7b' := by
  show '\x7d' ≠ '\x7b'
  decide

theorem Macro.borderless (which : Macro) : Borderless which.text := by
  cases which <;> decide

theorem Macro.eq_of_prefix {first second : Macro} {text : List Char} (here : first.text <+: text)
    (also : second.text <+: text) : first = second := by
  have either := List.prefix_or_prefix_of_prefix here also
  revert either
  cases first <;> cases second <;> decide

theorem prefix_of_macroAt {text : List Char} {which : Macro} (found : macroAt text = some which) :
    which.text <+: text := by
  rw [macroAt] at found
  have here := List.find?_some found
  exact List.isPrefixOf_iff_prefix.mp here

theorem macroAt_eq_some {text : List Char} {which : Macro} :
    macroAt text = some which ↔ which.text <+: text := by
  refine ⟨prefix_of_macroAt, fun here => ?_⟩
  cases found : macroAt text with
  | none =>
    have absent := List.find?_eq_none.mp found which (by cases which <;> simp)
    exact absurd (List.isPrefixOf_iff_prefix.mpr here) absent
  | some other => rw [Macro.eq_of_prefix (prefix_of_macroAt found) here]

/-! ### Reading a key -/

theorem tokensFrom_eq (skip : Nat) (text : List Char) :
    tokensFrom skip text = keyTokens (text.drop skip) := by
  induction text generalizing skip with
  | nil => simp [keyTokens, tokensFrom]
  | cons c rest ih =>
    cases skip with
    | zero => rfl
    | succ skip => simpa only [tokensFrom, List.drop_succ_cons] using ih skip

theorem keyTokens_known (which : Macro) (rest : List Char) :
    keyTokens (which.text ++ rest) = .known which :: keyTokens rest := by
  have here := macroAt_eq_some.mpr (List.prefix_append which.text rest)
  obtain ⟨first, others, shape⟩ := List.exists_cons_of_ne_nil which.text_ne_nil
  rw [shape, List.cons_append] at here ⊢
  simp only [keyTokens, tokensFrom, here]
  rw [tokensFrom_eq, shape]
  simp [keyTokens]

theorem keyTokens_char {c : Char} {rest : List Char} (absent : macroAt (c :: rest) = none) :
    keyTokens (c :: rest) = .char c :: keyTokens rest := by
  simp only [keyTokens, tokensFrom, absent]

/-- A key is read macro by macro, and character by character in between. -/
theorem key_induction {motive : List Char → Prop} (empty : motive [])
    (known : ∀ which rest, motive rest → motive (Macro.text which ++ rest))
    (char : ∀ c rest, macroAt (c :: rest) = none → motive rest → motive (c :: rest))
    (key : List Char) : motive key := by
  induction size : key.length using Nat.strong_induction_on generalizing key with
  | _ size ih =>
    subst size
    cases key with
    | nil => exact empty
    | cons c rest =>
      cases found : macroAt (c :: rest) with
      | none => exact char c rest found (ih _ (Nat.lt_succ_self _) rest rfl)
      | some which =>
        obtain ⟨back, split⟩ := prefix_of_macroAt found
        have positive := which.length_pos
        rw [← split] at ih ⊢
        exact known which back (ih _ (by rw [List.length_append]; omega) back rfl)

/-- Reading loses nothing of the key. -/
theorem tokenText_keyTokens (key : List Char) : tokenText (keyTokens key) = key := by
  induction key using key_induction with
  | empty => rfl
  | known which rest ih =>
    rw [keyTokens_known, tokenText, List.flatMap_cons, KeyToken.text, ← tokenText, ih]
  | char c rest absent ih =>
    rw [keyTokens_char absent, tokenText, List.flatMap_cons, KeyToken.text, ← tokenText, ih]
    rfl

/-! ### What the check accepts -/

theorem macrosFrom_eq (skip : Nat) (text : List Char) :
    macrosFrom skip text = macrosFrom 0 (text.drop skip) := by
  induction text generalizing skip with
  | nil => simp [macrosFrom]
  | cons c rest ih =>
    cases skip with
    | zero => rfl
    | succ skip => simpa only [macrosFrom, List.drop_succ_cons] using ih skip

theorem macroName_known {name : String} (listed : macroNames.contains name = true) :
    ∃ which : Macro, which.name = name := by
  rw [macroNames, List.contains_iff_mem] at listed
  rcases List.mem_cons.mp listed with rfl | listed
  · exact ⟨.playerName, rfl⟩
  · obtain rfl := List.mem_singleton.mp listed
    exact ⟨.playerRoleLabel, rfl⟩

/-- What the check takes for a name stands behind two opening braces. -/
theorem opened_name {inside rest : List Char} (which : Macro)
    (name : which.name = String.ofList (inside.drop 2)) (here : openBraces <+: inside ++ rest) :
    inside = openBraces ++ inside.drop 2 := by
  have long : openBraces.length ≤ inside.length := by
    by_contra! short
    have gone : inside.drop 2 = [] := List.drop_eq_nil_of_le short.le
    rw [gone] at name
    cases which <;> exact absurd name (by decide)
  obtain ⟨back, rfl⟩ := List.prefix_of_prefix_length_le here (List.prefix_append inside rest) long
  rfl

/-- In front of the check there is no pair of braces any more, a macro or one more character. -/
theorem macrosFrom_cases {key : List Char} (accepted : macrosFrom 0 key = true) :
    (¬ openBraces <:+: key ∧ ¬ closeBraces <:+: key) ∨
    (∃ (which : Macro) (rest : List Char), key = which.text ++ rest ∧ macrosFrom 0 rest = true) ∨
    ∃ c rest, key = c :: rest ∧ ¬ openBraces <+: key ∧ macrosFrom 0 rest = true := by
  cases key with
  | nil => exact .inl (by decide)
  | cons c rest =>
    rw [macrosFrom] at accepted
    split at accepted
    next quiet =>
      simp only [Bool.not_eq_true', ← Bool.not_eq_true, contains_iff] at quiet accepted
      exact .inl ⟨quiet, accepted⟩
    next =>
      split at accepted
      next here =>
        split at accepted
        · contradiction
        next inside found search =>
          obtain ⟨listed, further⟩ := Bool.and_eq_true_iff.mp accepted
          obtain ⟨which, name⟩ := macroName_known listed
          obtain ⟨split, back, rfl⟩ := find_some search
          refine .inr (.inl ⟨which, back, ?_, ?_⟩)
          · rw [split, Macro.text, macroText, name, String.toList_ofList,
              ← opened_name which name (split ▸ List.isPrefixOf_iff_prefix.mp here),
              List.append_assoc]
          · have width : inside.length + 1 + 1 = (inside ++ closeBraces).length := by
              simp [closeBraces]
            rwa [macrosFrom_eq, ← List.drop_succ_cons (a := c), split, ← List.append_assoc, width,
              List.drop_left] at further
      next here =>
        rw [List.isPrefixOf_iff_prefix] at here
        exact .inr (.inr ⟨c, rest, rfl, here, accepted⟩)

theorem KeyToken.ends (token : KeyToken) : ∃ front, token.text = front ++ [token.last] := by
  rcases token with c | which
  · exact ⟨[], rfl⟩
  · exact ⟨which.text.dropLast, by cases which <;> decide⟩

theorem tokenText_cons (token : KeyToken) (rest : List KeyToken) :
    tokenText (token :: rest) = token.text ++ tokenText rest := List.flatMap_cons

theorem pair_meets {brace first : Char} {rest : List Char}
    (here : [brace, brace] <+: first :: rest) : first = brace ∧ rest.head? = some brace := by
  obtain ⟨same, back, rfl⟩ := List.cons_prefix_cons.mp here
  exact ⟨same.symm, rfl⟩

/-- Braces that stand nowhere in pairs stand apart. -/
theorem apart_of_absent {brace : Char} {tokens : List KeyToken}
    (absent : ¬ [brace, brace] <:+: tokenText tokens) : Apart brace tokens := by
  induction tokens with
  | nil => trivial
  | cons token rest ih =>
    rw [tokenText_cons] at absent
    refine ⟨fun ⟨last, head⟩ => absent ?_,
      ih fun inside => absent (inside.trans (List.suffix_append _ _).isInfix)⟩
    obtain ⟨front, ends⟩ := token.ends
    obtain ⟨back, text⟩ := List.head?_eq_some_iff.mp head
    exact ⟨front, back, by rw [ends, last, text]; simp⟩

/-- No two opening braces of an accepted key meet outside its macros. -/
theorem opened_apart {key : List Char} (accepted : macrosFrom 0 key = true) :
    Apart '\x7b' (keyTokens key) := by
  induction size : key.length using Nat.strong_induction_on generalizing key with
  | _ size ih =>
    subst size
    rcases macrosFrom_cases accepted with
      ⟨quiet, -⟩ | ⟨which, rest, rfl, further⟩ | ⟨c, rest, rfl, quiet, further⟩
    · exact apart_of_absent (by rwa [tokenText_keyTokens])
    · have positive := which.length_pos
      rw [keyTokens_known]
      refine ⟨fun ⟨last, _⟩ => Macro.closes last, ih _ ?_ further rfl⟩
      rw [List.length_append]
      omega
    · have none : macroAt (c :: rest) = none := by
        by_contra! found
        obtain ⟨which, here⟩ := Option.ne_none_iff_exists'.mp found
        exact quiet (which.open_prefix.trans (prefix_of_macroAt here))
      rw [keyTokens_char none]
      refine ⟨fun ⟨last, head⟩ => quiet ?_, ih _ (Nat.lt_succ_self _) further rfl⟩
      rw [tokenText_keyTokens] at head
      obtain ⟨back, rfl⟩ := List.head?_eq_some_iff.mp head
      obtain rfl : c = '\x7b' := last
      exact List.prefix_append openBraces back

/-! ### Where braces meet -/

theorem inMacro_append {key : List Char} {position : Nat} (inside : InMacro key position)
    (front : List Char) : InMacro (front ++ key) (front.length + position) := by
  obtain ⟨which, start, here, before, within⟩ := inside
  exact ⟨which, front.length + start, at_append.mpr here, by omega, by omega⟩

/-- Where no pair of braces begins behind a macro or another brace, all pairs are in macros. -/
theorem inMacro_of_apart {brace : Char} {tokens : List KeyToken} (apart : Apart brace tokens)
    {position : Nat} (here : At [brace, brace] (tokenText tokens) position) :
    InMacro (tokenText tokens) position := by
  induction tokens generalizing position with
  | nil => exact absurd here (not_at_of_length_le (List.cons_ne_nil _ _) (Nat.zero_le _))
  | cons token rest ih =>
    obtain ⟨front, ends⟩ := token.ends
    have width : token.text.length = front.length + 1 := by simp [ends]
    rw [tokenText_cons] at here ⊢
    rcases lt_trichotomy position front.length with within | last | behind
    · rcases token with c | which
      · have empty : front.length = 0 := Nat.succ.inj width.symm
        omega
      · have whole : At which.text (which.text ++ tokenText rest) 0 := List.prefix_append _ _
        refine ⟨which, 0, whole, Nat.zero_le _, ?_⟩
        have : which.text.length = front.length + 1 := width
        omega
    · rw [ends, List.append_assoc, last, ← Nat.add_zero front.length, at_append] at here
      exact absurd (pair_meets here) apart.1
    · obtain ⟨place, rfl⟩ : ∃ place, position = token.text.length + place :=
        ⟨position - token.text.length, by omega⟩
      exact inMacro_append (ih apart.2 (at_append.mp here)) token.text

/-- A macro stands nowhere but where the key was read as one. -/
theorem known_or_behind {token : KeyToken} {rest : List KeyToken} {which : Macro} {start : Nat}
    (apart : Apart '\x7b' (token :: rest))
    (here : At which.text (tokenText (token :: rest)) start) :
    start = 0 ∧ token = .known which ∨ token.text.length ≤ start := by
  rw [tokenText_cons] at here
  have opened : At openBraces (token.text ++ tokenText rest) start := which.open_prefix.trans here
  rcases Nat.eq_zero_or_pos start with rfl | positive
  · rcases token with c | other
    · exact absurd (pair_meets opened) apart.1
    · have whole : other.text <+: other.text ++ tokenText rest := List.prefix_append _ _
      rw [Macro.eq_of_prefix whole here]
      exact .inl ⟨rfl, rfl⟩
  · refine .inr ?_
    by_contra! within
    rcases token with c | other
    · exact absurd positive (by simpa [KeyToken.text] using within)
    · have first : (other.text ++ tokenText rest)[start + 0]? = openBraces[0]? :=
        opened.getElem? (by decide)
      have second : (other.text ++ tokenText rest)[start + 1]? = openBraces[1]? :=
        opened.getElem? (by decide)
      rcases other.opens_once start within positive with quiet | ⟨further, quiet⟩
      · exact quiet ((List.getElem?_append_left within).symm.trans first)
      · exact quiet ((List.getElem?_append_left further).symm.trans second)

theorem inMacro_behind {token : KeyToken} {rest : List KeyToken}
    (apart : Apart '\x7b' (token :: rest)) {position : Nat}
    (inside : InMacro (tokenText (token :: rest)) (token.text.length + position)) :
    InMacro (tokenText rest) position := by
  obtain ⟨which, start, here, before, within⟩ := inside
  rcases known_or_behind apart here with ⟨rfl, rfl⟩ | behind
  · rw [KeyToken.text] at within
    omega
  · obtain ⟨place, rfl⟩ : ∃ place, start = token.text.length + place :=
      ⟨start - token.text.length, by omega⟩
    rw [tokenText_cons, at_append] at here
    exact ⟨which, place, here, by omega, by omega⟩

theorem apart_of_inMacro {brace : Char} {tokens : List KeyToken} (apart : Apart '\x7b' tokens)
    (inside : ∀ position, At [brace, brace] (tokenText tokens) position →
      InMacro (tokenText tokens) position) : Apart brace tokens := by
  induction tokens with
  | nil => trivial
  | cons token rest ih =>
    refine ⟨fun ⟨last, head⟩ => ?_, ih apart.2 fun position here => inMacro_behind apart
      (inside _ (by rw [tokenText_cons]; exact at_append.mpr here))⟩
    obtain ⟨front, ends⟩ := token.ends
    obtain ⟨back, text⟩ := List.head?_eq_some_iff.mp head
    have width : token.text.length = front.length + 1 := by simp [ends]
    have pair : At [brace, brace] (tokenText (token :: rest)) (front.length + 0) := by
      rw [tokenText_cons, ends, List.append_assoc, at_append, last, text]
      exact List.prefix_append [brace, brace] back
    obtain ⟨which, start, here, before, within⟩ := inside _ pair
    rcases known_or_behind apart here with ⟨rfl, rfl⟩ | behind
    · rw [KeyToken.text] at width
      omega
    · omega

theorem braces_iff {tokens : List KeyToken} (apart : Apart '\x7b' tokens) :
    (∀ position, At openBraces (tokenText tokens) position ∨
      At closeBraces (tokenText tokens) position → InMacro (tokenText tokens) position) ↔
      Apart '\x7d' tokens := by
  constructor
  · exact fun inside => apart_of_inMacro apart fun position here => inside position (.inr here)
  · rintro closed position (here | here)
    · exact inMacro_of_apart apart here
    · exact inMacro_of_apart closed here

/-! ### What expanding makes of a key -/

section
variable {macros : ActivationMacroValues}

theorem stretches_ne_nil (tokens : List KeyToken) : stretches macros tokens ≠ [] := by
  induction tokens with
  | nil => exact List.cons_ne_nil _ _
  | cons token rest ih =>
    rcases token with c | (_ | _)
    · exact fun empty => ih (List.modifyHead_eq_nil_iff.mp empty)
    · exact fun empty => ih (List.modifyHead_eq_nil_iff.mp empty)
    · exact List.cons_ne_nil _ _

theorem intercalate_modifyHead {separator front : List Char} {texts : List (List Char)}
    (nonempty : texts ≠ []) :
    separator.intercalate (texts.modifyHead (front ++ ·)) =
      front ++ separator.intercalate texts := by
  obtain ⟨first, others, rfl⟩ := List.exists_cons_of_ne_nil nonempty
  cases others <;> simp

theorem intercalate_stretches_cons (separator : List Char) (token : KeyToken)
    (rest : List KeyToken) :
    separator.intercalate (stretches macros (token :: rest)) =
      (if token = .known .playerRoleLabel then separator else token.filled macros) ++
        separator.intercalate (stretches macros rest) := by
  rcases token with c | (_ | _)
  · exact intercalate_modifyHead (stretches_ne_nil rest)
  · exact intercalate_modifyHead (stretches_ne_nil rest)
  · rw [if_pos rfl, stretches, List.intercalate_cons_of_ne_nil (stretches_ne_nil rest)]
    simp

/-- With its role labels in place, the key is what its stretches are between. -/
theorem flatMap_filled (tokens : List KeyToken) : tokens.flatMap (KeyToken.filled macros) =
    macros.playerRoleLabel.toList.intercalate (stretches macros tokens) := by
  induction tokens with
  | nil => rfl
  | cons token rest ih =>
    rw [List.flatMap_cons, ih, intercalate_stretches_cons]
    split
    next known => rw [known]; rfl
    next => rfl

/-- The first replacement only meets the player names of the key. -/
theorem replace_playerName {tokens : List KeyToken} (apart : Apart '\x7b' tokens) :
    replace (macroText "player_name") macros.playerName.toList (tokenText tokens) =
      Macro.playerRoleLabel.text.intercalate (stretches macros tokens) := by
  induction tokens with
  | nil => rfl
  | cons token rest ih =>
    rw [intercalate_stretches_cons, tokenText_cons, ← ih apart.2]
    by_cases named : token = .known .playerName
    · subst named
      exact replace_pattern Macro.playerName.text_ne_nil _
    · rw [replace_append]
      · rcases token with c | (_ | _)
        · rfl
        · exact absurd rfl named
        · rfl
      · intro position within here
        have stands : At Macro.playerName.text (tokenText (token :: rest)) position := by
          rwa [tokenText_cons]
        rcases known_or_behind apart stands with
          ⟨-, same⟩ | behind
        · exact named same
        · omega

/-- The second replacement also goes through what the first one has written. -/
theorem expansion_iff {key : List Char} (apart : Apart '\x7b' (keyTokens key)) :
    replace (macroText "player_role_label") macros.playerRoleLabel.toList
        (replace (macroText "player_name") macros.playerName.toList key) =
      substituted macros key ↔
    macros.playerRoleLabel.toList = Macro.playerRoleLabel.text ∨
      ∀ stretch ∈ stretches macros (keyTokens key),
        ¬ Macro.playerRoleLabel.text <:+: stretch := by
  have named : replace (macroText "player_name") macros.playerName.toList
      (tokenText (keyTokens key)) = _ := replace_playerName apart
  rw [tokenText_keyTokens] at named
  rw [named, substituted, flatMap_filled]
  exact replace_intercalate_eq_iff Macro.playerRoleLabel.text_ne_nil
    Macro.playerRoleLabel.borderless _

end

/-! ### Accepted keys -/

theorem macrosFrom_of_quiet {key : List Char} (opened : contains openBraces key = false)
    (closed : contains closeBraces key = false) : macrosFrom 0 key = true := by
  cases key with
  | nil => rfl
  | cons c rest => rw [macrosFrom, opened, closed]; rfl

theorem macrosFrom_of_ok {value : String} (checked : validateMacroPattern value = .ok ()) :
    macrosFrom 0 value.toList = true := by
  rw [validateMacroPattern] at checked
  split at checked
  next known => exact known
  next => contradiction

theorem validatePattern_ok {engine : RegexEngine} {limits : ActivationRuleLimits}
    {compileRegex : Bool} {pattern : ActivationPattern}
    (accepted : validatePattern engine limits compileRegex pattern = .ok ()) :
    macrosFrom 0 (trim pattern.literal).toList = true := by
  simp only [validatePattern] at accepted
  split at accepted
  · contradiction
  split at accepted
  · contradiction
  split at accepted
  next =>
    obtain ⟨checked, -⟩ := Result.check_bind_eq_ok.mp accepted
    exact macrosFrom_of_ok checked
  next quiet =>
    obtain ⟨opened, closed⟩ := Bool.or_eq_false_iff.mp (Bool.not_eq_true _ ▸ quiet)
    exact macrosFrom_of_quiet opened closed

/-- Two expansions that keep within the same bounds are the same text when one of them can be
written down at all. -/
theorem boundedExpansion_inj {first second : String} (bounded : len second < UInt64.size)
    (same : ∀ maxBytes, boundedExpansion maxBytes first = boundedExpansion maxBytes second) :
    first = second := by
  have largest := same (UInt64.ofNat (UInt64.size - 1))
  have width : (UInt64.ofNat (UInt64.size - 1)).toNat = UInt64.size - 1 := rfl
  have fits : ¬ len second > UInt64.size - 1 := by omega
  simp only [boundedExpansion, width, if_neg fits] at largest
  split at largest
  · contradiction
  · exact Except.ok.inj largest

theorem expandMacros_eq (macros : ActivationMacroValues) (maxBytes : UInt64) (key : String) :
    expandMacros macros maxBytes key = boundedExpansion maxBytes
      (String.ofList (replace (macroText "player_role_label") macros.playerRoleLabel.toList
        (replace (macroText "player_name") macros.playerName.toList key.toList))) := by
  rw [expandMacros, boundedExpansion]

theorem expandMacros_eq_iff {macros : ActivationMacroValues} {key : String} {filled : List Char}
    (bounded : len (String.ofList filled) < UInt64.size) :
    (∀ maxBytes, expandMacros macros maxBytes key =
      boundedExpansion maxBytes (String.ofList filled)) ↔
    replace (macroText "player_role_label") macros.playerRoleLabel.toList
      (replace (macroText "player_name") macros.playerName.toList key.toList) = filled := by
  simp only [expandMacros_eq]
  constructor
  · intro same
    exact String.ofList_injective (boundedExpansion_inj bounded same)
  · intro same maxBytes
    rw [same]

theorem sound_iff_of_checked {macros : ActivationMacroValues} {key : String}
    (checked : macrosFrom 0 key.toList = true)
    (bounded : len (String.ofList (substituted macros key.toList)) < UInt64.size) :
    MacrosSound macros key ↔ Apart '\x7d' (keyTokens key.toList) ∧
      (macros.playerRoleLabel.toList = Macro.playerRoleLabel.text ∨
        ∀ stretch ∈ stretches macros (keyTokens key.toList),
          ¬ Macro.playerRoleLabel.text <:+: stretch) := by
  have apart := opened_apart checked
  have braces := braces_iff apart
  rw [tokenText_keyTokens] at braces
  rw [← braces, ← expansion_iff apart, ← expandMacros_eq_iff bounded]
  constructor
  · rintro ⟨inside, same⟩
    exact ⟨inside, same⟩
  · rintro ⟨inside, same⟩
    exact ⟨inside, same⟩

/-- The check looks for stray closing braces only behind the last macro, and the expansion goes
through the player's name again: what it accepts is expanded as written exactly when no closing
brace meets another one in front, and no role label comes about between those of the key. -/
theorem macros_sound_iff {engine : RegexEngine} {limits : ActivationRuleLimits}
    {compileRegex : Bool} {pattern : ActivationPattern} {macros : ActivationMacroValues}
    (accepted : validatePattern engine limits compileRegex pattern = .ok ())
    (bounded : len (String.ofList (substituted macros (trim pattern.literal).toList)) <
      UInt64.size) :
    MacrosSound macros (trim pattern.literal) ↔
      Apart '\x7d' (keyTokens (trim pattern.literal).toList) ∧
      (macros.playerRoleLabel.toList = Macro.playerRoleLabel.text ∨
        ∀ stretch ∈ stretches macros (keyTokens (trim pattern.literal).toList),
          ¬ Macro.playerRoleLabel.text <:+: stretch) :=
  sound_iff_of_checked (validatePattern_ok accepted) bounded

namespace MacrosSound.Sample

def literals : RegexEngine where
  build := fun _ _ _ _ _ => .error .other

def limits : ActivationRuleLimits := ⟨8, 8, 256, 4096, 4, 64, 16⟩

def mira : ActivationMacroValues := ⟨"Mira", "guard"⟩

/-- A player who has named herself like the macro of the role. -/
def disguised : ActivationMacroValues := ⟨"\x7b\x7bplayer_role_label\x7d\x7d", "guard"⟩

def greeting : ActivationPattern := ⟨" hail \x7b\x7bplayer_name\x7d\x7d "⟩

def stray : ActivationPattern := ⟨"\x7d\x7d \x7b\x7bplayer_name\x7d\x7d"⟩

def named : ActivationPattern := ⟨"\x7b\x7bplayer_name\x7d\x7d"⟩

theorem greeting_sound : MacrosSound mira (trim greeting.literal) :=
  (@macros_sound_iff literals limits true greeting mira (by decide +kernel)
    (by decide +kernel)).mpr (by decide +kernel)

theorem stray_outside : ¬ InMacro (trim stray.literal).toList 0 := by
  rintro ⟨which, start, here, before, -⟩
  obtain rfl : start = 0 := Nat.le_zero.mp before
  revert here
  cases which <;> decide +kernel

/-- The check accepts closing braces in front of a macro, and it accepts the player's name where
the name is taken for another macro. -/
theorem accepted_unsound :
    (validatePattern literals limits true stray = .ok () ∧
      ¬ MacrosSound mira (trim stray.literal)) ∧
    validatePattern literals limits true named = .ok () ∧
      expandMacros disguised 1000 (trim named.literal) = .ok "guard" ∧
      ¬ MacrosSound disguised (trim named.literal) := by
  have expanded : expandMacros disguised 1000 (trim named.literal) = .ok "guard" := by
    decide +kernel
  refine ⟨⟨by decide +kernel, fun sound => ?_⟩, by decide +kernel, expanded, fun sound => ?_⟩
  · exact stray_outside (sound.braces 0 (.inr (by decide +kernel)))
  · have same := sound.expansion 1000
    rw [expanded] at same
    exact absurd same (by decide +kernel)

end MacrosSound.Sample

end Aise.Domain
