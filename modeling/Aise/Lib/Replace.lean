import Aise.Lib.Occurrence
import Aise.Lib.Text

/-! What `str::find` and `str::replace` make of a text: nothing changes where the pattern does not
begin, and a pattern that does not overlap itself splits the text at each of its occurrences. -/
namespace RustText
open Occurrence
variable {pattern value : List Char}

theorem contains_iff {text : List Char} : contains pattern text = true ↔ pattern <:+: text := by
  rw [contains]
  induction text with
  | nil => cases pattern <;> simp [find]
  | cons c rest ih =>
    rw [find, List.infix_cons_iff, ← ih, ← List.isPrefixOf_iff_prefix]
    cases pattern.isPrefixOf (c :: rest) <;> simp

theorem find_some {text before found : List Char} (search : find pattern text = some (before, found)) :
    text = before ++ found ∧ pattern <+: found := by
  induction text generalizing before with
  | nil => 
    cases pattern with
    | nil => simp_all [find]
    | cons => simp [find] at search
  | cons c rest ih =>
    rw [find] at search
    split at search
    next here =>
      obtain ⟨rfl, rfl⟩ := Prod.mk.inj (Option.some.inj search)
      exact ⟨rfl, List.isPrefixOf_iff_prefix.mp here⟩
    next =>
      obtain ⟨⟨front, back⟩, further, same⟩ := Option.map_eq_some_iff.mp search
      obtain ⟨rfl, rfl⟩ := Prod.mk.inj same
      obtain ⟨split, here⟩ := ih further
      exact ⟨by rw [split, List.cons_append], here⟩

/-! ### Replacing -/

theorem replaceFrom_eq (skip : Nat) (text : List Char) :
    replaceFrom pattern value skip text = replace pattern value (text.drop skip) := by
  induction text generalizing skip with
  | nil => simp [replace, replaceFrom]
  | cons c rest ih =>
    cases skip with
    | zero => rfl
    | succ skip => simpa only [replaceFrom, List.drop_succ_cons] using ih skip

theorem replace_cons {c : Char} {rest : List Char} (absent : ¬ pattern <+: c :: rest) :
    replace pattern value (c :: rest) = c :: replace pattern value rest := by
  have differs : pattern.isPrefixOf (c :: rest) = false := by
    rwa [← Bool.not_eq_true, List.isPrefixOf_iff_prefix]
  rw [replace, replaceFrom, differs]
  rfl

theorem replace_pattern (nonempty : pattern ≠ []) (rest : List Char) :
    replace pattern value (pattern ++ rest) = value ++ replace pattern value rest := by
  obtain ⟨first, others, rfl⟩ := List.exists_cons_of_ne_nil nonempty
  have here : (first :: others).isPrefixOf (first :: (others ++ rest)) = true := by
    rw [List.isPrefixOf_iff_prefix]
    exact List.prefix_append (first :: others) rest
  rw [List.cons_append, replace, replaceFrom, if_pos here, replaceFrom_eq]
  simp

theorem replace_append {front rest : List Char}
    (absent : ∀ position < front.length, ¬ At pattern (front ++ rest) position) :
    replace pattern value (front ++ rest) = front ++ replace pattern value rest := by
  induction front with
  | nil => rfl
  | cons c front ih =>
    have first : ¬ pattern <+: c :: (front ++ rest) := absent 0 (Nat.succ_pos _)
    rw [List.cons_append, replace_cons first, ih, List.cons_append]
    intro position inside
    exact absent (position + 1) (Nat.succ_lt_succ inside)

theorem replace_absent {text : List Char} (absent : ¬ pattern <:+: text) :
    replace pattern value text = text := by
  have whole : replace pattern value (text ++ []) = text ++ replace pattern value [] :=
    replace_append fun position _ here => absent (by rw [List.append_nil] at here; exact here.infix)
  simpa [replace, replaceFrom] using whole

theorem replace_self (nonempty : pattern ≠ []) (text : List Char) :
    replace pattern pattern text = text := by
  induction size : text.length using Nat.strong_induction_on generalizing text with
  | _ size ih =>
    subst size
    cases text with
    | nil => rfl
    | cons c rest =>
      by_cases here : pattern <+: c :: rest
      · obtain ⟨back, split⟩ := here
        have shorter : back.length < (c :: rest).length := by
          have := List.length_pos_of_ne_nil nonempty
          rw [← split, List.length_append]
          omega
        rw [← split, replace_pattern nonempty, ih _ shorter back rfl]
      · rw [replace_cons here, ih _ (Nat.lt_succ_self _) rest rfl]

/-! ### Patterns that do not overlap themselves -/

/-- No end of the pattern is also its beginning. -/
def Borderless (pattern : List Char) : Prop :=
  ∀ place < pattern.length, 0 < place → ¬ pattern.drop place <+: pattern

instance : Decidable (Borderless pattern) :=
  inferInstanceAs (Decidable (∀ place < pattern.length, 0 < place → _))

/-- In front of an occurrence the pattern only begins where it also ends. -/
theorem Borderless.prefix_front (borderless : Borderless pattern) {front rest : List Char}
    (nonempty : front ≠ []) (here : pattern <+: front ++ (pattern ++ rest)) :
    pattern <+: front := by
  by_contra! absent
  have short : front.length < pattern.length := by
    by_contra! long
    exact absent (List.prefix_of_prefix_length_le here (List.prefix_append front _) long)
  obtain ⟨overlap, split⟩ :=
    List.prefix_of_prefix_length_le (List.prefix_append front _) here short.le
  have behind : overlap <+: pattern ++ rest :=
    (List.prefix_append_right_inj front).mp (by rwa [split])
  have border : overlap <+: pattern :=
    List.prefix_of_prefix_length_le behind (List.prefix_append pattern rest) (by simp [← split])
  refine borderless front.length short (List.length_pos_of_ne_nil nonempty) ?_
  rwa [show pattern.drop front.length = overlap by rw [← split, List.drop_left]]

section
variable (nonempty : pattern ≠ []) (borderless : Borderless pattern)
include nonempty borderless

/-- An occurrence of the pattern cuts the text in two that do not see each other. -/
theorem replace_split (front rest : List Char) :
    replace pattern value (front ++ (pattern ++ rest)) =
      replace pattern value front ++ (value ++ replace pattern value rest) := by
  induction size : front.length using Nat.strong_induction_on generalizing front with
  | _ size ih =>
    subst size
    cases front with
    | nil => exact replace_pattern nonempty rest
    | cons c front =>
      by_cases here : pattern <+: c :: front
      · obtain ⟨back, split⟩ := here
        have shorter : back.length < (c :: front).length := by
          have := List.length_pos_of_ne_nil nonempty
          rw [← split, List.length_append]
          omega
        rw [← split, List.append_assoc, replace_pattern nonempty, ih _ shorter back rfl,
          replace_pattern nonempty, List.append_assoc]
      · have absent : ¬ pattern <+: c :: (front ++ (pattern ++ rest)) :=
          fun long => here (borderless.prefix_front (List.cons_ne_nil c front) long)
        rw [List.cons_append, replace_cons absent, ih _ (Nat.lt_succ_self _) front rfl,
          replace_cons here, List.cons_append]

theorem replace_intercalate (stretches : List (List Char)) :
    replace pattern value (pattern.intercalate stretches) =
      value.intercalate (stretches.map (replace pattern value)) := by
  induction stretches with
  | nil => rfl
  | cons stretch others ih =>
    cases others with
    | nil => simp
    | cons next others =>
      rw [List.intercalate_cons_cons, List.append_assoc, replace_split nonempty borderless, ih]
      simp only [List.map_cons, List.intercalate_cons_cons, List.append_assoc]

/-- Each occurrence that is replaced changes the length by as much. -/
theorem length_replace (text : List Char) : ∃ count,
    (replace pattern value text).length + count * pattern.length =
      text.length + count * value.length ∧ (count = 0 → ¬ pattern <:+: text) := by
  induction size : text.length using Nat.strong_induction_on generalizing text with
  | _ size ih =>
    subst size
    by_cases present : pattern <:+: text
    · obtain ⟨front, rest, rfl⟩ := present
      rw [List.append_assoc]
      have positive := List.length_pos_of_ne_nil nonempty
      obtain ⟨before, first, -⟩ := ih front.length (by simp; omega) front rfl
      obtain ⟨behind, second, -⟩ := ih rest.length (by simp; omega) rest rfl
      refine ⟨before + 1 + behind, ?_, fun none => by omega⟩
      simp only [replace_split nonempty borderless, List.length_append, Nat.add_mul, Nat.one_mul]
      omega
    · exact ⟨0, by simp [replace_absent present], fun _ => present⟩

theorem length_intercalate_replace (stretches : List (List Char)) : ∃ count,
    (value.intercalate (stretches.map (replace pattern value))).length + count * pattern.length =
      (value.intercalate stretches).length + count * value.length ∧
    (count = 0 → ∀ stretch ∈ stretches, ¬ pattern <:+: stretch) := by
  induction stretches with
  | nil => exact ⟨0, by simp, fun _ _ member => absurd member List.not_mem_nil⟩
  | cons stretch others ih =>
    obtain ⟨first, length, absent⟩ := @length_replace pattern value nonempty borderless stretch
    obtain ⟨rest, lengths, absents⟩ := ih
    cases others with
    | nil =>
      refine ⟨first, by simpa using length, fun none => ?_⟩
      rintro _ (_ | ⟨_, ⟨⟩⟩)
      exact absent none
    | cons next others =>
      refine ⟨first + rest, ?_, fun none => ?_⟩
      · simp only [List.map_cons, List.intercalate_cons_cons, List.length_append,
          Nat.add_mul] at lengths ⊢
        omega
      · rintro _ (_ | ⟨_, member⟩)
        · exact absent (by omega)
        · exact absents (by omega) _ member

theorem length_replace_of_eq (same : pattern.length = value.length) (text : List Char) :
    (replace pattern value text).length = text.length := by
  obtain ⟨count, length, -⟩ := @length_replace pattern value nonempty borderless text
  rw [same] at length
  exact Nat.add_right_cancel length

/-- A value of the pattern's length that changes nothing is the pattern itself. -/
theorem eq_of_replace_eq_self (same : pattern.length = value.length) {text : List Char}
    (unchanged : replace pattern value text = text) (present : pattern <:+: text) :
    value = pattern := by
  obtain ⟨front, rest, rfl⟩ := present
  rw [List.append_assoc, replace_split nonempty borderless] at unchanged
  have back := List.append_inj_right unchanged
    (length_replace_of_eq nonempty borderless same front)
  exact List.append_inj_left back same.symm

end

theorem stretches_eq_of_intercalate_eq {stretches : List (List Char)}
    {change : List Char → List Char}
    (lengths : ∀ stretch ∈ stretches, (change stretch).length = stretch.length)
    (same : value.intercalate (stretches.map change) = value.intercalate stretches) :
    ∀ stretch ∈ stretches, change stretch = stretch := by
  induction stretches with
  | nil => simp
  | cons stretch others ih =>
    have first := lengths stretch List.mem_cons_self
    cases others with
    | nil => simpa using same
    | cons next others =>
      simp only [List.map_cons, List.intercalate_cons_cons, List.append_assoc] at same ih
      have here := List.append_inj same first
      rintro _ (_ | ⟨_, member⟩)
      · exact here.1
      · exact ih (fun _ inside => lengths _ (List.mem_cons_of_mem _ inside))
          (List.append_cancel_left here.2) _ member

section
variable (nonempty : pattern ≠ []) (borderless : Borderless pattern)
include nonempty borderless

/-- Replacing the pattern between stretches of text leaves the stretches as they are exactly
when it is replaced by itself or stands in none of them. -/
theorem replace_intercalate_eq_iff (stretches : List (List Char)) :
    replace pattern value (pattern.intercalate stretches) = value.intercalate stretches ↔
      value = pattern ∨ ∀ stretch ∈ stretches, ¬ pattern <:+: stretch := by
  rw [replace_intercalate nonempty borderless]
  constructor
  · intro same
    obtain ⟨count, length, absent⟩ :=
      @length_intercalate_replace pattern value nonempty borderless stretches
    rw [same] at length
    rcases Nat.eq_zero_or_pos count with none | some
    · exact .inr (absent none)
    · have width : pattern.length = value.length :=
        Nat.eq_of_mul_eq_mul_left some (Nat.add_left_cancel length)
      have unchanged := stretches_eq_of_intercalate_eq
        (fun stretch _ => length_replace_of_eq nonempty borderless width stretch) same
      by_contra! present
      obtain ⟨differs, stretch, member, inside⟩ := present
      exact differs
        (eq_of_replace_eq_self nonempty borderless width (unchanged stretch member) inside)
  · rintro (rfl | absent)
    · rw [List.map_congr_left fun stretch _ => replace_self nonempty stretch, List.map_id']
    · rw [List.map_congr_left fun stretch member => replace_absent (absent stretch member),
        List.map_id']

end

end RustText
