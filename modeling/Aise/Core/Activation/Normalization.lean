import Aise.Core.Ids
import Aise.Core.Activation.Matching

/-! Normalized text: runs of whitespace become one space, and letters become lowercase unless
case matters. What stands in a text stands in the normalized text too. -/
namespace Aise
open Occurrence RustText

/-- What `char::to_lowercase` is trusted with: it leaves something of a visible character. -/
def CharTables.LowercaseVisible (tables : CharTables) : Prop :=
  ∀ character, isWhitespace character = false → tables.toLowercase character ≠ []

section
variable {tables : CharTables} {caseSensitive : Bool}

/-- What a visible character adds. -/
def emitted (tables : CharTables) (caseSensitive : Bool) (character : Char) : List Char :=
  if caseSensitive then [character] else tables.toLowercase character

theorem emitted_ne_nil (visible : tables.LowercaseVisible) {character : Char}
    (seen : isWhitespace character = false) : emitted tables caseSensitive character ≠ [] := by
  cases caseSensitive with
  | false => exact visible character seen
  | true => exact List.cons_ne_nil _ _

theorem normalizeChar_whitespace (state : List Char × Bool) {character : Char}
    (blank : isWhitespace character = true) :
    normalizeChar tables caseSensitive state character = (state.1, !state.1.isEmpty) := by
  simp [normalizeChar, blank]

theorem normalizeChar_visible (state : List Char × Bool) {character : Char}
    (seen : isWhitespace character = false) :
    normalizeChar tables caseSensitive state character =
      (state.1 ++ (if state.2 then [' '] else []) ++ emitted tables caseSensitive character,
        false) := by
  obtain ⟨normalized, pendingSpace⟩ := state
  cases pendingSpace <;> simp [normalizeChar, seen, emitted]

/-- What was written before plays no part once something stands behind it. -/
theorem normalizeChar_append (front : List Char) {state : List Char × Bool} (begun : state.1 ≠ [])
    (character : Char) :
    normalizeChar tables caseSensitive (front ++ state.1, state.2) character =
        (front ++ (normalizeChar tables caseSensitive state character).1,
          (normalizeChar tables caseSensitive state character).2) ∧
      (normalizeChar tables caseSensitive state character).1 ≠ [] := by
  cases blank : isWhitespace character with
  | true =>
    simp only [normalizeChar_whitespace _ blank]
    have longer : front ++ state.1 ≠ [] := by simp [begun]
    rw [List.isEmpty_eq_false_iff.mpr begun, List.isEmpty_eq_false_iff.mpr longer]
    exact ⟨rfl, begun⟩
  | false =>
    simp only [normalizeChar_visible _ blank]
    simp [begun]

theorem normalizeFrom_append (tables : CharTables) (caseSensitive : Bool) (front : List Char)
    {state : List Char × Bool} (begun : state.1 ≠ []) (text : List Char) :
    text.foldl (normalizeChar tables caseSensitive) (front ++ state.1, state.2) =
      (front ++ (text.foldl (normalizeChar tables caseSensitive) state).1,
        (text.foldl (normalizeChar tables caseSensitive) state).2) := by
  induction text generalizing state with
  | nil => rfl
  | cons character rest ih =>
    obtain ⟨same, still⟩ := normalizeChar_append front begun character
    rw [List.foldl_cons, same, ih still]
    rfl

/-- Nothing that was written is taken back. -/
theorem normalizeFrom_extends (tables : CharTables) (caseSensitive : Bool)
    (state : List Char × Bool) (text : List Char) :
    state.1 <+: (text.foldl (normalizeChar tables caseSensitive) state).1 := by
  induction text generalizing state with
  | nil => exact List.prefix_rfl
  | cons character rest ih =>
    refine List.IsPrefix.trans ?_ (ih _)
    cases blank : isWhitespace character with
    | true => rw [normalizeChar_whitespace _ blank]
    | false =>
      rw [normalizeChar_visible _ blank, List.append_assoc]
      exact List.prefix_append _ _

/-- A part of a text that begins with a visible character is normalized there as it is alone. -/
theorem normalize_infix (visible : tables.LowercaseVisible) {character : Char}
    (seen : isWhitespace character = false) (front key back : List Char) :
    ((character :: key).foldl (normalizeChar tables caseSensitive) ([], false)).1 <:+:
      ((front ++ (character :: key) ++ back).foldl
        (normalizeChar tables caseSensitive) ([], false)).1 := by
  rw [List.foldl_append, List.foldl_append, List.foldl_cons, List.foldl_cons,
    normalizeChar_visible _ seen, normalizeChar_visible _ seen]
  generalize front.foldl (normalizeChar tables caseSensitive) ([], false) = before
  have begun : (emitted tables caseSensitive character, false).1 ≠ [] :=
    emitted_ne_nil visible seen
  have alone := normalizeFrom_append tables caseSensitive (before.1 ++ if before.2 then [' '] else [])
    begun key
  dsimp only at alone
  rw [alone, List.nil_append, if_neg (by simp), List.nil_append]
  refine List.IsInfix.trans ?_ (normalizeFrom_extends tables caseSensitive _ back).isInfix
  exact (List.suffix_append _ _).isInfix

/-! ### With and without case -/

/-- What a character of the text normalized with case is without it. -/
def lowered (tables : CharTables) (character : Char) : List Char :=
  if isWhitespace character then [character] else tables.toLowercase character

theorem lowered_ne_nil (visible : tables.LowercaseVisible) (character : Char) :
    lowered tables character ≠ [] := by
  rw [lowered]
  split
  · exact List.cons_ne_nil _ _
  next seen => exact visible character (by simpa using seen)

theorem flatMap_lowered_isEmpty (visible : tables.LowercaseVisible) (text : List Char) :
    (text.flatMap (lowered tables)).isEmpty = text.isEmpty := by
  cases text with
  | nil => rfl
  | cons character rest => simp [lowered_ne_nil visible]

theorem normalizeFrom_lowered (visible : tables.LowercaseVisible) (state : List Char × Bool)
    (text : List Char) :
    text.foldl (normalizeChar tables false) (state.1.flatMap (lowered tables), state.2) =
      ((text.foldl (normalizeChar tables true) state).1.flatMap (lowered tables),
        (text.foldl (normalizeChar tables true) state).2) := by
  induction text generalizing state with
  | nil => rfl
  | cons character rest ih =>
    rw [List.foldl_cons, List.foldl_cons, ← ih]
    congr 1
    cases blank : isWhitespace character with
    | true =>
      rw [normalizeChar_whitespace _ blank, normalizeChar_whitespace _ blank,
        flatMap_lowered_isEmpty visible]
    | false =>
      rw [normalizeChar_visible _ blank, normalizeChar_visible _ blank]
      have space : lowered tables ' ' = [' '] := rfl
      have here : lowered tables character = tables.toLowercase character := by
        rw [lowered, if_neg (by simp [blank])]
      cases state.2 <;> simp [emitted, space, here]

/-! ### Once is enough -/

/-- Normalizing what is written again gives the same, and leaves no space to come. -/
theorem normalizeFrom_again (tables : CharTables) (text : List Char) :
    let state := text.foldl (normalizeChar tables true) ([], false)
    state.1.foldl (normalizeChar tables true) ([], false) = (state.1, false) ∧
      (state.2 = true → state.1 ≠ []) := by
  induction text using List.reverseRecOn with
  | nil => simp
  | append_singleton text character ih =>
    obtain ⟨again, begun⟩ := ih
    simp only [List.foldl_append, List.foldl_cons, List.foldl_nil]
    generalize text.foldl (normalizeChar tables true) ([], false) = state at again begun
    cases blank : isWhitespace character with
    | true =>
      rw [normalizeChar_whitespace _ blank]
      exact ⟨again, by simp⟩
    | false =>
      rw [normalizeChar_visible _ blank]
      cases pending : state.2 with
      | false => simp [again, normalizeChar_visible _ blank, emitted]
      | true =>
        have space : isWhitespace ' ' = true := rfl
        simp [again, begun pending, normalizeChar_visible _ blank, normalizeChar_whitespace _ space,
          emitted]

end

/-! ### Keys -/

theorem trim_visible {text : String} (notBlank : isBlank text = false) :
    ∃ character rest, (trim text).toList = character :: rest ∧
      isWhitespace character = false := by
  have shown : (trim text).toList ≠ [] := by
    rw [Ne, String.toList_eq_nil_iff]
    simpa [isBlank] using notBlank
  rw [trim, String.toList_ofList] at shown
  obtain ⟨behind, split⟩ :=
    List.rdropWhile_prefix isWhitespace (text.toList.dropWhile isWhitespace)
  obtain ⟨character, rest, kept⟩ := List.exists_cons_of_ne_nil shown
  refine ⟨character, rest, by rw [trim, String.toList_ofList, kept], ?_⟩
  rw [kept, List.cons_append] at split
  have first := List.head?_dropWhile_not isWhitespace text.toList
  rw [← split] at first
  exact first

theorem trimmedText_ok {value limitName : String} {maximumBytes : Nat} {empty : CoreError}
    {tooLong : Nat → Nat → CoreError} {text : BoundedText}
    (made : trimmedText value limitName maximumBytes empty tooLong = .ok text) :
    isBlank value = false ∧ text.value = trim value := by
  rw [trimmedText, BoundedText.tryNew] at made
  split at made
  next => exact absurd made (by simp)
  next shown =>
    refine ⟨by simpa using shown, ?_⟩
    by_cases long : len (trim value) > maximumBytes
    · rw [if_pos long] at made
      dsimp only at made
      split at made <;> exact absurd made (by simp)
    · rw [if_neg long] at made
      cases made
      rfl

/-- A key begins with a visible character. -/
theorem ActivationKey.visible (key : ActivationKey) :
    ∃ character rest, key.text.value.toList = character :: rest ∧
      isWhitespace character = false := by
  obtain ⟨value, made⟩ := key.constructed
  obtain ⟨notBlank, trimmed⟩ := trimmedText_ok made
  rw [trimmed]
  exact trim_visible notBlank

theorem literalCount_any (tables : CharTables) (haystack : String) {needle : String}
    (nonempty : needle.toList ≠ []) :
    literalCount tables haystack needle false =
      (matchIndices needle.toList haystack.toList).length := by
  rw [literalCount_eq tables haystack nonempty]
  congr 1
  exact List.filter_eq_self.mpr fun _ _ => rfl

theorem normalizeText_lowered {tables : CharTables} (visible : tables.LowercaseVisible)
    (text : String) :
    (normalizeText tables text false).toList =
      (normalizeText tables text true).toList.flatMap (lowered tables) := by
  rw [normalizeText, normalizeText, String.toList_ofList, String.toList_ofList]
  exact congrArg Prod.fst (normalizeFrom_lowered visible ([], false) text.toList)

/-- The normalized key stands in the normalized text where the key stood in the text, and
without case it is found at least as often. -/
theorem normalization_keeps_matches (tables : CharTables) (visible : tables.LowercaseVisible)
    (kind : ScanFragmentKind) (depth : UInt16) (text : String) (key : ActivationKey) :
    (key.text.value.toList <:+: text.toList → ∀ caseSensitive,
      1 ≤ (ScanFragment.new tables kind depth text).count tables
        (normalizeText tables key.text.value caseSensitive) caseSensitive false) ∧
    (ScanFragment.new tables kind depth text).count tables
        (normalizeText tables key.text.value true) true false ≤
      (ScanFragment.new tables kind depth text).count tables
        (normalizeText tables key.text.value false) false false ∧
    normalizeText tables (normalizeText tables text true) true =
      normalizeText tables text true := by
  obtain ⟨character, rest, split, seen⟩ := key.visible
  have nonempty (caseSensitive : Bool) :
      (normalizeText tables key.text.value caseSensitive).toList ≠ [] := by
    rw [normalizeText, String.toList_ofList, split, List.foldl_cons]
    intro nothing
    have written := normalizeFrom_extends tables caseSensitive
      (normalizeChar tables caseSensitive ([], false) character) rest
    rw [nothing, List.prefix_nil, normalizeChar_visible _ seen] at written
    exact emitted_ne_nil visible seen (List.append_eq_nil_iff.mp written).2
  refine ⟨?_, ?_, ?_⟩
  · rintro ⟨front, back, whole⟩ caseSensitive
    rw [ScanFragment.count, ScanFragment.new_haystack, literalCount_any _ _ (nonempty _),
      ← room_iff (nonempty _), Room.one_iff, normalizeText, normalizeText, ← whole, split,
      String.toList_ofList, String.toList_ofList]
    exact normalize_infix visible seen front rest back
  · rw [ScanFragment.count, ScanFragment.new_haystack, ScanFragment.count,
      ScanFragment.new_haystack, literalCount_any _ _ (nonempty _),
      literalCount_any _ _ (nonempty _), ← room_iff (nonempty _), normalizeText_lowered visible,
      normalizeText_lowered visible]
    exact ((room_iff (nonempty _)).mpr le_rfl).flatMap _
  · rw [normalizeText, normalizeText, String.toList_ofList]
    rw [(normalizeFrom_again tables text.toList).1]

namespace Sample

def oldMill : ActivationKey := ⟨⟨"Old  Mill"⟩, " Old  Mill\t", by decide⟩

theorem asciiTables_visible : asciiTables.LowercaseVisible := fun character _ =>
  List.cons_ne_nil character.toLower []

theorem old_mill_kept :
    (∀ caseSensitive, 1 ≤ (ScanFragment.new asciiTables .recentStory 1 "The\nOld  Mill").count
      asciiTables (normalizeText asciiTables oldMill.text.value caseSensitive) caseSensitive
      false) ∧
    normalizeText asciiTables (normalizeText asciiTables "The\nOld  Mill" true) true =
      normalizeText asciiTables "The\nOld  Mill" true := by
  have kept := normalization_keeps_matches asciiTables asciiTables_visible .recentStory 1
    "The\nOld  Mill" oldMill
  exact ⟨kept.1 (by decide), kept.2.2⟩

end Sample
end Aise
