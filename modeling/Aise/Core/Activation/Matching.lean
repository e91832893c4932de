import Aise.Lib.Occurrence
import Aise.Core.Activation.Scan

/-! What the literal matching finds. A key that must stand as a whole word is looked for among
the occurrences of a search from the left, which can pass over the one that does. -/
namespace Aise
open Occurrence RustText

/-! ### Whole words -/

/-- No word character stands right in front of these positions or right behind them. -/
def Bounded (tables : CharTables) (haystack : List Char) (position behind : Nat) : Prop :=
  (∀ before, position = before + 1 → ∀ character, haystack[before]? = some character →
    isWordChar tables character = false) ∧
  ∀ character, haystack[behind]? = some character → isWordChar tables character = false

/-- The needle stands here as a whole word. -/
def WholeWordAt (tables : CharTables) (haystack needle : List Char) (position : Nat) : Prop :=
  At needle haystack position ∧ Bounded tables haystack position (position + needle.length)

/-- What `literal_count` asks of an occurrence. -/
def counts (tables : CharTables) (haystack needle : List Char) (wholeWords : Bool)
    (position : Nat) : Bool :=
  !wholeWords || (!(haystack.take position).getLast?.any (isWordChar tables) &&
    !(haystack.drop (position + needle.length)).head?.any (isWordChar tables))

theorem not_any_iff {α : Type} {holds : α → Bool} {found : Option α} :
    (!found.any holds) = true ↔ ∀ value, found = some value → holds value = false := by
  cases found with
  | none => simp
  | some value => simp

theorem counts_iff {tables : CharTables} {haystack needle : List Char} {position : Nat}
    (inside : position ≤ haystack.length) :
    counts tables haystack needle true position = true ↔
      Bounded tables haystack position (position + needle.length) := by
  simp only [counts, Bool.not_true, Bool.false_or, Bool.and_eq_true, not_any_iff, List.head?_drop,
    Bounded]
  refine and_congr_left fun _ => ?_
  cases position with
  | zero => simp
  | succ before =>
    have here := List.getElem?_eq_getElem (show before < haystack.length by omega)
    simp [List.getLast?_take, here]

/-- The matches of `match_indices` that pass the filter are counted. -/
theorem literalCountFrom_eq (tables : CharTables) (needle : List Char) (wholeWords : Bool)
    (front haystack : List Char) (skip : Nat) :
    literalCountFrom tables needle wholeWords front.getLast? skip haystack =
      ((matchIndicesFrom needle skip front.length haystack).filter
        (counts tables (front ++ haystack) needle wholeWords)).length := by
  induction haystack generalizing front skip with
  | nil => cases skip <;> rfl
  | cons character rest ih =>
    have later := ih (front ++ [character])
    simp only [List.getLast?_concat, List.length_append, List.length_singleton,
      List.append_assoc, List.singleton_append] at later
    cases skip with
    | succ skip => exact later skip
    | zero =>
      simp only [literalCountFrom, matchIndicesFrom]
      split
      next here =>
        have passes : counts tables (front ++ character :: rest) needle wholeWords front.length =
            (!wholeWords || (!front.getLast?.any (isWordChar tables) &&
              !((character :: rest).drop needle.length).head?.any (isWordChar tables))) := by
          rw [counts, List.take_left, List.drop_length_add_append]
        rw [later, List.filter_cons, passes]
        split
        next => simp [Nat.add_comm]
        next => simp
      next absent => exact later 0

theorem literalCount_eq (tables : CharTables) (haystack : String) {needle : String}
    (nonempty : needle.toList ≠ []) (wholeWords : Bool) :
    literalCount tables haystack needle wholeWords =
      ((matchIndices needle.toList haystack.toList).filter
        (counts tables haystack.toList needle.toList wholeWords)).length := by
  rw [literalCount, if_neg (by simpa using nonempty)]
  exact literalCountFrom_eq tables needle.toList wholeWords [] haystack.toList 0

/-- A whole word is counted where the search comes upon it. -/
theorem one_le_literalCount_iff (tables : CharTables) (haystack : String) {needle : String}
    (nonempty : needle.toList ≠ []) :
    1 ≤ literalCount tables haystack needle true ↔
      ∃ position, WholeWordAt tables haystack.toList needle.toList position ∧
        ¬ Hidden needle.toList haystack.toList position := by
  rw [literalCount_eq tables haystack nonempty, Nat.one_le_iff_ne_zero, ← Nat.pos_iff_ne_zero,
    List.length_pos_iff_exists_mem]
  refine exists_congr fun position => ?_
  rw [List.mem_filter, mem_matchIndices_iff nonempty, found_iff nonempty]
  constructor
  · rintro ⟨⟨here, seen⟩, good⟩
    have inside := here.inside nonempty
    exact ⟨⟨here, (counts_iff (by omega)).mp good⟩, seen⟩
  · rintro ⟨⟨here, bounded⟩, seen⟩
    have inside := here.inside nonempty
    exact ⟨⟨here, seen⟩, (counts_iff (by omega)).mpr bounded⟩

/-- Where the needle overlaps itself, a word character stands right before the later one. -/
def WordOverlaps (tables : CharTables) (needle : List Char) : Prop :=
  ∀ shift, shift + 1 < needle.length → needle.drop (shift + 1) <+: needle →
    ∀ character, needle[shift]? = some character → isWordChar tables character = true

/-- What hides a whole word ends in it, on a word character right before it. -/
theorem WordOverlaps.not_hidden {tables : CharTables} {haystack needle : List Char}
    (overlaps : WordOverlaps tables needle) {position : Nat}
    (word : WholeWordAt tables haystack needle position) : ¬ Hidden needle haystack position := by
  rintro ⟨earlier, found, before, within⟩
  obtain ⟨shift, rfl⟩ : ∃ shift, position = earlier + shift + 1 := ⟨position - earlier - 1, by omega⟩
  have inside : shift < needle.length := by omega
  have again := found.2.overlap word.1 (by omega)
  rw [show earlier + shift + 1 - earlier = shift + 1 by omega] at again
  have wordChar := overlaps shift (by omega) again _ (List.getElem?_eq_getElem inside)
  have there : haystack[earlier + shift]? = some needle[shift] := by
    rw [found.2.getElem? inside, List.getElem?_eq_getElem inside]
  rw [word.2.1 _ rfl _ there] at wordChar
  contradiction

/-- A word character, the needle up to a place in it, and the needle. -/
def spoiled (needle : List Char) (shift : Nat) : List Char :=
  '_' :: (needle.take shift ++ needle)

section
variable {tables : CharTables} {needle : List Char} {shift : Nat} {character : Char}

theorem spoiled_eq (overlap : needle.drop shift <+: needle) :
    ∃ rest, spoiled needle shift = '_' :: (needle ++ rest) := by
  obtain ⟨rest, again⟩ := overlap
  refine ⟨rest, ?_⟩
  rw [spoiled, ← List.take_append_drop shift needle, List.append_assoc, again,
    List.take_append_drop]

/-- Its first occurrence of the needle stands behind the word character. -/
theorem spoiled_first (overlap : needle.drop shift <+: needle) (member : character ∈ needle)
    (plain : isWordChar tables character = false) :
    Found needle (spoiled needle shift) 1 ∧ ¬ At needle (spoiled needle shift) 0 := by
  obtain ⟨rest, split⟩ := spoiled_eq overlap
  have notYet : ¬ At needle (spoiled needle shift) 0 := by
    intro here
    rw [split] at here
    rw [eq_of_prefix_cons here character member] at plain
    simp [isWordChar] at plain
  have here : At needle (spoiled needle shift) 1 := by
    rw [split]
    exact List.prefix_append needle rest
  refine ⟨(found_iff (List.ne_nil_of_mem member)).mpr ⟨here, ?_⟩, notYet⟩
  rintro ⟨earlier, found, before, _⟩
  obtain rfl : earlier = 0 := by omega
  exact notYet found.2

/-- The needle at its end is a whole word, and every whole word is hidden. -/
theorem spoiled_misses (inside : shift + 1 < needle.length)
    (overlap : needle.drop (shift + 1) <+: needle) (there : needle[shift]? = some character)
    (plain : isWordChar tables character = false) :
    WholeWordAt tables (spoiled needle (shift + 1)) needle (shift + 2) ∧
      ∀ position, WholeWordAt tables (spoiled needle (shift + 1)) needle position →
        Hidden needle (spoiled needle (shift + 1)) position := by
  have member := List.mem_of_getElem? there
  obtain ⟨first, notYet⟩ := spoiled_first overlap member plain
  have length : (spoiled needle (shift + 1)).length = shift + 2 + needle.length := by
    simp [spoiled]
    omega
  constructor
  · refine ⟨?_, ?_, ?_⟩
    · rw [At, spoiled, List.drop_succ_cons, List.drop_left' (by simp; omega)]
    · intro before same other here
      obtain rfl : before = shift + 1 := by omega
      rw [spoiled, List.getElem?_cons_succ, List.getElem?_append_left (by simp; omega),
        List.getElem?_take_of_lt (by omega), there] at here
      rwa [← Option.some.inj here]
    · intro other here
      rw [List.getElem?_eq_none length.le] at here
      contradiction
  · intro position word
    have reach := word.1.inside (List.ne_nil_of_mem member)
    rcases position with _ | _ | position
    · exact absurd word.1 notYet
    · have free := word.2.1 0 rfl '_' rfl
      simp [isWordChar] at free
    · exact ⟨1, first, by omega, by omega⟩

end

/-- The needle is counted as a whole word exactly when it stands as one somewhere. -/
def WholeWordsFound (tables : CharTables) (haystack needle : String) : Prop :=
  1 ≤ literalCount tables haystack needle true ↔
    ∃ position, WholeWordAt tables haystack.toList needle.toList position

theorem wholeWordsFound_iff (tables : CharTables) (haystack : String) {needle : String}
    (nonempty : needle.toList ≠ []) :
    WholeWordsFound tables haystack needle ↔
      ((∃ position, WholeWordAt tables haystack.toList needle.toList position) →
        ∃ position, WholeWordAt tables haystack.toList needle.toList position ∧
          ¬ Hidden needle.toList haystack.toList position) := by
  rw [WholeWordsFound, one_le_literalCount_iff tables haystack nonempty]
  constructor
  · exact fun found => found.mpr
  · exact fun shown => ⟨fun ⟨position, word, _⟩ => ⟨position, word⟩, shown⟩

/-- A whole word is missed when occurrences found before reach over every one there is. A key can
miss one only if it overlaps itself behind a character that is not a word character. -/
theorem whole_words_found_iff (tables : CharTables) (needle : String) (nonempty : needle ≠ "") :
    (∀ haystack, WholeWordsFound tables haystack needle ↔
      ((∃ position, WholeWordAt tables haystack.toList needle.toList position) →
        ∃ position, WholeWordAt tables haystack.toList needle.toList position ∧
          ¬ Hidden needle.toList haystack.toList position)) ∧
    ((∀ haystack, WholeWordsFound tables haystack needle) ↔
      WordOverlaps tables needle.toList) := by
  have nonempty : needle.toList ≠ [] := by
    rwa [Ne, String.toList_eq_nil_iff]
  refine ⟨fun haystack => wholeWordsFound_iff tables haystack nonempty, ?_, ?_⟩
  · intro found shift inside overlap character there
    by_contra plain
    rw [Bool.not_eq_true] at plain
    obtain ⟨word, hidden⟩ := spoiled_misses inside overlap there plain
    have text := (wholeWordsFound_iff tables
      (String.ofList (spoiled needle.toList (shift + 1))) nonempty).mp (found _)
    rw [String.toList_ofList] at text
    obtain ⟨position, seen, notHidden⟩ := text ⟨_, word⟩
    exact notHidden (hidden position seen)
  · intro overlaps haystack
    rw [wholeWordsFound_iff tables haystack nonempty]
    rintro ⟨position, word⟩
    exact ⟨position, word, overlaps.not_hidden word⟩

namespace Sample

def asciiTables : CharTables := ⟨fun c => [c.toLower], Char.isAlphanum⟩

/-- This key overlaps itself behind a letter only. -/
theorem haha_found : WholeWordsFound asciiTables "ahaha haha" "haha" := by
  refine (whole_words_found_iff asciiTables "haha" (by decide)).2.mpr ?_ "ahaha haha"
  intro shift inside overlap character there
  have few : shift < 3 := Nat.lt_of_succ_lt_succ inside
  obtain rfl | rfl | rfl : shift = 0 ∨ shift = 1 ∨ shift = 2 := by omega
  · exact absurd overlap (by decide)
  · obtain rfl : 'a' = character := Option.some.inj there
    decide
  · exact absurd overlap (by decide)

/-- The search comes upon the first two laughs, and goes on behind them. -/
theorem laughter_missed : ¬ WholeWordsFound asciiTables "aha ha ha" "ha ha" := by
  intro found
  have counted := found.mpr ⟨4, by decide, (counts_iff (by decide)).mp (by decide)⟩
  exact absurd counted (by decide)

end Sample
end Aise
