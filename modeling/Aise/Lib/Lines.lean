import Mathlib.Data.List.DropRight

/-! Cutting a sequence into pieces that each end with a mark. What stands after the last mark is
kept until more arrives, and it does not matter how much arrives at a time. -/
namespace Lines
variable {α : Type*} [DecidableEq α] {mark : α}

/-- The pieces before each mark, and what follows the last mark. -/
def cut (mark : α) : List α → List (List α) × List α
  | [] => ([], [])
  | a :: rest =>
    if a = mark then ([] :: (cut mark rest).1, (cut mark rest).2)
    else match cut mark rest with
      | ([], last) => ([], a :: last)
      | (piece :: pieces, last) => ((a :: piece) :: pieces, last)

theorem cut_cons_mark (rest : List α) :
    cut mark (mark :: rest) = ([] :: (cut mark rest).1, (cut mark rest).2) := if_pos rfl

/-- What follows the last mark is cut together with what comes later. -/
theorem cut_append (xs ys : List α) :
    cut mark (xs ++ ys) =
      ((cut mark xs).1 ++ (cut mark ((cut mark xs).2 ++ ys)).1,
        (cut mark ((cut mark xs).2 ++ ys)).2) := by
  induction xs with
  | nil => rfl
  | cons a xs ih =>
    by_cases same : a = mark
    · subst same
      rw [List.cons_append, cut_cons_mark, cut_cons_mark, ih]
      rfl
    · rw [List.cons_append, cut, cut, if_neg same, if_neg same, ih]
      cases pieces : cut mark xs with
      | mk front last =>
        cases front with
        | nil =>
          dsimp only
          rw [List.nil_append, List.nil_append, List.cons_append, cut, if_neg same]
        | cons piece front => rfl

theorem rest_append (xs ys : List α) :
    (cut mark (xs ++ ys)).2 = (cut mark ((cut mark xs).2 ++ ys)).2 := by
  conv_lhs => rw [cut_append]

theorem cut_of_not_mem {xs : List α} (plain : mark ∉ xs) : cut mark xs = ([], xs) := by
  induction xs with
  | nil => rfl
  | cons a xs ih =>
    have other : a ≠ mark := fun same => plain (same ▸ List.mem_cons_self)
    rw [cut, if_neg other, ih fun member => plain (List.mem_cons_of_mem a member)]

theorem not_mem_cut (xs : List α) : mark ∉ (cut mark xs).2 := by
  induction xs with
  | nil => exact List.not_mem_nil
  | cons a xs ih =>
    by_cases same : a = mark
    · subst same
      rwa [cut_cons_mark]
    · rw [cut, if_neg same]
      cases pieces : cut mark xs with
      | mk front last =>
        rw [pieces] at ih
        cases front with
        | nil => exact List.not_mem_cons_of_ne_of_not_mem (Ne.symm same) ih
        | cons piece front => exact ih

theorem cut_terminated {xs : List α} (plain : mark ∉ xs) : cut mark (xs ++ [mark]) = ([xs], []) := by
  induction xs with
  | nil => exact cut_cons_mark []
  | cons a xs ih =>
    have other : a ≠ mark := fun same => plain (same ▸ List.mem_cons_self)
    rw [List.cons_append, cut, if_neg other, ih fun member => plain (List.mem_cons_of_mem a member)]

theorem cut_concat (xs : List α) (a : α) :
    cut mark (xs ++ [a]) =
      if a = mark then ((cut mark xs).1 ++ [(cut mark xs).2], [])
      else ((cut mark xs).1, (cut mark xs).2 ++ [a]) := by
  have plain : mark ∉ (cut mark xs).2 := not_mem_cut xs
  rw [cut_append]
  generalize (cut mark xs).2 = last at plain ⊢
  split
  · rename_i same
    subst same
    rw [cut_terminated plain]
  · rename_i other
    have still : mark ∉ last ++ [a] := by
      intro member
      rcases List.mem_append.mp member with inside | new
      · exact plain inside
      · exact other (List.mem_singleton.mp new).symm
    rw [cut_of_not_mem still, List.append_nil]

/-- What follows the last mark is the longest end without one. -/
theorem cut_rest (xs : List α) : (cut mark xs).2 = xs.rtakeWhile (· ≠ mark) := by
  induction xs using List.reverseRecOn with
  | nil => rfl
  | append_singleton xs a ih =>
    rw [cut_concat, List.rtakeWhile_concat]
    by_cases same : a = mark
    · rw [if_pos same, if_neg (by simpa using same)]
    · rw [if_neg same, if_pos (by simpa using same), ih]

/-! ### Pieces with their marks -/

/-- The pieces with the marks they end with. The last one may have none. -/
def splitInclusive (mark : α) : List α → List (List α)
  | [] => []
  | a :: rest =>
    if a = mark then [a] :: splitInclusive mark rest
    else match splitInclusive mark rest with
      | [] => [[a]]
      | piece :: pieces => (a :: piece) :: pieces

theorem flatten_splitInclusive (xs : List α) : (splitInclusive mark xs).flatten = xs := by
  induction xs with
  | nil => rfl
  | cons a xs ih =>
    unfold splitInclusive
    split
    · rw [List.flatten_cons, ih, List.singleton_append]
    · split
      · rename_i none
        rw [none] at ih
        rw [← ih]
        rfl
      · rename_i piece pieces some
        rw [some] at ih
        rw [List.flatten_cons, List.cons_append, ← List.flatten_cons, ih]

end Lines
