import Mathlib.Data.List.Sort
import Mathlib.Data.List.Perm.Basic

/-! Sorting by a rank that tells the elements apart. The result depends on the elements
only, not on the order they came in nor on what they are called. -/
namespace Sorting
variable {α β R : Type*} [LinearOrder R]

/-- `sort_by` on a rank. -/
abbrev sort (rank : α → R) (l : List α) : List α :=
  l.insertionSort fun left right => rank left ≤ rank right

theorem sort_pairwise (rank : α → R) (l : List α) :
    (sort rank l).Pairwise fun left right => rank left ≤ rank right := by
  have : Std.Total fun left right : α => rank left ≤ rank right :=
    ⟨fun left right => le_total (rank left) (rank right)⟩
  have : IsTrans α fun left right => rank left ≤ rank right :=
    ⟨fun _ _ _ first second => le_trans first second⟩
  exact List.pairwise_insertionSort _ _

/-- Renaming the elements, in any order, renames the sorted list. -/
theorem sort_map {rank : α → R} {other : β → R} {f : α → β} {l : List α} {m : List β}
    (agree : ∀ a, other (f a) = rank a) (apart : ∀ a ∈ l, ∀ b ∈ l, rank a = rank b → a = b)
    (perm : m.Perm (l.map f)) : sort other m = (sort rank l).map f := by
  have renamed : (sort other m).Perm ((sort rank l).map f) :=
    ((List.perm_insertionSort _ m).trans perm).trans
      ((List.perm_insertionSort _ l).symm.map f)
  refine renamed.eq_of_pairwise ?_ (sort_pairwise other m) ?_
  · intro a b inLeft inRight le ge
    obtain ⟨x, xIn, rfl⟩ := List.mem_map.mp (renamed.subset inLeft)
    obtain ⟨y, yIn, rfl⟩ := List.mem_map.mp inRight
    have same : rank x = rank y := by
      rw [← agree, ← agree]
      exact le_antisymm le ge
    rw [apart x ((List.mem_insertionSort _).mp xIn) y ((List.mem_insertionSort _).mp yIn) same]
  · rw [List.pairwise_map]
    refine (sort_pairwise rank l).imp ?_
    intro a b le
    rw [agree, agree]
    exact le

end Sorting
