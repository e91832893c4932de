import Mathlib.Data.List.Nodup

/-! Identifiers with numbers. Those that are given out take numbers above a high water, which rises
with them; then no identifier is given out twice. -/
namespace Numbering

variable {α : Type*} {number : α → Option Nat} {ids new : List α} {water next : Nat}

/-- Identifiers that were given out so far: no two are the same, and none is above the high water. -/
structure Covered (number : α → Option Nat) (ids : List α) (water : Nat) : Prop where
  below : ∀ id ∈ ids, ∃ sequence, number id = some sequence ∧ sequence ≤ water
  once : ids.Nodup

/-- Identifiers that are given out between two high waters. -/
structure Granted (number : α → Option Nat) (water : Nat) (new : List α) (next : Nat) : Prop where
  rises : water ≤ next
  between : ∀ id ∈ new, ∃ sequence, number id = some sequence ∧ water < sequence ∧ sequence ≤ next
  once : new.Nodup

theorem Covered.nil : Covered number [] water :=
  ⟨fun _ member => absurd member List.not_mem_nil, .nil⟩

theorem Granted.nil (rises : water ≤ next) : Granted number water [] next :=
  ⟨rises, fun _ member => absurd member List.not_mem_nil, .nil⟩

theorem Covered.append (covered : Covered number ids water) (granted : Granted number water new next) :
    Covered number (ids ++ new) next := by
  constructor
  · intro id member
    rcases List.mem_append.mp member with before | added
    · obtain ⟨sequence, numbered, below⟩ := covered.below id before
      exact ⟨sequence, numbered, Nat.le_trans below granted.rises⟩
    · obtain ⟨sequence, numbered, -, below⟩ := granted.between id added
      exact ⟨sequence, numbered, below⟩
  · refine List.nodup_append'.mpr ⟨covered.once, granted.once, ?_⟩
    intro id before added
    obtain ⟨sequence, numbered, below⟩ := covered.below id before
    obtain ⟨other, again, above, -⟩ := granted.between id added
    cases numbered.symm.trans again
    omega

end Numbering
