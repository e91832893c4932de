import Mathlib.Data.Nat.Find

/-! The longest prefix of a list that fits. -/
namespace Prefix
variable {α : Type*} (fits : List α → Prop) [DecidablePred fits]

def longest (items : List α) : List α :=
  items.take (Nat.findGreatest (fun count => fits (items.take count)) items.length)

variable {fits} {items : List α} {count : Nat}

theorem fits_longest (empty : fits []) : fits (longest fits items) := by
  have greatest := Nat.findGreatest_spec (P := fun count => fits (items.take count))
    (Nat.zero_le items.length) (by simpa using empty)
  exact greatest

/-- A prefix that fits is the longest one where no longer one fits. -/
theorem longest_eq_take (bounded : count ≤ items.length) (fitting : fits (items.take count))
    (longer : ∀ more, count < more → more ≤ items.length → ¬fits (items.take more)) :
    longest fits items = items.take count := by
  have greatest : Nat.findGreatest (fun count => fits (items.take count)) items.length = count := by
    rw [Nat.findGreatest_eq_iff]
    exact ⟨bounded, fun _ => fitting, fun more above within => longer more above within⟩
  rw [longest, greatest]

end Prefix
