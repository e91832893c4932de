import Mathlib.Order.Monotone.Basic

/-! An outbox that every step fills anew. Its keys tell the epoch that they come from, and the epoch
moves on whenever there is something in the outbox, so no key is ever in it twice. -/
namespace Outbox
variable {K : Type*}

/-- The batches of the states up to `length`, and the epochs of these states. -/
structure Stamped (batch : Nat → K → Prop) (epoch : Nat → Nat) (length : Nat) : Prop where
  stamped : ∀ n m key, n ≤ length → m ≤ length → batch n key → batch m key → epoch n = epoch m
  advances : ∀ n < length, epoch n ≤ epoch (n + 1)
  filled : ∀ n < length, ∀ key, batch (n + 1) key → epoch n < epoch (n + 1)

variable {batch : Nat → K → Prop} {epoch : Nat → Nat} {length : Nat}

theorem Stamped.le (outbox : Stamped batch epoch length) {n m : Nat} (later : n ≤ m)
    (inside : m ≤ length) : epoch n ≤ epoch m := by
  induction m, later using Nat.le_induction with
  | base => exact le_refl _
  | succ m _ ih => exact (ih (Nat.le_of_succ_le inside)).trans (outbox.advances m inside)

theorem Stamped.not_later (outbox : Stamped batch epoch length) {n m : Nat} {key : K}
    (later : n < m) (inside : m ≤ length) (first : batch n key) : ¬batch m key := by
  intro second
  obtain ⟨k, rfl⟩ := Nat.exists_eq_succ_of_ne_zero (Nat.ne_zero_of_lt later)
  have same := outbox.stamped n (k + 1) key (le_of_lt (later.trans_le inside)) inside first second
  have before := outbox.le (Nat.lt_succ_iff.mp later) (Nat.le_of_succ_le inside)
  have moved := outbox.filled k inside key second
  omega

/-- No key is in two batches. -/
theorem Stamped.unique (outbox : Stamped batch epoch length) {n m : Nat} {key : K}
    (insideFirst : n ≤ length) (inside : m ≤ length) (first : batch n key) (second : batch m key) :
    n = m := by
  rcases lt_trichotomy n m with earlier | same | later
  · exact absurd second (outbox.not_later earlier inside first)
  · exact same
  · exact absurd first (outbox.not_later later insideFirst second)

end Outbox
