import Mathlib.Data.Nat.Basic
import Mathlib.Tactic.Common

/-! Saturating arithmetic on fixed-width unsigned integers: a result that does not fit is
replaced by the largest value that does, or by zero. -/
namespace Saturating

/-- The largest `u64`. -/
def max64 : Nat := UInt64.size - 1

/-- `u64::try_from(value).unwrap_or(u64::MAX)`. -/
def clamp64 (value : Nat) : UInt64 := UInt64.ofNat (min value max64)

def clamp32 (value : Nat) : UInt32 := UInt32.ofNat (min value (UInt32.size - 1))

def clamp16 (value : Nat) : UInt16 := UInt16.ofNat (min value (UInt16.size - 1))

def add (a b : UInt64) : UInt64 := clamp64 (a.toNat + b.toNat)

def sub (a b : UInt64) : UInt64 := clamp64 (a.toNat - b.toNat)

def mul (a b : UInt64) : UInt64 := clamp64 (a.toNat * b.toNat)

/-- `value.saturating_add(1)` of a `u16`. -/
def next16 (value : UInt16) : UInt16 := clamp16 (value.toNat + 1)

theorem toNat_le (a : UInt64) : a.toNat ≤ max64 := Nat.le_pred_of_lt a.toNat_lt

@[simp] theorem toNat_clamp64 (value : Nat) : (clamp64 value).toNat = min value max64 := by
  have fits : min value max64 < UInt64.size := by
    have bound : max64 < UInt64.size := by decide
    omega
  exact UInt64.toNat_ofNat_of_lt fits

@[simp] theorem toNat_add (a b : UInt64) : (add a b).toNat = min (a.toNat + b.toNat) max64 :=
  toNat_clamp64 _

@[simp] theorem toNat_sub (a b : UInt64) : (sub a b).toNat = a.toNat - b.toNat := by
  have bound := toNat_le a
  rw [sub, toNat_clamp64]
  omega

@[simp] theorem toNat_mul (a b : UInt64) : (mul a b).toNat = min (a.toNat * b.toNat) max64 :=
  toNat_clamp64 _

theorem toNat_next16 (a : UInt16) :
    (next16 a).toNat = min (a.toNat + 1) (UInt16.size - 1) := by
  have fits : min (a.toNat + 1) (UInt16.size - 1) < UInt16.size := by
    have large : 0 < UInt16.size := by decide
    omega
  exact UInt16.toNat_ofNat_of_lt fits

theorem toNat_next16_le (a : UInt16) : (next16 a).toNat ≤ a.toNat + 1 := by
  rw [toNat_next16]
  exact Nat.min_le_left _ _

/-- Below another value the next one is one more. -/
theorem toNat_next16_of_lt {a b : UInt16} (below : a < b) : (next16 a).toNat = a.toNat + 1 := by
  have bound : b.toNat < UInt16.size := b.toNat_lt
  rw [UInt16.lt_iff_toNat_lt] at below
  rw [toNat_next16]
  omega

/-- A sum is exact, or too large and cut down to the largest value. -/
theorem add_cases (a b : UInt64) :
    (add a b).toNat = a.toNat + b.toNat ∨
      (add a b).toNat = max64 ∧ max64 < a.toNat + b.toNat := by
  rw [toNat_add]
  omega

/-- A count that reached one more stays above zero, saturated or not. -/
theorem add_ne_zero {a b : UInt64} (positive : a ≠ 0 ∨ b ≠ 0) : add a b ≠ 0 := by
  have lifted : a.toNat ≠ 0 ∨ b.toNat ≠ 0 := by
    rcases positive with left | right
    · exact .inl fun zero => left (UInt64.toNat_inj.mp zero)
    · exact .inr fun zero => right (UInt64.toNat_inj.mp zero)
  intro zero
  have value : (add a b).toNat = 0 := by rw [zero]; rfl
  have large : 0 < max64 := by decide
  rw [toNat_add] at value
  omega

/-- Below the largest value the next one is one more. -/
theorem toNat_succ {a : UInt64} (below : a.toNat < max64) : (a + 1).toNat = a.toNat + 1 := by
  have size : max64 < 2 ^ 64 := by decide
  rw [UInt64.toNat_add, UInt64.toNat_one]
  exact Nat.mod_eq_of_lt (Nat.lt_of_le_of_lt below size)

end Saturating
