import Mathlib.Logic.Function.Basic

/-! Shared resources and their holders, as a specification. A holder keeps one
resource at a time; a resource is live while someone holds it, and its value is the
one brought by whoever made it live. -/
namespace Lease
open Classical
variable {H R V : Type*}

structure Ledger (H R V : Type*) where
  held : H → Option R
  original : R → Option V

namespace Ledger
variable {ledger : Ledger H R V}

def empty : Ledger H R V := ⟨fun _ => none, fun _ => none⟩

def Live (ledger : Ledger H R V) (r : R) : Prop := ∃ h, ledger.held h = some r

noncomputable def retain (ledger : Ledger H R V) (h : H) (r : R) (v : V) : Ledger H R V where
  held := Function.update ledger.held h (some r)
  original := if ledger.Live r then ledger.original else Function.update ledger.original r (some v)

noncomputable def release (ledger : Ledger H R V) (h : H) : Ledger H R V :=
  { ledger with held := Function.update ledger.held h none }

theorem held_retain (h : H) (r : R) (v : V) (other : H) :
    (ledger.retain h r v).held other = if h = other then some r else ledger.held other := by
  simp only [retain, Function.update_apply, eq_comm]

theorem held_release (h other : H) :
    (ledger.release h).held other = if h = other then none else ledger.held other := by
  simp only [release, Function.update_apply, eq_comm]

theorem original_retain_live (live : ledger.Live r) (h : H) (v : V) :
    (ledger.retain h r v).original = ledger.original := if_pos live

theorem original_retain_new (new : ¬ ledger.Live r) (h : H) (v : V) (other : R) :
    (ledger.retain h r v).original other = if r = other then some v else ledger.original other := by
  simp only [retain, if_neg new, Function.update_apply, eq_comm]

/-- Retaining does not change the value of another resource. -/
theorem original_retain_other (different : r ≠ other) (h : H) (v : V) :
    (ledger.retain h r v).original other = ledger.original other := by
  by_cases live : ledger.Live r
  · rw [original_retain_live live]
  · rw [original_retain_new live, if_neg different]

end Ledger
end Lease
