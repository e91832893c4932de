import Mathlib.Data.Finset.Card

/-! Searching upwards for a free name. The loop has no bound of its own; it ends
because the names are distinct and only finitely many are taken. `Returns` is the
loop itself, `run` executes it for a number of rounds. -/
namespace Search
variable {E α : Type*} {make : Nat → Except E α} {free : α → Bool}

/-- `loop { let c = make(n)?; if free(c) { return Ok(c) } n += 1 }`. -/
inductive Returns (make : Nat → Except E α) (free : α → Bool) : Nat → Except E α → Prop where
  | fails (failed : make n = .error e) : Returns make free n (.error e)
  | stops (made : make n = .ok a) (unused : free a = true) : Returns make free n (.ok a)
  | next (made : make n = .ok a) (taken : free a = false) (later : Returns make free (n + 1) r) :
      Returns make free n r

def run (make : Nat → Except E α) (free : α → Bool) : Nat → Nat → Option (Except E α)
  | 0, _ => none
  | rounds + 1, n =>
    match make n with
    | .error e => some (.error e)
    | .ok a => if free a then some (.ok a) else run make free rounds (n + 1)

theorem run_returns (found : run make free rounds n = some r) : Returns make free n r := by
  induction rounds generalizing n with
  | zero => contradiction
  | succ rounds ih =>
    simp only [run] at found
    split at found
    · rename_i failed
      cases found
      exact .fails failed
    · rename_i made
      split at found
      · rename_i unused
        cases found
        exact .stops made unused
      · rename_i taken
        exact .next made (by simpa using taken) (ih found)

/-- A free name within reach is enough for the loop to return in time. -/
theorem run_isSome (near : k < rounds) (made : make (n + k) = .ok a) (unused : free a = true) :
    (run make free rounds n).isSome := by
  induction rounds generalizing n k with
  | zero => contradiction
  | succ rounds ih =>
    simp only [run]
    cases first : make n with
    | error e => rfl
    | ok b =>
      dsimp only
      split
      · rfl
      · rename_i taken
        cases k with
        | zero =>
          cases first.symm.trans made
          exact absurd unused taken
        | succ k =>
          have shifted : make (n + 1 + k) = .ok a := by rwa [Nat.add_assoc, Nat.add_comm 1 k]
          exact ih (Nat.lt_of_succ_lt_succ near) shifted

/-- What the loop returns is free. -/
theorem Returns.unused (returns : Returns make free n (.ok a)) : free a = true := by
  generalize result : (Except.ok a : Except E α) = r at returns
  induction returns with
  | fails => contradiction
  | stops _ unused =>
    cases result
    exact unused
  | next _ _ _ ih => exact ih result

/-- Where no round can fail, the loop ends with a name. -/
theorem Returns.exists_ok (makes : ∀ n, ∃ a, make n = .ok a) (returns : Returns make free n r) :
    ∃ a, r = .ok a := by
  induction returns with
  | @fails n _ failed =>
    obtain ⟨_, made⟩ := makes n
    cases failed.symm.trans made
  | stops => exact ⟨_, rfl⟩
  | next _ _ _ ih => exact ih

/-- Among as many distinct names as are taken, and one more, one is free. -/
theorem exists_unused [DecidableEq α] {name : Nat → α} (injective : Function.Injective name)
    (taken : List α) (n : Nat) : ∃ k ≤ taken.length, name (n + k) ∉ taken := by
  by_contra none_free
  push Not at none_free
  have inside : (Finset.range (taken.length + 1)).image (fun k => name (n + k)) ⊆
      taken.toFinset := by
    intro a member
    obtain ⟨k, bound, rfl⟩ := Finset.mem_image.mp member
    exact List.mem_toFinset.mpr (none_free k (by simpa [Nat.lt_succ_iff] using bound))
  have distinct : Function.Injective (fun k => name (n + k)) :=
    fun i j same => Nat.add_left_cancel (injective same)
  have count := Finset.card_le_card inside
  rw [Finset.card_image_of_injective _ distinct, Finset.card_range] at count
  have small := taken.toFinset_card_le
  omega

end Search
