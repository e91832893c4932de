import Aise.Lib.OrdMap
import Aise.Lib.Result

/-! Collecting definitions that must agree. A term may be defined any number of
times, always the same way; the first clash stops the collection. -/
namespace Glossary
open Std
variable {K V E : Type} [Ord K] [TransOrd K] [DecidableEq V]
  {clash : K → E} {found result whole : ExtTreeMap K V} {entries : List (K × V)}

def define (clash : K → E) (found : ExtTreeMap K V) (entry : K × V) :
    Except E (ExtTreeMap K V) :=
  match found[entry.1]? with
  | some existing => if existing ≠ entry.2 then .error (clash entry.1) else .ok found
  | none => .ok (found.insert entry.1 entry.2)

def collect (clash : K → E) (found : ExtTreeMap K V) (entries : List (K × V)) :
    Except E (ExtTreeMap K V) :=
  entries.foldlM (define clash) found

@[simp] theorem collect_nil : collect clash found [] = .ok found := rfl

@[simp] theorem collect_cons : collect clash found (entry :: entries) =
    (define clash found entry >>= fun next => collect clash next entries) := rfl

theorem collect_singleton (entry : K × V) :
    collect clash found [entry] = define clash found entry :=
  bind_pure (define clash found entry)

theorem collect_append (first second : List (K × V)) : collect clash found (first ++ second) =
    (collect clash found first >>= fun next => collect clash next second) :=
  List.foldlM_append

variable [LawfulEqOrd K] [DecidableEq K]

theorem get_define (defined : define clash found entry = .ok result) (key : K) (value : V) :
    result[key]? = some value ↔ found[key]? = some value ∨ (key, value) = entry := by
  obtain ⟨name, meaning⟩ := entry
  simp only [define] at defined
  split at defined
  · rename_i existing known
    split at defined
    · contradiction
    · rename_i same
      cases defined
      simp only [ne_eq, not_not] at same
      subst same
      constructor
      · exact .inl
      · rintro (kept | new)
        · exact kept
        · cases new
          exact known
  · rename_i fresh
    cases defined
    rw [OrdMap.get_insert]
    by_cases same : name = key
    · subst same
      simp [fresh, eq_comm]
    · simp [same, Ne.symm same]

/-- The collection knows what it knew before and every definition met on the way. -/
theorem get_collect (collected : collect clash found entries = .ok result) (key : K) (value : V) :
    result[key]? = some value ↔ found[key]? = some value ∨ (key, value) ∈ entries := by
  induction entries generalizing found with
  | nil =>
    cases collected
    simp
  | cons entry rest ih =>
    obtain ⟨next, defined, collected⟩ := Result.bind_eq_ok collected
    rw [ih collected, get_define defined, List.mem_cons, or_assoc]

/-- Definitions that some glossary has all together never clash. -/
theorem collect_of_subset
    (known : ∀ (key : K) (value : V), found[key]? = some value → whole[key]? = some value)
    (defined : ∀ entry ∈ entries, whole[entry.1]? = some entry.2) :
    ∃ result, collect clash found entries = .ok result := by
  induction entries generalizing found with
  | nil => exact ⟨found, rfl⟩
  | cons entry rest ih =>
    obtain ⟨here, later⟩ := List.forall_mem_cons.mp defined
    have stepped : ∃ next, define clash found entry = .ok next := by
      simp only [define]
      split
      · rename_i existing already
        have same := Option.some.inj ((known _ _ already).symm.trans here)
        simp [same]
      · simp
    obtain ⟨next, stepped⟩ := stepped
    rw [collect_cons, stepped]
    apply ih _ later
    intro key value inside
    rcases (get_define stepped key value).mp inside with old | new
    · exact known key value old
    · cases new
      exact here

/-- Definitions clash exactly when two of them give a term different meanings. -/
theorem collect_ok_iff : (∃ result, collect clash found entries = .ok result) ↔
    ∀ (key : K) (value other : V), (found[key]? = some value ∨ (key, value) ∈ entries) →
      (found[key]? = some other ∨ (key, other) ∈ entries) → value = other := by
  constructor
  · rintro ⟨result, collected⟩ key value other first second
    rw [← get_collect collected] at first second
    exact Option.some.inj (first.symm.trans second)
  · intro agreed
    induction entries generalizing found with
    | nil => exact ⟨found, rfl⟩
    | cons entry rest ih =>
      have stepped : ∃ next, define clash found entry = .ok next := by
        simp only [define]
        split
        · rename_i existing known
          have same := agreed entry.1 existing entry.2 (.inl known) (.inr List.mem_cons_self)
          simp [same]
        · simp
      obtain ⟨next, stepped⟩ := stepped
      rw [collect_cons, stepped]
      refine ih fun key value other first second => agreed key value other ?_ ?_
      · rw [get_define stepped, or_assoc, ← List.mem_cons] at first
        exact first
      · rw [get_define stepped, or_assoc, ← List.mem_cons] at second
        exact second

end Glossary
