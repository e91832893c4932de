import Aise.Lib.Result
import Mathlib.Data.List.Nodup

/-! A loop that takes items in order, refuses a key it has seen before and checks each
item on its own, before or after it looks at the keys seen. -/
namespace Distinct
variable {K α β E : Type} [DecidableEq K] {key : α → K} {before : α → Except E Unit}
  {repeated : α → E} {check : α → Except E β}

def each (key : α → K) (before : α → Except E Unit) (repeated : α → E) (check : α → Except E β)
    (seen : List K) : List α → Except E (List β)
  | [] => .ok []
  | item :: rest => do
    before item
    if key item ∈ seen then .error (repeated item)
    else do
      let result ← check item
      let results ← each key before repeated check (key item :: seen) rest
      return result :: results

/-- No key stands twice, nor among those seen already. -/
def Fresh (key : α → K) (seen : List K) (items : List α) : Prop :=
  (items.map key).Nodup ∧ ∀ item ∈ items, key item ∉ seen

omit [DecidableEq K] in
theorem fresh_cons {item : α} {rest : List α} {seen : List K} :
    Fresh key seen (item :: rest) ↔ key item ∉ seen ∧ Fresh key (key item :: seen) rest := by
  unfold Fresh
  rw [List.map_cons, List.nodup_cons, List.forall_mem_cons]
  simp only [List.mem_cons, not_or]
  constructor
  · rintro ⟨⟨once, distinct⟩, unseen, later⟩
    refine ⟨unseen, distinct, fun other member => ⟨fun same => ?_, later other member⟩⟩
    exact once (List.mem_map.mpr ⟨other, member, same⟩)
  · rintro ⟨unseen, distinct, later⟩
    refine ⟨⟨fun again => ?_, distinct⟩, unseen, fun other member => (later other member).2⟩
    obtain ⟨other, member, same⟩ := List.mem_map.mp again
    exact (later other member).1 same

theorem each_cons {item : α} {rest : List α} {seen : List K} {results : List β} :
    each key before repeated check seen (item :: rest) = .ok results ↔
      before item = .ok () ∧ key item ∉ seen ∧ ∃ result others, check item = .ok result ∧
        each key before repeated check (key item :: seen) rest = .ok others ∧
        results = result :: others := by
  constructor
  · intro accepted
    obtain ⟨_, first, accepted⟩ := Result.bind_eq_ok accepted
    split at accepted
    · cases accepted
    · rename_i fresh
      obtain ⟨result, checked, accepted⟩ := Result.bind_eq_ok accepted
      obtain ⟨others, later, accepted⟩ := Result.bind_eq_ok accepted
      cases accepted
      exact ⟨first, fresh, result, others, checked, later, rfl⟩
  · rintro ⟨first, fresh, result, others, checked, later, rfl⟩
    rw [each, first]
    simp only [bind, Except.bind, fresh, if_false, checked, later]
    rfl

theorem each_ok_iff {items : List α} {seen : List K} {results : List β} :
    each key before repeated check seen items = .ok results ↔
      Fresh key seen items ∧ (∀ item ∈ items, before item = .ok ()) ∧
        List.Forall₂ (fun item result => check item = .ok result) items results := by
  induction items generalizing seen results with
  | nil => simp [each, Fresh, eq_comm]
  | cons item rest ih =>
    rw [each_cons, fresh_cons, List.forall_mem_cons]
    constructor
    · rintro ⟨first, fresh, result, others, checked, later, rfl⟩
      obtain ⟨distinct, firsts, checks⟩ := ih.mp later
      exact ⟨⟨fresh, distinct⟩, ⟨first, firsts⟩, .cons checked checks⟩
    · rintro ⟨⟨fresh, distinct⟩, ⟨first, firsts⟩, checks⟩
      cases checks with
      | cons checked checks =>
        exact ⟨first, fresh, _, _, checked, ih.mpr ⟨distinct, firsts, checks⟩, rfl⟩

/-- Each item, and whether its key was seen before. -/
def marks (key : α → K) : (seen : List K) → List α → List (α × Bool)
  | _, [] => []
  | seen, item :: rest => (item, decide (key item ∈ seen)) :: marks key (key item :: seen) rest

theorem map_fst_marks {seen : List K} {items : List α} :
    (marks key seen items).map Prod.fst = items := by
  induction items generalizing seen with
  | nil => rfl
  | cons item rest ih => rw [marks, List.map_cons, ih]

/-- No item is marked when all of them are fresh, and only then. -/
theorem marks_fresh_iff {seen : List K} {items : List α} :
    (∀ entry ∈ marks key seen items, entry.2 = false) ↔ Fresh key seen items := by
  induction items generalizing seen with
  | nil => simp [marks, Fresh]
  | cons item rest ih =>
    rw [marks, List.forall_mem_cons, fresh_cons, ih]
    simp

/-- A refusal comes from one of the three tests on some item. -/
theorem each_error {items : List α} {seen : List K}
    (failed : each key before repeated check seen items = .error error) :
    ∃ item ∈ items, before item = .error error ∨ repeated item = error ∨
      check item = .error error := by
  induction items generalizing seen with
  | nil => cases failed
  | cons item rest ih =>
    rcases Result.bind_eq_error failed with first | ⟨_, _, failed⟩
    · exact ⟨item, List.mem_cons_self, .inl first⟩
    · split at failed
      · exact ⟨item, List.mem_cons_self, .inr (.inl (Except.error.inj failed))⟩
      · rcases Result.bind_eq_error failed with checked | ⟨_, _, failed⟩
        · exact ⟨item, List.mem_cons_self, .inr (.inr checked)⟩
        · rcases Result.bind_eq_error failed with later | ⟨_, _, failed⟩
          · obtain ⟨other, member, tests⟩ := ih later
            exact ⟨other, List.mem_cons_of_mem _ member, tests⟩
          · cases failed

/-- Items that all pass with distinct keys are all accepted. -/
theorem each_total {items : List α} (distinct : (items.map key).Nodup)
    (first : ∀ item ∈ items, before item = .ok ())
    (checked : ∀ item ∈ items, ∃ result, check item = .ok result) :
    ∃ results, each key before repeated check [] items = .ok results := by
  obtain ⟨results, accepted⟩ := Result.mapM_total checked
  exact ⟨results, each_ok_iff.mpr ⟨⟨distinct, by simp⟩, first, Result.mapM_eq_ok accepted⟩⟩

/-- What the checks return has no part in the verdict of the loop. -/
theorem verdict_each {first : α → Except E β} {second : α → Except E β}
    (same : ∀ item, Result.verdict (first item) = Result.verdict (second item))
    (items : List α) (seen : List K) :
    Result.verdict (each key before repeated first seen items) =
      Result.verdict (each key before repeated second seen items) := by
  induction items generalizing seen with
  | nil => rfl
  | cons item rest ih =>
    rw [each, each]
    refine Result.verdict_bind rfl fun _ _ => ?_
    split
    · rfl
    · refine Result.verdict_bind (same item) fun _ _ => ?_
      exact Result.verdict_bind (ih _) fun _ _ => rfl

theorem each_distinct {items : List α}
    (accepted : each key before repeated check [] items = .ok results) : (items.map key).Nodup :=
  (each_ok_iff.mp accepted).1.1

theorem each_checked {items : List α}
    (accepted : each key before repeated check [] items = .ok results) :
    ∀ item ∈ items, ∃ result, check item = .ok result := by
  intro item member
  obtain ⟨index, inside, rfl⟩ := List.mem_iff_getElem.mp member
  have checks := (each_ok_iff.mp accepted).2.2
  exact ⟨_, checks.get inside (checks.length_eq ▸ inside)⟩

theorem nodup_eraseDups [DecidableEq α] (items : List α) : items.eraseDups.Nodup := by
  induction length : items.length using Nat.strongRecOn generalizing items with
  | ind size ih =>
    cases items with
    | nil => simp
    | cons item rest =>
      rw [List.eraseDups_cons, List.nodup_cons]
      refine ⟨by simp [List.mem_eraseDups], ih _ ?_ _ rfl⟩
      subst length
      exact Nat.lt_succ_of_le (List.length_filter_le _ _)

end Distinct
