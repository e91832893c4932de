import Aise.Persistence.Error
import Mathlib.Data.Finset.Insert
import Aise.Lib.Keyed
import Aise.Lib.OrdMap

/-! Admitting and applying the knowledge change of a turn. Admission looks at the
context before the turn only; it accepts exactly the changes that name each target
once, add what is absent and update or remove what is present. -/
namespace Aise

section Validate

/-- One `for op in ..` loop of `validate_knowledge_change`: the target has to be new
in the change, then the operation's own check has to pass. -/
def validateOps [DecidableEq K] (target : Op → K) (duplicate : K → String)
    (check : Op → Except PersistenceError Unit) (seen : Finset K) :
    List Op → Except PersistenceError Unit
  | [] => .ok ()
  | op :: ops =>
    if target op ∈ seen then .error (.constraintViolation (duplicate (target op)))
    else do
      check op
      validateOps target duplicate check (insert (target op) seen) ops

theorem validateOps_ok_iff [DecidableEq K] {target : Op → K} {duplicate : K → String}
    {check : Op → Except PersistenceError Unit} {seen : Finset K} {ops : List Op} :
    validateOps target duplicate check seen ops = .ok () ↔
      (ops.map target).Nodup ∧ (∀ op ∈ ops, target op ∉ seen) ∧ ∀ op ∈ ops, check op = .ok () := by
  induction ops generalizing seen with
  | nil => simp [validateOps]
  | cons op ops ih =>
    unfold validateOps
    split
    · rename_i repeated
      simp [repeated]
    · rename_i fresh
      cases checked : check op with
      | error error => simp [checked, bind, Except.bind]
      | ok _ =>
        simp only [bind, Except.bind, ih, List.map_cons, List.nodup_cons, List.mem_map, not_exists,
          not_and, Finset.mem_insert, not_or, List.forall_mem_cons, fresh, not_false_eq_true,
          true_and, checked]
        grind

def FactChangeOp.check (context : StoryContext) : FactChangeOp → Except PersistenceError Unit
  | .add id _ =>
    if context.facts.contains id then
      .error (.constraintViolation s!"cannot add existing fact_id: {id}")
    else .ok ()
  | .update id _ =>
    if !context.facts.contains id then
      .error (.constraintViolation s!"cannot update missing fact_id: {id}")
    else .ok ()

def RumorChangeOp.check (context : StoryContext) : RumorChangeOp → Except PersistenceError Unit
  | .add id _ =>
    if context.rumors.contains id then
      .error (.constraintViolation s!"cannot add existing rumor_id: {id}")
    else .ok ()
  | .update id _ =>
    if !context.rumors.contains id then
      .error (.constraintViolation s!"cannot update missing rumor_id: {id}")
    else .ok ()
  | .remove id =>
    if !context.rumors.contains id then
      .error (.constraintViolation s!"cannot remove missing rumor_id: {id}")
    else .ok ()

def RoleMemoryChangeOp.check (context : StoryContext) :
    RoleMemoryChangeOp → Except PersistenceError Unit
  | .add roleId id _ =>
    match context.roles[roleId]? with
    | none => .error (.constraintViolation s!"unknown role_id in knowledge_change: {roleId}")
    | some role =>
      if role.memories.contains id then
        .error (.constraintViolation s!"cannot add existing memory_id {id} for role {roleId}")
      else .ok ()
  | .update roleId id _ =>
    match context.roles[roleId]? with
    | none => .error (.constraintViolation s!"unknown role_id in knowledge_change: {roleId}")
    | some role =>
      if !role.memories.contains id then
        .error (.constraintViolation s!"cannot update missing memory_id {id} for role {roleId}")
      else .ok ()

def duplicateFact (id : FactId) : String := s!"duplicate fact_id in knowledge_change: {id}"
def duplicateRumor (id : RumorId) : String := s!"duplicate rumor_id in knowledge_change: {id}"
def duplicateMemory : RoleId × MemoryId → String
  | (roleId, id) => s!"duplicate memory_id {id} for role {roleId} in knowledge_change"

def validateKnowledgeChange (context : StoryContext) (change : KnowledgeChange) :
    Except PersistenceError Unit := do
  validateOps FactChangeOp.target duplicateFact (·.check context) ∅ change.facts
  validateOps RumorChangeOp.target duplicateRumor (·.check context) ∅ change.rumors
  validateOps RoleMemoryChangeOp.target duplicateMemory (·.check context) ∅ change.memories

end Validate

/-- The target of an operation stands in the context as the operation needs it. -/
def FactChangeOp.Fits (context : StoryContext) : FactChangeOp → Prop
  | .add id _ => id ∉ context.facts
  | .update id _ => id ∈ context.facts

def RumorChangeOp.Fits (context : StoryContext) : RumorChangeOp → Prop
  | .add id _ => id ∉ context.rumors
  | .update id _ | .remove id => id ∈ context.rumors

def RoleMemoryChangeOp.Fits (context : StoryContext) : RoleMemoryChangeOp → Prop
  | .add roleId id _ => ∃ role, context.roles[roleId]? = some role ∧ id ∉ role.memories
  | .update roleId id _ => ∃ role, context.roles[roleId]? = some role ∧ id ∈ role.memories

structure Admissible (context : StoryContext) (change : KnowledgeChange) : Prop where
  factTargets : (change.facts.map FactChangeOp.target).Nodup
  factsFit : ∀ op ∈ change.facts, op.Fits context
  rumorTargets : (change.rumors.map RumorChangeOp.target).Nodup
  rumorsFit : ∀ op ∈ change.rumors, op.Fits context
  memoryTargets : (change.memories.map RoleMemoryChangeOp.target).Nodup
  memoriesFit : ∀ op ∈ change.memories, op.Fits context

theorem FactChangeOp.check_ok_iff {op : FactChangeOp} :
    op.check context = .ok () ↔ op.Fits context := by
  cases op <;> simp [check, Fits]

theorem RumorChangeOp.check_ok_iff {op : RumorChangeOp} :
    op.check context = .ok () ↔ op.Fits context := by
  cases op <;> simp [check, Fits]

theorem RoleMemoryChangeOp.check_ok_iff {op : RoleMemoryChangeOp} :
    op.check context = .ok () ↔ op.Fits context := by
  cases op with
  | add roleId id body | update roleId id body =>
    cases found : context.roles[roleId]? <;>
      simp [check, Fits, found]

theorem bind_ok_unit_iff {first second : Except PersistenceError Unit} :
    (first >>= fun _ => second) = .ok () ↔ first = .ok () ∧ second = .ok () := by
  cases first with
  | error error => simp [bind, Except.bind]
  | ok _ => simp [bind, Except.bind]

/-- The three loops accept exactly the admissible changes. -/
theorem validateKnowledgeChange_ok_iff {context : StoryContext} {change : KnowledgeChange} :
    validateKnowledgeChange context change = .ok () ↔ Admissible context change := by
  simp only [validateKnowledgeChange, bind_ok_unit_iff, validateOps_ok_iff, Finset.notMem_empty,
    not_false_eq_true, implies_true, true_and, FactChangeOp.check_ok_iff,
    RumorChangeOp.check_ok_iff, RoleMemoryChangeOp.check_ok_iff]
  constructor
  · rintro ⟨⟨f, ff⟩, ⟨r, rf⟩, m, mf⟩
    exact ⟨f, ff, r, rf, m, mf⟩
  · rintro ⟨f, ff, r, rf, m, mf⟩
    exact ⟨⟨f, ff⟩, ⟨r, rf⟩, m, mf⟩

section Apply

def applyFactOp (turnNumber : TurnNumber) (facts : BTreeMap .fact FactEntry) :
    FactChangeOp → BTreeMap .fact FactEntry
  | .add id body => facts.insert id { id, origin := .turn turnNumber, body }
  | .update id body => facts.modify id ({ · with body })

def applyRumorOp (turnNumber : TurnNumber) (rumors : BTreeMap .rumor RumorEntry) :
    RumorChangeOp → BTreeMap .rumor RumorEntry
  | .add id body => rumors.insert id { id, origin := .turn turnNumber, body }
  | .update id body => rumors.modify id ({ · with body })
  | .remove id => rumors.erase id

/-- `roles.get_mut(role_id)`: an unknown role leaves the map alone. -/
def applyMemoryOp (turnNumber : TurnNumber) (roles : BTreeMap .role RoleEntry) :
    RoleMemoryChangeOp → BTreeMap .role RoleEntry
  | .add roleId id body => roles.modify roleId fun role =>
    { role with memories := role.memories.insert id { id, origin := .turn turnNumber, body } }
  | .update roleId id body => roles.modify roleId fun role =>
    { role with memories := role.memories.modify id ({ · with body }) }

def applyKnowledgeChange (context : StoryContext) (turnNumber : TurnNumber)
    (change : KnowledgeChange) : StoryContext :=
  { context with
    facts := change.facts.foldl (applyFactOp turnNumber) context.facts
    rumors := change.rumors.foldl (applyRumorOp turnNumber) context.rumors
    roles := change.memories.foldl (applyMemoryOp turnNumber) context.roles }

end Apply

/-- What an operation leaves at its target. -/
def FactChangeOp.effect (turnNumber : TurnNumber) : FactChangeOp → Option FactEntry → Option FactEntry
  | .add id body, _ => some { id, origin := .turn turnNumber, body }
  | .update _ body, entry => entry.map ({ · with body })

def RumorChangeOp.effect (turnNumber : TurnNumber) :
    RumorChangeOp → Option RumorEntry → Option RumorEntry
  | .add id body, _ => some { id, origin := .turn turnNumber, body }
  | .update _ body, entry => entry.map ({ · with body })
  | .remove _, _ => none

theorem applyFactOp_pointwise (turnNumber : TurnNumber) :
    Keyed.Pointwise FactChangeOp.target (FactChangeOp.effect turnNumber) (applyFactOp turnNumber)
      (fun facts id => facts[id]?) := by
  intro facts op id
  cases op with
  | add target body => exact OrdMap.get_insert target id _
  | update target body => exact OrdMap.get_modify target id _

theorem applyRumorOp_pointwise (turnNumber : TurnNumber) :
    Keyed.Pointwise RumorChangeOp.target (RumorChangeOp.effect turnNumber)
      (applyRumorOp turnNumber) (fun rumors id => rumors[id]?) := by
  intro rumors op id
  cases op with
  | add target body => exact OrdMap.get_insert target id _
  | update target body => exact OrdMap.get_modify target id _
  | remove target => exact OrdMap.get_erase target id

/-- What a role keeps under a memory id; `none` when there is no such role. -/
def memoryAt (roles : BTreeMap .role RoleEntry) (target : RoleId × MemoryId) :
    Option (Option MemoryEntry) :=
  roles[target.1]?.map (·.memories[target.2]?)

def RoleMemoryChangeOp.effect (turnNumber : TurnNumber) :
    RoleMemoryChangeOp → Option (Option MemoryEntry) → Option (Option MemoryEntry)
  | .add _ id body, slot => slot.map fun _ => some { id, origin := .turn turnNumber, body }
  | .update _ _ body, slot => slot.map (·.map ({ · with body }))

theorem applyMemoryOp_pointwise (turnNumber : TurnNumber) :
    Keyed.Pointwise RoleMemoryChangeOp.target (RoleMemoryChangeOp.effect turnNumber)
      (applyMemoryOp turnNumber) memoryAt := by
  rintro roles op ⟨roleId, id⟩
  cases op with
  | add owner target body | update owner target body =>
    simp only [memoryAt, applyMemoryOp, RoleMemoryChangeOp.target, RoleMemoryChangeOp.effect,
      OrdMap.get_modify, Prod.mk.injEq]
    by_cases same : owner = roleId
    · simp only [same, if_true, true_and, Option.map_map, Function.comp_def, OrdMap.get_insert,
        OrdMap.get_modify]
      split <;> rfl
    · simp only [same, if_false, false_and]

/-- The change an operation makes to the memories of its role. -/
def RoleMemoryChangeOp.remember (turnNumber : TurnNumber) :
    RoleMemoryChangeOp → BTreeMap .memory MemoryEntry → BTreeMap .memory MemoryEntry
  | .add _ id body, memories => memories.insert id { id, origin := .turn turnNumber, body }
  | .update _ id body, memories => memories.modify id ({ · with body })

theorem applyMemoryOp_eq (turnNumber : TurnNumber) (roles : BTreeMap .role RoleEntry)
    (op : RoleMemoryChangeOp) : applyMemoryOp turnNumber roles op =
      roles.modify op.target.1 fun role =>
        { role with memories := op.remember turnNumber role.memories } := by
  cases op <;> rfl

/-- Memory operations never touch a role's identity, and never add or drop a role. -/
theorem applyMemoryOps_get (turnNumber : TurnNumber) (ops : List RoleMemoryChangeOp)
    (roles : BTreeMap .role RoleEntry) (roleId : RoleId) :
    (ops.foldl (applyMemoryOp turnNumber) roles)[roleId]? =
      roles[roleId]?.map fun role =>
        { role with
          memories := (ops.filter (·.target.1 = roleId)).foldl
            (fun memories op => op.remember turnNumber memories) role.memories } := by
  induction ops generalizing roles with
  | nil => simp
  | cons op ops ih =>
    rw [List.foldl_cons, ih, applyMemoryOp_eq, OrdMap.get_modify]
    by_cases same : op.target.1 = roleId
    · rw [if_pos same, Option.map_map, List.filter_cons_of_pos (by simpa using same)]
      rfl
    · rw [if_neg same, List.filter_cons_of_neg (by simpa using same)]

theorem RoleMemoryChangeOp.fits_add_iff {id : MemoryId} :
    (RoleMemoryChangeOp.add roleId id body).Fits context ↔
      memoryAt context.roles (roleId, id) = some none := by
  simp [Fits, memoryAt]

theorem RoleMemoryChangeOp.fits_update_iff {id : MemoryId} :
    (RoleMemoryChangeOp.update roleId id body).Fits context ↔
      ∃ entry, memoryAt context.roles (roleId, id) = some (some entry) := by
  simp only [Fits, memoryAt, Option.map_eq_some_iff, OrdMap.mem_iff_exists]
  grind

end Aise
