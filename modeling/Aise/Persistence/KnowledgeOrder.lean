import Aise.Persistence.KnowledgeChange

/-! The order of knowledge operations. Admission sees the context before the change only, and a
change that is admitted names every target once, so its operations can be made in any order. -/
namespace Aise

/-- The same operations, each of the three lists in an order of its own. -/
structure KnowledgeChange.Reorders (other change : KnowledgeChange) : Prop where
  facts : other.facts.Perm change.facts
  rumors : other.rumors.Perm change.rumors
  memories : other.memories.Perm change.memories

/-- Everything that a change does not name is as it was. -/
structure KnowledgeChange.Untouched (change : KnowledgeChange) (before after : StoryContext) :
    Prop where
  facts : ∀ id, id ∉ change.facts.map FactChangeOp.target → after.facts[id]? = before.facts[id]?
  rumors : ∀ id, id ∉ change.rumors.map RumorChangeOp.target →
    after.rumors[id]? = before.rumors[id]?
  memories : ∀ target, target ∉ change.memories.map RoleMemoryChangeOp.target →
    memoryAt after.roles target = memoryAt before.roles target
  roles : ∀ roleId, (∀ op ∈ change.memories, op.target.1 ≠ roleId) →
    after.roles[roleId]? = before.roles[roleId]?
  others : { after with
    facts := before.facts
    rumors := before.rumors
    roles := before.roles } = before

section
variable {context : StoryContext} {turnNumber : TurnNumber} {change other : KnowledgeChange}

theorem Admissible.reorder (admissible : Admissible context change) (reorders : other.Reorders change) :
    Admissible context other where
  factTargets := (reorders.facts.map _).nodup_iff.mpr admissible.factTargets
  factsFit op member := admissible.factsFit op (reorders.facts.mem_iff.mp member)
  rumorTargets := (reorders.rumors.map _).nodup_iff.mpr admissible.rumorTargets
  rumorsFit op member := admissible.rumorsFit op (reorders.rumors.mem_iff.mp member)
  memoryTargets := (reorders.memories.map _).nodup_iff.mpr admissible.memoryTargets
  memoriesFit op member := admissible.memoriesFit op (reorders.memories.mem_iff.mp member)

theorem RoleMemoryChangeOp.remember_pointwise (turnNumber : TurnNumber) :
    Keyed.Pointwise (fun op : RoleMemoryChangeOp => op.target.2)
      (fun op entry => (op.effect turnNumber (some entry)).join)
      (fun memories op => op.remember turnNumber memories) (fun memories id => memories[id]?) := by
  intro memories op id
  cases op with
  | add owner target body => exact OrdMap.get_insert target id _
  | update owner target body => exact OrdMap.get_modify target id _

/-- The operations on one role have targets of their own. -/
theorem nodup_memoryIds {ops : List RoleMemoryChangeOp}
    (distinct : (ops.map RoleMemoryChangeOp.target).Nodup) (roleId : RoleId) :
    ((ops.filter (·.target.1 = roleId)).map (·.target.2)).Nodup := by
  have own := List.pairwise_map.mp distinct |>.filter (·.target.1 = roleId)
  refine List.pairwise_map.mpr (own.imp_of_mem ?_)
  intro op later first second apart same
  refine apart (Prod.ext ?_ same)
  rw [of_decide_eq_true (List.mem_filter.mp first).2, of_decide_eq_true (List.mem_filter.mp second).2]

theorem applyMemoryOps_perm {ops others : List RoleMemoryChangeOp}
    (distinct : (ops.map RoleMemoryChangeOp.target).Nodup) (perm : others.Perm ops)
    (roles : BTreeMap .role RoleEntry) :
    others.foldl (applyMemoryOp turnNumber) roles = ops.foldl (applyMemoryOp turnNumber) roles := by
  refine Std.ExtTreeMap.ext_getElem? fun roleId => ?_
  rw [applyMemoryOps_get, applyMemoryOps_get]
  refine congrArg (roles[roleId]?.map ·) (funext fun role => ?_)
  have same := Keyed.look_perm (RoleMemoryChangeOp.remember_pointwise turnNumber)
    (nodup_memoryIds distinct roleId) (perm.filter _) role.memories
  rw [Std.ExtTreeMap.ext_getElem? fun id => same id]

theorem Admissible.apply_reorder (admissible : Admissible context change)
    (reorders : other.Reorders change) :
    applyKnowledgeChange context turnNumber other = applyKnowledgeChange context turnNumber change := by
  have facts := Keyed.look_perm (applyFactOp_pointwise turnNumber) admissible.factTargets
    reorders.facts context.facts
  have rumors := Keyed.look_perm (applyRumorOp_pointwise turnNumber) admissible.rumorTargets
    reorders.rumors context.rumors
  rw [applyKnowledgeChange, applyKnowledgeChange, Std.ExtTreeMap.ext_getElem? facts,
    Std.ExtTreeMap.ext_getElem? rumors,
    applyMemoryOps_perm admissible.memoryTargets reorders.memories]

theorem applyKnowledgeChange_untouched (context : StoryContext) (turnNumber : TurnNumber)
    (change : KnowledgeChange) :
    change.Untouched context (applyKnowledgeChange context turnNumber change) where
  facts id absent := Keyed.look_of_not_mem (applyFactOp_pointwise turnNumber) absent
  rumors id absent := Keyed.look_of_not_mem (applyRumorOp_pointwise turnNumber) absent
  memories target absent := Keyed.look_of_not_mem (applyMemoryOp_pointwise turnNumber) absent
  roles roleId unnamed := by
    have none : change.memories.filter (·.target.1 = roleId) = [] := by
      rw [List.filter_eq_nil_iff]
      exact fun op member => by simpa using unnamed op member
    change (change.memories.foldl (applyMemoryOp turnNumber) context.roles)[roleId]? = _
    rw [applyMemoryOps_get, none]
    exact congrFun Option.map_id _
  others := rfl

/-- An accepted change is accepted in any order, and leaves the same context. -/
theorem knowledge_operations_reorder (turnNumber : TurnNumber)
    (accepted : validateKnowledgeChange context change = .ok ())
    (reorders : other.Reorders change) :
    validateKnowledgeChange context other = .ok () ∧
      applyKnowledgeChange context turnNumber other = applyKnowledgeChange context turnNumber change ∧
      change.Untouched context (applyKnowledgeChange context turnNumber other) := by
  have admissible := validateKnowledgeChange_ok_iff.mp accepted
  refine ⟨validateKnowledgeChange_ok_iff.mpr (admissible.reorder reorders),
    admissible.apply_reorder reorders, ?_⟩
  rw [admissible.apply_reorder reorders]
  exact applyKnowledgeChange_untouched context turnNumber change

end

namespace Sample

/-- A gate, a wolf and a hero, before the first turn. -/
def road : StoryContext where
  storyId
  packRef
  opening := ⟨"It begins."⟩
  roles := (∅ : BTreeMap .role RoleEntry).insert hero
    { id := hero
      origin := .seed
      spec := { name := ⟨"Hero"⟩, backstory := ⟨"Born by the road."⟩, retrieval := hint }
      profile := {} }
  facts := (∅ : BTreeMap .fact FactEntry).insert factId ⟨factId, .seed, body "The gate is shut."⟩
  rumors := (∅ : BTreeMap .rumor RumorEntry).insert rumorId ⟨rumorId, .seed, body "A wolf is near."⟩
  player := hero
  turnNumber := ⟨0⟩
  summary := none
  recentTurns := []
  lifeCycle := .active
  narrative := {}

def opened : KnowledgeChange where
  facts := [.update factId (body "The gate is open."), .add newFactId (body "It rains.")]
  rumors := [.remove rumorId]
  memories := [.add hero newMemoryId (body "I saw the gate.")]

def rained : KnowledgeChange :=
  { opened with
    facts := [.add newFactId (body "It rains."), .update factId (body "The gate is open.")] }

/-- The rain may come before the gate opens. -/
theorem rain_reorders :
    validateKnowledgeChange road rained = .ok () ∧
      applyKnowledgeChange road ⟨1⟩ rained = applyKnowledgeChange road ⟨1⟩ opened := by
  have accepted : validateKnowledgeChange road opened = .ok () := by decide +kernel
  have reorders : rained.Reorders opened := ⟨List.Perm.swap .., .refl _, .refl _⟩
  obtain ⟨again, same, _⟩ := knowledge_operations_reorder ⟨1⟩ accepted reorders
  exact ⟨again, same⟩

end Sample

end Aise
