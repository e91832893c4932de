import Aise.Pipeline.Extract.Knowledge
import Aise.Persistence.History

/-! Extraction and the store check the same things independently. Whatever the
extraction accepts the store admits, because additions are free in the context and
in the turn, and everything else stands in the context and is named once. The store
alone bounds the memories of a role. -/
namespace Aise

section Proposals
variable {kind : IdKind} {Op : Type} {rules : ProposalRules kind}
  {targeted reserved : Std.ExtTreeSet (Ident kind)}

def Proposal.isAdd : Proposal kind Op → Bool
  | .add _ _ => true
  | .target _ _ _ => false

/-- The operation a proposal makes names the proposal's own target. -/
def Proposal.Coherent (key : Op → Ident kind) (isAdd : Op → Bool) : Proposal kind Op → Prop
  | .add op _ => ∀ id, key (op id) = id ∧ isAdd (op id) = true
  | .target id op _ => key op = id ∧ isAdd op = false

/-- Where an accepted operation stands: free if it adds, known if it does not. -/
def Placed (rules : ProposalRules kind) (key : Op → Ident kind) (isAdd : Op → Bool)
    (targeted reserved : Std.ExtTreeSet (Ident kind)) (op : Op) : Prop :=
  (isAdd op = true ∧ rules.known (key op) = false ∧ key op ∉ reserved) ∨
  (isAdd op = false ∧ rules.known (key op) = true ∧ key op ∉ targeted)

structure Accepted (rules : ProposalRules kind) (key : Op → Ident kind) (isAdd : Op → Bool)
    (targeted reserved : Std.ExtTreeSet (Ident kind)) (proposals : List (Proposal kind Op))
    (ops : List Op) : Prop where
  distinct : (ops.map key).Nodup
  placed : ∀ op ∈ ops, Placed rules key isAdd targeted reserved op
  additions : ops.map isAdd = proposals.map Proposal.isAdd

section Steps
variable {key : Op → Ident kind} {isAdd : Op → Bool} {rest : List (Proposal kind Op)}
  {ops : List Op} {op : Op} {id : Ident kind}

/-- An addition under an unknown id that nothing else may reserve again. -/
theorem Accepted.cons_add (accepted : Accepted rules key isAdd targeted (reserved.insert id) rest ops)
    (named : key op = id) (adds : isAdd op = true) (unknown : rules.known id = false)
    (unreserved : id ∉ reserved) :
    Accepted rules key isAdd targeted reserved (.add make activation :: rest) (op :: ops) := by
  refine ⟨?_, ?_, ?_⟩
  · refine List.nodup_cons.mpr ⟨?_, accepted.distinct⟩
    intro repeated
    obtain ⟨other, member, same⟩ := List.mem_map.mp repeated
    rw [named] at same
    rcases accepted.placed other member with ⟨_, _, elsewhere⟩ | ⟨_, known, _⟩
    · exact elsewhere ((OrdMap.set_mem_insert _ _).mpr (.inl same.symm))
    · rw [same, unknown] at known
      contradiction
  · refine List.forall_mem_cons.mpr ⟨.inl ⟨adds, by rw [named, unknown], by rwa [named]⟩, ?_⟩
    intro other member
    rcases accepted.placed other member with ⟨adding, free, elsewhere⟩ | kept
    · refine .inl ⟨adding, free, fun inside => ?_⟩
      exact elsewhere ((OrdMap.set_mem_insert _ _).mpr (.inr inside))
    · exact .inr kept
  · rw [List.map_cons, List.map_cons, adds, accepted.additions]
    rfl

/-- An operation on a known id that nothing else may target again. -/
theorem Accepted.cons_target
    (accepted : Accepted rules key isAdd (targeted.insert id) reserved rest ops)
    (named : key op = id) (targets : isAdd op = false) (stands : rules.known id = true)
    (untargeted : id ∉ targeted) :
    Accepted rules key isAdd targeted reserved (.target id op activation :: rest) (op :: ops) := by
  refine ⟨?_, ?_, ?_⟩
  · refine List.nodup_cons.mpr ⟨?_, accepted.distinct⟩
    intro repeated
    obtain ⟨other, member, same⟩ := List.mem_map.mp repeated
    rw [named] at same
    rcases accepted.placed other member with ⟨_, free, _⟩ | ⟨_, _, elsewhere⟩
    · rw [same, stands] at free
      contradiction
    · exact elsewhere ((OrdMap.set_mem_insert _ _).mpr (.inl same.symm))
  · refine List.forall_mem_cons.mpr ⟨.inr ⟨targets, by rw [named, stands], by rwa [named]⟩, ?_⟩
    intro other member
    rcases accepted.placed other member with kept | ⟨targeting, known, elsewhere⟩
    · exact .inl kept
    · refine .inr ⟨targeting, known, fun inside => ?_⟩
      exact elsewhere ((OrdMap.set_mem_insert _ _).mpr (.inr inside))
  · rw [List.map_cons, List.map_cons, targets, accepted.additions]
    rfl

end Steps

theorem resolveProposals_accepted (key : Op → Ident kind) (isAdd : Op → Bool)
    (fresh : ∀ seq reserved id, rules.allocate seq reserved = .ok id →
      rules.known id = false ∧ id ∉ reserved)
    {proposals : List (Proposal kind Op)} (coherent : ∀ p ∈ proposals, p.Coherent key isAdd)
    (resolved : resolveProposals rules targeted reserved addSeq proposals = .ok ops) :
    Accepted rules key isAdd targeted reserved proposals ops := by
  induction proposals generalizing targeted reserved addSeq ops with
  | nil =>
    cases resolved
    exact ⟨List.nodup_nil, by simp, rfl⟩
  | cons proposal rest ih =>
    obtain ⟨own, others⟩ := List.forall_mem_cons.mp coherent
    cases proposal with
    | add make activation =>
      obtain ⟨_, _, resolved⟩ := Result.bind_eq_ok resolved
      obtain ⟨id, allocated, resolved⟩ := Result.bind_eq_ok resolved
      obtain ⟨later, resolvedLater, resolved⟩ := Result.bind_eq_ok resolved
      cases resolved
      obtain ⟨unknown, unreserved⟩ := fresh _ _ _ allocated
      obtain ⟨named, adds⟩ := own id
      exact (ih others resolvedLater).cons_add named adds unknown unreserved
    | target id op activation =>
      obtain ⟨_, known, resolved⟩ := Result.bind_eq_ok resolved
      obtain ⟨_, once, resolved⟩ := Result.bind_eq_ok resolved
      obtain ⟨_, _, resolved⟩ := Result.bind_eq_ok resolved
      obtain ⟨later, resolvedLater, resolved⟩ := Result.bind_eq_ok resolved
      cases resolved
      obtain ⟨named, targets⟩ := own
      have stands : rules.known id = true := by simpa using rejectIf_ok_iff.mp known
      have untargeted := OrdMap.set_contains_eq_false_iff.mp (rejectIf_ok_iff.mp once)
      exact (ih others resolvedLater).cons_target named targets stands untargeted

end Proposals

section Allocation
variable {kind : IdKind} {known : BTreeMap kind V}

/-- An allocation loop returns a name, whatever number it starts from and whatever is
reserved, and the name is neither known nor reserved. -/
def AllocationReturns (stem code : String) (known : BTreeMap kind V) (nextTurn : TurnNumber)
    (allocate : Nat → Std.ExtTreeSet (Ident kind) → Except PipelineError (Ident kind)) : Prop :=
  ∀ seq reserved, ∃ id, allocate seq reserved = .ok id ∧
    Search.Returns (candidate kind stem code nextTurn) (unused known reserved) (max seq 1)
      (.ok id) ∧
    id ∉ known ∧ id ∉ reserved

theorem allocateWithReserved_allocates (stem code : String) (known : BTreeMap kind V)
    (nextTurn : TurnNumber) : AllocationReturns stem code known nextTurn
      (allocateWithReserved kind stem code known nextTurn) := by
  intro seq reserved
  have returns := allocateWithReserved_returns stem code known nextTurn seq reserved
  obtain ⟨id, allocated⟩ := returns.exists_ok fun n => ⟨_, candidate_eq kind stem code nextTurn n⟩
  rw [allocated] at returns
  exact ⟨id, allocated, returns, unused_iff.mp returns.unused⟩

/-- What an allocation loop returns is free in the context and in the turn. -/
theorem AllocationReturns.fresh
    {allocate : Nat → Std.ExtTreeSet (Ident kind) → Except PipelineError (Ident kind)}
    {id : Ident kind} (returns : AllocationReturns stem code known nextTurn allocate)
    (allocated : allocate seq reserved = .ok id) : id ∉ known ∧ id ∉ reserved := by
  obtain ⟨found, same, _, fresh⟩ := returns seq reserved
  cases same.symm.trans allocated
  exact fresh

end Allocation

section Rules
variable {context : StoryContext} {roleId : RoleId} {role : RoleEntry}

/-- The rules of a loop speak about one map of the context. -/
structure ProposalRules.Over (rules : ProposalRules kind) (known : BTreeMap kind V) : Prop where
  known : ∀ id, rules.known id = true ↔ id ∈ known
  fresh : ∀ seq reserved id, rules.allocate seq reserved = .ok id →
    rules.known id = false ∧ id ∉ reserved

/-- Every loop allocates through the shared search, also when nothing is reserved. -/
theorem ProposalRules.Over.of_allocates {rules : ProposalRules kind} {known : BTreeMap kind V}
    (stem code : String) (nextTurn : TurnNumber)
    (contains : ∀ id, rules.known id = known.contains id)
    (allocates : ∀ seq reserved, rules.allocate seq reserved =
      allocateWithReserved kind stem code known nextTurn seq reserved) : rules.Over known where
  known id := by rw [contains, Std.ExtTreeMap.contains_iff_mem]
  fresh seq reserved id allocated := by
    rw [allocates] at allocated
    rw [contains, OrdMap.contains_eq_false_iff]
    exact (allocateWithReserved_allocates stem code known nextTurn).fresh allocated

theorem ite_isEmpty {set : Std.ExtTreeSet (Ident kind)}
    {f : Std.ExtTreeSet (Ident kind) → α} : (if set.isEmpty then f ∅ else f set) = f set := by
  split
  · rename_i empty
    rw [Std.ExtTreeSet.isEmpty_iff.mp empty]
  · rfl

theorem factRules_over (context : StoryContext) : (factRules context).Over context.facts :=
  .of_allocates "fact" "extract_fact_id_allocation" context.turnNumber.increment (fun _ => rfl)
    fun _ _ => ite_isEmpty

theorem rumorRules_over (context : StoryContext) : (rumorRules context).Over context.rumors :=
  .of_allocates "rumor" "extract_rumor_id_allocation" context.turnNumber.increment (fun _ => rfl)
    fun _ _ => ite_isEmpty

theorem memoryRules_over (found : context.roles[roleId]? = some role) :
    (memoryRules context roleId role).Over role.memories := by
  refine .of_allocates "mem" "extract_memory_id_allocation" context.turnNumber.increment
    (fun _ => rfl) fun seq reserved => ?_
  simp only [memoryRules, allocateMemoryId, allocateMemoryIdWithReserved, found]
  exact ite_isEmpty

/-- An accepted operation that adds is free, and one that does not is known. -/
theorem Accepted.stands {rules : ProposalRules kind} {known : BTreeMap kind V}
    (speaks : rules.Over known) (accepted : Accepted rules key isAdd ∅ ∅ proposals ops)
    (member : op ∈ ops) :
    (isAdd op = true ∧ key op ∉ known) ∨ (isAdd op = false ∧ key op ∈ known) := by
  rcases accepted.placed op member with ⟨adds, free, _⟩ | ⟨targets, stands, _⟩
  · refine .inl ⟨adds, fun inside => ?_⟩
    rw [(speaks.known _).mpr inside] at free
    contradiction
  · exact .inr ⟨targets, (speaks.known _).mp stands⟩

end Rules

def FactChangeOp.isAdd : FactChangeOp → Bool
  | .add _ _ => true
  | .update _ _ => false

def RumorChangeOp.isAdd : RumorChangeOp → Bool
  | .add _ _ => true
  | .update _ _ | .remove _ => false

def RoleMemoryChangeOp.isAdd : RoleMemoryChangeOp → Bool
  | .add _ _ _ => true
  | .update _ _ _ => false

def RoleMemoryProposal.isAdd : RoleMemoryProposal → Bool
  | .add _ => true
  | .update _ _ => false

section Resolve
variable {context : StoryContext} {config : ExtractConfig} {roleId : RoleId} {role : RoleEntry}

theorem resolveFacts_admitted {proposals : List FactProposal}
    (resolved : resolveProposals (factRules context) ∅ ∅ 0 (proposals.map FactProposal.view) =
      .ok ops) :
    (ops.map FactChangeOp.target).Nodup ∧ ∀ op ∈ ops, op.Fits context := by
  have coherent : ∀ p ∈ proposals.map FactProposal.view,
      p.Coherent FactChangeOp.target FactChangeOp.isAdd := by
    simp only [List.forall_mem_map]
    intro proposal _
    cases proposal <;> simp [FactProposal.view, Proposal.Coherent, FactChangeOp.target,
      FactChangeOp.isAdd]
  have accepted :=
    resolveProposals_accepted _ _ (factRules_over context).fresh coherent resolved
  refine ⟨accepted.distinct, fun op member => ?_⟩
  have stands := accepted.stands (factRules_over context) member
  cases op <;> simpa [FactChangeOp.isAdd, FactChangeOp.target, FactChangeOp.Fits] using stands

theorem resolveRumors_admitted {proposals : List RumorProposal}
    (resolved : resolveProposals (rumorRules context) ∅ ∅ 0 (proposals.map RumorProposal.view) =
      .ok ops) :
    (ops.map RumorChangeOp.target).Nodup ∧ ∀ op ∈ ops, op.Fits context := by
  have coherent : ∀ p ∈ proposals.map RumorProposal.view,
      p.Coherent RumorChangeOp.target RumorChangeOp.isAdd := by
    simp only [List.forall_mem_map]
    intro proposal _
    cases proposal <;> simp [RumorProposal.view, Proposal.Coherent, RumorChangeOp.target,
      RumorChangeOp.isAdd]
  have accepted :=
    resolveProposals_accepted _ _ (rumorRules_over context).fresh coherent resolved
  refine ⟨accepted.distinct, fun op member => ?_⟩
  have stands := accepted.stands (rumorRules_over context) member
  cases op <;> simpa [RumorChangeOp.isAdd, RumorChangeOp.target, RumorChangeOp.Fits] using stands

/-- The operations of one role: all on this role, each on another memory. -/
structure RoleAdmitted (context : StoryContext) (roleId : RoleId)
    (proposals : List RoleMemoryProposal) (ops : List RoleMemoryChangeOp) : Prop where
  role : ∀ op ∈ ops, op.target.1 = roleId
  memories : (ops.map (·.target.2)).Nodup
  fits : ∀ op ∈ ops, op.Fits context
  additions : ops.map RoleMemoryChangeOp.isAdd = proposals.map RoleMemoryProposal.isAdd

theorem RoleAdmitted.targets (admitted : RoleAdmitted context roleId proposals ops) :
    (ops.map RoleMemoryChangeOp.target).Nodup := by
  refine List.Nodup.of_map Prod.snd ?_
  rw [List.map_map]
  exact admitted.memories

/-- Every operation of the loop comes from a proposal for this role. -/
theorem resolveProposals_role {rules : ProposalRules .memory} {proposals : List RoleMemoryProposal}
    (resolved : resolveProposals rules targeted reserved addSeq
      (proposals.map (RoleMemoryProposal.view roleId)) = .ok ops) :
    ∀ op ∈ ops, op.target.1 = roleId := by
  induction proposals generalizing targeted reserved addSeq ops with
  | nil =>
    cases resolved
    simp
  | cons proposal rest ih =>
    cases proposal with
    | add body =>
      obtain ⟨_, _, resolved⟩ := Result.bind_eq_ok resolved
      obtain ⟨id, _, resolved⟩ := Result.bind_eq_ok resolved
      obtain ⟨later, resolvedLater, resolved⟩ := Result.bind_eq_ok resolved
      cases resolved
      exact List.forall_mem_cons.mpr ⟨rfl, ih resolvedLater⟩
    | update id body =>
      obtain ⟨_, _, resolved⟩ := Result.bind_eq_ok resolved
      obtain ⟨_, _, resolved⟩ := Result.bind_eq_ok resolved
      obtain ⟨_, _, resolved⟩ := Result.bind_eq_ok resolved
      obtain ⟨later, resolvedLater, resolved⟩ := Result.bind_eq_ok resolved
      cases resolved
      exact List.forall_mem_cons.mpr ⟨rfl, ih resolvedLater⟩

theorem resolveRoleMemories_admitted {proposals : List RoleMemoryProposal}
    (resolved : resolveRoleMemories context config roleId proposals = .ok ops) :
    RoleAdmitted context roleId proposals ops := by
  unfold resolveRoleMemories at resolved
  cases found : context.roles[roleId]? with
  | none =>
    rw [found] at resolved
    contradiction
  | some role =>
    rw [found] at resolved
    obtain ⟨_, _, resolved⟩ := Result.bind_eq_ok resolved
    have coherent : ∀ p ∈ proposals.map (RoleMemoryProposal.view roleId),
        p.Coherent (fun op : RoleMemoryChangeOp => op.target.2) RoleMemoryChangeOp.isAdd := by
      simp only [List.forall_mem_map]
      intro proposal _
      cases proposal <;> simp [RoleMemoryProposal.view, Proposal.Coherent,
        RoleMemoryChangeOp.target, RoleMemoryChangeOp.isAdd]
    have accepted :=
      resolveProposals_accepted _ _ (memoryRules_over found).fresh coherent resolved
    have own := resolveProposals_role resolved
    refine ⟨own, accepted.distinct, ?_, ?_⟩
    · intro op member
      have stands := accepted.stands (memoryRules_over found) member
      have here := own op member
      cases op with
      | add owner id body =>
        cases here
        rcases stands with ⟨_, free⟩ | ⟨targets, _⟩
        · exact ⟨role, found, free⟩
        · contradiction
      | update owner id body =>
        cases here
        rcases stands with ⟨adds, _⟩ | ⟨_, known⟩
        · contradiction
        · exact ⟨role, found, known⟩
    · rw [accepted.additions, List.map_map]
      congr 1
      funext proposal
      cases proposal <;> rfl

theorem checkRolesForMemory_ok {seen : Std.ExtTreeSet RoleId}
    (checked : checkRolesForMemory context seen roles = .ok ()) :
    roles.Nodup ∧ (∀ roleId ∈ roles, roleId ∉ seen) ∧ ∀ roleId ∈ roles, roleId ∈ context.roles := by
  induction roles generalizing seen with
  | nil => simp
  | cons roleId rest ih =>
    obtain ⟨_, known, checked⟩ := Result.bind_eq_ok checked
    obtain ⟨_, once, checked⟩ := Result.bind_eq_ok checked
    obtain ⟨distinct, unseen, inside⟩ := ih checked
    have stands : roleId ∈ context.roles := by
      rw [← Std.ExtTreeMap.contains_iff_mem]
      simpa using rejectIf_ok_iff.mp known
    have fresh := OrdMap.set_contains_eq_false_iff.mp (rejectIf_ok_iff.mp once)
    refine ⟨List.nodup_cons.mpr ⟨?_, distinct⟩, ?_, List.forall_mem_cons.mpr ⟨stands, inside⟩⟩
    · intro repeated
      exact unseen roleId repeated ((OrdMap.set_mem_insert _ _).mpr (.inl rfl))
    · refine List.forall_mem_cons.mpr ⟨fresh, fun other member early => ?_⟩
      exact unseen other member ((OrdMap.set_mem_insert _ _).mpr (.inr early))

/-- What a successful world extraction is. -/
theorem resolveWorldKnowledge_ok {factProposals : List FactProposal}
    {rumorProposals : List RumorProposal} {rolesForMemory : List RoleId}
    (resolved : resolveWorldKnowledge context config factProposals rumorProposals rolesForMemory =
      .ok world) :
    resolveProposals (factRules context) ∅ ∅ 0 (factProposals.map FactProposal.view) =
        .ok world.facts ∧
      resolveProposals (rumorRules context) ∅ ∅ 0 (rumorProposals.map RumorProposal.view) =
        .ok world.rumors ∧
      world.rolesForMemory = rolesForMemory ∧ rolesForMemory.Nodup ∧
      ∀ roleId ∈ rolesForMemory, roleId ∈ context.roles := by
  obtain ⟨_, _, resolved⟩ := Result.bind_eq_ok resolved
  obtain ⟨_, _, resolved⟩ := Result.bind_eq_ok resolved
  obtain ⟨_, _, resolved⟩ := Result.bind_eq_ok resolved
  obtain ⟨facts, resolvedFacts, resolved⟩ := Result.bind_eq_ok resolved
  obtain ⟨rumors, resolvedRumors, resolved⟩ := Result.bind_eq_ok resolved
  obtain ⟨_, checked, resolved⟩ := Result.bind_eq_ok resolved
  cases resolved
  obtain ⟨distinct, _, known⟩ := checkRolesForMemory_ok checked
  exact ⟨resolvedFacts, resolvedRumors, rfl, distinct, known⟩

/-- The operations of all selected roles, one list for each. -/
abbrev RolesAdmitted (context : StoryContext) (memoryProposals : RoleId → List RoleMemoryProposal)
    (roles : List RoleId) (roleMemories : List (List RoleMemoryChangeOp)) : Prop :=
  List.Forall₂ (fun roleId ops => RoleAdmitted context roleId (memoryProposals roleId) ops)
    roles roleMemories

section Roles
variable {memoryProposals : RoleId → List RoleMemoryProposal} {roles : List RoleId}
  {roleMemories : List (List RoleMemoryChangeOp)}

theorem RolesAdmitted.selected (admitted : RolesAdmitted context memoryProposals roles roleMemories) :
    ∀ op ∈ roleMemories.flatten, op.target.1 ∈ roles ∧ op.Fits context := by
  induction admitted with
  | nil => simp
  | cons first _ ih =>
    intro op member
    rcases List.mem_append.mp member with own | other
    · exact ⟨List.mem_cons.mpr (.inl (first.role op own)), first.fits op own⟩
    · obtain ⟨inside, fits⟩ := ih op other
      exact ⟨List.mem_cons_of_mem _ inside, fits⟩

/-- No role is selected twice, so no memory is named by two of the lists. -/
theorem RolesAdmitted.targets (admitted : RolesAdmitted context memoryProposals roles roleMemories)
    (distinct : roles.Nodup) : (roleMemories.flatten.map RoleMemoryChangeOp.target).Nodup := by
  induction admitted with
  | nil => exact List.nodup_nil
  | cons first others ih =>
    obtain ⟨unselected, distinct⟩ := List.nodup_cons.mp distinct
    rw [List.flatten_cons, List.map_append, List.nodup_append']
    refine ⟨first.targets, ih distinct, ?_⟩
    intro target own other
    obtain ⟨op, member, rfl⟩ := List.mem_map.mp own
    obtain ⟨later, elsewhere, same⟩ := List.mem_map.mp other
    have again := (RolesAdmitted.selected others later elsewhere).1
    rw [same, first.role op member] at again
    exact unselected again

end Roles

/-- What a successful extraction is made of. -/
theorem extractKnowledge_ok {factProposals : List FactProposal}
    {rumorProposals : List RumorProposal} {rolesForMemory : List RoleId}
    {memoryProposals : RoleId → List RoleMemoryProposal}
    (extracted : extractKnowledge context config factProposals rumorProposals rolesForMemory
      memoryProposals = .ok change) :
    ∃ world roleMemories,
      resolveWorldKnowledge context config factProposals rumorProposals rolesForMemory =
        .ok world ∧
      RolesAdmitted context memoryProposals rolesForMemory roleMemories ∧
      rolesForMemory.Nodup ∧ change = assembleKnowledgeChange world roleMemories := by
  obtain ⟨world, resolved, extracted⟩ := Result.bind_eq_ok extracted
  obtain ⟨roleMemories, resolvedRoles, extracted⟩ := Result.bind_eq_ok extracted
  cases extracted
  obtain ⟨_, _, selected, distinct, _⟩ := resolveWorldKnowledge_ok resolved
  rw [selected] at resolvedRoles
  exact ⟨world, roleMemories, resolved,
    (Result.mapM_eq_ok resolvedRoles).imp fun _ _ => resolveRoleMemories_admitted, distinct, rfl⟩

theorem extractKnowledge_admissible {factProposals : List FactProposal}
    {rumorProposals : List RumorProposal} {rolesForMemory : List RoleId}
    {memoryProposals : RoleId → List RoleMemoryProposal}
    (extracted : extractKnowledge context config factProposals rumorProposals rolesForMemory
      memoryProposals = .ok change) : Admissible context change := by
  obtain ⟨world, roleMemories, resolved, admitted, distinct, rfl⟩ := extractKnowledge_ok extracted
  obtain ⟨facts, rumors, _⟩ := resolveWorldKnowledge_ok resolved
  obtain ⟨factTargets, factsFit⟩ := resolveFacts_admitted facts
  obtain ⟨rumorTargets, rumorsFit⟩ := resolveRumors_admitted rumors
  exact ⟨factTargets, factsFit, rumorTargets, rumorsFit, admitted.targets distinct,
    fun op member => (admitted.selected op member).2⟩

end Resolve

structure AllocationsReturn (context : StoryContext) (nextTurn : TurnNumber) : Prop where
  facts : AllocationReturns "fact" "extract_fact_id_allocation" context.facts nextTurn
    (allocateFactIdWithReserved context nextTurn)
  rumors : AllocationReturns "rumor" "extract_rumor_id_allocation" context.rumors nextTurn
    (allocateRumorIdWithReserved context nextTurn)
  memories : ∀ roleId role, context.roles[roleId]? = some role →
    AllocationReturns "mem" "extract_memory_id_allocation" role.memories nextTurn
      (allocateMemoryIdWithReserved context roleId nextTurn)

theorem allocations_return (context : StoryContext) (nextTurn : TurnNumber) :
    AllocationsReturn context nextTurn where
  facts := allocateWithReserved_allocates _ _ _ _
  rumors := allocateWithReserved_allocates _ _ _ _
  memories roleId role found := by
    have returns := allocateWithReserved_allocates "mem" "extract_memory_id_allocation"
      role.memories nextTurn
    intro seq reserved
    simpa only [allocateMemoryIdWithReserved, found] using returns seq reserved

/-- Whatever the extraction accepts passes the store's own check of the same context:
additions are free, other targets stand, and no target is named twice. The loops that
search for a free name always end. -/
theorem extraction_agrees_with_store (context : StoryContext) (config : ExtractConfig)
    (factProposals : List FactProposal) (rumorProposals : List RumorProposal)
    (rolesForMemory : List RoleId) (memoryProposals : RoleId → List RoleMemoryProposal) :
    AllocationsReturn context context.turnNumber.increment ∧
      ∀ change, extractKnowledge context config factProposals rumorProposals rolesForMemory
          memoryProposals = .ok change →
        validateKnowledgeChange context change = .ok () ∧ Admissible context change := by
  refine ⟨allocations_return context _, fun change extracted => ?_⟩
  have admissible := extractKnowledge_admissible extracted
  exact ⟨validateKnowledgeChange_ok_iff.mpr admissible, admissible⟩

namespace Sample

/-- A scene before its first turn, where the first generated fact name is taken. -/
def scene : StoryContext :=
  { (StoredStory.created now spec).context with
    roles := (∅ : BTreeMap .role RoleEntry).insert hero
      { id := hero
        origin := .seed
        spec := { name := ⟨"Hero"⟩, backstory := ⟨"Born by the road."⟩, retrieval := hint }
        profile := {}
        memories := (∅ : BTreeMap .memory MemoryEntry).insert memoryId
          ⟨memoryId, .seed, body "a song"⟩ }
    facts := ((∅ : BTreeMap .fact FactEntry).insert factId
      ⟨factId, .seed, body "The gate is shut."⟩).insert newFactId
        ⟨newFactId, .seed, body "The road is long."⟩
    rumors := (∅ : BTreeMap .rumor RumorEntry).insert rumorId
      ⟨rumorId, .seed, body "A wolf is near."⟩ }

def secondFactId : FactId := ⟨"fact_t1_2", by decide⟩
def thirdFactId : FactId := ⟨"fact_t1_3", by decide⟩
def newRumorId : RumorId := ⟨"rumor_t1_1", by decide⟩

/-- Always active, so it needs no keys. -/
def noticed (text : String) : KnowledgeBody :=
  { body text with activation := { mode := { constant := true } } }

def factProposals : List FactProposal :=
  [.add (noticed "It rains."), .update factId (noticed "The gate is open."),
    .add (noticed "It is night.")]

def rumorProposals : List RumorProposal :=
  [.remove rumorId, .add (noticed "The wolf is gone.")]

def memoryProposals (_ : RoleId) : List RoleMemoryProposal :=
  [.add (noticed "I saw the gate."), .update memoryId (noticed "half a song")]

def change : KnowledgeChange where
  facts := [.add secondFactId (noticed "It rains."),
    .update factId (noticed "The gate is open."),
    .add thirdFactId (noticed "It is night.")]
  rumors := [.remove rumorId, .add newRumorId (noticed "The wolf is gone.")]
  memories := [.add hero newMemoryId (noticed "I saw the gate."),
    .update hero memoryId (noticed "half a song")]

theorem extracts : extractKnowledge scene {} factProposals rumorProposals [hero] memoryProposals =
    .ok change := by
  decide +kernel

end Sample

theorem extraction_agrees_with_store_sample :
    extractKnowledge Sample.scene {} Sample.factProposals Sample.rumorProposals [Sample.hero]
        Sample.memoryProposals = .ok Sample.change ∧
      validateKnowledgeChange Sample.scene Sample.change = .ok () :=
  ⟨Sample.extracts,
    ((extraction_agrees_with_store Sample.scene {} _ _ _ _).2 _ Sample.extracts).1⟩

end Aise
