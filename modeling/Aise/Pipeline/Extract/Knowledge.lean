import Aise.Pipeline.Error
import Aise.Persistence.StoryStoreMem
import Aise.Lib.Search
import Std.Data.String.ToNat

/-! Turning extracted proposals into a knowledge change. New entries get names of
the form `fact_t3_1`, the first one free in the context and in the turn. The three
loops over proposals are one loop; what it accepts is what the store admits. -/
namespace Aise

structure ExtractConfig where
  maxFactChanges : Nat := 8
  maxRumorChanges : Nat := 8
  maxRolesForMemory : Nat := 4
  maxMemoryChangesPerRole : Nat := 4

structure WorldKnowledgeExtraction where
  facts : List FactChangeOp
  rumors : List RumorChangeOp
  rolesForMemory : List RoleId
  deriving DecidableEq

inductive FactProposal where
  | add (body : FactBody)
  | update (id : FactId) (body : FactBody)

inductive RumorProposal where
  | add (body : RumorBody)
  | update (id : RumorId) (body : RumorBody)
  | remove (id : RumorId)

inductive RoleMemoryProposal where
  | add (body : MemoryBody)
  | update (id : MemoryId) (body : MemoryBody)

def invalidOutput (code message : String) : PipelineError := .invalidOutput .extract code message

def validateActivationRule (rule : ActivationRule) : Except PipelineError Unit :=
  if rule.mode.enabled && !rule.mode.constant && rule.matchRule.keys.isEmpty then
    .error (invalidOutput "extract_activation_rule_invalid"
      "activation rule with mode.enabled=true and mode.constant=false must have non-empty match.keys")
  else .ok ()

section Allocate
variable {kind : IdKind} {V : Type}

def candidateText (stem : String) (nextTurn : TurnNumber) (seq : Nat) : String :=
  s!"{stem}_t{nextTurn.value}_{seq}"

/-- One round of an allocation loop, up to its test. -/
def candidate (kind : IdKind) (stem code : String) (nextTurn : TurnNumber) (seq : Nat) :
    Except PipelineError (Ident kind) :=
  match Ident.tryNew kind (candidateText stem nextTurn seq) with
  | .ok id => .ok id
  | .error error => .error (.inconsistentData .extract code error.display)

def unused (known : BTreeMap kind V) (reserved : Std.ExtTreeSet (Ident kind)) (id : Ident kind) :
    Bool :=
  !known.contains id && !reserved.contains id

theorem unused_iff {known : BTreeMap kind V} {reserved : Std.ExtTreeSet (Ident kind)}
    {id : Ident kind} : unused known reserved id = true ↔ id ∉ known ∧ id ∉ reserved := by
  simp [unused, OrdMap.contains_eq_false_iff, OrdMap.set_contains_eq_false_iff]

theorem candidateText_visible (stem : String) (nextTurn : TurnNumber) (seq : Nat) :
    RustText.isBlank (candidateText stem nextTurn seq) = false := by
  refine RustText.not_blank_of_mem (c := 't') ?_ (by decide)
  simp [candidateText, toString]

theorem candidateText_injective (stem : String) (nextTurn : TurnNumber) :
    Function.Injective (candidateText stem nextTurn) := by
  intro a b same
  simp only [candidateText, toString] at same
  exact Nat.repr_injective ((String.append_right_inj _).mp same)

theorem candidate_eq (kind : IdKind) (stem code : String) (nextTurn : TurnNumber) (seq : Nat) :
    candidate kind stem code nextTurn seq = .ok ⟨_, candidateText_visible stem nextTurn seq⟩ := by
  simp only [candidate, Ident.tryNew_visible (candidateText_visible stem nextTurn seq)]

/-- The loop meets a free name after as many rounds as there are names taken. -/
theorem allocate_terminates (stem code : String) (known : BTreeMap kind V)
    (nextTurn : TurnNumber) (seq : Nat) (reserved : Std.ExtTreeSet (Ident kind)) :
    (Search.run (candidate kind stem code nextTurn) (unused known reserved)
      (known.size + reserved.size + 1) seq).isSome := by
  let name (n : Nat) : Ident kind := ⟨_, candidateText_visible stem nextTurn n⟩
  have injective : Function.Injective name := by
    intro a b same
    exact candidateText_injective stem nextTurn (congrArg Ident.value same)
  obtain ⟨k, near, absent⟩ := Search.exists_unused injective (known.keys ++ reserved.toList) seq
  rw [List.length_append, Std.ExtTreeMap.length_keys, Std.ExtTreeSet.length_toList] at near
  refine Search.run_isSome (k := k) (a := name (seq + k)) (by omega) (candidate_eq ..) ?_
  rw [unused_iff]
  simpa using absent

/-- The allocation loop of the `allocate_*_with_reserved` family. -/
def allocateWithReserved (kind : IdKind) (stem code : String) (known : BTreeMap kind V)
    (nextTurn : TurnNumber) (seq : Nat) (reserved : Std.ExtTreeSet (Ident kind)) :
    Except PipelineError (Ident kind) :=
  (Search.run (candidate kind stem code nextTurn) (unused known reserved)
    (known.size + reserved.size + 1) (max seq 1)).get
      (allocate_terminates stem code known nextTurn (max seq 1) reserved)

theorem allocateWithReserved_returns (stem code : String) (known : BTreeMap kind V)
    (nextTurn : TurnNumber) (seq : Nat) (reserved : Std.ExtTreeSet (Ident kind)) :
    Search.Returns (candidate kind stem code nextTurn) (unused known reserved) (max seq 1)
      (allocateWithReserved kind stem code known nextTurn seq reserved) :=
  Search.run_returns (Option.some_get _).symm

end Allocate

def allocateFactIdWithReserved (context : StoryContext) (nextTurn : TurnNumber) (seq : Nat)
    (reserved : Std.ExtTreeSet FactId) : Except PipelineError FactId :=
  allocateWithReserved .fact "fact" "extract_fact_id_allocation" context.facts nextTurn seq reserved

def allocateRumorIdWithReserved (context : StoryContext) (nextTurn : TurnNumber) (seq : Nat)
    (reserved : Std.ExtTreeSet RumorId) : Except PipelineError RumorId :=
  allocateWithReserved .rumor "rumor" "extract_rumor_id_allocation" context.rumors nextTurn seq
    reserved

def roleUnknown (roleId : RoleId) : PipelineError :=
  invalidOutput "extract_role_unknown" s!"role {roleId} does not exist in story context"

def allocateMemoryIdWithReserved (context : StoryContext) (roleId : RoleId)
    (nextTurn : TurnNumber) (seq : Nat) (reserved : Std.ExtTreeSet MemoryId) :
    Except PipelineError MemoryId :=
  match context.roles[roleId]? with
  | none => .error (roleUnknown roleId)
  | some role =>
    allocateWithReserved .memory "mem" "extract_memory_id_allocation" role.memories nextTurn seq
      reserved

def allocateFactId (context : StoryContext) (nextTurn : TurnNumber) (seq : Nat) :
    Except PipelineError FactId := allocateFactIdWithReserved context nextTurn seq ∅

def allocateRumorId (context : StoryContext) (nextTurn : TurnNumber) (seq : Nat) :
    Except PipelineError RumorId := allocateRumorIdWithReserved context nextTurn seq ∅

def allocateMemoryId (context : StoryContext) (roleId : RoleId) (nextTurn : TurnNumber)
    (seq : Nat) : Except PipelineError MemoryId :=
  allocateMemoryIdWithReserved context roleId nextTurn seq ∅

/-- A proposal as the loops see it: a new entry whose operation waits for its
identifier, or an operation on an entry the story has. -/
inductive Proposal (kind : IdKind) (Op : Type) where
  | add (op : Ident kind → Op) (activation : ActivationRule)
  | target (id : Ident kind) (op : Op) (activation : Option ActivationRule)

/-- What the three loops do differently. -/
structure ProposalRules (kind : IdKind) where
  known : Ident kind → Bool
  allocate : Nat → Std.ExtTreeSet (Ident kind) → Except PipelineError (Ident kind)
  unknownId : Ident kind → PipelineError
  duplicateId : Ident kind → PipelineError

def validateActivation : Option ActivationRule → Except PipelineError Unit
  | some rule => validateActivationRule rule
  | none => .ok ()

/-- The loop over proposals, with the ids updated or removed, the ids reserved and
the number of additions so far. -/
def resolveProposals (rules : ProposalRules kind) (targeted reserved : Std.ExtTreeSet (Ident kind))
    (addSeq : Nat) : List (Proposal kind Op) → Except PipelineError (List Op)
  | [] => .ok []
  | .add op activation :: rest => do
    validateActivationRule activation
    let id ← rules.allocate (addSeq + 1) reserved
    let ops ← resolveProposals rules targeted (reserved.insert id) (addSeq + 1) rest
    return op id :: ops
  | .target id op activation :: rest => do
    rejectIf (!rules.known id) (rules.unknownId id)
    rejectIf (targeted.contains id) (rules.duplicateId id)
    validateActivation activation
    let ops ← resolveProposals rules (targeted.insert id) reserved addSeq rest
    return op :: ops

def FactProposal.view : FactProposal → Proposal .fact FactChangeOp
  | .add body => .add (.add · body) body.activation
  | .update id body => .target id (.update id body) (some body.activation)

def RumorProposal.view : RumorProposal → Proposal .rumor RumorChangeOp
  | .add body => .add (.add · body) body.activation
  | .update id body => .target id (.update id body) (some body.activation)
  | .remove id => .target id (.remove id) none

def RoleMemoryProposal.view (roleId : RoleId) :
    RoleMemoryProposal → Proposal .memory RoleMemoryChangeOp
  | .add body => .add (.add roleId · body) body.activation
  | .update id body => .target id (.update roleId id body) (some body.activation)

def factRules (context : StoryContext) : ProposalRules .fact where
  known id := context.facts.contains id
  allocate seq reserved :=
    if reserved.isEmpty then allocateFactId context context.turnNumber.increment seq
    else allocateFactIdWithReserved context context.turnNumber.increment seq reserved
  unknownId id :=
    invalidOutput "extract_fact_unknown_id" s!"fact {id} does not exist in story context"
  duplicateId id :=
    invalidOutput "extract_fact_duplicate_id" s!"fact {id} was updated more than once"

def rumorRules (context : StoryContext) : ProposalRules .rumor where
  known id := context.rumors.contains id
  allocate seq reserved :=
    if reserved.isEmpty then allocateRumorId context context.turnNumber.increment seq
    else allocateRumorIdWithReserved context context.turnNumber.increment seq reserved
  unknownId id :=
    invalidOutput "extract_rumor_unknown_id" s!"rumor {id} does not exist in story context"
  duplicateId id :=
    invalidOutput "extract_rumor_duplicate_id" s!"rumor {id} was targeted more than once"

def memoryRules (context : StoryContext) (roleId : RoleId) (role : RoleEntry) :
    ProposalRules .memory where
  known id := role.memories.contains id
  allocate seq reserved :=
    if reserved.isEmpty then allocateMemoryId context roleId context.turnNumber.increment seq
    else allocateMemoryIdWithReserved context roleId context.turnNumber.increment seq reserved
  unknownId id :=
    invalidOutput "extract_memory_unknown_id" s!"memory {id} does not exist for role {roleId}"
  duplicateId id :=
    invalidOutput "extract_memory_duplicate_id"
      s!"memory {id} was updated more than once for role {roleId}"

/-- The loop over `roles_for_memory`. -/
def checkRolesForMemory (context : StoryContext) (seen : Std.ExtTreeSet RoleId) :
    List RoleId → Except PipelineError Unit
  | [] => .ok ()
  | roleId :: rest => do
    rejectIf (!context.roles.contains roleId) (roleUnknown roleId)
    rejectIf (seen.contains roleId) (invalidOutput "extract_role_duplicate"
      s!"role {roleId} was selected more than once in roles_for_memory")
    checkRolesForMemory context (seen.insert roleId) rest

def resolveWorldKnowledge (context : StoryContext) (config : ExtractConfig)
    (factProposals : List FactProposal) (rumorProposals : List RumorProposal)
    (rolesForMemory : List RoleId) : Except PipelineError WorldKnowledgeExtraction := do
  rejectIf (factProposals.length > config.maxFactChanges)
    (invalidOutput "extract_fact_changes_exceeded"
      s!"fact changes {factProposals.length} exceeded limit {config.maxFactChanges}")
  rejectIf (rumorProposals.length > config.maxRumorChanges)
    (invalidOutput "extract_rumor_changes_exceeded"
      s!"rumor changes {rumorProposals.length} exceeded limit {config.maxRumorChanges}")
  rejectIf (rolesForMemory.length > config.maxRolesForMemory)
    (invalidOutput "extract_roles_for_memory_exceeded"
      s!"roles_for_memory {rolesForMemory.length} exceeded limit {config.maxRolesForMemory}")
  let facts ← resolveProposals (factRules context) ∅ ∅ 0 (factProposals.map FactProposal.view)
  let rumors ← resolveProposals (rumorRules context) ∅ ∅ 0 (rumorProposals.map RumorProposal.view)
  checkRolesForMemory context ∅ rolesForMemory
  return { facts, rumors, rolesForMemory }

def resolveRoleMemories (context : StoryContext) (config : ExtractConfig) (roleId : RoleId)
    (proposals : List RoleMemoryProposal) : Except PipelineError (List RoleMemoryChangeOp) :=
  match context.roles[roleId]? with
  | none => .error (roleUnknown roleId)
  | some role => do
    rejectIf (proposals.length > config.maxMemoryChangesPerRole)
      (invalidOutput "extract_memory_changes_exceeded"
        s!"memory changes {proposals.length} for role {roleId} exceeded limit {config.maxMemoryChangesPerRole}")
    resolveProposals (memoryRules context roleId role) ∅ ∅ 0
      (proposals.map (RoleMemoryProposal.view roleId))

def assembleKnowledgeChange (worldExtraction : WorldKnowledgeExtraction)
    (roleMemories : List (List RoleMemoryChangeOp)) : KnowledgeChange where
  facts := worldExtraction.facts
  rumors := worldExtraction.rumors
  memories := roleMemories.flatten

/-- One call for each selected role; `buffered` keeps their order. -/
def extractRoleMemories (context : StoryContext) (config : ExtractConfig)
    (memoryProposals : RoleId → List RoleMemoryProposal) (rolesForMemory : List RoleId) :
    Except PipelineError (List (List RoleMemoryChangeOp)) :=
  rolesForMemory.mapM fun roleId =>
    resolveRoleMemories context config roleId (memoryProposals roleId)

/-- The knowledge part of `ExtractPipeline::execute`, from the parsed proposals. -/
def extractKnowledge (context : StoryContext) (config : ExtractConfig)
    (factProposals : List FactProposal) (rumorProposals : List RumorProposal)
    (rolesForMemory : List RoleId) (memoryProposals : RoleId → List RoleMemoryProposal) :
    Except PipelineError KnowledgeChange := do
  let worldExtraction ←
    resolveWorldKnowledge context config factProposals rumorProposals rolesForMemory
  let roleMemories ←
    extractRoleMemories context config memoryProposals worldExtraction.rolesForMemory
  return assembleKnowledgeChange worldExtraction roleMemories

end Aise
