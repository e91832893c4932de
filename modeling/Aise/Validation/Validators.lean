import Aise.Lib.Distinct
import Aise.Validation.ChangeSet

/-! The deterministic validators: what has to be right about a turn before a change set is built. -/
namespace Aise.Domain
open RustText Saturating

/-! ### Issues -/

/-- `u32::try_from(index).ok()`. -/
def indexOf32 (index : Nat) : Option UInt32 :=
  if index < UInt32.size then some (UInt32.ofNat index) else none

/-- An issue about an item of a list of the extraction. -/
def itemIssue (code : ValidationIssueCode) (path : String) (index : Nat) (message : String) :
    ValidationIssue where
  code := code
  issueClass := .extraction
  remedy := .reextractState
  message := message
  location := some { path := s!"{path}[{index}]", itemIndex := indexOf32 index }

def countIssueAt := itemIssue .extractionCountExceeded

def duplicateIssue := itemIssue .extractionDuplicateTarget

def referenceIssue := itemIssue .referenceMissing

def countIssue (path message : String) : ValidationIssue where
  code := .extractionCountExceeded
  issueClass := .extraction
  remedy := .reextractState
  message := message
  location := some { path, itemIndex := none }

def castPolicyIssue (path message : String) : ValidationIssue where
  code := .castPolicyViolation
  issueClass := .story
  remedy := .repairStory
  message := message
  location := some { path, itemIndex := none }

def newRoleIssue (index : Nat) (message : String) : ValidationIssue :=
  itemIssue .newRoleInvalid "new_roles" index message

def trustIssue (index : Nat) : ValidationIssue :=
  itemIssue .domainInvariantViolated "relationship_states" index
    "relationship trust is outside the domain's accepted range"

/-- `if bad { issues.push(issue) }`. -/
def issueIf (bad : Prop) [Decidable bad] (issue : ValidationIssue) : List ValidationIssue :=
  if bad then [issue] else []

theorem issueIf_eq_nil {bad : Prop} [Decidable bad] {issue : ValidationIssue} :
    issueIf bad issue = [] ↔ ¬bad := by
  unfold issueIf
  split
  · simpa
  · simpa

/-- The issues of a loop over the items of a list. -/
def eachItem {α : Type} (items : List α) (check : Nat → α → List ValidationIssue) :
    List ValidationIssue :=
  items.zipIdx.flatMap fun entry => check entry.2 entry.1

theorem eachItem_eq_nil {α : Type} {items : List α} {check : Nat → α → List ValidationIssue} :
    eachItem items check = [] ↔ ∀ index item, items[index]? = some item → check index item = [] := by
  rw [eachItem, List.flatMap_eq_nil_iff]
  constructor
  · intro clean index item found
    exact clean (item, index) (List.mem_zipIdx_iff_getElem?.mpr found)
  · rintro clean ⟨item, index⟩ member
    exact clean index item (List.mem_zipIdx_iff_getElem?.mp member)

/-- A loop whose checks do not look at the index. -/
theorem forall_of_eachItem {α : Type} {items : List α} {check : Nat → α → List ValidationIssue}
    {P : α → Prop} (clean : eachItem items check = [])
    (checks : ∀ index item, check index item = [] → P item) {item : α} (member : item ∈ items) :
    P item := by
  obtain ⟨index, found⟩ := List.mem_iff_getElem?.mp member
  exact checks index item (eachItem_eq_nil.mp clean index item found)

/-! ### Story bounds -/

def storyBounds (turn : CandidateTurn) : List ValidationIssue :=
  match turn.story with
  | none => []
  | some story =>
    let tokens := estimateTextTokens story.storyText.value
    issueIf (tokens > turn.limits.maxOutputTokens) {
      code := .storyTextExceedsBounds
      issueClass := .story
      remedy := .repairStory
      message := s!"story text estimated tokens {tokens.toNat} exceed the output budget"
      location := some { path := "story_text", itemIndex := none } }

/-! ### The schema of an extraction -/

section
variable (limits : StoryStateExtractionLimits)

def countIssues (dto : StoryStateExtractionDto) : List ValidationIssue :=
  issueIf (dto.newRoles.length > limits.maxNewRoles)
    (countIssue "new_roles" "new role count exceeds its bound") ++
  issueIf (dto.roleStates.length > limits.maxRoleStates)
    (countIssue "role_states" "role state count exceeds its bound") ++
  issueIf (dto.relationshipStates.length > limits.maxRelationshipStates)
    (countIssue "relationship_states" "relationship state count exceeds its bound") ++
  [("add_facts", dto.addFacts.length), ("update_facts", dto.updateFacts.length),
    ("add_rumors", dto.addRumors.length), ("update_rumors", dto.updateRumors.length),
    ("delete_rumor_ids", dto.deleteRumorIds.length), ("add_memories", dto.addMemories.length),
    ("update_memories", dto.updateMemories.length),
    ("delete_memory_ids", dto.deleteMemoryIds.length)].flatMap (fun (path, count) =>
      issueIf (count > limits.maxKnowledgeItems)
        (countIssue path "knowledge change count exceeds its bound")) ++
  issueIf (dto.narrativeConditionJudgments.length > limits.maxConditionQueries)
    (countIssue "narrative_condition_judgments"
      "narrative condition judgment count exceeds its bound") ++
  issueIf (dto.castPolicyViolations.length > limits.maxCastPolicyViolations)
    (countIssue "cast_policy_violations" "cast policy violation count exceeds its bound")

/-- What is wrong with a new role, of which it is known whether its id was seen before. -/
def newRoleIssues (index : Nat) (entry : NewRoleDto × Bool) : List ValidationIssue :=
  let role := entry.1
  issueIf (entry.2 = true) (duplicateIssue "new_roles" index "duplicate role_id in new_roles") ++
  issueIf (isBlank role.name = true ∨ len role.name > limits.maxRoleProfileBytes)
    (countIssueAt "new_roles" index "name is empty or exceeds its bound") ++
  issueIf (isBlank role.narrativeFunction = true ∨
      len role.narrativeFunction > limits.maxRoleProfileBytes)
    (countIssueAt "new_roles" index "narrative_function is empty or exceeds its bound") ++
  [role.roleLabel, role.background, role.appearance, role.personality, role.speakingStyle].flatMap
    (fun field => issueIf (len field > limits.maxRoleProfileBytes)
      (countIssueAt "new_roles" index "role profile field exceeds its bound")) ++
  issueIf (role.goals.length > limits.maxGoalsPerRole)
    (countIssueAt "new_roles" index "role goals exceed their bound") ++
  issueIf (role.attributes.size > limits.maxAttributesPerRole)
    (countIssueAt "new_roles" index "role attributes exceed their bound")

/-- What is wrong with the state of a role, of which it is known whether its id was seen before. -/
def roleStateIssues (index : Nat) (entry : RoleStateDto × Bool) : List ValidationIssue :=
  let state := entry.1
  issueIf (entry.2 = true)
    (duplicateIssue "role_states" index "role_id also appears in new_roles") ++
  issueIf (entry.2 = true)
    (duplicateIssue "role_states" index "duplicate role_id in role_states") ++
  issueIf (state.goals.length > limits.maxGoalsPerRole)
    (countIssueAt "role_states" index "role goals exceed their bound") ++
  issueIf (state.attributes.size > limits.maxAttributesPerRole)
    (countIssueAt "role_states" index "role attributes exceed their bound") ++
  state.goals.flatMap fun goal =>
    issueIf (isBlank goal = true ∨ len goal > limits.maxItemBytes)
      (countIssueAt "role_states" index "role goal is empty or oversized")

def validateContent (content retrievalHint path : String) (index : Nat) : List ValidationIssue :=
  issueIf (isBlank content = true ∨ len content > limits.maxKnowledgeChangeBytes)
    (countIssueAt path index "knowledge content is empty or exceeds its bound") ++
  issueIf (retrievalHint ≠ "" ∧ len retrievalHint > 256)
    (countIssueAt path index "retrieval_hint exceeds its bound")

def memoryContentIssues (content path : String) (index : Nat) : List ValidationIssue :=
  issueIf (isBlank content = true ∨ len content > limits.maxKnowledgeChangeBytes)
    (countIssueAt path index "memory content is empty or exceeds its bound")

/-- What is wrong with a target that was seen before. -/
def targetIssues {α : Type} (path message : String) (index : Nat) (entry : α × Bool) :
    List ValidationIssue :=
  issueIf (entry.2 = true) (duplicateIssue path index message)

def RelationshipStateDto.key (relationship : RelationshipStateDto) : String × String × String :=
  (relationship.sourceRoleId, relationship.targetRoleId, relationship.kind)

def roleSchemaIssues (dto : StoryStateExtractionDto) : List ValidationIssue :=
  eachItem (Distinct.marks (·.roleId) [] dto.newRoles) (newRoleIssues limits) ++
  eachItem (Distinct.marks (·.roleId) (dto.newRoles.map (·.roleId)).reverse dto.roleStates)
    (roleStateIssues limits) ++
  eachItem (Distinct.marks (·.key) [] dto.relationshipStates)
    (targetIssues "relationship_states" "duplicate relationship key in relationship_states")

def factSchemaIssues (dto : StoryStateExtractionDto) : List ValidationIssue :=
  eachItem dto.addFacts (fun index draft =>
    validateContent limits draft.content draft.retrievalHint "add_facts" index) ++
  eachItem (Distinct.marks (·.id) [] dto.updateFacts) fun index entry =>
    targetIssues "update_facts" "duplicate update_facts target" index entry ++
    validateContent limits entry.1.content entry.1.retrievalHint "update_facts" index

def rumorSchemaIssues (dto : StoryStateExtractionDto) : List ValidationIssue :=
  eachItem dto.addRumors (fun index draft =>
    validateContent limits draft.content draft.retrievalHint "add_rumors" index) ++
  eachItem (Distinct.marks (·.id) [] dto.updateRumors) (fun index entry =>
    targetIssues "update_rumors" "duplicate update_rumors target" index entry ++
    validateContent limits entry.1.content entry.1.retrievalHint "update_rumors" index) ++
  eachItem (Distinct.marks id (dto.updateRumors.map (·.id)).reverse dto.deleteRumorIds)
    (targetIssues "delete_rumor_ids" "duplicate rumor mutation target")

def memorySchemaIssues (dto : StoryStateExtractionDto) : List ValidationIssue :=
  eachItem dto.addMemories (fun index draft =>
    memoryContentIssues limits draft.content "add_memories" index) ++
  eachItem (Distinct.marks (·.id) [] dto.updateMemories) (fun index entry =>
    targetIssues "update_memories" "duplicate update_memories target" index entry ++
    memoryContentIssues limits entry.1.content "update_memories" index) ++
  eachItem (Distinct.marks id (dto.updateMemories.map (·.id)).reverse dto.deleteMemoryIds)
    (targetIssues "delete_memory_ids" "duplicate memory mutation target")

def judgmentIssues (index : Nat) (judgment : NarrativeConditionJudgmentDto) :
    List ValidationIssue :=
  issueIf (isValidKey judgment.conditionKey = false)
    (countIssueAt "narrative_condition_judgments" index
      "condition_key does not resolve to a valid identifier") ++
  issueIf (len judgment.evidence > limits.maxConditionEvidenceBytes)
    (countIssueAt "narrative_condition_judgments" index "evidence exceeds its bound") ++
  issueIf (len judgment.reason > limits.maxConditionReasonBytes)
    (countIssueAt "narrative_condition_judgments" index "reason exceeds its bound")

def violationIssues (index : Nat) (violation : String) : List ValidationIssue :=
  issueIf (isBlank violation = true)
    (countIssueAt "cast_policy_violations" index "violation reason must not be empty")

/-- `ExtractionSchemaValidator`. -/
def extractionSchema (turn : CandidateTurn) : List ValidationIssue :=
  match turn.extraction with
  | none => []
  | some extraction =>
    let dto := extraction.state
    let limits := turn.limits.stateExtraction
    countIssues limits dto ++ roleSchemaIssues limits dto ++ factSchemaIssues limits dto ++
      rumorSchemaIssues limits dto ++ memorySchemaIssues limits dto ++
      eachItem dto.narrativeConditionJudgments (judgmentIssues limits) ++
      eachItem dto.castPolicyViolations violationIssues

end

/-! ### References -/

/-- `modifiable_knowledge_index`. The last entry for an identifier is the one that counts. -/
def modifiableKnowledgeIndex (turn : CandidateTurn) : BTreeMap KnowledgeSourceId KnowledgeKind :=
  let relevant := match turn.baseline with
    | some baseline => baseline.relevantWorldKnowledge.facts.map (fun item => (item.sourceId, .fact)) ++
        baseline.relevantWorldKnowledge.rumors.map (fun item => (item.sourceId, .rumor))
    | none => []
  let world := turn.retrieved.world.facts.map (fun item => (item.sourceId, KnowledgeKind.fact)) ++
    turn.retrieved.world.rumors.map (fun item => (item.sourceId, .rumor))
  let characters := (valuesOf turn.retrieved.characters).flatMap fun character =>
    character.knownRumors.map (fun item => (item.sourceId, KnowledgeKind.rumor)) ++
      character.memories.map (fun item => (item.sourceId, .memory))
  (relevant ++ world ++ characters).foldl (fun index entry => index.insert entry.1 entry.2) ∅

def modifiableContains (modifiable : BTreeMap KnowledgeSourceId KnowledgeKind) (kind : KnowledgeKind)
    (rawId : String) : Bool :=
  (knowledgeIdOf kind rawId).any fun id => modifiable[id.1]? = some kind

def NarrativeEffectDefinition.mentions (location : AssetKey) : NarrativeEffectDefinition → Bool
  | .worldEvent _ _ participants place _ =>
    place = some location || participants.any (· = .location location)
  | .characterImpulse .. => false

def locationKeyResolves (snapshot : StorySnapshot) (raw : String) : Bool :=
  (AssetKey.tryNew raw).any fun key =>
    (valuesOf snapshot.roles).any (·.state.location = key) ||
      (valuesOf snapshot.narrativeDefinition.nodes).any fun node =>
        (node.effects.onActivate ++ node.effects.onComplete).any (·.mentions key)

/-- The roles of the story, and those that the extraction introduces. -/
def knownRoles (snapshot : StorySnapshot) (dto : StoryStateExtractionDto) : List RoleId :=
  snapshot.roles.keys ++ dto.newRoles.filterMap fun role => RoleId.tryNew role.roleId

def resolvesTo (known : List RoleId) (raw : String) : Bool :=
  (RoleId.tryNew raw).any (· ∈ known)

def sourceRoleResolves (known : List RoleId) (raw : String) : Bool :=
  isBlank raw || resolvesTo known raw

section
variable (snapshot : StorySnapshot) (known : List RoleId)
  (modifiable : BTreeMap KnowledgeSourceId KnowledgeKind)

def newRoleReferenceIssues (index : Nat) (role : NewRoleDto) : List ValidationIssue :=
  (match RoleId.tryNew role.roleId with
  | some roleId => issueIf (roleId ∈ snapshot.roles)
      (referenceIssue "new_roles" index "role_id already exists in the story")
  | none => [referenceIssue "new_roles" index "role_id does not resolve to a valid identifier"]) ++
  issueIf (locationKeyResolves snapshot role.location = false)
    (referenceIssue "new_roles" index "location does not resolve to a known location")

def roleStateReferenceIssues (index : Nat) (state : RoleStateDto) : List ValidationIssue :=
  issueIf (resolvesTo known state.roleId = false)
    (referenceIssue "role_states" index "role_id is not a known role") ++
  issueIf (locationKeyResolves snapshot state.location = false)
    (referenceIssue "role_states" index "location does not resolve to a known location")

def relationshipReferenceIssues (index : Nat) (relationship : RelationshipStateDto) :
    List ValidationIssue :=
  issueIf (¬(resolvesTo known relationship.sourceRoleId = true ∧
      resolvesTo known relationship.targetRoleId = true))
    (referenceIssue "relationship_states" index "relationship references an unknown role")

/-- A target that cannot be modified. -/
def modifiableIssues (kind : KnowledgeKind) (path message : String) (index : Nat) (rawId : String) :
    List ValidationIssue :=
  issueIf (modifiableContains modifiable kind rawId = false) (referenceIssue path index message)

def sourceRoleIssues (path : String) (index : Nat) (raw : String) : List ValidationIssue :=
  issueIf (sourceRoleResolves known raw = false)
    (referenceIssue path index "source_role_id is not a known role")

end

/-- `ReferenceValidator`. -/
def reference (turn : CandidateTurn) : List ValidationIssue :=
  match turn.extraction, turn.snapshot with
  | some extraction, some snapshot =>
    let dto := extraction.state
    let known := knownRoles snapshot dto
    let modifiable := modifiableKnowledgeIndex turn
    eachItem dto.newRoles (newRoleReferenceIssues snapshot) ++
    eachItem dto.roleStates (roleStateReferenceIssues snapshot known) ++
    eachItem dto.relationshipStates (relationshipReferenceIssues known) ++
    eachItem dto.addRumors (fun index draft =>
      sourceRoleIssues known "add_rumors" index draft.sourceRoleId) ++
    eachItem dto.updateRumors (fun index update =>
      sourceRoleIssues known "update_rumors" index update.sourceRoleId ++
      modifiableIssues modifiable .rumor "update_rumors" "update target is not modifiable" index
        update.id) ++
    eachItem dto.addMemories (fun index draft =>
      issueIf (resolvesTo known draft.ownerRoleId = false)
        (referenceIssue "add_memories" index "owner_role_id is not a known role")) ++
    eachItem dto.updateMemories (fun index update =>
      modifiableIssues modifiable .memory "update_memories" "update target is not modifiable" index
        update.id) ++
    eachItem dto.updateFacts (fun index update =>
      modifiableIssues modifiable .fact "update_facts" "update target is not modifiable" index
        update.id) ++
    eachItem dto.deleteRumorIds
      (modifiableIssues modifiable .rumor "delete_rumor_ids" "delete target is not modifiable") ++
    eachItem dto.deleteMemoryIds
      (modifiableIssues modifiable .memory "delete_memory_ids" "delete target is not modifiable")
  | _, _ => []

/-! ### Domain invariants -/

def dynamicRoleIdPrefix : List Char := "role_".toList

def dynamicRoleId (sequence : Nat) : String :=
  String.ofList (dynamicRoleIdPrefix ++ formatKnowledgeSequence sequence)

inductive RoleIdAllocationError where
  | allocationOverflow
  | panic (message : String)
  deriving DecidableEq

/-- `Option::expect`. -/
def RoleIdAllocationError.expect (value : Option α) (message : String) :
    Except RoleIdAllocationError α :=
  match value with
  | some value => .ok value
  | none => .error (.panic message)

/-- The loop of `allocate_dynamic_role_candidates`. -/
def dynamicRoleCandidatesFrom : (next : UInt64) → (maximum : Nat) →
    Except RoleIdAllocationError (List RoleId)
  | _, 0 => .ok []
  | next, maximum + 1 => do
    let next ← if next.toNat + 1 < UInt64.size then .ok (next + 1) else .error .allocationOverflow
    let sequence ← RoleIdAllocationError.expect (NonZeroU64.new next)
      "checked_add(1) from a non-negative base is non-zero"
    let roleId ← RoleIdAllocationError.expect (RoleId.tryNew (dynamicRoleId sequence.1.toNat))
      "dynamic role id grammar is valid by construction"
    let candidates ← dynamicRoleCandidatesFrom next maximum
    .ok (roleId :: candidates)

/-- The texts of the identifiers that a turn may give to new roles, one after the other. -/
def allocateDynamicRoleCandidates (next : UInt64) (maximum : Nat) : Option (List String) :=
  (dynamicRoleCandidatesFrom next maximum).toOption.map (·.map (·.value))

def candidateIssues (pool : List String) (index : Nat) (role : NewRoleDto) : List ValidationIssue :=
  issueIf (¬((RoleId.tryNew role.roleId).any fun roleId => pool.idxOf? roleId.value = some index))
    (newRoleIssue index "role_id must be the next unused dynamic candidate in rendered order")

def candidatePoolIssues (highWater : UInt64) (newRoles : List NewRoleDto) : List ValidationIssue :=
  match allocateDynamicRoleCandidates highWater newRoles.length with
  | some pool => eachItem newRoles (candidateIssues pool)
  | none => [newRoleIssue 0 "dynamic role id allocation overflowed"]

/-- `DomainInvariantValidator`. -/
def domainInvariant (turn : CandidateTurn) : List ValidationIssue :=
  match turn.extraction, turn.snapshot with
  | some extraction, some snapshot =>
    let dto := extraction.state
    issueIf (dto.castPolicyViolations ≠ []) (castPolicyIssue "cast_policy_violations"
      "extractor reported a material cast policy violation that requires narrative repair") ++
    issueIf (snapshot.castPolicy ≠ .open ∧ dto.newRoles ≠ []) (castPolicyIssue "new_roles"
      "new roles are not permitted under the configured cast policy") ++
    (if dto.newRoles = [] then [] else candidatePoolIssues snapshot.roleIdHighWater dto.newRoles) ++
    eachItem dto.relationshipStates fun index relationship =>
      issueIf (trustOf relationship.trust = none) (trustIssue index)
  | _, _ => []

/-! ### Changes only -/

def StoryRoleState.unchanged (current : StoryRoleState) (state : RoleStateDto) : Bool :=
  current.location.asStr = state.location && current.goals.map (·.value) = state.goals &&
    current.attributes.size = state.attributes.size &&
    current.attributes.toList.all fun (key, value) => state.attributes[key]? = some value

section
variable (snapshot : StorySnapshot)

def unchangedRoleIssues (index : Nat) (state : RoleStateDto) : List ValidationIssue :=
  issueIf (((RoleId.tryNew state.roleId).bind snapshot.role).any (·.state.unchanged state))
    (itemIssue .unchangedRoleEmitted "role_states" index
      "role state is identical to the pre-turn snapshot")

/-- The key that the texts of a relationship resolve to. -/
def RelationshipStateDto.resolvedKey (relationship : RelationshipStateDto) :
    Option RelationshipKey := do
  let source ← RoleId.tryNew relationship.sourceRoleId
  let target ← RoleId.tryNew relationship.targetRoleId
  let kind ← AssetKey.tryNewSemantic relationship.kind
  return (source, target, kind.asStr)

def unchangedRelationshipIssues (index : Nat) (relationship : RelationshipStateDto) :
    List ValidationIssue :=
  issueIf ((relationship.resolvedKey.bind fun key =>
      snapshot.relationships.find? (·.key = key)).any
        fun current => current.trust.toInt = relationship.trust.toInt)
    (itemIssue .unchangedRelationshipEmitted "relationship_states" index
      "relationship state is identical to the pre-turn snapshot")

end

/-- `ChangedOnlyValidator`. -/
def changedOnly (turn : CandidateTurn) : List ValidationIssue :=
  match turn.extraction, turn.snapshot with
  | some extraction, some snapshot =>
    eachItem extraction.state.roleStates (unchangedRoleIssues snapshot) ++
      eachItem extraction.state.relationshipStates (unchangedRelationshipIssues snapshot)
  | _, _ => []

/-- `StoryStateConsistencyValidator`, which finds nothing. -/
def storyStateConsistency (_ : CandidateTurn) : List ValidationIssue := []

/-- `run_deterministic`. -/
def runDeterministic (turn : CandidateTurn) : List ValidationIssue :=
  storyBounds turn ++ extractionSchema turn ++ reference turn ++ domainInvariant turn ++
    changedOnly turn ++ storyStateConsistency turn

end Aise.Domain
