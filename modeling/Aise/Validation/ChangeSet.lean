import Aise.Domain.Narrative.Stored
import Aise.Lib.Label
import Aise.Turn.Extraction
import Aise.Turn.TurnContext

/-! The change set that is built of a turn that was found valid, and what its narrative conditions
are evaluated on before it is committed. -/
namespace Aise.Domain
open RustText Saturating SerdeJson

/-! ### Change sets -/

structure RoleStateChange where
  roleId : RoleId
  newState : StoryRoleState
  deriving DecidableEq

abbrev RelationshipKey := RoleId × RoleId × String

structure RelationshipStateChange where
  key : RelationshipKey
  newState : RelationshipState
  deriving DecidableEq

inductive ValidatedRelationshipOperation where
  | add (state : RelationshipState)
  | update (change : RelationshipStateChange)
  deriving DecidableEq

def ValidatedRelationshipOperation.newState : ValidatedRelationshipOperation → RelationshipState
  | .add state => state
  | .update change => change.newState

inductive EventKind where
  | dialogue | action | worldChange | chapter
  deriving DecidableEq

def eventId (storyId : StoryId) (turnNumber : TurnNumber) (index : Nat) : String :=
  s!"{storyId.value}:turn:{turnNumber.get.toNat}:event:{index}"

/-- An event is always named after the turn it belongs to. -/
structure StoryEvent where
  id : String
  turnNumber : TurnNumber
  seq : UInt32
  kind : EventKind
  payload : Json
  named : ∃ storyId index, id = eventId storyId turnNumber index

structure ValidatedNarrativeResolution where
  candidateVersion : StoryCandidateVersion
  transitions : List ProposedNarrativeTransition
  conditionResults : BTreeMap AssetKey NarrativeTruthValue
  pendingEffects : List PendingNarrativeEffect
  nextGraphRevision : UInt64

inductive StateChange (α : Type) where
  | unchanged
  | replace (value : α)

structure ValidatedChangeSetParts where
  storyText : BoundedText
  newRoles : List StoryRole
  roleChanges : List RoleStateChange
  relationshipOperations : List ValidatedRelationshipOperation
  knowledgeMutations : List ValidatedKnowledgeMutation
  knowledgeIdHighWater : UInt64
  nextRoleIdHighWater : UInt64
  narrativeEvents : List StoryEvent
  narrativeResolution : ValidatedNarrativeResolution
  constraintChange : StateChange (List ActiveStoryConstraint)

/-- A change set always tells something. -/
structure ValidatedChangeSet extends ValidatedChangeSetParts where
  told : isBlank storyText.value = false

/-- `ValidatedChangeSet::new`. -/
def ValidatedChangeSet.new (parts : ValidatedChangeSetParts) :
    Except TurnExecutionError ValidatedChangeSet :=
  if told : isBlank parts.storyText.value = false then .ok ⟨parts, told⟩
  else .error ⟨.validationRejected, "story_text_empty", some .validation,
    "validated change set requires non-empty story text"⟩

/-! ### What validation reads -/

structure TurnValidationLimits where
  maxStoryTextBytes : Nat
  maxItemBytes : Nat
  maxKnowledgeChangeBytes : Nat
  maxOutputTokens : UInt64
  stateExtraction : StoryStateExtractionLimits
  activationRules : ActivationRuleLimits
  narrative : NarrativeLimits

/-- The part of a `TurnExecutionContext` that validation reads. -/
structure CandidateTurn where
  storyId : StoryId
  turnNumber : TurnNumber
  startedAtMs : Int64
  limits : TurnValidationLimits
  snapshot : Option StorySnapshot := none
  baseline : Option BaselineContext := none
  retrieved : RetrievedContext := {}
  narrativeProjection : Option NarrativeProjection := none
  story : Option StoryGeneratorOutput := none
  extraction : Option StoryStateExtractionEnvelope := none

/-! ### The candidate view -/

section
variable (snapshot : StorySnapshot) (newRoles : List StoryRole) (roleChanges : List RoleStateChange)
  (relationshipOperations : List ValidatedRelationshipOperation)

/-- `CandidateNarrativeStateView`. -/
def candidateView : NarrativeStateView where
  factValue := snapshot.committedView.factValue
  roleAttribute roleId name :=
    match roleChanges.find? (·.roleId = roleId) with
    | some change => .ok (change.newState.attribute name)
    | none => match newRoles.find? (·.roleId = roleId) with
      | some role => .ok (role.state.attribute name)
      | none => snapshot.committedView.roleAttribute roleId name
  relationshipTrust source target :=
    match relationshipOperations.find? fun operation =>
        operation.newState.sourceRoleId = source ∧ operation.newState.targetRoleId = target with
    | some operation => .ok (some operation.newState.trust)
    | none => snapshot.committedView.relationshipTrust source target
  roleController roleId :=
    if newRoles.any (·.roleId = roleId) then .ok .ai
    else snapshot.committedView.roleController roleId

end

/-! ### Fields -/

def invariant (code message : String) : TurnExecutionError :=
  ⟨.invariantViolation, code, some .validation, message⟩

def bounded (value field : String) (maximum : Nat) : Except TurnExecutionError BoundedText :=
  (BoundedText.tryNew (trim value) field maximum).mapError fun _ =>
    invariant "model_output_invalid" s!"{field} exceeds its bound"

def optionalBounded (value field : String) (maximum : Nat) :
    Except TurnExecutionError (Option BoundedText) :=
  if trim value = "" then .ok none
  else return some (← bounded (trim value) field maximum)

def ExtractionEnrichmentError.message : ExtractionEnrichmentError → String
  | contentExceedsBudget => "knowledge content exceeds its configured byte budget"
  | invalidRetrievalHint => "retrieval_hint is invalid"
  | invalidActivationRule => "activation rule is invalid"
  | allocationOverflow => "knowledge id allocation overflowed"
  | unknownTarget => "update/delete target does not reference a known knowledge item"
  | unknownSourceRole => "rumor source_role_id does not reference a known role"
  | unknownOwnerRole => "memory owner_role_id does not reference a known role"
  | invalidMemoryKind => "memory_kind is invalid"
  | ordinalOverflow => "knowledge change count exceeds a u32 ordinal"

def NarrativeError.message : NarrativeError → String
  | missingReference key => s!"narrative reference is missing: {key}"
  | conditionDepthExceeded => "narrative condition depth limit exceeded"
  | conditionCountExceeded => "narrative condition count limit exceeded"
  | semanticCriterionConflict key =>
    s!"narrative semantic condition key {key} is reused with a different criterion"
  | semanticConditionLimitExceeded => "narrative semantic condition count limit exceeded"
  | frontierLimitExceeded => "narrative frontier node limit exceeded"
  | semanticQueryLimitExceeded => "narrative semantic query count limit exceeded"
  | semanticQueryByteLimitExceeded => "narrative semantic query byte limit exceeded"
  | transitionLimitExceeded => "narrative transition limit exceeded"
  | pendingEffectLimitExceeded => "narrative pending effect limit exceeded"
  | graphRevisionMismatch => "narrative graph revision mismatch"
  | invariant code => s!"narrative invariant violated: {code}"

/-! ### Roles and relationships -/

section
variable (limits : TurnValidationLimits)

def roleGoals (goals : List String) : Except TurnExecutionError (List BoundedText) :=
  goals.mapM fun goal => bounded goal "role_goal" limits.maxItemBytes

def buildNewRole (role : NewRoleDto) : Except TurnExecutionError StoryRole := do
  let roleId ← Result.okOr (RoleId.tryNew role.roleId)
    (invariant "new_role_id_invalid" "new role id does not resolve")
  let location ← Result.okOr (AssetKey.tryNew role.location)
    (invariant "new_role_location_invalid" "new role location does not resolve")
  let goals ← roleGoals limits role.goals
  let profileBytes := limits.stateExtraction.maxRoleProfileBytes
  let roleLabel ← bounded role.roleLabel "role_label" profileBytes
  let narrativeFunction ← bounded role.narrativeFunction "narrative_function" profileBytes
  let background ← optionalBounded role.background "background" profileBytes
  let name ← bounded role.name "name" profileBytes
  let appearance ← optionalBounded role.appearance "appearance" profileBytes
  let personality ← optionalBounded role.personality "personality" profileBytes
  let speakingStyle ← optionalBounded role.speakingStyle "speaking_style" profileBytes
  return {
    roleId
    controller := .ai
    roleLabel
    narrativeFunction
    background
    effectiveProfile := { name, appearance, personality, speakingStyle }
    state := { location, goals, attributes := role.attributes } }

def buildRoleChange (state : RoleStateDto) : Except TurnExecutionError RoleStateChange := do
  let roleId ← Result.okOr (RoleId.tryNew state.roleId)
    (invariant "role_change_reference" "role_id is not a known role")
  let location ← Result.okOr (AssetKey.tryNew state.location)
    (invariant "role_change_location_invalid" "role location does not resolve")
  let goals ← roleGoals limits state.goals
  return { roleId, newState := { location, goals, attributes := state.attributes } }

/-- `i16::try_from(trust).ok()`. -/
def trustOf (trust : Int64) : Option Int16 :=
  if -2 ^ 15 ≤ trust.toInt ∧ trust.toInt < 2 ^ 15 then some (Int16.ofInt trust.toInt) else none

def buildRelationshipOperation (relationships : List RelationshipState)
    (relationship : RelationshipStateDto) :
    Except TurnExecutionError ValidatedRelationshipOperation := do
  let sourceRoleId ← Result.okOr (RoleId.tryNew relationship.sourceRoleId)
    (invariant "relationship_reference_invalid" "source_role_id does not resolve")
  let targetRoleId ← Result.okOr (RoleId.tryNew relationship.targetRoleId)
    (invariant "relationship_reference_invalid" "target_role_id does not resolve")
  let kind ← Result.okOr (AssetKey.tryNewSemantic relationship.kind)
    (invariant "relationship_kind_invalid" "relationship kind does not resolve")
  let trust ← Result.okOr (trustOf relationship.trust)
    (invariant "relationship_trust_out_of_range" "relationship trust is out of range")
  let newState : RelationshipState := { sourceRoleId, targetRoleId, kind := kind.asStr, trust }
  return if relationships.any (·.key = newState.key) then
    .update { key := newState.key, newState }
  else .add newState

end

/-! ### Events -/

/-- The payload of an event, with the fields of the map in their order. -/
def WorldEventIntent.payload (intent : WorldEventIntent) : Json :=
  .obj [
    ("category", boundedTextCodec.encode intent.category),
    ("description", boundedTextCodec.encode intent.description),
    ("event_key", assetKeyCodec.encode intent.eventKey),
    ("location", locationCodec.encode intent.location),
    ("participants", (Codec.list narrativeParticipantCodec).encode intent.participants)]

def makeEvent (storyId : StoryId) (turnNumber : TurnNumber) (entry : WorldEventIntent × Nat) :
    Except TurnExecutionError StoryEvent :=
  if entry.2 < UInt32.size then .ok {
    id := eventId storyId turnNumber entry.2
    turnNumber
    seq := UInt32.ofNat entry.2
    kind := .worldChange
    payload := entry.1.payload
    named := ⟨storyId, entry.2, rfl⟩ }
  else .error (invariant "event_count_overflow" "event count exceeds u32")

theorem makeEvent_eq_ok {storyId : StoryId} {turnNumber : TurnNumber}
    {entry : WorldEventIntent × Nat} {event : StoryEvent}
    (made : makeEvent storyId turnNumber entry = .ok event) :
    event.id = eventId storyId turnNumber entry.2 ∧ event.payload = entry.1.payload := by
  unfold makeEvent at made
  split at made
  · cases made
    exact ⟨rfl, rfl⟩
  · cases made

/-- The texts of event ids tell stories, turns and positions apart. -/
theorem eventId_inj {storyId other : StoryId} {turnNumber last : TurnNumber} {index next : Nat}
    (same : eventId storyId turnNumber index = eventId other last next) :
    storyId.value = other.value ∧ turnNumber.get.toNat = last.get.toNat ∧ index = next := by
  have labelled : ∀ (story : StoryId) (turn : TurnNumber) (position : Nat),
      eventId story turn position =
        story.value ++ ":turn" ++ ":" ++ Nat.repr turn.get.toNat ++ ":event" ++ ":" ++
          Nat.repr position := by
    intro story turn position
    simp only [eventId, String.append_assoc]
    rfl
  rw [labelled, labelled] at same
  obtain ⟨fronts, positions⟩ := Label.inj_repr same
  obtain ⟨stories, turns⟩ := Label.inj_repr (String.append_left_inj _ |>.mp fronts)
  exact ⟨String.append_left_inj _ |>.mp stories, turns, positions⟩

/-! ### Narrative -/

def NarrativeTransitionKind.target : NarrativeTransitionKind → NarrativeNodeState
  | activate => .active
  | complete => .completed
  | skip => .skipped

/-- The effects that are still waiting, and those that the turn has caused. -/
def carriedEffects (state : NarrativeRuntimeState) (plan : ProjectedNarrativePlan)
    (resolution : NarrativeResolution) : List PendingNarrativeEffect :=
  let delivered := plan.effectDispositions.map (·.effectId)
  (valuesOf state.pendingEffects).filter (fun pending => pending.effectId ∉ delivered) ++
    resolution.pendingEffects

def finalNodes (state : NarrativeRuntimeState) (transitions : List ProposedNarrativeTransition) :
    BTreeMap AssetKey NarrativeNodeState :=
  transitions.foldl (fun nodes transition =>
    nodes.insert transition.nodeKey transition.kind.target) state.nodeStates

/-- Whether a constraint is still active after the turn. -/
def StoryConstraintLifecycle.outlives (committedSequence : StorySequence)
    (nodes : BTreeMap AssetKey NarrativeNodeState) : StoryConstraintLifecycle → Bool
  | persistent => true
  | throughSequence sequence => sequence.get > committedSequence.get
  | untilNarrativeNodeResolved nodeKey =>
    nodes[nodeKey]? ≠ some .completed ∧ nodes[nodeKey]? ≠ some .skipped

def constraintChangeOf (active : List ActiveStoryConstraint) (committedSequence : StorySequence)
    (nodes : BTreeMap AssetKey NarrativeNodeState) : StateChange (List ActiveStoryConstraint) :=
  let constraints := active.filter (·.lifecycle.outlives committedSequence nodes)
  if constraints = active then .unchanged else .replace constraints

/-! ### Building a change set -/

section
variable (externals : Externals) (engine : RegexEngine) (turn : CandidateTurn)

/-- The parts of a turn that a change set is built of. -/
structure CandidateParts where
  story : StoryGeneratorOutput
  extraction : StoryStateExtractionEnvelope
  snapshot : StorySnapshot
  projection : NarrativeProjection

def CandidateTurn.parts : Except TurnExecutionError CandidateParts := do
  let story ← Result.okOr turn.story (invariant "missing_story" "no candidate story produced")
  let extraction ← Result.okOr turn.extraction
    (invariant "missing_extraction" "no state extraction produced")
  let snapshot ← Result.okOr turn.snapshot
    (invariant "missing_snapshot" "no story snapshot available")
  let projection ← Result.okOr turn.narrativeProjection
    (invariant "missing_narrative_projection" "no narrative projection available")
  return { story, extraction, snapshot, projection }

def CandidateTurn.enrichmentContext : KnowledgeEnrichmentContext where
  retrieved := turn.retrieved
  turnNumber := turn.turnNumber
  createdAtMs := turn.startedAtMs
  maxContentBytes := turn.limits.maxKnowledgeChangeBytes
  maxActivationTerms := turn.limits.stateExtraction.maxActivationTerms
  maxActivationPatternBytes := turn.limits.stateExtraction.maxActivationPatternBytes
  activationRuleLimits := turn.limits.activationRules

/-- The role, relationship and knowledge parts of a change set. -/
structure StateParts where
  newRoles : List StoryRole
  roleChanges : List RoleStateChange
  relationshipOperations : List ValidatedRelationshipOperation
  knowledgeMutations : List ValidatedKnowledgeMutation
  knowledgeIdHighWater : UInt64

def buildStateParts (dto : StoryStateExtractionDto) (snapshot : StorySnapshot) :
    Except TurnExecutionError StateParts := do
  let newRoles ← dto.newRoles.mapM (buildNewRole turn.limits)
  let roleChanges ← dto.roleStates.mapM (buildRoleChange turn.limits)
  let relationshipOperations ← dto.relationshipStates.mapM
    (buildRelationshipOperation snapshot.relationships)
  let (knowledgeMutations, knowledgeIdHighWater) ←
    (enrichExtractedKnowledge externals engine turn.enrichmentContext snapshot newRoles dto).mapError
      fun error => invariant "knowledge_enrichment_failed" error.message
  return { newRoles, roleChanges, relationshipOperations, knowledgeMutations, knowledgeIdHighWater }

def resolutionInput (parts : CandidateParts) (state : StateParts) : NarrativeResolutionInput where
  definition := parts.snapshot.narrativeDefinition
  state := parts.snapshot.narrativeState
  candidateView := candidateView parts.snapshot state.newRoles state.roleChanges
    state.relationshipOperations
  extraction := parts.extraction.toNarrativeExtraction
  currentTurn := add parts.snapshot.baseRevision 1

/-- `build_change_set`. -/
def buildChangeSet : Except TurnExecutionError ValidatedChangeSet := do
  let parts ← turn.parts
  let snapshot := parts.snapshot
  let storyText ← bounded parts.story.storyText.value "story_text" turn.limits.maxStoryTextBytes
  let state ← buildStateParts externals engine turn parts.extraction.state snapshot
  let narrativeEvents ← parts.projection.plan.worldEventIntents.zipIdx.mapM
    (makeEvent turn.storyId turn.turnNumber)
  let resolution ← ((resolutionInput parts state).resolve turn.limits.narrative).mapError
    fun error => invariant "narrative_resolution_failed" error.message
  let committedSequence ← snapshot.storyContinuity.nextSequence.mapError fun _ =>
    invariant "story_sequence_overflow" "failed to assign the committed story sequence"
  ValidatedChangeSet.new {
    storyText
    newRoles := state.newRoles
    roleChanges := state.roleChanges
    relationshipOperations := state.relationshipOperations
    knowledgeMutations := state.knowledgeMutations
    knowledgeIdHighWater := state.knowledgeIdHighWater
    nextRoleIdHighWater := add snapshot.roleIdHighWater (clamp64 state.newRoles.length)
    narrativeEvents
    narrativeResolution := {
      candidateVersion := parts.extraction.candidateVersion
      transitions := resolution.transitions
      conditionResults := resolution.conditionResults
      pendingEffects := carriedEffects snapshot.narrativeState parts.projection.plan resolution
      nextGraphRevision := resolution.nextGraphRevision }
    constraintChange := constraintChangeOf snapshot.activeConstraints committedSequence
      (finalNodes snapshot.narrativeState resolution.transitions) }

end

/-! ### What a change set is made of -/

section
variable {externals : Externals} {engine : RegexEngine} {turn : CandidateTurn}
  {changes : ValidatedChangeSet}

/-- What the roles, the relationships and the knowledge owe to the extraction. -/
structure StateBuiltFrom (externals : Externals) (engine : RegexEngine) (turn : CandidateTurn)
    (dto : StoryStateExtractionDto) (snapshot : StorySnapshot) (state : StateParts) : Prop where
  newRoles : dto.newRoles.mapM (buildNewRole turn.limits) = .ok state.newRoles
  roleChanges : dto.roleStates.mapM (buildRoleChange turn.limits) = .ok state.roleChanges
  relationships : dto.relationshipStates.mapM (buildRelationshipOperation snapshot.relationships) =
    .ok state.relationshipOperations
  knowledge : enrichExtractedKnowledge externals engine turn.enrichmentContext snapshot
    state.newRoles dto = .ok (state.knowledgeMutations, state.knowledgeIdHighWater)

theorem buildStateParts_eq_ok {dto : StoryStateExtractionDto} {snapshot : StorySnapshot}
    {state : StateParts} (built : buildStateParts externals engine turn dto snapshot = .ok state) :
    StateBuiltFrom externals engine turn dto snapshot state := by
  unfold buildStateParts at built
  obtain ⟨newRoles, roles, built⟩ := Result.bind_eq_ok built
  obtain ⟨roleChanges, changed, built⟩ := Result.bind_eq_ok built
  obtain ⟨operations, related, built⟩ := Result.bind_eq_ok built
  obtain ⟨⟨mutations, highWater⟩, enriched, built⟩ := Result.bind_eq_ok built
  cases built
  exact ⟨roles, changed, related, Result.mapError_eq_ok.mp enriched⟩

/-- The parts are what the turn holds. -/
theorem CandidateTurn.parts_eq_ok {parts : CandidateParts} (parted : turn.parts = .ok parts) :
    turn.story = some parts.story ∧ turn.extraction = some parts.extraction ∧
      turn.snapshot = some parts.snapshot ∧ turn.narrativeProjection = some parts.projection := by
  unfold CandidateTurn.parts at parted
  obtain ⟨story, told, parted⟩ := Result.bind_eq_ok parted
  obtain ⟨extraction, extracted, parted⟩ := Result.bind_eq_ok parted
  obtain ⟨snapshot, held, parted⟩ := Result.bind_eq_ok parted
  obtain ⟨projection, planned, parted⟩ := Result.bind_eq_ok parted
  cases parted
  exact ⟨Result.okOr_eq_ok.mp told, Result.okOr_eq_ok.mp extracted, Result.okOr_eq_ok.mp held,
    Result.okOr_eq_ok.mp planned⟩

/-- Everything that a change set owes to the turn. -/
structure BuiltFrom (externals : Externals) (engine : RegexEngine) (turn : CandidateTurn)
    (changes : ValidatedChangeSet) (parts : CandidateParts) (state : StateParts)
    (resolution : NarrativeResolution) : Prop where
  parted : turn.parts = .ok parts
  text : bounded parts.story.storyText.value "story_text" turn.limits.maxStoryTextBytes =
    .ok changes.storyText
  built : buildStateParts externals engine turn parts.extraction.state parts.snapshot = .ok state
  newRoles : changes.newRoles = state.newRoles
  roleChanges : changes.roleChanges = state.roleChanges
  relationships : changes.relationshipOperations = state.relationshipOperations
  mutations : changes.knowledgeMutations = state.knowledgeMutations
  knowledgeHighWater : changes.knowledgeIdHighWater = state.knowledgeIdHighWater
  roleHighWater : changes.nextRoleIdHighWater =
    add parts.snapshot.roleIdHighWater (clamp64 state.newRoles.length)
  events : parts.projection.plan.worldEventIntents.zipIdx.mapM
    (makeEvent turn.storyId turn.turnNumber) = .ok changes.narrativeEvents
  resolved : (resolutionInput parts state).resolve turn.limits.narrative = .ok resolution
  transitions : changes.narrativeResolution.transitions = resolution.transitions
  pending : changes.narrativeResolution.pendingEffects =
    carriedEffects parts.snapshot.narrativeState parts.projection.plan resolution
  revision : changes.narrativeResolution.nextGraphRevision = resolution.nextGraphRevision
  constrained : ∃ committedSequence, parts.snapshot.storyContinuity.nextSequence =
      .ok committedSequence ∧
    changes.constraintChange = constraintChangeOf parts.snapshot.activeConstraints
      committedSequence (finalNodes parts.snapshot.narrativeState resolution.transitions)

theorem buildChangeSet_eq_ok (built : buildChangeSet externals engine turn = .ok changes) :
    ∃ parts state resolution, BuiltFrom externals engine turn changes parts state resolution := by
  unfold buildChangeSet at built
  obtain ⟨parts, parted, built⟩ := Result.bind_eq_ok built
  obtain ⟨storyText, text, built⟩ := Result.bind_eq_ok built
  obtain ⟨state, stated, built⟩ := Result.bind_eq_ok built
  obtain ⟨events, made, built⟩ := Result.bind_eq_ok built
  obtain ⟨resolution, resolved, built⟩ := Result.bind_eq_ok built
  obtain ⟨committedSequence, following, built⟩ := Result.bind_eq_ok built
  unfold ValidatedChangeSet.new at built
  split at built
  · cases built
    exact ⟨parts, state, resolution, parted, text, stated, rfl, rfl, rfl, rfl, rfl, rfl, made,
      Result.mapError_eq_ok.mp resolved, rfl, rfl, rfl, committedSequence,
      Result.mapError_eq_ok.mp following, rfl⟩
  · cases built

end

section
variable {limits : TurnValidationLimits}

/-- What a new role has of the extraction. -/
structure NewRoleFrom (role : NewRoleDto) (made : StoryRole) : Prop where
  named : RoleId.tryNew role.roleId = some made.roleId
  located : AssetKey.tryNew role.location = some made.state.location
  controller : made.controller = .ai
  uncarded : made.sourceCharacter = none
  attributes : made.state.attributes = role.attributes

theorem buildNewRole_eq_ok {role : NewRoleDto} {made : StoryRole}
    (built : buildNewRole limits role = .ok made) : NewRoleFrom role made := by
  obtain ⟨roleId, named, built⟩ := Result.bind_eq_ok built
  obtain ⟨location, located, built⟩ := Result.bind_eq_ok built
  obtain ⟨goals, _, built⟩ := Result.bind_eq_ok built
  obtain ⟨roleLabel, _, built⟩ := Result.bind_eq_ok built
  obtain ⟨narrativeFunction, _, built⟩ := Result.bind_eq_ok built
  obtain ⟨background, _, built⟩ := Result.bind_eq_ok built
  obtain ⟨name, _, built⟩ := Result.bind_eq_ok built
  obtain ⟨appearance, _, built⟩ := Result.bind_eq_ok built
  obtain ⟨personality, _, built⟩ := Result.bind_eq_ok built
  obtain ⟨speakingStyle, _, built⟩ := Result.bind_eq_ok built
  cases built
  exact ⟨Result.okOr_eq_ok.mp named, Result.okOr_eq_ok.mp located, rfl, rfl, rfl⟩

/-- What the change of a role has of the extraction. -/
structure RoleChangeFrom (state : RoleStateDto) (made : RoleStateChange) : Prop where
  named : RoleId.tryNew state.roleId = some made.roleId
  located : AssetKey.tryNew state.location = some made.newState.location
  attributes : made.newState.attributes = state.attributes

theorem buildRoleChange_eq_ok {state : RoleStateDto} {made : RoleStateChange}
    (built : buildRoleChange limits state = .ok made) : RoleChangeFrom state made := by
  obtain ⟨roleId, named, built⟩ := Result.bind_eq_ok built
  obtain ⟨location, located, built⟩ := Result.bind_eq_ok built
  obtain ⟨goals, _, built⟩ := Result.bind_eq_ok built
  cases built
  exact ⟨Result.okOr_eq_ok.mp named, Result.okOr_eq_ok.mp located, rfl⟩

/-- What an operation has of the extraction, and when it is an update. -/
structure RelationshipFrom (relationships : List RelationshipState)
    (relationship : RelationshipStateDto) (made : ValidatedRelationshipOperation) : Prop where
  source : RoleId.tryNew relationship.sourceRoleId = some made.newState.sourceRoleId
  target : RoleId.tryNew relationship.targetRoleId = some made.newState.targetRoleId
  kind : AssetKey.tryNewSemantic relationship.kind = some ⟨made.newState.kind⟩
  trust : trustOf relationship.trust = some made.newState.trust
  operation : made = if relationships.any (·.key = made.newState.key) then
    .update { key := made.newState.key, newState := made.newState } else .add made.newState

theorem buildRelationshipOperation_eq_ok {relationships : List RelationshipState}
    {relationship : RelationshipStateDto} {made : ValidatedRelationshipOperation}
    (built : buildRelationshipOperation relationships relationship = .ok made) :
    RelationshipFrom relationships relationship made := by
  obtain ⟨source, sourced, built⟩ := Result.bind_eq_ok built
  obtain ⟨target, targeted, built⟩ := Result.bind_eq_ok built
  obtain ⟨kind, semantic, built⟩ := Result.bind_eq_ok built
  obtain ⟨trust, ranged, built⟩ := Result.bind_eq_ok built
  cases built
  split
  · rename_i known
    exact ⟨Result.okOr_eq_ok.mp sourced, Result.okOr_eq_ok.mp targeted,
      Result.okOr_eq_ok.mp semantic, Result.okOr_eq_ok.mp ranged, (if_pos known).symm⟩
  · rename_i unknown
    exact ⟨Result.okOr_eq_ok.mp sourced, Result.okOr_eq_ok.mp targeted,
      Result.okOr_eq_ok.mp semantic, Result.okOr_eq_ok.mp ranged, (if_neg unknown).symm⟩

/-- An operation is on the roles and the kind that the extraction has given. -/
theorem RelationshipFrom.named {relationships : List RelationshipState}
    {relationship : RelationshipStateDto} {made : ValidatedRelationshipOperation}
    (from' : RelationshipFrom relationships relationship made) :
    relationship.sourceRoleId = made.newState.sourceRoleId.value ∧
      relationship.targetRoleId = made.newState.targetRoleId.value ∧
      relationship.kind = made.newState.kind := by
  refine ⟨?_, ?_, (AssetKey.tryNewSemantic_eq_some from'.kind).symm⟩
  · exact (RoleId.tryNew_eq_some.mp from'.source).symm
  · exact (RoleId.tryNew_eq_some.mp from'.target).symm

end

end Aise.Domain
