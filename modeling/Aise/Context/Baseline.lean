import Aise.Domain.Activation.Compile
import Aise.Lib.Sorting
import Aise.Story.Snapshot

/-! What a turn knows before it plans: the player, the roles around, an index of the other roles and
of the knowledge that can be asked for. The activation of knowledge, the reads of the store and the
projection of the narrative graph are given. -/
namespace Aise.Domain
open RustText Saturating

/-! ### Errors -/

/-- The errors of a store that knowledge is read from. -/
inductive ReadFailure where
  | notFound | revisionConflict | idempotencyConflict | unavailable
  | constraintViolation (constraint : String)
  | limitExceeded (limit : String)
  | serialization
  deriving DecidableEq

def ActivationError.code : ActivationError → String
  | invalidRule _ => "activation_rule_invalid"
  | invalidRegex => "activation_regex_invalid"
  | indexVersionMismatch => "activation_index_mismatch"
  | snapshotMismatch => "activation_snapshot_conflict"
  | continuationMismatch => "activation_continuation_mismatch"
  | workLimitExceeded _ => "activation_work_limit"
  | recursionLimitReached => "activation_recursion_limit"
  | mandatoryBudgetExceeded => "activation_mandatory_budget"
  | externalTargetUnauthorized => "activation_target_unauthorized"
  | timedStateInconsistent => "activation_timed_state_invalid"
  | providerFailure _ => "activation_provider_failed"
  | store _ => "store_unavailable"

inductive ContextError where
  | snapshotInconsistent (code : String)
  | continuityInvalid (code : String)
  | invalidPlan (code : String)
  | knowledgeAudienceViolation
  | invalidRecord (code : String)
  | retrievedBudgetExceeded (limit : String)
  | indexLimitExceeded (index : String) (actual maximum : Nat)
  | activation (error : ActivationError)
  | store (error : ReadFailure)
  deriving DecidableEq

namespace ContextError

def message : ContextError → String
  | snapshotInconsistent code => s!"story snapshot is inconsistent: {code}"
  | continuityInvalid code => s!"story continuity is invalid: {code}"
  | invalidPlan code => s!"retrieval plan is invalid: {code}"
  | knowledgeAudienceViolation => "knowledge audience violation"
  | invalidRecord code => s!"retrieval record is invalid: {code}"
  | retrievedBudgetExceeded limit => s!"retrieved context budget exceeded: {limit}"
  | indexLimitExceeded index actual maximum =>
    s!"index limit exceeded: {index} actual {actual} maximum {maximum}"
  | activation _ => "knowledge activation failed"
  | store _ => "knowledge read failed"

def turnCode : ContextError → String
  | snapshotInconsistent _ | continuityInvalid _ => "context_snapshot_invalid"
  | invalidPlan _ | knowledgeAudienceViolation => "writer_plan_invalid"
  | invalidRecord _ => "retrieval_record_invalid"
  | retrievedBudgetExceeded _ => "retrieval_context_limit"
  | indexLimitExceeded _ _ _ => "context_index_limit_exceeded"
  | activation error => error.code
  | store .revisionConflict => "retrieval_snapshot_conflict"
  | store _ => "store_error"

end ContextError

/-! ### What is given -/

structure RetrievalConfig where
  maxRequests : Nat := 16
  maxCandidatesTotal : Nat := 64
  maxItemsPerAudience : Nat := 10
  maxTokensPerAudience : UInt64 := 2048
  maxTotalItems : Nat := 20
  maxTotalTokens : UInt64 := 4096
  maxItemBytes : Nat := 4096
  deriving DecidableEq

structure ContextPreparationConfig where
  maxRelevantRoles : Nat := 8
  maxRoleIndex : Nat := 16
  deriving DecidableEq

structure LoadedActivationEntry where
  body : ActivationEntryBody
  salience : UInt8
  source : KnowledgeSource
  activation : Option KnowledgeActivationRule := none
  activationRuleVersion : Option ActivationRuleVersion := none
  deriving DecidableEq

abbrev LoadedEntries := BTreeMap KnowledgeSourceId LoadedActivationEntry

structure ActivationRunSpec where
  snapshot : KnowledgeSnapshotRef
  scanBuffer : ActivationScanBuffer
  macros : ActivationMacroValues
  storyId : StoryId
  turnNumber : TurnNumber
  generationTrigger : GenerationTrigger := .normal
  externalSeeds : List ExternalActivationSeed := []
  continuation : Option ActivationContinuation := none

structure ActivationRunOutcome where
  result : ActivationResult
  indexSnapshot : ActivationIndexSnapshot
  loadedEntries : LoadedEntries

structure PreparedActivation where
  continuation : ActivationContinuation
  pendingTimedState : PendingActivationStateDelta
  indexSnapshot : ActivationIndexSnapshot
  loadedEntries : LoadedEntries

structure KnowledgeRecord where
  sourceId : KnowledgeSourceId
  kind : KnowledgeKind
  content : BoundedText
  salience : UInt8
  source : KnowledgeSource
  memoryOwner : Option RoleId := none
  activation : Option KnowledgeActivationRule := none
  activationRuleVersion : Option ActivationRuleVersion := none
  deriving DecidableEq

structure KnowledgeFilter where
  delivery : KnowledgeDelivery
  knowledgeKinds : List KnowledgeKind
  maxItemBytes : Nat
  deriving DecidableEq

structure SourceKnowledgeQuery where
  snapshot : KnowledgeSnapshotRef
  filter : KnowledgeFilter
  sourceIds : List KnowledgeSourceId
  limit : Nat
  deriving DecidableEq

structure OwnerMemoryQuery where
  snapshot : KnowledgeSnapshotRef
  owner : RoleId
  limit : Nat
  maxItemBytes : Nat
  deriving DecidableEq

structure KnowledgeIndexQuery where
  snapshot : KnowledgeSnapshotRef
  knowledgeKinds : List KnowledgeKind
  limit : Nat
  deriving DecidableEq

/-- The collaborators of context preparation. A scan buffer is made of the snapshot, the player's
role, the contribution of the player and the projection. -/
structure ContextPorts (Projection : Type) where
  project : StoryReadSnapshot → (currentTurn : UInt64) → Except NarrativeError Projection
  buildActivationScanBuffer : StoryReadSnapshot → RoleContextView → String → Projection →
    Except ContextError ActivationScanBuffer
  run : ActivationRunSpec → Except ActivationError ActivationRunOutcome
  runWithIndex : ActivationRunSpec → ActivationIndexSnapshot →
    Except ActivationError ActivationRunOutcome
  findBySourceIds : SourceKnowledgeQuery → Except ReadFailure (List KnowledgeRecord)
  findMemoriesByOwner : OwnerMemoryQuery → Except ReadFailure (List KnowledgeRecord)
  listIndex : KnowledgeIndexQuery → Except ReadFailure (List KnowledgeIndexEntry)

/-- Whose turn it is, and what the player contributed to it. -/
structure TurnIdentity where
  storyId : StoryId
  turnNumber : TurnNumber
  playerContribution : String
  deriving DecidableEq

/-! ### Preparation -/

def macrosOf (playerRole : RoleContextView) : ActivationMacroValues where
  playerName := playerRole.name.value
  playerRoleLabel := playerRole.roleLabel.value

def selectRelevantRoles (snapshot : StoryReadSnapshot) (maxRelevantRoles : Nat) :
    List RoleContextView :=
  match snapshot.role snapshot.playerRoleId with
  | none => []
  | some player =>
    let roles := (snapshot.roles.toList.filter fun (roleId, role) =>
      roleId ≠ snapshot.playerRoleId ∧ role.location = player.location).map (·.2)
    (Sorting.sort (·.roleId) roles).take maxRelevantRoles

/-- The index of the roles that are not provided as they are. -/
def roleIndexOf (snapshot : StoryReadSnapshot) (selected : List RoleId) : List RoleIndexEntry :=
  let entries := (snapshot.roles.toList.filter fun (roleId, _) => roleId ∉ selected).map
    fun (roleId, role) => { roleId, retrievalHint := role.narrativeFunction }
  Sorting.sort (·.roleId) entries

def RelevantWorldKnowledgeItem.order (item : RelevantWorldKnowledgeItem) :
    Nat ×ₗ Natᵒᵈ ×ₗ KnowledgeSourceId :=
  toLex (item.sourcePriority.toNat, toLex (OrderDual.toDual item.salience.toNat, item.sourceId))

/-- The `retain` that leaves out what does not fit any more. -/
def retainTokens (maxTokens : UInt64) :
    (tokens : UInt64) → List RelevantWorldKnowledgeItem → List RelevantWorldKnowledgeItem
  | _, [] => []
  | tokens, item :: items =>
    let next := add tokens (estimateTextTokens item.content.value)
    if next > maxTokens then retainTokens maxTokens tokens items
    else item :: retainTokens maxTokens next items

/-- Whether the entry was activated for the writer. -/
def ActivatedKnowledgeRef.forWriter (entry : ActivatedKnowledgeRef) : Bool :=
  .writer ∈ entry.deliveries ∧ entry.sourceId.kind ≠ .memory

def loadRelevantKnowledge (config : RetrievalConfig) (activation : ActivationResult)
    (loadedEntries : LoadedEntries) : Except ContextError RelevantWorldKnowledge := do
  let entries ← (activation.activated.filter (·.forWriter)).mapM fun activated => do
    let loaded ← Result.okOr loadedEntries[activated.sourceId]?
      (.snapshotInconsistent "activation_body_missing")
    return {
      sourceId := loaded.body.sourceId
      content := loaded.body.body
      sourcePriority := UInt8.ofNat (min activated.rank.toNat 255)
      salience := loaded.salience : RelevantWorldKnowledgeItem }
  let entries := retainTokens config.maxTokensPerAudience 0
    ((Sorting.sort (·.order) entries).take config.maxItemsPerAudience)
  return {
    facts := entries.filter (·.sourceId.kind = .fact)
    rumors := entries.filter (·.sourceId.kind = .rumor) }

def RelevantWorldKnowledge.sourceIds (relevant : RelevantWorldKnowledge) : List KnowledgeSourceId :=
  (relevant.facts ++ relevant.rumors).map (·.sourceId)

/-- `?` on what a store returned. -/
def reading {α : Type} (read : Except ReadFailure α) : Except ContextError α := read.mapError .store

/-- `?` on what a session returned. -/
def activating {α : Type} (run : Except ActivationError α) : Except ContextError α :=
  run.mapError .activation

section
variable {Projection : Type} (ports : ContextPorts Projection) (config : RetrievalConfig)
  (context : ContextPreparationConfig) (snapshot : StoryReadSnapshot) (identity : TurnIdentity)

def loadKnowledgeIndex (relevant : RelevantWorldKnowledge) :
    Except ContextError (List KnowledgeIndexEntry) := do
  let records ← reading (ports.listIndex {
    snapshot := snapshot.knowledgeSnapshot
    knowledgeKinds := [.fact, .rumor]
    limit := min (config.maxCandidatesTotal + 1) max64 })
  if records.length > config.maxCandidatesTotal then
    .error (.indexLimitExceeded "knowledge_index" records.length config.maxCandidatesTotal)
  else return records.filter fun record => record.sourceId ∉ relevant.sourceIds

/-- The last part of `prepare_baseline`, in which the roles are looked at. -/
def assembleBaseline (playerRole : RoleContextView) (relevantWorldKnowledge : RelevantWorldKnowledge)
    (knowledgeIndex : List KnowledgeIndexEntry) : Except ContextError BaselineContext :=
  let relevantRoles := selectRelevantRoles snapshot context.maxRelevantRoles
  let roleIndex := roleIndexOf snapshot (playerRole.roleId :: relevantRoles.map (·.roleId))
  if roleIndex.length > context.maxRoleIndex then
    .error (.indexLimitExceeded "role_index" roleIndex.length context.maxRoleIndex)
  else .ok {
    storyTitle := snapshot.storyTitle
    playerRole
    relevantRoles
    relevantWorldKnowledge
    roleIndex
    knowledgeIndex
    storyContinuity := snapshot.storyContinuity
    activeStoryConstraints := snapshot.activeConstraints }

def prepareBaseline : Except ContextError (BaselineContext × Projection × PreparedActivation) := do
  let playerRole ← Result.okOr (snapshot.role snapshot.playerRoleId)
    (.snapshotInconsistent "missing_player_role")
  let projection ← (ports.project snapshot (add snapshot.baseRevision 1)).mapError fun _ =>
    .snapshotInconsistent "narrative_projection_failed"
  let scanBuffer ← ports.buildActivationScanBuffer snapshot playerRole identity.playerContribution
    projection
  let outcome ← activating (ports.run {
    snapshot := snapshot.knowledgeSnapshot
    scanBuffer
    macros := macrosOf playerRole
    storyId := snapshot.storyId
    turnNumber := identity.turnNumber })
  let relevant ← loadRelevantKnowledge config outcome.result outcome.loadedEntries
  let knowledgeIndex ← loadKnowledgeIndex ports config snapshot relevant
  let baseline ← assembleBaseline context snapshot playerRole relevant knowledgeIndex
  return (baseline, projection, {
    continuation := outcome.result.continuation
    pendingTimedState := outcome.result.pendingTimedState
    indexSnapshot := outcome.indexSnapshot
    loadedEntries := outcome.loadedEntries })

end

/-! ### What the baseline says about the roles -/

/-- Whoever the baseline names is a role of the snapshot, and whoever it names beside the player is
not the player. -/
structure BaselineContext.Portrays (baseline : BaselineContext) (snapshot : StoryReadSnapshot) :
    Prop where
  player : baseline.playerRole.roleId = snapshot.playerRoleId
  relevant : ∀ role ∈ baseline.relevantRoles,
    snapshot.role role.roleId = some role ∧ role.roleId ≠ snapshot.playerRoleId
  indexed : ∀ entry ∈ baseline.roleIndex,
    (snapshot.role entry.roleId).isSome ∧ entry.roleId ≠ snapshot.playerRoleId

theorem selectRelevantRoles_spec {snapshot : StoryReadSnapshot} {maxRelevantRoles : Nat}
    {role : RoleContextView} (member : role ∈ selectRelevantRoles snapshot maxRelevantRoles) :
    snapshot.role role.roleId = some role ∧ role.roleId ≠ snapshot.playerRoleId := by
  unfold selectRelevantRoles at member
  split at member
  · cases member
  · have sorted := (List.mem_insertionSort _).mp (List.mem_of_mem_take member)
    obtain ⟨⟨roleId, other⟩, filtered, same⟩ := List.mem_map.mp sorted
    cases same
    obtain ⟨listed, apart⟩ := List.mem_filter.mp filtered
    have found := Std.ExtTreeMap.mem_toList_iff_getElem?_eq_some.mp listed
    rw [decide_eq_true_eq] at apart
    rw [snapshot.keyed roleId other found]
    exact ⟨found, apart.1⟩

theorem mem_roleIndexOf {snapshot : StoryReadSnapshot} {selected : List RoleId}
    {entry : RoleIndexEntry} (member : entry ∈ roleIndexOf snapshot selected) :
    (snapshot.role entry.roleId).isSome ∧ entry.roleId ∉ selected := by
  have sorted := (List.mem_insertionSort _).mp member
  obtain ⟨⟨roleId, role⟩, filtered, same⟩ := List.mem_map.mp sorted
  cases same
  obtain ⟨listed, apart⟩ := List.mem_filter.mp filtered
  have found := Std.ExtTreeMap.mem_toList_iff_getElem?_eq_some.mp listed
  exact ⟨Option.isSome_of_eq_some found, by simpa using apart⟩

/-- A baseline is made of the roles of the snapshot. -/
theorem prepareBaseline_portrays {Projection : Type} {ports : ContextPorts Projection}
    {config : RetrievalConfig} {context : ContextPreparationConfig} {snapshot : StoryReadSnapshot}
    {identity : TurnIdentity} {baseline : BaselineContext}
    {prepared : Projection × PreparedActivation}
    (ok : prepareBaseline ports config context snapshot identity = .ok (baseline, prepared)) :
    baseline.Portrays snapshot := by
  unfold prepareBaseline at ok
  obtain ⟨playerRole, seen, ok⟩ := Result.bind_eq_ok ok
  obtain ⟨projection, _, ok⟩ := Result.bind_eq_ok ok
  obtain ⟨scanBuffer, _, ok⟩ := Result.bind_eq_ok ok
  obtain ⟨outcome, _, ok⟩ := Result.bind_eq_ok ok
  obtain ⟨relevant, _, ok⟩ := Result.bind_eq_ok ok
  obtain ⟨index, _, ok⟩ := Result.bind_eq_ok ok
  obtain ⟨made, assembled, ok⟩ := Result.bind_eq_ok ok
  cases ok
  have own : playerRole.roleId = snapshot.playerRoleId :=
    snapshot.keyed _ _ (Result.okOr_eq_ok.mp seen)
  simp only [assembleBaseline] at assembled
  split at assembled
  · cases assembled
  · cases assembled
    constructor
    · exact own
    · intro role member
      exact selectRelevantRoles_spec member
    · intro entry member
      obtain ⟨known, apart⟩ := mem_roleIndexOf member
      rw [← own]
      exact ⟨known, List.ne_of_not_mem_cons apart⟩

end Aise.Domain
