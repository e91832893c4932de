import Aise.Context.Baseline
import Aise.Domain.Activation.Windows
import Aise.Turn.TurnContext

/-! The retrieval stage of a turn: it resumes the activation with what the plan asks for, loads what
was activated and remembered, and trims it for the writer and for each character. -/
namespace Aise.Domain
open RustText Saturating Effect

def mapContextError (error : ContextError) : TurnExecutionError where
  kind := .invariantViolation
  code := error.turnCode
  stage := match error with
    | .snapshotInconsistent _ | .continuityInvalid _ => some .baselineBuilder
    | _ => some .contextRetrieval
  message := error.message

def mapRetrievedContextError (error : RetrievedContextError) : TurnExecutionError where
  kind := .invariantViolation
  code := error.turnCode
  stage := some .contextRetrieval
  message := error.message

/-! ### What is loaded -/

/-- `KnowledgeActivationCoordinator::authorize_seed`. -/
def authorizeSeed (index : ActivationIndexSnapshot) (sourceId : KnowledgeSourceId)
    (delivery : KnowledgeDelivery) : Bool :=
  match index.metadata[sourceId]?, delivery with
  | none, _ => false
  | some metadata, .writer => metadata.kind ≠ .memory
  | some metadata, .character _ => metadata.kind = .rumor

/-- What the requests for knowledge become: seeds of the activation, and memories to load. -/
structure RoutedRequests where
  seeds : List ExternalActivationSeed := []
  memoryTargets : BTreeMap RoleId (List KnowledgeSourceId) := ∅

def routeRequest (index : ActivationIndexSnapshot) (routed : RoutedRequests)
    (request : KnowledgeRetrievalRequest) : Except ContextError RoutedRequests :=
  match request.targetSourceId.kind, request.delivery with
  | .memory, .character roleId => .ok { routed with
      memoryTargets := routed.memoryTargets.insert roleId
        (routed.memoryTargets[roleId]?.getD [] ++ [request.targetSourceId]) }
  | .memory, .writer => .error .knowledgeAudienceViolation
  | .fact, .character _ => .error .knowledgeAudienceViolation
  | _, delivery => do
    Result.failIf (authorizeSeed index request.targetSourceId delivery = false)
      (.activation .externalTargetUnauthorized)
    return { routed with
      seeds := routed.seeds ++ [{
        sourceId := request.targetSourceId
        delivery
        kind := .plannerExactTarget
        providerRank := none
        mandatory := request.mandatory }] }

/-- Whether a body may be delivered. -/
def KnowledgeDelivery.allows (delivery : KnowledgeDelivery) (kind : KnowledgeKind) : Bool :=
  match delivery with
  | .writer => kind ≠ .memory
  | .character _ => kind = .rumor

def loadActivatedItem (config : RetrievalConfig) (loadedEntries : LoadedEntries)
    (delivery : KnowledgeDelivery) (entry : ActivatedKnowledgeRef) :
    Except ContextError RetrievedKnowledgeItem := do
  Result.failIf (delivery ∉ entry.deliveries) .knowledgeAudienceViolation
  let loaded ← Result.okOr loadedEntries[entry.sourceId]?
    (.snapshotInconsistent "activation_body_missing")
  Result.failIf (delivery.allows loaded.body.kind = false ∨
    len loaded.body.body.value > config.maxItemBytes) (.snapshotInconsistent "activation_body_mismatch")
  let item := RetrievedKnowledgeItem.fromParts loaded.body.sourceId loaded.body.body loaded.source
    entry.activationClass entry.rank loaded.salience
  match loaded.activation, loaded.activationRuleVersion with
  | some activation, some version =>
    return { item with activation := some activation, activationRuleVersion := some version }
  | _, _ => return item

def loadActivatedItems (config : RetrievalConfig) (loadedEntries : LoadedEntries)
    (delivery : KnowledgeDelivery) (activated : List ActivatedKnowledgeRef) :
    Except ContextError (List RetrievedKnowledgeItem) :=
  activated.mapM (loadActivatedItem config loadedEntries delivery)

/-- The memories of a character, ranked as they were found. -/
def memoryItems (records : List KnowledgeRecord) : List RetrievedKnowledgeItem :=
  records.zipIdx.map fun (record, index) =>
    RetrievedKnowledgeItem.fromParts record.sourceId record.content record.source .plannerExactTarget
      (clamp32 (index + 1)) record.salience

/-! ### What is kept of it -/

def RetrievedKnowledgeItem.order (item : RetrievedKnowledgeItem) : Nat ×ₗ Natᵒᵈ ×ₗ KnowledgeSourceId :=
  toLex (item.rank.toNat, toLex (OrderDual.toDual item.salience.toNat, item.sourceId))

def sortPartition (items : List RetrievedKnowledgeItem) : List RetrievedKnowledgeItem :=
  Sorting.sort (·.order) items

/-- The number of items that the loop of `trim_tokens` keeps. -/
def keepTokens (maxTokens : UInt64) : (total : UInt64) → List RetrievedKnowledgeItem → Nat
  | _, [] => 0
  | total, item :: items =>
    let next := add total item.tokenCost
    if next > maxTokens then 0 else keepTokens maxTokens next items + 1

def trimTokens (items : List RetrievedKnowledgeItem) (maxTokens : UInt64) :
    List RetrievedKnowledgeItem :=
  items.take (keepTokens maxTokens 0 items)

namespace RetrievalConfig
variable (config : RetrievalConfig)

/-- Sorted, truncated, and trimmed to the tokens of an audience. -/
def trimPartition (items : List RetrievedKnowledgeItem) : List RetrievedKnowledgeItem :=
  trimTokens ((sortPartition items).take config.maxItemsPerAudience) config.maxTokensPerAudience

def trimCharacter (character : RetrievedCharacterContext) : RetrievedCharacterContext where
  role := character.role
  knownRumors := config.trimPartition character.knownRumors
  memories := config.trimPartition character.memories

def trimWorld (world : RetrievedWorldKnowledge) : RetrievedWorldKnowledge where
  facts := config.trimPartition world.facts
  rumors := config.trimPartition world.rumors

def contextLimits (maxCharacterDecisions : Nat) : RetrievedContextLimits where
  maxRoleAudiences := maxCharacterDecisions
  maxItemsPerAudience := config.maxItemsPerAudience
  maxTokensPerAudience := config.maxTokensPerAudience
  maxTotalItems := config.maxTotalItems
  maxTotalTokens := config.maxTotalTokens
  maxItemBytes := config.maxItemBytes

/-- What was loaded, trimmed audience by audience, and put together by `try_new`. -/
def assemble (maxCharacterDecisions : Nat) (world : RetrievedWorldKnowledge)
    (characters : BTreeMap RoleId RetrievedCharacterContext) :
    Except RetrievedContextError RetrievedContext :=
  RetrievedContext.tryNew (config.trimWorld world)
    (characters.map fun _ character => config.trimCharacter character)
    (config.contextLimits maxCharacterDecisions)

end RetrievalConfig

/-! ### The stage -/

structure ContextRetrievalPipeline where
  config : RetrievalConfig := {}
  maxExternalCandidates : Nat
  deriving DecidableEq

/-- The views of the roles that the plan requests. -/
def characterViews (snapshot : StoryReadSnapshot) (requests : List CharacterRetrievalRequest) :
    Except ContextError (BTreeMap RoleId RoleContextView) :=
  requests.foldlM (fun views request => do
    let role ← Result.okOr (snapshot.role request.roleId)
      (.snapshotInconsistent "unknown_character_request_role")
    return views.insert request.roleId role) ∅

abbrev RetrievalM := Except TurnExecutionError

/-- `map_err(map_context_error)`. -/
def contextual {α : Type} (result : Except ContextError α) : RetrievalM α :=
  result.mapError mapContextError

/-- `map_err(map_retrieved_context_error)`. -/
def retrieved {α : Type} (result : Except RetrievedContextError α) : RetrievalM α :=
  result.mapError mapRetrievedContextError

/-- The records of a turn that this stage reads. -/
abbrev StoryTurnRecords (Projection Envelope ChangeSet Committed : Type) : TurnRecords where
  Snapshot := StoryReadSnapshot
  Projection := Projection
  Activation := PreparedActivation
  Envelope := Envelope
  ChangeSet := ChangeSet
  Committed := Committed

namespace ContextRetrievalPipeline
variable {Projection : Type} (pipeline : ContextRetrievalPipeline) (ports : ContextPorts Projection)
  (identity : TurnIdentity)

/-- The seeds of the plan, authorized and counted. -/
def routeRequests (index : ActivationIndexSnapshot) (requests : List KnowledgeRetrievalRequest) :
    Except ContextError RoutedRequests := do
  let routed ← requests.foldlM (routeRequest index) {}
  Result.failIf (routed.seeds.length > pipeline.maxExternalCandidates)
    (.activation (.workLimitExceeded "external_candidates"))
  return routed

/-- The activation, resumed with the seeds. -/
def resume (plan : WriterPlan) (snapshot : StoryReadSnapshot) (baseline : BaselineContext)
    (projection : Projection) (prepared : PreparedActivation) :
    Except ContextError (RoutedRequests × ActivationRunOutcome) := do
  let scanBuffer ← ports.buildActivationScanBuffer snapshot baseline.playerRole
    identity.playerContribution projection
  let routed ← pipeline.routeRequests prepared.indexSnapshot plan.retrievalPlan.knowledgeRequests
  let outcome ← activating (ports.runWithIndex {
    snapshot := snapshot.knowledgeSnapshot
    scanBuffer
    macros := macrosOf baseline.playerRole
    storyId := identity.storyId
    turnNumber := identity.turnNumber
    externalSeeds := routed.seeds
    continuation := some prepared.continuation } prepared.indexSnapshot)
  return (routed, outcome)

/-- What the writer gets beside what the baseline provides. -/
def writerKnowledge (baseline : BaselineContext) (activated : List ActivatedKnowledgeRef)
    (loadedEntries : LoadedEntries) : Except ContextError RetrievedWorldKnowledge := do
  let newlyWriter := activated.filter fun entry =>
    entry.forWriter && entry.sourceId ∉ baseline.relevantWorldKnowledge.sourceIds
  let items ← loadActivatedItems pipeline.config loadedEntries .writer newlyWriter
  return {
    facts := items.filter (·.sourceId.kind = .fact)
    rumors := items.filter (·.sourceId.kind = .rumor) }

/-- The memories that the plan names, else the ones the store has for the role. -/
def loadMemories (snapshot : StoryReadSnapshot)
    (memoryTargets : BTreeMap RoleId (List KnowledgeSourceId)) (roleId : RoleId) :
    RetrievalM (List KnowledgeRecord) :=
  match memoryTargets[roleId]? with
  | some targets => do
    let records ← contextual (reading (ports.findBySourceIds {
      snapshot := snapshot.knowledgeSnapshot
      filter := {
        delivery := .character roleId
        knowledgeKinds := [.memory]
        maxItemBytes := pipeline.config.maxItemBytes }
      sourceIds := targets
      limit := targets.length }))
    retrieved (Result.failIf (∃ record ∈ records, record.memoryOwner ≠ some roleId)
      .invalidMemoryOwner)
    return records
  | none => contextual (reading (ports.findMemoriesByOwner {
      snapshot := snapshot.knowledgeSnapshot
      owner := roleId
      limit := pipeline.config.maxItemsPerAudience
      maxItemBytes := pipeline.config.maxItemBytes }))

/-- What one character gets, before it is trimmed. -/
def loadCharacter (snapshot : StoryReadSnapshot)
    (memoryTargets : BTreeMap RoleId (List KnowledgeSourceId))
    (activated : List ActivatedKnowledgeRef) (loadedEntries : LoadedEntries) (roleId : RoleId)
    (role : RoleContextView) : RetrievalM RetrievedCharacterContext := do
  let rumorRefs := activated.filter fun entry =>
    entry.sourceId.kind = .rumor ∧ .character roleId ∈ entry.deliveries
  let knownRumors ← contextual
    (loadActivatedItems pipeline.config loadedEntries (.character roleId) rumorRefs)
  let memories ← pipeline.loadMemories ports snapshot memoryTargets roleId
  return { role := some role, knownRumors, memories := memoryItems memories }

def loadCharacters (snapshot : StoryReadSnapshot)
    (memoryTargets : BTreeMap RoleId (List KnowledgeSourceId))
    (activated : List ActivatedKnowledgeRef) (loadedEntries : LoadedEntries)
    (views : BTreeMap RoleId RoleContextView) :
    RetrievalM (BTreeMap RoleId RetrievedCharacterContext) :=
  views.toList.foldlM (fun characters (roleId, role) => do
    let character ← pipeline.loadCharacter ports snapshot memoryTargets activated loadedEntries
      roleId role
    return characters.insert roleId character) ∅

/-- Everything `execute_inner` does between reading the context of the turn and writing to it. -/
def retrieve (maxCharacterDecisions : Nat) (plan : WriterPlan) (snapshot : StoryReadSnapshot)
    (baseline : BaselineContext) (projection : Projection) (prepared : PreparedActivation) :
    RetrievalM (PreparedActivation × RetrievedContext) := do
  let views ← contextual (characterViews snapshot plan.retrievalPlan.characterRequests)
  let (routed, outcome) ← contextual
    (pipeline.resume ports identity plan snapshot baseline projection prepared)
  let loadedEntries := outcome.loadedEntries.toList.foldl
    (fun (loaded : LoadedEntries) (sourceId, entry) => loaded.insert sourceId entry)
    prepared.loadedEntries
  let world ← contextual
    (pipeline.writerKnowledge baseline outcome.result.activated loadedEntries)
  let characters ← pipeline.loadCharacters ports snapshot routed.memoryTargets
    outcome.result.activated loadedEntries views
  let context ← retrieved (pipeline.config.assemble maxCharacterDecisions world characters)
  return ({
    continuation := outcome.result.continuation
    pendingTimedState := prepared.pendingTimedState.merge outcome.result.pendingTimedState
    indexSnapshot := prepared.indexSnapshot
    loadedEntries }, context)

variable {Envelope ChangeSet Committed : Type}

/-- `ctx.plan().ok_or_else(..)?` and its like. -/
def expect {α : Type} {T : TurnRecords} (value : Option α) (missing : ContextError) :
    TurnExecutionContext.M T α :=
  orThrow (Result.okOr value missing) mapContextError

def executeInner :
    TurnExecutionContext.M (StoryTurnRecords Projection Envelope ChangeSet Committed) Unit := do
  let ctx ← get
  let plan ← expect ctx.plan (.invalidPlan "missing_plan")
  let snapshot ← expect ctx.snapshot (.snapshotInconsistent "missing_snapshot")
  let baseline ← expect ctx.baseline (.snapshotInconsistent "missing_baseline")
  let projection ← expect ctx.narrativeProjection
    (.snapshotInconsistent "missing_narrative_projection")
  let prepared ← expect ctx.activation (.snapshotInconsistent "missing_activation")
  let (activation, context) ← orThrow
    (pipeline.retrieve ports identity ctx.budget.limits.maxCharacterDecisions plan snapshot baseline
      projection prepared) id
  TurnExecutionContext.replaceActivation activation
  TurnExecutionContext.setRetrievedContext context

end ContextRetrievalPipeline

end Aise.Domain
