import Aise.Domain.Narrative.Resolver

/-! The projector: what the narrative hands to a turn, and what it asks the turn about. The frontier
of a story are the nodes that can change next, with the conditions that decide about them. -/
namespace Aise.Domain

/-! ### Plan and projection -/

structure WorldEventIntent where
  effectId : AssetKey
  sourceNode : AssetKey
  eventKey : AssetKey
  category : BoundedText
  participants : List NarrativeParticipant
  location : Option AssetKey
  description : BoundedText
  deriving DecidableEq

inductive NarrativeEffectNotApplicableReason where
  | playerControlled | expired
  deriving DecidableEq

inductive NarrativeEffectDisposition where
  | pendingDelivery (effectId : AssetKey)
  | notApplicable (effectId : AssetKey) (reason : NarrativeEffectNotApplicableReason)
  deriving DecidableEq

def NarrativeEffectDisposition.effectId : NarrativeEffectDisposition → AssetKey
  | .pendingDelivery effectId => effectId
  | .notApplicable effectId _ => effectId

/-- A `NarrativePlan` as the projector makes it. -/
structure ProjectedNarrativePlan extends NarrativePlan where
  activeNodes : List AssetKey := []
  worldEventIntents : List WorldEventIntent := []
  effectDispositions : List NarrativeEffectDisposition := []
  deriving DecidableEq

structure NarrativeConditionQuery where
  conditionKey : AssetKey
  criterion : BoundedText
  deriving DecidableEq

structure NarrativeProjection where
  plan : ProjectedNarrativePlan
  conditionQueries : List NarrativeConditionQuery
  expectedGraphRevision : UInt64
  deriving DecidableEq

/-- The limits of a narrative, with those that only the projector reads. -/
structure NarrativeProjectionLimits extends NarrativeLimits where
  maxFrontierNodes : Nat
  maxSemanticConditions : Nat
  maxSemanticQueriesPerTurn : Nat
  maxSemanticQueryBytes : Nat
  deriving DecidableEq

structure NarrativeProjectionInput where
  definition : NarrativeGraphDefinition
  state : NarrativeRuntimeState
  committedView : NarrativeStateView
  currentTurn : UInt64

/-! ### Semantic leaves -/

abbrev SemanticQueries := BTreeMap AssetKey BoundedText

/-- A criterion is asked for once. -/
def collectSemantic (semantic : SemanticNarrativeCondition) (queries : SemanticQueries) :
    Except NarrativeError SemanticQueries :=
  match queries[semantic.conditionKey]? with
  | some existing =>
    if existing ≠ semantic.criterion then
      .error (.semanticCriterionConflict semantic.conditionKey.asStr)
    else .ok queries
  | none => .ok (queries.insert semantic.conditionKey semantic.criterion)

mutual

def collectSemanticLeaves : NarrativeCondition → SemanticQueries →
    Except NarrativeError SemanticQueries
  | .all conditions, queries => collectEachSemanticLeaves conditions queries
  | .any conditions, queries => collectEachSemanticLeaves conditions queries
  | .not condition, queries => collectSemanticLeaves condition queries
  | .semantic semantic, queries => collectSemantic semantic queries
  | .storyStarted, queries | .nodeState .., queries | .factStateEquals .., queries
  | .roleStateEquals .., queries | .relationshipReaches .., queries | .turnReaches .., queries
  | .roleControllerIs .., queries => .ok queries

/-- The conditions of a list, one after the other. -/
def collectEachSemanticLeaves : List NarrativeCondition → SemanticQueries →
    Except NarrativeError SemanticQueries
  | [], queries => .ok queries
  | condition :: conditions, queries => do
    let queries ← collectSemanticLeaves condition queries
    collectEachSemanticLeaves conditions queries

end

/-! ### Frontier -/

structure NarrativeFrontier where
  nodes : BTreeSet AssetKey := ∅
  conditions : List NarrativeCondition := []

def NarrativeFrontier.reach (frontier : NarrativeFrontier) (key : AssetKey)
    (conditions : List NarrativeCondition) : NarrativeFrontier where
  nodes := frontier.nodes.insert key
  conditions := frontier.conditions ++ conditions

namespace NarrativeProjectionInput
variable (input : NarrativeProjectionInput) (limits : NarrativeProjectionLimits)

def node (key : AssetKey) : Except NarrativeError NarrativeNodeDefinition :=
  match input.definition.nodes[key]? with
  | some node => .ok node
  | none => .error (.missingReference key.asStr)

def activeNodes : List AssetKey :=
  (input.state.nodeStates.toList.filter fun (_, state) => state = .active).map (·.1)

/-- The loop over the entry nodes. -/
def reachEntry (frontier : NarrativeFrontier) (entry : AssetKey) :
    Except NarrativeError NarrativeFrontier :=
  if input.state.nodeState entry = .inactive then do
    let node ← input.node entry
    return frontier.reach entry [node.activateWhen]
  else return frontier

/-- The loop over the active nodes. -/
def reachActive (frontier : NarrativeFrontier) (nodeKey : AssetKey) :
    Except NarrativeError NarrativeFrontier := do
  let node ← input.node nodeKey
  return frontier.reach nodeKey (node.completeWhen :: node.skipWhen.toList)

/-- The loop over the edges. -/
def reachEdge (frontier : NarrativeFrontier) (edge : NarrativeEdgeDefinition) :
    Except NarrativeError NarrativeFrontier :=
  if edge.fromNode ∉ input.activeNodes then .ok frontier
  else
    let frontier := frontier.reach edge.fromNode [edge.when]
    if input.state.nodeState edge.toNode = .inactive then do
      let successor ← input.node edge.toNode
      return frontier.reach edge.toNode [successor.activateWhen]
    else return frontier

/-- The three loops, one after the other. -/
def frontier : Except NarrativeError NarrativeFrontier := do
  let frontier ← input.definition.entryNodes.foldlM input.reachEntry {}
  let frontier ← input.activeNodes.foldlM input.reachActive frontier
  input.definition.edges.foldlM input.reachEdge frontier

/-- The questions of a turn, as many and as long as the limits allow. -/
def queries : Except NarrativeError SemanticQueries := do
  let frontier ← input.frontier
  if frontier.nodes.size > limits.maxFrontierNodes then .error .frontierLimitExceeded
  else
    let queries ← collectEachSemanticLeaves frontier.conditions ∅
    if queries.size > limits.maxSemanticConditions then .error .semanticConditionLimitExceeded
    else if queries.size > limits.maxSemanticQueriesPerTurn then .error .semanticQueryLimitExceeded
    else if ((valuesOf queries).map (RustText.len ·.value)).sum > limits.maxSemanticQueryBytes then
      .error .semanticQueryByteLimitExceeded
    else .ok queries

/-! ### Effects -/

/-- The effect is delivered by the turn, or can no longer be. -/
def projectEffect (plan : ProjectedNarrativePlan) (entry : AssetKey × PendingNarrativeEffect) :
    Except NarrativeError ProjectedNarrativePlan :=
  let (effectId, pending) := entry
  let dispose (disposition : NarrativeEffectDisposition) (plan : ProjectedNarrativePlan) :=
    { plan with effectDispositions := plan.effectDispositions ++ [disposition] }
  if pending.expiresAfterTurn.any (· < input.currentTurn) then
    .ok (dispose (.notApplicable effectId .expired) plan)
  else match pending.definition with
  | .worldEvent eventKey category participants location description =>
    let intent : WorldEventIntent :=
      ⟨effectId, pending.sourceNode, eventKey, category, participants, location, description⟩
    .ok (dispose (.pendingDelivery effectId)
      { plan with worldEventIntents := plan.worldEventIntents ++ [intent] })
  | .characterImpulse targetRoleId goal reason emotion urgency _ => do
    let controller ← NarrativeStateView.ask (input.committedView.roleController targetRoleId)
      "unknown_character_impulse_role_reference"
    if controller = .player then
      return dispose (.notApplicable effectId .playerControlled) plan
    else
      let impulse : CharacterImpulse :=
        ⟨pending.sourceNode, targetRoleId, goal, reason, emotion, urgency, pending.expiresAfterTurn⟩
      return dispose (.pendingDelivery effectId)
        { plan with characterImpulses := plan.characterImpulses ++ [impulse] }

def projectEffects : Except NarrativeError ProjectedNarrativePlan :=
  input.state.pendingEffects.toList.foldlM input.projectEffect {}

/-- `NarrativeProjector::project`. -/
def project : Except NarrativeError NarrativeProjection := do
  let queries ← input.queries limits
  let plan ← input.projectEffects
  let conditionQueries := queries.toList.map fun (conditionKey, criterion) =>
    NarrativeConditionQuery.mk conditionKey criterion
  return {
    plan := { plan with activeNodes := input.activeNodes }
    conditionQueries
    expectedGraphRevision := input.state.graphRevision }

end NarrativeProjectionInput

end Aise.Domain
