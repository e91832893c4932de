import Aise.Core.Ids
import Aise.Domain.Entry

/-! The narrative graph of a story pack, the state a story has in it, and the conditions that move
the story along. A condition has one of three values. -/
namespace Aise.Domain

inductive NarrativeNodeState where
  | inactive | active | completed | skipped
  deriving DecidableEq

inductive RoleControllerKind where
  | player | ai
  deriving DecidableEq

inductive NarrativeTruthValue where
  | satisfied | unsatisfied | unknown
  deriving DecidableEq

namespace NarrativeTruthValue

def not : NarrativeTruthValue → NarrativeTruthValue
  | satisfied => unsatisfied
  | unsatisfied => satisfied
  | unknown => unknown

def all (values : List NarrativeTruthValue) : NarrativeTruthValue :=
  if unsatisfied ∈ values then unsatisfied
  else if ∀ value ∈ values, value = satisfied then satisfied
  else unknown

def any (values : List NarrativeTruthValue) : NarrativeTruthValue :=
  if satisfied ∈ values then satisfied
  else if ∀ value ∈ values, value = unsatisfied then unsatisfied
  else unknown

def ofBool (holds : Bool) : NarrativeTruthValue := if holds then satisfied else unsatisfied

end NarrativeTruthValue

structure SemanticNarrativeCondition where
  conditionKey : AssetKey
  criterion : BoundedText

inductive NarrativeCondition where
  | all (conditions : List NarrativeCondition)
  | any (conditions : List NarrativeCondition)
  | not (condition : NarrativeCondition)
  | storyStarted
  | nodeState (nodeKey : AssetKey) (state : NarrativeNodeState)
  | semantic (semantic : SemanticNarrativeCondition)
  | factStateEquals (factKey : AssetKey) (value : ScalarValue)
  | roleStateEquals (roleId : RoleId) (attributeName : BoundedText) (value : ScalarValue)
  | relationshipReaches (sourceRoleId targetRoleId : RoleId) (minimumTrust : Int16)
  | turnReaches (turn : UInt64)
  | roleControllerIs (roleId : RoleId) (controller : RoleControllerKind)

/-! ### Effects -/

inductive NarrativeParticipant where
  | role (roleId : RoleId)
  | location (key : AssetKey)
  deriving DecidableEq

inductive ImpulseUrgency where
  | low | medium | high
  deriving DecidableEq

inductive NarrativeEffectDefinition where
  | worldEvent (eventKey : AssetKey) (category : BoundedText)
    (participants : List NarrativeParticipant) (location : Option AssetKey)
    (description : BoundedText)
  | characterImpulse (targetRoleId : RoleId) (goal : BoundedText) (reason emotion : Option BoundedText)
    (urgency : ImpulseUrgency) (validForTurns : Option { turns : UInt32 // turns ≠ 0 })
  deriving DecidableEq

structure CharacterImpulse where
  sourceNode : AssetKey
  targetRoleId : RoleId
  goal : BoundedText
  reason : Option BoundedText := none
  emotion : Option BoundedText := none
  urgency : ImpulseUrgency
  expiresAfterTurn : Option UInt64 := none
  deriving DecidableEq

/-- The part of a `NarrativePlan` that the writer's plan is built from. -/
structure NarrativePlan where
  characterImpulses : List CharacterImpulse := []
  deriving DecidableEq

inductive NarrativeTransitionKind where
  | activate | complete | skip
  deriving DecidableEq

def NarrativeTransitionKind.asStr : NarrativeTransitionKind → String
  | activate => "activate"
  | complete => "complete"
  | skip => "skip"

/-- `NarrativeEffectId::for_transition`. -/
def narrativeEffectId (sourceNode : AssetKey) (transition : NarrativeTransitionKind)
    (sourceGraphRevision : UInt64) (effectIndex : UInt32) : AssetKey :=
  ⟨s!"narrative-effect:{sourceNode.asStr}:{transition.asStr}:" ++
    s!"{sourceGraphRevision.toNat}:{effectIndex.toNat}"⟩

/-! ### Definition and state -/

structure NarrativeNodeEffects where
  onActivate : List NarrativeEffectDefinition := []
  onComplete : List NarrativeEffectDefinition := []

structure NarrativeNodeDefinition where
  activateWhen : NarrativeCondition
  completeWhen : NarrativeCondition
  skipWhen : Option NarrativeCondition := none
  effects : NarrativeNodeEffects := {}

structure NarrativeEdgeDefinition where
  fromNode : AssetKey
  toNode : AssetKey
  when : NarrativeCondition

structure NarrativeGraphDefinition where
  entryNodes : List AssetKey
  nodes : BTreeMap AssetKey NarrativeNodeDefinition
  edges : List NarrativeEdgeDefinition := []

structure PendingNarrativeEffect where
  effectId : AssetKey
  sourceNode : AssetKey
  sourceTransition : NarrativeTransitionKind
  sourceGraphRevision : UInt64
  createdByTurn : Option TurnNumber := none
  effectIndex : UInt32
  expiresAfterTurn : Option UInt64 := none
  definition : NarrativeEffectDefinition

structure NarrativeRuntimeState where
  graphRevision : UInt64 := 0
  nodeStates : BTreeMap AssetKey NarrativeNodeState := ∅
  activationTurns : BTreeMap AssetKey TurnNumber := ∅
  pendingEffects : BTreeMap AssetKey PendingNarrativeEffect := ∅

def NarrativeRuntimeState.nodeState (state : NarrativeRuntimeState) (node : AssetKey) :
    NarrativeNodeState :=
  state.nodeStates[node]?.getD .inactive

structure NarrativeLimits where
  maxConditionDepth : Nat
  maxConditionsPerNode : Nat
  maxTransitionsPerTurn : Nat
  maxPendingEffects : Nat
  deriving DecidableEq

inductive NarrativeError where
  | missingReference (key : String)
  | conditionDepthExceeded | conditionCountExceeded
  | semanticCriterionConflict (key : String)
  | semanticConditionLimitExceeded | frontierLimitExceeded
  | semanticQueryLimitExceeded | semanticQueryByteLimitExceeded
  | transitionLimitExceeded | pendingEffectLimitExceeded
  | graphRevisionMismatch
  | invariant (code : String)
  deriving DecidableEq

/-- `NarrativeStateViewError::UnknownRole`. -/
structure UnknownRole where
  roleId : String
  deriving DecidableEq

/-- What a condition can ask of the state of a story. -/
structure NarrativeStateView where
  factValue : AssetKey → Except UnknownRole (Option ScalarValue)
  roleAttribute : RoleId → BoundedText → Except UnknownRole (Option ScalarValue)
  relationshipTrust : RoleId → RoleId → Except UnknownRole (Option Int16)
  roleController : RoleId → Except UnknownRole RoleControllerKind

/-! ### Conditions -/

structure ConditionEvalContext where
  state : NarrativeRuntimeState
  view : NarrativeStateView
  semanticResults : BTreeMap AssetKey NarrativeTruthValue
  currentTurn : UInt64
  limits : NarrativeLimits

/-- The answer of a view, with the one error that conditions make of any of its errors. -/
def NarrativeStateView.ask {α : Type} (answer : Except UnknownRole α) (code : String) :
    Except NarrativeError α :=
  answer.mapError fun _ => .invariant code

mutual

def evaluateCondition (ctx : ConditionEvalContext) :
    NarrativeCondition → (depth : Nat) → Except NarrativeError NarrativeTruthValue
  | condition, depth =>
    if depth > ctx.limits.maxConditionDepth then .error .conditionDepthExceeded
    else match condition with
    | .all conditions =>
      if conditions.isEmpty ∨ conditions.length > ctx.limits.maxConditionsPerNode then
        .error .conditionCountExceeded
      else return .all (← evaluateConditions ctx conditions (depth + 1))
    | .any conditions =>
      if conditions.isEmpty ∨ conditions.length > ctx.limits.maxConditionsPerNode then
        .error .conditionCountExceeded
      else return .any (← evaluateConditions ctx conditions (depth + 1))
    | .not condition => return .not (← evaluateCondition ctx condition (depth + 1))
    | .storyStarted => .ok .satisfied
    | .turnReaches turn => .ok (.ofBool (ctx.currentTurn ≥ turn))
    | .nodeState nodeKey state => .ok (.ofBool (ctx.state.nodeState nodeKey = state))
    | .semantic semantic => .ok (ctx.semanticResults[semantic.conditionKey]?.getD .unknown)
    | .factStateEquals factKey value =>
      return .ofBool ((← NarrativeStateView.ask (ctx.view.factValue factKey)
        "unknown_fact_reference") = some value)
    | .roleStateEquals roleId attributeName value =>
      return .ofBool ((← NarrativeStateView.ask (ctx.view.roleAttribute roleId attributeName)
        "unknown_role_state_reference") = some value)
    | .relationshipReaches sourceRoleId targetRoleId minimumTrust =>
      return .ofBool ((← NarrativeStateView.ask (ctx.view.relationshipTrust sourceRoleId targetRoleId)
        "unknown_relationship_role_reference").any (· ≥ minimumTrust))
    | .roleControllerIs roleId controller =>
      return .ofBool ((← NarrativeStateView.ask (ctx.view.roleController roleId)
        "unknown_role_controller_reference") = controller)

/-- Conditions of one list, evaluated in turn until one of them cannot be. -/
def evaluateConditions (ctx : ConditionEvalContext) :
    List NarrativeCondition → (depth : Nat) → Except NarrativeError (List NarrativeTruthValue)
  | [], _ => .ok []
  | condition :: conditions, depth =>
    return (← evaluateCondition ctx condition depth) :: (← evaluateConditions ctx conditions depth)

end

end Aise.Domain
