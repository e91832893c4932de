import Aise.Core.Knowledge

/-! Three-valued narrative conditions. Semantic leaves are answered outside the
engine; a leaf nobody answered is unknown. Conditions nest without bound, so every
traversal is a pair of functions, over one condition and over a list of them. -/
namespace Aise

inductive Truth where
  | satisfied | unsatisfied | unknown
  deriving DecidableEq

namespace Truth

def fromBool (value : Bool) : Truth := if value then .satisfied else .unsatisfied

def negate : Truth → Truth
  | .satisfied => .unsatisfied
  | .unsatisfied => .satisfied
  | .unknown => .unknown

/-- The loop of `Truth::all`, returning at the first `Unsatisfied`. -/
def allFrom (result : Truth) : List Truth → Truth
  | [] => result
  | .unsatisfied :: _ => .unsatisfied
  | .unknown :: rest => allFrom .unknown rest
  | .satisfied :: rest => allFrom result rest

def all : List Truth → Truth := allFrom .satisfied

/-- The loop of `Truth::any`, returning at the first `Satisfied`. -/
def anyFrom (result : Truth) : List Truth → Truth
  | [] => result
  | .satisfied :: _ => .satisfied
  | .unknown :: rest => anyFrom .unknown rest
  | .unsatisfied :: rest => anyFrom result rest

def any : List Truth → Truth := anyFrom .unsatisfied

end Truth

inductive NodeStatus where
  | inactive | active | completed | skipped
  deriving DecidableEq

structure NarrativeTransition where
  nodeId : NarrativeNodeId
  toStatus : NodeStatus
  deriving DecidableEq

structure NarrativeState where
  nodeStatus : BTreeMap .narrativeNode NodeStatus := ∅
  deriving DecidableEq

def NarrativeState.status (state : NarrativeState) (nodeId : NarrativeNodeId) : NodeStatus :=
  state.nodeStatus[nodeId]?.getD .inactive

def NarrativeState.applyOne (state : NarrativeState) (transition : NarrativeTransition) :
    NarrativeState :=
  ⟨state.nodeStatus.insert transition.nodeId transition.toStatus⟩

def NarrativeState.apply (state : NarrativeState) (transitions : List NarrativeTransition) :
    NarrativeState :=
  transitions.foldl applyOne state

inductive NarrativeCondition where
  | all (conditions : List NarrativeCondition)
  | any (conditions : List NarrativeCondition)
  | not (condition : NarrativeCondition)
  | storyStarted
  | turnReaches (turn : Nat)
  | nodeIs (nodeId : NarrativeNodeId) (status : NodeStatus)
  | semantic (conditionId : NarrativeConditionId) (criterion : BoundedText)

structure NarrativeEvidence where
  turn : TurnNumber
  semanticResults : BTreeMap .narrativeCondition Truth

inductive NarrativeError where
  | emptyCondition (operator : String)
  | unknownNode (nodeId : String)
  | semanticCriterionConflict (conditionId : String)
  deriving DecidableEq

namespace NarrativeCondition

mutual
def evaluate (state : NarrativeState) (input : NarrativeEvidence) : NarrativeCondition → Truth
  | .all conditions => Truth.all (evaluateEach state input conditions)
  | .any conditions => Truth.any (evaluateEach state input conditions)
  | .not condition => (evaluate state input condition).negate
  | .storyStarted => .satisfied
  | .turnReaches turn => Truth.fromBool (input.turn.value ≥ turn)
  | .nodeIs nodeId status => Truth.fromBool (state.status nodeId = status)
  | .semantic conditionId _ => input.semanticResults[conditionId]?.getD .unknown

def evaluateEach (state : NarrativeState) (input : NarrativeEvidence) :
    List NarrativeCondition → List Truth
  | [] => []
  | condition :: rest => evaluate state input condition :: evaluateEach state input rest
end

def holds (state : NarrativeState) (input : NarrativeEvidence) (condition : NarrativeCondition) :
    Bool :=
  condition.evaluate state input = .satisfied

variable {V : Type}

mutual
def validate (nodes : BTreeMap .narrativeNode V) : NarrativeCondition → Except NarrativeError Unit
  | .all conditions =>
    if conditions.isEmpty then .error (.emptyCondition "all") else validateEach nodes conditions
  | .any conditions =>
    if conditions.isEmpty then .error (.emptyCondition "any") else validateEach nodes conditions
  | .not condition => validate nodes condition
  | .nodeIs nodeId _ =>
    if nodes.contains nodeId then .ok () else .error (.unknownNode (toString nodeId))
  | .storyStarted | .turnReaches _ | .semantic _ _ => .ok ()

def validateEach (nodes : BTreeMap .narrativeNode V) :
    List NarrativeCondition → Except NarrativeError Unit
  | [] => .ok ()
  | condition :: rest => do
    validate nodes condition
    validateEach nodes rest
end

abbrev Criteria := BTreeMap .narrativeCondition BoundedText

mutual
/-- The criteria collected so far are returned; an error discards them, as the
callers do with their local map. -/
def collectSemantic (found : Criteria) : NarrativeCondition → Except NarrativeError Criteria
  | .all conditions | .any conditions => collectEach found conditions
  | .not condition => collectSemantic found condition
  | .semantic conditionId criterion =>
    match found[conditionId]? with
    | some existing =>
      if existing ≠ criterion then .error (.semanticCriterionConflict (toString conditionId))
      else .ok found
    | none => .ok (found.insert conditionId criterion)
  | .storyStarted | .turnReaches _ | .nodeIs _ _ => .ok found

def collectEach (found : Criteria) : List NarrativeCondition → Except NarrativeError Criteria
  | [] => .ok found
  | condition :: rest => do
    let found ← collectSemantic found condition
    collectEach found rest
end

end NarrativeCondition
end Aise
