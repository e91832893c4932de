import Aise.Core.Narrative.Condition
import Aise.Lib.Keyed
import Aise.Lib.OrdMap

/-! The narrative graph and its resolver. All transitions of a turn are computed
from the state before it and applied together; each names another node, so a node
takes exactly the move its own conditions give it. -/
namespace Aise

inductive ConstraintWindow where
  | beforeActive | whileActive
  deriving DecidableEq

structure NarrativeConstraint where
  forbid : BoundedText
  window : ConstraintWindow
  deriving DecidableEq

structure NarrativeNode where
  title : BoundedText
  dramaticFocus : Option BoundedText := none
  activateWhen : NarrativeCondition
  completeWhen : NarrativeCondition
  skipWhen : Option NarrativeCondition := none
  constraints : List NarrativeConstraint := []
  terminal : Bool := false

structure NarrativeGraph where
  nodes : BTreeMap .narrativeNode NarrativeNode

def NarrativeNode.conditions (node : NarrativeNode) : List NarrativeCondition :=
  [node.activateWhen, node.completeWhen] ++ node.skipWhen.toList

def NarrativeNode.nextStatus (node : NarrativeNode) (current : NodeStatus)
    (state : NarrativeState) (input : NarrativeEvidence) : Option NodeStatus :=
  match current with
  | .inactive => if node.activateWhen.holds state input then some .active else none
  | .active =>
    if node.skipWhen.any (·.holds state input) then some .skipped
    else if node.completeWhen.holds state input then some .completed else none
  | .completed | .skipped => none

structure NarrativeResolution where
  transitions : List NarrativeTransition
  storyCompleted : Bool
  deriving DecidableEq

namespace NarrativeGraph

/-- The loop of `validate` over the conditions of all nodes. -/
def checkConditions (graph : NarrativeGraph) (semantic : NarrativeCondition.Criteria) :
    List NarrativeCondition → Except NarrativeError Unit
  | [] => .ok ()
  | condition :: rest => do
    condition.validate graph.nodes
    let semantic ← condition.collectSemantic semantic
    checkConditions graph semantic rest

def validate (graph : NarrativeGraph) : Except NarrativeError Unit :=
  graph.checkConditions ∅ (graph.nodes.toList.flatMap fun (_, node) => node.conditions)

/-- The transition of one node, if it takes one. -/
def nodeTransition (state : NarrativeState) (evidence : NarrativeEvidence)
    (entry : NarrativeNodeId × NarrativeNode) : Option NarrativeTransition :=
  (entry.2.nextStatus (state.status entry.1) state evidence).map (⟨entry.1, ·⟩)

def completesStory (graph : NarrativeGraph) (transition : NarrativeTransition) : Bool :=
  transition.toStatus = .completed && graph.nodes[transition.nodeId]?.any (·.terminal)

def resolve (graph : NarrativeGraph) (state : NarrativeState) (evidence : NarrativeEvidence) :
    NarrativeResolution :=
  let transitions := graph.nodes.toList.filterMap (nodeTransition state evidence)
  { transitions, storyCompleted := transitions.any graph.completesStory }

def initialState (graph : NarrativeGraph) : NarrativeState :=
  NarrativeState.apply {} (graph.resolve {} ⟨⟨0⟩, ∅⟩).transitions

end NarrativeGraph

/-- The moves a node can make in one turn: none, or one step along the life of a node. -/
inductive NodeStatus.Moves : NodeStatus → NodeStatus → Prop where
  | stay (status) : Moves status status
  | activate : Moves .inactive .active
  | complete : Moves .active .completed
  | skip : Moves .active .skipped

theorem NarrativeNode.nextStatus_moves {node : NarrativeNode}
    (next : node.nextStatus current state input = some after) : current.Moves after := by
  cases current with
  | inactive =>
    obtain ⟨_, active⟩ := Option.ite_none_right_eq_some.mp next
    cases active
    exact .activate
  | active =>
    simp only [NarrativeNode.nextStatus] at next
    split at next
    · cases next
      exact .skip
    · obtain ⟨_, completed⟩ := Option.ite_none_right_eq_some.mp next
      cases completed
      exact .complete
  | completed | skipped => contradiction

namespace NarrativeState

theorem applyOne_pointwise : Keyed.Pointwise NarrativeTransition.nodeId
    (fun transition _ => transition.toStatus) applyOne status := by
  intro state transition nodeId
  simp only [status, applyOne, OrdMap.get_insert]
  split <;> rfl

theorem status_apply_of_not_mem {transitions : List NarrativeTransition}
    (absent : nodeId ∉ transitions.map NarrativeTransition.nodeId) (state : NarrativeState) :
    (state.apply transitions).status nodeId = state.status nodeId :=
  Keyed.look_of_not_mem applyOne_pointwise absent

theorem status_apply_of_mem {transitions : List NarrativeTransition}
    (distinct : (transitions.map NarrativeTransition.nodeId).Nodup)
    (member : transition ∈ transitions) (state : NarrativeState) :
    (state.apply transitions).status transition.nodeId = transition.toStatus :=
  Keyed.look_of_mem applyOne_pointwise distinct member

end NarrativeState

namespace NarrativeGraph
variable {graph : NarrativeGraph} {state : NarrativeState} {evidence : NarrativeEvidence}

theorem mem_resolve_transitions : transition ∈ (graph.resolve state evidence).transitions ↔
    ∃ node, graph.nodes[transition.nodeId]? = some node ∧
      node.nextStatus (state.status transition.nodeId) state evidence = some transition.toStatus := by
  simp only [resolve, List.mem_filterMap, Prod.exists, nodeTransition,
    Std.ExtTreeMap.mem_toList_iff_getElem?_eq_some, Option.map_eq_some_iff]
  constructor
  · rintro ⟨nodeId, node, found, after, next, rfl⟩
    exact ⟨node, found, next⟩
  · rintro ⟨node, found, next⟩
    exact ⟨transition.nodeId, node, found, transition.toStatus, next, rfl⟩

theorem nodeTransition_nodeId {entry : NarrativeNodeId × NarrativeNode}
    (moved : nodeTransition state evidence entry = some transition) :
    transition.nodeId = entry.1 := by
  obtain ⟨after, _, rfl⟩ := Option.map_eq_some_iff.mp moved
  rfl

theorem resolve_transitions_distinct (graph : NarrativeGraph) (state : NarrativeState)
    (evidence : NarrativeEvidence) :
    ((graph.resolve state evidence).transitions.map NarrativeTransition.nodeId).Nodup := by
  have keys : graph.nodes.toList.Pairwise (fun a b => a.1 ≠ b.1) := by
    apply (List.pairwise_map (f := Prod.fst)).mp
    rw [Std.ExtTreeMap.map_fst_toList_eq_keys]
    exact Std.ExtTreeMap.nodup_keys
  refine List.pairwise_map.mpr (List.pairwise_filterMap.mpr (keys.imp ?_))
  intro a b different x moved y moved' same
  rw [nodeTransition_nodeId moved, nodeTransition_nodeId moved'] at same
  exact different same

/-- Resolving a turn gives every node its own next status and nothing else. -/
theorem status_apply_resolve (graph : NarrativeGraph) (state : NarrativeState)
    (evidence : NarrativeEvidence) (nodeId : NarrativeNodeId) :
    (state.apply (graph.resolve state evidence).transitions).status nodeId =
      (graph.nodes[nodeId]?.bind fun node =>
        node.nextStatus (state.status nodeId) state evidence).getD (state.status nodeId) := by
  have distinct := resolve_transitions_distinct graph state evidence
  cases next : graph.nodes[nodeId]?.bind fun node =>
      node.nextStatus (state.status nodeId) state evidence with
  | some after =>
    obtain ⟨node, found, moves⟩ := Option.bind_eq_some_iff.mp next
    have member : ⟨nodeId, after⟩ ∈ (graph.resolve state evidence).transitions :=
      mem_resolve_transitions.mpr ⟨node, found, moves⟩
    exact NarrativeState.status_apply_of_mem distinct member state
  | none =>
    apply NarrativeState.status_apply_of_not_mem
    intro member
    obtain ⟨transition, resolved, rfl⟩ := List.mem_map.mp member
    obtain ⟨node, found, moves⟩ := mem_resolve_transitions.mp resolved
    simp [found, moves] at next

theorem resolve_moves (graph : NarrativeGraph) (state : NarrativeState)
    (evidence : NarrativeEvidence) (nodeId : NarrativeNodeId) :
    (state.status nodeId).Moves
      ((state.apply (graph.resolve state evidence).transitions).status nodeId) := by
  rw [status_apply_resolve]
  cases next : graph.nodes[nodeId]?.bind fun node =>
      node.nextStatus (state.status nodeId) state evidence with
  | none => exact .stay _
  | some after =>
    obtain ⟨node, _, moves⟩ := Option.bind_eq_some_iff.mp next
    exact NarrativeNode.nextStatus_moves moves

/-- Some terminal node of the graph is completed. -/
def Ended (graph : NarrativeGraph) (state : NarrativeState) : Prop :=
  ∃ nodeId node, graph.nodes[nodeId]? = some node ∧ node.terminal = true ∧
    state.status nodeId = .completed

theorem storyCompleted_iff : (graph.resolve state evidence).storyCompleted = true ↔
    ∃ (nodeId : NarrativeNodeId) (node : NarrativeNode), graph.nodes[nodeId]? = some node ∧ node.terminal = true ∧
      node.nextStatus (state.status nodeId) state evidence = some .completed := by
  change ((graph.resolve state evidence).transitions.any graph.completesStory) = true ↔ _
  simp only [List.any_eq_true, completesStory, Bool.and_eq_true, decide_eq_true_eq,
    Option.any_eq_true, mem_resolve_transitions]
  constructor
  · rintro ⟨⟨nodeId, after⟩, ⟨node, found, moves⟩, completed, other, found', terminal⟩
    cases Option.some.inj (found.symm.trans found')
    exact ⟨nodeId, node, found, terminal, moves.trans (congrArg some completed)⟩
  · rintro ⟨nodeId, node, found, terminal, moves⟩
    exact ⟨⟨nodeId, .completed⟩, ⟨node, found, moves⟩, rfl, node, found, terminal⟩

/-- A story that had not ended ends in this turn exactly when the resolver says so. -/
theorem ended_apply_iff (open_ : ¬ graph.Ended state) :
    graph.Ended (state.apply (graph.resolve state evidence).transitions) ↔
      (graph.resolve state evidence).storyCompleted = true := by
  rw [storyCompleted_iff]
  constructor
  · rintro ⟨nodeId, node, found, terminal, completed⟩
    refine ⟨nodeId, node, found, terminal, ?_⟩
    rw [status_apply_resolve, found, Option.bind_some] at completed
    cases moves : node.nextStatus (state.status nodeId) state evidence with
    | none =>
      rw [moves, Option.getD_none] at completed
      exact absurd ⟨nodeId, node, found, terminal, completed⟩ open_
    | some after =>
      rw [moves, Option.getD_some] at completed
      rw [completed]
  · rintro ⟨nodeId, node, found, terminal, moves⟩
    refine ⟨nodeId, node, found, terminal, ?_⟩
    rw [status_apply_resolve, found, Option.bind_some, moves, Option.getD_some]

/-- At creation a node is inactive or active. -/
theorem initialState_status (graph : NarrativeGraph) (nodeId : NarrativeNodeId) :
    graph.initialState.status nodeId = .inactive ∨ graph.initialState.status nodeId = .active := by
  have empty : NarrativeState.status {} nodeId = .inactive := by simp [NarrativeState.status]
  have moves := resolve_moves graph {} ⟨⟨0⟩, ∅⟩ nodeId
  rw [empty] at moves
  change NodeStatus.Moves .inactive (graph.initialState.status nodeId) at moves
  generalize graph.initialState.status nodeId = after at moves
  cases moves with
  | stay => exact .inl rfl
  | activate => exact .inr rfl

theorem initialState_open (graph : NarrativeGraph) : ¬ graph.Ended graph.initialState := by
  rintro ⟨nodeId, _, _, _, completed⟩
  rcases initialState_status graph nodeId with inactive | active
  · simp [inactive] at completed
  · simp [active] at completed

end NarrativeGraph
end Aise
