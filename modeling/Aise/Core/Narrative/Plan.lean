import Aise.Core.Narrative.Graph
import Aise.Lib.Glossary

/-! What a turn asks about the narrative. The plan lists the semantic leaves of the
conditions watched in each node's status; the resolver evaluates conditions of the
same status, so the answers to the plan decide everything it does. The plan cannot
see the turn, and also asks for the completion of a node that is about to be skipped. -/
namespace Aise

structure NarrativeDirection where
  nodeId : NarrativeNodeId
  dramaticFocus : BoundedText

structure ActiveConstraint where
  nodeId : NarrativeNodeId
  forbid : BoundedText

structure SemanticQuery where
  conditionId : NarrativeConditionId
  criterion : BoundedText

structure NarrativePlan where
  directions : List NarrativeDirection
  constraints : List ActiveConstraint
  queries : List SemanticQuery

def NarrativeConstraint.applies (constraint : NarrativeConstraint) (status : NodeStatus) : Bool :=
  match constraint.window, status with
  | .beforeActive, .inactive | .whileActive, .active => true
  | _, _ => false

def NarrativeNode.watchedConditions (node : NarrativeNode) (status : NodeStatus) :
    List NarrativeCondition :=
  match status with
  | .inactive => [node.activateWhen]
  | .active => node.skipWhen.toList ++ [node.completeWhen]
  | .completed | .skipped => []

namespace NarrativeGraph

def constraints (graph : NarrativeGraph) (state : NarrativeState) : List ActiveConstraint :=
  graph.nodes.toList.flatMap fun (nodeId, node) =>
    (node.constraints.filter (·.applies (state.status nodeId))).map fun constraint =>
      ⟨nodeId, constraint.forbid⟩

def directions (graph : NarrativeGraph) (state : NarrativeState) : List NarrativeDirection :=
  (graph.nodes.toList.filter fun (nodeId, _) => state.status nodeId = .active).filterMap
    fun (nodeId, node) => node.dramaticFocus.map (⟨nodeId, ·⟩)

def watched (graph : NarrativeGraph) (state : NarrativeState) : List NarrativeCondition :=
  graph.nodes.toList.flatMap fun (nodeId, node) => node.watchedConditions (state.status nodeId)

def queries (graph : NarrativeGraph) (state : NarrativeState) :
    Except NarrativeError (List SemanticQuery) := do
  let found ← NarrativeCondition.collectEach ∅ (graph.watched state)
  return found.toList.map fun (conditionId, criterion) => ⟨conditionId, criterion⟩

def plan (graph : NarrativeGraph) (state : NarrativeState) : Except NarrativeError NarrativePlan := do
  let queries ← graph.queries state
  return { directions := graph.directions state, constraints := graph.constraints state, queries }

end NarrativeGraph

namespace NarrativeCondition

mutual
/-- The semantic leaves of a condition, in the order of the traversals. -/
def leaves : NarrativeCondition → List (NarrativeConditionId × BoundedText)
  | .all conditions | .any conditions => leavesEach conditions
  | .not condition => leaves condition
  | .semantic conditionId criterion => [(conditionId, criterion)]
  | .storyStarted | .turnReaches _ | .nodeIs _ _ => []

def leavesEach : List NarrativeCondition → List (NarrativeConditionId × BoundedText)
  | [] => []
  | condition :: rest => leaves condition ++ leavesEach rest
end

theorem mem_leavesEach {conditions : List NarrativeCondition} :
    leaf ∈ leavesEach conditions ↔ ∃ condition ∈ conditions, leaf ∈ condition.leaves := by
  induction conditions with
  | nil => simp [leavesEach]
  | cons condition rest ih => simp [leavesEach, ih]

def conflict (conditionId : NarrativeConditionId) : NarrativeError :=
  .semanticCriterionConflict (toString conditionId)

mutual
theorem collectSemantic_eq (found : Criteria) : (condition : NarrativeCondition) →
    collectSemantic found condition = Glossary.collect conflict found condition.leaves
  | .all conditions | .any conditions => by
    simp only [collectSemantic, leaves]
    exact collectEach_eq found conditions
  | .not condition => by
    simp only [collectSemantic, leaves]
    exact collectSemantic_eq found condition
  | .semantic conditionId criterion => by
    rw [leaves, Glossary.collect_singleton, collectSemantic, Glossary.define]
    cases found[conditionId]? <;> rfl
  | .storyStarted | .turnReaches _ | .nodeIs _ _ => by
    simp [collectSemantic, leaves]

theorem collectEach_eq (found : Criteria) : (conditions : List NarrativeCondition) →
    collectEach found conditions = Glossary.collect conflict found (leavesEach conditions)
  | [] => rfl
  | condition :: rest => by
    simp only [collectEach, leavesEach, Glossary.collect_append, collectSemantic_eq found condition]
    congr 1
    funext next
    exact collectEach_eq next rest
end

/-- Two answers agree on a condition's leaves. -/
def Agree (first second : NarrativeEvidence)
    (leaves : List (NarrativeConditionId × BoundedText)) : Prop :=
  ∀ leaf ∈ leaves, first.semanticResults[leaf.1]? = second.semanticResults[leaf.1]?

mutual
theorem evaluate_congr {first second : NarrativeEvidence} (turn : first.turn = second.turn)
    (state : NarrativeState) : (condition : NarrativeCondition) →
    Agree first second condition.leaves →
    condition.evaluate state first = condition.evaluate state second
  | .all conditions, agree | .any conditions, agree => by
    simp only [evaluate]
    rw [evaluateEach_congr turn state conditions agree]
  | .not condition, agree => by
    simp only [evaluate]
    rw [evaluate_congr turn state condition agree]
  | .semantic conditionId criterion, agree => by
    have same := agree (conditionId, criterion) (by simp [leaves])
    simp only [evaluate, same]
  | .turnReaches _, _ => by simp only [evaluate, turn]
  | .storyStarted, _ | .nodeIs _ _, _ => by simp only [evaluate]

theorem evaluateEach_congr {first second : NarrativeEvidence} (turn : first.turn = second.turn)
    (state : NarrativeState) : (conditions : List NarrativeCondition) →
    Agree first second (leavesEach conditions) →
    evaluateEach state first conditions = evaluateEach state second conditions
  | [], _ => rfl
  | condition :: rest, agree => by
    obtain ⟨here, later⟩ := List.forall_mem_append.mp agree
    simp only [evaluateEach]
    rw [evaluate_congr turn state condition here, evaluateEach_congr turn state rest later]
end

theorem holds_congr {condition : NarrativeCondition}
    (same : condition.evaluate state first = condition.evaluate state second) :
    condition.holds state first = condition.holds state second := by
  rw [holds, holds, same]

end NarrativeCondition

/-- The conditions `nextStatus` asks whether they hold. -/
def NarrativeNode.evaluated (node : NarrativeNode) (current : NodeStatus) (state : NarrativeState)
    (input : NarrativeEvidence) : List NarrativeCondition :=
  match current with
  | .inactive => [node.activateWhen]
  | .active => node.skipWhen.toList ++
      if node.skipWhen.any (·.holds state input) then [] else [node.completeWhen]
  | .completed | .skipped => []

namespace NarrativeNode
variable {node : NarrativeNode} {state : NarrativeState} {first second : NarrativeEvidence}

theorem evaluated_watched (member : condition ∈ node.evaluated current state input) :
    condition ∈ node.watchedConditions current := by
  cases current with
  | active =>
    rcases List.mem_append.mp member with skip | complete
    · exact List.mem_append_left _ skip
    · split at complete
      · contradiction
      · exact List.mem_append_right _ complete
  | inactive | completed | skipped => exact member

theorem watched_conditions (member : condition ∈ node.watchedConditions status) :
    condition ∈ node.conditions := by
  cases status with
  | inactive => simp_all [watchedConditions, conditions]
  | active =>
    rcases List.mem_append.mp member with skip | complete
    · exact List.mem_append_right _ skip
    · simp_all [conditions]
  | completed | skipped => contradiction

/-- A watched condition is evaluated, unless the node is skipped before its completion
is looked at. -/
theorem watched_evaluated (member : condition ∈ node.watchedConditions current)
    (state : NarrativeState) (input : NarrativeEvidence) :
    condition ∈ node.evaluated current state input ∨
      current = .active ∧ condition = node.completeWhen ∧
        node.skipWhen.any (·.holds state input) = true := by
  cases current with
  | active =>
    rcases List.mem_append.mp member with skip | complete
    · exact .inl (List.mem_append_left _ skip)
    · cases skips : node.skipWhen.any (·.holds state input) with
      | true => exact .inr ⟨rfl, List.mem_singleton.mp complete, rfl⟩
      | false => exact .inl (by simpa [evaluated, skips] using .inr (List.mem_singleton.mp complete))
  | inactive | completed | skipped => exact .inl member

/-- The next status is decided by the conditions evaluated for it. -/
theorem nextStatus_congr {current : NodeStatus}
    (same : ∀ condition ∈ node.evaluated current state first,
      condition.evaluate state first = condition.evaluate state second) :
    node.nextStatus current state first = node.nextStatus current state second := by
  cases current with
  | inactive =>
    simp only [evaluated, List.mem_singleton, forall_eq] at same
    rw [nextStatus, nextStatus, NarrativeCondition.holds_congr same]
  | active =>
    obtain ⟨skip, complete⟩ := List.forall_mem_append.mp same
    have skips : node.skipWhen.any (·.holds state first) =
        node.skipWhen.any (·.holds state second) := by
      cases declared : node.skipWhen with
      | none => rfl
      | some condition =>
        have here := skip condition (by simp [declared])
        exact NarrativeCondition.holds_congr here
    simp only [nextStatus, ← skips]
    split
    · rfl
    · rename_i stays
      rw [if_neg stays] at complete
      have here := complete node.completeWhen (List.mem_singleton_self _)
      rw [NarrativeCondition.holds_congr here]
  | completed | skipped => rfl

end NarrativeNode

namespace NarrativeGraph
variable {graph : NarrativeGraph} {state : NarrativeState}

theorem mem_watched : condition ∈ graph.watched state ↔
    ∃ (nodeId : NarrativeNodeId) (node : NarrativeNode), graph.nodes[nodeId]? = some node ∧
      condition ∈ node.watchedConditions (state.status nodeId) := by
  simp only [watched, List.mem_flatMap, Prod.exists, Std.ExtTreeMap.mem_toList_iff_getElem?_eq_some]

/-- The queries are the leaves of the watched conditions. -/
theorem mem_queries {queries : List SemanticQuery} (asked : graph.queries state = .ok queries) :
    ⟨conditionId, criterion⟩ ∈ queries ↔
      ∃ condition ∈ graph.watched state, (conditionId, criterion) ∈ condition.leaves := by
  obtain ⟨found, collected, asked⟩ := Result.bind_eq_ok asked
  cases asked
  rw [NarrativeCondition.collectEach_eq] at collected
  have leaf := Glossary.get_collect collected conditionId criterion
  rw [NarrativeCondition.mem_leavesEach] at leaf
  simpa [Std.ExtTreeMap.mem_toList_iff_getElem?_eq_some] using leaf

theorem plan_queries {plan : NarrativePlan} (planned : graph.plan state = .ok plan) :
    graph.queries state = .ok plan.queries := by
  obtain ⟨queries, asked, planned⟩ := Result.bind_eq_ok planned
  cases planned
  exact asked

theorem leaf_asked {plan : NarrativePlan} (planned : graph.plan state = .ok plan)
    {node : NarrativeNode} (found : graph.nodes[nodeId]? = some node)
    (evaluated : condition ∈ node.evaluated (state.status nodeId) state evidence)
    (leaf : (conditionId, criterion) ∈ condition.leaves) :
    ⟨conditionId, criterion⟩ ∈ plan.queries := by
  apply (mem_queries (plan_queries planned)).mpr
  exact ⟨condition, mem_watched.mpr ⟨nodeId, node, found, node.evaluated_watched evaluated⟩, leaf⟩

theorem resolve_congr {first second : NarrativeEvidence}
    (same : ∀ (nodeId : NarrativeNodeId) (node : NarrativeNode), graph.nodes[nodeId]? = some node →
      node.nextStatus (state.status nodeId) state first =
        node.nextStatus (state.status nodeId) state second) :
    graph.resolve state first = graph.resolve state second := by
  have moves : graph.nodes.toList.filterMap (nodeTransition state first) =
      graph.nodes.toList.filterMap (nodeTransition state second) := by
    apply List.filterMap_congr
    intro entry member
    rw [Std.ExtTreeMap.mem_toList_iff_getElem?_eq_some] at member
    simp only [nodeTransition, same entry.1 entry.2 member]
  simp only [resolve, moves]

/-- The answers to the queries decide the resolution, and every query is a leaf of a
condition that the resolver evaluates in the node's status, save the completion of a
node whose skip condition holds. -/
theorem queries_decide_resolution {plan : NarrativePlan} (planned : graph.plan state = .ok plan) :
    (∀ first second : NarrativeEvidence, first.turn = second.turn →
      (∀ query ∈ plan.queries, first.semanticResults[query.conditionId]? =
        second.semanticResults[query.conditionId]?) →
      (graph.resolve state first).transitions = (graph.resolve state second).transitions ∧
        (graph.resolve state first).storyCompleted = (graph.resolve state second).storyCompleted) ∧
    ∀ query ∈ plan.queries, ∃ (nodeId : NarrativeNodeId) (node : NarrativeNode)
        (condition : NarrativeCondition), graph.nodes[nodeId]? = some node ∧
      (query.conditionId, query.criterion) ∈ condition.leaves ∧ ∀ evidence,
        condition ∈ node.evaluated (state.status nodeId) state evidence ∨
          state.status nodeId = .active ∧ condition = node.completeWhen ∧
            node.skipWhen.any (·.holds state evidence) = true := by
  refine ⟨?_, ?_⟩
  · intro first second turn agree
    have same : graph.resolve state first = graph.resolve state second := by
      apply resolve_congr
      intro nodeId node found
      apply node.nextStatus_congr
      intro condition evaluated
      apply condition.evaluate_congr turn state
      intro leaf inside
      exact agree ⟨leaf.1, leaf.2⟩ (leaf_asked planned found evaluated inside)
    exact ⟨by rw [same], by rw [same]⟩
  · rintro ⟨conditionId, criterion⟩ asked
    obtain ⟨condition, watched, leaf⟩ := (mem_queries (plan_queries planned)).mp asked
    obtain ⟨nodeId, node, found, watched⟩ := mem_watched.mp watched
    exact ⟨nodeId, node, condition, found, leaf, node.watched_evaluated watched state⟩

theorem checkConditions_collects {conditions : List NarrativeCondition}
    (checked : graph.checkConditions found conditions = .ok ()) :
    ∃ whole, NarrativeCondition.collectEach found conditions = .ok whole := by
  induction conditions generalizing found with
  | nil => exact ⟨found, rfl⟩
  | cons condition rest ih =>
    obtain ⟨_, _, checked⟩ := Result.bind_eq_ok checked
    obtain ⟨next, collected, checked⟩ := Result.bind_eq_ok checked
    obtain ⟨whole, later⟩ := ih checked
    refine ⟨whole, ?_⟩
    rw [NarrativeCondition.collectEach, collected]
    exact later

/-- A graph whose criteria agree everywhere has a plan in every state. -/
theorem plan_of_validate (accepted : graph.validate = .ok ()) (state : NarrativeState) :
    ∃ plan, graph.plan state = .ok plan := by
  obtain ⟨whole, collected⟩ := checkConditions_collects accepted
  rw [NarrativeCondition.collectEach_eq] at collected
  have known : ∀ leaf ∈ NarrativeCondition.leavesEach (graph.watched state),
      whole[leaf.1]? = some leaf.2 := by
    intro leaf inside
    obtain ⟨condition, watched, inside⟩ := NarrativeCondition.mem_leavesEach.mp inside
    obtain ⟨nodeId, node, found, watched⟩ := mem_watched.mp watched
    apply (Glossary.get_collect collected _ _).mpr
    refine .inr (NarrativeCondition.mem_leavesEach.mpr ⟨condition, ?_, inside⟩)
    refine List.mem_flatMap.mpr ⟨(nodeId, node), ?_, node.watched_conditions watched⟩
    exact Std.ExtTreeMap.mem_toList_iff_getElem?_eq_some.mpr found
  have collects : ∃ found, Glossary.collect NarrativeCondition.conflict ∅
      (NarrativeCondition.leavesEach (graph.watched state)) = .ok found :=
    Glossary.collect_of_subset (by simp) known
  obtain ⟨found, asked⟩ := collects
  rw [← NarrativeCondition.collectEach_eq] at asked
  exact ⟨_, by rw [plan, queries, asked]; rfl⟩

end NarrativeGraph

namespace Sample

def gateId : NarrativeNodeId := ⟨"gate", by decide⟩
def doorOpen : NarrativeConditionId := ⟨"door_open", by decide⟩
def lampLit : NarrativeConditionId := ⟨"lamp_lit", by decide⟩

/-- One node that leaves as soon as it is active, with a completion left to judge. -/
def passing : NarrativeGraph :=
  ⟨(∅ : BTreeMap .narrativeNode NarrativeNode).insert gateId
    { title := ⟨"The gate"⟩
      activateWhen := .storyStarted
      completeWhen := .semantic doorOpen ⟨"The door is open."⟩
      skipWhen := some .storyStarted }⟩

def guarded : NarrativeGraph :=
  ⟨(∅ : BTreeMap .narrativeNode NarrativeNode).insert gateId
    { title := ⟨"The gate"⟩
      activateWhen := .all [.turnReaches 1, .not (.semantic doorOpen ⟨"The door is open."⟩)]
      completeWhen := .semantic lampLit ⟨"The lamp is lit."⟩ }⟩

def doorQuery : SemanticQuery := ⟨doorOpen, ⟨"The door is open."⟩⟩

end Sample

namespace NarrativeGraph

theorem guarded_queries_decide : ∃ plan, Sample.guarded.plan {} = .ok plan ∧
    Sample.doorQuery ∈ plan.queries ∧
    Sample.guarded.resolve {} ⟨⟨1⟩, (∅ : BTreeMap .narrativeCondition Truth)
        |>.insert Sample.doorOpen .unsatisfied |>.insert Sample.lampLit .satisfied⟩ =
      Sample.guarded.resolve {} ⟨⟨1⟩, (∅ : BTreeMap .narrativeCondition Truth)
        |>.insert Sample.doorOpen .unsatisfied⟩ := by
  have planned : Sample.guarded.plan {} = .ok ⟨[], [], [Sample.doorQuery]⟩ := by rfl
  refine ⟨_, planned, by simp, ?_⟩
  have decided := (queries_decide_resolution planned).1
    ⟨⟨1⟩, (∅ : BTreeMap .narrativeCondition Truth)
      |>.insert Sample.doorOpen .unsatisfied |>.insert Sample.lampLit .satisfied⟩
    ⟨⟨1⟩, (∅ : BTreeMap .narrativeCondition Truth) |>.insert Sample.doorOpen .unsatisfied⟩ rfl
    (by simp only [List.mem_singleton, forall_eq]; rfl)
  rw [NarrativeResolution.mk.injEq]
  exact decided

/-- The plan asks whether the door is open, and the resolver skips the node unasked. -/
theorem passing_query_unevaluated : Sample.passing.validate = .ok () ∧
    ∃ plan, Sample.passing.plan Sample.passing.initialState = .ok plan ∧
      ∃ query ∈ plan.queries, ∀ (evidence : NarrativeEvidence) (nodeId : NarrativeNodeId)
        (node : NarrativeNode), Sample.passing.nodes[nodeId]? = some node →
        ∀ condition ∈ node.evaluated (Sample.passing.initialState.status nodeId)
            Sample.passing.initialState evidence,
          (query.conditionId, query.criterion) ∉ condition.leaves := by
  have planned : Sample.passing.plan Sample.passing.initialState =
      .ok ⟨[], [], [Sample.doorQuery]⟩ := by rfl
  refine ⟨by rfl, _, planned, Sample.doorQuery, by simp, ?_⟩
  intro evidence nodeId node found condition evaluated
  simp only [Sample.passing, OrdMap.get_insert] at found
  split at found
  · rename_i same
    cases found
    subst same
    have active : Sample.passing.initialState.status Sample.gateId = .active := by rfl
    rw [active] at evaluated
    simp only [NarrativeNode.evaluated, Option.toList_some, Option.any_some,
      NarrativeCondition.holds, NarrativeCondition.evaluate, decide_true, if_true,
      List.append_nil, List.mem_singleton] at evaluated
    subst evaluated
    simp [NarrativeCondition.leaves]
  · simp at found

end NarrativeGraph
end Aise
