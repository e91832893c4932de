import Aise.Core.Narrative.Plan

/-! What a graph is validated for. A condition is looked at with everything inside it: a graph is
valid when nothing in it is empty, unknown or asked about in two ways, and then it has a plan in
every state. -/
namespace Aise
namespace NarrativeCondition

mutual
/-- A condition and all conditions inside it. -/
def parts : NarrativeCondition → List NarrativeCondition
  | .all conditions => .all conditions :: partsEach conditions
  | .any conditions => .any conditions :: partsEach conditions
  | .not condition => .not condition :: parts condition
  | .storyStarted => [.storyStarted]
  | .turnReaches turn => [.turnReaches turn]
  | .nodeIs nodeId status => [.nodeIs nodeId status]
  | .semantic conditionId criterion => [.semantic conditionId criterion]

def partsEach : List NarrativeCondition → List NarrativeCondition
  | [] => []
  | condition :: rest => parts condition ++ partsEach rest
end

/-- The condition by itself is one that `validate` accepts. -/
def Sound {V : Type} (nodes : BTreeMap .narrativeNode V) : NarrativeCondition → Prop
  | .all conditions | .any conditions => conditions ≠ []
  | .nodeIs nodeId _ => nodeId ∈ nodes
  | .not _ | .storyStarted | .turnReaches _ | .semantic _ _ => True

theorem mem_partsEach {conditions : List NarrativeCondition} :
    part ∈ partsEach conditions ↔ ∃ condition ∈ conditions, part ∈ condition.parts := by
  induction conditions with
  | nil => simp [partsEach]
  | cons condition rest ih => simp [partsEach, ih]

section
variable {V : Type} {nodes : BTreeMap .narrativeNode V}

mutual
theorem validate_ok_iff : (condition : NarrativeCondition) →
    (condition.validate nodes = .ok () ↔ ∀ part ∈ condition.parts, part.Sound nodes)
  | .all conditions | .any conditions => by
    rw [validate, parts, List.forall_mem_cons, ← validateEach_ok_iff conditions, Sound]
    cases conditions with
    | nil => simp
    | cons condition rest => simp
  | .not condition => by
    rw [validate, parts, List.forall_mem_cons, validate_ok_iff condition, Sound, true_and]
  | .nodeIs nodeId status => by
    simp [validate, parts, Sound]
  | .storyStarted | .turnReaches _ | .semantic _ _ => by
    simp [validate, parts, Sound]

theorem validateEach_ok_iff : (conditions : List NarrativeCondition) →
    (validateEach nodes conditions = .ok () ↔ ∀ part ∈ partsEach conditions, part.Sound nodes)
  | [] => by simp [validateEach, partsEach]
  | condition :: rest => by
    rw [validateEach, partsEach, List.forall_mem_append, Result.check_bind_eq_ok,
      validate_ok_iff condition, validateEach_ok_iff rest]
end

end

mutual
/-- The leaves are the semantic conditions inside a condition. -/
theorem mem_leaves_iff {conditionId : NarrativeConditionId} {criterion : BoundedText} :
    (condition : NarrativeCondition) →
    ((conditionId, criterion) ∈ condition.leaves ↔ .semantic conditionId criterion ∈ condition.parts)
  | .all conditions | .any conditions => by
    rw [leaves, parts, List.mem_cons, mem_leavesEach_iff conditions]
    simp
  | .not condition => by
    rw [leaves, parts, List.mem_cons, mem_leaves_iff condition]
    simp
  | .semantic _ _ | .storyStarted | .turnReaches _ | .nodeIs _ _ => by
    simp [leaves, parts]

theorem mem_leavesEach_iff {conditionId : NarrativeConditionId} {criterion : BoundedText} :
    (conditions : List NarrativeCondition) →
    ((conditionId, criterion) ∈ leavesEach conditions ↔
      .semantic conditionId criterion ∈ partsEach conditions)
  | [] => by simp [leavesEach, partsEach]
  | condition :: rest => by
    rw [leavesEach, partsEach, List.mem_append, List.mem_append, mem_leaves_iff condition,
      mem_leavesEach_iff rest]
end

end NarrativeCondition

namespace NarrativeGraph
variable {graph : NarrativeGraph}

def conditions (graph : NarrativeGraph) : List NarrativeCondition :=
  graph.nodes.toList.flatMap fun (_, node) => node.conditions

/-- All conditions of a graph, at any depth. -/
def parts (graph : NarrativeGraph) : List NarrativeCondition :=
  NarrativeCondition.partsEach graph.conditions

structure Valid (graph : NarrativeGraph) : Prop where
  filled : .all [] ∉ graph.parts ∧ .any [] ∉ graph.parts
  known : ∀ nodeId status, .nodeIs nodeId status ∈ graph.parts → nodeId ∈ graph.nodes
  agreed : ∀ conditionId first second, .semantic conditionId first ∈ graph.parts →
    .semantic conditionId second ∈ graph.parts → first = second

theorem forall_sound_iff : (∀ part ∈ graph.parts, part.Sound graph.nodes) ↔
    (.all [] ∉ graph.parts ∧ .any [] ∉ graph.parts) ∧
      ∀ nodeId status, .nodeIs nodeId status ∈ graph.parts → nodeId ∈ graph.nodes := by
  constructor
  · intro sound
    refine ⟨⟨fun member => sound _ member rfl, fun member => sound _ member rfl⟩, ?_⟩
    exact fun nodeId status member => sound _ member
  · rintro ⟨⟨all, any⟩, known⟩ part member
    cases part with
    | all conditions =>
      rintro rfl
      exact all member
    | any conditions =>
      rintro rfl
      exact any member
    | nodeIs nodeId status => exact known nodeId status member
    | not _ | storyStarted | turnReaches _ | semantic _ _ => trivial

/-- The loop accepts what every condition is accepted by itself for, as long as criteria agree. -/
theorem checkConditions_ok_iff {found : NarrativeCondition.Criteria}
    {conditions : List NarrativeCondition} :
    graph.checkConditions found conditions = .ok () ↔
      (∀ part ∈ NarrativeCondition.partsEach conditions, part.Sound graph.nodes) ∧
        ∃ whole, NarrativeCondition.collectEach found conditions = .ok whole := by
  induction conditions generalizing found with
  | nil => simp [checkConditions, NarrativeCondition.partsEach, NarrativeCondition.collectEach]
  | cons condition rest ih =>
    rw [checkConditions, Result.check_bind_eq_ok, NarrativeCondition.validate_ok_iff,
      NarrativeCondition.partsEach, List.forall_mem_append, NarrativeCondition.collectEach]
    cases collected : condition.collectSemantic found with
    | error failure => simp [bind, Except.bind]
    | ok next => simp [bind, Except.bind, ih, and_assoc]

theorem collects_iff : (∃ whole, NarrativeCondition.collectEach ∅ graph.conditions = .ok whole) ↔
    ∀ conditionId first second, .semantic conditionId first ∈ graph.parts →
      .semantic conditionId second ∈ graph.parts → first = second := by
  simp only [NarrativeCondition.collectEach_eq, Glossary.collect_ok_iff,
    Std.ExtTreeMap.getElem?_empty, reduceCtorEq, false_or, NarrativeCondition.mem_leavesEach_iff]
  rfl

/-- `validate` accepts exactly the valid graphs. -/
theorem validate_ok_iff : graph.validate = .ok () ↔ graph.Valid := by
  change graph.checkConditions ∅ graph.conditions = .ok () ↔ _
  rw [checkConditions_ok_iff, collects_iff]
  constructor
  · rintro ⟨sound, agreed⟩
    obtain ⟨filled, known⟩ := forall_sound_iff.mp sound
    exact ⟨filled, known, agreed⟩
  · rintro ⟨filled, known, agreed⟩
    exact ⟨forall_sound_iff.mpr ⟨filled, known⟩, agreed⟩

theorem watched_parts {state : NarrativeState} {condition : NarrativeCondition}
    (watched : condition ∈ graph.watched state) : ∀ part ∈ condition.parts, part ∈ graph.parts := by
  intro part member
  obtain ⟨nodeId, node, found, watched⟩ := mem_watched.mp watched
  refine NarrativeCondition.mem_partsEach.mpr ⟨condition, ?_, member⟩
  refine List.mem_flatMap.mpr ⟨(nodeId, node), ?_, node.watched_conditions watched⟩
  exact Std.ExtTreeMap.mem_toList_iff_getElem?_eq_some.mpr found

/-- A graph that was validated is valid and has a plan in every state, which asks about a condition
with the one criterion that the graph has for it. -/
theorem validated_graph_plans (graph : NarrativeGraph) :
    (graph.validate = .ok () ↔ graph.Valid) ∧
      (graph.validate = .ok () → ∀ state : NarrativeState, ∃ plan, graph.plan state = .ok plan ∧
        ∀ query ∈ plan.queries, ∀ criterion,
          .semantic query.conditionId criterion ∈ graph.parts ↔ criterion = query.criterion) := by
  refine ⟨validate_ok_iff, fun accepted state => ?_⟩
  obtain ⟨plan, planned⟩ := plan_of_validate accepted state
  refine ⟨plan, planned, ?_⟩
  rintro ⟨conditionId, asked⟩ member criterion
  obtain ⟨condition, watched, leaf⟩ := (mem_queries (plan_queries planned)).mp member
  rw [NarrativeCondition.mem_leaves_iff] at leaf
  have inside := watched_parts watched _ leaf
  constructor
  · intro other
    exact (validate_ok_iff.mp accepted).agreed conditionId criterion asked other inside
  · rintro rfl
    exact inside

/-- The guarded gate is valid, and asks in its first state whether the door is open. -/
theorem guarded_valid : Sample.guarded.Valid ∧
    ∃ plan, Sample.guarded.plan {} = .ok plan ∧ ∀ query ∈ plan.queries, ∀ criterion,
      .semantic query.conditionId criterion ∈ Sample.guarded.parts ↔ criterion = query.criterion := by
  have accepted : Sample.guarded.validate = .ok () := by rfl
  obtain ⟨valid, plans⟩ := validated_graph_plans Sample.guarded
  exact ⟨valid.mp accepted, plans accepted {}⟩

end NarrativeGraph
end Aise
