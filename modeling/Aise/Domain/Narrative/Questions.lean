import Aise.Domain.Narrative.Projector

/-! The resolver reads no answer that the projector has not asked for. Every condition that decides
about a turn is one of the frontier, and every semantic leaf of the frontier is a query. -/
namespace Aise.Domain

/-! ### What a condition asks -/

mutual

/-- The keys of the semantic leaves of a condition. -/
def NarrativeCondition.questions : NarrativeCondition → List AssetKey
  | .all conditions | .any conditions => questionsOf conditions
  | .not condition => condition.questions
  | .semantic semantic => [semantic.conditionKey]
  | .storyStarted | .nodeState .. | .factStateEquals .. | .roleStateEquals ..
  | .relationshipReaches .. | .turnReaches .. | .roleControllerIs .. => []

def questionsOf : List NarrativeCondition → List AssetKey
  | [] => []
  | condition :: conditions => condition.questions ++ questionsOf conditions

end

theorem mem_questionsOf {key : AssetKey} {conditions : List NarrativeCondition} :
    key ∈ questionsOf conditions ↔ ∃ condition ∈ conditions, key ∈ condition.questions := by
  induction conditions with
  | nil => simp [questionsOf]
  | cons condition conditions ih => simp [questionsOf, ih]

/-- Two sets of answers that are the same for some questions. -/
def AgreeOn (keys : List AssetKey) (answers others : BTreeMap AssetKey NarrativeTruthValue) : Prop :=
  ∀ key ∈ keys, answers[key]? = others[key]?

instance (keys : List AssetKey) (answers others : BTreeMap AssetKey NarrativeTruthValue) :
    Decidable (AgreeOn keys answers others) :=
  inferInstanceAs (Decidable (∀ key ∈ keys, answers[key]? = others[key]?))

theorem AgreeOn.subset {keys more : List AssetKey}
    {answers others : BTreeMap AssetKey NarrativeTruthValue} (agree : AgreeOn more answers others)
    (among : keys ⊆ more) : AgreeOn keys answers others :=
  fun key member => agree key (among member)

section
variable {ctx : ConditionEvalContext} {others : BTreeMap AssetKey NarrativeTruthValue}

mutual

/-- Nothing else of the answers is read. -/
theorem evaluateCondition_agree : (condition : NarrativeCondition) → (depth : Nat) →
    AgreeOn condition.questions ctx.semanticResults others →
    evaluateCondition { ctx with semanticResults := others } condition depth =
      evaluateCondition ctx condition depth
  | .all conditions, depth, agree => by
    simp only [evaluateCondition, evaluateConditions_agree conditions (depth + 1) agree]
  | .any conditions, depth, agree => by
    simp only [evaluateCondition, evaluateConditions_agree conditions (depth + 1) agree]
  | .not condition, depth, agree => by
    simp only [evaluateCondition, evaluateCondition_agree condition (depth + 1) agree]
  | .semantic semantic, depth, agree => by
    have same := agree semantic.conditionKey (List.mem_singleton_self _)
    simp only [evaluateCondition, same]
  | .storyStarted, depth, _ => by simp only [evaluateCondition]
  | .nodeState .., depth, _ => by simp only [evaluateCondition]
  | .factStateEquals .., depth, _ => by simp only [evaluateCondition]
  | .roleStateEquals .., depth, _ => by simp only [evaluateCondition]
  | .relationshipReaches .., depth, _ => by simp only [evaluateCondition]
  | .turnReaches .., depth, _ => by simp only [evaluateCondition]
  | .roleControllerIs .., depth, _ => by simp only [evaluateCondition]

theorem evaluateConditions_agree : (conditions : List NarrativeCondition) → (depth : Nat) →
    AgreeOn (questionsOf conditions) ctx.semanticResults others →
    evaluateConditions { ctx with semanticResults := others } conditions depth =
      evaluateConditions ctx conditions depth
  | [], depth, _ => by simp only [evaluateConditions]
  | condition :: conditions, depth, agree => by
    have first := evaluateCondition_agree condition depth
      (agree.subset (List.subset_append_left _ _))
    have rest := evaluateConditions_agree conditions depth
      (agree.subset (List.subset_append_right _ _))
    simp only [evaluateConditions, first, rest]

end

end

/-! ### What the projector asks -/

/-- Queries are only ever added. -/
def Among (queries more : SemanticQueries) : Prop := ∀ key ∈ queries, key ∈ more

theorem collectSemantic_asks {semantic : SemanticNarrativeCondition} {queries more : SemanticQueries}
    (ok : collectSemantic semantic queries = .ok more) :
    Among queries more ∧ semantic.conditionKey ∈ more := by
  unfold collectSemantic at ok
  split at ok
  · rename_i existing found
    have asked := OrdMap.mem_iff_exists.mpr ⟨existing, found⟩
    split at ok
    · cases ok
    · cases ok
      exact ⟨fun _ => id, asked⟩
  · cases ok
    constructor
    · intro key member
      exact Std.ExtTreeMap.mem_insert.mpr (.inr member)
    · exact Std.ExtTreeMap.mem_insert_self

mutual

theorem collectSemanticLeaves_asks : (condition : NarrativeCondition) →
    {queries more : SemanticQueries} → collectSemanticLeaves condition queries = .ok more →
    Among queries more ∧ ∀ key ∈ condition.questions, key ∈ more
  | .all conditions, _, _, ok => by
    rw [collectSemanticLeaves] at ok
    exact collectEachSemanticLeaves_asks conditions ok
  | .any conditions, _, _, ok => by
    rw [collectSemanticLeaves] at ok
    exact collectEachSemanticLeaves_asks conditions ok
  | .not condition, _, _, ok => by
    rw [collectSemanticLeaves] at ok
    exact collectSemanticLeaves_asks condition ok
  | .semantic semantic, _, _, ok => by
    rw [collectSemanticLeaves] at ok
    obtain ⟨kept, asked⟩ := collectSemantic_asks ok
    refine ⟨kept, fun key member => ?_⟩
    rw [List.mem_singleton.mp member]
    exact asked
  | .storyStarted, _, _, ok | .nodeState .., _, _, ok | .factStateEquals .., _, _, ok
  | .roleStateEquals .., _, _, ok | .relationshipReaches .., _, _, ok | .turnReaches .., _, _, ok
  | .roleControllerIs .., _, _, ok => by
    simp only [collectSemanticLeaves] at ok
    cases ok
    exact ⟨fun _ => id, fun key member => absurd member List.not_mem_nil⟩

theorem collectEachSemanticLeaves_asks : (conditions : List NarrativeCondition) →
    {queries more : SemanticQueries} → collectEachSemanticLeaves conditions queries = .ok more →
    Among queries more ∧ ∀ key ∈ questionsOf conditions, key ∈ more
  | [], _, _, ok => by
    rw [collectEachSemanticLeaves] at ok
    cases ok
    exact ⟨fun _ => id, fun key member => absurd member List.not_mem_nil⟩
  | condition :: conditions, _, _, ok => by
    rw [collectEachSemanticLeaves] at ok
    obtain ⟨between, first, ok⟩ := Result.bind_eq_ok ok
    obtain ⟨kept, asked⟩ := collectSemanticLeaves_asks condition first
    obtain ⟨keptLater, askedLater⟩ := collectEachSemanticLeaves_asks conditions ok
    refine ⟨fun key member => keptLater key (kept key member), fun key member => ?_⟩
    rw [questionsOf, List.mem_append] at member
    rcases member with here | later
    · exact keptLater key (asked key here)
    · exact askedLater key later

end

/-! ### What decides about a turn -/

/-- The conditions a turn can evaluate, in the order of the three loops. -/
inductive Decides (definition : NarrativeGraphDefinition) (state : NarrativeRuntimeState) :
    NarrativeCondition → Prop where
  | activation {entry : AssetKey} {node : NarrativeNodeDefinition}
    (member : entry ∈ definition.entryNodes) (inactive : state.nodeState entry = .inactive)
    (found : definition.nodes[entry]? = some node) : Decides definition state node.activateWhen
  | settlement {key : AssetKey} {node : NarrativeNodeDefinition} {condition : NarrativeCondition}
    (active : state.nodeState key = .active) (found : definition.nodes[key]? = some node)
    (written : condition ∈ node.completeWhen :: node.skipWhen.toList) :
    Decides definition state condition
  | passage {edge : NarrativeEdgeDefinition} (member : edge ∈ definition.edges)
    (leaves : state.nodeState edge.fromNode = .active) : Decides definition state edge.when

namespace NarrativeProjectionInput
variable {input : NarrativeProjectionInput} {limits : NarrativeProjectionLimits} {key : AssetKey}
  {node : NarrativeNodeDefinition} {frontier next : NarrativeFrontier} {edge : NarrativeEdgeDefinition}

/-- The projector and the resolver start from the same nodes. -/
theorem mem_activeNodes : key ∈ input.activeNodes ↔ input.state.nodeState key = .active :=
  @NarrativeResolutionInput.mem_activeAtTurnStart
    ⟨input.definition, input.state, input.committedView, ⟨0, []⟩, input.currentTurn⟩ key

theorem node_eq_ok : input.node key = .ok node ↔ input.definition.nodes[key]? = some node := by
  unfold NarrativeProjectionInput.node
  split
  · rename_i found
    simp [found]
  · rename_i missing
    simp [missing]

/-- The conditions that are reached by way of a node. -/
def Reached (input : NarrativeProjectionInput) (key : AssetKey)
    (written : NarrativeNodeDefinition → List NarrativeCondition) (condition : NarrativeCondition) :
    Prop :=
  ∃ node, input.definition.nodes[key]? = some node ∧ condition ∈ written node

theorem mem_reach {conditions : List NarrativeCondition} {condition : NarrativeCondition} :
    condition ∈ (frontier.reach key conditions).conditions ↔
      condition ∈ frontier.conditions ∨ condition ∈ conditions := List.mem_append

/-- What a loop adds when it reaches a node. -/
theorem reach_node {written : NarrativeNodeDefinition → List NarrativeCondition}
    (ok : (do
      let node ← input.node key
      return frontier.reach key (written node)) = .ok next) (condition : NarrativeCondition) :
    condition ∈ next.conditions ↔
      condition ∈ frontier.conditions ∨ input.Reached key written condition := by
  obtain ⟨node, found, ok⟩ := Result.bind_eq_ok ok
  cases ok
  rw [node_eq_ok] at found
  rw [mem_reach, Reached]
  simp [found]

theorem reachEntry_adds (ok : input.reachEntry frontier key = .ok next)
    (condition : NarrativeCondition) : condition ∈ next.conditions ↔
      condition ∈ frontier.conditions ∨
        input.state.nodeState key = .inactive ∧ input.Reached key ([·.activateWhen]) condition := by
  unfold reachEntry at ok
  split at ok
  · rename_i inactive
    simp only [reach_node ok, inactive, true_and]
  · rename_i elsewhere
    cases ok
    simp [elsewhere]

theorem reachEdge_adds (ok : input.reachEdge frontier edge = .ok next)
    (condition : NarrativeCondition) : condition ∈ next.conditions ↔
      condition ∈ frontier.conditions ∨
        input.state.nodeState edge.fromNode = .active ∧ (condition = edge.when ∨
          input.state.nodeState edge.toNode = .inactive ∧
            input.Reached edge.toNode ([·.activateWhen]) condition) := by
  unfold reachEdge at ok
  split at ok
  · rename_i elsewhere
    rw [mem_activeNodes] at elsewhere
    cases ok
    simp [elsewhere]
  · rename_i leaves
    rw [not_not, mem_activeNodes] at leaves
    dsimp only at ok
    split at ok
    · rename_i inactive
      simp only [reach_node ok, mem_reach, leaves, inactive, true_and, List.mem_singleton, or_assoc]
    · rename_i elsewhere
      cases ok
      simp [mem_reach, leaves, elsewhere]

/-- Every condition that decides about the turn is one of the frontier. -/
theorem frontier_covers (ok : input.frontier = .ok frontier) {condition : NarrativeCondition}
    (decides : Decides input.definition input.state condition) : condition ∈ frontier.conditions := by
  obtain ⟨first, entered, ok⟩ := Result.bind_eq_ok ok
  obtain ⟨second, settled, followed⟩ := Result.bind_eq_ok ok
  obtain ⟨_, entries⟩ := Result.foldlM_collects (P := fun _ => True)
    (fun _ _ ok => ⟨trivial, reachEntry_adds ok⟩) entered trivial
  obtain ⟨_, settlements⟩ := Result.foldlM_collects (P := fun _ => True)
    (fun _ _ ok => ⟨trivial, reach_node ok⟩) settled trivial
  obtain ⟨_, edges⟩ := Result.foldlM_collects (P := fun _ => True)
    (fun _ _ ok => ⟨trivial, reachEdge_adds ok⟩) followed trivial
  rw [edges, settlements, entries]
  cases decides with
  | activation member inactive found =>
    exact .inl (.inl (.inr ⟨_, member, inactive, _, found, List.mem_singleton_self _⟩))
  | settlement active found written =>
    exact .inl (.inr ⟨_, mem_activeNodes.mpr active, _, found, written⟩)
  | passage member leaves => exact .inr ⟨_, member, leaves, .inl rfl⟩

/-- The projector asks everything that decides about the turn. -/
theorem project_asks {projection : NarrativeProjection} (ok : input.project limits = .ok projection)
    {condition : NarrativeCondition} (decides : Decides input.definition input.state condition) :
    condition.questions ⊆ projection.conditionQueries.map (·.conditionKey) := by
  obtain ⟨queries, asked, ok⟩ := Result.bind_eq_ok ok
  obtain ⟨plan, _, ok⟩ := Result.bind_eq_ok ok
  cases ok
  obtain ⟨frontier, reached, asked⟩ := Result.bind_eq_ok asked
  split at asked
  · cases asked
  · obtain ⟨collected, leaves, asked⟩ := Result.bind_eq_ok asked
    split at asked
    · cases asked
    · split at asked
      · cases asked
      · split at asked
        · cases asked
        · cases asked
          intro key member
          have all := (collectEachSemanticLeaves_asks _ leaves).2 key
            (mem_questionsOf.mpr ⟨condition, frontier_covers reached decides, member⟩)
          obtain ⟨criterion, found⟩ := OrdMap.mem_iff_exists.mp all
          rw [List.map_map, List.mem_map]
          exact ⟨(key, criterion), Std.ExtTreeMap.mem_toList_iff_getElem?_eq_some.mpr found, rfl⟩

end NarrativeProjectionInput

/-! ### What the resolver reads -/

theorem foldlM_agree {round other : β → α → Except E β} {items : List α}
    (same : ∀ total, ∀ item ∈ items, round total item = other total item) (total : β) :
    items.foldlM round total = items.foldlM other total := by
  induction items generalizing total with
  | nil => rfl
  | cons item rest ih =>
    have later : ∀ next, rest.foldlM round next = rest.foldlM other next :=
      ih fun next item member => same next item (List.mem_cons_of_mem _ member)
    simp only [List.foldlM_cons, same total item List.mem_cons_self, later]

/-- What a resolution changes. -/
abbrev NarrativeResolution.changes (resolution : NarrativeResolution) :
    List ProposedNarrativeTransition × List PendingNarrativeEffect :=
  (resolution.transitions, resolution.pendingEffects)

namespace NarrativeResolutionInput
variable {input : NarrativeResolutionInput} {limits : NarrativeLimits} {other : NarrativeExtraction}

/-- The same input with other answers. -/
def answered (input : NarrativeResolutionInput) (extraction : NarrativeExtraction) :
    NarrativeResolutionInput :=
  { input with extraction }

/-- The answers to everything that decides about the turn are the same. -/
def Answered (input : NarrativeResolutionInput) (other : NarrativeExtraction) : Prop :=
  ∀ condition, Decides input.definition input.state condition →
    AgreeOn condition.questions input.semanticResults (input.answered other).semanticResults

section
variable (limits) (same : input.Answered other)
include same

theorem evaluate_agree {condition : NarrativeCondition}
    (decides : Decides input.definition input.state condition) :
    (input.answered other).evaluate limits condition = input.evaluate limits condition := by
  have read : AgreeOn condition.questions (input.evalContext limits).semanticResults
    (input.answered other).semanticResults := same condition decides
  exact evaluateCondition_agree condition 0 read

theorem activateEntry_agree (resolver : ResolverState) {entry : AssetKey}
    (member : entry ∈ input.definition.entryNodes) :
    (input.answered other).activateEntry limits resolver entry =
      input.activateEntry limits resolver entry := by
  simp only [activateEntry]
  show (if input.state.nodeState entry ≠ .inactive then _ else _) = _
  split
  · rfl
  · rename_i inactive
    rw [not_not] at inactive
    show (input.node entry >>= _) = _
    cases found : input.node entry with
    | error _ => rfl
    | ok node =>
      have decides := Decides.activation member inactive (node_eq_ok found)
      show (((input.answered other).evaluate limits node.activateWhen) >>= _) = _
      rw [evaluate_agree limits same decides]
      rfl

theorem settleActive_agree (resolver : ResolverState) {key : AssetKey}
    (active : input.state.nodeState key = .active) :
    (input.answered other).settleActive limits resolver key =
      input.settleActive limits resolver key := by
  simp only [settleActive]
  show (input.node key >>= _) = _
  cases found : input.node key with
  | error _ => rfl
  | ok node =>
    have completes := evaluate_agree limits same
      (.settlement active (node_eq_ok found) List.mem_cons_self)
    have skips : (input.answered other).evaluateSkip limits node = input.evaluateSkip limits node := by
      unfold evaluateSkip
      split
      · rename_i condition written
        have member : condition ∈ node.completeWhen :: node.skipWhen.toList := by simp [written]
        rw [evaluate_agree limits same (.settlement active (node_eq_ok found) member)]
      · rfl
    simp only [bind, Except.bind, completes, skips]

theorem followEdge_agree (resolver : ResolverState) {edge : NarrativeEdgeDefinition}
    (member : edge ∈ input.definition.edges) :
    (input.answered other).followEdge limits resolver edge =
      input.followEdge limits resolver edge := by
  simp only [followEdge]
  show (if edge.fromNode ∉ input.activeAtTurnStart then _ else _) = _
  split
  · rfl
  · rename_i leaves
    rw [not_not, mem_activeAtTurnStart] at leaves
    have taken := evaluate_agree limits same (.passage member leaves)
    simp only [taken]
    rfl

theorem proposeTransitions_agree :
    (input.answered other).proposeTransitions limits = input.proposeTransitions limits := by
  have entries := fun total => foldlM_agree (E := NarrativeError) (fun resolver entry member =>
    activateEntry_agree limits same resolver member) total
  have settlements := fun total => foldlM_agree (E := NarrativeError)
    (fun resolver key (member : key ∈ input.activeAtTurnStart) =>
      settleActive_agree limits same resolver (mem_activeAtTurnStart.mp member)) total
  have edges := fun total => foldlM_agree (E := NarrativeError) (fun resolver edge member =>
    followEdge_agree limits same resolver member) total
  unfold proposeTransitions
  show (input.definition.entryNodes.foldlM _ _ >>= _) = _
  rw [entries]
  congr 1
  funext resolver
  show (input.activeAtTurnStart.foldlM _ _ >>= _) = _
  rw [settlements]
  congr 1
  funext resolver
  exact edges resolver

end

/-- Two extractions that answer every query in the same way move the story in the same way. -/
theorem resolve_agree_of_queries {projection : NarrativeProjection}
    {projectionLimits : NarrativeProjectionLimits} {committedView : NarrativeStateView}
    {projectedTurn : UInt64}
    (projected : NarrativeProjectionInput.project
      ⟨input.definition, input.state, committedView, projectedTurn⟩ projectionLimits = .ok projection)
    (current : input.extraction.expectedGraphRevision = input.state.graphRevision)
    (otherCurrent : other.expectedGraphRevision = input.state.graphRevision)
    (agree : AgreeOn (projection.conditionQueries.map (·.conditionKey)) input.semanticResults
      (input.answered other).semanticResults) :
    ((input.answered other).resolve limits).map (·.changes) =
      (input.resolve limits).map (·.changes) := by
  have same : input.Answered other := fun condition decides =>
    agree.subset (NarrativeProjectionInput.project_asks projected decides)
  have proposed := proposeTransitions_agree limits same
  unfold resolve
  show (if other.expectedGraphRevision ≠ input.state.graphRevision then _ else _ :
    Except NarrativeError NarrativeResolution).map _ = _
  rw [if_neg (not_not.mpr otherCurrent), if_neg (not_not.mpr current), proposed]
  cases input.proposeTransitions limits with
  | error _ => rfl
  | ok resolver =>
    simp only [bind, Except.bind]
    split
    · rfl
    · show Except.map _ (Except.bind (resolver.transitions.mapM
        (input.transitionEffects (input.state.graphRevision + 1))) _) = _
      cases resolver.transitions.mapM (input.transitionEffects (input.state.graphRevision + 1)) with
      | error _ => rfl
      | ok effects =>
        simp only [Except.bind]
        show Except.map _ (if input.state.pendingEffects.size + effects.flatten.length >
          limits.maxPendingEffects then _ else _) = _
        split <;> rfl

end NarrativeResolutionInput

namespace NarrativeResolutionInput.Sample

/-- A crew that sails when the tide is high, and is asked about nothing else. -/
def crew : NarrativeGraphDefinition where
  entryNodes := [⟨"crew"⟩]
  nodes := (∅ : BTreeMap AssetKey NarrativeNodeDefinition).insert ⟨"crew"⟩
    ⟨.semantic ⟨⟨"tide"⟩, ⟨"The tide is high."⟩⟩, .turnReaches 9, none, {}⟩

def sailing : NarrativeResolutionInput where
  definition := crew
  state := {}
  candidateView := view
  extraction := { expectedGraphRevision := 0, narrativeConditionResults := [⟨⟨"tide"⟩, .satisfied⟩] }
  currentTurn := 2

/-- An answer about the reef that nobody asked for. -/
def outspoken : NarrativeExtraction where
  expectedGraphRevision := 0
  narrativeConditionResults := [⟨⟨"reef"⟩, .unsatisfied⟩, ⟨⟨"tide"⟩, .satisfied⟩]

def projectionLimits : NarrativeProjectionLimits := ⟨limits, 4, 4, 4, 64⟩

theorem crew_sails_either_way :
    ((sailing.answered outspoken).resolve limits).map (·.changes) =
      (sailing.resolve limits).map (·.changes) ∧
    ∃ resolution, sailing.resolve limits = .ok resolution ∧
      resolution.transitions = [⟨⟨"crew"⟩, .activate⟩] := by
  constructor
  · have asked : ((NarrativeProjectionInput.project ⟨crew, {}, view, 1⟩ projectionLimits).toOption.map
        (·.conditionQueries.map (·.conditionKey))) = some [⟨"tide"⟩] := by decide +kernel
    cases projected : NarrativeProjectionInput.project ⟨crew, {}, view, 1⟩ projectionLimits with
    | error failure =>
      rw [projected] at asked
      cases asked
    | ok projection =>
      rw [projected] at asked
      have keys : projection.conditionQueries.map (·.conditionKey) = [⟨"tide"⟩] := Option.some.inj asked
      refine resolve_agree_of_queries projected rfl rfl ?_
      rw [keys]
      decide +kernel
  · cases ran : sailing.resolve limits with
    | error failure =>
      have succeeds : (sailing.resolve limits).toOption.isSome = true := by decide +kernel
      rw [ran] at succeeds
      cases succeeds
    | ok resolution =>
      have outcome : (sailing.resolve limits).toOption.map (·.transitions) =
        some [⟨⟨"crew"⟩, .activate⟩] := by decide +kernel
      rw [ran] at outcome
      exact ⟨resolution, rfl, Option.some.inj outcome⟩

end NarrativeResolutionInput.Sample

end Aise.Domain
