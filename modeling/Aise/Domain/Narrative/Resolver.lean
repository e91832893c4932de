import Aise.Lib.OrdMap
import Aise.Lib.Result
import Aise.Domain.Narrative.Graph

/-! The resolver: which nodes of the graph a turn activates, completes and skips. -/
namespace Aise.Domain

structure ProposedNarrativeTransition where
  nodeKey : AssetKey
  kind : NarrativeTransitionKind
  deriving DecidableEq

structure NarrativeResolution where
  transitions : List ProposedNarrativeTransition
  conditionResults : BTreeMap AssetKey NarrativeTruthValue
  pendingEffects : List PendingNarrativeEffect
  nextGraphRevision : UInt64

/-- A `NarrativeConditionResult`. Its status is one of the three values of a condition. -/
structure NarrativeConditionResult where
  conditionKey : AssetKey
  status : NarrativeTruthValue
  deriving DecidableEq

/-- The part of a `StoryStateExtractionEnvelope` that the resolver reads. -/
structure NarrativeExtraction where
  expectedGraphRevision : UInt64
  narrativeConditionResults : List NarrativeConditionResult := []
  deriving DecidableEq

structure NarrativeResolutionInput where
  definition : NarrativeGraphDefinition
  state : NarrativeRuntimeState
  candidateView : NarrativeStateView
  extraction : NarrativeExtraction
  currentTurn : UInt64

/-- What the loops of `resolve` write to. -/
structure ResolverState where
  nextStates : BTreeMap AssetKey NarrativeNodeState := ∅
  transitions : List ProposedNarrativeTransition := []

def ResolverState.propose (resolver : ResolverState) (nodeKey : AssetKey)
    (next : NarrativeNodeState) (kind : NarrativeTransitionKind) : ResolverState where
  nextStates := resolver.nextStates.insert nodeKey next
  transitions := resolver.transitions ++ [⟨nodeKey, kind⟩]

namespace NarrativeResolutionInput
variable (input : NarrativeResolutionInput) (limits : NarrativeLimits)

def semanticResults : BTreeMap AssetKey NarrativeTruthValue :=
  input.extraction.narrativeConditionResults.foldl
    (fun results result => results.insert result.conditionKey result.status) ∅

def evalContext : ConditionEvalContext where
  state := input.state
  view := input.candidateView
  semanticResults := input.semanticResults
  currentTurn := input.currentTurn
  limits := limits

def evaluate (condition : NarrativeCondition) : Except NarrativeError NarrativeTruthValue :=
  evaluateCondition (input.evalContext limits) condition 0

def node (key : AssetKey) : Except NarrativeError NarrativeNodeDefinition :=
  match input.definition.nodes[key]? with
  | some node => .ok node
  | none => .error (.missingReference key.asStr)

def activeAtTurnStart : List AssetKey :=
  (input.state.nodeStates.toList.filter fun (_, state) => state = .active).map (·.1)

/-- The loop over the entry nodes. -/
def activateEntry (resolver : ResolverState) (entry : AssetKey) :
    Except NarrativeError ResolverState :=
  if input.state.nodeState entry ≠ .inactive then .ok resolver
  else do
    let node ← input.node entry
    if (← input.evaluate limits node.activateWhen) = .satisfied then
      return resolver.propose entry .active .activate
    else return resolver

/-- Whether a node is skipped. -/
def evaluateSkip (node : NarrativeNodeDefinition) : Except NarrativeError Bool :=
  match node.skipWhen with
  | some skipWhen => return (← input.evaluate limits skipWhen) = .satisfied
  | none => return false

/-- The loop over the nodes that are active. -/
def settleActive (resolver : ResolverState) (nodeKey : AssetKey) :
    Except NarrativeError ResolverState := do
  let node ← input.node nodeKey
  if ← input.evaluateSkip limits node then return resolver.propose nodeKey .skipped .skip
  else if (← input.evaluate limits node.completeWhen) = .satisfied then
    return resolver.propose nodeKey .completed .complete
  else return resolver

/-- The loop over the edges. -/
def followEdge (resolver : ResolverState) (edge : NarrativeEdgeDefinition) :
    Except NarrativeError ResolverState :=
  if edge.fromNode ∉ input.activeAtTurnStart then .ok resolver
  else if input.state.nodeState edge.toNode ≠ .inactive then .ok resolver
  else if edge.toNode ∈ resolver.nextStates then .ok resolver
  else do
    if (← input.evaluate limits edge.when) = .satisfied then
      return resolver.propose edge.toNode .active .activate
    else return resolver

/-- The effects of one transition. -/
def transitionEffects (nextGraphRevision : UInt64) (transition : ProposedNarrativeTransition) :
    Except NarrativeError (List PendingNarrativeEffect) := do
  let node ← input.node transition.nodeKey
  let definitions := match transition.kind with
    | .activate => node.effects.onActivate
    | .complete => node.effects.onComplete
    | .skip => []
  return definitions.zipIdx.map fun (definition, index) =>
    { effectId := narrativeEffectId transition.nodeKey transition.kind nextGraphRevision
        (UInt32.ofNat index)
      sourceNode := transition.nodeKey
      sourceTransition := transition.kind
      sourceGraphRevision := nextGraphRevision
      effectIndex := UInt32.ofNat index
      definition }

/-- The three loops, one after the other. -/
def proposeTransitions : Except NarrativeError ResolverState := do
  let resolver ← input.definition.entryNodes.foldlM (input.activateEntry limits) {}
  let resolver ← input.activeAtTurnStart.foldlM (input.settleActive limits) resolver
  input.definition.edges.foldlM (input.followEdge limits) resolver

/-- `NarrativeResolver::resolve`. -/
def resolve : Except NarrativeError NarrativeResolution :=
  if input.extraction.expectedGraphRevision ≠ input.state.graphRevision then
    .error .graphRevisionMismatch
  else do
    let resolver ← input.proposeTransitions limits
    if resolver.transitions.length > limits.maxTransitionsPerTurn then .error .transitionLimitExceeded
    else
      let nextGraphRevision := input.state.graphRevision + 1
      let pendingEffects ← resolver.transitions.mapM (input.transitionEffects nextGraphRevision)
      if input.state.pendingEffects.size + pendingEffects.flatten.length > limits.maxPendingEffects then
        .error .pendingEffectLimitExceeded
      else .ok {
        transitions := resolver.transitions
        conditionResults := input.semanticResults
        pendingEffects := pendingEffects.flatten
        nextGraphRevision }

/-! ### What a loop proposes -/

/-- The condition can be evaluated, and is satisfied. -/
abbrev Holds (condition : NarrativeCondition) : Prop :=
  input.evaluate limits condition = .ok .satisfied

/-- The node is in the graph, and the condition it has is satisfied. -/
def NodeHolds (condition : NarrativeNodeDefinition → Option NarrativeCondition) (key : AssetKey) :
    Prop :=
  ∃ node, input.definition.nodes[key]? = some node ∧
    ∃ written, condition node = some written ∧ input.Holds limits written

instance (condition : NarrativeNodeDefinition → Option NarrativeCondition) (key : AssetKey) :
    Decidable (input.NodeHolds limits condition key) :=
  decidable_of_iff ((input.definition.nodes[key]?.bind condition).any
      fun written => decide (input.Holds limits written) = true) (by
    simp only [NodeHolds, Option.any_eq_true, Option.bind_eq_some_iff, decide_eq_true_eq]
    constructor
    · rintro ⟨written, ⟨node, found, has⟩, holds⟩
      exact ⟨node, found, written, has, holds⟩
    · rintro ⟨node, found, written, has, holds⟩
      exact ⟨written, ⟨node, found, has⟩, holds⟩)

abbrev Activatable (key : AssetKey) : Prop := input.NodeHolds limits (some ·.activateWhen) key

abbrev Completable (key : AssetKey) : Prop := input.NodeHolds limits (some ·.completeWhen) key

abbrev Skippable (key : AssetKey) : Prop := input.NodeHolds limits (·.skipWhen) key

/-- The edge leaves a node that was active when the turn began, and its condition is satisfied. -/
structure Taken (edge : NarrativeEdgeDefinition) : Prop where
  leaves : input.state.nodeState edge.fromNode = .active
  holds : input.Holds limits edge.when

variable {input limits} {resolver next : ResolverState} {key : AssetKey}
  {node : NarrativeNodeDefinition} {edge : NarrativeEdgeDefinition}

theorem mem_activeAtTurnStart : key ∈ input.activeAtTurnStart ↔ input.state.nodeState key = .active := by
  rw [activeAtTurnStart, List.mem_map, NarrativeRuntimeState.nodeState]
  constructor
  · rintro ⟨⟨other, state⟩, member, rfl⟩
    rw [List.mem_filter, Std.ExtTreeMap.mem_toList_iff_getElem?_eq_some] at member
    rw [member.1]
    simpa using member.2
  · intro active
    cases found : input.state.nodeStates[key]? with
    | none =>
      rw [found] at active
      cases active
    | some state =>
      rw [found] at active
      refine ⟨(key, state), List.mem_filter.mpr ⟨?_, by simpa using active⟩, rfl⟩
      exact Std.ExtTreeMap.mem_toList_iff_getElem?_eq_some.mpr found

theorem node_eq_ok (found : input.node key = .ok node) : input.definition.nodes[key]? = some node := by
  unfold NarrativeResolutionInput.node at found
  split at found
  · cases found
    assumption
  · cases found

/-- The condition of a node that is in the graph. -/
theorem nodeHolds_iff {condition : NarrativeNodeDefinition → Option NarrativeCondition}
    (found : input.node key = .ok node) :
    input.NodeHolds limits condition key ↔
      ∃ written, condition node = some written ∧ input.Holds limits written := by
  have known := node_eq_ok found
  constructor
  · rintro ⟨other, same, holds⟩
    cases known.symm.trans same
    exact holds
  · intro holds
    exact ⟨node, known, holds⟩

theorem evaluateSkip_iff {skips : Bool} (found : input.node key = .ok node)
    (evaluated : input.evaluateSkip limits node = .ok skips) :
    skips = true ↔ input.Skippable limits key := by
  rw [Skippable, nodeHolds_iff found]
  unfold evaluateSkip at evaluated
  split at evaluated
  · rename_i skipWhen written
    obtain ⟨value, valued, evaluated⟩ := Result.bind_eq_ok evaluated
    cases evaluated
    simp [written, Holds, valued]
  · rename_i unwritten
    cases evaluated
    simp [unwritten]

/-- What the loop over the entry nodes proposes for one of them. -/
def EntryProposes (input : NarrativeResolutionInput) (limits : NarrativeLimits) (entry : AssetKey)
    (transition : ProposedNarrativeTransition) : Prop :=
  transition = ⟨entry, .activate⟩ ∧ input.state.nodeState entry = .inactive ∧
    input.Activatable limits entry

/-- What the loop over the active nodes proposes for one of them. A node that can be skipped is. -/
def SettlementProposes (input : NarrativeResolutionInput) (limits : NarrativeLimits)
    (key : AssetKey) (transition : ProposedNarrativeTransition) : Prop :=
  (transition = ⟨key, .skip⟩ ∧ input.Skippable limits key) ∨
    (transition = ⟨key, .complete⟩ ∧ ¬input.Skippable limits key ∧ input.Completable limits key)

/-- What the loop over the edges proposes for one of them. -/
def EdgeProposes (input : NarrativeResolutionInput) (limits : NarrativeLimits)
    (edge : NarrativeEdgeDefinition) (transition : ProposedNarrativeTransition) : Prop :=
  transition = ⟨edge.toNode, .activate⟩ ∧ input.state.nodeState edge.toNode = .inactive ∧
    input.Taken limits edge

/-- The nodes with a next state are those with a transition, and whoever is inactive is only ever
activated. -/
structure Sound (input : NarrativeResolutionInput)
    (resolver : ResolverState) : Prop where
  recorded : ∀ key, key ∈ resolver.nextStates ↔ ∃ kind, ⟨key, kind⟩ ∈ resolver.transitions
  activates : ∀ key kind, ⟨key, kind⟩ ∈ resolver.transitions →
    input.state.nodeState key = .inactive → kind = .activate

theorem sound_start : input.Sound {} where
  recorded key := by simp
  activates key kind member := by simp at member

theorem mem_propose {state : NarrativeNodeState} {kind : NarrativeTransitionKind}
    {transition : ProposedNarrativeTransition} :
    transition ∈ (resolver.propose key state kind).transitions ↔
      transition ∈ resolver.transitions ∨ transition = ⟨key, kind⟩ := by
  simp [ResolverState.propose]

theorem Sound.propose {state : NarrativeNodeState} {kind : NarrativeTransitionKind}
    (sound : input.Sound resolver)
    (activates : input.state.nodeState key = .inactive → kind = .activate) :
    input.Sound (resolver.propose key state kind) where
  recorded other := by
    simp only [mem_propose, exists_or, ← sound.recorded]
    simp only [ResolverState.propose, Std.ExtTreeMap.mem_insert, compare_eq_iff_eq,
      ProposedNarrativeTransition.mk.injEq]
    constructor
    · rintro (rfl | member)
      · exact .inr ⟨kind, rfl, rfl⟩
      · exact .inl member
    · rintro (member | ⟨_, same, _⟩)
      · exact .inr member
      · exact .inl same.symm
  activates other otherKind member inactive := by
    rcases mem_propose.mp member with before | same
    · exact sound.activates other otherKind before inactive
    · cases same
      exact activates inactive

theorem activateEntry_proposes {entry : AssetKey} (sound : input.Sound resolver)
    (ok : input.activateEntry limits resolver entry = .ok next) :
    input.Sound next ∧ ∀ transition, transition ∈ next.transitions ↔
      transition ∈ resolver.transitions ∨ input.EntryProposes limits entry transition := by
  unfold activateEntry at ok
  split at ok
  · rename_i elsewhere
    cases ok
    exact ⟨sound, fun transition => by simp [EntryProposes, elsewhere]⟩
  · rename_i inactive
    rw [not_not] at inactive
    obtain ⟨node, found, ok⟩ := Result.bind_eq_ok ok
    obtain ⟨value, valued, ok⟩ := Result.bind_eq_ok ok
    have activatable : input.Activatable limits entry ↔ value = .satisfied := by
      rw [Activatable, nodeHolds_iff found]
      simp [Holds, valued]
    split at ok
    · rename_i satisfied
      cases ok
      refine ⟨sound.propose fun _ => rfl, fun transition => ?_⟩
      simp [mem_propose, EntryProposes, inactive, activatable, satisfied]
    · rename_i unsatisfied
      cases ok
      exact ⟨sound, fun transition => by simp [EntryProposes, activatable, unsatisfied]⟩

theorem settleActive_proposes (active : input.state.nodeState key = .active)
    (sound : input.Sound resolver) (ok : input.settleActive limits resolver key = .ok next) :
    input.Sound next ∧ ∀ transition, transition ∈ next.transitions ↔
      transition ∈ resolver.transitions ∨ input.SettlementProposes limits key transition := by
  have moved : ∀ kind, input.state.nodeState key = .inactive → kind = NarrativeTransitionKind.activate := by
    intro kind inactive
    cases active.symm.trans inactive
  unfold settleActive at ok
  obtain ⟨node, found, ok⟩ := Result.bind_eq_ok ok
  obtain ⟨skips, evaluated, ok⟩ := Result.bind_eq_ok ok
  have skippable := evaluateSkip_iff found evaluated
  split at ok
  · rename_i skipped
    cases ok
    refine ⟨sound.propose (moved .skip), fun transition => ?_⟩
    simp [mem_propose, SettlementProposes, skippable.mp skipped]
  · rename_i kept
    rw [skippable] at kept
    obtain ⟨value, valued, ok⟩ := Result.bind_eq_ok ok
    have completable : input.Completable limits key ↔ value = .satisfied := by
      rw [Completable, nodeHolds_iff found]
      simp [Holds, valued]
    split at ok
    · rename_i satisfied
      cases ok
      refine ⟨sound.propose (moved .complete), fun transition => ?_⟩
      simp [mem_propose, SettlementProposes, kept, completable, satisfied]
    · rename_i unsatisfied
      cases ok
      exact ⟨sound, fun transition => by
        simp [SettlementProposes, kept, completable, unsatisfied]⟩

theorem followEdge_proposes (sound : input.Sound resolver)
    (ok : input.followEdge limits resolver edge = .ok next) :
    input.Sound next ∧ ∀ transition, transition ∈ next.transitions ↔
      transition ∈ resolver.transitions ∨ input.EdgeProposes limits edge transition := by
  unfold followEdge at ok
  split at ok
  · rename_i elsewhere
    rw [mem_activeAtTurnStart] at elsewhere
    cases ok
    refine ⟨sound, fun transition => ?_⟩
    have untaken : ¬input.Taken limits edge := fun taken => elsewhere taken.leaves
    simp [EdgeProposes, untaken]
  · rename_i leaves
    rw [not_not, mem_activeAtTurnStart] at leaves
    split at ok
    · rename_i elsewhere
      cases ok
      exact ⟨sound, fun transition => by simp [EdgeProposes, elsewhere]⟩
    · rename_i inactive
      rw [not_not] at inactive
      split at ok
      · rename_i recorded
        cases ok
        obtain ⟨kind, before⟩ := (sound.recorded _).mp recorded
        cases sound.activates _ _ before inactive
        refine ⟨sound, fun transition => ?_⟩
        constructor
        · exact .inl
        · rintro (member | ⟨rfl, _⟩)
          · exact member
          · exact before
      · obtain ⟨value, valued, ok⟩ := Result.bind_eq_ok ok
        have taken : input.Taken limits edge ↔ value = .satisfied := by
          constructor
          · intro taken
            exact Except.ok.inj (valued.symm.trans taken.holds)
          · rintro rfl
            exact ⟨leaves, valued⟩
        split at ok
        · rename_i satisfied
          cases ok
          refine ⟨sound.propose fun _ => rfl, fun transition => ?_⟩
          simp [mem_propose, EdgeProposes, inactive, taken, satisfied]
        · rename_i unsatisfied
          cases ok
          exact ⟨sound, fun transition => by simp [EdgeProposes, taken, unsatisfied]⟩

/-- What a turn proposes in all. -/
theorem mem_transitions_iff {resolution : NarrativeResolution}
    (ok : input.resolve limits = .ok resolution) (transition : ProposedNarrativeTransition) :
    transition ∈ resolution.transitions ↔
      (∃ entry ∈ input.definition.entryNodes, input.EntryProposes limits entry transition) ∨
      (∃ key ∈ input.activeAtTurnStart, input.SettlementProposes limits key transition) ∨
      ∃ edge ∈ input.definition.edges, input.EdgeProposes limits edge transition := by
  unfold resolve at ok
  split at ok
  · cases ok
  · obtain ⟨last, proposed, ok⟩ := Result.bind_eq_ok ok
    split at ok
    · cases ok
    · obtain ⟨effects, _, ok⟩ := Result.bind_eq_ok ok
      split at ok
      · cases ok
      · cases ok
        obtain ⟨first, entered, proposed⟩ := Result.bind_eq_ok proposed
        obtain ⟨second, settled, proposed⟩ := Result.bind_eq_ok proposed
        obtain ⟨sound, entries⟩ := Result.foldlM_collects (P := input.Sound)
          (fun sound _ ok => activateEntry_proposes sound ok) entered sound_start
        obtain ⟨sound, settlements⟩ := Result.foldlM_collects (P := input.Sound)
          (fun sound member ok =>
            settleActive_proposes (mem_activeAtTurnStart.mp member) sound ok) settled sound
        obtain ⟨_, edges⟩ := Result.foldlM_collects (P := input.Sound)
          (fun sound _ ok => followEdge_proposes sound ok) proposed sound
        rw [edges, settlements, entries]
        simp [or_assoc]

/-! ### The rules of the design -/

/-- The design of the graph: a node is activated on its own condition, and completion goes before
skipping. -/
structure NodeRules (input : NarrativeResolutionInput) (limits : NarrativeLimits)
    (transitions : List ProposedNarrativeTransition) : Prop where
  activate : ∀ key, ⟨key, .activate⟩ ∈ transitions →
    input.state.nodeState key = .inactive ∧ input.Activatable limits key ∧
      (key ∈ input.definition.entryNodes ∨
        ∃ edge ∈ input.definition.edges, edge.toNode = key ∧ input.Taken limits edge)
  complete : ∀ key, input.state.nodeState key = .active →
    (⟨key, .complete⟩ ∈ transitions ↔ input.Completable limits key)
  skip : ∀ key, input.state.nodeState key = .active →
    (⟨key, .skip⟩ ∈ transitions ↔ input.Skippable limits key ∧ ¬input.Completable limits key)

/-- No active node can be both completed and skipped, and an edge is only taken to an inactive node
whose own condition is satisfied. -/
structure Orderly (input : NarrativeResolutionInput) (limits : NarrativeLimits) : Prop where
  settles : ∀ key, input.state.nodeState key = .active →
    ¬(input.Completable limits key ∧ input.Skippable limits key)
  gated : ∀ edge ∈ input.definition.edges, input.Taken limits edge →
    input.state.nodeState edge.toNode = .inactive → input.Activatable limits edge.toNode

section
variable {resolution : NarrativeResolution} (ok : input.resolve limits = .ok resolution)
include ok

theorem activate_mem_iff : ⟨key, .activate⟩ ∈ resolution.transitions ↔
    input.state.nodeState key = .inactive ∧
      ((key ∈ input.definition.entryNodes ∧ input.Activatable limits key) ∨
        ∃ edge ∈ input.definition.edges, edge.toNode = key ∧ input.Taken limits edge) := by
  rw [mem_transitions_iff ok]
  constructor
  · rintro (⟨entry, member, same, inactive, activatable⟩ | ⟨other, member, settled⟩ |
      ⟨edge, member, same, inactive, taken⟩)
    · cases same
      exact ⟨inactive, .inl ⟨member, activatable⟩⟩
    · rcases settled with ⟨same, _⟩ | ⟨same, _⟩ <;> cases same
    · cases same
      exact ⟨inactive, .inr ⟨edge, member, rfl, taken⟩⟩
  · rintro ⟨inactive, ⟨member, activatable⟩ | ⟨edge, member, rfl, taken⟩⟩
    · exact .inl ⟨key, member, rfl, inactive, activatable⟩
    · exact .inr (.inr ⟨edge, member, rfl, inactive, taken⟩)

theorem complete_mem_iff (active : input.state.nodeState key = .active) :
    ⟨key, .complete⟩ ∈ resolution.transitions ↔
      input.Completable limits key ∧ ¬input.Skippable limits key := by
  rw [mem_transitions_iff ok]
  constructor
  · rintro (⟨entry, _, same, _⟩ | ⟨other, _, ⟨same, _⟩ | ⟨same, kept, completable⟩⟩ |
      ⟨edge, _, same, _⟩)
    · cases same
    · cases same
    · cases same
      exact ⟨completable, kept⟩
    · cases same
  · rintro ⟨completable, kept⟩
    exact .inr (.inl ⟨key, mem_activeAtTurnStart.mpr active, .inr ⟨rfl, kept, completable⟩⟩)

theorem skip_mem_iff (active : input.state.nodeState key = .active) :
    ⟨key, .skip⟩ ∈ resolution.transitions ↔ input.Skippable limits key := by
  rw [mem_transitions_iff ok]
  constructor
  · rintro (⟨entry, _, same, _⟩ | ⟨other, _, ⟨same, skippable⟩ | ⟨same, _⟩⟩ | ⟨edge, _, same, _⟩)
    · cases same
    · cases same
      exact skippable
    · cases same
    · cases same
  · intro skippable
    exact .inr (.inl ⟨key, mem_activeAtTurnStart.mpr active, .inl ⟨rfl, skippable⟩⟩)

theorem node_rules_iff : input.NodeRules limits resolution.transitions ↔ input.Orderly limits := by
  constructor
  · intro rules
    constructor
    · rintro key active ⟨completable, skippable⟩
      have skipped := (skip_mem_iff ok active).mpr skippable
      exact ((rules.skip key active).mp skipped).2 completable
    · intro edge member taken inactive
      have proposed := (activate_mem_iff ok).mpr ⟨inactive, .inr ⟨edge, member, rfl, taken⟩⟩
      exact (rules.activate edge.toNode proposed).2.1
  · intro orderly
    constructor
    · intro key proposed
      obtain ⟨inactive, ⟨member, activatable⟩ | ⟨edge, member, rfl, taken⟩⟩ :=
        (activate_mem_iff ok).mp proposed
      · exact ⟨inactive, activatable, .inl member⟩
      · exact ⟨inactive, orderly.gated edge member taken inactive, .inr ⟨edge, member, rfl, taken⟩⟩
    · intro key active
      rw [complete_mem_iff ok active]
      constructor
      · exact And.left
      · intro completable
        exact ⟨completable, fun skippable => orderly.settles key active ⟨completable, skippable⟩⟩
    · intro key active
      rw [skip_mem_iff ok active]
      constructor
      · intro skippable
        exact ⟨skippable, fun completable => orderly.settles key active ⟨completable, skippable⟩⟩
      · exact And.left

end

end NarrativeResolutionInput

namespace NarrativeResolutionInput.Sample

def limits : NarrativeLimits where
  maxConditionDepth := 4
  maxConditionsPerNode := 4
  maxTransitionsPerTurn := 4
  maxPendingEffects := 4

def view : NarrativeStateView where
  factValue _ := .ok none
  roleAttribute _ _ := .ok none
  relationshipTrust _ _ := .ok none
  roleController _ := .ok .ai

/-- The harbor is left for the reef once the story has started. The reef waits for a turn. -/
def graph (harbor : NarrativeNodeDefinition) (turn : UInt64) : NarrativeGraphDefinition where
  entryNodes := [⟨"harbor"⟩]
  nodes := (∅ : BTreeMap AssetKey NarrativeNodeDefinition)
    |>.insert ⟨"harbor"⟩ harbor
    |>.insert ⟨"reef"⟩ ⟨.turnReaches turn, .turnReaches 9, none, {}⟩
  edges := [⟨⟨"harbor"⟩, ⟨"reef"⟩, .storyStarted⟩]

/-- The first turn of a story that is at the harbor. -/
def first (harbor : NarrativeNodeDefinition) (turn : UInt64) : NarrativeResolutionInput where
  definition := graph harbor turn
  state := { nodeStates := (∅ : BTreeMap AssetKey NarrativeNodeState).insert ⟨"harbor"⟩ .active }
  candidateView := view
  extraction := { expectedGraphRevision := 0 }
  currentTurn := 1

def contested : NarrativeNodeDefinition := ⟨.storyStarted, .storyStarted, some .storyStarted, {}⟩

def settled : NarrativeNodeDefinition := ⟨.storyStarted, .storyStarted, none, {}⟩

theorem resolve_eq {harbor : NarrativeNodeDefinition} {turn : UInt64}
    {transitions : List ProposedNarrativeTransition}
    (outcome : ((first harbor turn).resolve limits).toOption.map (·.transitions) =
      some transitions) :
    ∃ resolution, (first harbor turn).resolve limits = .ok resolution ∧
      resolution.transitions = transitions := by
  cases ran : (first harbor turn).resolve limits with
  | error failure =>
    rw [ran] at outcome
    cases outcome
  | ok resolution =>
    rw [ran] at outcome
    exact ⟨resolution, rfl, Option.some.inj outcome⟩

/-- A harbor that could be completed is skipped, and the reef is reached before its turn. -/
theorem contested_harbor_skipped :
    ∃ resolution, (first contested 5).resolve limits = .ok resolution ∧
      resolution.transitions = [⟨⟨"harbor"⟩, .skip⟩, ⟨⟨"reef"⟩, .activate⟩] ∧
      (first contested 5).Completable limits ⟨"harbor"⟩ ∧
      ¬(first contested 5).Activatable limits ⟨"reef"⟩ ∧
      ¬(first contested 5).NodeRules limits resolution.transitions := by
  obtain ⟨resolution, ok, transitions⟩ := resolve_eq
    (show ((first contested 5).resolve limits).toOption.map (·.transitions) =
      some [⟨⟨"harbor"⟩, .skip⟩, ⟨⟨"reef"⟩, .activate⟩] by decide +kernel)
  have completable : (first contested 5).Completable limits ⟨"harbor"⟩ := by decide +kernel
  have active : (first contested 5).state.nodeState ⟨"harbor"⟩ = .active := by decide +kernel
  refine ⟨resolution, ok, transitions, completable, by decide +kernel, fun rules => ?_⟩
  have completed := (rules.complete _ active).mpr completable
  rw [transitions] at completed
  revert completed
  decide

theorem settled_orderly : (first settled 1).Orderly limits where
  settles key active both := by
    have harbor : key ∈ [(⟨"harbor"⟩ : AssetKey)] :=
      (show (first settled 1).activeAtTurnStart = [⟨"harbor"⟩] by decide +kernel) ▸
        mem_activeAtTurnStart.mpr active
    cases List.mem_singleton.mp harbor
    exact absurd both (by decide +kernel)
  gated edge member taken inactive := by
    cases List.mem_singleton.mp member
    decide +kernel

theorem settled_harbor_follows_rules :
    ∃ resolution, (first settled 1).resolve limits = .ok resolution ∧
      resolution.transitions = [⟨⟨"harbor"⟩, .complete⟩, ⟨⟨"reef"⟩, .activate⟩] ∧
      (first settled 1).NodeRules limits resolution.transitions := by
  obtain ⟨resolution, ok, transitions⟩ := resolve_eq
    (show ((first settled 1).resolve limits).toOption.map (·.transitions) =
      some [⟨⟨"harbor"⟩, .complete⟩, ⟨⟨"reef"⟩, .activate⟩] by decide +kernel)
  exact ⟨resolution, ok, transitions, (node_rules_iff ok).mpr settled_orderly⟩

end NarrativeResolutionInput.Sample

end Aise.Domain
