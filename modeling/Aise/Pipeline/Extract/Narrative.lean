import Aise.Persistence.History

/-! Resolving the narrative of a turn, and what it means for the story's life. As
long as the commits carry what the resolver produced, the life cycle says whether
the accumulated narrative has ended, although each turn only looks at its own
transitions. -/
namespace Aise

structure NarrativeChange where
  narrative : Change NarrativeState
  lifeCycle : Change StoryLifeCycle
  deriving DecidableEq

def resolveNarrative (pack : StoryPack) (context : StoryContext)
    (semanticResults : BTreeMap .narrativeCondition Truth) : NarrativeChange :=
  match pack.narrative with
  | none => { narrative := .unchanged, lifeCycle := .unchanged }
  | some graph =>
    let evidence : NarrativeEvidence := ⟨context.turnNumber.increment, semanticResults⟩
    let resolution := graph.resolve context.narrative evidence
    { narrative :=
        if resolution.transitions.isEmpty then .unchanged
        else .replaced (context.narrative.apply resolution.transitions)
      lifeCycle := if resolution.storyCompleted then .replaced .completed else .unchanged }

/-- The commit carries what the resolver produced, for some answers. -/
def Narrated (pack : StoryPack) (context : StoryContext) (turn : StoryCommit) : Prop :=
  ∃ semanticResults, resolveNarrative pack context semanticResults =
    ⟨turn.narrative, turn.lifeCycle⟩

section Resolve
variable {pack : StoryPack} {graph : NarrativeGraph} {context : StoryContext} {turn : StoryCommit}

/-- Leaving the state alone and applying no transition are the same. -/
theorem Narrated.change (carries : Narrated pack context turn)
    (graphed : pack.narrative = some graph) :
    ∃ evidence, turn.narrative.over context.narrative =
        context.narrative.apply (graph.resolve context.narrative evidence).transitions ∧
      turn.lifeCycle = if (graph.resolve context.narrative evidence).storyCompleted
        then .replaced .completed else .unchanged := by
  obtain ⟨semanticResults, resolved⟩ := carries
  simp only [resolveNarrative, graphed] at resolved
  obtain ⟨narrative, lifeCycle⟩ := NarrativeChange.mk.inj resolved
  refine ⟨⟨context.turnNumber.increment, semanticResults⟩, ?_, lifeCycle.symm⟩
  rw [← narrative]
  split
  · rename_i none_moves
    rw [List.isEmpty_iff.mp none_moves]
    rfl
  · rfl

theorem Narrated.moves (carries : Narrated pack context turn)
    (graphed : pack.narrative = some graph) (nodeId : NarrativeNodeId) :
    (context.narrative.status nodeId).Moves
      ((turn.narrative.over context.narrative).status nodeId) := by
  obtain ⟨evidence, narrative, _⟩ := carries.change graphed
  rw [narrative]
  exact graph.resolve_moves context.narrative evidence nodeId

end Resolve

/-- The last stages of a node's life. -/
inductive NodeStatus.Final : NodeStatus → Prop where
  | completed : Final .completed
  | skipped : Final .skipped

theorem NodeStatus.final_path (final : Final status)
    (path : Relation.ReflTransGen NodeStatus.Moves status after) : after = status := by
  induction path with
  | refl => rfl
  | tail _ last ih =>
    subst ih
    cases final <;> cases last <;> rfl

namespace StoredStory
variable {config : StoryStoreConfig} {story : StoredStory} {pack : StoryPack}
  {graph : NarrativeGraph}

/-- The story is over exactly when its narrative has ended, and is never cancelled. -/
structure EndsWith (graph : NarrativeGraph) (story : StoredStory) : Prop where
  ended : story.context.lifeCycle = .completed ↔ graph.Ended story.context.narrative
  playing : story.context.lifeCycle ≠ .cancelled

theorem EndsWith.step (ends : story.EndsWith graph) (graphed : pack.narrative = some graph)
    (accepts : story.Accepts turn) (carries : Narrated pack story.context turn) (now : DateTime) :
    (story.record config now turn).EndsWith graph := by
  have active := accepts.admission.active
  have unfinished : ¬ graph.Ended story.context.narrative := by
    rw [← ends.ended, active]
    decide
  obtain ⟨evidence, narrative, lifeCycle⟩ := carries.change graphed
  have ended : graph.Ended (turn.narrative.over story.context.narrative) ↔
      (graph.resolve story.context.narrative evidence).storyCompleted = true := by
    rw [narrative]
    exact NarrativeGraph.ended_apply_iff unfinished
  constructor
  · rw [record_lifeCycle, record_narrative, ended, active, lifeCycle]
    split
    · rename_i completed
      simp [completed, Change.over]
    · rename_i open_
      simp [open_, Change.over]
  · rw [record_lifeCycle, active, lifeCycle]
    split <;> simp [Change.over]

theorem Lineage.endsWith (graphed : pack.narrative = some graph)
    (starts : spec.narrative = graph.initialState)
    (lineage : Lineage config (Narrated pack) spec log story) : story.EndsWith graph := by
  induction lineage with
  | created now _ =>
    refine ⟨?_, by simp [StoredStory.created]⟩
    have unfinished := graph.initialState_open
    rw [← starts] at unfinished
    simpa [StoredStory.created] using unfinished
  | committed now _ accepts _ carries ih => exact ih.step graphed accepts carries now

end StoredStory

namespace StoryStoreMem
variable {config : StoryStoreConfig} {store : StoryStoreMem} {storyId : StoryId}
  {story : StoredStory} {pack : StoryPack} {graph : NarrativeGraph}

/-- Calls that keep the stories, with the turns of one story narrated by its pack. -/
def NarratedStep (pack : StoryPack) (storyId : StoryId) (before after : StoryStoreMem) : Prop :=
  ∃ op : StoreOp, op.keeps = true ∧
    Allowed storyId (fun _ => True) (Narrated pack) before op ∧ after = op.perform before

theorem narrated_step (graphed : pack.narrative = some graph)
    (step : NarratedStep pack storyId store after)
    (found : store.stories[storyId]? = some story) :
    ∃ next, after.stories[storyId]? = some next ∧ ∀ nodeId,
      (story.context.narrative.status nodeId).Moves (next.context.narrative.status nodeId) := by
  obtain ⟨op, keeps, allowed, rfl⟩ := step
  rcases keep_next keeps found with same | ⟨now, turn, rfl, own, accepts, foundNext⟩
  · exact ⟨story, same, fun nodeId => .stay _⟩
  · refine ⟨_, foundNext, fun nodeId => ?_⟩
    rw [StoredStory.record_narrative]
    exact (allowed own story found).moves graphed nodeId

theorem narrated_run (graphed : pack.narrative = some graph)
    (run : Transition.Reaches (NarratedStep pack storyId) store later)
    (found : store.stories[storyId]? = some story) :
    ∃ next, later.stories[storyId]? = some next ∧ ∀ nodeId,
      Relation.ReflTransGen NodeStatus.Moves (story.context.narrative.status nodeId)
        (next.context.narrative.status nodeId) := by
  refine Transition.follow (·.stories[storyId]?)
    (R := fun before after => ∀ nodeId, Relation.ReflTransGen NodeStatus.Moves
      (before.context.narrative.status nodeId) (after.context.narrative.status nodeId))
    (fun _ _ => .refl) ?_ ?_ run found
  · intro before middle after first second nodeId
    exact (first nodeId).trans (second nodeId)
  · intro store later story step found
    obtain ⟨next, foundNext, moves⟩ := narrated_step graphed step found
    exact ⟨next, foundNext, fun nodeId => .single (moves nodeId)⟩

/-- Nodes only move forward, one stage a turn; the story is completed exactly when a
terminal node is, and then takes no further turn. -/
theorem narrative_life_cycle (graphed : pack.narrative = some graph)
    (run : Run config storyId (fun spec => spec.narrative = graph.initialState) (Narrated pack) store)
    (found : store.stories[storyId]? = some story) :
    (story.context.lifeCycle = .completed ↔
      ∃ nodeId node, graph.nodes[nodeId]? = some node ∧ node.terminal = true ∧
        story.context.narrative.status nodeId = .completed) ∧
    (∀ (now : DateTime) (turn : StoryCommit) (next : StoredStory),
      Narrated pack story.context turn →
      ((commit now turn).call store).2.stories[storyId]? = some next → ∀ nodeId,
      (story.context.narrative.status nodeId).Moves (next.context.narrative.status nodeId)) ∧
    (∀ later, Transition.Reaches (NarratedStep pack storyId) store later →
      ∃ next, later.stories[storyId]? = some next ∧ ∀ nodeId,
        Relation.ReflTransGen NodeStatus.Moves (story.context.narrative.status nodeId)
          (next.context.narrative.status nodeId) ∧
        (story.context.narrative.status nodeId = .completed →
          next.context.narrative.status nodeId = .completed) ∧
        (story.context.narrative.status nodeId = .skipped →
          next.context.narrative.status nodeId = .skipped)) ∧
    (story.context.lifeCycle = .completed →
      (∀ (now : DateTime) (turn : StoryCommit), turn.storyId = storyId →
        story.committed[turn.turn.idempotencyKey]? = none →
        (commit now turn).call store =
          (.error (.constraintViolation "story is not active"), store)) ∧
      ∀ later, Transition.Reaches KeepStep store later →
        later.stories[storyId]? = some story) := by
  obtain ⟨spec, log, _, starts, lineage⟩ := run.lineage.2 story found
  refine ⟨(lineage.endsWith graphed starts).ended, ?_, ?_, ?_⟩
  · intro now turn next carries left nodeId
    rcases commit_next now turn found left with rfl | ⟨_, _, rfl⟩
    · exact .stay _
    · rw [StoredStory.record_narrative]
      exact carries.moves graphed nodeId
  · intro later narrated
    obtain ⟨next, foundNext, path⟩ := narrated_run graphed narrated found
    refine ⟨next, foundNext, fun nodeId => ⟨path nodeId, ?_, ?_⟩⟩
    · intro completed
      exact NodeStatus.final_path .completed (completed ▸ path nodeId)
    · intro skipped
      exact NodeStatus.final_path .skipped (skipped ▸ path nodeId)
  · intro completed
    have inactive : story.context.lifeCycle ≠ .active := by simp [completed]
    refine ⟨?_, fun later keeps => keep_run_inactive keeps found inactive⟩
    rintro now turn rfl fresh
    rw [commit_call, found]
    simp only [fresh, admitTurn_inactive inactive]

end StoryStoreMem

namespace Sample

def endId : NarrativeNodeId := ⟨"the_end", by decide⟩

/-- One terminal node, completed by the first turn. -/
def graph : NarrativeGraph :=
  ⟨(∅ : BTreeMap .narrativeNode NarrativeNode).insert endId
    { title := ⟨"The end"⟩
      activateWhen := .storyStarted
      completeWhen := .turnReaches 1
      terminal := true }⟩

def graphedPack : StoryPack := { pack with narrative := some graph }

def ending : List StoreOp :=
  [.create now { spec with narrative := graph.initialState },
    .commit now { commit 1 keyA with
      narrative := .replaced (graph.initialState.apply [⟨endId, .completed⟩])
      lifeCycle := .replaced .completed }]

def ended : StoryStoreMem := StoryStoreMem.performAll ending (StoryStoreMem.withConfig {})

end Sample

namespace StoryStoreMem

theorem narrative_life_cycle_sample : Sample.graph.validate = .ok () ∧
    ∃ story, Sample.ended.stories[Sample.storyId]? = some story ∧
      story.context.lifeCycle = .completed ∧
      ∃ nodeId node, Sample.graph.nodes[nodeId]? = some node ∧ node.terminal = true ∧
        story.context.narrative.status nodeId = .completed := by
  have run : Run {} Sample.storyId (fun spec => spec.narrative = Sample.graph.initialState)
      (Narrated Sample.graphedPack) Sample.ended := by
    refine run_performAll {} ⟨fun _ => rfl, fun _ story found => ?_, trivial⟩
    have resolved : (StoreOp.perform (.create Sample.now
        { Sample.spec with narrative := Sample.graph.initialState })
          (withConfig {})).stories[Sample.storyId]?.all (fun story =>
        resolveNarrative Sample.graphedPack story.context ∅ =
          ⟨.replaced (Sample.graph.initialState.apply [⟨Sample.endId, .completed⟩]),
            .replaced .completed⟩) := by decide
    exact ⟨∅, of_decide_eq_true ((Option.all_eq_true _ _).mp resolved story found)⟩
  have finished : Sample.ended.stories[Sample.storyId]?.map (·.context.lifeCycle) =
      some .completed := by decide
  obtain ⟨story, found, completed⟩ := Option.map_eq_some_iff.mp finished
  have life := narrative_life_cycle rfl run found
  exact ⟨by decide, story, found, completed, life.1.mp completed⟩

end StoryStoreMem
end Aise
