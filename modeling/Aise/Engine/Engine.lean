import Aise.Engine.Factory
import Aise.Pipeline.Runtime
import Aise.Pipeline.Extract.Narrative

/-! The engine's entry for a turn. It loads the story and turns inactive ones away
before it runs the stages, and the stages look up a turn that was committed before.
So a turn sent again is answered from the record only while its story is active. -/
namespace Aise

namespace AiseEngine

def runTurn (runtime : Runtime) (now : DateTime) (turnRequest : TurnRequest) (store : Store) :
    Except EngineError StoryCommit × Store :=
  match EngineError.lift .persistence (store.storyStore.load turnRequest.storyId) with
  | .error error => (.error error, store)
  | .ok context =>
    if context.lifeCycle ≠ .active then (.error (.storyNotActive context.lifeCycle), store)
    else
      let (result, store) := runtime.runTurn now context turnRequest store
      (EngineError.lift .pipeline result, store)

end AiseEngine

namespace StoryStoreMem

theorem load_ok {store : StoryStoreMem} (loaded : store.load storyId = .ok context) :
    ∃ story, store.stories[storyId]? = some story ∧ story.context = context := by
  unfold load at loaded
  split at loaded
  · rename_i story found
    cases loaded
    exact ⟨story, found, rfl⟩
  · contradiction

theorem findCommitted_found {store : StoryStoreMem} (found : store.stories[storyId]? = some story)
    (key : IdempotencyKey) : store.findCommitted storyId key = .ok story.committed[key]? := by
  rw [findCommitted, found]

/-- A story is stored under its own id. -/
theorem Reachable.loaded_storyId {config : StoryStoreConfig} (reachable : Reachable config store)
    (loaded : store.load storyId = .ok context) : context.storyId = storyId := by
  obtain ⟨story, found, rfl⟩ := load_ok loaded
  obtain ⟨spec, log, own, _, lineage⟩ := (reachable.run storyId).lineage.2 story found
  rw [← own]
  clear own found loaded
  induction lineage with
  | created => rfl
  | committed now _ _ _ _ ih => rw [StoredStory.record_storyId, ih]

end StoryStoreMem

namespace AiseEngine
variable {runtime : Runtime} {turnRequest : TurnRequest} {store : Store} {now : DateTime}
  {config : StoryStoreConfig}

theorem runTurn_inactive (now : DateTime)
    (loaded : store.storyStore.load turnRequest.storyId = .ok context)
    (inactive : context.lifeCycle ≠ .active) :
    runTurn runtime now turnRequest store =
      (.error (.storyNotActive context.lifeCycle), store) := by
  simp only [runTurn, loaded, EngineError.lift]
  rw [if_pos inactive]

theorem runTurn_active (now : DateTime)
    (loaded : store.storyStore.load turnRequest.storyId = .ok context)
    (active : context.lifeCycle = .active) :
    runTurn runtime now turnRequest store =
      (EngineError.lift .pipeline (runtime.runTurn now context turnRequest store).1,
        (runtime.runTurn now context turnRequest store).2) := by
  simp only [runTurn, loaded, EngineError.lift]
  rw [if_neg (not_not.mpr active)]

/-- A committed turn, asked for again with stages that succeed, comes back from the
record and writes nothing if and only if its story is still active. -/
theorem replay_answered_iff_active
    (reachable : StoryStoreMem.Reachable config store.storyStore)
    (recorded : store.storyStore.findCommitted turnRequest.storyId turnRequest.idempotencyKey =
      .ok (some commit))
    (loaded : store.storyStore.load turnRequest.storyId = .ok context)
    (prepared : runtime.prepare context turnRequest store.packStore = .ok input) :
    runTurn runtime now turnRequest store = (.ok commit, store) ↔
      context.lifeCycle = .active := by
  constructor
  · intro answered
    by_contra inactive
    rw [runTurn_inactive now loaded inactive] at answered
    cases (Prod.mk.inj answered).1
  · intro active
    have own := reachable.loaded_storyId loaded
    have key := Runtime.prepare_idempotencyKey prepared
    have replayed : runtime.runTurn now context turnRequest store = (.ok commit, store) := by
      simp only [Runtime.runTurn, prepared]
      refine CommitPipeline.execute_replays now ?_
      rw [own, key, recorded]
    rw [runTurn_active now loaded active, replayed]
    rfl

end AiseEngine

namespace Sample

/-- Stages that answer the same whatever they are asked. -/
def runtime : Runtime where
  baseline playerInput _ _ := .ok ⟨⟨playerInput, "The hero goes north."⟩, ⟨[], []⟩, ⟨[], []⟩⟩
  plan _ _ := .ok ⟨⟨"Reach the gate."⟩, [], [], [hero], []⟩
  think _ _ := .ok []
  generate _ _ := .ok "The road is long."
  validateRepairLoop _ proposal _ := .ok ⟨proposal, ⟨1, [], []⟩, 0, .pass, none⟩
  extract _ _ _ := .ok ⟨{}, .unchanged, .unchanged⟩
  summary _ _ := .ok ⟨.unchanged⟩
  repairMaxProposalBytes := 8192

def again : TurnRequest := ⟨storyId, keyA, "go north"⟩

theorem runtime_prepares (context : StoryContext) (packs : PackStoreMem) :
    ∃ input, runtime.prepare context again packs = .ok input := ⟨_, rfl⟩

end Sample

/-- The turn that completed its story is on record, and asking for it again is refused. -/
theorem replay_of_completing_turn_refused :
    StoryStoreMem.Reachable {} Sample.ended ∧
      (∃ commit, Sample.ended.findCommitted Sample.storyId Sample.keyA = .ok (some commit)) ∧
      (∃ context input, Sample.ended.load Sample.storyId = .ok context ∧
        Sample.runtime.prepare context Sample.again {} = .ok input) ∧
      AiseEngine.runTurn Sample.runtime Sample.now Sample.again { storyStore := Sample.ended } =
        (.error (.storyNotActive .completed), { storyStore := Sample.ended }) := by
  have finished : Sample.ended.stories[Sample.storyId]?.map (·.context.lifeCycle) =
      some .completed := by decide
  have kept : Sample.ended.stories[Sample.storyId]?.map (·.committed[Sample.keyA]?.isSome) =
      some true := by decide
  obtain ⟨story, found, completed⟩ := Option.map_eq_some_iff.mp finished
  rw [found] at kept
  obtain ⟨commit, recorded⟩ := Option.isSome_iff_exists.mp (Option.some.inj kept)
  have loaded : Sample.ended.load Sample.storyId = .ok story.context := by
    rw [StoryStoreMem.load, found]
  obtain ⟨input, prepared⟩ := Sample.runtime_prepares story.context {}
  refine ⟨StoryStoreMem.reachable_performAll {} _, ⟨commit, ?_⟩, ⟨_, input, loaded, prepared⟩, ?_⟩
  · rw [StoryStoreMem.findCommitted_found found, recorded]
  · have inactive : story.context.lifeCycle ≠ .active := by
      rw [completed]
      decide
    rw [AiseEngine.runTurn_inactive Sample.now loaded inactive, completed]

theorem AiseEngine.replay_answered_iff_active_sample :
    ∃ commit, AiseEngine.runTurn Sample.runtime Sample.now Sample.again
        { storyStore := Sample.store } = (.ok commit, { storyStore := Sample.store }) ∧
      commit.turn.turnNumber = ⟨1⟩ := by
  have under : Sample.store.stories[Sample.storyId]?.map (·.context.lifeCycle) =
      some .active := by decide
  have kept : Sample.store.stories[Sample.storyId]?.map
      (·.committed[Sample.keyA]?.map (·.turn.turnNumber)) = some (some ⟨1⟩) := by decide
  obtain ⟨story, found, active⟩ := Option.map_eq_some_iff.mp under
  rw [found] at kept
  obtain ⟨commit, recorded, number⟩ := Option.map_eq_some_iff.mp (Option.some.inj kept)
  obtain ⟨input, prepared⟩ := Sample.runtime_prepares story.context {}
  refine ⟨commit, ?_, number⟩
  refine (AiseEngine.replay_answered_iff_active (StoryStoreMem.reachable_performAll {} _)
    ?_ ?_ prepared).mpr active
  · change Sample.store.findCommitted Sample.storyId Sample.keyA = _
    rw [StoryStoreMem.findCommitted_found found, recorded]
  · change Sample.store.load Sample.storyId = _
    rw [StoryStoreMem.load, found]

end Aise
