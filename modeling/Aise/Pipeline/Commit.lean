import Aise.Pipeline.Error
import Aise.Persistence.Store

/-! The last stage of a turn. It looks the key up before it builds the commit, so a
turn sent again comes back as it was stored. -/
namespace Aise

/-- `map_err(PipelineError::persistence(stage))`. -/
def PipelineError.ofPersistence (stage : PipelineStage) :
    Except PersistenceError α → Except PipelineError α
  | .ok value => .ok value
  | .error source => .error (.persistence stage source)

structure CommitInput where
  playerContribution : PlayerContribution
  idempotencyKey : IdempotencyKey
  turnSegment : TurnSegment
  knowledgeChange : KnowledgeChange
  turnStatus : TurnStatus
  turnEvaluation : TurnEvaluation
  summary : Change StorySummary
  narrative : Change NarrativeState
  lifeCycle : Change StoryLifeCycle

def CommitInput.storyCommit (input : CommitInput) (context : StoryContext) : StoryCommit where
  storyId := context.storyId
  turn :=
    { turnNumber := ⟨context.turnNumber.value + 1⟩
      idempotencyKey := input.idempotencyKey
      playerContribution := input.playerContribution
      turnSegment := input.turnSegment
      knowledgeChange := input.knowledgeChange
      turnEvaluation := input.turnEvaluation
      turnStatus := input.turnStatus }
  summary := input.summary
  narrative := input.narrative
  lifeCycle := input.lifeCycle

namespace CommitPipeline

def execute (now : DateTime) (input : CommitInput) (context : StoryContext) (store : Store) :
    Except PipelineError StoryCommit × Store :=
  match PipelineError.ofPersistence .commit
    (store.storyStore.findCommitted context.storyId input.idempotencyKey) with
  | .error error => (.error error, store)
  | .ok (some commit) => (.ok commit, store)
  | .ok none =>
    let (result, storyStore) :=
      (StoryStoreMem.commit now (input.storyCommit context)).call store.storyStore
    (PipelineError.ofPersistence .commit result, { store with storyStore })

theorem execute_replays (now : DateTime) {input : CommitInput} {context : StoryContext}
    (recorded : store.storyStore.findCommitted context.storyId input.idempotencyKey =
      .ok (some commit)) : execute now input context store = (.ok commit, store) := by
  rw [execute, recorded]
  rfl

end CommitPipeline
end Aise
