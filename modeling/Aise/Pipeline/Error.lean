import Aise.Persistence.Error

/-! Stages of a turn and the errors they report. -/
namespace Aise

inductive PipelineStage where
  | baseline | plan | retrieval | think | generate | validate | repair | extract | summary | commit
  deriving DecidableEq

inductive LlmError where
  | cancelled
  | timeout
  | concurrencyLimiterClosed
  | transport (source : String)
  | rejected (status : UInt16) (message : Option String)
  | invalidResponse (reason : String)
  | emptyCompletion
  deriving DecidableEq

/-- A prompt error is kept as its message. -/
inductive PipelineError where
  | llm (stage : PipelineStage) (source : LlmError)
  | prompt (stage : PipelineStage) (source : String)
  | persistence (stage : PipelineStage) (source : PersistenceError)
  | narrative (stage : PipelineStage) (source : NarrativeError)
  | emptyOutput (stage : PipelineStage)
  | invalidOutput (stage : PipelineStage) (code message : String)
  | inconsistentData (stage : PipelineStage) (code message : String)
  | invalidConfig (stage : PipelineStage) (code message : String)
  | validationFailed (code : String) (proposalVersion : UInt32) (message : String)
  deriving DecidableEq

/-- Rendering the prompt and asking the model, as seen by a stage. -/
inductive AskError where
  | prompt (source : String)
  | llm (source : LlmError)

def AskError.at (stage : PipelineStage) : AskError → PipelineError
  | .prompt source => .prompt stage source
  | .llm source => .llm stage source

def rejectIf (condition : Bool) (error : PipelineError) : Except PipelineError Unit :=
  if condition then .error error else .ok ()

theorem rejectIf_ok_iff : rejectIf condition error = .ok () ↔ condition = false := by
  cases condition <;> simp [rejectIf]

end Aise
