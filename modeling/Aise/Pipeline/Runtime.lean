import Aise.Core.Narrative.Plan
import Aise.Pipeline.Commit
import Aise.Pipeline.Summary

/-! One turn, stage by stage. Every stage sees the context the engine loaded; the
stages before the commit ask the model and read the pack store, and write nothing. -/
namespace Aise

structure NarrativeProjection where
  directions : List NarrativeDirection
  constraints : List BoundedText

structure ActivatedKnowledge where
  facts : List FactEntry
  rumors : List RumorEntry

structure BaselineOutput where
  playerContribution : PlayerContribution
  narrative : NarrativeProjection
  knowledge : ActivatedKnowledge

structure CharacterThinkRequest where
  roleId : RoleId
  thinkingFocus : BoundedText

structure CharacterDecision where
  roleId : RoleId
  decision : BoundedText
  suggestedUtterance : Option BoundedText

structure PlanInput where
  playerContribution : PlayerContribution
  directions : List NarrativeDirection
  constraints : List BoundedText
  knowledge : ActivatedKnowledge

structure PlanOutput where
  storyGoal : BoundedText
  factsToRetrieve : List FactId
  rumorsToRetrieve : List RumorId
  rolesForGeneration : List RoleId
  characterThinkRequests : List CharacterThinkRequest

def PlanOutput.requiresRetrieval (output : PlanOutput) : Bool :=
  !output.factsToRetrieve.isEmpty || !output.rumorsToRetrieve.isEmpty

def PlanOutput.requiresCharacterThinking (output : PlanOutput) : Bool :=
  !output.characterThinkRequests.isEmpty

/-- Keeps the first occurrence of each role. -/
def effectiveRoleIds (output : PlanOutput) : List RoleId :=
  (output.rolesForGeneration ++ output.characterThinkRequests.map (·.roleId)).eraseDups

structure RetrievalOutput where
  facts : List FactEntry := []
  rumors : List RumorEntry := []

def retrievalMissing (code what id : String) : PipelineError :=
  .inconsistentData .retrieval code s!"selected {what} ID {id} is missing from the story context"

def RetrievalPipeline.execute (factIds : List FactId) (rumorIds : List RumorId)
    (context : StoryContext) : Except PipelineError RetrievalOutput := do
  let facts ← factIds.mapM fun id =>
    match context.facts[id]? with
    | some entry => .ok entry
    | none => .error (retrievalMissing "retrieval_fact_missing" "fact" id.value)
  let rumors ← rumorIds.mapM fun id =>
    match context.rumors[id]? with
    | some entry => .ok entry
    | none => .error (retrievalMissing "retrieval_rumor_missing" "rumor" id.value)
  return { facts, rumors }

structure ThinkInput where
  requests : List CharacterThinkRequest
  playerContribution : PlayerContribution
  activatedRumors : List RumorEntry
  retrievedRumors : List RumorEntry

/-- The input of the generate stage and, shared, of the validation loop. -/
structure ValidationContext where
  storyGoal : BoundedText
  playerContribution : PlayerContribution
  directions : List NarrativeDirection
  constraints : List BoundedText
  knowledge : ActivatedKnowledge
  retrievedFacts : List FactEntry
  retrievedRumors : List RumorEntry
  roleIds : List RoleId
  characterDecisions : List CharacterDecision

structure ValidationCheckResult where
  name : String
  description : String
  passed : Bool
  issue : Option BoundedText

structure ValidationScoreResult where
  name : String
  description : String
  minScore : Rat
  maxScore : Rat
  targetScore : Rat
  score : Rat
  issue : Option BoundedText

structure ValidationReport where
  proposalVersion : UInt32
  checks : List ValidationCheckResult
  scores : List ValidationScoreResult

structure ValidationLoopResult where
  proposal : String
  report : ValidationReport
  repairRounds : UInt32
  status : TurnStatus
  choice : Option TurnChoiceEvaluation

def turnEvaluation (result : ValidationLoopResult) : TurnEvaluation where
  proposalVersion := result.report.proposalVersion
  repairRounds := result.repairRounds
  checks := result.report.checks.map fun check =>
    { name := check.name, passed := check.passed, issue := check.issue }
  scores := result.report.scores.map fun score =>
    { name := score.name
      minScore := score.minScore
      maxScore := score.maxScore
      targetScore := score.targetScore
      score := score.score
      issue := score.issue }
  choice := result.choice

def validateGeneratedProposal (proposal : String) (maxProposalBytes : Nat) :
    Except PipelineError String :=
  if RustText.isBlank proposal then .error (.emptyOutput .generate)
  else if RustText.len proposal > maxProposalBytes then
    .error (.invalidOutput .generate "generate_proposal_too_long"
      s!"generated proposal exceeds {maxProposalBytes} bytes")
  else .ok proposal

structure ExtractOutput where
  knowledgeChange : KnowledgeChange
  narrative : Change NarrativeState
  lifeCycle : Change StoryLifeCycle

/-- The stages as the functions of their input that they compute. What the model
answers is part of the function, so a run fixes one answer for each prompt. -/
structure Runtime where
  baseline : String → StoryContext → PackStoreMem → Except PipelineError BaselineOutput
  plan : PlanInput → StoryContext → Except PipelineError PlanOutput
  think : ThinkInput → StoryContext → Except PipelineError (List CharacterDecision)
  generate : ValidationContext → StoryContext → Except PipelineError String
  validateRepairLoop : ValidationContext → String → StoryContext →
    Except PipelineError ValidationLoopResult
  extract : String → StoryContext → PackStoreMem → Except PipelineError ExtractOutput
  summary : TurnNumber → StoryContext → Except PipelineError SummaryOutput
  repairMaxProposalBytes : Nat

namespace Runtime

/-- The two stages a plan can skip. -/
def retrievalFor (planOutput : PlanOutput) (context : StoryContext) :
    Except PipelineError RetrievalOutput :=
  if planOutput.requiresRetrieval then
    RetrievalPipeline.execute planOutput.factsToRetrieve planOutput.rumorsToRetrieve context
  else .ok {}

def thinkFor (runtime : Runtime) (planOutput : PlanOutput) (input : ThinkInput)
    (context : StoryContext) : Except PipelineError (List CharacterDecision) :=
  if planOutput.requiresCharacterThinking then runtime.think input context else .ok []

/-- `Runtime::run_turn` up to its `CommitInput`. -/
def prepare (runtime : Runtime) (context : StoryContext) (request : TurnRequest)
    (packs : PackStoreMem) : Except PipelineError CommitInput := do
  let baselineOutput ← runtime.baseline request.playerInput context packs
  let planOutput ← runtime.plan
    { playerContribution := baselineOutput.playerContribution
      directions := baselineOutput.narrative.directions
      constraints := baselineOutput.narrative.constraints
      knowledge := baselineOutput.knowledge } context
  let retrievalOutput ← retrievalFor planOutput context
  let characterDecisions ← runtime.thinkFor planOutput
    { requests := planOutput.characterThinkRequests
      playerContribution := baselineOutput.playerContribution
      activatedRumors := baselineOutput.knowledge.rumors
      retrievedRumors := retrievalOutput.rumors } context
  let validationContext : ValidationContext :=
    { storyGoal := planOutput.storyGoal
      playerContribution := baselineOutput.playerContribution
      directions := baselineOutput.narrative.directions
      constraints := baselineOutput.narrative.constraints
      knowledge := baselineOutput.knowledge
      retrievedFacts := retrievalOutput.facts
      retrievedRumors := retrievalOutput.rumors
      roleIds := effectiveRoleIds planOutput
      characterDecisions }
  let result ← runtime.generate validationContext context
  let initialProposal ← validateGeneratedProposal result runtime.repairMaxProposalBytes
  let validationResult ← runtime.validateRepairLoop validationContext initialProposal context
  let extractOutput ← runtime.extract validationResult.proposal context packs
  let summaryOutput ← runtime.summary context.turnNumber.increment context
  return {
    playerContribution := baselineOutput.playerContribution
    idempotencyKey := request.idempotencyKey
    turnSegment := ⟨validationResult.proposal⟩
    knowledgeChange := extractOutput.knowledgeChange
    turnStatus := validationResult.status
    turnEvaluation := turnEvaluation validationResult
    summary := summaryOutput.summary
    narrative := extractOutput.narrative
    lifeCycle := extractOutput.lifeCycle }

def runTurn (runtime : Runtime) (now : DateTime) (context : StoryContext) (request : TurnRequest)
    (store : Store) : Except PipelineError StoryCommit × Store :=
  match runtime.prepare context request store.packStore with
  | .error error => (.error error, store)
  | .ok input => CommitPipeline.execute now input context store

/-- Whatever the stages answer, the turn is committed under the key it was asked with. -/
theorem prepare_idempotencyKey {runtime : Runtime} {request : TurnRequest}
    (prepared : runtime.prepare context request packs = .ok input) :
    input.idempotencyKey = request.idempotencyKey := by
  obtain ⟨_, _, prepared⟩ := Result.bind_eq_ok prepared
  obtain ⟨_, _, prepared⟩ := Result.bind_eq_ok prepared
  obtain ⟨_, _, prepared⟩ := Result.bind_eq_ok prepared
  obtain ⟨_, _, prepared⟩ := Result.bind_eq_ok prepared
  obtain ⟨_, _, prepared⟩ := Result.bind_eq_ok prepared
  obtain ⟨_, _, prepared⟩ := Result.bind_eq_ok prepared
  obtain ⟨_, _, prepared⟩ := Result.bind_eq_ok prepared
  obtain ⟨_, _, prepared⟩ := Result.bind_eq_ok prepared
  obtain ⟨_, _, prepared⟩ := Result.bind_eq_ok prepared
  cases prepared
  rfl

end Runtime
end Aise
