import Mathlib.Data.Prod.Lex
import Mathlib.Algebra.Order.Field.Rat
import Mathlib.Order.OrderDual
import Aise.Pipeline.Validate.Report

/-! The validate-and-repair loop. A loop body is one value: the calls it makes, the
history it leaves and how it ends. Panics of the source (a failed `expect`, an
arithmetic overflow) are faults of their own, so that a result never hides one. -/
namespace Aise

inductive Fault where
  | raised (error : PipelineError)
  | panic (message : String)

def Fault.lift : Except PipelineError α → Except Fault α
  | .ok value => .ok value
  | .error error => .error (.raised error)

inductive ValidationIssue where
  | check (name : String) (message : BoundedText)
  | score (name : String) (currentScore targetScore : Rat) (message : BoundedText)

namespace ValidationReport

def allChecksPass (report : ValidationReport) : Bool := report.checks.all (·.passed)

def allScoresMeetTarget (report : ValidationReport) : Bool :=
  report.scores.all fun score => score.score ≥ score.targetScore

def unmetScores (report : ValidationReport) : List ValidationScoreResult :=
  report.scores.filter fun score => score.score < score.targetScore

def unmetScoreCount (report : ValidationReport) : Nat := report.unmetScores.length

def expectIssue (message : String) : Option BoundedText → Except Fault BoundedText
  | some issue => .ok issue
  | none => .error (.panic message)

def failedIssues (report : ValidationReport) : Except Fault (List ValidationIssue) := do
  let checks ← (report.checks.filter (!·.passed)).mapM fun check => do
    return .check check.name
      (← expectIssue "failed validation check must include an issue" check.issue)
  let scores ← report.unmetScores.mapM fun score => do
    return .score score.name score.score score.targetScore
      (← expectIssue "unmet validation score must include an issue" score.issue)
  return checks ++ scores

end ValidationReport

structure ValidateInput where
  context : ValidationContext
  proposal : String
  proposalVersion : UInt32
  repairRoundsUsed : UInt32
  repairRoundsRemaining : UInt32

structure RepairInput where
  context : ValidationContext
  proposal : String
  proposalVersion : UInt32
  issues : List ValidationIssue
  repairRound : UInt32
  repairRoundsRemaining : UInt32

structure ValidatePipeline where
  ask : ValidateInput → StoryContext → Except AskError String
  fromStr : String → Except JsonError ValidateLlmOutputDto
  qualityPolicy : ProposalQualityPolicy
  maxIssueBytes : Nat

def ValidatePipeline.execute (pipeline : ValidatePipeline) (input : ValidateInput)
    (context : StoryContext) : Except PipelineError ValidationReport :=
  match pipeline.ask input context with
  | .error error => .error (error.at .validate)
  | .ok raw => ValidateReport.parseValidationReport pipeline.fromStr raw input.proposalVersion
      pipeline.qualityPolicy pipeline.maxIssueBytes

structure RepairPipeline where
  ask : RepairInput → StoryContext → Except AskError String
  maxProposalBytes : Nat

def validateRepairedProposal (raw : String) (maxProposalBytes : Nat) :
    Except PipelineError String :=
  if RustText.isBlank raw then .error (.emptyOutput .repair)
  else if RustText.len raw > maxProposalBytes then
    .error (.invalidOutput .repair "repair_proposal_too_long"
      s!"repair proposal exceeds {maxProposalBytes} bytes")
  else .ok raw

def RepairPipeline.execute (pipeline : RepairPipeline) (input : RepairInput)
    (context : StoryContext) : Except PipelineError String :=
  match pipeline.ask input context with
  | .error error => .error (error.at .repair)
  | .ok raw => validateRepairedProposal raw pipeline.maxProposalBytes

structure ValidatedProposal where
  proposal : String
  report : ValidationReport

structure ChoiceSelection where
  historyIndex : Nat
  proposalVersion : UInt32
  targetGapMse : Rat
  unmetScoreCount : Nat

/-- The deficit of one score, `none` where the division gives infinity. A range of no
width divides by zero: a deficit is then infinite, and anything else counts as none. -/
def deficit (score : ValidationScoreResult) : Option Rat :=
  if score.maxScore = score.minScore then
    if score.score < score.targetScore then none else some 0
  else some (max ((score.targetScore - score.score) / (score.maxScore - score.minScore)) 0)

def sumSquares : List ValidationScoreResult → Option Rat
  | [] => some 0
  | score :: rest => do
    let gap ← deficit score
    return gap * gap + (← sumSquares rest)

def targetGapMse (proposal : ValidatedProposal) : Except PipelineError Rat :=
  if proposal.report.scores.isEmpty then
    .error (.validationFailed "validation_choice_scores_empty" proposal.report.proposalVersion
      "choice candidate has no validation scores")
  else match sumSquares proposal.report.scores with
    | some total => .ok (total / proposal.report.scores.length)
    | none => .error (.validationFailed "validation_choice_score_non_finite"
        proposal.report.proposalVersion "choice candidate produced a non-finite target gap metric")

def isBetter (candidate current : ChoiceSelection) : Bool :=
  match compare candidate.targetGapMse current.targetGapMse with
  | .lt => true
  | .gt => false
  | .eq => match compare candidate.unmetScoreCount current.unmetScoreCount with
    | .lt => true
    | .gt => false
    | .eq => candidate.proposalVersion > current.proposalVersion

/-- The loop of `select_choice` from a position of the history on. -/
def selectFrom (historyIndex : Nat) (best : Option ChoiceSelection) :
    List ValidatedProposal → Except PipelineError (Option ChoiceSelection)
  | [] => .ok best
  | proposal :: rest =>
    if !proposal.report.allChecksPass then selectFrom (historyIndex + 1) best rest
    else do
      let gap ← targetGapMse proposal
      let candidate : ChoiceSelection :=
        { historyIndex, proposalVersion := proposal.report.proposalVersion, targetGapMse := gap
          unmetScoreCount := proposal.report.unmetScoreCount }
      selectFrom (historyIndex + 1)
        (if best.all (isBetter candidate) then some candidate else best) rest

def selectChoice (history : List ValidatedProposal) : Except PipelineError ChoiceSelection := do
  match ← selectFrom 0 none history with
  | some best => return best
  | none => .error (.validationFailed "validation_choice_unavailable"
      ((history.getLast?.map (·.report.proposalVersion)).getD 0)
      "no hard-gate-passing proposal is available for choice")

def failedIssueCounts (issues : List ValidationIssue) : Nat × Nat :=
  issues.foldl (fun (checks, scores) issue => match issue with
    | .check _ _ => (checks + 1, scores)
    | .score _ _ _ _ => (checks, scores + 1)) (0, 0)

/-- A call of the loop to one of its two stages. -/
inductive StageCall where
  | validate (input : ValidateInput)
  | repair (input : RepairInput)

def StageCall.isValidate : StageCall → Bool
  | .validate _ => true
  | .repair _ => false

def StageCall.isRepair (call : StageCall) : Bool := !call.isValidate

/-- `u32` arithmetic that overflows panics. -/
def subU32 (a b : UInt32) : Except Fault UInt32 :=
  if a < b then .error (.panic "attempt to subtract with overflow") else .ok (a - b)

def proposalVersion (history : List ValidatedProposal) : Except Fault UInt32 :=
  if history.length + 1 < UInt32.size then .ok (UInt32.ofNat (history.length + 1))
  else .error (.panic "validated proposal history length must fit u32")

structure ValidationLoop where
  validate : ValidatePipeline
  repair : RepairPipeline
  maxRepairRounds : UInt32
  context : ValidationContext
  storyContext : StoryContext

/-- The variables of the loop at its head. -/
structure LoopState where
  history : List ValidatedProposal
  currentProposal : String
  repairRounds : UInt32

inductive LoopEnd where
  | finished (outcome : Except Fault ValidationLoopResult)
  | again (state : LoopState)

structure LoopBody where
  calls : List StageCall
  history : List ValidatedProposal
  ending : LoopEnd

namespace ValidationLoop

def validateInput (loop : ValidationLoop) (state : LoopState) : Except Fault ValidateInput := do
  let version ← proposalVersion state.history
  let remaining ← subU32 loop.maxRepairRounds state.repairRounds
  return { context := loop.context, proposal := state.currentProposal, proposalVersion := version
           repairRoundsUsed := state.repairRounds, repairRoundsRemaining := remaining }

def hardGateExhausted (latest : ValidatedProposal) : Fault :=
  match latest.report.failedIssues with
  | .error fault => fault
  | .ok issues =>
    let (failedChecks, unmetScores) := failedIssueCounts issues
    .raised (.validationFailed "validation_hard_gate_exhausted" latest.report.proposalVersion
      s!"repair budget exhausted with {failedChecks} failed checks and {unmetScores} unmet scores")

/-- `swap_remove` gives the selected entry; what it leaves behind is dropped. -/
def choose (history : List ValidatedProposal) (repairRounds : UInt32) :
    Except Fault ValidationLoopResult := do
  let selection ← Fault.lift (selectChoice history)
  match history[selection.historyIndex]? with
  | none => .error (.panic "swap_remove index should be less than the history length")
  | some selected =>
    return {
      proposal := selected.proposal
      report := selected.report
      repairRounds
      status := .choice
      choice := some ⟨selection.proposalVersion, selection.targetGapMse⟩ }

/-- What follows a validation: a result, or `none` when a repair is due. -/
def judge (loop : ValidationLoop) (history : List ValidatedProposal) (latest : ValidatedProposal)
    (repairRounds : UInt32) : Except Fault (Option ValidationLoopResult) :=
  if latest.report.allChecksPass && latest.report.allScoresMeetTarget then
    .ok (some {
      proposal := latest.proposal
      report := latest.report
      repairRounds
      status := .pass
      choice := none })
  else if repairRounds ≥ loop.maxRepairRounds then
    if !latest.report.allChecksPass then .error (hardGateExhausted latest)
    else (choose history repairRounds).map some
  else .ok none

def repairInput (loop : ValidationLoop) (latest : ValidatedProposal) (repairRounds : UInt32) :
    Except Fault RepairInput := do
  let issues ← latest.report.failedIssues
  let remaining ← subU32 loop.maxRepairRounds repairRounds
  return { context := loop.context, proposal := latest.proposal
           proposalVersion := latest.report.proposalVersion, issues
           repairRound := repairRounds, repairRoundsRemaining := remaining }

/-- The part of the body after a report that left the loop running. -/
def repairOnce (loop : ValidationLoop) (calls : List StageCall) (history : List ValidatedProposal)
    (latest : ValidatedProposal) (repairRounds : UInt32) : LoopBody :=
  match loop.repairInput latest repairRounds with
  | .error fault => ⟨calls, history, .finished (.error fault)⟩
  | .ok request =>
    match loop.repair.execute request loop.storyContext with
    | .error error => ⟨calls ++ [.repair request], history, .finished (.error (.raised error))⟩
    | .ok proposal => ⟨calls ++ [.repair request], history, .again ⟨history, proposal, repairRounds⟩⟩

def body (loop : ValidationLoop) (state : LoopState) : LoopBody :=
  match loop.validateInput state with
  | .error fault => ⟨[], state.history, .finished (.error fault)⟩
  | .ok input =>
    match loop.validate.execute input loop.storyContext with
    | .error error => ⟨[.validate input], state.history, .finished (.error (.raised error))⟩
    | .ok report =>
      let latest : ValidatedProposal := ⟨state.currentProposal, report⟩
      let history := state.history ++ [latest]
      match loop.judge history latest state.repairRounds with
      | .error fault => ⟨[.validate input], history, .finished (.error fault)⟩
      | .ok (some result) => ⟨[.validate input], history, .finished (.ok result)⟩
      | .ok none => loop.repairOnce [.validate input] history latest (state.repairRounds + 1)

theorem judge_continues {loop : ValidationLoop}
    (judged : loop.judge history latest repairRounds = .ok none) :
    repairRounds < loop.maxRepairRounds := by
  simp only [judge] at judged
  split at judged
  · cases judged
  · split at judged
    · split at judged
      · cases judged
      · cases chosen : choose history repairRounds with
        | error _ =>
          rw [chosen] at judged
          cases judged
        | ok _ =>
          rw [chosen] at judged
          cases judged
    · rename_i remains
      exact UInt32.not_le.mp remains

theorem repairOnce_again {loop : ValidationLoop}
    (again : (loop.repairOnce calls history latest repairRounds).ending = .again next) :
    next.repairRounds = repairRounds := by
  simp only [repairOnce] at again
  split at again
  · cases again
  · split at again
    · cases again
    · cases again
      rfl

/-- A repair is only asked for while the budget lasts. -/
theorem body_again_rounds {loop : ValidationLoop} (again : (loop.body state).ending = .again next) :
    state.repairRounds < loop.maxRepairRounds ∧ next.repairRounds = state.repairRounds + 1 := by
  simp only [body] at again
  split at again
  · cases again
  · split at again
    · cases again
    · split at again
      · cases again
      · cases again
      · rename_i judged
        refine ⟨?_, repairOnce_again again⟩
        exact judge_continues judged

end ValidationLoop

/-- A whole run: how it ended, the calls it made and the versions that got a report. -/
structure LoopRun where
  outcome : Except Fault ValidationLoopResult
  calls : List StageCall
  versions : List ValidatedProposal

def LoopRun.validations (run : LoopRun) : Nat := run.calls.countP StageCall.isValidate

def LoopRun.repairs (run : LoopRun) : Nat := run.calls.countP StageCall.isRepair

namespace ValidationLoop

/-- The loop from one of its heads. -/
def runFrom (loop : ValidationLoop) (state : LoopState) : LoopRun :=
  match _again : (loop.body state).ending with
  | .finished outcome => ⟨outcome, (loop.body state).calls, (loop.body state).history⟩
  | .again next =>
    let rest := loop.runFrom next
    { rest with calls := (loop.body state).calls ++ rest.calls }
  termination_by loop.maxRepairRounds.toNat - state.repairRounds.toNat
  decreasing_by
    obtain ⟨remains, rounds⟩ := body_again_rounds _again
    have remains := UInt32.lt_iff_toNat_lt.mp remains
    have bound := loop.maxRepairRounds.toNat_lt
    rw [rounds, UInt32.toNat_add]
    simp only [UInt32.reduceToNat]
    omega

def validateAndRepair (loop : ValidationLoop) (initialProposal : String) : LoopRun :=
  loop.runFrom ⟨[], initialProposal, 0⟩

end ValidationLoop
end Aise
