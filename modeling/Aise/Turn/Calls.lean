import Aise.Turn.TurnContext

/-! The calls on the context of a turn, and what each of them can do. -/
namespace Aise.Domain
open Effect

/-- The calls that change a context. -/
inductive ContextCall (T : TurnRecords) where
  | replaceActivation (activation : T.Activation)
  | setNarrativeProjection (projection : T.Projection)
  | completeInitialization
  | setPreparedContext (snapshot : T.Snapshot) (baseline : BaselineContext)
      (narrativeProjection : T.Projection) (activation : T.Activation)
  | setWriterPlan (plan : WriterPlan)
  | setRetrievedContext (context : RetrievedContext)
  | setCharacterDecisions (decisions : List CharacterDecision)
  | completeContextPreparation
  | skipRetrieval
  | skipCharacterThinking
  | setGeneratedStory (story : StoryGeneratorOutput)
  | setStateExtraction (envelope : T.Envelope)
  | recordStateExtractionFailure (issues : BoundedValidationIssues)
  | setValidationResult (result : ValidationResult T.ChangeSet)
  | replaceStory (story : StoryGeneratorOutput)
  | replaceStateExtraction (envelope : T.Envelope)
  | consumeCorrectionRound (kind : CorrectionKind)
  | setCommittedResult (result : T.Committed)
  | markFailed (failure : TurnExecutionError)
  | markCancelled (failure : TurnExecutionError)
  | markConflict (failure : TurnExecutionError)
  | lend (scope : TurnLlmCallScope)

def ContextCall.replacesStory {T : TurnRecords} : ContextCall T → Bool
  | replaceStory _ => true
  | _ => false

namespace TurnExecutionContext
variable {T : TurnRecords}

def perform (json : TurnJson T) : ContextCall T → M T Unit
  | .replaceActivation activation => replaceActivation activation
  | .setNarrativeProjection projection => setNarrativeProjection projection
  | .completeInitialization => completeInitialization
  | .setPreparedContext snapshot baseline narrativeProjection activation =>
    setPreparedContext snapshot baseline narrativeProjection activation
  | .setWriterPlan plan => setWriterPlan json plan
  | .setRetrievedContext context => setRetrievedContext context
  | .setCharacterDecisions decisions => setCharacterDecisions decisions
  | .completeContextPreparation => completeContextPreparation
  | .skipRetrieval => skipRetrieval
  | .skipCharacterThinking => skipCharacterThinking
  | .setGeneratedStory story => setGeneratedStory story
  | .setStateExtraction envelope => setStateExtraction json envelope
  | .recordStateExtractionFailure issues => recordStateExtractionFailure issues
  | .setValidationResult result => setValidationResult result
  | .replaceStory story => replaceStory story
  | .replaceStateExtraction envelope => replaceStateExtraction json envelope
  | .consumeCorrectionRound kind => consumeCorrectionRound kind
  | .setCommittedResult result => setCommittedResult result
  | .markFailed failure => markFailed failure
  | .markCancelled failure => markCancelled failure
  | .markConflict failure => markConflict failure
  | .lend scope => lend scope

/-! ### Guards -/

section
variable {json : TurnJson T}

theorem spares_expectPhase (expected : TurnPhase) : Spares id (expectPhase expected : M T Unit) := by
  apply Spares.bind spares_get
  intro ctx
  exact spares_throwIf

theorem spares_expectPhaseOneOf (expected : List TurnPhase) :
    Spares id (expectPhaseOneOf expected : M T Unit) := by
  apply Spares.bind spares_get
  intro ctx
  exact spares_throwIf

theorem spares_expectTerminal (expected : TurnTerminalKind) :
    Spares id (expectTerminal expected : M T Unit) := by
  apply Spares.bind spares_get
  intro ctx
  cases ctx.terminalKind with
  | none => exact spares_pure _
  | some actual => exact spares_throwIf

theorem spares_expectPlan (stage : TurnStage) (message : String) :
    Spares id (expectPlan stage message : M T WriterPlan) := by
  apply Spares.bind spares_get
  intro ctx
  cases ctx.plan with
  | none => exact spares_throw _
  | some plan => exact spares_pure _

theorem spares_ensureStoryBound (story : StoryGeneratorOutput) (stage : TurnStage) :
    Spares id (ensureStoryBound story stage : M T Unit) := by
  apply Spares.bind spares_get
  intro ctx
  apply Spares.bind spares_throwIf
  intro _
  exact spares_throwIf

theorem spares_ensureExtractionBound (envelope : T.Envelope) (stage : TurnStage) :
    Spares id (ensureExtractionBound json envelope stage) := by
  apply Spares.bind spares_get
  intro ctx
  apply Spares.bind (spares_orThrow _ _)
  intro serialized
  exact spares_throwIf

theorem spares_ensureIssuesBound (issues : List ValidationIssue) (stage : TurnStage) :
    Spares id (ensureIssuesBound issues stage : M T Unit) := by
  apply Spares.bind spares_get
  intro ctx
  apply spares_forM
  intro issue
  exact spares_throwIf

theorem expectPhase_bind {expected : TurnPhase} {rest : Unit → M T Unit}
    {ctx next : TurnExecutionContext T} (ran : (expectPhase expected >>= rest) ctx = .ok ⟨⟩ next) :
    ctx.phase = expected ∧ rest ⟨⟩ ctx = .ok ⟨⟩ next := by
  obtain ⟨⟨⟩, middle, checked, ran⟩ := run_bind_eq_ok ran
  cases (spares_expectPhase expected).of_ok checked
  rw [expectPhase, run_get_bind] at checked
  exact ⟨not_not.mp (throwIf_eq_ok checked).1, ran⟩

/-- What comes after a check that was passed starts from the same context. -/
theorem passed {α : Type} {check : M T α} {rest : α → M T Unit} {ctx next : TurnExecutionContext T}
    (spares : Spares id check) (ran : (check >>= rest) ctx = .ok ⟨⟩ next) :
    ∃ value, check ctx = .ok value ctx ∧ rest value ctx = .ok ⟨⟩ next := by
  obtain ⟨value, middle, checked, ran⟩ := run_bind_eq_ok ran
  cases spares.of_ok checked
  exact ⟨value, checked, ran⟩

end

/-! ### What a call can do -/

section
variable {json : TurnJson T} {ctx next : TurnExecutionContext T} {call : ContextCall T}

/-- The phases before there is a story. -/
def isPreparing : TurnPhase → Bool
  | .created | .initialized | .prepared | .planned | .contextReady => true
  | _ => false

/-- Nothing of the candidate, and nothing of how the turn ends, is different. -/
structure Untouched (ctx next : TurnExecutionContext T) : Prop where
  story : next.story = ctx.story
  storyVersion : next.storyVersion = ctx.storyVersion
  extraction : next.extraction = ctx.extraction
  validation : next.validation = ctx.validation
  changeSet : next.changeSet = ctx.changeSet
  committedResult : next.committedResult = ctx.committedResult
  terminalKind : next.terminalKind = ctx.terminalKind
  terminalError : next.terminalError = ctx.terminalError

def markCall : TurnTerminalKind → TurnExecutionError → ContextCall T
  | .failed, failure => .markFailed failure
  | .cancelled, failure => .markCancelled failure
  | .conflict, failure => .markConflict failure

/-- The messages of issues are within their limit. -/
def IssuesFit (ctx : TurnExecutionContext T) (issues : List ValidationIssue) : Prop :=
  ∀ issue ∈ issues, ¬ RustText.len issue.message > ctx.budget.limits.maxValidationIssueBytes

/-- Every call that succeeds, with the phase it needs and what it leaves. -/
inductive Moves (ctx : TurnExecutionContext T) : ContextCall T → TurnExecutionContext T → Prop where
  | prepare {call : ContextCall T} {next : TurnExecutionContext T}
      (other : call.replacesStory = false) (before : isPreparing ctx.phase = true)
      (after : isPreparing next.phase = true) (untouched : Untouched ctx next) :
      Moves ctx call next
  | spend {call : ContextCall T} {next : TurnExecutionContext T}
      (other : call.replacesStory = false) (phase : next.phase = ctx.phase)
      (untouched : Untouched ctx next) : Moves ctx call next
  | generate {story : StoryGeneratorOutput} (phase : ctx.phase = .contextReady) :
      Moves ctx (.setGeneratedStory story) { ctx with
        story := some story
        storyVersion := 1
        extraction := none
        validation := none
        changeSet := none
        phase := .storyReady }
  | extract {call : ContextCall T} {envelope : T.Envelope} (other : call.replacesStory = false)
      (phase : ctx.phase = .storyReady ∨ ctx.phase = .stateReextractionRequired) :
      Moves ctx call { ctx with
        extraction := some ⟨ctx.storyVersion, envelope⟩
        validation := none
        changeSet := none
        phase := .candidateReady }
  | extractionFailed {issues : BoundedValidationIssues}
      (phase : ctx.phase = .storyReady ∨ ctx.phase = .stateReextractionRequired) :
      Moves ctx (.recordStateExtractionFailure issues) { ctx with
        extraction := none
        changeSet := none
        validation := some (.reextractState issues)
        phase := .stateReextractionRequired }
  | validated {result : ValidationResult T.ChangeSet} (phase : ctx.phase = .candidateReady)
      (short : IssuesFit ctx result.issues) :
      Moves ctx (.setValidationResult result) { ctx with
        extraction := if result.decision = .repairStory then none else ctx.extraction
        changeSet := result.intoChangeSet
        phase := result.decision.toTurnPhase
        validation := some result }
  | replaceStory {story : StoryGeneratorOutput} (phase : ctx.phase = .storyRepairRequired)
      (room : ctx.storyVersion.toNat + 1 < UInt32.size) :
      Moves ctx (.replaceStory story) { ctx with
        storyVersion := ctx.storyVersion + 1
        story := some story
        extraction := none
        validation := none
        changeSet := none
        phase := .storyReady }
  | commit {result : T.Committed} (phase : ctx.phase = .readyToCommit) :
      Moves ctx (.setCommittedResult result)
        { ctx with committedResult := some result, phase := .committed }
  | mark {kind : TurnTerminalKind} {failure : TurnExecutionError}
      (free : ctx.terminalKind = none ∨ ctx.terminalKind = some kind) :
      Moves ctx (markCall kind failure) { ctx with
        terminalKind := some kind
        phase := kind.phase
        terminalError := some failure }

theorem expectTerminal_ok {kind : TurnTerminalKind}
    (ran : expectTerminal kind ctx = .ok ⟨⟩ next) :
    ctx.terminalKind = none ∨ ctx.terminalKind = some kind := by
  rw [expectTerminal, run_get_bind] at ran
  cases set : ctx.terminalKind with
  | none => exact .inl rfl
  | some actual =>
    rw [set] at ran
    exact .inr (congrArg some (not_not.mp (throwIf_eq_ok ran).1))

theorem ensureIssuesBound_eq_ok {issues : List ValidationIssue} {stage : TurnStage} :
    ensureIssuesBound issues stage ctx = .ok ⟨⟩ ctx ↔ IssuesFit ctx issues := by
  rw [ensureIssuesBound, run_get_bind, forM_throwIf_eq_ok]
  rfl

theorem mark_moves {kind : TurnTerminalKind} {failure : TurnExecutionError}
    (ran : mark kind kind.phase failure ctx = .ok ⟨⟩ next) : Moves ctx (markCall kind failure) next := by
  obtain ⟨⟨⟩, checked, ran⟩ := passed (spares_expectTerminal kind) ran
  cases ran
  exact .mark (expectTerminal_ok checked)

theorem perform_moves (ran : perform json call ctx = .ok ⟨⟩ next) : Moves ctx call next := by
  cases call with
  | replaceActivation activation =>
    obtain ⟨phase, ran⟩ := expectPhase_bind ran
    cases ran
    exact .spend rfl rfl ⟨rfl, rfl, rfl, rfl, rfl, rfl, rfl, rfl⟩
  | setNarrativeProjection projection =>
    obtain ⟨phase, ran⟩ := expectPhase_bind ran
    cases ran
    exact .spend rfl rfl ⟨rfl, rfl, rfl, rfl, rfl, rfl, rfl, rfl⟩
  | completeInitialization =>
    obtain ⟨phase, ran⟩ := expectPhase_bind ran
    cases ran
    exact .prepare rfl (by rw [phase]; rfl) rfl ⟨rfl, rfl, rfl, rfl, rfl, rfl, rfl, rfl⟩
  | setPreparedContext snapshot baseline narrativeProjection activation =>
    obtain ⟨phase, ran⟩ := expectPhase_bind ran
    rw [run_get_bind] at ran
    obtain ⟨⟨⟩, -, ran⟩ := passed spares_throwIf ran
    cases ran
    exact .prepare rfl (by rw [phase]; rfl) rfl ⟨rfl, rfl, rfl, rfl, rfl, rfl, rfl, rfl⟩
  | setWriterPlan plan =>
    obtain ⟨phase, ran⟩ := expectPhase_bind ran
    rw [run_get_bind] at ran
    obtain ⟨serialized, -, ran⟩ := passed (spares_orThrow _ _) ran
    obtain ⟨⟨⟩, -, ran⟩ := passed spares_throwIf ran
    cases ran
    exact .prepare rfl (by rw [phase]; rfl) rfl ⟨rfl, rfl, rfl, rfl, rfl, rfl, rfl, rfl⟩
  | setRetrievedContext context =>
    obtain ⟨phase, ran⟩ := expectPhase_bind ran
    rw [run_get_bind] at ran
    obtain ⟨plan, -, ran⟩ := passed (spares_expectPlan _ _) ran
    obtain ⟨⟨⟩, -, ran⟩ := passed spares_throwIf ran
    obtain ⟨revalidated, -, ran⟩ := passed (spares_orThrow _ _) ran
    cases ran
    exact .spend rfl rfl ⟨rfl, rfl, rfl, rfl, rfl, rfl, rfl, rfl⟩
  | setCharacterDecisions decisions =>
    obtain ⟨phase, ran⟩ := expectPhase_bind ran
    rw [run_get_bind] at ran
    obtain ⟨⟨⟩, -, ran⟩ := passed spares_throwIf ran
    obtain ⟨plan, -, ran⟩ := passed (spares_expectPlan _ _) ran
    obtain ⟨⟨⟩, -, ran⟩ := passed spares_throwIf ran
    obtain ⟨⟨⟩, -, ran⟩ := passed spares_throwIf ran
    obtain ⟨⟨⟩, -, ran⟩ := passed spares_throwIf ran
    obtain ⟨⟨⟩, -, ran⟩ := passed spares_throwIf ran
    obtain ⟨⟨⟩, -, ran⟩ := passed spares_throwIf ran
    cases ran
    exact .spend rfl rfl ⟨rfl, rfl, rfl, rfl, rfl, rfl, rfl, rfl⟩
  | completeContextPreparation =>
    obtain ⟨phase, ran⟩ := expectPhase_bind ran
    cases ran
    exact .prepare rfl (by rw [phase]; rfl) rfl ⟨rfl, rfl, rfl, rfl, rfl, rfl, rfl, rfl⟩
  | skipRetrieval =>
    obtain ⟨phase, ran⟩ := expectPhase_bind ran
    cases ran
    exact .spend rfl rfl ⟨rfl, rfl, rfl, rfl, rfl, rfl, rfl, rfl⟩
  | skipCharacterThinking =>
    obtain ⟨phase, ran⟩ := expectPhase_bind ran
    obtain ⟨plan, -, ran⟩ := passed (spares_expectPlan _ _) ran
    obtain ⟨⟨⟩, -, ran⟩ := passed spares_throwIf ran
    cases ran
    exact .spend rfl rfl ⟨rfl, rfl, rfl, rfl, rfl, rfl, rfl, rfl⟩
  | setGeneratedStory story =>
    obtain ⟨phase, ran⟩ := expectPhase_bind ran
    obtain ⟨⟨⟩, -, ran⟩ := passed (spares_ensureStoryBound _ _) ran
    cases ran
    exact .generate phase
  | setStateExtraction envelope =>
    obtain ⟨phase, ran⟩ := expectPhase_bind ran
    obtain ⟨⟨⟩, -, ran⟩ := passed (spares_ensureExtractionBound _ _) ran
    cases ran
    exact .extract rfl (.inl phase)
  | recordStateExtractionFailure issues =>
    obtain ⟨⟨⟩, checked, ran⟩ := passed (spares_expectPhaseOneOf _) ran
    obtain ⟨⟨⟩, -, ran⟩ := passed (spares_ensureIssuesBound _ _) ran
    cases ran
    rw [expectPhaseOneOf, run_get_bind] at checked
    exact .extractionFailed (by simpa using not_not.mp (throwIf_eq_ok checked).1)
  | setValidationResult result =>
    obtain ⟨phase, ran⟩ := expectPhase_bind ran
    obtain ⟨⟨⟩, checked, ran⟩ := passed (spares_ensureIssuesBound _ _) ran
    have short := ensureIssuesBound_eq_ok.mp checked
    cases result <;> cases ran <;> exact .validated phase short
  | replaceStory story =>
    obtain ⟨phase, ran⟩ := expectPhase_bind ran
    obtain ⟨⟨⟩, -, ran⟩ := passed (spares_ensureStoryBound _ _) ran
    rw [run_get_bind] at ran
    obtain ⟨⟨⟩, -, ran⟩ := passed spares_throwIf ran
    obtain ⟨⟨⟩, checked, ran⟩ := passed spares_throwIf ran
    cases ran
    have bound : ctx.storyVersion.toNat < UInt32.size := ctx.storyVersion.toNat_lt
    have room := (throwIf_eq_ok checked).1
    exact .replaceStory phase (by omega)
  | replaceStateExtraction envelope =>
    obtain ⟨phase, ran⟩ := expectPhase_bind ran
    obtain ⟨⟨⟩, -, ran⟩ := passed (spares_ensureExtractionBound _ _) ran
    rw [run_get_bind] at ran
    obtain ⟨⟨⟩, -, ran⟩ := passed spares_throwIf ran
    cases ran
    exact .extract rfl (.inr phase)
  | consumeCorrectionRound kind =>
    simp only [perform, consumeCorrectionRound, zoom] at ran
    split at ran
    · cases ran
      exact .spend rfl rfl ⟨rfl, rfl, rfl, rfl, rfl, rfl, rfl, rfl⟩
    · cases ran
  | setCommittedResult result =>
    obtain ⟨phase, ran⟩ := expectPhase_bind ran
    cases ran
    exact .commit phase
  | markFailed failure => exact mark_moves ran
  | markCancelled failure => exact mark_moves ran
  | markConflict failure => exact mark_moves ran
  | lend scope =>
    cases ran
    exact .spend rfl rfl ⟨rfl, rfl, rfl, rfl, rfl, rfl, rfl, rfl⟩

theorem careful_consumeCorrectionRound (kind : CorrectionKind) :
    Careful (TurnBudget.consumeCorrectionRound kind) := by
  apply Careful.bind spares_get
  intro budget
  apply Careful.bind spares_throwIf
  intro _
  cases kind with
  | storyRepair => exact careful_set _
  | stateReextraction => exact careful_set _

theorem careful_mark (kind : TurnTerminalKind) (phase : TurnPhase) (failure : TurnExecutionError) :
    Careful (mark kind phase failure : M T Unit) :=
  Careful.bind (spares_expectTerminal kind) fun _ => careful_modify _

/-- A call that fails has changed nothing. -/
theorem perform_careful (json : TurnJson T) (call : ContextCall T) :
    Careful (perform json call) := by
  cases call with
  | replaceActivation | setNarrativeProjection | completeInitialization | completeContextPreparation
  | skipRetrieval | setCommittedResult =>
    exact Careful.bind (spares_expectPhase _) fun _ => careful_modify _
  | setPreparedContext snapshot baseline narrativeProjection activation =>
    exact Careful.bind (spares_expectPhase _) fun _ => Careful.bind spares_get fun _ =>
      Careful.bind spares_throwIf fun _ => careful_modify _
  | setWriterPlan plan =>
    exact Careful.bind (spares_expectPhase _) fun _ => Careful.bind spares_get fun _ =>
      Careful.bind (spares_orThrow _ _) fun _ => Careful.bind spares_throwIf fun _ =>
        careful_modify _
  | setRetrievedContext context =>
    exact Careful.bind (spares_expectPhase _) fun _ => Careful.bind spares_get fun _ =>
      Careful.bind (spares_expectPlan _ _) fun _ => Careful.bind spares_throwIf fun _ =>
        Careful.bind (spares_orThrow _ _) fun _ => careful_modify _
  | setCharacterDecisions decisions =>
    apply Careful.bind (spares_expectPhase _)
    intro _
    apply Careful.bind spares_get
    intro _
    apply Careful.bind spares_throwIf
    intro _
    apply Careful.bind (spares_expectPlan _ _)
    intro _
    exact Careful.bind spares_throwIf fun _ => Careful.bind spares_throwIf fun _ =>
      Careful.bind spares_throwIf fun _ => Careful.bind spares_throwIf fun _ =>
        Careful.bind spares_throwIf fun _ => careful_modify _
  | skipCharacterThinking =>
    exact Careful.bind (spares_expectPhase _) fun _ => Careful.bind (spares_expectPlan _ _) fun _ =>
      Careful.bind spares_throwIf fun _ => careful_modify _
  | setGeneratedStory story =>
    exact Careful.bind (spares_expectPhase _) fun _ =>
      Careful.bind (spares_ensureStoryBound _ _) fun _ => careful_modify _
  | setStateExtraction envelope =>
    exact Careful.bind (spares_expectPhase _) fun _ =>
      Careful.bind (spares_ensureExtractionBound _ _) fun _ => careful_modify _
  | recordStateExtractionFailure issues =>
    exact Careful.bind (spares_expectPhaseOneOf _) fun _ =>
      Careful.bind (spares_ensureIssuesBound _ _) fun _ => careful_modify _
  | setValidationResult result =>
    apply Careful.bind (spares_expectPhase _)
    intro _
    apply Careful.bind (spares_ensureIssuesBound _ _)
    intro _ ctx failure next failed
    cases result <;> cases failed
  | replaceStory story =>
    exact Careful.bind (spares_expectPhase _) fun _ =>
      Careful.bind (spares_ensureStoryBound _ _) fun _ => Careful.bind spares_get fun _ =>
        Careful.bind spares_throwIf fun _ => Careful.bind spares_throwIf fun _ => careful_modify _
  | replaceStateExtraction envelope =>
    exact Careful.bind (spares_expectPhase _) fun _ =>
      Careful.bind (spares_ensureExtractionBound _ _) fun _ => Careful.bind spares_get fun _ =>
        Careful.bind spares_throwIf fun _ => careful_modify _
  | consumeCorrectionRound kind =>
    exact careful_zoom (careful_consumeCorrectionRound kind) fun _ => rfl
  | markFailed failure => exact careful_mark _ _ _
  | markCancelled failure => exact careful_mark _ _ _
  | markConflict failure => exact careful_mark _ _ _
  | lend scope => exact careful_modify _

end

end TurnExecutionContext

end Aise.Domain
