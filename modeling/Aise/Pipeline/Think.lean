import Aise.Pipeline.Plan

/-! Character thinking: one decision for each request, in the order of the requests
whatever order the answers come in. -/
namespace Aise

structure ThinkConfig where
  maxDecisionBytes : Nat := 512
  maxSuggestedUtteranceBytes : Nat := 512
  maxTotalOutputBytes : Nat := 1024

structure CharacterDecisionDto where
  decision : String
  suggestedUtterance : Option String

namespace Think

def inconsistent (code message : String) : PipelineError := .inconsistentData .think code message

def invalid (code message : String) : PipelineError := .invalidOutput .think code message

def bounded (value field : String) (maximumBytes : Nat) (code : String) :
    Except PipelineError BoundedText :=
  match BoundedText.tryNew value field maximumBytes with
  | .ok text => .ok text
  | .error error => .error (invalid code error.display)

def boundedUtterance (config : ThinkConfig) : Option String → Except PipelineError (Option BoundedText)
  | none => .ok none
  | some value => do
    return some (← bounded value "suggested_utterance" config.maxSuggestedUtteranceBytes
      "think_suggested_utterance_too_long")

def parseCharacterDecision (fromStr : String → Except JsonError CharacterDecisionDto)
    (raw : String) (roleId : RoleId) (config : ThinkConfig) :
    Except PipelineError CharacterDecision :=
  match fromStr raw with
  | .error error => .error (invalid "think_output_invalid_json" error.message)
  | .ok dto => do
    let decision := RustText.trim dto.decision
    rejectIf (decision = "") (invalid "think_decision_empty" "decision must not be empty")
    rejectIf (RustText.len decision > config.maxDecisionBytes) (invalid "think_decision_too_long"
      s!"decision size {RustText.len decision} exceeds maximum {config.maxDecisionBytes}")
    let suggestedUtterance := dto.suggestedUtterance.map RustText.trim
    rejectIf (suggestedUtterance = some "") (invalid "think_suggested_utterance_empty"
      "suggested utterance must not be empty")
    let utteranceBytes := (suggestedUtterance.map RustText.len).getD 0
    rejectIf (suggestedUtterance.any (RustText.len · > config.maxSuggestedUtteranceBytes))
      (invalid "think_suggested_utterance_too_long"
        s!"suggested utterance size {utteranceBytes} exceeds maximum {config.maxSuggestedUtteranceBytes}")
    let totalBytes := RustText.len decision + utteranceBytes
    rejectIf (totalBytes > config.maxTotalOutputBytes) (invalid "think_output_too_long"
      s!"combined output size {totalBytes} exceeds maximum {config.maxTotalOutputBytes}")
    let decision ← bounded decision "decision" config.maxDecisionBytes "think_decision_too_long"
    let suggestedUtterance ← boundedUtterance config suggestedUtterance
    return { roleId, decision, suggestedUtterance }

def resolveRequest (context : StoryContext) (request : CharacterThinkRequest) :
    Except PipelineError RoleEntry :=
  match context.roles[request.roleId]? with
  | some role => .ok role
  | none => .error (inconsistent "think_resolved_role_missing"
      s!"role ID {request.roleId} is missing from the story context")

def validateRequest (context : StoryContext) (request : CharacterThinkRequest) :
    Except PipelineError RoleEntry := do
  rejectIf (request.roleId = context.player) (inconsistent "think_player_role_forbidden"
    s!"Character Think request targets player role {request.roleId}")
  resolveRequest context request

def validateInput (input : ThinkInput) (context : StoryContext) :
    Except PipelineError (List RoleEntry) :=
  Distinct.each CharacterThinkRequest.roleId (fun _ => .ok ())
    (fun request => inconsistent "think_duplicate_request_role_id"
      s!"duplicate Character Think request for role {request.roleId}")
    (validateRequest context) [] input.requests

end Think

structure ThinkPipeline where
  ask : CharacterThinkRequest → RoleEntry → ThinkInput → StoryContext → Except AskError String
  fromStr : String → Except JsonError CharacterDecisionDto
  config : ThinkConfig

namespace ThinkPipeline

def decideRole (pipeline : ThinkPipeline) (request : CharacterThinkRequest) (role : RoleEntry)
    (input : ThinkInput) (context : StoryContext) : Except PipelineError CharacterDecision :=
  match pipeline.ask request role input context with
  | .error error => .error (error.at .think)
  | .ok raw => Think.parseCharacterDecision pipeline.fromStr raw request.roleId pipeline.config

/-- `buffered` runs several requests at a time and keeps their order. -/
def think (pipeline : ThinkPipeline) (input : ThinkInput) (context : StoryContext) :
    Except PipelineError (List CharacterDecision) := do
  let _ ← Think.validateInput input context
  input.requests.mapM fun request => do
    let role ← Think.resolveRequest context request
    pipeline.decideRole request role input context

theorem decideRole_roleId {pipeline : ThinkPipeline}
    (decided : pipeline.decideRole request role input context = .ok decision) :
    decision.roleId = request.roleId := by
  simp only [decideRole] at decided
  split at decided
  · cases decided
  · simp only [Think.parseCharacterDecision] at decided
    split at decided
    · cases decided
    · obtain ⟨_, _, decided⟩ := Result.bind_eq_ok decided
      obtain ⟨_, _, decided⟩ := Result.bind_eq_ok decided
      obtain ⟨_, _, decided⟩ := Result.bind_eq_ok decided
      obtain ⟨_, _, decided⟩ := Result.bind_eq_ok decided
      obtain ⟨_, _, decided⟩ := Result.bind_eq_ok decided
      obtain ⟨_, _, decided⟩ := Result.bind_eq_ok decided
      obtain ⟨_, _, decided⟩ := Result.bind_eq_ok decided
      cases decided
      rfl

theorem roleIds_of_forall₂
    (each : List.Forall₂ (fun (request : CharacterThinkRequest) (decision : CharacterDecision) =>
      decision.roleId = request.roleId) requests decisions) :
    decisions.map (·.roleId) = requests.map (·.roleId) := by
  induction each with
  | nil => rfl
  | cons same _ ih => rw [List.map_cons, List.map_cons, same, ih]

/-- The decisions answer the requests one by one. -/
theorem think_roleIds {pipeline : ThinkPipeline}
    (thought : pipeline.think input context = .ok decisions) :
    decisions.map (·.roleId) = input.requests.map (·.roleId) := by
  obtain ⟨_, _, thought⟩ := Result.bind_eq_ok thought
  apply roleIds_of_forall₂
  refine (Result.mapM_eq_ok thought).imp fun request decision answered => ?_
  obtain ⟨role, _, decided⟩ := Result.bind_eq_ok answered
  exact decideRole_roleId decided

end ThinkPipeline
end Aise
