import Aise.Pipeline.Validate.Report

/-! The criteria a proposal is judged by, and the checks on them when the configuration is read.
Scores are exact here too, so the source's test for values that are not finite never fires. -/
namespace Aise

/-- The guidance goes into the prompt; the reader of the reply has no use for it. -/
structure ConfiguredScore extends ProposalScoreCriterion where
  targetGuidance : String

structure ValidateConfig where
  checks : List ProposalCheckCriterion
  scores : List ConfiguredScore
  maxIssueBytes : Nat

namespace ValidateConfig

def maxValidateChecks : Nat := 16
def maxValidateScores : Nat := 16
def maxCriterionNameBytes : Nat := 64
def maxCriterionDescriptionBytes : Nat := 2 * 1024
def maxTargetGuidanceBytes : Nat := 2 * 1024
def maxIssueBytesLimit : Nat := 16 * 1024

def invalidConfig (code message : String) : PipelineError := .invalidConfig .validate code message

def validateTextFields (name description criterionKind : String) (index : Nat) :
    Except PipelineError Unit := do
  rejectIf (name == "") (invalidConfig "validate_criterion_name_empty"
    s!"{criterionKind} criterion at index {index} has an empty name")
  rejectIf (RustText.len name > maxCriterionNameBytes) (invalidConfig
    "validate_criterion_name_too_long"
    s!"{criterionKind} criterion at index {index} has a name exceeding {maxCriterionNameBytes} bytes")
  rejectIf (RustText.isBlank description) (invalidConfig "validate_criterion_description_empty"
    s!"{criterionKind} criterion at index {index} has an empty description")
  rejectIf (RustText.len (RustText.trim description) > maxCriterionDescriptionBytes) (invalidConfig
    "validate_criterion_description_too_long"
    s!"{criterionKind} criterion at index {index} has a description exceeding {maxCriterionDescriptionBytes} bytes")

/-- What is checked of a score once its name is known to be new. -/
def validateScore (score : ConfiguredScore) (index : Nat) : Except PipelineError Unit := do
  rejectIf (score.minScore ≥ score.maxScore || score.targetScore < score.minScore ||
      score.targetScore > score.maxScore) (invalidConfig "validate_score_range_invalid"
    s!"score criterion at index {index} has an invalid range or target")
  rejectIf (RustText.isBlank score.targetGuidance) (invalidConfig
    "validate_score_target_guidance_empty"
    s!"score criterion at index {index} has empty target guidance")
  rejectIf (RustText.len (RustText.trim score.targetGuidance) > maxTargetGuidanceBytes)
    (invalidConfig "validate_score_target_guidance_too_long"
    s!"score criterion at index {index} has target guidance exceeding {maxTargetGuidanceBytes} bytes")

/-- The two loops share the set of names. -/
def validateNames (kind : String) (name description : α → String)
    (validate : α → Nat → Except PipelineError Unit) (names : List String) (criteria : List α) :
    Except PipelineError (List Unit) :=
  Distinct.each (fun item => name item.1)
    (fun item => validateTextFields (name item.1) (description item.1) kind item.2)
    (fun item => invalidConfig "validate_criterion_name_duplicate"
      s!"{kind} criterion at index {item.2} has a duplicate name")
    (fun item => validate item.1 item.2) names criteria.zipIdx

def validate (config : ValidateConfig) : Except PipelineError Unit := do
  rejectIf (config.checks.isEmpty && config.scores.isEmpty) (invalidConfig
    "validate_criteria_empty" "at least one validation criterion is required")
  rejectIf (config.checks.length > maxValidateChecks) (invalidConfig "validate_checks_too_many"
    s!"check count exceeds {maxValidateChecks}")
  rejectIf (config.scores.length > maxValidateScores) (invalidConfig "validate_scores_too_many"
    s!"score count exceeds {maxValidateScores}")
  let _ ← validateNames "check" (·.name) (·.description) (fun _ _ => .ok ()) [] config.checks
  let _ ← validateNames "score" (·.name) (·.description) validateScore
    (config.checks.map (·.name)) config.scores
  rejectIf (config.maxIssueBytes < 1 || config.maxIssueBytes > maxIssueBytesLimit) (invalidConfig
    "validate_max_issue_bytes_invalid"
    s!"max_issue_bytes must be between 1 and {maxIssueBytesLimit}")

def qualityPolicy (config : ValidateConfig) : ProposalQualityPolicy where
  checks := config.checks
  scores := config.scores.map (·.toProposalScoreCriterion)

theorem validateNames_distinct {kind : String} {name description : α → String}
    {validate : α → Nat → Except PipelineError Unit} {names : List String} {criteria : List α}
    (validated : validateNames kind name description validate names criteria = .ok results) :
    (criteria.map name).Nodup := by
  have distinct := (Distinct.each_ok_iff.mp validated).1.1
  have same : criteria.zipIdx.map (fun item => name item.1) = criteria.map name := by
    rw [← List.zipIdx_map_fst 0 criteria, List.map_map, List.zipIdx_map_fst]
    rfl
  rwa [same] at distinct

/-- No name stands twice among the checks or among the scores of an accepted configuration. -/
theorem validate_distinct {config : ValidateConfig} (accepted : config.validate = .ok ()) :
    (config.qualityPolicy.checks.map (·.name)).Nodup ∧
      (config.qualityPolicy.scores.map (·.name)).Nodup := by
  rw [validate] at accepted
  obtain ⟨_, accepted⟩ := Result.check_bind_eq_ok.mp accepted
  obtain ⟨_, accepted⟩ := Result.check_bind_eq_ok.mp accepted
  obtain ⟨_, accepted⟩ := Result.check_bind_eq_ok.mp accepted
  obtain ⟨_, checks, accepted⟩ := Result.bind_eq_ok accepted
  obtain ⟨_, scores, _⟩ := Result.bind_eq_ok accepted
  refine ⟨validateNames_distinct checks, ?_⟩
  have distinct := validateNames_distinct scores
  rwa [qualityPolicy, List.map_map]

end ValidateConfig
end Aise
