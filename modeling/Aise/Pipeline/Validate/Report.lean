import Aise.Lib.Distinct
import Aise.Pipeline.Runtime

/-! Reading the evaluator's reply as a report. The report lists the policy's criteria
in the policy's order under the version that was asked about, and a criterion has an
issue exactly when it is not met. Scores are exact, so the source's test for a finite
score never fires; a JSON number out of range is an error of the decoder. -/
namespace Aise

structure ProposalCheckCriterion where
  name : String
  description : String

structure ProposalScoreCriterion where
  name : String
  description : String
  minScore : Rat
  maxScore : Rat
  targetScore : Rat

structure ProposalQualityPolicy where
  checks : List ProposalCheckCriterion
  scores : List ProposalScoreCriterion

structure ValidateCheckDto where
  name : String
  passed : Bool
  issue : Option String

structure ValidateScoreDto where
  name : String
  score : Rat
  issue : Option String

structure ValidateLlmOutputDto where
  checks : List ValidateCheckDto
  scores : List ValidateScoreDto

/-- What the JSON decoder reports of a text it refuses. -/
structure JsonError where
  line : Nat
  column : Nat
  message : String

namespace ValidateReport

def invalidOutput (code message : String) : PipelineError := .invalidOutput .validate code message

/-- Whether a text has another as a part of it, `str::contains`. -/
def containsChars (text part : List Char) : Bool :=
  text.tails.any part.isPrefixOf

/-- Whether the value after the first colon starts with a non-finite token. -/
def startsNonFinite (rest : List Char) : Bool :=
  match rest.dropWhile (· ≠ ':') with
  | [] => false
  | _ :: value =>
    let value := value.dropWhile RustText.isWhitespace
    "NaN".toList.isPrefixOf value || "Infinity".toList.isPrefixOf value ||
      "-Infinity".toList.isPrefixOf value

/-- The matches of `"score"` do not overlap: after one, the search goes on behind it,
with `skip` characters of the match still to pass. -/
def nonFiniteFrom (skip : Nat) : List Char → Bool
  | [] => false
  | c :: rest =>
    match skip with
    | skip + 1 => nonFiniteFrom skip rest
    | 0 =>
      if "\"score\"".toList.isPrefixOf (c :: rest) then
        startsNonFinite (rest.drop 6) || nonFiniteFrom 6 rest
      else nonFiniteFrom 0 rest

def containsNonFiniteScoreToken (raw : String) : Bool := nonFiniteFrom 0 raw.toList

def validateNameKind (name : String) (matchingKind oppositeKind : List String)
    (returnedKind : String) : Except PipelineError Unit :=
  if matchingKind.contains name then .ok ()
  else if oppositeKind.contains name then
    .error (invalidOutput "validate_criterion_kind_mismatch"
      s!"{returnedKind} {name} is configured with the opposite criterion kind")
  else .error (invalidOutput "validate_criterion_unknown"
      s!"{returnedKind} {name} is not configured")

/-- The two loops over returned names, which differ in the word for what is returned. -/
def validateNames (matchingKind oppositeKind : List String) (returnedKind : String)
    (names : List String) : Except PipelineError (List Unit) :=
  Distinct.each id (fun _ => .ok ())
    (fun name => invalidOutput "validate_criterion_duplicate"
      s!"{returnedKind} {name} appears more than once")
    (fun name => validateNameKind name matchingKind oppositeKind returnedKind) [] names

def validateReturnedNames (output : ValidateLlmOutputDto) (policy : ProposalQualityPolicy) :
    Except PipelineError Unit := do
  let configuredChecks := policy.checks.map (·.name)
  let configuredScores := policy.scores.map (·.name)
  let _ ← validateNames configuredChecks configuredScores "check" (output.checks.map (·.name))
  let _ ← validateNames configuredScores configuredChecks "score" (output.scores.map (·.name))

def validateIssue (name : String) (issue : Option String) (required : Bool)
    (maxIssueBytes : Nat) : Except PipelineError (Option BoundedText) :=
  let tooLong := invalidOutput "validate_issue_too_long"
    s!"criterion {name} issue exceeds {maxIssueBytes} bytes"
  match required, issue with
  | false, none => .ok none
  | false, some _ => .error (invalidOutput "validate_issue_unexpected"
      s!"criterion {name} must not include an issue")
  | true, none => .error (invalidOutput "validate_issue_missing"
      s!"criterion {name} requires an issue")
  | true, some issue =>
    if RustText.isBlank issue then
      .error (invalidOutput "validate_issue_missing" s!"criterion {name} requires a non-empty issue")
    else if RustText.len (RustText.trim issue) > maxIssueBytes then .error tooLong
    else match BoundedText.tryNew (RustText.trim issue) "validation_issue" maxIssueBytes with
      | .ok text => .ok (some text)
      | .error _ => .error tooLong

/-- The results are looked up by name, each taken out of the map once it is used. -/
def reportChecks (maxIssueBytes : Nat) (results : Std.ExtTreeMap String ValidateCheckDto) :
    List ProposalCheckCriterion → Except PipelineError (List ValidationCheckResult)
  | [] => .ok []
  | criterion :: rest =>
    match results[criterion.name]? with
    | none => .error (invalidOutput "validate_check_count_mismatch"
        s!"configured check {criterion.name} is missing")
    | some result => do
      let issue ← validateIssue result.name result.issue (!result.passed) maxIssueBytes
      let others ← reportChecks maxIssueBytes (results.erase criterion.name) rest
      return { name := criterion.name, description := criterion.description
               passed := result.passed, issue } :: others

def reportScores (maxIssueBytes : Nat) (results : Std.ExtTreeMap String ValidateScoreDto) :
    List ProposalScoreCriterion → Except PipelineError (List ValidationScoreResult)
  | [] => .ok []
  | criterion :: rest =>
    match results[criterion.name]? with
    | none => .error (invalidOutput "validate_score_count_mismatch"
        s!"configured score {criterion.name} is missing")
    | some result => do
      rejectIf (result.score < criterion.minScore || result.score > criterion.maxScore)
        (invalidOutput "validate_score_out_of_range"
          s!"score {result.name} is outside configured range [{criterion.minScore}, {criterion.maxScore}]")
      let issue ← validateIssue result.name result.issue
        (result.score < criterion.targetScore) maxIssueBytes
      let others ← reportScores maxIssueBytes (results.erase criterion.name) rest
      return { name := criterion.name, description := criterion.description
               minScore := criterion.minScore, maxScore := criterion.maxScore
               targetScore := criterion.targetScore, score := result.score, issue } :: others

def invalidJson (raw : String) (error : JsonError) : PipelineError :=
  let code :=
    if containsChars error.message.toList "number out of range".toList ||
        containsNonFiniteScoreToken raw then "validate_score_non_finite"
    else "validate_output_invalid_json"
  invalidOutput code s!"invalid validation JSON at line {error.line} column {error.column}"

def byName (name : α → String) (results : List α) : Std.ExtTreeMap String α :=
  results.foldl (fun map result => map.insert (name result) result) ∅

def parseValidationReport (fromStr : String → Except JsonError ValidateLlmOutputDto)
    (raw : String) (proposalVersion : UInt32) (policy : ProposalQualityPolicy)
    (maxIssueBytes : Nat) : Except PipelineError ValidationReport :=
  match fromStr raw with
  | .error error => .error (invalidJson raw error)
  | .ok output => do
    validateReturnedNames output policy
    rejectIf (output.checks.length ≠ policy.checks.length)
      (invalidOutput "validate_check_count_mismatch"
        s!"returned check count {output.checks.length} does not match configured count {policy.checks.length}")
    rejectIf (output.scores.length ≠ policy.scores.length)
      (invalidOutput "validate_score_count_mismatch"
        s!"returned score count {output.scores.length} does not match configured count {policy.scores.length}")
    let checks ← reportChecks maxIssueBytes (byName (·.name) output.checks) policy.checks
    let scores ← reportScores maxIssueBytes (byName (·.name) output.scores) policy.scores
    return { proposalVersion, checks, scores }

end ValidateReport

/-- Every criterion that is not met says what is wrong. -/
structure ValidationReport.Explained (report : ValidationReport) : Prop where
  checks : ∀ check ∈ report.checks, check.passed = false → check.issue.isSome = true
  scores : ∀ score ∈ report.scores, score.score < score.targetScore → score.issue.isSome = true

namespace ValidateReport

theorem validateIssue_required
    (validated : validateIssue name issue required maxIssueBytes = .ok result)
    (unmet : required = true) : result.isSome = true := by
  subst unmet
  cases issue with
  | none => cases validated
  | some text =>
    simp only [validateIssue] at validated
    split at validated
    · cases validated
    · split at validated
      · cases validated
      · split at validated
        · cases validated
          rfl
        · cases validated

theorem reportChecks_explained
    (reported : reportChecks maxIssueBytes results criteria = .ok checks) :
    ∀ check ∈ checks, check.passed = false → check.issue.isSome = true := by
  induction criteria generalizing results checks with
  | nil =>
    cases reported
    simp
  | cons criterion rest ih =>
    simp only [reportChecks] at reported
    split at reported
    · cases reported
    · obtain ⟨issue, explained, reported⟩ := Result.bind_eq_ok reported
      obtain ⟨others, later, reported⟩ := Result.bind_eq_ok reported
      cases reported
      refine List.forall_mem_cons.mpr ⟨?_, ih later⟩
      intro failed
      exact validateIssue_required explained (by simpa using failed)

theorem reportScores_explained
    (reported : reportScores maxIssueBytes results criteria = .ok scores) :
    ∀ score ∈ scores, score.score < score.targetScore → score.issue.isSome = true := by
  induction criteria generalizing results scores with
  | nil =>
    cases reported
    simp
  | cons criterion rest ih =>
    simp only [reportScores] at reported
    split at reported
    · cases reported
    · obtain ⟨_, _, reported⟩ := Result.bind_eq_ok reported
      obtain ⟨issue, explained, reported⟩ := Result.bind_eq_ok reported
      obtain ⟨others, later, reported⟩ := Result.bind_eq_ok reported
      cases reported
      refine List.forall_mem_cons.mpr ⟨?_, ih later⟩
      intro unmet
      exact validateIssue_required explained (by simpa using unmet)

/-- An accepted reply is a report on the version it was asked about. -/
theorem parseValidationReport_ok
    (parsed : parseValidationReport fromStr raw version policy maxIssueBytes = .ok report) :
    report.proposalVersion = version ∧ report.Explained := by
  simp only [parseValidationReport] at parsed
  split at parsed
  · cases parsed
  · obtain ⟨_, _, parsed⟩ := Result.bind_eq_ok parsed
    obtain ⟨_, _, parsed⟩ := Result.bind_eq_ok parsed
    obtain ⟨_, _, parsed⟩ := Result.bind_eq_ok parsed
    obtain ⟨checks, reportedChecks, parsed⟩ := Result.bind_eq_ok parsed
    obtain ⟨scores, reportedScores, parsed⟩ := Result.bind_eq_ok parsed
    cases parsed
    exact ⟨rfl, reportChecks_explained reportedChecks, reportScores_explained reportedScores⟩

/-- Every way to refuse a reply is an invalid output of the validate stage. -/
def Refusal (error : PipelineError) : Prop :=
  ∃ code message, error = .invalidOutput .validate code message

theorem rejectIf_refusal (failed : rejectIf condition (invalidOutput code message) = .error error) :
    Refusal error := by
  cases condition with
  | false => cases failed
  | true =>
    cases failed
    exact ⟨code, message, rfl⟩

theorem validateNameKind_refusal
    (failed : validateNameKind name matchingKind oppositeKind returnedKind = .error error) :
    Refusal error := by
  simp only [validateNameKind] at failed
  split at failed
  · cases failed
  · split at failed
    · cases failed
      exact ⟨_, _, rfl⟩
    · cases failed
      exact ⟨_, _, rfl⟩

theorem validateNames_refusal
    (failed : validateNames matchingKind oppositeKind returnedKind names = .error error) :
    Refusal error := by
  obtain ⟨name, _, before | rfl | unknown⟩ := Distinct.each_error failed
  · cases before
  · exact ⟨_, _, rfl⟩
  · exact validateNameKind_refusal unknown

theorem validateIssue_refusal
    (failed : validateIssue name issue required maxIssueBytes = .error error) : Refusal error := by
  cases required <;> cases issue
  case false.none => cases failed
  case false.some | true.none =>
    cases failed
    exact ⟨_, _, rfl⟩
  case true.some text =>
    simp only [validateIssue] at failed
    split at failed
    · cases failed
      exact ⟨_, _, rfl⟩
    · split at failed
      · cases failed
        exact ⟨_, _, rfl⟩
      · split at failed
        · cases failed
        · cases failed
          exact ⟨_, _, rfl⟩

theorem reportChecks_refusal
    (failed : reportChecks maxIssueBytes results criteria = .error error) : Refusal error := by
  induction criteria generalizing results with
  | nil => cases failed
  | cons criterion rest ih =>
    simp only [reportChecks] at failed
    split at failed
    · cases failed
      exact ⟨_, _, rfl⟩
    · rcases Result.bind_eq_error failed with issue | ⟨_, _, failed⟩
      · exact validateIssue_refusal issue
      · rcases Result.bind_eq_error failed with later | ⟨_, _, failed⟩
        · exact ih later
        · cases failed

theorem reportScores_refusal
    (failed : reportScores maxIssueBytes results criteria = .error error) : Refusal error := by
  induction criteria generalizing results with
  | nil => cases failed
  | cons criterion rest ih =>
    simp only [reportScores] at failed
    split at failed
    · cases failed
      exact ⟨_, _, rfl⟩
    · rcases Result.bind_eq_error failed with range | ⟨_, _, failed⟩
      · exact rejectIf_refusal range
      · rcases Result.bind_eq_error failed with issue | ⟨_, _, failed⟩
        · exact validateIssue_refusal issue
        · rcases Result.bind_eq_error failed with later | ⟨_, _, failed⟩
          · exact ih later
          · cases failed

theorem parseValidationReport_refusal
    (failed : parseValidationReport fromStr raw version policy maxIssueBytes = .error error) :
    Refusal error := by
  simp only [parseValidationReport] at failed
  split at failed
  · cases failed
    exact ⟨_, _, rfl⟩
  · rcases Result.bind_eq_error failed with names | ⟨_, _, failed⟩
    · rcases Result.bind_eq_error names with checks | ⟨_, _, names⟩
      · exact validateNames_refusal checks
      · rcases Result.bind_eq_error names with scores | ⟨_, _, names⟩
        · exact validateNames_refusal scores
        · cases names
    · rcases Result.bind_eq_error failed with count | ⟨_, _, failed⟩
      · exact rejectIf_refusal count
      · rcases Result.bind_eq_error failed with count | ⟨_, _, failed⟩
        · exact rejectIf_refusal count
        · rcases Result.bind_eq_error failed with checks | ⟨_, _, failed⟩
          · exact reportChecks_refusal checks
          · rcases Result.bind_eq_error failed with scores | ⟨_, _, failed⟩
            · exact reportScores_refusal scores
            · cases failed

end ValidateReport
end Aise
