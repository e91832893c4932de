import Aise.Pipeline.RepairOutcome
import Aise.Pipeline.Validate.Config

/-! Which replies of the evaluator are accepted. The reader goes over names, counts, ranges and
issues in loops of their own; together they ask for exactly one answer to each criterion, which
says what is wrong when it is not met and only then. -/
namespace Aise
namespace ValidateReport

/-- An item that fails has a text of bounded length, and an item that passes has none. -/
def IssueFits (failed : Bool) (maxIssueBytes : Nat) : Option String → Prop
  | none => failed = false
  | some issue => failed = true ∧ RustText.isBlank issue = false ∧
      RustText.len (RustText.trim issue) ≤ maxIssueBytes

/-- A score in its range, with an issue exactly when it misses its target. -/
def ScoreFits (maxIssueBytes : Nat) (criterion : ProposalScoreCriterion)
    (score : ValidateScoreDto) : Prop :=
  criterion.minScore ≤ score.score ∧ score.score ≤ criterion.maxScore ∧
    IssueFits (score.score < criterion.targetScore) maxIssueBytes score.issue

/-- The answers are to the criteria of the policy, one to each. -/
structure WellFormed (policy : ProposalQualityPolicy) (maxIssueBytes : Nat)
    (output : ValidateLlmOutputDto) : Prop where
  checkNames : (output.checks.map (·.name)).Perm (policy.checks.map (·.name))
  scoreNames : (output.scores.map (·.name)).Perm (policy.scores.map (·.name))
  checks : ∀ check ∈ output.checks, IssueFits (!check.passed) maxIssueBytes check.issue
  scores : ∀ criterion ∈ policy.scores, ∀ score ∈ output.scores, score.name = criterion.name →
    ScoreFits maxIssueBytes criterion score

def trimmedIssue (issue : Option String) : Option BoundedText :=
  issue.map fun issue => ⟨RustText.trim issue⟩

/-- A criterion as the policy has it, with the answer to it. -/
def checkReport (criterion : ProposalCheckCriterion) (check : ValidateCheckDto) :
    ValidationCheckResult where
  name := criterion.name
  description := criterion.description
  passed := check.passed
  issue := trimmedIssue check.issue

def scoreReport (criterion : ProposalScoreCriterion) (score : ValidateScoreDto) :
    ValidationScoreResult where
  name := criterion.name
  description := criterion.description
  minScore := criterion.minScore
  maxScore := criterion.maxScore
  targetScore := criterion.targetScore
  score := score.score
  issue := trimmedIssue score.issue

/-- The criteria in the order of the policy, each with the answer that has its name. -/
structure Reports (policy : ProposalQualityPolicy) (output : ValidateLlmOutputDto)
    (report : ValidationReport) : Prop where
  checks : List.Forall₂ (fun criterion result => ∃ check ∈ output.checks,
    check.name = criterion.name ∧ result = checkReport criterion check) policy.checks report.checks
  scores : List.Forall₂ (fun criterion result => ∃ score ∈ output.scores,
    score.name = criterion.name ∧ result = scoreReport criterion score) policy.scores report.scores

theorem validateIssue_ok_iff {name : String} {issue : Option String} {required : Bool}
    {maxIssueBytes : Nat} {result : Option BoundedText} :
    validateIssue name issue required maxIssueBytes = .ok result ↔
      IssueFits required maxIssueBytes issue ∧
        result = trimmedIssue issue := by
  cases issue with
  | none => cases required <;> simp [validateIssue, trimmedIssue, IssueFits, eq_comm]
  | some issue =>
    cases required with
    | false => simp [validateIssue, trimmedIssue, IssueFits]
    | true =>
      simp only [validateIssue, trimmedIssue, IssueFits, BoundedText.tryNew]
      by_cases blank : RustText.isBlank issue = true
      · simp [blank]
      · by_cases long : RustText.len (RustText.trim issue) > maxIssueBytes
        · simp [blank, long]
        · simp [blank, long, Nat.not_lt.mp long, eq_comm]

theorem validateNameKind_ok_iff {name : String} {matchingKind oppositeKind : List String}
    {returnedKind : String} :
    validateNameKind name matchingKind oppositeKind returnedKind = .ok () ↔
      name ∈ matchingKind := by
  by_cases known : name ∈ matchingKind
  · simp [validateNameKind, known]
  · by_cases opposite : name ∈ oppositeKind
    · simp [validateNameKind, known, opposite]
    · simp [validateNameKind, known, opposite]

theorem validateNames_ok_iff {matchingKind oppositeKind : List String} {returnedKind : String}
    {names : List String} :
    (∃ results, validateNames matchingKind oppositeKind returnedKind names = .ok results) ↔
      names.Nodup ∧ ∀ name ∈ names, name ∈ matchingKind := by
  constructor
  · rintro ⟨results, validated⟩
    refine ⟨by simpa using Distinct.each_distinct validated, fun name member => ?_⟩
    obtain ⟨_, known⟩ := Distinct.each_checked validated name member
    exact validateNameKind_ok_iff.mp known
  · rintro ⟨distinct, known⟩
    exact Distinct.each_total (by simpa using distinct) (by simp) fun name member =>
      ⟨(), validateNameKind_ok_iff.mpr (known name member)⟩

/-- Distinct names of a policy that are as many as it has are all of its names. -/
theorem names_perm_iff {names configured : List String} (distinct : configured.Nodup) :
    names.Perm configured ↔
      (names.Nodup ∧ ∀ name ∈ names, name ∈ configured) ∧ names.length = configured.length := by
  constructor
  · intro perm
    exact ⟨⟨perm.nodup_iff.mpr distinct, fun _ => perm.mem_iff.mp⟩, perm.length_eq⟩
  · rintro ⟨⟨once, known⟩, length⟩
    exact (List.subperm_of_subset once known).perm_of_length_le length.ge

/-! ### Answers by name -/

section
variable {I C V : Type} {itemName : I → String} {criterionName : C → String} {items : List I}
  {criteria : List C}

theorem byName_get_iff (distinct : (items.map itemName).Nodup) {name : String} {item : I} :
    (byName itemName items)[name]? = some item ↔ item ∈ items ∧ itemName item = name := by
  have stored {other : I} (found : (byName itemName items)[name]? = some other) :
      other ∈ items ∧ itemName other = name := by
    rcases OrdMap.get_insertAll itemName items found with here | ⟨_, empty⟩
    · exact here
    · simp at empty
  constructor
  · exact stored
  · rintro ⟨member, rfl⟩
    have known : itemName item ∈ byName itemName items :=
      (OrdMap.mem_insertAll itemName items _).mpr (.inl (List.mem_map_of_mem member))
    obtain ⟨other, found⟩ := OrdMap.mem_iff_exists.mp known
    obtain ⟨among, same⟩ := stored found
    rw [found, List.inj_on_of_nodup_map distinct among member same]

/-- Looking up one answer for each criterion looks at all there are for it. -/
theorem each_found_iff (distinct : (items.map itemName).Nodup) {Good : C → I → Prop}
    {report : C → I → V} {reports : List V} :
    List.Forall₂ (fun criterion result => ∃ item,
        (byName itemName items)[criterionName criterion]? = some item ∧ Good criterion item ∧
          result = report criterion item) criteria reports ↔
      (∀ criterion ∈ criteria, ∀ item ∈ items, itemName item = criterionName criterion →
        Good criterion item) ∧
      List.Forall₂ (fun criterion result => ∃ item ∈ items,
        itemName item = criterionName criterion ∧ result = report criterion item)
        criteria reports := by
  rw [← List.forall₂_and_left]
  refine iff_of_eq (congrArg (List.Forall₂ · criteria reports) ?_)
  funext criterion result
  simp only [byName_get_iff distinct]
  refine propext ⟨?_, ?_⟩
  · rintro ⟨item, ⟨member, same⟩, good, rfl⟩
    refine ⟨fun other among also => ?_, item, member, same, rfl⟩
    rwa [List.inj_on_of_nodup_map distinct among member (also.trans same.symm)]
  · rintro ⟨good, item, member, same, rfl⟩
    exact ⟨item, ⟨member, same⟩, good item member same, rfl⟩

/-- Every criterion has an answer to report. -/
theorem each_reported (perm : (items.map itemName).Perm (criteria.map criterionName))
    (report : C → I → V) :
    ∃ reports, List.Forall₂ (fun criterion result => ∃ item ∈ items,
      itemName item = criterionName criterion ∧ result = report criterion item)
      criteria reports := by
  refine Result.forall₂_total fun criterion member => ?_
  obtain ⟨item, among, same⟩ := List.mem_map.mp (perm.mem_iff.mpr (List.mem_map_of_mem member))
  exact ⟨_, item, among, same, rfl⟩

end

section
variable {maxIssueBytes : Nat}

/-- Taking out one criterion's result leaves those of the criteria that follow. -/
theorem lookups_later {results table : Std.ExtTreeMap String V} {name : α → String} {rest : List α}
    (fresh : name criterion ∉ rest.map name)
    (later : ∀ other ∈ rest, results[name other]? = table[name other]?) :
    ∀ other ∈ rest, (results.erase (name criterion))[name other]? = table[name other]? := by
  intro other member
  rw [OrdMap.get_erase, if_neg, later other member]
  exact fun same => fresh (same ▸ List.mem_map_of_mem member)

theorem reportChecks_ok_iff {table results : Std.ExtTreeMap String ValidateCheckDto}
    {criteria : List ProposalCheckCriterion} {reports : List ValidationCheckResult}
    (distinct : (criteria.map (·.name)).Nodup)
    (left : ∀ criterion ∈ criteria, results[criterion.name]? = table[criterion.name]?) :
    reportChecks maxIssueBytes results criteria = .ok reports ↔
      List.Forall₂ (fun criterion result => ∃ check, table[criterion.name]? = some check ∧
        IssueFits (!check.passed) maxIssueBytes check.issue ∧
          result = checkReport criterion check) criteria reports := by
  induction criteria generalizing results reports with
  | nil => simp [reportChecks, eq_comm]
  | cons criterion rest ih =>
    obtain ⟨here, later⟩ := List.forall_mem_cons.mp left
    rw [List.map_cons, List.nodup_cons] at distinct
    have others := lookups_later distinct.1 later
    rw [reportChecks, here, List.forall₂_cons_left_iff]
    cases found : table[criterion.name]? with
    | none => simp
    | some check =>
      constructor
      · intro reported
        obtain ⟨issue, validated, reported⟩ := Result.bind_eq_ok reported
        obtain ⟨after, next, reported⟩ := Result.bind_eq_ok reported
        obtain ⟨fits, rfl⟩ := validateIssue_ok_iff.mp validated
        cases reported
        exact ⟨_, _, ⟨check, rfl, fits, rfl⟩, (ih distinct.2 others).mp next, rfl⟩
      · rintro ⟨_, after, ⟨_, ⟨⟩, fits, rfl⟩, next, rfl⟩
        simp only [validateIssue_ok_iff.mpr ⟨fits, rfl⟩, bind, Except.bind,
          (ih distinct.2 others).mpr next]
        rfl

theorem reportScores_ok_iff {table results : Std.ExtTreeMap String ValidateScoreDto}
    {criteria : List ProposalScoreCriterion} {reports : List ValidationScoreResult}
    (distinct : (criteria.map (·.name)).Nodup)
    (left : ∀ criterion ∈ criteria, results[criterion.name]? = table[criterion.name]?) :
    reportScores maxIssueBytes results criteria = .ok reports ↔
      List.Forall₂ (fun criterion result => ∃ score, table[criterion.name]? = some score ∧
        ScoreFits maxIssueBytes criterion score ∧
          result = scoreReport criterion score) criteria reports := by
  induction criteria generalizing results reports with
  | nil => simp [reportScores, eq_comm]
  | cons criterion rest ih =>
    obtain ⟨here, later⟩ := List.forall_mem_cons.mp left
    rw [List.map_cons, List.nodup_cons] at distinct
    have others := lookups_later distinct.1 later
    rw [reportScores, here, List.forall₂_cons_left_iff]
    cases found : table[criterion.name]? with
    | none => simp
    | some score =>
      dsimp only
      rw [Result.check_bind_eq_ok, rejectIf_ok_iff]
      have range : (decide (score.score < criterion.minScore) ||
          decide (score.score > criterion.maxScore)) = false ↔
          criterion.minScore ≤ score.score ∧ score.score ≤ criterion.maxScore := by
        simp
      constructor
      · rintro ⟨inside, reported⟩
        obtain ⟨issue, validated, reported⟩ := Result.bind_eq_ok reported
        obtain ⟨after, next, reported⟩ := Result.bind_eq_ok reported
        obtain ⟨fits, rfl⟩ := validateIssue_ok_iff.mp validated
        obtain ⟨least, most⟩ := range.mp inside
        cases reported
        exact ⟨_, _, ⟨score, rfl, ⟨least, most, fits⟩, rfl⟩, (ih distinct.2 others).mp next, rfl⟩
      · rintro ⟨_, after, ⟨_, ⟨⟩, ⟨least, most, fits⟩, rfl⟩, next, rfl⟩
        refine ⟨range.mpr ⟨least, most⟩, ?_⟩
        simp only [validateIssue_ok_iff.mpr ⟨fits, rfl⟩, bind, Except.bind,
          (ih distinct.2 others).mpr next]
        rfl

theorem validateReturnedNames_ok_iff {output : ValidateLlmOutputDto}
    {policy : ProposalQualityPolicy} :
    validateReturnedNames output policy = .ok () ↔
      ((output.checks.map (·.name)).Nodup ∧
        ∀ name ∈ output.checks.map (·.name), name ∈ policy.checks.map (·.name)) ∧
      ((output.scores.map (·.name)).Nodup ∧
        ∀ name ∈ output.scores.map (·.name), name ∈ policy.scores.map (·.name)) := by
  rw [← validateNames_ok_iff, ← validateNames_ok_iff, validateReturnedNames]
  constructor
  · intro validated
    obtain ⟨_, checks, validated⟩ := Result.bind_eq_ok validated
    obtain ⟨_, scores, _⟩ := Result.bind_eq_ok validated
    exact ⟨⟨_, checks⟩, ⟨_, scores⟩⟩
  · rintro ⟨⟨_, checks⟩, ⟨_, scores⟩⟩
    simp only [checks, bind, Except.bind, scores]
    rfl

theorem reportChecks_byName_iff {output : ValidateLlmOutputDto}
    {criteria : List ProposalCheckCriterion} (distinct : (criteria.map (·.name)).Nodup)
    (perm : (output.checks.map (·.name)).Perm (criteria.map (·.name)))
    {reports : List ValidationCheckResult} :
    reportChecks maxIssueBytes (byName (·.name) output.checks) criteria = .ok reports ↔
      (∀ check ∈ output.checks, IssueFits (!check.passed) maxIssueBytes check.issue) ∧
      List.Forall₂ (fun criterion result => ∃ check ∈ output.checks,
        check.name = criterion.name ∧ result = checkReport criterion check) criteria reports := by
  rw [reportChecks_ok_iff distinct fun _ _ => rfl,
    each_found_iff (perm.nodup_iff.mpr distinct)]
  refine and_congr_left fun _ => ⟨?_, fun fits _ _ check member _ => fits check member⟩
  intro fits check member
  obtain ⟨criterion, among, same⟩ :=
    List.mem_map.mp (perm.mem_iff.mp (List.mem_map_of_mem member))
  exact fits criterion among check member same.symm

theorem reportScores_byName_iff {output : ValidateLlmOutputDto}
    {criteria : List ProposalScoreCriterion} (distinct : (criteria.map (·.name)).Nodup)
    (perm : (output.scores.map (·.name)).Perm (criteria.map (·.name)))
    {reports : List ValidationScoreResult} :
    reportScores maxIssueBytes (byName (·.name) output.scores) criteria = .ok reports ↔
      (∀ criterion ∈ criteria, ∀ score ∈ output.scores, score.name = criterion.name →
        ScoreFits maxIssueBytes criterion score) ∧
      List.Forall₂ (fun criterion result => ∃ score ∈ output.scores,
        score.name = criterion.name ∧ result = scoreReport criterion score) criteria reports := by
  rw [reportScores_ok_iff distinct fun _ _ => rfl, each_found_iff (perm.nodup_iff.mpr distinct)]

/-- The reader accepts the well-formed replies, and its report follows the policy. -/
theorem parseValidationReport_ok_iff {fromStr : String → Except JsonError ValidateLlmOutputDto}
    {raw : String} {output : ValidateLlmOutputDto} (parsed : fromStr raw = .ok output)
    {policy : ProposalQualityPolicy} (checkNames : (policy.checks.map (·.name)).Nodup)
    (scoreNames : (policy.scores.map (·.name)).Nodup) {version : UInt32}
    {report : ValidationReport} :
    parseValidationReport fromStr raw version policy maxIssueBytes = .ok report ↔
      WellFormed policy maxIssueBytes output ∧ Reports policy output report ∧
        report.proposalVersion = version := by
  simp only [parseValidationReport, parsed]
  rw [Result.check_bind_eq_ok, Result.check_bind_eq_ok, Result.check_bind_eq_ok,
    validateReturnedNames_ok_iff, rejectIf_ok_iff, rejectIf_ok_iff]
  simp only [ne_eq, decide_not, Bool.not_eq_false', decide_eq_true_eq]
  constructor
  · rintro ⟨⟨checksKnown, scoresKnown⟩, checkCount, scoreCount, reported⟩
    have checkPerm := (names_perm_iff checkNames).mpr ⟨checksKnown, by simpa using checkCount⟩
    have scorePerm := (names_perm_iff scoreNames).mpr ⟨scoresKnown, by simpa using scoreCount⟩
    obtain ⟨checks, reportedChecks, reported⟩ := Result.bind_eq_ok reported
    obtain ⟨scores, reportedScores, reported⟩ := Result.bind_eq_ok reported
    cases reported
    obtain ⟨checksFit, checks⟩ := (reportChecks_byName_iff checkNames checkPerm).mp reportedChecks
    obtain ⟨scoresFit, scores⟩ := (reportScores_byName_iff scoreNames scorePerm).mp reportedScores
    exact ⟨⟨checkPerm, scorePerm, checksFit, scoresFit⟩, ⟨checks, scores⟩, rfl⟩
  · rintro ⟨formed, reports, rfl⟩
    obtain ⟨checksKnown, checkCount⟩ := (names_perm_iff checkNames).mp formed.checkNames
    obtain ⟨scoresKnown, scoreCount⟩ := (names_perm_iff scoreNames).mp formed.scoreNames
    refine ⟨⟨checksKnown, scoresKnown⟩, by simpa using checkCount, by simpa using scoreCount, ?_⟩
    have checks := (reportChecks_byName_iff checkNames formed.checkNames).mpr
      ⟨formed.checks, reports.checks⟩
    have scores := (reportScores_byName_iff scoreNames formed.scoreNames).mpr
      ⟨formed.scores, reports.scores⟩
    simp only [checks, bind, Except.bind, scores]
    rfl

end

end ValidateReport

namespace ValidationReport

/-- The request for a repair lists something exactly when something is not met. -/
theorem failedIssues_ne_nil_iff {report : ValidationReport} {issues : List ValidationIssue}
    (listed : report.failedIssues = .ok issues) : issues ≠ [] ↔ report.good = false := by
  obtain ⟨checks, checked, listed⟩ := Result.bind_eq_ok listed
  obtain ⟨scores, scored, listed⟩ := Result.bind_eq_ok listed
  cases listed
  have checkCount := (Result.mapM_eq_ok checked).length_eq
  have scoreCount := (Result.mapM_eq_ok scored).length_eq
  have noCheck : checks = [] ↔ report.allChecksPass = true := by
    rw [← List.length_eq_zero_iff, ← checkCount, List.length_eq_zero_iff, List.filter_eq_nil_iff,
      allChecksPass, List.all_eq_true]
    simp
  have noScore : scores = [] ↔ report.allScoresMeetTarget = true := by
    rw [← List.length_eq_zero_iff, ← scoreCount, List.length_eq_zero_iff, unmetScores,
      List.filter_eq_nil_iff, allScoresMeetTarget, List.all_eq_true]
    simp
  rw [Ne, List.append_eq_nil_iff, noCheck, noScore, good, ← Bool.not_eq_true, Bool.and_eq_true]

end ValidationReport

open ValidateReport in
/-- The replies that answer every criterion of an accepted configuration once are the ones that
become a report. It follows the policy, and says what to repair whenever it is not all good. -/
theorem validation_report_iff (config : ValidateConfig) (accepted : config.validate = .ok ())
    (maxIssueBytes : Nat) (fromStr : String → Except JsonError ValidateLlmOutputDto) (raw : String)
    (output : ValidateLlmOutputDto) (parsed : fromStr raw = .ok output) (version : UInt32) :
    ((∃ report, parseValidationReport fromStr raw version config.qualityPolicy maxIssueBytes =
      .ok report) ↔ WellFormed config.qualityPolicy maxIssueBytes output) ∧
    ∀ report, parseValidationReport fromStr raw version config.qualityPolicy maxIssueBytes =
        .ok report →
      Reports config.qualityPolicy output report ∧
      ∃ issues, report.failedIssues = .ok issues ∧
        (issues ≠ [] ↔ ¬ (report.allChecksPass = true ∧ report.allScoresMeetTarget = true)) := by
  obtain ⟨checkNames, scoreNames⟩ := ValidateConfig.validate_distinct accepted
  refine ⟨⟨?_, ?_⟩, ?_⟩
  · rintro ⟨report, reported⟩
    exact ((parseValidationReport_ok_iff parsed checkNames scoreNames).mp reported).1
  · intro formed
    obtain ⟨checks, checksReported⟩ := each_reported formed.checkNames checkReport
    obtain ⟨scores, scoresReported⟩ := each_reported formed.scoreNames scoreReport
    exact ⟨⟨version, checks, scores⟩, (parseValidationReport_ok_iff parsed checkNames
      scoreNames).mpr ⟨formed, ⟨checksReported, scoresReported⟩, rfl⟩⟩
  · intro report reported
    obtain ⟨issues, listed⟩ := (parseValidationReport_ok reported).2.failedIssues
    refine ⟨((parseValidationReport_ok_iff parsed checkNames scoreNames).mp reported).2.1, issues,
      listed, ?_⟩
    rw [ValidationReport.failedIssues_ne_nil_iff listed, ← Bool.not_eq_true,
      ValidationReport.good, Bool.and_eq_true]

namespace ValidateReport.Sample

def criteria : ValidateConfig where
  checks := [{ name := "tone", description := "The tone fits the tale." }]
  scores := [{ name := "pace", description := "The pace is even.", minScore := 0, maxScore := 10
               targetScore := 8, targetGuidance := "No scene is rushed." }]
  maxIssueBytes := 64

def grimReply : ValidateLlmOutputDto where
  checks := [{ name := "tone", passed := false, issue := some " Too grim. " }]
  scores := [{ name := "pace", score := 8, issue := none }]

/-- The reader accepts this reply, so it is well formed. -/
theorem grimReply_wellFormed : WellFormed criteria.qualityPolicy 64 grimReply := by
  have accepted : criteria.validate = .ok () := by decide +kernel
  have reported : (parseValidationReport (fun _ => .ok grimReply) "" 1 criteria.qualityPolicy
      64).toOption.isSome = true := by decide +kernel
  obtain ⟨report, made⟩ := Option.isSome_iff_exists.mp reported
  exact (validation_report_iff criteria accepted 64 (fun _ => .ok grimReply) "" grimReply rfl
    1).1.mp ⟨report, Result.toOption_eq_some made⟩

end ValidateReport.Sample
end Aise
