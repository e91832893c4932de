import Aise.Pipeline.RepairLoop

/-! How a validate-and-repair loop can end. At every head of the loop the history holds
one evaluated version for each round so far, none of them good enough; the result of a
run is then read off its last body. -/
namespace Aise

section Choice
variable {history seen rest : List ValidatedProposal} {best : Option ChoiceSelection}

/-- The order of preference: the smaller gap, then fewer unmet scores, then the newer. -/
def ChoiceSelection.rank (selection : ChoiceSelection) : Rat ×ₗ Nat ×ₗ Natᵒᵈ :=
  toLex (selection.targetGapMse, toLex (selection.unmetScoreCount,
    OrderDual.toDual selection.proposalVersion.toNat))

theorem isBetter_iff (candidate current : ChoiceSelection) :
    isBetter candidate current = true ↔ candidate.rank < current.rank := by
  simp only [isBetter, ChoiceSelection.rank, Prod.Lex.toLex_lt_toLex, OrderDual.toDual_lt_toDual]
  rcases lt_trichotomy candidate.targetGapMse current.targetGapMse with less | same | more
  · simp [compare_lt_iff_lt.mpr less, less]
  · rw [compare_eq_iff_eq.mpr same, same]
    rcases lt_trichotomy candidate.unmetScoreCount current.unmetScoreCount with less | same | more
    · simp [compare_lt_iff_lt.mpr less, less]
    · rw [compare_eq_iff_eq.mpr same, same]
      simp [UInt32.lt_iff_toNat_lt]
    · simp [compare_gt_iff_gt.mpr more, more.not_gt, more.ne']
  · simp [compare_gt_iff_gt.mpr more, more.not_gt, more.ne']

/-- The selection describes an entry of the history that passes every check. -/
structure Candidate (history : List ValidatedProposal) (selection : ChoiceSelection)
    (entry : ValidatedProposal) : Prop where
  place : history[selection.historyIndex]? = some entry
  passes : entry.report.allChecksPass = true
  gap : targetGapMse entry = .ok selection.targetGapMse
  unmet : entry.report.unmetScoreCount = selection.unmetScoreCount
  version : entry.report.proposalVersion = selection.proposalVersion

/-- The best candidate of a history, or none where there is no candidate. -/
structure Best (history : List ValidatedProposal) (best : Option ChoiceSelection) : Prop where
  candidate : ∀ selection, best = some selection → ∃ entry, Candidate history selection entry
  least : ∀ selection entry, Candidate history selection entry →
    ∃ chosen, best = some chosen ∧ chosen.rank ≤ selection.rank

theorem Candidate.append (candidate : Candidate seen selection entry)
    (more : List ValidatedProposal) : Candidate (seen ++ more) selection entry := by
  refine ⟨?_, candidate.passes, candidate.gap, candidate.unmet, candidate.version⟩
  obtain ⟨inside, _⟩ := List.getElem?_eq_some_iff.mp candidate.place
  rw [List.getElem?_append_left inside]
  exact candidate.place

theorem Candidate.concat_cases (candidate : Candidate (seen ++ [last]) selection entry) :
    Candidate seen selection entry ∨ selection.historyIndex = seen.length ∧ entry = last := by
  by_cases inside : selection.historyIndex < seen.length
  · refine .inl ⟨?_, candidate.passes, candidate.gap, candidate.unmet, candidate.version⟩
    rw [← List.getElem?_append_left inside]
    exact candidate.place
  · right
    obtain ⟨bound, found⟩ := List.getElem?_eq_some_iff.mp candidate.place
    have bound : selection.historyIndex < seen.length + 1 := by simpa using bound
    have index : selection.historyIndex = seen.length := by omega
    refine ⟨index, ?_⟩
    have place := candidate.place
    rw [index] at place
    simpa using place.symm

theorem Best.skip (found : Best seen best) (fails : entry.report.allChecksPass = false) :
    Best (seen ++ [entry]) best where
  candidate selection chosen := by
    obtain ⟨before, candidate⟩ := found.candidate selection chosen
    exact ⟨before, candidate.append _⟩
  least selection other candidate := by
    rcases candidate.concat_cases with before | ⟨_, rfl⟩
    · exact found.least selection other before
    · simp [candidate.passes] at fails

theorem Best.offer (found : Best seen best) (passes : entry.report.allChecksPass = true)
    (gap : targetGapMse entry = .ok metric) :
    Best (seen ++ [entry])
      (if best.all (isBetter ⟨seen.length, entry.report.proposalVersion, metric,
          entry.report.unmetScoreCount⟩) then
        some ⟨seen.length, entry.report.proposalVersion, metric, entry.report.unmetScoreCount⟩
      else best) := by
  generalize offered : (⟨seen.length, entry.report.proposalVersion, metric,
    entry.report.unmetScoreCount⟩ : ChoiceSelection) = offer
  have mine : Candidate (seen ++ [entry]) offer entry := by
    subst offered
    exact ⟨by simp, passes, gap, rfl, rfl⟩
  have same : ∀ selection, Candidate (seen ++ [entry]) selection entry →
      selection.rank = offer.rank := by
    intro selection candidate
    have metric := Except.ok.inj (candidate.gap.symm.trans mine.gap)
    simp only [ChoiceSelection.rank, metric, ← candidate.unmet, ← mine.unmet, ← candidate.version,
      ← mine.version]
  split
  · rename_i better
    refine ⟨?_, ?_⟩
    · rintro selection chosen
      cases chosen
      exact ⟨entry, mine⟩
    · intro selection other candidate
      refine ⟨offer, rfl, ?_⟩
      rcases candidate.concat_cases with before | ⟨_, rfl⟩
      · obtain ⟨chosen, rfl, least⟩ := found.least selection other before
        have improves := (isBetter_iff offer chosen).mp (by simpa using better)
        exact improves.le.trans least
      · exact (same selection candidate).ge
  · rename_i worse
    obtain ⟨current, rfl, stays⟩ : ∃ current, best = some current ∧
        isBetter offer current = false := by
      cases best with
      | none => simp at worse
      | some current => exact ⟨current, rfl, by simpa using worse⟩
    have keeps : current.rank ≤ offer.rank := by
      rw [← not_lt, ← isBetter_iff, stays]
      exact Bool.false_ne_true
    refine ⟨?_, ?_⟩
    · intro selection chosen
      obtain ⟨before, candidate⟩ := found.candidate selection chosen
      exact ⟨before, candidate.append _⟩
    · intro selection other candidate
      rcases candidate.concat_cases with before | ⟨_, rfl⟩
      · exact found.least selection other before
      · exact ⟨current, rfl, keeps.trans (same selection candidate).ge⟩

/-- The order of preference written out. -/
theorem rank_le_iff (first second : ChoiceSelection) : first.rank ≤ second.rank ↔
    first.targetGapMse < second.targetGapMse ∨ first.targetGapMse = second.targetGapMse ∧
      (first.unmetScoreCount < second.unmetScoreCount ∨
        first.unmetScoreCount = second.unmetScoreCount ∧
          second.proposalVersion.toNat ≤ first.proposalVersion.toNat) := by
  simp only [ChoiceSelection.rank, Prod.Lex.toLex_le_toLex, OrderDual.toDual_le_toDual]

theorem selectFrom_best (found : Best seen best)
    (selected : selectFrom seen.length best rest = .ok result) : Best (seen ++ rest) result := by
  induction rest generalizing seen best with
  | nil =>
    cases selected
    simpa using found
  | cons entry rest ih =>
    have length : (seen ++ [entry]).length = seen.length + 1 := by simp
    rw [List.append_cons]
    simp only [selectFrom, Bool.not_eq_true'] at selected
    split at selected
    · rename_i fails
      exact ih (found.skip fails) (length ▸ selected)
    · rename_i passes
      obtain ⟨metric, gap, selected⟩ := Result.bind_eq_ok selected
      exact ih (found.offer (by simpa using passes) gap) (length ▸ selected)

/-- The selection only succeeds when every entry that passes the checks has a metric. -/
theorem selectFrom_measured (selected : selectFrom start best rest = .ok result) :
    ∀ entry ∈ rest, entry.report.allChecksPass = true → ∃ metric, targetGapMse entry = .ok metric := by
  induction rest generalizing start best with
  | nil => simp
  | cons first rest ih =>
    simp only [selectFrom, Bool.not_eq_true'] at selected
    split at selected
    · rename_i fails
      refine List.forall_mem_cons.mpr ⟨fun passes => ?_, ih selected⟩
      simp [passes] at fails
    · obtain ⟨metric, gap, selected⟩ := Result.bind_eq_ok selected
      exact List.forall_mem_cons.mpr ⟨fun _ => ⟨metric, gap⟩, ih selected⟩

theorem selectFrom_history (selected : selectFrom 0 none history = .ok result) :
    Best history result := by
  have start : Best [] none := ⟨by simp, fun _ _ candidate => by simpa using candidate.place⟩
  simpa using selectFrom_best start selected

/-- Every entry that passes the checks has a metric and comes no earlier in the order. -/
def Least (history : List ValidatedProposal) (selection : ChoiceSelection) : Prop :=
  ∀ (index : Nat) (entry : ValidatedProposal), history[index]? = some entry →
    entry.report.allChecksPass = true → ∃ gap, targetGapMse entry = .ok gap ∧
      selection.rank ≤ ChoiceSelection.rank
        ⟨index, entry.report.proposalVersion, gap, entry.report.unmetScoreCount⟩

theorem selectChoice_ok (selected : selectChoice history = .ok selection) :
    (∃ entry, Candidate history selection entry) ∧ Least history selection := by
  obtain ⟨result, found, selected⟩ := Result.bind_eq_ok selected
  have best := selectFrom_history found
  cases result with
  | none => cases selected
  | some chosen =>
    cases selected
    refine ⟨best.candidate selection rfl, fun index entry place passes => ?_⟩
    obtain ⟨metric, gap⟩ := selectFrom_measured found entry (List.mem_of_getElem? place) passes
    have candidate : Candidate history ⟨index, entry.report.proposalVersion, metric,
        entry.report.unmetScoreCount⟩ entry := ⟨place, passes, gap, rfl, rfl⟩
    obtain ⟨_, same, least⟩ := best.least _ entry candidate
    cases same
    exact ⟨metric, gap, least⟩

theorem selectFrom_error (failed : selectFrom start best rest = .error error) :
    ∃ entry ∈ rest, targetGapMse entry = .error error := by
  induction rest generalizing start best with
  | nil => cases failed
  | cons first rest ih =>
    simp only [selectFrom] at failed
    split at failed
    · obtain ⟨entry, member, metric⟩ := ih failed
      exact ⟨entry, List.mem_cons_of_mem _ member, metric⟩
    · rcases Result.bind_eq_error failed with metric | ⟨_, _, failed⟩
      · exact ⟨first, List.mem_cons_self, metric⟩
      · obtain ⟨entry, member, metric⟩ := ih failed
        exact ⟨entry, List.mem_cons_of_mem _ member, metric⟩

/-- With an entry to choose, the selection can only fail on a metric. -/
theorem selectChoice_error (member : entry ∈ history) (passes : entry.report.allChecksPass = true)
    (failed : selectChoice history = .error error) :
    ∃ other ∈ history, targetGapMse other = .error error := by
  rcases Result.bind_eq_error failed with metric | ⟨result, found, failed⟩
  · exact selectFrom_error metric
  · obtain ⟨metric, gap⟩ := selectFrom_measured found entry member passes
    obtain ⟨index, inside, place⟩ := List.mem_iff_getElem.mp member
    have candidate : Candidate history ⟨index, entry.report.proposalVersion, metric,
        entry.report.unmetScoreCount⟩ entry :=
      ⟨List.getElem?_eq_some_iff.mpr ⟨inside, place⟩, passes, gap, rfl, rfl⟩
    obtain ⟨chosen, rfl, _⟩ := (selectFrom_history found).least _ entry candidate
    cases failed

/-- The codes of the errors about a metric. -/
def metricCodes : List String :=
  ["validation_choice_scores_empty", "validation_choice_score_non_finite"]

theorem targetGapMse_error (failed : targetGapMse entry = .error error) :
    ∃ code ∈ metricCodes, ∃ version message, error = .validationFailed code version message := by
  simp only [targetGapMse] at failed
  split at failed
  · cases failed
    exact ⟨_, by simp [metricCodes], _, _, rfl⟩
  · split at failed
    · cases failed
    · cases failed
      exact ⟨_, by simp [metricCodes], _, _, rfl⟩

end Choice

namespace ValidationReport
variable {report : ValidationReport}

/-- The evaluator has nothing left to ask for. -/
def good (report : ValidationReport) : Bool := report.allChecksPass && report.allScoresMeetTarget

theorem expectIssue_some {issue : Option BoundedText} (given : issue.isSome = true) :
    ∃ text, expectIssue message issue = .ok text := by
  obtain ⟨text, rfl⟩ := Option.isSome_iff_exists.mp given
  exact ⟨text, rfl⟩

/-- A report with all its issues can be turned into a repair request. -/
theorem Explained.failedIssues (explained : report.Explained) :
    ∃ issues, report.failedIssues = .ok issues := by
  have failed : ∀ check ∈ report.checks.filter (!·.passed), ∃ issue : ValidationIssue, (do
      return .check check.name
        (← expectIssue "failed validation check must include an issue" check.issue)) =
      (.ok issue : Except Fault ValidationIssue) := by
    intro check member
    obtain ⟨inside, failed⟩ := List.mem_filter.mp member
    obtain ⟨text, given⟩ := expectIssue_some (explained.checks check inside (by simpa using failed))
    exact ⟨_, by rw [given]; rfl⟩
  have unmet : ∀ score ∈ report.unmetScores, ∃ issue : ValidationIssue, (do
      return .score score.name score.score score.targetScore
        (← expectIssue "unmet validation score must include an issue" score.issue)) =
      (.ok issue : Except Fault ValidationIssue) := by
    intro score member
    obtain ⟨inside, unmet⟩ := List.mem_filter.mp member
    obtain ⟨text, given⟩ := expectIssue_some (explained.scores score inside (by simpa using unmet))
    exact ⟨_, by rw [given]; rfl⟩
  obtain ⟨checks, checked⟩ := Result.mapM_total failed
  obtain ⟨scores, scored⟩ := Result.mapM_total unmet
  refine ⟨checks ++ scores, ?_⟩
  rw [ValidationReport.failedIssues, checked]
  simp only [bind, Except.bind] at scored ⊢
  rw [scored]
  rfl

end ValidationReport

namespace ValidationLoop
variable {loop : ValidationLoop} {state : LoopState} {story : StoryContext}

/-- The entry at a position of the history is what the evaluator said of that version. -/
def Evaluated (loop : ValidationLoop) (index : Nat) (entry : ValidatedProposal) : Prop :=
  ∃ input, input.proposal = entry.proposal ∧ input.proposalVersion.toNat = index + 1 ∧
    loop.validate.execute input loop.storyContext = .ok entry.report

theorem execute_ok {pipeline : ValidatePipeline}
    (answered : pipeline.execute input story = .ok report) :
    report.proposalVersion = input.proposalVersion ∧ report.Explained := by
  simp only [ValidatePipeline.execute] at answered
  split at answered
  · cases answered
  · exact ValidateReport.parseValidationReport_ok answered

theorem validate_error {pipeline : ValidatePipeline}
    (failed : pipeline.execute input story = .error error) (code : String) (version : UInt32)
    (message : String) : error ≠ .validationFailed code version message := by
  simp only [ValidatePipeline.execute] at failed
  split at failed
  · rename_i cause _
    cases failed
    cases cause <;> simp [AskError.at]
  · obtain ⟨_, _, rfl⟩ := ValidateReport.parseValidationReport_refusal failed
    simp

theorem repair_error {pipeline : RepairPipeline}
    (failed : pipeline.execute input story = .error error) (code : String) (version : UInt32)
    (message : String) : error ≠ .validationFailed code version message := by
  simp only [RepairPipeline.execute] at failed
  split at failed
  · rename_i cause _
    cases failed
    cases cause <;> simp [AskError.at]
  · simp only [validateRepairedProposal] at failed
    split at failed
    · cases failed
      simp
    · split at failed
      · cases failed
        simp
      · cases failed

/-- What holds at every head of the loop. -/
structure Valid (loop : ValidationLoop) (state : LoopState) : Prop where
  rounds : state.history.length = state.repairRounds.toNat
  budget : state.repairRounds.toNat ≤ loop.maxRepairRounds.toNat
  evaluated : ∀ (index : Nat) (entry : ValidatedProposal), state.history[index]? = some entry →
    loop.Evaluated index entry
  unfinished : ∀ entry ∈ state.history, entry.report.good = false

theorem subU32_ok {a b : UInt32} (enough : b.toNat ≤ a.toNat) : subU32 a b = .ok (a - b) := by
  rw [subU32, if_neg]
  rw [UInt32.lt_iff_toNat_lt]
  omega

/-- A version that got its report but is not good enough. -/
structure Falls (loop : ValidationLoop) (state : LoopState) (entry : ValidatedProposal) : Prop where
  evaluated : loop.Evaluated state.history.length entry
  unfinished : entry.report.good = false

/-- Everything a body of the loop can do at a valid head. -/
inductive BodyCase (loop : ValidationLoop) (state : LoopState) : LoopBody → Prop where
  | overflow (full : UInt32.size ≤ state.history.length + 1) :
      BodyCase loop state ⟨[], state.history,
        .finished (.error (.panic "validated proposal history length must fit u32"))⟩
  | refused (input : ValidateInput) (error : PipelineError)
      (foreign : ∀ code version message, error ≠ .validationFailed code version message) :
      BodyCase loop state ⟨[.validate input], state.history, .finished (.error (.raised error))⟩
  | passed (input : ValidateInput) (entry : ValidatedProposal)
      (evaluated : loop.Evaluated state.history.length entry) (good : entry.report.good = true) :
      BodyCase loop state ⟨[.validate input], state.history ++ [entry],
        .finished (.ok ⟨entry.proposal, entry.report, state.repairRounds, .pass, none⟩)⟩
  | hardGate (input : ValidateInput) (entry : ValidatedProposal) (falls : Falls loop state entry)
      (spent : state.repairRounds.toNat = loop.maxRepairRounds.toNat)
      (fails : entry.report.allChecksPass = false) (message : String) :
      BodyCase loop state ⟨[.validate input], state.history ++ [entry],
        .finished (.error (.raised (.validationFailed "validation_hard_gate_exhausted"
          entry.report.proposalVersion message)))⟩
  | unmeasured (input : ValidateInput) (entry : ValidatedProposal) (falls : Falls loop state entry)
      (passes : entry.report.allChecksPass = true) (code : String) (about : code ∈ metricCodes)
      (version : UInt32) (message : String) :
      BodyCase loop state ⟨[.validate input], state.history ++ [entry],
        .finished (.error (.raised (.validationFailed code version message)))⟩
  | chosen (input : ValidateInput) (entry : ValidatedProposal) (falls : Falls loop state entry)
      (spent : state.repairRounds.toNat = loop.maxRepairRounds.toNat)
      (passes : entry.report.allChecksPass = true)
      (selection : ChoiceSelection) (selected : ValidatedProposal)
      (candidate : Candidate (state.history ++ [entry]) selection selected)
      (least : Least (state.history ++ [entry]) selection) :
      BodyCase loop state ⟨[.validate input], state.history ++ [entry],
        .finished (.ok ⟨selected.proposal, selected.report, state.repairRounds, .choice,
          some ⟨selection.proposalVersion, selection.targetGapMse⟩⟩)⟩
  | unrepaired (input : ValidateInput) (entry : ValidatedProposal) (falls : Falls loop state entry)
      (remains : state.repairRounds.toNat < loop.maxRepairRounds.toNat) (request : RepairInput)
      (error : PipelineError)
      (foreign : ∀ code version message, error ≠ .validationFailed code version message) :
      BodyCase loop state ⟨[.validate input, .repair request], state.history ++ [entry],
        .finished (.error (.raised error))⟩
  | repaired (input : ValidateInput) (entry : ValidatedProposal) (falls : Falls loop state entry)
      (remains : state.repairRounds.toNat < loop.maxRepairRounds.toNat) (request : RepairInput)
      (proposal : String) :
      BodyCase loop state ⟨[.validate input, .repair request], state.history ++ [entry],
        .again ⟨state.history ++ [entry], proposal, state.repairRounds + 1⟩⟩

theorem hardGateExhausted_eq (entry : ValidatedProposal) (explained : entry.report.Explained) :
    ∃ message,
    hardGateExhausted entry = .raised (.validationFailed "validation_hard_gate_exhausted"
      entry.report.proposalVersion message) := by
  obtain ⟨issues, failed⟩ := explained.failedIssues
  exact ⟨_, by rw [hardGateExhausted, failed]⟩

theorem repairOnce_case (input : ValidateInput) (falls : Falls loop state entry)
    (explained : entry.report.Explained)
    (remains : state.repairRounds.toNat < loop.maxRepairRounds.toNat) :
    BodyCase loop state (loop.repairOnce [.validate input] (state.history ++ [entry]) entry
      (state.repairRounds + 1)) := by
  obtain ⟨issues, failed⟩ := explained.failedIssues
  have next : (state.repairRounds + 1).toNat ≤ loop.maxRepairRounds.toNat := by
    have bound := loop.maxRepairRounds.toNat_lt
    rw [UInt32.toNat_add]
    simp only [UInt32.reduceToNat]
    omega
  have requested : loop.repairInput entry (state.repairRounds + 1) =
      .ok ⟨loop.context, entry.proposal, entry.report.proposalVersion, issues,
        state.repairRounds + 1, loop.maxRepairRounds - (state.repairRounds + 1)⟩ := by
    rw [repairInput, failed, subU32_ok next]
    rfl
  generalize (⟨loop.context, entry.proposal, _, issues, _, _⟩ : RepairInput) = request at requested
  simp only [repairOnce, requested]
  cases answered : loop.repair.execute request loop.storyContext with
  | error error => exact .unrepaired input entry falls remains request error (repair_error answered)
  | ok proposal => exact .repaired input entry falls remains request proposal

theorem choose_case (input : ValidateInput) (falls : Falls loop state entry)
    (spent : state.repairRounds.toNat = loop.maxRepairRounds.toNat)
    (passes : entry.report.allChecksPass = true) :
    BodyCase loop state ⟨[.validate input], state.history ++ [entry],
      .finished (choose (state.history ++ [entry]) state.repairRounds)⟩ := by
  cases selected : selectChoice (state.history ++ [entry]) with
  | error error =>
    have failed : choose (state.history ++ [entry]) state.repairRounds = .error (.raised error) := by
      rw [choose, selected]
      rfl
    obtain ⟨other, _, metric⟩ := selectChoice_error (List.mem_append_right _ (List.mem_singleton_self _))
      passes selected
    obtain ⟨code, about, version, message, rfl⟩ := targetGapMse_error metric
    rw [failed]
    exact .unmeasured input entry falls passes code about version message
  | ok selection =>
    obtain ⟨⟨chosen, candidate⟩, least⟩ := selectChoice_ok selected
    have found : choose (state.history ++ [entry]) state.repairRounds =
        .ok ⟨chosen.proposal, chosen.report, state.repairRounds, .choice,
          some ⟨selection.proposalVersion, selection.targetGapMse⟩⟩ := by
      rw [choose, selected]
      simp only [Fault.lift, bind, Except.bind, candidate.place]
      rfl
    rw [found]
    exact .chosen input entry falls spent passes selection chosen candidate least

/-- With room for another version the evaluator is asked about it. -/
theorem Valid.validateInput (valid : loop.Valid state)
    (room : state.history.length + 1 < UInt32.size) :
    ∃ input, loop.validateInput state = .ok input ∧ input.proposal = state.currentProposal ∧
      input.proposalVersion.toNat = state.history.length + 1 := by
  refine ⟨⟨loop.context, state.currentProposal, UInt32.ofNat (state.history.length + 1),
    state.repairRounds, loop.maxRepairRounds - state.repairRounds⟩, ?_, rfl, ?_⟩
  · rw [ValidationLoop.validateInput, proposalVersion, if_pos room, subU32_ok valid.budget]
    rfl
  · exact UInt32.toNat_ofNat_of_lt' room

theorem Valid.body_case (valid : loop.Valid state) : BodyCase loop state (loop.body state) := by
  by_cases room : state.history.length + 1 < UInt32.size
  · obtain ⟨input, asked, proposal, version⟩ := valid.validateInput room
    simp only [body, asked]
    cases answered : loop.validate.execute input loop.storyContext with
    | error error => exact .refused input error (validate_error answered)
    | ok report =>
      have explained := (execute_ok answered).2
      have evaluated : loop.Evaluated state.history.length ⟨state.currentProposal, report⟩ :=
        ⟨input, proposal, version, answered⟩
      simp only [judge]
      by_cases good : report.good = true
      · have both : (report.allChecksPass && report.allScoresMeetTarget) = true := good
        simp only [both, if_true]
        exact .passed input _ evaluated good
      · have unfinished : report.good = false := by simpa using good
        have falls : Falls loop state ⟨state.currentProposal, report⟩ := ⟨evaluated, unfinished⟩
        have either : (report.allChecksPass && report.allScoresMeetTarget) = false := unfinished
        simp only [either, Bool.false_eq_true, if_false]
        by_cases spent : state.repairRounds ≥ loop.maxRepairRounds
        · have budget : state.repairRounds.toNat = loop.maxRepairRounds.toNat :=
            Nat.le_antisymm valid.budget (UInt32.le_iff_toNat_le.mp spent)
          simp only [spent, if_true]
          cases passes : report.allChecksPass with
          | false =>
            obtain ⟨message, gate⟩ := hardGateExhausted_eq ⟨state.currentProposal, report⟩ explained
            simp only [gate, Bool.not_false, if_true]
            exact .hardGate input _ falls budget passes message
          | true =>
            have case := choose_case input falls budget passes
            simp only [Bool.not_true, Bool.false_eq_true, if_false]
            cases chosen : choose (state.history ++ [⟨state.currentProposal, report⟩])
                state.repairRounds with
            | error fault =>
              rw [chosen] at case
              exact case
            | ok result =>
              rw [chosen] at case
              exact case
        · simp only [spent, if_false]
          have remains := UInt32.lt_iff_toNat_lt.mp (UInt32.not_le.mp spent)
          exact repairOnce_case input falls explained remains
  · have full : loop.validateInput state =
        .error (.panic "validated proposal history length must fit u32") := by
      rw [ValidationLoop.validateInput, proposalVersion, if_neg room]
      rfl
    simp only [body, full]
    exact .overflow (Nat.le_of_not_lt room)

theorem Valid.extended (valid : loop.Valid state) (evaluated : loop.Evaluated state.history.length entry)
    (index : Nat) (other : ValidatedProposal)
    (found : (state.history ++ [entry])[index]? = some other) : loop.Evaluated index other := by
  by_cases inside : index < state.history.length
  · rw [List.getElem?_append_left inside] at found
    exact valid.evaluated index other found
  · obtain ⟨bound, _⟩ := List.getElem?_eq_some_iff.mp found
    have bound : index < state.history.length + 1 := by simpa using bound
    have last : index = state.history.length := by omega
    subst last
    have same : entry = other := by simpa using found
    exact same ▸ evaluated

theorem Valid.again (valid : loop.Valid state) (again : (loop.body state).ending = .again next) :
    loop.Valid next ∧ next.repairRounds.toNat = state.repairRounds.toNat + 1 := by
  have case := valid.body_case
  generalize loop.body state = body at case again
  cases case with
  | repaired input entry falls remains request proposal =>
    cases again
    have bound := loop.maxRepairRounds.toNat_lt
    have rounds : (state.repairRounds + 1).toNat = state.repairRounds.toNat + 1 := by
      rw [UInt32.toNat_add]
      simp only [UInt32.reduceToNat]
      omega
    refine ⟨⟨?_, ?_, valid.extended falls.evaluated, ?_⟩, rounds⟩
    · simp [rounds, valid.rounds]
    · rw [rounds]
      exact remains
    · intro other member
      rcases List.mem_append.mp member with before | last
      · exact valid.unfinished other before
      · cases List.mem_singleton.mp last
        exact falls.unfinished
  | overflow | refused | passed | hardGate | unmeasured | chosen | unrepaired => cases again

/-- A run ends in one body; every body before it made one call to each stage. -/
structure Ends (loop : ValidationLoop) (run : LoopRun) (start : Nat) (last : LoopState) : Prop where
  valid : loop.Valid last
  finished : (loop.body last).ending = .finished run.outcome
  versions : run.versions = (loop.body last).history
  validations : run.validations + start = last.repairRounds.toNat +
    (loop.body last).calls.countP StageCall.isValidate
  repairs : run.repairs + start = last.repairRounds.toNat +
    (loop.body last).calls.countP StageCall.isRepair

theorem body_again_calls (valid : loop.Valid state) (again : (loop.body state).ending = .again next) :
    (loop.body state).calls.countP StageCall.isValidate = 1 ∧
      (loop.body state).calls.countP StageCall.isRepair = 1 := by
  have case := valid.body_case
  generalize loop.body state = body at case again
  cases case with
  | repaired => exact ⟨rfl, rfl⟩
  | overflow | refused | passed | hardGate | unmeasured | chosen | unrepaired => cases again

theorem runFrom_ends (loop : ValidationLoop) (state : LoopState) (valid : loop.Valid state) :
    ∃ last, loop.Ends (loop.runFrom state) state.repairRounds.toNat last := by
  fun_induction runFrom loop state with
  | case1 state outcome finished =>
    exact ⟨state, valid, finished, rfl, Nat.add_comm _ _, Nat.add_comm _ _⟩
  | case2 state next again rest ih =>
    obtain ⟨nextValid, rounds⟩ := valid.again again
    obtain ⟨last, ends⟩ := ih nextValid
    obtain ⟨validated, repaired⟩ := body_again_calls valid again
    refine ⟨last, ends.valid, ends.finished, ends.versions, ?_, ?_⟩
    · have counted := ends.validations
      simp only [LoopRun.validations, List.countP_append, validated, rest] at counted ⊢
      omega
    · have counted := ends.repairs
      simp only [LoopRun.repairs, List.countP_append, repaired, rest] at counted ⊢
      omega

theorem validateAndRepair_ends (loop : ValidationLoop) (initialProposal : String) :
    ∃ last, loop.Ends (loop.validateAndRepair initialProposal) 0 last := by
  have valid : loop.Valid ⟨[], initialProposal, 0⟩ := by
    refine ⟨rfl, Nat.zero_le _, ?_, ?_⟩ <;> simp
  exact runFrom_ends loop _ valid

section Outcome
variable {run : LoopRun} {last : LoopState}

theorem Ends.calls (ends : loop.Ends run 0 last) :
    run.validations ≤ loop.maxRepairRounds.toNat + 1 ∧
      run.repairs ≤ loop.maxRepairRounds.toNat := by
  have validations := ends.validations
  have repairs := ends.repairs
  have budget := ends.valid.budget
  have case := ends.valid.body_case
  generalize loop.body last = body at case validations repairs
  cases case with
  | overflow | refused | passed | hardGate | unmeasured | chosen | unrepaired | repaired =>
    simp [StageCall.isValidate, StageCall.isRepair, List.countP_cons] at validations repairs
    omega

/-- The only panic left is a version number beyond `u32`. -/
theorem Ends.panic (ends : loop.Ends run 0 last) (panics : run.outcome = .error (.panic message)) :
    message = "validated proposal history length must fit u32" := by
  have finished := ends.finished
  have case := ends.valid.body_case
  generalize loop.body last = body at case finished
  rw [panics] at finished
  cases case <;> cases finished
  rfl

/-- The versions that got a report are what the evaluator said, in order. -/
theorem Ends.evaluated (ends : loop.Ends run 0 last) (index : Nat) (entry : ValidatedProposal)
    (found : run.versions[index]? = some entry) : loop.Evaluated index entry := by
  have case := ends.valid.body_case
  rw [ends.versions] at found
  generalize loop.body last = body at case found
  cases case with
  | overflow | refused => exact ends.valid.evaluated index entry found
  | passed _ _ evaluated => exact ends.valid.extended evaluated index entry found
  | hardGate _ _ falls => exact ends.valid.extended falls.evaluated index entry found
  | unmeasured _ _ falls => exact ends.valid.extended falls.evaluated index entry found
  | chosen _ _ falls => exact ends.valid.extended falls.evaluated index entry found
  | unrepaired _ _ falls => exact ends.valid.extended falls.evaluated index entry found
  | repaired _ _ falls => exact ends.valid.extended falls.evaluated index entry found

theorem Evaluated.version (evaluated : loop.Evaluated index entry) :
    entry.report.proposalVersion.toNat = index + 1 := by
  obtain ⟨input, _, version, answered⟩ := evaluated
  rw [(execute_ok answered).1, version]

theorem Ends.passed (ends : loop.Ends run 0 last) (returned : run.outcome = .ok result)
    (passed : result.status = .pass) :
    result.report.good = true ∧ ∃ earlier, run.versions = earlier ++ [⟨result.proposal, result.report⟩] ∧
      ∀ entry ∈ earlier, entry.report.good = false := by
  have finished := ends.finished
  have case := ends.valid.body_case
  rw [ends.versions]
  generalize loop.body last = body at case finished
  rw [returned] at finished
  cases case with
  | passed input entry evaluated good =>
    cases finished
    exact ⟨good, last.history, rfl, ends.valid.unfinished⟩
  | chosen =>
    cases finished
    cases passed
  | overflow | refused | hardGate | unmeasured | unrepaired | repaired => cases finished

/-- A choice is made when the budget is spent, among versions none of which was good. -/
theorem Ends.chosen (ends : loop.Ends run 0 last) (returned : run.outcome = .ok result)
    (chosen : result.status = .choice) :
    run.repairs = loop.maxRepairRounds.toNat ∧
      run.versions.length = loop.maxRepairRounds.toNat + 1 ∧
      (∀ entry ∈ run.versions, entry.report.good = false) ∧
      ∃ selection, Candidate run.versions selection ⟨result.proposal, result.report⟩ ∧
        result.choice = some ⟨selection.proposalVersion, selection.targetGapMse⟩ ∧
        Least run.versions selection := by
  have finished := ends.finished
  have repairs := ends.repairs
  have case := ends.valid.body_case
  rw [ends.versions]
  generalize loop.body last = body at case finished repairs
  rw [returned] at finished
  cases case with
  | chosen input entry falls spent passes selection selected candidate least =>
    cases finished
    refine ⟨?_, ?_, ?_, selection, candidate, rfl, least⟩
    · rw [← spent]
      exact repairs
    · simp [ends.valid.rounds, spent]
    · intro other member
      rcases List.mem_append.mp member with before | latest
      · exact ends.valid.unfinished other before
      · cases List.mem_singleton.mp latest
        exact falls.unfinished
  | passed =>
    cases finished
    cases chosen
  | overflow | refused | hardGate | unmeasured | unrepaired | repaired => cases finished

theorem Ends.hardGate_iff (ends : loop.Ends run 0 last) :
    (∃ version message, run.outcome = .error (.raised
      (.validationFailed "validation_hard_gate_exhausted" version message))) ↔
      run.versions.length = loop.maxRepairRounds.toNat + 1 ∧
        ∃ latest, run.versions.getLast? = some latest ∧ latest.report.allChecksPass = false := by
  have finished := ends.finished
  have rounds := ends.valid.rounds
  have budget := ends.valid.budget
  have case := ends.valid.body_case
  rw [ends.versions]
  generalize loop.body last = body at case finished
  -- the budget is spent exactly when this body got the report of version `N + 1`
  cases case with
  | overflow full =>
    rw [← LoopEnd.finished.inj finished]
    simp only [reduceCtorEq, Except.error.injEq, exists_false, false_iff, not_and]
    omega
  | refused input error foreign =>
    rw [← LoopEnd.finished.inj finished]
    simp only [Except.error.injEq, Fault.raised.injEq, foreign, exists_false, false_iff, not_and]
    omega
  | passed input entry evaluated good =>
    have passes : entry.report.allChecksPass = true := (Bool.and_eq_true_iff.mp good).1
    rw [← LoopEnd.finished.inj finished]
    simp [passes]
  | hardGate input entry falls spent fails message =>
    rw [← LoopEnd.finished.inj finished]
    simp [fails, rounds, spent]
  | unmeasured input entry falls passes code about version message =>
    have other : code ≠ "validation_hard_gate_exhausted" := by
      rintro rfl
      simp [metricCodes] at about
    rw [← LoopEnd.finished.inj finished]
    simp [passes, other]
  | chosen input entry falls spent passes =>
    rw [← LoopEnd.finished.inj finished]
    simp [passes]
  | unrepaired input entry falls remains request error foreign =>
    rw [← LoopEnd.finished.inj finished]
    simp only [Except.error.injEq, Fault.raised.injEq, foreign, exists_false, false_iff, not_and,
      List.length_append, List.length_singleton]
    omega
  | repaired => cases finished

theorem Ends.choice_available (ends : loop.Ends run 0 last) (version : UInt32) (message : String) :
    run.outcome ≠ .error (.raised
      (.validationFailed "validation_choice_unavailable" version message)) := by
  have finished := ends.finished
  have case := ends.valid.body_case
  intro failed
  generalize loop.body last = body at case finished
  rw [failed] at finished
  cases case with
  | refused input error foreign | unrepaired input entry falls remains request error foreign =>
    cases finished
    exact foreign _ _ _ rfl
  | unmeasured input entry falls passes code about version message =>
    cases finished
    simp [metricCodes] at about
  | hardGate => simp at finished
  | overflow | passed | chosen | repaired => cases finished

end Outcome

/-- The whole contract of the loop: how often it calls its stages, what a result stands
for, and which errors it raises itself. -/
theorem validateAndRepair_contract (loop : ValidationLoop) (initialProposal : String) :
    let run := loop.validateAndRepair initialProposal
    run.validations ≤ loop.maxRepairRounds.toNat + 1 ∧
    run.repairs ≤ loop.maxRepairRounds.toNat ∧
    run.outcome ≠ .error (.panic "attempt to subtract with overflow") ∧
    (∀ result, run.outcome = .ok result → ∃ index : Nat,
      run.versions[index]? = some ⟨result.proposal, result.report⟩ ∧
      loop.Evaluated index ⟨result.proposal, result.report⟩ ∧
      (result.status = .pass →
        result.report.allChecksPass = true ∧ result.report.allScoresMeetTarget = true ∧
        index + 1 = run.versions.length ∧
        ∀ (earlier : Nat) (entry : ValidatedProposal), earlier < index →
          run.versions[earlier]? = some entry →
          (entry.report.allChecksPass && entry.report.allScoresMeetTarget) = false) ∧
      (result.status = .choice →
        run.repairs = loop.maxRepairRounds.toNat ∧
        (∀ entry ∈ run.versions,
          (entry.report.allChecksPass && entry.report.allScoresMeetTarget) = false) ∧
        result.report.allChecksPass = true ∧
        ∃ gap, targetGapMse ⟨result.proposal, result.report⟩ = .ok gap ∧
          result.choice = some ⟨result.report.proposalVersion, gap⟩ ∧
          ∀ (other : Nat) (entry : ValidatedProposal), run.versions[other]? = some entry →
            entry.report.allChecksPass = true → ∃ otherGap, targetGapMse entry = .ok otherGap ∧
              (gap < otherGap ∨ gap = otherGap ∧
                (result.report.unmetScoreCount < entry.report.unmetScoreCount ∨
                  result.report.unmetScoreCount = entry.report.unmetScoreCount ∧
                    other ≤ index)))) ∧
    ((∃ version message, run.outcome = .error (.raised
        (.validationFailed "validation_hard_gate_exhausted" version message))) ↔
      run.versions.length = loop.maxRepairRounds.toNat + 1 ∧
        ∃ latest, run.versions.getLast? = some latest ∧ latest.report.allChecksPass = false) ∧
    ∀ version message, run.outcome ≠ .error (.raised
      (.validationFailed "validation_choice_unavailable" version message)) := by
  intro run
  obtain ⟨last, ends⟩ := loop.validateAndRepair_ends initialProposal
  refine ⟨ends.calls.1, ends.calls.2, ?_, ?_, ends.hardGate_iff, ends.choice_available⟩
  · intro underflow
    have message := ends.panic underflow
    simp at message
  · intro result returned
    cases status : result.status with
    | pass =>
      obtain ⟨good, earlier, versions, unfinished⟩ := ends.passed returned status
      obtain ⟨checks, scores⟩ := Bool.and_eq_true_iff.mp good
      have place : run.versions[earlier.length]? = some ⟨result.proposal, result.report⟩ := by
        simp [run, versions]
      refine ⟨earlier.length, place, ends.evaluated _ _ place, fun _ => ?_, by simp⟩
      refine ⟨checks, scores, by simp [run, versions], fun index entry before found => ?_⟩
      simp only [run, versions, List.getElem?_append_left before] at found
      exact unfinished entry (List.mem_of_getElem? found)
    | choice =>
      obtain ⟨repairs, _, unfinished, selection, candidate, choice, least⟩ :=
        ends.chosen returned status
      have evaluated := ends.evaluated _ _ candidate.place
      refine ⟨selection.historyIndex, candidate.place, evaluated, by simp, fun _ => ?_⟩
      refine ⟨repairs, unfinished, candidate.passes, selection.targetGapMse, candidate.gap, ?_, ?_⟩
      · rw [choice, candidate.version]
      · intro index entry found passes
        obtain ⟨gap, metric, order⟩ := least index entry found passes
        refine ⟨gap, metric, ?_⟩
        have newer := (ends.evaluated _ _ found).version
        have version := evaluated.version
        rw [candidate.version] at version
        rw [rank_le_iff] at order
        simp only [version, newer, Nat.add_le_add_iff_right, ← candidate.unmet] at order
        exact order

end ValidationLoop
end Aise
