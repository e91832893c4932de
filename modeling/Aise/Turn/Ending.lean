import Aise.Turn.Candidate

/-! How a turn ends. The end is written down twice, as a phase and as a terminal kind, and the two
are guarded by different checks. -/
namespace Aise.Domain
open Effect
namespace TurnExecutionContext
variable {T : TurnRecords} {json : TurnJson T} {start ctx next : TurnExecutionContext T}
  {call : ContextCall T} {calls : List (ContextCall T)}

/-- The terminal kind is there exactly in the failure phase that goes with it. -/
def Matching (ctx : TurnExecutionContext T) : Prop :=
  ∀ kind, ctx.terminalKind = some kind ↔ ctx.phase = kind.phase

/-- The call marks the turn once more as what it was marked before. -/
def Repeats (ctx : TurnExecutionContext T) (call : ContextCall T) : Prop :=
  ∃ kind failure, call = markCall kind failure ∧ ctx.terminalKind = some kind

/-- Nothing of how the turn ended is different, but the error may be that of a repeated mark. -/
structure StaysEnded (ctx : TurnExecutionContext T) (call : ContextCall T)
    (next : TurnExecutionContext T) : Prop where
  phase : next.phase = ctx.phase
  committedResult : next.committedResult = ctx.committedResult
  terminalKind : next.terminalKind = ctx.terminalKind
  terminalError : next.terminalError = ctx.terminalError ∨ Repeats ctx call

/-- In a run, a terminal phase is never left, and the terminal kind always matches it. -/
structure Absorbing (json : TurnJson T) (start : TurnExecutionContext T)
    (calls : List (ContextCall T)) : Prop where
  stays : ∀ before call later, calls = before ++ call :: later →
    (execute json start before).phase.isTerminal = true →
      StaysEnded (execute json start before) call (execute json start (before ++ [call]))
  matching : ∀ before, before <+: calls → Matching (execute json start before)

def isMark : ContextCall T → Bool
  | .markFailed _ | .markCancelled _ | .markConflict _ => true
  | _ => false

/-- The call does not mark a committed turn, and is no rejection that is accepted. -/
def Permitted (ctx : TurnExecutionContext T) (call : ContextCall T) : Prop :=
  (ctx.phase = .committed → isMark call = false) ∧
    ∀ issues, call = .setValidationResult (.reject issues) → ctx.phase = .candidateReady →
      ¬ IssuesFit ctx issues.issues

theorem isMark_markCall (kind : TurnTerminalKind) (failure : TurnExecutionError) :
    isMark (markCall kind failure : ContextCall T) = true := by
  cases kind <;> rfl

theorem phase_injective {first second : TurnTerminalKind} (same : first.phase = second.phase) :
    first = second := by
  cases first <;> cases second <;> first | rfl | cases same

theorem terminal_cases {phase : TurnPhase} (terminal : phase.isTerminal = true) :
    phase = .committed ∨ ∃ kind : TurnTerminalKind, phase = kind.phase := by
  cases phase with
  | committed => exact .inl rfl
  | failed => exact .inr ⟨.failed, rfl⟩
  | cancelled => exact .inr ⟨.cancelled, rfl⟩
  | conflict => exact .inr ⟨.conflict, rfl⟩
  | _ => cases terminal

theorem phase_terminal (kind : TurnTerminalKind) : kind.phase.isTerminal = true := by
  cases kind <;> rfl

/-- In a phase that is not terminal no kind is set. -/
theorem Matching.unset (matching : Matching ctx) (going : ctx.phase.isTerminal = false) :
    ctx.terminalKind = none := by
  cases set : ctx.terminalKind with
  | none => rfl
  | some kind =>
    have terminal := phase_terminal kind
    rw [← (matching kind).mp set, going] at terminal
    cases terminal

theorem matching_of_unset (unset : next.terminalKind = none)
    (plain : ∀ kind : TurnTerminalKind, next.phase ≠ kind.phase) : Matching next := by
  intro kind
  rw [unset]
  constructor
  · intro set
    cases set
  · intro phase
    exact absurd phase (plain kind)

/-- A step between phases that are not terminal. -/
theorem Matching.going (matching : Matching ctx) (before : ctx.phase.isTerminal = false)
    (kept : next.terminalKind = ctx.terminalKind)
    (after : next.phase.isTerminal = false ∨ next.phase = .committed) : Matching next := by
  apply matching_of_unset
  · rw [kept, matching.unset before]
  · intro kind same
    rcases after with going | committed
    · have terminal := phase_terminal kind
      rw [← same, going] at terminal
      cases terminal
    · rw [committed] at same
      cases kind <;> cases same

theorem Matching.moves (matching : Matching ctx) (permitted : Permitted ctx call)
    (moves : Moves ctx call next) : Matching next := by
  cases moves with
  | prepare other before after untouched =>
    exact matching.going (not_terminal before) untouched.terminalKind (.inl (not_terminal after))
  | spend other phase untouched =>
    intro kind
    rw [untouched.terminalKind, phase]
    exact matching kind
  | generate phase | replaceStory phase room =>
    exact matching.going (by rw [phase]; rfl) rfl (.inl rfl)
  | extract other phase | extractionFailed phase =>
    refine matching.going ?_ rfl (.inl rfl)
    rcases phase with phase | phase <;> rw [phase] <;> rfl
  | @validated result phase short =>
    cases result with
    | pass | repairStory | reextractState =>
      exact matching.going (by rw [phase]; rfl) rfl (.inl rfl)
    | reject issues => exact absurd short (permitted.2 issues rfl phase)
  | commit phase => exact matching.going (by rw [phase]; rfl) rfl (.inr rfl)
  | @mark kind failure free =>
    intro other
    constructor
    · intro same
      cases same
      rfl
    · intro same
      rw [phase_injective same]

/-- A permitted call leaves a terminal phase as it is. -/
theorem Matching.stays (matching : Matching ctx) (permitted : Permitted ctx call)
    (terminal : ctx.phase.isTerminal = true) (moves : Moves ctx call next) :
    StaysEnded ctx call next := by
  have ended {phase : TurnPhase} (same : ctx.phase = phase) (going : phase.isTerminal = false) :
      False := by
    rw [same, going] at terminal
    cases terminal
  cases moves with
  | prepare other before after untouched => exact (ended rfl (not_terminal before)).elim
  | spend other phase untouched =>
    exact ⟨phase, untouched.committedResult, untouched.terminalKind, .inl untouched.terminalError⟩
  | generate phase | replaceStory phase room | commit phase | validated phase short =>
    exact (ended phase rfl).elim
  | extract other phase | extractionFailed phase =>
    rcases phase with phase | phase <;> exact (ended phase rfl).elim
  | @mark kind failure free =>
    have set : ctx.terminalKind = some kind := by
      rcases terminal_cases terminal with committed | ⟨marked, phase⟩
      · have unmarked := permitted.1 committed
        rw [isMark_markCall] at unmarked
        cases unmarked
      · have known := (matching marked).mpr phase
        rcases free with unset | set
        · rw [unset] at known
          cases known
        · exact set
    refine ⟨((matching kind).mp set).symm, rfl, set.symm, .inr ⟨kind, failure, rfl, set⟩⟩

/-! ### Whole runs -/

/-- Every call of a run is permitted where it is made. -/
def AllPermitted (json : TurnJson T) (start : TurnExecutionContext T)
    (calls : List (ContextCall T)) : Prop :=
  ∀ before call later, calls = before ++ call :: later →
    Permitted (execute json start before) call

theorem AllPermitted.before {later : List (ContextCall T)}
    (permitted : AllPermitted json start (calls ++ later)) : AllPermitted json start calls := by
  rintro before call rest rfl
  exact permitted before call (rest ++ later) (by simp)

theorem matching_execute {budget : TurnBudget} (made : new budget = .ok start)
    (permitted : AllPermitted json start calls) : Matching (execute json start calls) := by
  induction calls using List.reverseRecOn with
  | nil =>
    unfold new at made
    split at made
    · cases made
    · cases made
      apply matching_of_unset rfl
      rintro ⟨⟩ same <;> cases same
  | append_singleton calls call ih =>
    rw [execute_concat]
    have matching := ih permitted.before
    obtain ⟨failure, same⟩ | ⟨next, same, moves⟩ :=
      perform_cases json call (execute json start calls)
    · rw [same]
      exact matching
    · rw [same]
      exact matching.moves (permitted calls call [] rfl) moves

theorem absorbing_of_permitted {budget : TurnBudget} (made : new budget = .ok start)
    (permitted : AllPermitted json start calls) : Absorbing json start calls := by
  constructor
  · rintro before call later rfl terminal
    have matching := matching_execute made permitted.before
    rw [execute_concat]
    obtain ⟨failure, same⟩ | ⟨next, same, moves⟩ :=
      perform_cases json call (execute json start before)
    · rw [same]
      exact ⟨rfl, rfl, rfl, .inl rfl⟩
    · rw [same]
      exact matching.stays (permitted before call later rfl) terminal moves
  · rintro before ⟨later, rfl⟩
    exact matching_execute made permitted.before

theorem exists_markCall (marks : isMark call = true) :
    ∃ kind failure, call = markCall kind failure := by
  cases call with
  | markFailed failure => exact ⟨.failed, failure, rfl⟩
  | markCancelled failure => exact ⟨.cancelled, failure, rfl⟩
  | markConflict failure => exact ⟨.conflict, failure, rfl⟩
  | _ => cases marks

theorem perform_mark_phase (unset : ctx.terminalKind = none) (kind : TurnTerminalKind)
    (failure : TurnExecutionError) :
    (after (perform json (markCall kind failure) ctx)).phase = kind.phase := by
  have allowed : expectTerminal kind ctx = .ok ⟨⟩ ctx := by
    rw [expectTerminal, run_get_bind, unset]
    rfl
  have marked : mark kind kind.phase failure ctx = .ok ⟨⟩ { ctx with
      terminalKind := some kind, phase := kind.phase, terminalError := some failure } := by
    simp only [mark, bind, EStateM.bind, allowed]
    rfl
  cases kind <;> exact congrArg (fun ended => (after ended).phase) marked

variable (json) in
theorem perform_reject {issues : BoundedValidationIssues} (phase : ctx.phase = .candidateReady)
    (short : IssuesFit ctx issues.issues) :
    (after (perform json (.setValidationResult (.reject issues)) ctx)).phase = .failed ∧
      (after (perform json (.setValidationResult (.reject issues)) ctx)).terminalKind =
        ctx.terminalKind := by
  have fits : ensureIssuesBound issues.issues .validation ctx = .ok ⟨⟩ ctx :=
    ensureIssuesBound_eq_ok.mpr short
  have there : expectPhase .candidateReady ctx = .ok ⟨⟩ ctx := by
    rw [expectPhase, run_get_bind, throwIf, if_neg (not_not.mpr phase)]
    rfl
  simp only [perform, setValidationResult, bind, EStateM.bind, there, ValidationResult.issues, fits]
  exact ⟨rfl, rfl⟩

/-- A call that is not permitted leaves a terminal phase, or leaves the kind unset in one. -/
theorem permitted_of_absorbing (absorbing : Absorbing json start calls) :
    AllPermitted json start calls := by
  rintro before call later rfl
  have matching := absorbing.matching before (List.prefix_append _ _)
  constructor
  · intro committed
    have stays := absorbing.stays before call later rfl (by rw [committed]; rfl)
    rw [execute_concat] at stays
    rw [← Bool.not_eq_true]
    intro marks
    obtain ⟨kind, failure, rfl⟩ := exists_markCall marks
    have unset : (execute json start before).terminalKind = none := by
      cases set : (execute json start before).terminalKind with
      | none => rfl
      | some marked =>
        have phase := (matching marked).mp set
        rw [committed] at phase
        cases marked <;> cases phase
    have left := stays.phase
    rw [perform_mark_phase unset, committed] at left
    cases kind <;> cases left
  · rintro issues rfl phase short
    have after := absorbing.matching (before ++ [.setValidationResult (.reject issues)])
      ⟨later, by simp⟩
    obtain ⟨failed, kept⟩ := perform_reject json phase short
    rw [execute_concat] at after
    have set := (after .failed).mpr failed
    rw [kept, matching.unset (by rw [phase]; rfl)] at set
    cases set

end TurnExecutionContext

open TurnExecutionContext

/-- A run keeps terminal phases and their kinds exactly when it never marks a committed turn and
never has a rejection accepted. -/
theorem terminal_phases_absorbing_iff {T : TurnRecords} (json : TurnJson T) (budget : TurnBudget)
    (start : TurnExecutionContext T) (made : new budget = .ok start)
    (calls : List (ContextCall T)) :
    Absorbing json start calls ↔ AllPermitted json start calls := by
  constructor
  · intro absorbing
    exact permitted_of_absorbing absorbing
  · intro permitted
    exact absorbing_of_permitted made permitted

namespace Ending.Sample

def failure : TurnExecutionError := ⟨.cancelled, "cancelled", none, "turn cancelled"⟩

def budget : TurnBudget := Candidate.Sample.budget

def start : TurnExecutionContext Candidate.Sample.records := { budget }

/-- A turn is committed, and then marked as cancelled. -/
def marked : List (ContextCall Candidate.Sample.records) :=
  Candidate.Sample.calls ++ [.setCommittedResult (1 : Nat), .markCancelled failure]

theorem committed_then_cancelled : ¬ Absorbing Candidate.Sample.json start marked := by
  intro absorbing
  have stays := (absorbing.stays (Candidate.Sample.calls ++ [.setCommittedResult (1 : Nat)])
    (.markCancelled failure) [] (by rfl) (by decide +kernel)).phase
  exact absurd stays (by decide +kernel)

/-- A turn that fails, and that is then to be cancelled. -/
def failed : List (ContextCall Candidate.Sample.records) :=
  [.markFailed failure, .markCancelled failure]

theorem failed_permitted : AllPermitted Candidate.Sample.json start failed := by
  intro before call later same
  rcases before with _ | ⟨first, _ | ⟨second, before⟩⟩
  · cases same
    refine ⟨fun phase => ?_, fun issues same => ?_⟩
    · cases phase
    · cases same
  · cases same
    refine ⟨fun phase => ?_, fun issues same => ?_⟩
    · cases phase
    · cases same
  · simp [failed] at same

theorem failed_stays_failed :
    (execute Candidate.Sample.json start failed).phase = .failed ∧
      Absorbing Candidate.Sample.json start failed :=
  ⟨by decide +kernel, (terminal_phases_absorbing_iff Candidate.Sample.json budget start rfl
    failed).mpr failed_permitted⟩

end Ending.Sample

end Aise.Domain
