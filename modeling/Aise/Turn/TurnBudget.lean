import Mathlib.Algebra.BigOperators.Group.List.Basic
import Mathlib.Algebra.Order.Group.Nat
import Mathlib.Algebra.GroupWithZero.Nat
import Aise.Lib.Effect
import Aise.Lib.Saturating
import Aise.Lib.Transition
import Aise.Turn.TurnContract

/-! The token budget of a turn. A call to the model reserves what it may cost, and later settles
for what it did cost or gives the reservation back. -/
namespace Aise.Domain
open Saturating Effect

structure TurnBudgetLimits where
  maxRepairRounds : UInt32
  maxLlmCalls : UInt32
  maxInputTokens : UInt64
  maxOutputTokens : UInt64
  maxTotalTokens : UInt64
  maxItemsPerAudience : Nat
  maxTokensPerAudience : UInt64
  maxTotalItems : Nat
  maxRetrievedTokens : UInt64
  maxItemBytes : Nat
  maxContextTokens : UInt64
  maxCharacterDecisions : Nat
  maxCharacterDecisionBytes : Nat
  maxPlanBytes : Nat
  maxStoryTextBytes : Nat
  maxStateExtractionBytes : Nat
  maxValidationIssueBytes : Nat
  deriving DecidableEq

structure TurnBudgetUsage where
  llmCalls : UInt32 := 0
  inputTokens : UInt64 := 0
  outputTokens : UInt64 := 0
  totalTokens : UInt64 := 0
  correctionRounds : UInt32 := 0
  storyRepairRounds : UInt32 := 0
  stateReextractionRounds : UInt32 := 0
  deriving DecidableEq

namespace TurnBudgetUsage

/-- The three counters after `saturating_add`. -/
def charged (usage : TurnBudgetUsage) (input output : UInt64) : TurnBudgetUsage :=
  { usage with
    inputTokens := add usage.inputTokens input
    outputTokens := add usage.outputTokens output
    totalTokens := add (add usage.totalTokens input) output }

/-- The three counters after `saturating_sub`. -/
def released (usage : TurnBudgetUsage) (reservation : LlmBudgetReservation) : TurnBudgetUsage :=
  { usage with
    inputTokens := sub usage.inputTokens reservation.reservedInputTokens
    outputTokens := sub usage.outputTokens reservation.reservedOutputTokens
    totalTokens := sub (sub usage.totalTokens reservation.reservedInputTokens)
      reservation.reservedOutputTokens }

end TurnBudgetUsage

structure TurnBudget where
  limits : TurnBudgetLimits
  usage : TurnBudgetUsage := {}
  deriving DecidableEq

inductive CorrectionKind where
  | storyRepair | stateReextraction
  deriving DecidableEq

namespace TurnBudget

def budgetError (message : String) : TurnExecutionError :=
  ⟨.tokenBudgetExceeded, "token_budget_exceeded", none, message⟩

def remainingOutputTokens (budget : TurnBudget) : UInt64 :=
  sub budget.limits.maxOutputTokens budget.usage.outputTokens

def consumeCorrectionRound (kind : CorrectionKind) :
    EStateM TurnExecutionError TurnBudget Unit := do
  let budget ← get
  let usage := budget.usage
  throwIf (usage.correctionRounds ≥ budget.limits.maxRepairRounds)
    ⟨.validationBudgetExhausted, "validation_budget_exhausted", none,
      s!"validation failed after {usage.correctionRounds.toNat} correction rounds"⟩
  let usage := { usage with correctionRounds := usage.correctionRounds + 1 }
  match kind with
  | .storyRepair =>
    set { budget with usage := { usage with storyRepairRounds := usage.storyRepairRounds + 1 } }
  | .stateReextraction =>
    set { budget with
      usage := { usage with stateReextractionRounds := usage.stateReextractionRounds + 1 } }

/-- The reservation's id is fresh from a random source and is given here. -/
def reserveLlm (callId : LlmCallId) (inputTokens maximumOutputTokens : UInt64) :
    EStateM TurnExecutionError TurnBudget LlmBudgetReservation := do
  let budget ← get
  throwIf (budget.usage.llmCalls ≥ budget.limits.maxLlmCalls)
    (budgetError s!"llm call limit {budget.limits.maxLlmCalls.toNat} reached")
  let projected := budget.usage.charged inputTokens maximumOutputTokens
  throwIf (projected.inputTokens > budget.limits.maxInputTokens)
    (budgetError "input token limit")
  throwIf (projected.outputTokens > budget.limits.maxOutputTokens)
    (budgetError "output token limit")
  throwIf (projected.totalTokens > budget.limits.maxTotalTokens)
    (budgetError "total token limit")
  set { budget with usage := projected }
  return ⟨callId, inputTokens, maximumOutputTokens⟩

def settleLlm (reservation : LlmBudgetReservation) (usage : LlmCallUsage) :
    EStateM TurnExecutionError TurnBudget Unit := do
  modify fun budget => { budget with usage := budget.usage.released reservation }
  let budget ← get
  let settled := budget.usage.charged usage.inputTokens usage.outputTokens
  throwIf (settled.inputTokens > budget.limits.maxInputTokens)
    (budgetError "input token limit exceeded")
  throwIf (settled.outputTokens > budget.limits.maxOutputTokens)
    (budgetError "output token limit exceeded")
  throwIf (settled.totalTokens > budget.limits.maxTotalTokens)
    (budgetError "total token limit exceeded")
  set { budget with usage := { settled with llmCalls := settled.llmCalls + 1 } }

def releaseLlm (reservation : LlmBudgetReservation) : EStateM TurnExecutionError TurnBudget Unit :=
  modify fun budget => { budget with usage := budget.usage.released reservation }

/-- The counters are at most their limits. -/
structure Within (limits : TurnBudgetLimits) (usage : TurnBudgetUsage) : Prop where
  input : usage.inputTokens ≤ limits.maxInputTokens
  output : usage.outputTokens ≤ limits.maxOutputTokens
  total : usage.totalTokens ≤ limits.maxTotalTokens

theorem within_iff {limits : TurnBudgetLimits} {usage : TurnBudgetUsage} :
    Within limits usage ↔ usage.inputTokens ≤ limits.maxInputTokens ∧
      usage.outputTokens ≤ limits.maxOutputTokens ∧ usage.totalTokens ≤ limits.maxTotalTokens := by
  constructor
  · rintro ⟨input, output, total⟩
    exact ⟨input, output, total⟩
  · rintro ⟨input, output, total⟩
    exact ⟨input, output, total⟩

instance {limits : TurnBudgetLimits} {usage : TurnBudgetUsage} : Decidable (Within limits usage) :=
  decidable_of_iff _ within_iff.symm

/-- A reservation is made when a call is left and the counters stay within their limits;
otherwise nothing changes. -/
theorem reserveLlm_cases (budget : TurnBudget) (callId : LlmCallId) (input output : UInt64) :
    (∃ error, reserveLlm callId input output budget = .error error budget) ∨
    (budget.usage.llmCalls < budget.limits.maxLlmCalls ∧
      Within budget.limits (budget.usage.charged input output) ∧
      reserveLlm callId input output budget =
        .ok ⟨callId, input, output⟩ { budget with usage := budget.usage.charged input output }) := by
  simp only [reserveLlm, run_get_bind, run_throwIf_bind, run_set_bind, run_pure]
  split
  · exact .inl ⟨_, rfl⟩
  split
  · exact .inl ⟨_, rfl⟩
  split
  · exact .inl ⟨_, rfl⟩
  split
  · exact .inl ⟨_, rfl⟩
  rename_i calls input output total
  exact .inr ⟨UInt32.not_le.mp calls, ⟨UInt64.not_lt.mp input, UInt64.not_lt.mp output,
    UInt64.not_lt.mp total⟩, rfl⟩

/-- A settlement gives the reservation back, and then charges the usage where there is room. -/
theorem settleLlm_cases (budget : TurnBudget) (reservation : LlmBudgetReservation)
    (usage : LlmCallUsage) :
    (¬ Within budget.limits
        ((budget.usage.released reservation).charged usage.inputTokens usage.outputTokens) ∧
      ∃ error, settleLlm reservation usage budget =
        .error error { budget with usage := budget.usage.released reservation }) ∨
    (Within budget.limits
        ((budget.usage.released reservation).charged usage.inputTokens usage.outputTokens) ∧
      settleLlm reservation usage budget = .ok ⟨⟩ { budget with
        usage := { (budget.usage.released reservation).charged usage.inputTokens usage.outputTokens with
          llmCalls := budget.usage.llmCalls + 1 } }) := by
  simp only [settleLlm, run_modify_bind, run_get_bind, run_throwIf_bind, run_set]
  split
  · rename_i input
    exact .inl ⟨fun within => UInt64.not_lt.mpr within.input input, _, rfl⟩
  split
  · rename_i output
    exact .inl ⟨fun within => UInt64.not_lt.mpr within.output output, _, rfl⟩
  split
  · rename_i total
    exact .inl ⟨fun within => UInt64.not_lt.mpr within.total total, _, rfl⟩
  rename_i input output total
  exact .inr ⟨⟨UInt64.not_lt.mp input, UInt64.not_lt.mp output, UInt64.not_lt.mp total⟩, rfl⟩

end TurnBudget

/-- What a call to the model changes of the turn: the budget, and the list of settled calls. -/
structure TurnLlmCallScope where
  budget : TurnBudget
  llmCalls : List LlmCallUsage := []
  deriving DecidableEq

namespace TurnLlmCallScope

def onBudget {α : Type} (prog : EStateM TurnExecutionError TurnBudget α) :
    EStateM TurnExecutionError TurnLlmCallScope α :=
  zoom budget (fun scope budget => { scope with budget }) prog

def reserveLlm (callId : LlmCallId) (estimatedInput requestedOutput : UInt64) :
    EStateM TurnExecutionError TurnLlmCallScope LlmBudgetReservation :=
  onBudget (TurnBudget.reserveLlm callId estimatedInput requestedOutput)

def releaseLlm (reservation : LlmBudgetReservation) :
    EStateM TurnExecutionError TurnLlmCallScope Unit :=
  onBudget (TurnBudget.releaseLlm reservation)

def settleLlm (reservation : LlmBudgetReservation) (usage : LlmCallUsage) :
    EStateM TurnExecutionError TurnLlmCallScope Unit := do
  onBudget (TurnBudget.settleLlm reservation usage)
  modify fun scope => { scope with llmCalls := scope.llmCalls ++ [usage] }

/-- The scope once a reservation is given back. -/
def released (scope : TurnLlmCallScope) (reservation : LlmBudgetReservation) : TurnLlmCallScope :=
  { scope with budget := { scope.budget with usage := scope.budget.usage.released reservation } }

/-- The scope once a usage is charged in a reservation's place. -/
def settled (scope : TurnLlmCallScope) (reservation : LlmBudgetReservation) (usage : LlmCallUsage) :
    TurnLlmCallScope where
  budget := { scope.budget with
    usage := { (scope.budget.usage.released reservation).charged usage.inputTokens
        usage.outputTokens with llmCalls := scope.budget.usage.llmCalls + 1 } }
  llmCalls := scope.llmCalls ++ [usage]

/-- There is room for a usage in a reservation's place. -/
def Room (scope : TurnLlmCallScope) (reservation : LlmBudgetReservation) (usage : LlmCallUsage) :
    Prop :=
  TurnBudget.Within scope.budget.limits ((scope.budget.usage.released reservation).charged
    usage.inputTokens usage.outputTokens)

instance (scope : TurnLlmCallScope) (reservation : LlmBudgetReservation) (usage : LlmCallUsage) :
    Decidable (scope.Room reservation usage) :=
  inferInstanceAs (Decidable (TurnBudget.Within _ _))

variable {scope : TurnLlmCallScope} {reservation : LlmBudgetReservation} {usage : LlmCallUsage}

theorem reserveLlm_cases (scope : TurnLlmCallScope) (callId : LlmCallId) (input output : UInt64) :
    (∃ error, reserveLlm callId input output scope = .error error scope) ∨
    (scope.budget.usage.llmCalls < scope.budget.limits.maxLlmCalls ∧
      TurnBudget.Within scope.budget.limits (scope.budget.usage.charged input output) ∧
      reserveLlm callId input output scope = .ok ⟨callId, input, output⟩
        { scope with
          budget := { scope.budget with usage := scope.budget.usage.charged input output } }) := by
  unfold reserveLlm onBudget zoom
  obtain ⟨error, same⟩ | ⟨calls, within, same⟩ :=
    TurnBudget.reserveLlm_cases scope.budget callId input output
  · rw [same]
    exact .inl ⟨error, rfl⟩
  · rw [same]
    exact .inr ⟨calls, within, rfl⟩

theorem settleLlm_of_room (room : scope.Room reservation usage) :
    settleLlm reservation usage scope = .ok ⟨⟩ (scope.settled reservation usage) := by
  obtain ⟨full, -⟩ | ⟨-, same⟩ := TurnBudget.settleLlm_cases scope.budget reservation usage
  · exact absurd room full
  · simp only [settleLlm, onBudget, zoom, bind, EStateM.bind, same]
    rfl

theorem settleLlm_of_full (full : ¬ scope.Room reservation usage) :
    ∃ error, settleLlm reservation usage scope = .error error (scope.released reservation) := by
  obtain ⟨-, error, same⟩ | ⟨within, -⟩ := TurnBudget.settleLlm_cases scope.budget reservation usage
  · refine ⟨error, ?_⟩
    simp only [settleLlm, onBudget, zoom, bind, EStateM.bind, same]
    rfl
  · exact absurd within full

end TurnLlmCallScope

end Aise.Domain
