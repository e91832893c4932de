import Aise.Turn.TurnBudget

/-! The counters of a turn's budget, along every order in which calls reserve, settle and release.
-/
namespace Aise.Domain
open Saturating Effect TurnBudget

/-- A scope with the reservations that were made and not yet consumed. -/
structure BudgetRun where
  scope : TurnLlmCallScope
  outstanding : List LlmBudgetReservation := []
  deriving DecidableEq

inductive BudgetEvent where
  | reserve (callId : LlmCallId) (estimatedInput requestedOutput : UInt64)
  | settle (reservation : LlmBudgetReservation) (usage : LlmCallUsage)
  | release (reservation : LlmBudgetReservation)
  deriving DecidableEq

namespace BudgetRun

/-- A turn's budget before the first call. -/
def fresh (limits : TurnBudgetLimits) : BudgetRun := { scope := { budget := { limits } } }

abbrev usage (state : BudgetRun) : TurnBudgetUsage := state.scope.budget.usage

abbrev limits (state : BudgetRun) : TurnBudgetLimits := state.scope.budget.limits

/-- One call. A reservation is consumed by settling or releasing it, and only while it is
outstanding. -/
def step (state : BudgetRun) : BudgetEvent → Option BudgetRun
  | .reserve callId estimatedInput requestedOutput =>
    match TurnLlmCallScope.reserveLlm callId estimatedInput requestedOutput state.scope with
    | .ok reservation scope => some ⟨scope, reservation :: state.outstanding⟩
    | .error _ scope => some ⟨scope, state.outstanding⟩
  | .settle reservation usage =>
    if reservation ∈ state.outstanding then
      some ⟨after (TurnLlmCallScope.settleLlm reservation usage state.scope),
        state.outstanding.erase reservation⟩
    else none
  | .release reservation =>
    if reservation ∈ state.outstanding then
      some ⟨after (TurnLlmCallScope.releaseLlm reservation state.scope),
        state.outstanding.erase reservation⟩
    else none

/-- The call returns an error. -/
def refuses (state : BudgetRun) : BudgetEvent → Bool
  | .reserve callId estimatedInput requestedOutput =>
    match TurnLlmCallScope.reserveLlm callId estimatedInput requestedOutput state.scope with
    | .ok _ _ => false
    | .error _ _ => true
  | .settle reservation usage =>
    match TurnLlmCallScope.settleLlm reservation usage state.scope with
    | .ok _ _ => false
    | .error _ _ => true
  | .release _ => false

end BudgetRun

/-- The operands of the saturating additions of `charged`. -/
def TurnBudgetUsage.additions (usage : TurnBudgetUsage) (input output : UInt64) :
    List (UInt64 × UInt64) :=
  [(usage.inputTokens, input), (usage.outputTokens, output), (usage.totalTokens, input),
    (add usage.totalTokens input, output)]

/-- The operands of the saturating subtractions of `released`. -/
def TurnBudgetUsage.subtractions (usage : TurnBudgetUsage) (reservation : LlmBudgetReservation) :
    List (UInt64 × UInt64) :=
  [(usage.inputTokens, reservation.reservedInputTokens),
    (usage.outputTokens, reservation.reservedOutputTokens),
    (usage.totalTokens, reservation.reservedInputTokens),
    (sub usage.totalTokens reservation.reservedInputTokens, reservation.reservedOutputTokens)]

namespace BudgetRun

/-- The additions a call computes. The limit on calls is checked before any. -/
def additions (state : BudgetRun) : BudgetEvent → List (UInt64 × UInt64)
  | .reserve _ estimatedInput requestedOutput =>
    if state.usage.llmCalls ≥ state.limits.maxLlmCalls then []
    else state.usage.additions estimatedInput requestedOutput
  | .settle reservation usage =>
    (state.usage.released reservation).additions usage.inputTokens usage.outputTokens
  | .release _ => []

def subtractions (state : BudgetRun) : BudgetEvent → List (UInt64 × UInt64)
  | .reserve _ _ _ => []
  | .settle reservation _ | .release reservation => state.usage.subtractions reservation

end BudgetRun

/-- Tokens, summed over reservations or settled calls. -/
def tokens {α : Type} (count : α → UInt64) (items : List α) : Nat :=
  (items.map fun item => (count item).toNat).sum

/-- The counters are the outstanding reservations and the usage of the settled calls. -/
structure Accounted (state : BudgetRun) : Prop where
  input : state.usage.inputTokens.toNat =
    tokens (·.reservedInputTokens) state.outstanding + tokens (·.inputTokens) state.scope.llmCalls
  output : state.usage.outputTokens.toNat =
    tokens (·.reservedOutputTokens) state.outstanding + tokens (·.outputTokens) state.scope.llmCalls
  total : state.usage.totalTokens.toNat =
    tokens (·.reservedInputTokens) state.outstanding +
      tokens (·.reservedOutputTokens) state.outstanding +
      (tokens (·.inputTokens) state.scope.llmCalls + tokens (·.outputTokens) state.scope.llmCalls)

/-- A call subtracts exactly, adds exactly unless it is refused, and a refused one changes nothing
but that a settlement gives its reservation back. -/
structure CallKept (state : BudgetRun) (event : BudgetEvent) (next : BudgetRun) : Prop where
  subtracts : ∀ pair ∈ state.subtractions event, pair.2 ≤ pair.1
  adds : state.refuses event = false →
    ∀ pair ∈ state.additions event, pair.1.toNat + pair.2.toNat ≤ max64
  refusedReserve : ∀ callId estimatedInput requestedOutput,
    event = .reserve callId estimatedInput requestedOutput → state.refuses event = true →
      next = state
  refusedSettle : ∀ reservation usage, event = .settle reservation usage →
    state.refuses event = true → state.step (.release reservation) = some next

/-- The limits are below the largest `u64`. -/
structure Bounded (limits : TurnBudgetLimits) : Prop where
  input : limits.maxInputTokens.toNat < max64
  output : limits.maxOutputTokens.toNat < max64
  total : limits.maxTotalTokens.toNat < max64

/-! ### Sums -/

section
variable {α : Type} {count : α → UInt64} {items : List α}

theorem tokens_cons (item : α) :
    tokens count (item :: items) = (count item).toNat + tokens count items := by
  rw [tokens, List.map_cons, List.sum_cons, tokens]

theorem tokens_concat (item : α) :
    tokens count (items ++ [item]) = tokens count items + (count item).toNat := by
  simp only [tokens, List.map_append, List.sum_append, List.map_cons, List.map_nil, List.sum_cons,
    List.sum_nil, Nat.add_zero]

theorem tokens_erase [DecidableEq α] (count : α → UInt64) {item : α} (member : item ∈ items) :
    tokens count items = (count item).toNat + tokens count (items.erase item) := by
  rw [← tokens_cons, tokens, tokens, ((List.perm_cons_erase member).map _).sum_eq]

end

/-! ### One call -/

section
variable {limits : TurnBudgetLimits} {usage : TurnBudgetUsage} {input output : UInt64}

/-- A charge that stays below the limits is exact. -/
theorem charged_exact (bounded : Bounded limits) (within : Within limits (usage.charged input output)) :
    (usage.charged input output).inputTokens.toNat = usage.inputTokens.toNat + input.toNat ∧
    (usage.charged input output).outputTokens.toNat = usage.outputTokens.toNat + output.toNat ∧
    (usage.charged input output).totalTokens.toNat =
      usage.totalTokens.toNat + input.toNat + output.toNat := by
  obtain ⟨inputs, outputs, totals⟩ := within
  obtain ⟨inputBelow, outputBelow, totalBelow⟩ := bounded
  rw [UInt64.le_iff_toNat_le] at inputs outputs totals
  simp only [TurnBudgetUsage.charged, toNat_add] at inputs outputs totals ⊢
  omega

theorem additions_exact (bounded : Bounded limits)
    (within : Within limits (usage.charged input output)) :
    ∀ pair ∈ usage.additions input output, pair.1.toNat + pair.2.toNat ≤ max64 := by
  obtain ⟨inputs, outputs, totals⟩ := charged_exact bounded within
  have inputFits := toNat_le (usage.charged input output).inputTokens
  have outputFits := toNat_le (usage.charged input output).outputTokens
  have totalFits := toNat_le (usage.charged input output).totalTokens
  simp only [TurnBudgetUsage.additions, List.forall_mem_cons, toNat_add]
  refine ⟨by omega, by omega, by omega, by omega, by simp⟩

end

namespace BudgetRun
variable {state next : BudgetRun} {event : BudgetEvent}

/-- Every call, with how it ends. -/
inductive Moves (state : BudgetRun) : BudgetEvent → BudgetRun → Prop where
  | refused {callId : LlmCallId} {input output : UInt64}
      (refuses : state.refuses (.reserve callId input output) = true) :
      Moves state (.reserve callId input output) state
  | reserved {callId : LlmCallId} {input output : UInt64}
      (accepts : state.refuses (.reserve callId input output) = false)
      (left : state.usage.llmCalls < state.limits.maxLlmCalls)
      (within : Within state.limits (state.usage.charged input output)) :
      Moves state (.reserve callId input output)
        { scope := { state.scope with
            budget := { state.scope.budget with usage := state.usage.charged input output } }
          outstanding := ⟨callId, input, output⟩ :: state.outstanding }
  | exceeded {reservation : LlmBudgetReservation} {usage : LlmCallUsage}
      (held : reservation ∈ state.outstanding)
      (refuses : state.refuses (.settle reservation usage) = true) :
      Moves state (.settle reservation usage)
        ⟨state.scope.released reservation, state.outstanding.erase reservation⟩
  | settled {reservation : LlmBudgetReservation} {usage : LlmCallUsage}
      (held : reservation ∈ state.outstanding)
      (accepts : state.refuses (.settle reservation usage) = false)
      (room : state.scope.Room reservation usage) :
      Moves state (.settle reservation usage)
        ⟨state.scope.settled reservation usage, state.outstanding.erase reservation⟩
  | released {reservation : LlmBudgetReservation} (held : reservation ∈ state.outstanding) :
      Moves state (.release reservation)
        ⟨state.scope.released reservation, state.outstanding.erase reservation⟩

theorem step_moves (stepped : state.step event = some next) : Moves state event next := by
  cases event with
  | reserve callId input output =>
    obtain ⟨error, same⟩ | ⟨left, within, same⟩ :=
      TurnLlmCallScope.reserveLlm_cases state.scope callId input output
    · have refuses : state.refuses (.reserve callId input output) = true := by
        rw [BudgetRun.refuses, same]
      rw [step, same] at stepped
      cases stepped
      exact .refused refuses
    · have accepts : state.refuses (.reserve callId input output) = false := by
        rw [BudgetRun.refuses, same]
      rw [step, same] at stepped
      cases stepped
      exact .reserved accepts left within
  | settle reservation usage =>
    rw [step, Option.ite_none_right_eq_some] at stepped
    obtain ⟨held, stepped⟩ := stepped
    by_cases room : state.scope.Room reservation usage
    · have same := TurnLlmCallScope.settleLlm_of_room room
      have accepts : state.refuses (.settle reservation usage) = false := by
        rw [BudgetRun.refuses, same]
      rw [same] at stepped
      cases stepped
      exact .settled held accepts room
    · obtain ⟨error, same⟩ := TurnLlmCallScope.settleLlm_of_full room
      have refuses : state.refuses (.settle reservation usage) = true := by
        rw [BudgetRun.refuses, same]
      rw [same] at stepped
      cases stepped
      exact .exceeded held refuses
  | release reservation =>
    rw [step, Option.ite_none_right_eq_some] at stepped
    obtain ⟨held, stepped⟩ := stepped
    cases stepped
    exact .released held

/-- Giving an outstanding reservation back takes exactly its tokens off the counters. -/
theorem released_exact {reservation : LlmBudgetReservation} (accounted : Accounted state)
    (held : reservation ∈ state.outstanding) :
    Accounted ⟨state.scope.released reservation, state.outstanding.erase reservation⟩ ∧
      ∀ pair ∈ state.usage.subtractions reservation, pair.2 ≤ pair.1 := by
  obtain ⟨input, output, total⟩ := accounted
  have inputs := tokens_erase (fun item => item.reservedInputTokens) held
  have outputs := tokens_erase (fun item => item.reservedOutputTokens) held
  constructor
  · constructor <;>
      simp only [usage, TurnLlmCallScope.released, TurnBudgetUsage.released, toNat_sub] at * <;>
      omega
  · simp only [TurnBudgetUsage.subtractions, List.forall_mem_cons, UInt64.le_iff_toNat_le, toNat_sub]
    refine ⟨by omega, by omega, by omega, by omega, by simp⟩

/-- What holds between calls. -/
structure Steady (limits : TurnBudgetLimits) (state : BudgetRun) : Prop where
  same : state.limits = limits
  accounted : Accounted state
  within : Within limits state.usage

theorem steady_fresh (limits : TurnBudgetLimits) : (fresh limits).Steady limits where
  same := rfl
  accounted := ⟨rfl, rfl, rfl⟩
  within := ⟨UInt64.zero_le, UInt64.zero_le, UInt64.zero_le⟩

theorem within_released {limits : TurnBudgetLimits} {usage : TurnBudgetUsage}
    (within : Within limits usage) (reservation : LlmBudgetReservation) :
    Within limits (usage.released reservation) := by
  obtain ⟨input, output, total⟩ := within
  rw [UInt64.le_iff_toNat_le] at input output total
  constructor <;> rw [UInt64.le_iff_toNat_le] <;>
    simp only [TurnBudgetUsage.released, toNat_sub] <;> omega

theorem Steady.step {limits : TurnBudgetLimits} (bounded : Bounded limits)
    (steady : state.Steady limits) (stepped : state.step event = some next) : next.Steady limits := by
  obtain ⟨rfl, accounted, within⟩ := steady
  cases step_moves stepped with
  | refused refuses => exact ⟨rfl, accounted, within⟩
  | reserved accepts left room =>
    obtain ⟨inputs, outputs, totals⟩ := charged_exact bounded room
    obtain ⟨input, output, total⟩ := accounted
    refine ⟨rfl, ?_, room⟩
    constructor <;> simp only [usage, tokens_cons] at * <;> omega
  | exceeded held refuses | released held =>
    exact ⟨rfl, (released_exact accounted held).1, within_released within _⟩
  | settled held accepts room =>
    obtain ⟨inputs, outputs, totals⟩ := charged_exact bounded room
    obtain ⟨input, output, total⟩ := (released_exact accounted held).1
    refine ⟨rfl, ?_, ⟨room.input, room.output, room.total⟩⟩
    constructor <;>
      simp only [usage, TurnLlmCallScope.settled, TurnLlmCallScope.released, tokens_concat] at * <;>
      omega

theorem Steady.call {limits : TurnBudgetLimits} (bounded : Bounded limits)
    (steady : state.Steady limits) (stepped : state.step event = some next) :
    CallKept state event next := by
  obtain ⟨rfl, accounted, within⟩ := steady
  cases step_moves stepped with
  | refused refuses =>
    constructor
    · intro pair member
      cases member
    · intro accepted
      rw [refuses] at accepted
      cases accepted
    · intro callId input output same refused
      rfl
    · intro reservation usage same
      cases same
  | reserved accepts left room =>
    constructor
    · intro pair member
      cases member
    · intro accepted
      rw [additions, if_neg (UInt32.not_le.mpr left)]
      exact additions_exact bounded room
    · intro callId input output same refused
      rw [accepts] at refused
      cases refused
    · intro reservation usage same
      cases same
  | exceeded held refuses =>
    constructor
    · exact (released_exact accounted held).2
    · intro accepted
      rw [refuses] at accepted
      cases accepted
    · intro callId input output same
      cases same
    · intro reservation usage same refused
      cases same
      rw [BudgetRun.step, if_pos held]
      rfl
  | settled held accepts room =>
    constructor
    · exact (released_exact accounted held).2
    · intro accepted
      exact additions_exact bounded room
    · intro callId input output same
      cases same
    · intro reservation usage same refused
      rw [accepts] at refused
      cases refused
  | released held =>
    constructor
    · exact (released_exact accounted held).2
    · intro accepted pair member
      cases member
    · intro callId input output same
      cases same
    · intro reservation usage same
      cases same

/-- The settled calls, with one more for a reservation that may still be settled. -/
def Spared (limits : TurnBudgetLimits) (state : BudgetRun) : Prop :=
  state.limits = limits ∧ state.outstanding.length ≤ 1 ∧
    state.usage.llmCalls.toNat + state.outstanding.length ≤ limits.maxLlmCalls.toNat

theorem Spared.step {limits : TurnBudgetLimits} (spared : state.Spared limits)
    (stepped : state.step event = some next) (alone : next.outstanding.length ≤ 1) :
    next.Spared limits := by
  obtain ⟨rfl, single, calls⟩ := spared
  cases step_moves stepped with
  | refused refuses => exact ⟨rfl, single, calls⟩
  | reserved accepts left room =>
    refine ⟨rfl, alone, ?_⟩
    rw [List.length_cons] at alone
    rw [UInt32.lt_iff_toNat_lt] at left
    simp only [usage, TurnBudgetUsage.charged, List.length_cons] at *
    omega
  | exceeded held refuses | released held =>
    refine ⟨rfl, alone, ?_⟩
    have shorter := List.length_erase_of_mem held
    simp only [usage, TurnLlmCallScope.released, TurnBudgetUsage.released] at *
    omega
  | settled held accepts room =>
    refine ⟨rfl, alone, ?_⟩
    have shorter := List.length_erase_of_mem held
    have some := List.length_pos_of_mem held
    have counted : (state.usage.llmCalls + 1).toNat ≤ state.usage.llmCalls.toNat + 1 := by
      rw [UInt32.toNat_add]
      exact Nat.mod_le _ _
    simp only [usage, TurnLlmCallScope.settled] at *
    omega

end BudgetRun

open BudgetRun Transition

/-- In every order of calls the counters are the outstanding reservations and the settled usage,
and stay within their limits. With one reservation at a time the limit on calls holds as well. -/
theorem turn_budget_accounted (limits : TurnBudgetLimits) (bounded : Bounded limits)
    (events : List BudgetEvent) (state : BudgetRun)
    (ran : replay step (fresh limits) events = some state) :
    (Accounted state ∧ Within limits state.usage ∧
      ∀ event next, state.step event = some next → CallKept state event next) ∧
    ((∀ before, before <+: events → ∀ reached, replay step (fresh limits) before = some reached →
        reached.outstanding.length ≤ 1) →
      state.usage.llmCalls ≤ limits.maxLlmCalls) := by
  constructor
  · have steady : state.Steady limits :=
      replay_invariant (Q := fun _ => True) (fun steady stepped _ => steady.step bounded stepped)
        (fun _ _ _ _ => trivial) ran (steady_fresh limits)
    exact ⟨steady.accounted, steady.within, fun event next => steady.call bounded⟩
  · intro alone
    have spared : state.Spared limits :=
      replay_invariant (fun spared stepped single => spared.step stepped single) alone ran
        ⟨rfl, Nat.zero_le _, Nat.zero_le _⟩
    obtain ⟨-, -, calls⟩ := spared
    rw [UInt32.le_iff_toNat_le]
    omega

namespace Reservations.Sample

def limits : TurnBudgetLimits where
  maxRepairRounds := 1
  maxLlmCalls := 4
  maxInputTokens := 100
  maxOutputTokens := 100
  maxTotalTokens := 150
  maxItemsPerAudience := 1
  maxTokensPerAudience := 1
  maxTotalItems := 1
  maxRetrievedTokens := 1
  maxItemBytes := 1
  maxContextTokens := 1
  maxCharacterDecisions := 1
  maxCharacterDecisionBytes := 1
  maxPlanBytes := 1
  maxStoryTextBytes := 1
  maxStateExtractionBytes := 1
  maxValidationIssueBytes := 1

def reservation (name : String) : LlmBudgetReservation := ⟨⟨name⟩, 30, 20⟩

def usage (name : String) (output : UInt64) : LlmCallUsage where
  callId := ⟨name⟩
  purpose := .writerPlan
  provider := "local"
  model := "small"
  inputTokens := 25
  cachedInputTokens := none
  outputTokens := output
  totalTokens := 25 + output
  accuracy := .exact
  pricingVersion := none
  charge := none
  finishReason := some .stop

/-- Two calls at a time: one settles for less, one is refused for more than is left. -/
def events : List BudgetEvent :=
  [.reserve ⟨"first"⟩ 30 20, .reserve ⟨"second"⟩ 30 20,
    .settle (reservation "first") (usage "first" 10), .settle (reservation "second") (usage "second" 95)]

theorem bounded : Bounded limits where
  input := by decide
  output := by decide
  total := by decide

theorem turn_budget_sample :
    (replay step (fresh limits) events).any (fun state =>
      state.usage.totalTokens == 35 && state.scope.llmCalls.length == 1) = true ∧
    ∀ state, replay step (fresh limits) events = some state → Accounted state :=
  ⟨by decide +kernel, fun state ran =>
    (turn_budget_accounted limits bounded events state ran).1.1⟩

/-- A refused reservation computes a sum that saturates, and throws it away. -/
theorem addition_saturates : ¬ ∀ (limits : TurnBudgetLimits), Bounded limits →
    ∀ (events : List BudgetEvent) (state : BudgetRun),
      replay step (fresh limits) events = some state →
        ∀ (event : BudgetEvent) (next : BudgetRun), state.step event = some next →
          ∀ pair ∈ state.additions event, pair.1.toNat + pair.2.toNat ≤ max64 := by
  intro exact
  have start : replay step (fresh limits) [.reserve ⟨"first"⟩ 30 20] =
      some ⟨⟨⟨limits, { inputTokens := 30, outputTokens := 20, totalTokens := 50 }⟩, []⟩,
        [reservation "first"]⟩ := by decide +kernel
  have sums := exact limits bounded _ _ start (.reserve ⟨"second"⟩ (UInt64.ofNat max64) 0) _ (by rfl)
    (30, UInt64.ofNat max64) (by decide +kernel)
  exact absurd sums (by decide +kernel)

end Reservations.Sample

end Aise.Domain
