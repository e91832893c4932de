import Aise.Domain.Retrieval
import Aise.Turn.TurnBudget

/-! A call to the model. A reservation is made before it; whatever becomes of the call, the
reservation is settled for what was used or given back. -/
namespace Aise.Domain
open RustText Saturating Effect

inductive LlmTransportErrorKind where
  | connect | timeout | io | serialization | server
  deriving DecidableEq

inductive LlmProtocolErrorKind where
  | invalidJson | emptyChoices | invalidSseLine | streamTooLarge | usageMissing | unsupported
  | structuredOutputUnsupported | invalidStructuredOutput
  deriving DecidableEq

inductive LlmResponseLimit where
  | content | reasoning | sseLine | streamBuffer | embeddingDimensions | embeddingItems
  deriving DecidableEq

inductive LlmProviderError where
  | rateLimited (retryAfterMs : Option UInt64)
  | rejected (status : UInt16) (code message : Option String)
  | transport (kind : LlmTransportErrorKind)
  | protocol (kind : LlmProtocolErrorKind)
  | responseLimitExceeded (limit : LlmResponseLimit)
  deriving DecidableEq

inductive LlmError where
  | cancelled | turnDeadlineExceeded | providerTimeout | queueTimeout
  | rateLimited (retryAfterMs : Option UInt64)
  | tokenBudgetExceeded (message : String)
  | providerRejected (status : UInt16) (code message : Option String)
  | transport (kind : LlmTransportErrorKind)
  | protocol (kind : LlmProtocolErrorKind)
  | responseLimitExceeded (limit : LlmResponseLimit)
  | embeddingUnsupported
  deriving DecidableEq

def LlmError.ofProvider : LlmProviderError → LlmError
  | .rateLimited retryAfterMs => .rateLimited retryAfterMs
  | .rejected status code message => .providerRejected status code message
  | .transport kind => .transport kind
  | .protocol kind => .protocol kind
  | .responseLimitExceeded limit => .responseLimitExceeded limit

structure LlmCompletion where
  text : String
  finishReason : Option FinishReason := none
  reasoningContent : Option String := none
  usage : Option LlmTokenUsage := none
  charge : Option LlmCharge := none
  deriving DecidableEq

/-- The messages of a request are known by their contents. -/
structure CompletionRequest where
  messages : List String
  maxTokens : UInt32
  purpose : LlmCallPurpose
  deriving DecidableEq

/-! ### Prices -/

structure TokenAccountant where
  provider : String
  model : String
  priceVersion : String := "v1"
  inputPricePer1k : Option Int64
  cachedInputPricePer1k : Option Int64
  outputPricePer1k : Option Int64
  deriving DecidableEq

/-- The product fits into an `i128`; the amount is cut down to an `i64`. -/
def priceForTokens (tokens : UInt64) (pricePer1k : Int64) : Int64 :=
  Int64.ofInt ((tokens.toNat * pricePer1k.toInt).tdiv 1000)

/-- `i64::saturating_add`. -/
def addAmounts (a b : Int64) : Int64 :=
  Int64.ofInt (max (-2 ^ 63) (min (a.toInt + b.toInt) (2 ^ 63 - 1)))

namespace TokenAccountant

def estimateInputTokens (messages : List String) : UInt64 :=
  (messages.map estimateTextTokens).foldl add 0

def charge (accountant : TokenAccountant) (usage : LlmTokenUsage) : Option LlmCharge := do
  let inputPrice ← accountant.inputPricePer1k
  let outputPrice ← accountant.outputPricePer1k
  let cachedInput := usage.cachedInputTokens.getD 0
  let inputCost := priceForTokens (sub usage.inputTokens cachedInput) inputPrice
  let cachedCost := (accountant.cachedInputPricePer1k.map (priceForTokens cachedInput)).getD 0
  let outputCost := priceForTokens usage.outputTokens outputPrice
  return {
    provider := accountant.provider
    model := accountant.model
    inputTokens := usage.inputTokens
    cachedInputTokens := cachedInput
    outputTokens := usage.outputTokens
    amountMinor := addAmounts (addAmounts inputCost cachedCost) outputCost
    priceVersion := accountant.priceVersion }

end TokenAccountant

/-! ### One call -/

/-- Which branch of `select!` ended the call to the provider. -/
inductive ProviderAnswer where
  | returned (result : Except LlmProviderError LlmCompletion)
  | cancelled
  | elapsed (hitsTurnDeadline : Bool)

def ProviderAnswer.outcome : ProviderAnswer → Except LlmError LlmCompletion
  | returned (.ok completion) => .ok completion
  | returned (.error error) => .error (.ofProvider error)
  | cancelled => .error .cancelled
  | elapsed hitsTurnDeadline =>
    .error (if hitsTurnDeadline then .turnDeadlineExceeded else .providerTimeout)

/-- What the call meets, in the order it looks: the cancellation and the deadline when it starts,
the two waits of the limiter, and the provider. -/
structure CallConditions where
  cancelled : Bool := false
  overdue : Bool := false
  quota : Except LlmError Unit := .ok ⟨⟩
  permit : Except LlmError Unit := .ok ⟨⟩
  answer : ProviderAnswer

inductive StructuredCheckOutcome where
  | decoded | decodeFailed | validationFailed
  deriving DecidableEq

structure LlmGateway where
  providerName : String
  model : String
  accountant : TokenAccountant
  /-- `serde_json::to_value` and `from_value` of a charge. -/
  rereadCharge : LlmCharge → Option LlmCharge

/-- What was done with a reservation. -/
inductive Consumption where
  | released (reservation : LlmBudgetReservation)
  | settled (reservation : LlmBudgetReservation) (usage : LlmCallUsage)
  deriving DecidableEq

def Consumption.reservation : Consumption → LlmBudgetReservation
  | released reservation | settled reservation _ => reservation

/-- A scope with what became of the reservations that were passed on with it. -/
structure GatewayScope where
  scope : TurnLlmCallScope
  consumed : List Consumption := []
  deriving DecidableEq

inductive CallFailure where
  | error (error : LlmError)
  | panic (message : String)
  deriving DecidableEq

namespace LlmGateway

abbrev M := EStateM CallFailure GatewayScope

def onScope {α : Type} (prog : EStateM TurnExecutionError TurnLlmCallScope α) :
    M (Except TurnExecutionError α) :=
  zoom GatewayScope.scope (fun state scope => { state with scope }) (attempt prog)

def releaseLlm (reservation : LlmBudgetReservation) : M Unit := do
  let _ ← onScope (TurnLlmCallScope.releaseLlm reservation)
  modify fun state => { state with consumed := state.consumed ++ [.released reservation] }

def settleLlm (reservation : LlmBudgetReservation) (usage : LlmCallUsage) :
    M (Except TurnExecutionError Unit) := do
  let settle ← onScope (TurnLlmCallScope.settleLlm reservation usage)
  modify fun state => { state with consumed := state.consumed ++ [.settled reservation usage] }
  return settle

def estimatedUsage (text : String) (estimatedInput : UInt64) : LlmTokenUsage where
  inputTokens := estimatedInput
  cachedInputTokens := none
  outputTokens := estimateTextTokens text
  reasoningTokens := none
  totalTokens := add estimatedInput (estimateTextTokens text)
  accuracy := .estimated

def budgetToLlm (error : TurnExecutionError) : LlmError :=
  match error.kind with
  | .cancelled => .cancelled
  | .deadlineExceeded => .turnDeadlineExceeded
  | .tokenBudgetExceeded => .tokenBudgetExceeded s!"{error.message} ({error.code})"
  | _ => .protocol .unsupported

def usageToCallUsage (gateway : LlmGateway) (callId : LlmCallId) (purpose : LlmCallPurpose)
    (usage : LlmTokenUsage) (charge : Option LlmCharge) (finishReason : Option FinishReason) :
    LlmCallUsage where
  callId := callId
  purpose := purpose
  provider := gateway.providerName
  model := gateway.model
  inputTokens := usage.inputTokens
  cachedInputTokens := usage.cachedInputTokens
  outputTokens := usage.outputTokens
  totalTokens := usage.totalTokens
  accuracy := usage.accuracy
  pricingVersion := none
  charge := charge.bind gateway.rereadCharge
  finishReason := finishReason

/-- The completion with its usage and its charge filled in. -/
def fillUsage (gateway : LlmGateway) (estimatedInput : UInt64) (completion : LlmCompletion) :
    LlmCompletion :=
  let usage := completion.usage.getD (estimatedUsage completion.text estimatedInput)
  { completion with
    usage := some usage
    charge := completion.charge.or (gateway.accountant.charge usage) }

/-- The completion that is kept, and the error in its place where it is not. -/
def judge (gateway : LlmGateway) (structured : Option (String → StructuredCheckOutcome))
    (estimatedInput : UInt64) (outcome : Except LlmError LlmCompletion) :
    Option LlmCompletion × Option LlmError :=
  let received : Option LlmCompletion × Option LlmError := match outcome with
    | .ok completion =>
      if isBlank completion.text then (none, some (.protocol .emptyChoices))
      else (some (gateway.fillUsage estimatedInput completion), none)
    | .error error => (none, some error)
  match structured, received.1 with
  | some check, some seen =>
    if check seen.text = .decoded then received
    else (none, some (.protocol .invalidStructuredOutput))
  | _, _ => received

/-- The part of `run_call` after the provider, which settles. -/
def settleCall (gateway : LlmGateway) (request : CompletionRequest)
    (reservation : LlmBudgetReservation) (estimatedInput : UInt64)
    (judged : Option LlmCompletion × Option LlmError) : M LlmCompletion := do
  let completion := judged.1
  let usage := (completion.bind (·.usage)).getD (estimatedUsage "" estimatedInput)
  let callUsage := gateway.usageToCallUsage reservation.callId request.purpose usage
    (completion.bind (·.charge)) (completion.bind (·.finishReason))
  let settle ← settleLlm reservation callUsage
  match settle with
  | .error error => throw (.error (budgetToLlm error))
  | .ok _ =>
    match completion with
    | some completion => pure completion
    | none => throw (.error (judged.2.getD (.protocol .unsupported)))

def runCall (gateway : LlmGateway) (conditions : CallConditions) (request : CompletionRequest)
    (stream sink : Bool) (reservation : LlmBudgetReservation)
    (structured : Option (String → StructuredCheckOutcome)) : M LlmCompletion := do
  if conditions.cancelled then
    releaseLlm reservation
    throw (.error .cancelled)
  else if conditions.overdue then
    releaseLlm reservation
    throw (.error .turnDeadlineExceeded)
  else
    match conditions.quota with
    | .error error =>
      releaseLlm reservation
      throw (.error error)
    | .ok _ =>
      match conditions.permit with
      | .error error =>
        releaseLlm reservation
        throw (.error error)
      | .ok _ =>
        -- `sink.expect(..)`, when the call is one that streams.
        throwIf (stream = true ∧ sink = false) (.panic "stream sink checked")
        let estimatedInput := TokenAccountant.estimateInputTokens request.messages
        gateway.settleCall request reservation estimatedInput
          (gateway.judge structured estimatedInput conditions.answer.outcome)

def executeCall (gateway : LlmGateway) (conditions : CallConditions) (request : CompletionRequest)
    (stream sink : Bool) (reservation : LlmBudgetReservation) : M LlmCompletion := do
  throwIf (stream = true ∧ sink = false) (.error (.protocol .invalidSseLine))
  gateway.runCall conditions request stream sink reservation none

def executeCallOwned (gateway : LlmGateway) (conditions : CallConditions)
    (request : CompletionRequest) (stream sink : Bool) (reservation : LlmBudgetReservation) :
    M LlmCompletion :=
  gateway.runCall conditions request stream sink reservation none

end LlmGateway

/-- The ways into a call. -/
inductive CallEntry where
  | executeCall (stream sink : Bool)
  | executeCallOwned (stream sink : Bool)
  | structured (check : String → StructuredCheckOutcome)

namespace CallEntry

def run (entry : CallEntry) (gateway : LlmGateway) (conditions : CallConditions)
    (request : CompletionRequest) (reservation : LlmBudgetReservation) :
    LlmGateway.M LlmCompletion :=
  match entry with
  | executeCall stream sink => gateway.executeCall conditions request stream sink reservation
  | executeCallOwned stream sink =>
    gateway.executeCallOwned conditions request stream sink reservation
  | structured check => gateway.runCall conditions request false false reservation (some check)

def check : CallEntry → Option (String → StructuredCheckOutcome)
  | executeCall _ _ | executeCallOwned _ _ => none
  | structured check => some check

/-- The text of a completion is neither empty nor refused by the structured check. -/
def Accepts (entry : CallEntry) (text : String) : Prop :=
  isBlank text = false ∧ ∀ check, entry.check = some check → check text = .decoded

end CallEntry

/-- The call gets as far as the provider. -/
def CallConditions.reaches (conditions : CallConditions) : Bool :=
  !conditions.cancelled && !conditions.overdue && conditions.quota.isOk && conditions.permit.isOk

/-- The completion that the provider returned to the call. -/
def CallConditions.completion (conditions : CallConditions) : Option LlmCompletion :=
  if conditions.reaches then
    match conditions.answer with
    | .returned (.ok completion) => some completion
    | _ => none
  else none

/-- A call on the list has the tokens of a usage. -/
structure Bears (entry : LlmCallUsage) (usage : LlmTokenUsage) : Prop where
  inputTokens : entry.inputTokens = usage.inputTokens
  cachedInputTokens : entry.cachedInputTokens = usage.cachedInputTokens
  outputTokens : entry.outputTokens = usage.outputTokens
  totalTokens : entry.totalTokens = usage.totalTokens
  accuracy : entry.accuracy = usage.accuracy

/-- Two usages of the same tokens, whatever part of them was reasoning. -/
def SameTokens (first second : LlmTokenUsage) : Prop :=
  { first with reasoningTokens := second.reasoningTokens } = second

instance (first second : LlmTokenUsage) : Decidable (SameTokens first second) :=
  inferInstanceAs (Decidable (_ = _))

/-- The reservation was consumed once, and a usage that was reported is what the budget and the
list of calls account for. -/
structure PaidFor (conditions : CallConditions) (reservation : LlmBudgetReservation)
    (before after : GatewayScope) : Prop where
  once : ∃ consumption, consumption.reservation = reservation ∧
    after.consumed = before.consumed ++ [consumption]
  accounted : ∀ completion usage, conditions.completion = some completion →
    completion.usage = some usage → ∃ entry : LlmCallUsage, entry.callId = reservation.callId ∧
      Bears entry usage ∧ after.scope = before.scope.settled reservation entry

/-! ### What a call leaves behind -/

namespace LlmGateway
variable {gateway : LlmGateway} {conditions : CallConditions} {request : CompletionRequest}
  {reservation : LlmBudgetReservation} {state : GatewayScope}

/-- The scope after a settlement, with or without room for it. -/
def settlement (scope : TurnLlmCallScope) (reservation : LlmBudgetReservation)
    (usage : LlmCallUsage) : TurnLlmCallScope :=
  if scope.Room reservation usage then scope.settled reservation usage
  else scope.released reservation

/-- The usage that is put on the list. -/
def chargedUsage (gateway : LlmGateway) (request : CompletionRequest)
    (reservation : LlmBudgetReservation) (completion : Option LlmCompletion) : LlmCallUsage :=
  gateway.usageToCallUsage reservation.callId request.purpose
    ((completion.bind (·.usage)).getD
      (estimatedUsage "" (TokenAccountant.estimateInputTokens request.messages)))
    (completion.bind (·.charge)) (completion.bind (·.finishReason))

theorem settleLlm_run (reservation : LlmBudgetReservation) (usage : LlmCallUsage)
    (state : GatewayScope) : ∃ settle, settleLlm reservation usage state = .ok settle
      { scope := settlement state.scope reservation usage
        consumed := state.consumed ++ [.settled reservation usage] } := by
  unfold settlement
  split
  · rename_i room
    refine ⟨.ok ⟨⟩, ?_⟩
    simp only [settleLlm, onScope, zoom, attempt, bind, EStateM.bind,
      TurnLlmCallScope.settleLlm_of_room room]
    rfl
  · rename_i full
    obtain ⟨error, same⟩ := TurnLlmCallScope.settleLlm_of_full full
    refine ⟨.error error, ?_⟩
    simp only [settleLlm, onScope, zoom, attempt, bind, EStateM.bind, same]
    rfl

theorem settleCall_after (judged : Option LlmCompletion × Option LlmError) :
    after (gateway.settleCall request reservation
      (TokenAccountant.estimateInputTokens request.messages) judged state) =
      { scope := settlement state.scope reservation
          (gateway.chargedUsage request reservation judged.1)
        consumed := state.consumed ++
          [.settled reservation (gateway.chargedUsage request reservation judged.1)] } := by
  obtain ⟨settle, same⟩ :=
    settleLlm_run reservation (gateway.chargedUsage request reservation judged.1) state
  unfold settleCall
  change after ((settleLlm reservation (gateway.chargedUsage request reservation judged.1) >>= _)
    state) = _
  simp only [bind, EStateM.bind, same]
  cases settle with
  | error error => rfl
  | ok value =>
    cases judged.1 with
    | none => rfl
    | some completion => rfl

/-- A call ends with the reservation given back, with a panic, or with a settlement. -/
theorem runCall_after (stream sink : Bool)
    (structured : Option (String → StructuredCheckOutcome)) :
    after (gateway.runCall conditions request stream sink reservation structured state) =
      if conditions.reaches then
        if stream = true ∧ sink = false then state
        else
          let usage := gateway.chargedUsage request reservation (gateway.judge structured
            (TokenAccountant.estimateInputTokens request.messages) conditions.answer.outcome).1
          { scope := settlement state.scope reservation usage
            consumed := state.consumed ++ [.settled reservation usage] }
      else
        { scope := state.scope.released reservation
          consumed := state.consumed ++ [.released reservation] } := by
  obtain ⟨cancelled, overdue, quota, permit, answer⟩ := conditions
  cases cancelled with
  | true => rfl
  | false =>
    cases overdue with
    | true => rfl
    | false =>
      cases quota with
      | error error => rfl
      | ok _ =>
        cases permit with
        | error error => rfl
        | ok _ =>
          change after ((throwIf (stream = true ∧ sink = false) _ >>= _) state) = _
          rw [run_throwIf_bind]
          split
          · rfl
          · exact settleCall_after _

theorem judge_none (estimatedInput : UInt64) (completion : LlmCompletion) :
    (gateway.judge none estimatedInput (.ok completion)).1 =
      if isBlank completion.text = true then none
      else some (gateway.fillUsage estimatedInput completion) := by
  by_cases blank : isBlank completion.text = true
  · simp only [judge, if_pos blank]
  · simp only [judge, if_neg blank]

theorem judge_some (check : String → StructuredCheckOutcome) (estimatedInput : UInt64)
    (completion : LlmCompletion) :
    (gateway.judge (some check) estimatedInput (.ok completion)).1 =
      if isBlank completion.text = true then none
      else if check completion.text = .decoded then
        some (gateway.fillUsage estimatedInput completion)
      else none := by
  by_cases blank : isBlank completion.text = true
  · simp only [judge, if_pos blank]
  · have same : (gateway.fillUsage estimatedInput completion).text = completion.text := rfl
    simp only [judge, if_neg blank, same]
    split <;> rfl

/-- What is kept of a completion is the completion itself, if its text is accepted. -/
theorem judge_accepts (entry : CallEntry) (estimatedInput : UInt64) (completion : LlmCompletion) :
    (entry.Accepts completion.text ∧ (gateway.judge entry.check estimatedInput (.ok completion)).1 =
      some (gateway.fillUsage estimatedInput completion)) ∨
    (¬ entry.Accepts completion.text ∧
      (gateway.judge entry.check estimatedInput (.ok completion)).1 = none) := by
  unfold CallEntry.Accepts
  cases blank : isBlank completion.text with
  | true =>
    refine .inr ⟨fun accepts => (by cases accepts.1), ?_⟩
    cases entry.check with
    | none => rw [judge_none, if_pos blank]
    | some check => rw [judge_some, if_pos blank]
  | false =>
    cases checks : entry.check with
    | none =>
      refine .inl ⟨⟨rfl, fun check same => by cases same⟩, ?_⟩
      rw [judge_none, blank]
      rfl
    | some check =>
      by_cases decoded : check completion.text = .decoded
      · refine .inl ⟨⟨rfl, fun other same => by cases same; exact decoded⟩, ?_⟩
        rw [judge_some, blank, if_pos decoded]
        rfl
      · refine .inr ⟨fun accepts => decoded (accepts.2 check rfl), ?_⟩
        rw [judge_some, blank, if_neg decoded]
        rfl

theorem chargedUsage_callId (completion : Option LlmCompletion) :
    (gateway.chargedUsage request reservation completion).callId = reservation.callId := rfl

/-- A kept completion is charged for the usage it reported. -/
theorem chargedUsage_kept {completion : LlmCompletion} {usage : LlmTokenUsage}
    (reported : completion.usage = some usage) (estimatedInput : UInt64) :
    Bears (gateway.chargedUsage request reservation
      (some (gateway.fillUsage estimatedInput completion))) usage := by
  simp only [chargedUsage, fillUsage, reported, Option.getD_some, Option.bind_some]
  exact ⟨rfl, rfl, rfl, rfl, rfl⟩

/-- A settlement is of a usage exactly when it has its tokens and there is room for them. -/
theorem settlement_accounts {scope : TurnLlmCallScope} {entry : LlmCallUsage}
    {usage : LlmTokenUsage} (callId : entry.callId = reservation.callId) :
    (∃ listed : LlmCallUsage, listed.callId = reservation.callId ∧ Bears listed usage ∧
        settlement scope reservation entry = scope.settled reservation listed) ↔
      Bears entry usage ∧ TurnBudget.Within scope.budget.limits
        ((scope.budget.usage.released reservation).charged usage.inputTokens usage.outputTokens) := by
  constructor
  · rintro ⟨listed, -, bears, same⟩
    unfold settlement at same
    split at same
    · rename_i room
      have calls := congrArg TurnLlmCallScope.llmCalls same
      rw [TurnLlmCallScope.settled, TurnLlmCallScope.settled] at calls
      cases List.append_cancel_left calls
      rw [TurnLlmCallScope.Room, bears.inputTokens, bears.outputTokens] at room
      exact ⟨bears, room⟩
    · have calls := congrArg (fun scope => scope.llmCalls.length) same
      simp [TurnLlmCallScope.settled, TurnLlmCallScope.released] at calls
  · rintro ⟨bears, room⟩
    rw [← bears.inputTokens, ← bears.outputTokens] at room
    exact ⟨entry, callId, bears, if_pos room⟩

end LlmGateway

open LlmGateway

namespace CallEntry

/-- A call that streams has somewhere to stream to, at least when it gets that far. -/
def HasSink (entry : CallEntry) (conditions : CallConditions) : Prop :=
  match entry with
  | executeCall stream sink => ¬ (stream = true ∧ sink = false)
  | executeCallOwned stream sink => conditions.reaches = true → ¬ (stream = true ∧ sink = false)
  | structured _ => True

/-- What is reported with a completion is charged: the completion is kept, or reports just what is
charged for one that is not, and there is room in the budget. -/
def Payable (entry : CallEntry) (conditions : CallConditions) (request : CompletionRequest)
    (reservation : LlmBudgetReservation) (scope : TurnLlmCallScope) : Prop :=
  entry.HasSink conditions ∧ ∀ completion usage, conditions.completion = some completion →
    completion.usage = some usage →
      (entry.Accepts completion.text ∨ SameTokens usage
        (estimatedUsage "" (TokenAccountant.estimateInputTokens request.messages))) ∧
      TurnBudget.Within scope.budget.limits
        ((scope.budget.usage.released reservation).charged usage.inputTokens usage.outputTokens)

variable {entry : CallEntry} {gateway : LlmGateway} {conditions : CallConditions}
  {request : CompletionRequest} {reservation : LlmBudgetReservation} {state : GatewayScope}

/-- The state after a call that had a sink. -/
theorem run_after (ready : entry.HasSink conditions) :
    after (entry.run gateway conditions request reservation state) =
      if conditions.reaches then
        let usage := gateway.chargedUsage request reservation (gateway.judge entry.check
          (TokenAccountant.estimateInputTokens request.messages) conditions.answer.outcome).1
        { scope := settlement state.scope reservation usage
          consumed := state.consumed ++ [.settled reservation usage] }
      else
        { scope := state.scope.released reservation
          consumed := state.consumed ++ [.released reservation] } := by
  cases entry with
  | executeCall stream sink =>
    rw [run, LlmGateway.executeCall, run_throwIf_bind, if_neg ready, runCall_after]
    simp only [if_neg ready, check]
  | executeCallOwned stream sink =>
    rw [run, LlmGateway.executeCallOwned, runCall_after]
    split
    · rename_i reached
      simp only [if_neg (ready reached), check]
    · rfl
  | structured check =>
    rw [run, runCall_after]
    rfl

/-- A call without a sink leaves the reservation as it was. -/
theorem run_after_without_sink (missing : ¬ entry.HasSink conditions) :
    after (entry.run gateway conditions request reservation state) = state := by
  cases entry with
  | executeCall stream sink =>
    rw [run, LlmGateway.executeCall, run_throwIf_bind, if_pos (not_not.mp missing)]
    rfl
  | executeCallOwned stream sink =>
    obtain ⟨reached, without⟩ := Classical.not_imp.mp missing
    rw [run, LlmGateway.executeCallOwned, runCall_after, if_pos reached,
      if_pos (not_not.mp without)]
  | structured check => exact absurd trivial missing

end CallEntry

/-- What the provider returned, in a call that got as far as the provider. -/
theorem CallConditions.completion_eq_some {conditions : CallConditions} {completion : LlmCompletion}
    (returned : conditions.completion = some completion) :
    conditions.reaches = true ∧ conditions.answer.outcome = .ok completion := by
  unfold CallConditions.completion at returned
  split at returned
  · rename_i reached
    refine ⟨reached, ?_⟩
    split at returned
    · rename_i answer
      cases returned
      rw [answer]
      rfl
    · cases returned
  · cases returned

/-- A completion that is not kept is charged for what an empty one is estimated at. -/
theorem LlmGateway.chargedUsage_dropped {gateway : LlmGateway} {request : CompletionRequest}
    {reservation : LlmBudgetReservation} {usage : LlmTokenUsage} :
    Bears (gateway.chargedUsage request reservation none) usage ↔ SameTokens usage
      (estimatedUsage "" (TokenAccountant.estimateInputTokens request.messages)) := by
  obtain ⟨inputTokens, cachedInputTokens, outputTokens, reasoningTokens, totalTokens, accuracy⟩ :=
    usage
  simp only [SameTokens, estimatedUsage, LlmTokenUsage.mk.injEq, true_and]
  constructor
  · rintro ⟨input, cached, output, total, accurate⟩
    exact ⟨input.symm, cached.symm, output.symm, total.symm, accurate.symm⟩
  · rintro ⟨input, cached, output, total, accurate⟩
    exact ⟨input.symm, cached.symm, output.symm, total.symm, accurate.symm⟩

/-- A call is paid for exactly when it has a sink to stream to and a usage that is reported comes
with a completion that is kept and fits the budget. -/
theorem call_paid_iff (entry : CallEntry) (gateway : LlmGateway) (conditions : CallConditions)
    (request : CompletionRequest) (reservation : LlmBudgetReservation) (state : GatewayScope) :
    PaidFor conditions reservation state
        (after (entry.run gateway conditions request reservation state)) ↔
      entry.Payable conditions request reservation state.scope := by
  constructor
  · intro paid
    have ready : entry.HasSink conditions := by
      by_contra missing
      obtain ⟨consumption, -, same⟩ := paid.once
      rw [CallEntry.run_after_without_sink missing] at same
      simpa using congrArg List.length same
    refine ⟨ready, ?_⟩
    intro completion usage returned reported
    obtain ⟨reached, outcome⟩ := CallConditions.completion_eq_some returned
    have accounted := paid.accounted completion usage returned reported
    rw [CallEntry.run_after ready, if_pos reached, outcome] at accounted
    obtain ⟨bears, room⟩ := (settlement_accounts (chargedUsage_callId _)).mp accounted
    refine ⟨?_, room⟩
    obtain ⟨accepts, -⟩ | ⟨-, dropped⟩ := judge_accepts entry
      (TokenAccountant.estimateInputTokens request.messages) completion
    · exact .inl accepts
    · rw [dropped] at bears
      exact .inr (chargedUsage_dropped.mp bears)
  · rintro ⟨ready, charged⟩
    rw [CallEntry.run_after ready]
    constructor
    · split
      · exact ⟨_, rfl, rfl⟩
      · exact ⟨_, rfl, rfl⟩
    · intro completion usage returned reported
      obtain ⟨reached, outcome⟩ := CallConditions.completion_eq_some returned
      obtain ⟨known, room⟩ := charged completion usage returned reported
      rw [if_pos reached, outcome]
      refine (settlement_accounts (chargedUsage_callId _)).mpr ⟨?_, room⟩
      obtain ⟨-, kept⟩ | ⟨refused, dropped⟩ := judge_accepts entry
        (TokenAccountant.estimateInputTokens request.messages) completion
      · rw [kept]
        exact chargedUsage_kept reported _
      · rw [dropped]
        exact chargedUsage_dropped.mpr (known.resolve_left refused)

namespace Gateway.Sample

def gateway : LlmGateway where
  providerName := "local"
  model := "small"
  accountant := ⟨"local", "small", "v1", none, none, none⟩
  rereadCharge := some

def limits : TurnBudgetLimits where
  maxRepairRounds := 1
  maxLlmCalls := 4
  maxInputTokens := 1000
  maxOutputTokens := 1000
  maxTotalTokens := 1000
  maxItemsPerAudience := 1
  maxTokensPerAudience := 1
  maxTotalItems := 1
  maxRetrievedTokens := 1
  maxItemBytes := 1
  maxContextTokens := 1
  maxCharacterDecisions := 1
  maxCharacterDecisionBytes := 1
  maxPlanBytes := 1
  maxStoryTextBytes := 1
  maxStateExtractionBytes := 1
  maxValidationIssueBytes := 1

def request : CompletionRequest := ⟨["Tell what happens next."], 600, .storyGeneration⟩

def reservation : LlmBudgetReservation := ⟨⟨"call"⟩, 6, 600⟩

/-- The scope once the reservation was made. -/
def state : GatewayScope where
  scope := { budget := { limits, usage := { inputTokens := 6, outputTokens := 600, totalTokens := 606 } } }

def usage : LlmTokenUsage := ⟨10, none, 500, some 500, 510, .exact⟩

/-- The model thought for five hundred tokens and said nothing. -/
def completion : LlmCompletion := { text := "", usage := some usage }

def conditions : CallConditions := { answer := .returned (.ok completion) }

theorem silent_completion_unpaid : ¬ PaidFor conditions reservation state
    (after ((CallEntry.executeCall false false).run gateway conditions request reservation state)) := by
  intro paid
  obtain ⟨entry, -, bears, same⟩ := paid.accounted completion usage rfl rfl
  have listed := congrArg (fun scope => scope.llmCalls.map (·.outputTokens)) same
  have charged : (after ((CallEntry.executeCall false false).run gateway conditions request
      reservation state)).scope.llmCalls.map (·.outputTokens) = [1] := by decide +kernel
  rw [charged] at listed
  simp only [TurnLlmCallScope.settled, state, List.nil_append, List.map_cons, List.map_nil,
    bears.outputTokens] at listed
  exact absurd listed (by decide)

end Gateway.Sample

end Aise.Domain
