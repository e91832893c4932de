import Aise.Domain.Activation.Contracts

/-! The knowledge budget of a session. Items and tokens are counted for each audience and in
total; tokens are counted once more by budget class. -/
namespace Aise.Domain
open Saturating

structure BudgetUsage where
  audienceItems : BTreeMap KnowledgeDelivery UInt64 := ∅
  audienceTokens : BTreeMap KnowledgeDelivery UInt64 := ∅
  totalItems : UInt64 := 0
  normalTokens : UInt64 := 0
  reservedTokens : UInt64 := 0
  mandatoryTokens : UInt64 := 0

inductive AdmissionOutcome where
  | admitted | rejected
  deriving DecidableEq

def isMandatory (budgetClass : ActivationBudgetClass) (forced : Bool) : Bool :=
  forced || budgetClass = .mandatory

/-- The arguments of one call of `admit_deliveries`, with the usage it was made on. -/
structure Admission where
  budgetClass : ActivationBudgetClass
  forcedMandatory : Bool
  tokenCost : UInt64
  deliveries : List KnowledgeDelivery
  usage : BudgetUsage

namespace Admission
variable (call : Admission)

def effectiveClass : ActivationBudgetClass :=
  if call.forcedMandatory then .mandatory else call.budgetClass

def additionalItems : UInt64 := clamp64 call.deliveries.length

def additionalTokens : UInt64 := mul call.tokenCost call.additionalItems

end Admission

namespace BudgetUsage

/-- `normal + reserved + mandatory`, as the source adds them. -/
def totalTokens (usage : BudgetUsage) : UInt64 :=
  add (add usage.normalTokens usage.reservedTokens) usage.mandatoryTokens

/-- One delivery charged to its audience. -/
def deliver (tokenCost : UInt64) (usage : BudgetUsage) (delivery : KnowledgeDelivery) :
    BudgetUsage :=
  { usage with
    audienceItems :=
      usage.audienceItems.insert delivery (usage.audienceItems[delivery]?.getD 0 + 1)
    audienceTokens :=
      usage.audienceTokens.insert delivery
        (add (usage.audienceTokens[delivery]?.getD 0) tokenCost) }

/-- Tokens charged to a class. -/
def charge (usage : BudgetUsage) (budgetClass : ActivationBudgetClass) (tokens : UInt64) :
    BudgetUsage :=
  match budgetClass with
  | .normal => { usage with normalTokens := add usage.normalTokens tokens }
  | .reserved => { usage with reservedTokens := add usage.reservedTokens tokens }
  | .mandatory => { usage with mandatoryTokens := add usage.mandatoryTokens tokens }

end BudgetUsage

section
variable (limits : ActivationRuntimeLimits)

def normalCeiling : UInt64 :=
  sub (sub limits.maxTotalTokens limits.reservedTokens) limits.mandatoryTokens

def reservedCeiling : UInt64 := sub limits.maxTotalTokens limits.mandatoryTokens

/-- Whether one more delivery passes the limits of its audience. -/
def audienceFull (call : Admission) (delivery : KnowledgeDelivery) : Bool :=
  add (call.usage.audienceItems[delivery]?.getD 0) 1 > limits.maxItemsPerAudience ||
    add (call.usage.audienceTokens[delivery]?.getD 0) call.tokenCost > limits.maxTokensPerAudience

/-- Whether the tokens pass the ceiling of their class. -/
def classFull (call : Admission) : Bool :=
  match call.effectiveClass with
  | .normal => add call.usage.normalTokens call.additionalTokens > normalCeiling limits
  | .reserved =>
    add (add call.usage.normalTokens call.usage.reservedTokens) call.additionalTokens >
      reservedCeiling limits
  | .mandatory => false

def admitDeliveries (call : Admission) : AdmissionOutcome × BudgetUsage :=
  let usage := call.usage
  if add usage.totalItems call.additionalItems > limits.maxTotalItems then (.rejected, usage)
  else if call.deliveries.any (audienceFull limits call) then (.rejected, usage)
  else if add usage.totalTokens call.additionalTokens > limits.maxTotalTokens then
    (.rejected, usage)
  else if classFull limits call then (.rejected, usage)
  else
    let delivered := call.deliveries.foldl (BudgetUsage.deliver call.tokenCost) usage
    let counted := { delivered with totalItems := add usage.totalItems call.additionalItems }
    (.admitted, counted.charge call.effectiveClass call.additionalTokens)

end

/-- One activated entry of `budget_usage`, which counts its deliveries one by one. -/
def restoreEntry (request : ActivationRequest) (usage : BudgetUsage)
    (activated : ActivatedKnowledgeRef) : Except ActivationError BudgetUsage :=
  match request.metadata activated.sourceId with
  | none => .error .continuationMismatch
  | some metadata =>
    let deliver (usage : BudgetUsage) (delivery : KnowledgeDelivery) : BudgetUsage :=
      let usage := usage.deliver activated.tokenCost delivery
      { usage with totalItems := add usage.totalItems 1 }
    let tokens := mul activated.tokenCost (clamp64 activated.deliveries.length)
    .ok ((activated.deliveries.foldl deliver usage).charge metadata.rule.budgetClass tokens)

/-- The usage a finished session left in its continuation. -/
def ActivationContinuation.usage (continuation : ActivationContinuation) : BudgetUsage where
  audienceItems := continuation.audienceItems
  audienceTokens := continuation.audienceTokens
  totalItems := continuation.totalDeliveryItems
  normalTokens := continuation.normalTokens
  reservedTokens := continuation.reservedTokens
  mandatoryTokens := continuation.mandatoryTokens

def budgetUsage (request : ActivationRequest) (continuation : ActivationContinuation) :
    Except ActivationError BudgetUsage :=
  if 0 < continuation.totalDeliveryItems || continuation.activated.isEmpty then
    .ok continuation.usage
  else (valuesOf continuation.activated).foldlM (restoreEntry request) {}

end Aise.Domain
