import Aise.Domain.Activation.Accounting
import Aise.Domain.Activation.Admitting

/-! What a body needs to be admitted, counted in resources: room for evidence, items and tokens of
each audience, and tokens in total and for a budget class. The verdicts on bodies follow what is
used of these. -/
namespace Aise.Domain
open RustText Saturating

inductive Resource where
  | evidence | items
  | audienceItems (delivery : KnowledgeDelivery)
  | audienceTokens (delivery : KnowledgeDelivery)
  | normalTokens | sharedTokens | tokens
  deriving DecidableEq

def ActivationRuntimeLimits.limitOf (limits : ActivationRuntimeLimits) : Resource → UInt64
  | .evidence => limits.maxEvidenceBytes
  | .items => limits.maxTotalItems
  | .audienceItems _ => limits.maxItemsPerAudience
  | .audienceTokens _ => limits.maxTokensPerAudience
  | .normalTokens => normalCeiling limits
  | .sharedTokens => reservedCeiling limits
  | .tokens => limits.maxTotalTokens

/-- No sum passes the largest `u64`, which is no ceiling therefore. -/
def ceilingOf (limit : UInt64) : Option Nat :=
  if limit.toNat < max64 then some limit.toNat else none

theorem lt_add_iff {limit a b : UInt64} : limit < add a b ↔
    ∃ ceiling, ceilingOf limit = some ceiling ∧ ceiling < a.toNat + b.toNat := by
  have fits := toNat_le limit
  rw [UInt64.lt_iff_toNat_lt, toNat_add, ceilingOf]
  split
  · simp only [Option.some.injEq, exists_eq_left']
    omega
  · refine iff_of_false (by omega) ?_
    rintro ⟨ceiling, impossible, _⟩
    cases impossible

/-! ### The budget -/

def BudgetUsage.used (usage : BudgetUsage) : Resource → Nat
  | .evidence => 0
  | .items => usage.totalItems.toNat
  | .audienceItems delivery => (usage.audienceItems[delivery]?.getD 0).toNat
  | .audienceTokens delivery => (usage.audienceTokens[delivery]?.getD 0).toNat
  | .normalTokens => usage.normalTokens.toNat
  | .sharedTokens => (add usage.normalTokens usage.reservedTokens).toNat
  | .tokens => usage.totalTokens.toNat

namespace Admission
variable (call : Admission)

/-- What the call uses up if it is admitted. -/
def cost : Resource → Nat
  | .evidence => 0
  | .items => call.additionalItems.toNat
  | .audienceItems delivery => if delivery ∈ call.deliveries then 1 else 0
  | .audienceTokens delivery => if delivery ∈ call.deliveries then call.tokenCost.toNat else 0
  | .normalTokens => if call.effectiveClass = .normal then call.additionalTokens.toNat else 0
  | .sharedTokens => if call.effectiveClass = .mandatory then 0 else call.additionalTokens.toNat
  | .tokens => call.additionalTokens.toNat

/-- The limits that the call is held to. -/
def checks : Resource → Prop
  | .evidence => False
  | .items | .tokens => True
  | .audienceItems delivery | .audienceTokens delivery => delivery ∈ call.deliveries
  | .normalTokens => call.effectiveClass = .normal
  | .sharedTokens => call.effectiveClass = .reserved

/-- The call would take more of a resource than there is. -/
def Exceeds (limits : ActivationRuntimeLimits) : Prop :=
  ∃ resource ceiling, call.checks resource ∧ ceilingOf (limits.limitOf resource) = some ceiling ∧
    ceiling < call.usage.used resource + call.cost resource

end Admission

section
variable {limits : ActivationRuntimeLimits} {call : Admission} {usage : BudgetUsage}

theorem audienceFull_iff {delivery : KnowledgeDelivery} (among : delivery ∈ call.deliveries) :
    audienceFull limits call delivery = true ↔
      (∃ ceiling, ceilingOf limits.maxItemsPerAudience = some ceiling ∧
        ceiling < call.usage.used (.audienceItems delivery) + call.cost (.audienceItems delivery)) ∨
      ∃ ceiling, ceilingOf limits.maxTokensPerAudience = some ceiling ∧
        ceiling < call.usage.used (.audienceTokens delivery) + call.cost (.audienceTokens delivery) := by
  rw [audienceFull, Bool.or_eq_true, decide_eq_true_eq, decide_eq_true_eq, gt_iff_lt, gt_iff_lt,
    lt_add_iff, lt_add_iff]
  simp only [BudgetUsage.used, Admission.cost, if_pos among, UInt64.toNat_one]

theorem classFull_iff : classFull limits call = true ↔
    ∃ resource ceiling, (resource = .normalTokens ∨ resource = .sharedTokens) ∧ call.checks resource ∧
      ceilingOf (limits.limitOf resource) = some ceiling ∧
      ceiling < call.usage.used resource + call.cost resource := by
  unfold classFull
  cases effective : call.effectiveClass with
  | normal =>
    simp [Admission.checks, Admission.cost, effective, lt_add_iff, BudgetUsage.used,
      ActivationRuntimeLimits.limitOf]
  | reserved =>
    simp [Admission.checks, Admission.cost, effective, lt_add_iff, BudgetUsage.used,
      ActivationRuntimeLimits.limitOf]
  | mandatory => simp [Admission.checks, effective]

theorem admitDeliveries_rejected_cases : (admitDeliveries limits call).1 = .rejected ↔
    limits.maxTotalItems < add call.usage.totalItems call.additionalItems ∨
      (∃ delivery ∈ call.deliveries, audienceFull limits call delivery = true) ∨
      limits.maxTotalTokens < add call.usage.totalTokens call.additionalTokens ∨
      classFull limits call = true := by
  unfold admitDeliveries
  dsimp only
  split
  · rename_i items
    exact iff_of_true rfl (.inl items)
  · rename_i items
    rw [gt_iff_lt] at items
    split
    · rename_i audiences
      exact iff_of_true rfl (.inr (.inl (List.any_eq_true.mp audiences)))
    · rename_i audiences
      rw [List.any_eq_true] at audiences
      split
      · rename_i tokens
        exact iff_of_true rfl (.inr (.inr (.inl tokens)))
      · rename_i tokens
        rw [gt_iff_lt] at tokens
        split
        · rename_i shares
          exact iff_of_true rfl (.inr (.inr (.inr shares)))
        · rename_i shares
          refine iff_of_false nofun ?_
          rintro (beyond | beyond | beyond | beyond)
          · exact items beyond
          · exact audiences beyond
          · exact tokens beyond
          · exact shares beyond

/-- A call is rejected exactly if it would take too much of something. -/
theorem admitDeliveries_rejected_iff :
    (admitDeliveries limits call).1 = .rejected ↔ call.Exceeds limits := by
  rw [admitDeliveries_rejected_cases, lt_add_iff, lt_add_iff, classFull_iff]
  constructor
  · rintro (⟨ceiling, here, beyond⟩ | ⟨delivery, among, full⟩ | ⟨ceiling, here, beyond⟩ | beyond)
    · exact ⟨.items, ceiling, trivial, here, beyond⟩
    · rcases (audienceFull_iff among).mp full with ⟨ceiling, here, beyond⟩ | ⟨ceiling, here, beyond⟩
      · exact ⟨.audienceItems delivery, ceiling, among, here, beyond⟩
      · exact ⟨.audienceTokens delivery, ceiling, among, here, beyond⟩
    · exact ⟨.tokens, ceiling, trivial, here, beyond⟩
    · obtain ⟨resource, ceiling, -, beyond⟩ := beyond
      exact ⟨resource, ceiling, beyond⟩
  · rintro ⟨resource, ceiling, checked, here, beyond⟩
    cases resource with
    | evidence => exact checked.elim
    | items => exact .inl ⟨ceiling, here, beyond⟩
    | audienceItems delivery =>
      exact .inr (.inl ⟨delivery, checked, (audienceFull_iff checked).mpr (.inl ⟨ceiling, here, beyond⟩)⟩)
    | audienceTokens delivery =>
      exact .inr (.inl ⟨delivery, checked, (audienceFull_iff checked).mpr (.inr ⟨ceiling, here, beyond⟩)⟩)
    | normalTokens => exact .inr (.inr (.inr ⟨_, ceiling, .inl rfl, checked, here, beyond⟩))
    | sharedTokens => exact .inr (.inr (.inr ⟨_, ceiling, .inr rfl, checked, here, beyond⟩))
    | tokens => exact .inr (.inr (.inl ⟨ceiling, here, beyond⟩))

theorem BudgetUsage.used_le (resource : Resource) : usage.used resource ≤ max64 := by
  cases resource with
  | evidence => exact Nat.zero_le max64
  | _ => exact toNat_le _

/-- A sum that takes nothing more. -/
theorem min_add_zero (a : UInt64) : a.toNat = min (a.toNat + 0) max64 :=
  (min_eq_left (toNat_le a)).symm

/-- What an admitted call uses up of the tokens. -/
theorem Admission.Booked.tokens (booked : call.Booked limits usage) (resource : Resource)
    (tokens : resource = .normalTokens ∨ resource = .sharedTokens ∨ resource = .tokens) :
    usage.used resource = min (call.usage.used resource + call.cost resource) max64 := by
  have spent := booked.spent
  simp only [BudgetUsage.spent, Prod.mk.injEq] at spent
  obtain ⟨normal, reserved, mandatory⟩ := spent
  have fits := toNat_le call.usage.normalTokens
  have bound := toNat_le call.additionalTokens
  rcases tokens with rfl | rfl | rfl <;>
    simp only [BudgetUsage.used, BudgetUsage.totalTokens, normal, reserved, mandatory, toNat_add,
      Admission.cost] <;>
    cases call.effectiveClass <;> simp [BudgetUsage.charge] <;> omega

/-- What an admitted call uses up of a resource that has a ceiling. -/
theorem admitDeliveries_spends (distinct : call.deliveries.Nodup)
    (admitted : admitDeliveries limits call = (.admitted, usage)) (resource : Resource) (ceiling : Nat)
    (here : ceilingOf (limits.limitOf resource) = some ceiling) :
    usage.used resource = min (call.usage.used resource + call.cost resource) max64 := by
  have booked := admitDeliveries_booked admitted
  cases resource with
  | evidence => rfl
  | items =>
    rw [BudgetUsage.used, BudgetUsage.used, booked.items]
    exact toNat_add _ _
  | audienceItems delivery =>
    rw [BudgetUsage.used, BudgetUsage.used, Admission.cost, (booked.audiences distinct delivery).1]
    split
    · rename_i among
      have open' : audienceFull limits call delivery = false := booked.audiencesFit delivery among
      have room : add (call.usage.audienceItems[delivery]?.getD 0) 1 ≤ limits.maxItemsPerAudience := by
        rw [audienceFull, Bool.or_eq_false_iff, decide_eq_false_iff_not] at open'
        exact UInt64.not_lt.mp open'.1
      have below : limits.maxItemsPerAudience.toNat < max64 := by
        by_contra largest
        rw [ActivationRuntimeLimits.limitOf, ceilingOf, if_neg largest] at here
        cases here
      rw [UInt64.le_iff_toNat_le, toNat_add, UInt64.toNat_one] at room
      rw [Option.getD_some, toNat_succ (by omega)]
      omega
    · exact min_add_zero _
  | audienceTokens delivery =>
    rw [BudgetUsage.used, BudgetUsage.used, Admission.cost, (booked.audiences distinct delivery).2]
    split
    · exact toNat_add _ _
    · exact min_add_zero _
  | normalTokens => exact booked.tokens _ (.inl rfl)
  | sharedTokens => exact booked.tokens _ (.inr (.inl rfl))
  | tokens => exact booked.tokens _ (.inr (.inr rfl))

end

/-! ### Bodies -/

def Account.used (account : Account) : Resource → Nat
  | .evidence => account.evidenceBytes.toNat
  | resource => account.budget.used resource

section
variable (request : ActivationRequest) (externals : Externals) (pending : Candidates)

/-- The call of `admit_deliveries` for a body. -/
def admissionOf (metadata : ActivationEntryMetadata) (candidate : Candidate)
    (body : ActivationEntryBody) (budget : BudgetUsage) : Admission :=
  ⟨metadata.rule.budgetClass, candidate.mandatory, body.tokenCost, deliveriesOf metadata candidate,
    budget⟩

/-- The candidate that a body is for, with its metadata, if the body is of their kind. -/
def weighable (body : ActivationEntryBody) : Option (ActivationEntryMetadata × Candidate) :=
  match pending[body.sourceId]?, request.metadata body.sourceId with
  | some candidate, some metadata =>
    if metadata.kind ≠ body.kind ∨ body.tokenCost = 0 then none else some (metadata, candidate)
  | _, _ => none

/-- What admitting the body uses up. -/
def bodyCost (body : ActivationEntryBody) (resource : Resource) : Nat :=
  match weighable request pending body with
  | none => 0
  | some (metadata, candidate) =>
    match resource with
    | .evidence => (evidenceSizeOf request externals candidate).toNat
    | resource => (admissionOf metadata candidate body {}).cost resource

/-- The limits that the body is held to. -/
def BodyChecks (body : ActivationEntryBody) (resource : Resource) : Prop :=
  ∃ metadata candidate, weighable request pending body = some (metadata, candidate) ∧
    match resource with
    | .evidence => True
    | resource => (deliveriesOf metadata candidate).all (deliverable metadata.kind) = true ∧
      (admissionOf metadata candidate body {}).checks resource

/-- The body is too long, whatever there is room for. -/
def Oversized (body : ActivationEntryBody) : Prop :=
  weighable request pending body ≠ none ∧
    request.limits.maxSingleEntryBytes.toNat < len body.body.value

def metering : Greedy.Metering ActivationEntryBody Account Resource where
  cap := max64
  used := Account.used
  cost := bodyCost request externals pending
  ceiling resource := ceilingOf (request.limits.limitOf resource)
  checks := BodyChecks request pending
  barred := Oversized request pending

end

section
variable {request : ActivationRequest} {externals : Externals} {pending : Candidates}
  {metadata : ActivationEntryMetadata} {candidate : Candidate} {body : ActivationEntryBody}
  {account : Account}

theorem weigh_of_weighable (asked : weighable request pending body = some (metadata, candidate)) :
    ¬(metadata.kind ≠ body.kind ∨ body.tokenCost = 0) ∧
      weigh request externals pending body account =
        weighKnown request externals metadata candidate body account := by
  unfold weighable at asked
  unfold weigh
  cases found : pending[body.sourceId]? with
  | none =>
    rw [found] at asked
    cases asked
  | some waiting =>
    cases known : request.metadata body.sourceId with
    | none =>
      rw [found, known] at asked
      cases asked
    | some entry =>
      rw [found, known] at asked
      dsimp only at asked
      split at asked
      · cases asked
      · cases asked
        exact ⟨‹_›, rfl⟩

theorem weigh_of_not_weighable (unasked : weighable request pending body = none) :
    weigh request externals pending body account = .fails := by
  unfold weighable at unasked
  unfold weigh
  cases found : pending[body.sourceId]? with
  | none => rfl
  | some waiting =>
    cases known : request.metadata body.sourceId with
    | none => rfl
    | some entry =>
      rw [found, known] at unasked
      dsimp only at unasked
      split at unasked
      · exact if_pos ‹_›
      · cases unasked

theorem weighKnown_refused_iff (sound : ¬(metadata.kind ≠ body.kind ∨ body.tokenCost = 0)) :
    weighKnown request externals metadata candidate body account = .refused ↔
      request.limits.maxSingleEntryBytes.toNat < len body.body.value ∨
      request.limits.maxEvidenceBytes <
        add account.evidenceBytes (evidenceSizeOf request externals candidate) ∨
      ((deliveriesOf metadata candidate).all (deliverable metadata.kind) = true ∧
        (admissionOf metadata candidate body account.budget).Exceeds request.limits) := by
  unfold weighKnown
  rw [if_neg sound, ← admitDeliveries_rejected_iff]
  split
  · rename_i long
    exact iff_of_true rfl (.inl long)
  · rename_i short
    rw [gt_iff_lt] at short
    split
    · rename_i full
      exact iff_of_true rfl (.inr (.inl full))
    · rename_i spare
      rw [gt_iff_lt] at spare
      rw [or_iff_right short, or_iff_right spare]
      split
      · rename_i allowed
        rw [and_iff_right allowed, admissionOf]
        cases answer : admitDeliveries request.limits ⟨metadata.rule.budgetClass, candidate.mandatory,
            body.tokenCost, deliveriesOf metadata candidate, account.budget⟩ with
        | mk outcome usage =>
          cases outcome with
          | admitted => exact iff_of_false nofun nofun
          | rejected => exact iff_of_true rfl rfl
      · rename_i forbidden
        exact iff_of_false nofun fun beyond => forbidden beyond.1

theorem weighKnown_taken {left : Account}
    (taken : weighKnown request externals metadata candidate body account = .taken left) :
    (deliveriesOf metadata candidate).all (deliverable metadata.kind) = true ∧
      admitDeliveries request.limits (admissionOf metadata candidate body account.budget) =
        (.admitted, left.budget) ∧
      left.evidenceBytes = add account.evidenceBytes (evidenceSizeOf request externals candidate) := by
  unfold weighKnown at taken
  split at taken
  · cases taken
  · split at taken
    · cases taken
    · split at taken
      · cases taken
      · split at taken
        · rename_i allowed
          split at taken
          · rename_i usage admitted
            cases taken
            exact ⟨allowed, admitted, rfl⟩
          · cases taken
        · cases taken

/-- A body that fails is not of its candidate's kind, or is not delivered as it may be. -/
theorem weighKnown_fails {other left : Account}
    (fails : weighKnown request externals metadata candidate body account = .fails) :
    weighKnown request externals metadata candidate body other ≠ .taken left := by
  intro taken
  have allowed := (weighKnown_taken taken).1
  unfold weighKnown at fails taken
  split at fails
  · rename_i unsound
    rw [if_pos unsound] at taken
    cases taken
  · split at fails
    · cases fails
    · split at fails
      · cases fails
      · split at fails <;> cases fails

/-! Other resources than the room for evidence are those of the call. -/

theorem Admission.checks_ne {call : Admission} {resource : Resource} (checked : call.checks resource) :
    resource ≠ .evidence := by
  rintro rfl
  exact checked

theorem Account.used_eq {resource : Resource} (other : resource ≠ .evidence) :
    account.used resource = account.budget.used resource := by
  cases resource <;> first | rfl | exact absurd rfl other

theorem bodyCost_eq (asked : weighable request pending body = some (metadata, candidate))
    {resource : Resource} (other : resource ≠ .evidence) :
    bodyCost request externals pending body resource =
      (admissionOf metadata candidate body account.budget).cost resource := by
  unfold bodyCost
  rw [asked]
  cases resource <;> first | rfl | exact absurd rfl other

theorem bodyCost_evidence (asked : weighable request pending body = some (metadata, candidate)) :
    bodyCost request externals pending body .evidence =
      (evidenceSizeOf request externals candidate).toNat := by
  unfold bodyCost
  rw [asked]

theorem bodyChecks_iff (asked : weighable request pending body = some (metadata, candidate))
    {resource : Resource} (other : resource ≠ .evidence) : BodyChecks request pending body resource ↔
      (deliveriesOf metadata candidate).all (deliverable metadata.kind) = true ∧
        (admissionOf metadata candidate body account.budget).checks resource := by
  unfold BodyChecks
  rw [asked]
  constructor
  · rintro ⟨_, _, same, checked⟩
    cases same
    cases resource <;> first | exact checked | exact absurd rfl other
  · intro checked
    refine ⟨metadata, candidate, rfl, ?_⟩
    cases resource <;> first | exact checked | exact absurd rfl other

theorem weigh_refused_iff : weigh request externals pending body account = .refused ↔
    Oversized request pending body ∨ ∃ resource ceiling, BodyChecks request pending body resource ∧
      ceilingOf (request.limits.limitOf resource) = some ceiling ∧
      ceiling < account.used resource + bodyCost request externals pending body resource := by
  cases asked : weighable request pending body with
  | none =>
    rw [weigh_of_not_weighable asked]
    refine iff_of_false nofun ?_
    rintro (⟨some, _⟩ | ⟨_, _, ⟨_, _, some, _⟩, _⟩)
    · exact some asked
    · cases asked.symm.trans some
  | some parts =>
    obtain ⟨metadata, candidate⟩ := parts
    obtain ⟨sound, weighed⟩ := @weigh_of_weighable _ externals _ _ _ _ account asked
    rw [weighed, weighKnown_refused_iff sound, lt_add_iff]
    constructor
    · rintro (long | ⟨ceiling, here, beyond⟩ | ⟨allowed, resource, ceiling, checked, here, beyond⟩)
      · exact .inl ⟨asked ▸ Option.some_ne_none _, long⟩
      · refine .inr ⟨.evidence, ceiling, ⟨metadata, candidate, asked, trivial⟩, here, ?_⟩
        rw [bodyCost_evidence asked]
        exact beyond
      · have other := Admission.checks_ne checked
        refine .inr ⟨resource, ceiling, (bodyChecks_iff asked other).mpr ⟨allowed, checked⟩, here, ?_⟩
        rw [Account.used_eq other, bodyCost_eq asked other]
        exact beyond
    · rintro (⟨_, long⟩ | ⟨resource, ceiling, checked, here, beyond⟩)
      · exact .inl long
      · by_cases evidence : resource = .evidence
        · subst evidence
          rw [bodyCost_evidence asked] at beyond
          exact .inr (.inl ⟨ceiling, here, beyond⟩)
        · rw [Account.used_eq evidence, bodyCost_eq asked evidence] at beyond
          obtain ⟨allowed, checked⟩ := (bodyChecks_iff asked evidence).mp checked
          exact .inr (.inr ⟨allowed, resource, ceiling, checked, here, beyond⟩)

theorem Account.used_le (resource : Resource) : account.used resource ≤ max64 := by
  by_cases other : resource = .evidence
  · subst other
    exact toNat_le account.evidenceBytes
  · rw [Account.used_eq other]
    exact BudgetUsage.used_le resource

theorem weigh_metered : Greedy.Metered (weigh request externals pending)
    (metering request externals pending) where
  capped _ := Account.used_le
  refused_iff body account := by
    rw [weigh_refused_iff, Greedy.Metering.HasRoom, not_and_or, not_not]
    refine or_congr_right ?_
    push Not
    rfl
  spends body account left taken resource ceiling here := by
    cases asked : weighable request pending body with
    | none =>
      rw [weigh_of_not_weighable asked] at taken
      cases taken
    | some parts =>
      obtain ⟨metadata, candidate⟩ := parts
      rw [(weigh_of_weighable asked).2] at taken
      obtain ⟨-, admitted, evidence⟩ := weighKnown_taken taken
      change left.used resource =
        min (account.used resource + bodyCost request externals pending body resource) max64
      by_cases other : resource = .evidence
      · subst other
        rw [bodyCost_evidence asked, Account.used, Account.used, evidence]
        exact toNat_add _ _
      · rw [Account.used_eq other, Account.used_eq other, bodyCost_eq asked other]
        exact admitDeliveries_spends (sortDedup_nodup _) admitted resource ceiling here
  fails body account other left failed taken := by
    cases asked : weighable request pending body with
    | none =>
      rw [weigh_of_not_weighable asked] at taken
      cases taken
    | some parts =>
      rw [(weigh_of_weighable asked).2] at failed taken
      exact weighKnown_fails failed taken

end

end Aise.Domain
