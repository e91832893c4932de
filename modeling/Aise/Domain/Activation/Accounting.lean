import Aise.Domain.Activation.Reserve
import Aise.Domain.Activation.Traces
import Aise.Lib.Tally

/-! The budget against the entries it was spent on. As long as the limit on all tokens is
below the largest `u64` nothing saturates, and every count is the one the activated entries
give. -/
namespace Aise.Domain
open Effect Saturating Transition OrdMap

namespace ActivatedKnowledgeRef

/-- One, if the entry is delivered to the audience. -/
def itemsFor (delivery : KnowledgeDelivery) (_ : KnowledgeSourceId)
    (entry : ActivatedKnowledgeRef) : Nat :=
  if delivery ∈ entry.deliveries then 1 else 0

/-- What the entry costs, if it is delivered to the audience. -/
def tokensFor (delivery : KnowledgeDelivery) (_ : KnowledgeSourceId)
    (entry : ActivatedKnowledgeRef) : Nat :=
  if delivery ∈ entry.deliveries then entry.tokenCost.toNat else 0

def items (_ : KnowledgeSourceId) (entry : ActivatedKnowledgeRef) : Nat := entry.deliveries.length

def tokens (_ : KnowledgeSourceId) (entry : ActivatedKnowledgeRef) : Nat :=
  entry.tokenCost.toNat * entry.deliveries.length

end ActivatedKnowledgeRef

open ActivatedKnowledgeRef

/-- Every count of the usage is the one the activated entries give. -/
structure BudgetUsage.Balances (usage : BudgetUsage) (activated : Activated) : Prop where
  audienceItems : ∀ delivery : KnowledgeDelivery,
    (usage.audienceItems[delivery]?.getD 0).toNat = total (itemsFor delivery) activated
  audienceTokens : ∀ delivery : KnowledgeDelivery,
    (usage.audienceTokens[delivery]?.getD 0).toNat = total (tokensFor delivery) activated
  totalItems : usage.totalItems.toNat = total items activated
  totalTokens : usage.normalTokens.toNat + usage.reservedTokens.toNat + usage.mandatoryTokens.toNat =
    total tokens activated

/-- Every count of the usage is within its limit. -/
structure BudgetUsage.Within (limits : ActivationRuntimeLimits) (usage : BudgetUsage) : Prop where
  audienceItems : ∀ delivery : KnowledgeDelivery,
    usage.audienceItems[delivery]?.getD 0 ≤ limits.maxItemsPerAudience
  audienceTokens : ∀ delivery : KnowledgeDelivery,
    usage.audienceTokens[delivery]?.getD 0 ≤ limits.maxTokensPerAudience
  totalItems : usage.totalItems ≤ limits.maxTotalItems
  totalTokens : usage.normalTokens.toNat + usage.reservedTokens.toNat + usage.mandatoryTokens.toNat ≤
    limits.maxTotalTokens.toNat

/-- No audience is listed without a delivery. -/
structure BudgetUsage.Proper (usage : BudgetUsage) : Prop where
  items : ∀ (delivery : KnowledgeDelivery) (count : UInt64),
    usage.audienceItems[delivery]? = some count → count ≠ 0
  tokens : ∀ (delivery : KnowledgeDelivery) (count : UInt64),
    usage.audienceTokens[delivery]? = some count → count ≠ 0

namespace BudgetUsage
variable {usage : BudgetUsage} {activated : Activated}

theorem deliver_audiences (tokenCost : UInt64) (usage : BudgetUsage)
    (deliveries : List KnowledgeDelivery) (distinct : deliveries.Nodup)
    (delivery : KnowledgeDelivery) :
    (deliveries.foldl (deliver tokenCost) usage).audienceItems[delivery]? =
        (if delivery ∈ deliveries then some (usage.audienceItems[delivery]?.getD 0 + 1)
          else usage.audienceItems[delivery]?) ∧
      (deliveries.foldl (deliver tokenCost) usage).audienceTokens[delivery]? =
        (if delivery ∈ deliveries then
          some (add (usage.audienceTokens[delivery]?.getD 0) tokenCost)
          else usage.audienceTokens[delivery]?) := by
  induction deliveries generalizing usage with
  | nil => simp
  | cons first rest ih =>
    obtain ⟨fresh, distinct⟩ := List.nodup_cons.mp distinct
    obtain ⟨items, tokens⟩ := ih (usage.deliver tokenCost first) distinct
    rw [List.foldl_cons, items, tokens]
    by_cases same : first = delivery
    · subst same
      simp only [fresh, if_false, List.mem_cons_self, if_true, deliver, get_insert, and_self]
    · have apart : delivery ≠ first := fun equal => same equal.symm
      simp only [deliver, get_insert, if_neg same, List.mem_cons, apart, false_or, and_self]

end BudgetUsage

/-- What an admitted call has passed, and what it leaves. -/
structure Admission.Booked (limits : ActivationRuntimeLimits) (call : Admission)
    (usage : BudgetUsage) : Prop where
  itemsFit : add call.usage.totalItems call.additionalItems ≤ limits.maxTotalItems
  audiencesFit : ∀ delivery ∈ call.deliveries, audienceFull limits call delivery = false
  tokensFit : add call.usage.totalTokens call.additionalTokens ≤ limits.maxTotalTokens
  items : usage.totalItems = add call.usage.totalItems call.additionalItems
  spent : usage.spent = (call.usage.charge call.effectiveClass call.additionalTokens).spent
  audienceItems : usage.audienceItems =
    (call.deliveries.foldl (BudgetUsage.deliver call.tokenCost) call.usage).audienceItems
  audienceTokens : usage.audienceTokens =
    (call.deliveries.foldl (BudgetUsage.deliver call.tokenCost) call.usage).audienceTokens

theorem admitDeliveries_booked {limits : ActivationRuntimeLimits} {call : Admission}
    {usage : BudgetUsage} (admitted : admitDeliveries limits call = (.admitted, usage)) :
    call.Booked limits usage := by
  unfold admitDeliveries at admitted
  dsimp only at admitted
  split at admitted
  · cases admitted
  · rename_i itemsFit
    split at admitted
    · cases admitted
    · rename_i audiencesFit
      split at admitted
      · cases admitted
      · rename_i tokensFit
        split at admitted
        · cases admitted
        · cases admitted
          refine ⟨UInt64.not_lt.mp itemsFit, ?_, UInt64.not_lt.mp tokensFit,
            BudgetUsage.charge_totalItems _ _ _, ?_, ?_, ?_⟩
          · exact fun delivery member => by
              simpa using List.any_eq_false.mp (Bool.eq_false_iff.mpr audiencesFit) delivery member
          · apply BudgetUsage.charge_spent
            exact BudgetUsage.deliver_spent call.tokenCost call.usage call.deliveries
          · cases call.effectiveClass <;> rfl
          · cases call.effectiveClass <;> rfl

/-- Entries that differ by some deliveries of one cost. -/
structure Adds (activated next : Activated) (deliveries : List KnowledgeDelivery) (cost : Nat) :
    Prop where
  itemsFor : ∀ delivery, total (itemsFor delivery) next =
    total (itemsFor delivery) activated + if delivery ∈ deliveries then 1 else 0
  tokensFor : ∀ delivery, total (tokensFor delivery) next =
    total (tokensFor delivery) activated + if delivery ∈ deliveries then cost else 0
  items : total items next = total items activated + deliveries.length
  tokens : total tokens next = total tokens activated + cost * deliveries.length

theorem adds_insert {activated : Activated} (entry : ActivatedKnowledgeRef)
    {sourceId : KnowledgeSourceId} (fresh : activated[sourceId]? = none) :
    Adds activated (activated.insert sourceId entry) entry.deliveries entry.tokenCost.toNat where
  itemsFor delivery := by
    rw [total_insert_fresh _ fresh, ActivatedKnowledgeRef.itemsFor, Nat.add_comm]
  tokensFor delivery := by
    rw [total_insert_fresh _ fresh, ActivatedKnowledgeRef.tokensFor, Nat.add_comm]
  items := by rw [total_insert_fresh _ fresh, ActivatedKnowledgeRef.items, Nat.add_comm]
  tokens := by rw [total_insert_fresh _ fresh, ActivatedKnowledgeRef.tokens, Nat.add_comm]

/-- Deliveries that are new to an entry are put beside those it has. -/
theorem sortDedup_perm {left right : List KnowledgeDelivery} (distinct : left.Nodup)
    (added : right.Nodup) (fresh : ∀ delivery ∈ right, delivery ∉ left) :
    (sortDedup (left ++ right)).Perm (left ++ right) := by
  have whole : (left ++ right).Nodup :=
    List.nodup_append.mpr ⟨distinct, added, fun a inLeft b inRight same =>
      fresh b inRight (same ▸ inLeft)⟩
  refine (List.perm_ext_iff_of_nodup (sortDedup_nodup _) whole).mpr fun delivery => ?_
  exact mem_sortDedup

theorem adds_modify {activated : Activated} {entry : ActivatedKnowledgeRef}
    {sourceId : KnowledgeSourceId} (found : activated[sourceId]? = some entry)
    {deliveries : List KnowledgeDelivery} (distinct : entry.deliveries.Nodup)
    (added : deliveries.Nodup) (fresh : ∀ delivery ∈ deliveries, delivery ∉ entry.deliveries) :
    Adds activated (activated.modify sourceId fun existing =>
      { existing with deliveries := sortDedup (existing.deliveries ++ deliveries) })
      deliveries entry.tokenCost.toNat := by
  have perm := sortDedup_perm distinct added fresh
  have member (delivery : KnowledgeDelivery) :
      delivery ∈ sortDedup (entry.deliveries ++ deliveries) ↔
        delivery ∈ entry.deliveries ∨ delivery ∈ deliveries := by
    rw [mem_sortDedup, List.mem_append]
  refine ⟨fun delivery => ?_, fun delivery => ?_, ?_, ?_⟩
  · have change := total_modify (ActivatedKnowledgeRef.itemsFor delivery) found
      fun existing => { existing with deliveries := sortDedup (existing.deliveries ++ deliveries) }
    simp only [ActivatedKnowledgeRef.itemsFor, member] at change ⊢
    by_cases old : delivery ∈ entry.deliveries
    · have other : delivery ∉ deliveries := fun new => fresh delivery new old
      simp only [old, other, true_or, if_true, if_false] at change ⊢
      omega
    · simp only [old, false_or, if_false] at change ⊢
      omega
  · have change := total_modify (ActivatedKnowledgeRef.tokensFor delivery) found
      fun existing => { existing with deliveries := sortDedup (existing.deliveries ++ deliveries) }
    simp only [ActivatedKnowledgeRef.tokensFor, member] at change ⊢
    by_cases old : delivery ∈ entry.deliveries
    · have other : delivery ∉ deliveries := fun new => fresh delivery new old
      simp only [old, other, true_or, if_true, if_false] at change ⊢
      omega
    · simp only [old, false_or, if_false] at change ⊢
      omega
  · have change := total_modify ActivatedKnowledgeRef.items found
      fun existing => { existing with deliveries := sortDedup (existing.deliveries ++ deliveries) }
    simp only [ActivatedKnowledgeRef.items, perm.length_eq, List.length_append] at change ⊢
    omega
  · have change := total_modify ActivatedKnowledgeRef.tokens found
      fun existing => { existing with deliveries := sortDedup (existing.deliveries ++ deliveries) }
    simp only [ActivatedKnowledgeRef.tokens, perm.length_eq, List.length_append, Nat.mul_add] at change ⊢
    omega

section
variable {limits : ActivationRuntimeLimits} {call : Admission} {usage : BudgetUsage}
  {activated next : Activated}

/-- Below the largest `u64`, an admitted charge is the product it should be. -/
theorem Admission.Booked.exact_tokens (booked : call.Booked limits usage)
    (below : limits.maxTotalTokens.toNat < max64) (within : call.usage.Within limits)
    (paid : call.tokenCost ≠ 0) :
    call.additionalTokens.toNat = call.tokenCost.toNat * call.deliveries.length ∧
      call.deliveries.length ≤ call.tokenCost.toNat * call.deliveries.length ∧
      call.usage.normalTokens.toNat + call.usage.reservedTokens.toNat +
        call.usage.mandatoryTokens.toNat + call.tokenCost.toNat * call.deliveries.length ≤
          limits.maxTotalTokens.toNat := by
  have positive : 1 ≤ call.tokenCost.toNat :=
    Nat.one_le_iff_ne_zero.mpr fun zero => paid (UInt64.toNat_inj.mp zero)
  have spent := within.totalTokens
  have fits := UInt64.le_iff_toNat_le.mp booked.tokensFit
  have charge : call.additionalTokens.toNat =
      min (call.tokenCost.toNat * min call.deliveries.length max64) max64 := by
    rw [Admission.additionalTokens, Admission.additionalItems, toNat_mul, toNat_clamp64]
  rw [toNat_add, BudgetUsage.totalTokens] at fits
  have inner := add_cases call.usage.normalTokens call.usage.reservedTokens
  have outer := add_cases (add call.usage.normalTokens call.usage.reservedTokens)
    call.usage.mandatoryTokens
  have small : call.additionalTokens.toNat < max64 := by omega
  have product : call.tokenCost.toNat * min call.deliveries.length max64 < max64 := by omega
  have length : min call.deliveries.length max64 ≤
      call.tokenCost.toNat * min call.deliveries.length max64 := Nat.le_mul_of_pos_left _ positive
  have short : min call.deliveries.length max64 = call.deliveries.length := by omega
  rw [short] at charge product length
  refine ⟨by omega, length, by omega⟩

theorem Admission.Booked.total_tokens (booked : call.Booked limits usage)
    (exactly : call.additionalTokens.toNat = call.tokenCost.toNat * call.deliveries.length)
    (fits : call.usage.normalTokens.toNat + call.usage.reservedTokens.toNat +
      call.usage.mandatoryTokens.toNat + call.tokenCost.toNat * call.deliveries.length < max64) :
    usage.normalTokens.toNat + usage.reservedTokens.toNat + usage.mandatoryTokens.toNat =
      call.usage.normalTokens.toNat + call.usage.reservedTokens.toNat +
        call.usage.mandatoryTokens.toNat + call.tokenCost.toNat * call.deliveries.length := by
  have spent := booked.spent
  simp only [BudgetUsage.spent, Prod.mk.injEq] at spent
  obtain ⟨normal, reserved, mandatory⟩ := spent
  rw [normal, reserved, mandatory]
  cases call.effectiveClass with
  | normal =>
    have sum := add_cases call.usage.normalTokens call.additionalTokens
    simp only [BudgetUsage.charge]
    omega
  | reserved =>
    have sum := add_cases call.usage.reservedTokens call.additionalTokens
    simp only [BudgetUsage.charge]
    omega
  | mandatory =>
    have sum := add_cases call.usage.mandatoryTokens call.additionalTokens
    simp only [BudgetUsage.charge]
    omega

/-- The audiences of an admitted call, one by one. -/
theorem Admission.Booked.audiences (booked : call.Booked limits usage)
    (distinct : call.deliveries.Nodup) (delivery : KnowledgeDelivery) :
    usage.audienceItems[delivery]? =
        (if delivery ∈ call.deliveries then
          some (call.usage.audienceItems[delivery]?.getD 0 + 1)
          else call.usage.audienceItems[delivery]?) ∧
      usage.audienceTokens[delivery]? =
        (if delivery ∈ call.deliveries then
          some (add (call.usage.audienceTokens[delivery]?.getD 0) call.tokenCost)
          else call.usage.audienceTokens[delivery]?) := by
  rw [booked.audienceItems, booked.audienceTokens]
  exact BudgetUsage.deliver_audiences _ _ _ distinct _

/-- Every entry has cost something. -/
def Paid (activated : Activated) : Prop :=
  ∀ (sourceId : KnowledgeSourceId) (entry : ActivatedKnowledgeRef),
    activated[sourceId]? = some entry → entry.tokenCost ≠ 0

theorem Paid.positive (paid : Paid activated) {entry : KnowledgeSourceId × ActivatedKnowledgeRef}
    (member : entry ∈ activated.toList) : 1 ≤ entry.2.tokenCost.toNat := by
  refine Nat.one_le_iff_ne_zero.mpr fun zero => ?_
  exact paid _ _ (Std.ExtTreeMap.mem_toList_iff_getElem?_eq_some.mp member) (UInt64.toNat_inj.mp zero)

theorem Paid.items_le_tokens (paid : Paid activated) :
    total items activated ≤ total tokens activated :=
  total_mono _ fun _ member => Nat.le_mul_of_pos_left _ (paid.positive member)

theorem Paid.itemsFor_le_tokensFor (paid : Paid activated) (delivery : KnowledgeDelivery) :
    total (itemsFor delivery) activated ≤ total (tokensFor delivery) activated := by
  refine total_mono _ fun entry member => ?_
  have positive := paid.positive member
  simp only [itemsFor, tokensFor]
  split <;> omega

/-- One more delivery that an audience has room for is counted exactly. -/
theorem charge_audience {items tokens cost maxItems maxTokens : UInt64}
    (itemsFit : add items 1 ≤ maxItems) (tokensFit : add tokens cost ≤ maxTokens)
    (below : maxTokens.toNat < max64) (order : items.toNat ≤ tokens.toNat) :
    (items + 1).toNat = items.toNat + 1 ∧ items + 1 ≤ maxItems ∧
      (add tokens cost).toNat = tokens.toNat + cost.toNat := by
  have itemsBound := UInt64.le_iff_toNat_le.mp itemsFit
  have tokensBound := UInt64.le_iff_toNat_le.mp tokensFit
  have sum := add_cases tokens cost
  have succ : (items + 1).toNat = items.toNat + 1 := toNat_succ (by omega)
  refine ⟨succ, ?_, by omega⟩
  rw [toNat_add, UInt64.toNat_one] at itemsBound
  rw [UInt64.le_iff_toNat_le, succ]
  omega

/-- An admitted call keeps the books balanced and within their limits. -/
theorem Admission.Booked.balances (booked : call.Booked limits usage)
    (below : limits.maxTotalTokens.toNat < max64)
    (share : limits.maxTokensPerAudience ≤ limits.maxTotalTokens)
    (balanced : call.usage.Balances activated) (within : call.usage.Within limits)
    (paid : Paid activated) (cost : call.tokenCost ≠ 0) (distinct : call.deliveries.Nodup)
    (adds : Adds activated next call.deliveries call.tokenCost.toNat) :
    usage.Balances next ∧ usage.Within limits := by
  obtain ⟨exactly, items, fits⟩ := booked.exact_tokens below within cost
  have sum := booked.total_tokens exactly (by omega)
  have share := UInt64.le_iff_toNat_le.mp share
  have itemsBelow := paid.items_le_tokens
  have counted : usage.totalItems.toNat = call.usage.totalItems.toNat + call.deliveries.length := by
    have length : call.additionalItems.toNat = call.deliveries.length := by
      rw [Admission.additionalItems, toNat_clamp64]
      omega
    have before := balanced.totalItems
    have spent := balanced.totalTokens
    have sum := add_cases call.usage.totalItems call.additionalItems
    rw [booked.items]
    omega
  have audience (delivery : KnowledgeDelivery) (member : delivery ∈ call.deliveries) :
      (call.usage.audienceItems[delivery]?.getD 0 + 1).toNat =
          (call.usage.audienceItems[delivery]?.getD 0).toNat + 1 ∧
        call.usage.audienceItems[delivery]?.getD 0 + 1 ≤ limits.maxItemsPerAudience ∧
        (add (call.usage.audienceTokens[delivery]?.getD 0) call.tokenCost).toNat =
          (call.usage.audienceTokens[delivery]?.getD 0).toNat + call.tokenCost.toNat ∧
        add (call.usage.audienceTokens[delivery]?.getD 0) call.tokenCost ≤
          limits.maxTokensPerAudience := by
    have room := booked.audiencesFit delivery member
    simp only [audienceFull, Bool.or_eq_false_iff, decide_eq_false_iff_not, UInt64.not_lt] at room
    obtain ⟨itemsFit, tokensFit⟩ := room
    have order := paid.itemsFor_le_tokensFor delivery
    rw [← balanced.audienceItems, ← balanced.audienceTokens] at order
    have charged := charge_audience itemsFit tokensFit (lt_of_le_of_lt share below) order
    exact ⟨charged.1, charged.2.1, charged.2.2, tokensFit⟩
  refine ⟨⟨fun delivery => ?_, fun delivery => ?_, ?_, ?_⟩,
    ⟨fun delivery => ?_, fun delivery => ?_, ?_, ?_⟩⟩
  · rw [(booked.audiences distinct delivery).1, adds.itemsFor]
    split
    · rename_i member
      rw [Option.getD_some, (audience delivery member).1, balanced.audienceItems]
    · rw [balanced.audienceItems, Nat.add_zero]
  · rw [(booked.audiences distinct delivery).2, adds.tokensFor]
    split
    · rename_i member
      rw [Option.getD_some, (audience delivery member).2.2.1, balanced.audienceTokens]
    · rw [balanced.audienceTokens, Nat.add_zero]
  · rw [counted, adds.items, balanced.totalItems]
  · rw [sum, adds.tokens, balanced.totalTokens]
  · rw [(booked.audiences distinct delivery).1]
    split
    · rename_i member
      exact (audience delivery member).2.1
    · exact within.audienceItems delivery
  · rw [(booked.audiences distinct delivery).2]
    split
    · rename_i member
      exact (audience delivery member).2.2.2
    · exact within.audienceTokens delivery
  · rw [booked.items]
    exact booked.itemsFit
  · rw [sum]
    exact fits

end

/-- Balanced books, and what keeps them so: no entry is free, none is delivered twice to one
audience, and nothing pending is activated already. -/
structure Standing.Exact (limits : ActivationRuntimeLimits) (s : Standing) : Prop where
  apart : s.Apart
  paid : Paid s.activated
  distinct : ∀ (sourceId : KnowledgeSourceId) (entry : ActivatedKnowledgeRef),
    s.activated[sourceId]? = some entry → entry.deliveries.Nodup
  proper : s.budget.Proper
  balanced : s.budget.Balances s.activated
  within : s.budget.Within limits

section
variable {request : ActivationRequest} {externals : Externals}
  {allow : Refusal → KnowledgeSourceId → Activated → Prop} {limits : ActivationRuntimeLimits}
  {call : Admission} {usage : BudgetUsage} {s t : Standing}

theorem Admission.Booked.proper (booked : call.Booked limits usage) {activated next : Activated}
    (proper : call.usage.Proper) (balanced : usage.Balances next) (cost : call.tokenCost ≠ 0)
    (distinct : call.deliveries.Nodup)
    (adds : Adds activated next call.deliveries call.tokenCost.toNat) : usage.Proper where
  items := by
    intro delivery count found zero
    have counted := balanced.audienceItems delivery
    rw [found, Option.getD_some, zero, adds.itemsFor] at counted
    rw [(booked.audiences distinct delivery).1] at found
    split at found
    · rename_i member
      rw [if_pos member, UInt64.toNat_zero] at counted
      omega
    · exact proper.items delivery count found zero
  tokens := by
    intro delivery count found
    rw [(booked.audiences distinct delivery).2] at found
    split at found
    · cases found
      exact add_ne_zero (.inr cost)
    · exact proper.tokens delivery count found

theorem Standing.Exact.same (exactly : s.Exact limits) (apart : t.Apart)
    (activated : t.activated = s.activated) (budget : t.budget = s.budget) : t.Exact limits where
  apart := apart
  paid := by rw [activated]; exact exactly.paid
  distinct := by rw [activated]; exact exactly.distinct
  proper := by rw [budget]; exact exactly.proper
  balanced := by rw [budget, activated]; exact exactly.balanced
  within := by rw [budget]; exact exactly.within

/-- Further deliveries are booked. -/
theorem Standing.Exact.extend (exactly : s.Exact limits)
    (below : limits.maxTotalTokens.toNat < max64)
    (share : limits.maxTokensPerAudience ≤ limits.maxTotalTokens) {sourceId : KnowledgeSourceId}
    {existing : ActivatedKnowledgeRef} (found : s.activated[sourceId]? = some existing)
    (cost : call.tokenCost = existing.tokenCost) (current : call.usage = s.budget)
    (fresh : ∀ delivery ∈ call.deliveries, delivery ∉ existing.deliveries)
    (distinct : call.deliveries.Nodup)
    (admitted : admitDeliveries limits call = (.admitted, usage)) {next : Standing}
    (apart : next.Apart) (budget : next.budget = usage)
    (activated : next.activated = s.activated.modify sourceId fun existing =>
      { existing with deliveries := sortDedup (existing.deliveries ++ call.deliveries) }) :
    next.Exact limits := by
  have booked := admitDeliveries_booked admitted
  have paid : call.tokenCost ≠ 0 := by
    rw [cost]
    exact exactly.paid _ _ found
  have adds := adds_modify found (exactly.distinct _ _ found) distinct fresh
  rw [← cost, ← activated] at adds
  have balances := booked.balances below share (by rw [current]; exact exactly.balanced)
    (by rw [current]; exact exactly.within) exactly.paid paid distinct adds
  have source {other : KnowledgeSourceId} {entry : ActivatedKnowledgeRef}
      (stored : next.activated[other]? = some entry) :
      ∃ old, s.activated[other]? = some old ∧ old.tokenCost = entry.tokenCost ∧
        (entry.deliveries = old.deliveries ∨
          entry.deliveries = sortDedup (old.deliveries ++ call.deliveries)) := by
    rw [activated, get_modify] at stored
    split at stored
    · obtain ⟨old, before, rfl⟩ := Option.map_eq_some_iff.mp stored
      exact ⟨old, before, rfl, .inr rfl⟩
    · exact ⟨entry, stored, rfl, .inl rfl⟩
  refine ⟨apart, fun other entry stored => ?_, fun other entry stored => ?_, ?_, ?_, ?_⟩
  · obtain ⟨old, before, same, _⟩ := source stored
    rw [← same]
    exact exactly.paid other old before
  · obtain ⟨old, before, _, same | more⟩ := source stored
    · rw [same]
      exact exactly.distinct other old before
    · rw [more]
      exact sortDedup_nodup _
  · rw [budget]
    exact booked.proper (by rw [current]; exact exactly.proper) balances.1 paid distinct adds
  · rw [budget]
    exact balances.1
  · rw [budget]
    exact balances.2

theorem Standing.Exact.activate (exactly : s.Exact limits)
    (below : limits.maxTotalTokens.toNat < max64)
    (share : limits.maxTokensPerAudience ≤ limits.maxTotalTokens) {sourceId : KnowledgeSourceId}
    {entry : ActivatedKnowledgeRef} (fresh : s.activated[sourceId]? = none)
    (paid : entry.tokenCost ≠ 0) (cost : call.tokenCost = entry.tokenCost)
    (current : call.usage = s.budget) (deliveries : entry.deliveries = call.deliveries)
    (distinct : call.deliveries.Nodup)
    (admitted : admitDeliveries limits call = (.admitted, usage)) {next : Standing}
    (apart : next.Apart) (budget : next.budget = usage)
    (activated : next.activated = s.activated.insert sourceId entry) : next.Exact limits := by
  have booked := admitDeliveries_booked admitted
  have adds := adds_insert entry fresh
  rw [deliveries, ← cost, ← activated] at adds
  rw [← cost] at paid
  have balances := booked.balances below share (by rw [current]; exact exactly.balanced)
    (by rw [current]; exact exactly.within) exactly.paid paid distinct adds
  refine ⟨apart, fun other stored found => ?_, fun other stored found => ?_, ?_, ?_, ?_⟩
  · rw [activated, get_insert] at found
    split at found
    · cases found
      rw [← cost]
      exact paid
    · exact exactly.paid other stored found
  · rw [activated, get_insert] at found
    split at found
    · cases found
      rw [deliveries]
      exact distinct
    · exact exactly.distinct other stored found
  · rw [budget]
    exact booked.proper (by rw [current]; exact exactly.proper) balances.1 paid distinct adds
  · rw [budget]
    exact balances.1
  · rw [budget]
    exact balances.2

theorem Change.exact (change : Change request externals allow s t)
    (below : request.limits.maxTotalTokens.toNat < max64)
    (share : request.limits.maxTokensPerAudience ≤ request.limits.maxTotalTokens)
    (exactly : s.Exact request.limits) : t.Exact request.limits := by
  have apart := change.apart exactly.apart
  cases change with
  | round change =>
    cases change with
    | extend sourceId existing call usage found cost current fresh distinct admitted =>
      exact exactly.extend below share found cost current fresh distinct admitted apart rfl rfl
    | _ => exact exactly.same apart rfl rfl
  | body change =>
    cases change with
    | activate metadata candidate body call usage evidence found known paid cost current distinct
        kept admitted =>
      exact exactly.activate below share (exactly.apart _ _ found).1 paid cost current rfl distinct
        admitted apart rfl rfl
    | _ => exact exactly.same apart rfl rfl
  | recursion change => cases change <;> exact exactly.same apart rfl rfl

/-- Ranking an entry does not change what it costs. -/
theorem ranked_total {measure : KnowledgeSourceId → ActivatedKnowledgeRef → Nat}
    (blind : ∀ sourceId (entry : ActivatedKnowledgeRef) rank,
      measure sourceId { entry with rank := rank } = measure sourceId entry)
    (session : KnowledgeActivationSession) :
    total measure session.finalContinuation.activated =
      total measure session.continuation.activated :=
  Loop.foldl_keeps (total measure) (fun _ _ => total_modify_same fun entry => blind _ entry _) _ _

theorem restoreEntry_idle {usage next : BudgetUsage} {entry : ActivatedKnowledgeRef}
    (idle : entry.deliveries = []) (restored : restoreEntry request usage entry = .ok next) :
    next = usage := by
  have nothing : mul entry.tokenCost (clamp64 0) = 0 := by
    apply UInt64.toNat_inj.mp
    rw [toNat_mul, toNat_clamp64]
    simp
  have unchanged (tokens : UInt64) : add tokens 0 = tokens := by
    apply UInt64.toNat_inj.mp
    rw [toNat_add]
    exact min_eq_left (toNat_le tokens)
  unfold restoreEntry at restored
  split at restored
  · cases restored
  · cases restored
    rename_i metadata _
    rw [idle, List.foldl_nil, List.length_nil, nothing]
    cases metadata.rule.budgetClass <;> simp only [BudgetUsage.charge, unchanged]

theorem restoreEntries_idle {entries : List ActivatedKnowledgeRef} {usage restored : BudgetUsage}
    (idle : ∀ entry ∈ entries, entry.deliveries = [])
    (ok : entries.foldlM (restoreEntry request) usage = .ok restored) : restored = usage := by
  induction entries generalizing usage with
  | nil =>
    cases ok
    rfl
  | cons entry rest ih =>
    rw [List.foldlM_cons] at ok
    obtain ⟨next, here, ok⟩ := Result.bind_eq_ok ok
    obtain ⟨first, later⟩ := List.forall_mem_cons.mp idle
    exact (ih later ok).trans (restoreEntry_idle first here)

/-- A usage without items is empty. -/
theorem Standing.Exact.empty (exactly : s.Exact limits) (none : s.budget.totalItems = 0) :
    s.budget = {} ∧ ∀ (sourceId : KnowledgeSourceId) (entry : ActivatedKnowledgeRef),
      s.activated[sourceId]? = some entry → entry.deliveries = [] := by
  have nothing : total items s.activated = 0 := by
    rw [← exactly.balanced.totalItems, none, UInt64.toNat_zero]
  have idle (sourceId : KnowledgeSourceId) (entry : ActivatedKnowledgeRef)
      (found : s.activated[sourceId]? = some entry) : entry.deliveries = [] := by
    have part := measure_le_total items found
    rw [nothing] at part
    exact List.length_eq_zero_iff.mp (Nat.le_zero.mp part)
  have vanishes {measure : KnowledgeSourceId → ActivatedKnowledgeRef → Nat}
      (free : ∀ sourceId (entry : ActivatedKnowledgeRef), entry.deliveries = [] →
        measure sourceId entry = 0) : total measure s.activated = 0 := by
    refine Nat.le_zero.mp (le_trans (total_mono items fun entry member => ?_) nothing.le)
    rw [free _ _ (idle _ _ (Std.ExtTreeMap.mem_toList_iff_getElem?_eq_some.mp member))]
    exact Nat.zero_le _
  have items : s.budget.audienceItems = ∅ := by
    apply Std.ExtTreeMap.ext_getElem?
    intro delivery
    cases found : s.budget.audienceItems[delivery]? with
    | none => simp
    | some count =>
      have counted := exactly.balanced.audienceItems delivery
      rw [found, Option.getD_some, vanishes fun _ entry free => by simp [itemsFor, free]] at counted
      exact absurd (UInt64.toNat_inj.mp counted) (exactly.proper.items delivery count found)
  have tokens : s.budget.audienceTokens = ∅ := by
    apply Std.ExtTreeMap.ext_getElem?
    intro delivery
    cases found : s.budget.audienceTokens[delivery]? with
    | none => simp
    | some count =>
      have counted := exactly.balanced.audienceTokens delivery
      rw [found, Option.getD_some, vanishes fun _ entry free => by simp [tokensFor, free]] at counted
      exact absurd (UInt64.toNat_inj.mp counted) (exactly.proper.tokens delivery count found)
  have spent := exactly.balanced.totalTokens
  rw [vanishes fun _ entry free => by simp [ActivatedKnowledgeRef.tokens, free]] at spent
  have zero (tokens : UInt64) (vanished : tokens.toNat = 0) : tokens = 0 :=
    UInt64.toNat_inj.mp vanished
  refine ⟨?_, idle⟩
  cases budget : s.budget with
  | mk audienceItems audienceTokens totalItems normalTokens reservedTokens mandatoryTokens =>
    rw [budget] at items tokens none spent
    dsimp only at items tokens none spent
    rw [items, tokens, none, zero normalTokens (by omega), zero reservedTokens (by omega),
      zero mandatoryTokens (by omega)]

section
variable {session next : KnowledgeActivationSession}

/-- A session resumes with the usage the last one ended with. -/
theorem resumed_budget (exactly : session.standing.Exact limits)
    (restored : budgetUsage request session.finalContinuation = .ok next.budget) :
    next.budget = session.budget := by
  unfold budgetUsage at restored
  split at restored
  · exact (Except.ok.inj restored).symm
  · rename_i idle
    simp only [Bool.or_eq_true, decide_eq_true_eq, not_or, UInt64.not_lt] at idle
    have none : session.budget.totalItems = 0 :=
      UInt64.toNat_inj.mp (Nat.le_zero.mp (UInt64.le_iff_toNat_le.mp idle.1))
    obtain ⟨empty, undelivered⟩ := exactly.empty none
    refine (restoreEntries_idle (fun entry member => ?_) restored).trans empty.symm
    obtain ⟨sourceId, found⟩ := mem_valuesOf.mp member
    obtain ⟨rank, stored⟩ := finalContinuation_activated found
    exact undelivered sourceId { entry with rank := rank } stored

/-- The books of a session that was just started from balanced ones. -/
theorem started_exact (exactly : session.standing.Exact limits)
    (continuation : next.continuation = session.finalContinuation)
    (budget : next.budget = session.budget) (pending : next.pending = ∅) :
    next.standing.Exact limits := by
  have entries {sourceId : KnowledgeSourceId} {entry : ActivatedKnowledgeRef}
      (found : next.standing.activated[sourceId]? = some entry) :
      ∃ rank, session.continuation.activated[sourceId]? = some { entry with rank := rank } := by
    simp only [KnowledgeActivationSession.standing, continuation] at found
    exact finalContinuation_activated found
  have totals {measure : KnowledgeSourceId → ActivatedKnowledgeRef → Nat}
      (blind : ∀ sourceId (entry : ActivatedKnowledgeRef) rank,
        measure sourceId { entry with rank := rank } = measure sourceId entry) :
      total measure next.standing.activated = total measure session.standing.activated := by
    simp only [KnowledgeActivationSession.standing, continuation]
    exact ranked_total blind session
  have sameBudget : next.standing.budget = session.standing.budget := budget
  refine ⟨fun sourceId candidate found => ?_, fun sourceId entry found => ?_,
    fun sourceId entry found => ?_, ?_, ⟨?_, ?_, ?_, ?_⟩, ?_⟩
  · simp [KnowledgeActivationSession.standing, pending] at found
  · obtain ⟨rank, stored⟩ := entries found
    exact exactly.paid sourceId { entry with rank := rank } stored
  · obtain ⟨rank, stored⟩ := entries found
    exact exactly.distinct sourceId { entry with rank := rank } stored
  · rw [sameBudget]
    exact exactly.proper
  · intro delivery
    rw [sameBudget, totals fun _ _ _ => rfl]
    exact exactly.balanced.audienceItems delivery
  · intro delivery
    rw [sameBudget, totals fun _ _ _ => rfl]
    exact exactly.balanced.audienceTokens delivery
  · rw [sameBudget, totals fun _ _ _ => rfl]
    exact exactly.balanced.totalItems
  · rw [sameBudget, totals fun _ _ _ => rfl]
    exact exactly.balanced.totalTokens
  · rw [sameBudget]
    exact exactly.within

end

theorem validated_share (accepted : validateRequest request = .ok ()) :
    request.limits.maxTokensPerAudience ≤ request.limits.maxTotalTokens := by
  unfold validateRequest at accepted
  dsimp only at accepted
  split at accepted
  · cases accepted
  · rename_i valid
    simp only [Bool.or_eq_true, decide_eq_true_eq, not_or] at valid
    exact UInt64.not_lt.mp valid.1.1.1.1.2

namespace Live
open KnowledgeActivationSession
variable {first live next : Live}

/-- The books of an open session are exact. -/
structure Exact (live : Live) : Prop where
  share : live.request.limits.maxTokensPerAudience ≤ live.request.limits.maxTotalTokens
  below : live.request.limits.maxTotalTokens.toNat < max64
  limits : live.session.continuation.limits = live.request.limits
  exactly : live.session.standing.Exact live.request.limits

theorem Exact.resume {result : ActivationResult} (held : live.Exact)
    (finished : finish live.request live.session = .ok result)
    (continues : next.request.continuation = some result.continuation)
    (started : start next.request = .ok next.session) :
    next.Exact ∧ next.session.budget = live.session.budget := by
  obtain ⟨same, limits, equal⟩ := resumed_limits held.limits finished continues started
  obtain ⟨_, restored, _⟩ := start_ok started
  rw [same] at restored
  have budget := resumed_budget held.exactly restored
  refine ⟨⟨validated_share (start_started started).accepted, ?_, limits, ?_⟩, budget⟩
  · rw [equal]
    exact held.below
  · rw [equal]
    exact started_exact held.exactly same budget (start_started started).pending

theorem opens_exact (opens : live.Opens)
    (below : live.request.limits.maxTotalTokens.toNat < max64) : live.Exact := by
  obtain ⟨⟨_, chosen⟩ | ⟨_, given⟩, restored, _⟩ := start_ok opens.2
  · have started := start_started opens.2
    have budget : live.session.budget = {} := by
      rw [chosen] at restored
      exact (Except.ok.inj restored).symm
    refine ⟨validated_share started.accepted, below, by rw [chosen]; rfl, ?_⟩
    have activated : live.session.standing.activated = ∅ := by
      simp [standing, chosen, newContinuation]
    have usage : live.session.standing.budget = {} := budget
    refine ⟨fun sourceId candidate found => ?_, fun sourceId entry found => ?_,
      fun sourceId entry found => ?_, ?_, ?_, ?_⟩
    · simp [standing, started.pending] at found
    · simp [activated] at found
    · simp [activated] at found
    · rw [usage]
      exact ⟨by simp, by simp⟩
    · rw [usage, activated]
      exact ⟨by simp, by simp, by simp, by simp⟩
    · rw [usage]
      exact ⟨by simp, by simp, by simp, by simp⟩
  · rw [opens.1] at given
    cases given

theorem run_exact {externals : Externals} (held : first.Exact)
    (run : Reaches (Step externals) first live) : live.Exact := by
  refine Live.invariant (P := Exact) (fun {live t} held trace => ?_)
    (fun held finished continues started => (held.resume finished continues started).1) run held
  refine ⟨held.share, held.below, ?_, ?_⟩
  · exact Transition.invariant (P := fun t : Standing => t.limits = live.request.limits)
      (fun same change => change.limits.trans same) trace held.limits
  · exact Transition.invariant (P := fun t : Standing => t.Exact live.request.limits)
      (fun exactly change => change.exact held.below held.share exactly) trace held.exactly

end Live

end

/-- Over rounds and resumes, with a limit on all tokens below the largest `u64`, the books of
every session are balanced and within their limits, and the next session opens with them. -/
theorem delivery_accounting_exact {externals : Externals} {first live : Live}
    (opens : first.Opens) (below : first.request.limits.maxTotalTokens.toNat < max64)
    (run : Reaches (Live.Step externals) first live) :
    live.session.budget.Balances live.session.continuation.activated ∧
      live.session.budget.Within live.request.limits ∧
      ∀ (result : ActivationResult) (next : Live),
        KnowledgeActivationSession.finish live.request live.session = .ok result →
        next.request.continuation = some result.continuation →
        KnowledgeActivationSession.start next.request = .ok next.session →
          next.session.budget = live.session.budget := by
  have held := Live.run_exact (Live.opens_exact opens below) run
  refine ⟨held.exactly.balanced, held.exactly.within, fun result next finished continues started => ?_⟩
  exact (held.resume finished continues started).2

namespace Accounting.Sample
open Reserve.Sample (externals lore legend)

/-- No limit on tokens but the type's own. -/
def limits : ActivationRuntimeLimits :=
  { Reserve.Sample.limits with
    maxTokensPerAudience := 0xFFFFFFFFFFFFFFFF
    maxTotalTokens := 0xFFFFFFFFFFFFFFFF
    reservedTokens := 0
    mandatoryTokens := 0 }

def request : ActivationRequest := { Reserve.Sample.request with limits := limits }

def opened : Live where
  request := request
  session := {
    continuation := newContinuation request
    timedValid := ∅
    timedDelta := {}
    rejections := fun _ => none
    budget := (newContinuation request).usage
    state := .initial }

def round : Live :=
  { opened with
    session := after (KnowledgeActivationSession.nextRound request externals opened.session) }

/-- Two entries, each of the largest cost there is. -/
def bodies : List ActivationEntryBody :=
  [⟨lore, .fact, 0xFFFFFFFFFFFFFFFF, ⟨"told"⟩⟩, ⟨legend, .fact, 0xFFFFFFFFFFFFFFFF, ⟨"told"⟩⟩]

def supplied : Live :=
  { round with
    session := after (KnowledgeActivationSession.supplyBodies request externals bodies
      round.session) }

/-- Both are admitted, and the second is not counted. -/
theorem saturated_tokens_unbalanced :
    opened.Opens ∧ Reaches (Live.Step externals) opened supplied ∧
      ¬ supplied.session.budget.Balances supplied.session.continuation.activated := by
  refine ⟨⟨rfl, rfl⟩, .tail (.single (.nextRound opened)) (.supplyBodies round bodies), ?_⟩
  intro balances
  have writer := balances.audienceTokens .writer
  revert writer
  decide +kernel

/-- Two entries of the other sample, booked exactly. -/
theorem two_entries_balanced :
    (Reserve.Sample.supplied [(legend, 10), (lore, 60)]).session.budget.Balances
        (Reserve.Sample.supplied [(legend, 10), (lore, 60)]).session.continuation.activated ∧
      (Reserve.Sample.supplied [(legend, 10), (lore, 60)]).session.continuation.activated.size = 2 := by
  refine ⟨?_, by decide +kernel⟩
  exact (delivery_accounting_exact Reserve.Sample.opened_opens (by decide)
    (.tail (.single Reserve.Sample.round_step) (Reserve.Sample.supplied_step _))).1

end Accounting.Sample

end Aise.Domain
