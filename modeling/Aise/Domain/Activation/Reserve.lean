import Aise.Domain.Activation.Ledger
import Aise.Domain.Activation.Run
import Aise.Lib.OrdMap
import Aise.Lib.Result
import Aise.Lib.Transition

/-! The tokens set aside for mandatory knowledge. The reserved ceiling counts normal and
reserved tokens together, the normal ceiling counts normal tokens only; the reserve holds as
long as a normal entry is not admitted while the reserved ones use more than their share. -/
namespace Aise.Domain
open Effect Saturating

namespace BudgetUsage

/-- The tokens of each class. -/
def spent (usage : BudgetUsage) : UInt64 × UInt64 × UInt64 :=
  (usage.normalTokens, usage.reservedTokens, usage.mandatoryTokens)

theorem deliver_spent (tokenCost : UInt64) (usage : BudgetUsage)
    (deliveries : List KnowledgeDelivery) :
    (deliveries.foldl (deliver tokenCost) usage).spent = usage.spent := by
  have keeps (usage : BudgetUsage) (delivery : KnowledgeDelivery) :
      (usage.deliver tokenCost delivery).spent = usage.spent := rfl
  exact Loop.foldl_keeps spent keeps usage deliveries

theorem charge_spent {usage other : BudgetUsage} (same : usage.spent = other.spent)
    (budgetClass : ActivationBudgetClass) (tokens : UInt64) :
    (usage.charge budgetClass tokens).spent = (other.charge budgetClass tokens).spent := by
  simp only [spent, Prod.mk.injEq] at same
  obtain ⟨normal, reserved, mandatory⟩ := same
  cases budgetClass <;> simp only [charge, spent, normal, reserved, mandatory]

theorem charge_totalItems (usage : BudgetUsage) (budgetClass : ActivationBudgetClass)
    (tokens : UInt64) : (usage.charge budgetClass tokens).totalItems = usage.totalItems := by
  cases budgetClass <;> rfl

/-- Normal and reserved entries leave the mandatory tokens alone. -/
def Protected (limits : ActivationRuntimeLimits) (usage : BudgetUsage) : Prop :=
  usage.normalTokens.toNat + usage.reservedTokens.toNat ≤
    limits.maxTotalTokens.toNat - limits.mandatoryTokens.toNat

instance (limits : ActivationRuntimeLimits) (usage : BudgetUsage) :
    Decidable (usage.Protected limits) :=
  inferInstanceAs (Decidable (_ ≤ _))

end BudgetUsage

namespace Admission
variable (limits : ActivationRuntimeLimits) (call : Admission)

/-- All tokens in use and the charge of the call, added without saturation. -/
def demand : Nat :=
  call.usage.normalTokens.toNat + call.usage.reservedTokens.toNat +
    call.usage.mandatoryTokens.toNat + call.tokenCost.toNat * call.deliveries.length

/-- Below a ceiling, no sum of the call passes `u64::MAX` unnoticed. -/
def Noticed (ceiling : UInt64) : Prop := ceiling.toNat < max64 ∨ call.demand ≤ max64

/-- A normal entry is admitted while the reserved tokens in use are within their share, or
the mandatory tokens in use have reached theirs and the total protects the rest. The sums
that matter must not saturate unnoticed. -/
def Guarded : Prop :=
  match call.effectiveClass with
  | .normal =>
    call.usage.reservedTokens ≤ limits.reservedTokens ∨
      limits.mandatoryTokens ≤ call.usage.mandatoryTokens ∧ call.Noticed limits.maxTotalTokens
  | .reserved => call.Noticed (reservedCeiling limits)
  | .mandatory => True

instance (ceiling : UInt64) : Decidable (call.Noticed ceiling) :=
  inferInstanceAs (Decidable (_ ∨ _))

instance : Decidable (call.Guarded limits) :=
  match effective : call.effectiveClass with
  | .normal => decidable_of_iff
      (call.usage.reservedTokens ≤ limits.reservedTokens ∨
        limits.mandatoryTokens ≤ call.usage.mandatoryTokens ∧ call.Noticed limits.maxTotalTokens)
      (by simp only [Guarded, effective])
  | .reserved => decidable_of_iff (call.Noticed (reservedCeiling limits))
      (by simp only [Guarded, effective])
  | .mandatory => isTrue (by simp only [Guarded, effective])

theorem additionalTokens_le :
    call.additionalTokens.toNat ≤ call.tokenCost.toNat * call.deliveries.length := by
  rw [additionalTokens, additionalItems, toNat_mul, toNat_clamp64]
  refine le_trans (min_le_left _ _) ?_
  exact Nat.mul_le_mul_left _ (min_le_left _ _)

end Admission

section
variable {limits : ActivationRuntimeLimits} {call : Admission}

/-- A call leaves the usage as it was, or passes the total and its class and charges both. -/
theorem admitDeliveries_cases (limits : ActivationRuntimeLimits) (call : Admission) :
    admitDeliveries limits call = (.rejected, call.usage) ∨
      ∃ usage, admitDeliveries limits call = (.admitted, usage) ∧
        add call.usage.totalTokens call.additionalTokens ≤ limits.maxTotalTokens ∧
        classFull limits call = false ∧
        usage.totalItems = add call.usage.totalItems call.additionalItems ∧
        usage.spent = (call.usage.charge call.effectiveClass call.additionalTokens).spent := by
  unfold admitDeliveries
  dsimp only
  split
  · exact .inl rfl
  · split
    · exact .inl rfl
    · split
      · exact .inl rfl
      · rename_i within
        split
        · exact .inl rfl
        · rename_i room
          refine .inr ⟨_, rfl, UInt64.not_lt.mp within, by simpa using room, ?_, ?_⟩
          · exact BudgetUsage.charge_totalItems _ _ _
          · apply BudgetUsage.charge_spent
            exact BudgetUsage.deliver_spent call.tokenCost call.usage call.deliveries

/-- A noticed total is exact. -/
theorem checked_total (noticed : call.Noticed limits.maxTotalTokens)
    (within : add call.usage.totalTokens call.additionalTokens ≤ limits.maxTotalTokens) :
    call.usage.normalTokens.toNat + call.usage.reservedTokens.toNat +
      call.usage.mandatoryTokens.toNat + call.additionalTokens.toNat ≤
        limits.maxTotalTokens.toNat := by
  have total := UInt64.le_iff_toNat_le.mp within
  have charged := call.additionalTokens_le
  rw [BudgetUsage.totalTokens, toNat_add] at total
  have inner := add_cases call.usage.normalTokens call.usage.reservedTokens
  have middle := add_cases (add call.usage.normalTokens call.usage.reservedTokens)
    call.usage.mandatoryTokens
  simp only [Admission.Noticed, Admission.demand] at noticed
  omega

/-- So is a noticed sum of normal and reserved tokens. -/
theorem checked_shares {ceiling : UInt64} (noticed : call.Noticed ceiling)
    (within : add (add call.usage.normalTokens call.usage.reservedTokens) call.additionalTokens ≤
      ceiling) :
    call.usage.normalTokens.toNat + call.usage.reservedTokens.toNat +
      call.additionalTokens.toNat ≤ ceiling.toNat := by
  have total := UInt64.le_iff_toNat_le.mp within
  have charged := call.additionalTokens_le
  rw [toNat_add] at total
  have inner := add_cases call.usage.normalTokens call.usage.reservedTokens
  simp only [Admission.Noticed, Admission.demand] at noticed
  omega

/-- A guarded call keeps the reserve. -/
theorem admitDeliveries_protects (guarded : call.Guarded limits)
    (held : call.usage.Protected limits) : (admitDeliveries limits call).2.Protected limits := by
  rcases admitDeliveries_cases limits call with rejected | ⟨usage, admitted, within, fits, _, spent⟩
  · rw [rejected]
    exact held
  · rw [admitted]
    simp only [BudgetUsage.spent, Prod.mk.injEq] at spent
    obtain ⟨normal, reserved, _⟩ := spent
    simp only [BudgetUsage.Protected] at held ⊢
    rw [normal, reserved]
    cases effective : call.effectiveClass with
    | mandatory => exact held
    | normal =>
      simp only [Admission.Guarded, effective] at guarded
      simp only [classFull, effective] at fits
      have ceiling := UInt64.le_iff_toNat_le.mp (UInt64.not_lt.mp (of_decide_eq_false fits))
      rw [normalCeiling, toNat_sub, toNat_sub] at ceiling
      simp only [BudgetUsage.charge]
      rcases guarded with share | ⟨full, noticed⟩
      · have share := UInt64.le_iff_toNat_le.mp share
        omega
      · have full := UInt64.le_iff_toNat_le.mp full
        have total := checked_total noticed within
        have sum := add_cases call.usage.normalTokens call.additionalTokens
        omega
    | reserved =>
      simp only [Admission.Guarded, effective] at guarded
      simp only [classFull, effective] at fits
      have total := checked_shares guarded (UInt64.not_lt.mp (of_decide_eq_false fits))
      have sum := add_cases call.usage.reservedTokens call.additionalTokens
      rw [reservedCeiling, toNat_sub] at total
      simp only [BudgetUsage.charge]
      omega

end

namespace Ledger
variable {limits : ActivationRuntimeLimits} {ledger : Ledger}

/-- Every usage the session has been through, the present one last. -/
def usages (ledger : Ledger) : List BudgetUsage :=
  ledger.admissions.map (·.usage) ++ [ledger.budget]

def Guarded (limits : ActivationRuntimeLimits) (ledger : Ledger) : Prop :=
  ∀ call ∈ ledger.admissions, call.Guarded limits

/-- As long as every call is guarded the reserve holds. No delivery goes uncounted, which is
why recomputing the usage of a finished session changes nothing. -/
structure Sound (limits : ActivationRuntimeLimits) (ledger : Ledger) : Prop where
  sameLimits : ledger.limits = limits
  reserve : ledger.Guarded limits → ∀ usage ∈ ledger.usages, usage.Protected limits
  counted : ∀ (sourceId : KnowledgeSourceId) (entry : ActivatedKnowledgeRef),
    ledger.activated[sourceId]? = some entry → entry.deliveries ≠ [] →
      ledger.budget.totalItems ≠ 0

theorem Sound.budget (sound : ledger.Sound limits) (guarded : ledger.Guarded limits) :
    ledger.budget.Protected limits := by
  apply sound.reserve guarded
  rw [usages]
  exact List.mem_append_right _ (List.mem_singleton_self _)

/-- The ledger after a call of `admit_deliveries`. -/
def book (limits : ActivationRuntimeLimits) (ledger : Ledger) (call : Admission) : Ledger :=
  { ledger with
    budget := (admitDeliveries limits call).2
    admissions := ledger.admissions ++ [call] }

theorem book_usages {call : Admission} (current : call.usage = ledger.budget) :
    (ledger.book limits call).usages = ledger.usages ++ [(admitDeliveries limits call).2] := by
  simp only [usages, book, List.map_append, List.map_singleton, current]

theorem Sound.book {call : Admission} (sound : ledger.Sound limits)
    (current : call.usage = ledger.budget) : (ledger.book limits call).Sound limits where
  sameLimits := sound.sameLimits
  reserve := by
    intro guarded usage member
    have before : ledger.Guarded limits := fun other among =>
      guarded other (List.mem_append_left _ among)
    rw [book_usages current, List.mem_append, List.mem_singleton] at member
    rcases member with earlier | rfl
    · exact sound.reserve before usage earlier
    · have here := guarded call (List.mem_append_right _ (List.mem_singleton_self _))
      refine admitDeliveries_protects here ?_
      rw [current]
      exact sound.budget before
  counted := by
    intro sourceId entry found delivered
    have nonzero := sound.counted sourceId entry found delivered
    rw [← current] at nonzero
    simp only [Ledger.book]
    rcases admitDeliveries_cases limits call with rejected | ⟨usage, admitted, _, _, items, _⟩
    · rw [rejected]
      exact nonzero
    · rw [admitted, items]
      exact add_ne_zero (.inl nonzero)

end Ledger

/-- An admitted delivery is counted. -/
theorem admitted_counts {limits : ActivationRuntimeLimits} {call : Admission}
    (admitted : (admitDeliveries limits call).1 = .admitted) (nonempty : call.deliveries ≠ []) :
    (admitDeliveries limits call).2.totalItems ≠ 0 := by
  rcases admitDeliveries_cases limits call with rejected | ⟨usage, result, _, _, items, _⟩
  · rw [rejected] at admitted
    cases admitted
  · rw [result, items]
    refine add_ne_zero (.inr fun zero => ?_)
    have length := congrArg UInt64.toNat zero
    rw [Admission.additionalItems, toNat_clamp64] at length
    have positive := List.length_pos_iff.mpr nonempty
    have large : 0 < max64 := by decide
    simp only [UInt64.toNat_zero] at length
    omega

namespace KnowledgeActivationSession
variable {request : ActivationRequest} {externals : Externals}

/-- The session keeps sound books for the limits of its request. -/
abbrev Sound (request : ActivationRequest) (session : KnowledgeActivationSession) : Prop :=
  session.ledger.Sound request.limits

theorem admitTo_meets (budgetClass : ActivationBudgetClass) (forcedMandatory : Bool)
    (tokenCost : UInt64) (deliveries : List KnowledgeDelivery) :
    Meets (Sound request) (admitTo request budgetClass forcedMandatory tokenCost deliveries)
      (fun outcome session => Sound request session ∧
        (outcome = .admitted → deliveries ≠ [] → session.budget.totalItems ≠ 0))
      (Sound request) := by
  intro session sound
  exact ⟨Ledger.Sound.book sound rfl, fun admitted nonempty => admitted_counts admitted nonempty⟩

theorem extend_sound {session : KnowledgeActivationSession} (sound : Sound request session)
    (counted : session.budget.totalItems ≠ 0) (sourceId : KnowledgeSourceId)
    (deliveries : List KnowledgeDelivery) : Sound request (session.extend sourceId deliveries) where
  sameLimits := sound.sameLimits
  reserve := sound.reserve
  counted _ _ _ _ := counted

theorem activate_sound {session : KnowledgeActivationSession} {metadata : ActivationEntryMetadata}
    {candidate : Candidate} {body : ActivationEntryBody} {deliveries : List KnowledgeDelivery}
    {evidence : List ActivationEvidence} (sound : Sound request session)
    (counted : deliveries ≠ [] → session.budget.totalItems ≠ 0) :
    Sound request
      (activate request externals metadata candidate body deliveries evidence session) where
  sameLimits := sound.sameLimits
  reserve := sound.reserve
  counted := by
    intro sourceId entry found delivered
    simp only [activate, ledger, OrdMap.get_insert] at found
    split at found
    · cases found
      exact counted delivered
    · exact sound.counted sourceId entry found delivered

theorem mergeExistingDeliveries_keeps (metadata : ActivationEntryMetadata)
    (candidate : Candidate) :
    Keeps (Sound request) (mergeExistingDeliveries request metadata candidate) := by
  unfold mergeExistingDeliveries
  refine .bind (spares_get.keeps) fun session => ?_
  split
  · exact meets_pure fun _ sound => sound
  · rename_i existing _
    dsimp only
    split
    · exact meets_pure fun _ sound => sound
    · rename_i nonempty
      refine .bind (validateDeliveries_spares _ _).keeps fun _ => ?_
      refine Meets.bind (admitTo_meets _ _ _ _) fun outcome => ?_
      cases outcome with
      | admitted =>
        refine meets_modify fun session booked => ?_
        exact extend_sound booked.1 (booked.2 rfl (by simpa using nonempty)) _ _
      | rejected =>
        dsimp only
        split
        · exact meets_throw fun _ booked => booked.1
        · exact meets_modify fun _ booked => booked.1

theorem admitBody_keeps (candidate : Candidate) (body : ActivationEntryBody) :
    Keeps (Sound request) (admitBody request externals candidate body) := by
  unfold admitBody
  split
  · exact (spares_throw _).keeps
  · dsimp only
    split
    · exact (spares_throw _).keeps
    · split
      · exact (trimUnless_spares _ _ _).keeps
      · refine .bind spares_get.keeps fun session => ?_
        split
        · exact (trimUnless_spares _ _ _).keeps
        · refine .bind (validateDeliveries_spares _ _).keeps fun _ => ?_
          refine Meets.bind (admitTo_meets _ _ _ _) fun outcome => ?_
          cases outcome with
          | rejected =>
            exact (trimUnless_spares _ _ _).keeps.weaken (fun _ booked => booked.1)
              (fun _ _ sound => sound) fun _ sound => sound
          | admitted =>
            exact meets_modify fun session booked => activate_sound booked.1 (booked.2 rfl)

theorem supplyBodies_keeps (bodies : List ActivationEntryBody) :
    Keeps (Sound request) (supplyBodies request externals bodies) := by
  have each (body : ActivationEntryBody) :
      Keeps (Sound request) (supplyBody request externals body) := by
    unfold supplyBody
    refine .bind spares_get.keeps fun session => ?_
    split
    · exact (spares_throw _).keeps
    · exact .bind (keeps_modify fun _ sound => sound) fun _ => admitBody_keeps _ _
  unfold supplyBodies
  refine .bind (keeps_forM each bodies) fun _ => .bind spares_get.keeps fun session => ?_
  split
  · exact (spares_pure _).keeps
  · exact (spares_throw _).keeps

theorem considerCandidate_keeps (eligible : List Candidate) (candidate : Candidate) :
    Keeps (Sound request) (considerCandidate request eligible candidate) := by
  unfold considerCandidate
  refine .bind (keeps_modify fun _ sound => sound) fun _ => ?_
  split
  · exact (spares_throw _).keeps
  · refine .bind spares_get.keeps fun session => ?_
    split
    · exact .bind (mergeExistingDeliveries_keeps _ _) fun _ => (spares_pure _).keeps
    · split
      · exact (spares_pure _).keeps
      · split
        · exact (spares_pure _).keeps
        · exact .bind (keeps_modify fun _ sound => sound) fun _ => (spares_pure _).keeps
        · exact .bind (keeps_modify fun _ sound => sound) fun _ => (spares_pure _).keeps

theorem runRound_keeps (state : ActivationMachineState) :
    Keeps (Sound request) (runRound request externals state) := by
  have select : Keeps (Sound request) (selectRound request externals) := by
    unfold selectRound
    refine .bind collectCandidates_spares.keeps fun collected => ?_
    refine .bind (keeps_modify fun _ sound => sound) fun _ => ?_
    refine .bind (trimCandidates_spares _).keeps fun candidates => ?_
    refine .bind (meets_foldlM considerCandidate_keeps _ _) fun considered => ?_
    refine .bind (resolveGroups_spares _).keeps fun eligible => ?_
    exact (spares_foldlM enterPending_spares _ _).keeps
  unfold runRound
  refine .bind (keeps_modify fun _ sound => sound) fun _ => .bind select fun admitted => ?_
  exact .bind spares_get.keeps fun session => (spares_pure _).keeps

theorem depthRound_keeps : Keeps (Sound request) (depthRound request externals) := by
  unfold depthRound
  refine .bind spares_get.keeps fun session => ?_
  dsimp only
  split
  · refine .bind (keeps_modify fun _ sound => sound) fun _ => ?_
    refine .bind accountScanFragments_spares.keeps fun _ => ?_
    refine .bind (setStage_spares _).keeps fun _ => ?_
    exact (runRound_keeps _).map fun _ _ sound => sound
  · exact .bind (setStage_spares _).keeps fun _ => (spares_pure _).keeps

theorem nextRound_keeps : Keeps (Sound request) (nextRound request externals) := by
  have round (state : ActivationMachineState) :
      Keeps (Sound request) (some <$> runRound request externals state) :=
    (runRound_keeps state).map fun _ _ sound => sound
  have deepen : Keeps (Sound request) (setStage .depthLoop >>= fun _ =>
      depthRound request externals) :=
    .bind (setStage_spares _).keeps fun _ => depthRound_keeps
  unfold nextRound
  refine .bind spares_get.keeps fun session => ?_
  split
  · exact (spares_throw _).keeps
  · split
    · exact (spares_pure _).keeps
    · refine .bind accountScanFragments_spares.keeps fun _ => ?_
      exact .bind (setStage_spares _).keeps fun _ => round _
    · refine .bind expandRecursion_spares.keeps fun step => ?_
      cases step with
      | none => exact deepen
      | exhausted => exact deepen
      | expanded => exact round _
    · refine .bind expandRecursion_spares.keeps fun step => ?_
      cases step with
      | none => exact deepen
      | exhausted => exact .bind (setStage_spares _).keeps fun _ => (spares_pure _).keeps
      | expanded => exact round _
    · exact depthRound_keeps

end KnowledgeActivationSession

/-- An entry delivered to nobody costs nothing. -/
theorem restoreEntry_spent {request : ActivationRequest} {usage next : BudgetUsage}
    {entry : ActivatedKnowledgeRef} (idle : entry.deliveries = [])
    (restored : restoreEntry request usage entry = .ok next) : next.spent = usage.spent := by
  have nothing : mul entry.tokenCost (clamp64 0) = 0 := by
    apply UInt64.toNat_inj.mp
    rw [toNat_mul, toNat_clamp64]
    simp
  have unchanged (tokens : UInt64) : add tokens 0 = tokens := by
    apply UInt64.toNat_inj.mp
    rw [toNat_add]
    exact min_eq_left (toNat_le tokens)
  unfold restoreEntry at restored
  split at restored
  · cases restored
  · cases restored
    rename_i metadata _
    rw [idle, List.foldl_nil, List.length_nil, nothing]
    cases metadata.rule.budgetClass <;>
      simp only [BudgetUsage.charge, BudgetUsage.spent, unchanged]

theorem restoreEntries_spent {request : ActivationRequest} {entries : List ActivatedKnowledgeRef}
    {usage restored : BudgetUsage} (idle : ∀ entry ∈ entries, entry.deliveries = [])
    (ok : entries.foldlM (restoreEntry request) usage = .ok restored) :
    restored.spent = usage.spent := by
  induction entries generalizing usage with
  | nil =>
    cases ok
    rfl
  | cons entry rest ih =>
    rw [List.foldlM_cons] at ok
    obtain ⟨next, here, ok⟩ := Result.bind_eq_ok ok
    obtain ⟨first, later⟩ := List.forall_mem_cons.mp idle
    exact (ih later ok).trans (restoreEntry_spent first here)

/-- What a session resumes with is what the continuation carries, or nothing at all. -/
theorem budgetUsage_cases {request : ActivationRequest} {continuation : ActivationContinuation}
    {usage : BudgetUsage} (restored : budgetUsage request continuation = .ok usage) :
    usage = continuation.usage ∨
      continuation.totalDeliveryItems = 0 ∧
        ((∀ entry ∈ valuesOf continuation.activated, entry.deliveries = []) →
          usage.spent = (0, 0, 0)) := by
  unfold budgetUsage at restored
  split at restored
  · cases restored
    exact .inl rfl
  · rename_i idle
    simp only [Bool.or_eq_true, decide_eq_true_eq, not_or, UInt64.not_lt] at idle
    refine .inr ⟨?_, fun entries => restoreEntries_spent entries restored⟩
    have bound := UInt64.le_iff_toNat_le.mp idle.1
    exact UInt64.toNat_inj.mp (Nat.le_zero.mp bound)

namespace KnowledgeActivationSession
variable {request : ActivationRequest} {session : KnowledgeActivationSession}

/-- Books that were sound when they were closed are sound when they are opened again. -/
theorem restored_sound (empty : session.admissions = [])
    (restored : budgetUsage request session.continuation = .ok session.budget)
    (sameLimits : session.continuation.limits = request.limits)
    (held : session.continuation.usage.Protected request.limits)
    (counted : ∀ (sourceId : KnowledgeSourceId) (entry : ActivatedKnowledgeRef),
      session.continuation.activated[sourceId]? = some entry → entry.deliveries ≠ [] →
        session.continuation.totalDeliveryItems ≠ 0) : Sound request session := by
  have alone {usage : BudgetUsage} (member : usage ∈ session.ledger.usages) :
      usage = session.budget := by
    simpa only [Ledger.usages, ledger, empty, List.map_nil, List.nil_append, List.mem_singleton]
      using member
  rcases budgetUsage_cases restored with carried | ⟨none, nothing⟩
  · refine ⟨sameLimits, fun _ usage member => ?_, fun sourceId entry found delivered => ?_⟩
    · rw [alone member, carried]
      exact held
    · have nonzero := counted sourceId entry found delivered
      simp only [ledger, carried]
      exact nonzero
  · have idle (sourceId : KnowledgeSourceId) (entry : ActivatedKnowledgeRef)
        (found : session.continuation.activated[sourceId]? = some entry) :
        entry.deliveries = [] := by
      by_contra delivered
      exact counted sourceId entry found delivered none
    refine ⟨sameLimits, fun _ usage member => ?_, fun sourceId entry found delivered => ?_⟩
    · have spent := nothing fun entry member => by
        obtain ⟨sourceId, found⟩ := mem_valuesOf.mp member
        exact idle sourceId entry found
      simp only [BudgetUsage.spent, Prod.mk.injEq] at spent
      rw [alone member, BudgetUsage.Protected, spent.1, spent.2.1]
      exact Nat.zero_le _
    · exact absurd (idle sourceId entry found) delivered

theorem opened_sound (fresh : request.continuation = none)
    (started : start request = .ok session) : Sound request session := by
  obtain ⟨⟨_, chosen⟩ | ⟨_, given⟩, restored, empty⟩ := start_ok started
  · refine restored_sound empty restored ?_ ?_ ?_
    · rw [chosen, newContinuation]
    · rw [chosen]
      exact Nat.zero_le _
    · intro sourceId entry found
      rw [chosen] at found
      simp [newContinuation] at found
  · rw [fresh] at given
    cases given

theorem resumed_sound {earlier : ActivationRequest} {finished : KnowledgeActivationSession}
    (sound : Sound earlier finished) (guarded : finished.ledger.Guarded earlier.limits)
    (given : request.continuation = some finished.finalContinuation)
    (started : start request = .ok session) :
    Sound request session := by
  obtain ⟨⟨fresh, _⟩ | ⟨belongs, chosen⟩, restored, empty⟩ := start_ok started
  · rw [fresh] at given
    cases given
  · have same := Option.some.inj (chosen.symm.trans given)
    simp only [continues, Bool.and_eq_true, decide_eq_true_eq] at belongs
    have limits : earlier.limits = request.limits := by
      rw [← belongs.2, same, ← sound.sameLimits]
      rfl
    refine restored_sound empty restored belongs.2 ?_ ?_
    · rw [same, ← limits]
      exact sound.budget guarded
    · intro sourceId entry found delivered
      rw [same] at found ⊢
      obtain ⟨rank, stored⟩ := finalContinuation_activated found
      exact sound.counted sourceId _ stored delivered

end KnowledgeActivationSession

namespace Live
open KnowledgeActivationSession
variable {externals : Externals}

/-- Every call of `admit_deliveries` in the session is guarded. -/
def Guarded (live : Live) : Prop := live.session.ledger.Guarded live.request.limits

instance (live : Live) : Decidable live.Guarded :=
  inferInstanceAs (Decidable (∀ call ∈ live.session.admissions, call.Guarded live.request.limits))

abbrev Sound (live : Live) : Prop := live.session.ledger.Sound live.request.limits

theorem step_sound {live next : Live} (sound : live.Sound) (guarded : live.Guarded)
    (step : Step externals live next) : next.Sound := by
  cases step with
  | nextRound => exact Meets.after nextRound_keeps sound
  | supplyBodies bodies => exact Meets.after (supplyBodies_keeps bodies) sound
  | dropAdmitted sourceId =>
    exact Meets.after (dropAdmitted_spares sourceId).keeps sound
  | resume _ result finished continues started =>
    rw [finish_ok finished] at continues
    exact resumed_sound sound guarded continues started

end Live

/-- In every run, over rounds and resumes, in which every call is guarded, no usage the
session goes through touches the tokens set aside for mandatory knowledge. -/
theorem mandatory_reserve_protected {externals : Externals} {first live : Live}
    (opens : first.Opens)
    (run : Transition.Reaches (fun s t => Live.Step externals s t ∧ t.Guarded) first live) :
    ∀ usage ∈ live.session.ledger.usages, usage.Protected live.request.limits := by
  have kept : live.Sound ∧ live.Guarded := by
    refine Transition.invariant (P := fun live : Live => live.Sound ∧ live.Guarded)
      (fun held stepped => ?_) run ⟨?_, ?_⟩
    · exact ⟨Live.step_sound held.1 held.2 stepped.1, stepped.2⟩
    · exact KnowledgeActivationSession.opened_sound opens.1 opens.2
    · obtain ⟨_, _, empty⟩ := start_ok opens.2
      intro call member
      simp [KnowledgeActivationSession.ledger, empty] at member
  exact kept.1.reserve kept.2

namespace Reserve.Sample

def externals : Externals where
  sha256 := fun _ _ => 0
  tables := { toLowercase := fun c => [c.toLower], isAlphanumeric := Char.isAlphanum }
  evidenceSize := 20

/-- Thirty of a hundred tokens are for mandatory entries, twenty for reserved ones. -/
def limits : ActivationRuntimeLimits where
  maxScanFragments := 1
  maxScanBytes := 1
  maxScanTokens := 1
  maxLiteralPatterns := 1
  maxRegexPatterns := 1
  maxPatternMatches := 1
  maxCandidatesPerRound := 8
  maxRecursionSteps := 1
  maxRecursionFragments := 1
  maxRecursionBytes := 1
  maxRecursionTokens := 1
  maxActivatedEntries := 8
  maxDepthExpansions := 1
  maxExternalCandidates := 1
  maxEvidencePerEntry := 1
  maxEvidenceBytes := 1
  maxItemsPerAudience := 8
  maxTokensPerAudience := 100
  maxTotalItems := 8
  maxTotalTokens := 100
  maxSingleEntryBytes := 8
  reservedTokens := 20
  mandatoryTokens := 30

def story : StoryId := ⟨"saga", by decide⟩

def blank : Sha256Digest := ⟨List.replicate 32 0, rfl⟩

def lore : KnowledgeSourceId := ⟨.fact, "fact_0001", by decide⟩

def legend : KnowledgeSourceId := ⟨.fact, "fact_0002", by decide⟩

/-- An entry that is always a candidate. -/
def entry (sourceId : KnowledgeSourceId) (budgetClass : ActivationBudgetClass) :
    ActivationEntryMetadata where
  sourceId := sourceId
  kind := .fact
  rule := { matchRule := {}, mode := { constant := true }, budgetClass := budgetClass }
  ruleVersion := ⟨blank⟩
  salience := 0
  fromPack := true

def snapshot : ActivationIndexSnapshot :=
  .new ⟨story, blank, 0, 0, matcherVersion⟩
    ((Std.ExtTreeMap.insert ∅ lore (entry lore .reserved)).insert legend (entry legend .normal))
    {} {} {} {}

def request : ActivationRequest where
  storyId := story
  turnNumber := ⟨1, by decide⟩
  generationTrigger := .normal
  knowledgeSnapshot := ⟨story, blank, 0, 0⟩
  indexSnapshot := snapshot
  scanBuffer := ⟨[], .nil⟩
  fragmentMatches := ∅
  timedState := []
  externalSeeds := []
  continuation := none
  limits := limits

def opened : Live where
  request := request
  session := {
    continuation := newContinuation request
    timedValid := ∅
    timedDelta := {}
    rejections := fun _ => none
    budget := (newContinuation request).usage
    state := .initial }

theorem opened_opens : opened.Opens := ⟨rfl, rfl⟩

/-- One round, and bodies of the given cost for what it admitted. -/
def round : Live :=
  { opened with
    session := after (KnowledgeActivationSession.nextRound request externals opened.session) }

def supplied (bodies : List (KnowledgeSourceId × UInt64)) : Live :=
  { round with
    session := after (KnowledgeActivationSession.supplyBodies request externals
      (bodies.map fun (sourceId, tokenCost) => ⟨sourceId, .fact, tokenCost, ⟨"told"⟩⟩)
      round.session) }

theorem round_step : Live.Step externals opened round := .nextRound opened

theorem supplied_step (bodies : List (KnowledgeSourceId × UInt64)) :
    Live.Step externals round (supplied bodies) :=
  .supplyBodies round _

/-- The reserved body comes first and uses all that is not mandatory; the normal one is
admitted on top of it. -/
theorem reserved_first_overdraws :
    opened.Opens ∧
      Transition.Reaches (Live.Step externals) opened (supplied [(lore, 70), (legend, 10)]) ∧
      ¬ (supplied [(lore, 70), (legend, 10)]).session.budget.Protected request.limits := by
  refine ⟨opened_opens, ?_, ?_⟩
  · exact .tail (.single round_step) (supplied_step _)
  · decide +kernel

/-- The same two entries, the normal one first. -/
theorem normal_first_protects :
    (supplied [(legend, 10), (lore, 60)]).session.budget.spent = (10, 60, 0) ∧
      (supplied [(legend, 10), (lore, 60)]).session.budget.Protected request.limits := by
  have guarded : round.Guarded ∧ (supplied [(legend, 10), (lore, 60)]).Guarded := by
    decide +kernel
  refine ⟨by decide +kernel, ?_⟩
  refine mandatory_reserve_protected opened_opens
    (.tail (.single ⟨round_step, guarded.1⟩) ⟨supplied_step _, guarded.2⟩) _ ?_
  exact List.mem_append_right _ (List.mem_singleton_self _)

end Reserve.Sample

end Aise.Domain
