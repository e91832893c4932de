import Aise.Domain.Activation.Accounting

/-! Verdicts on sources. Candidates are collected anew in every round, activated ones among
them, and three places of a round turn a source down without asking whether it is activated.
As long as they spare the activated ones, every verdict is final. -/
namespace Aise.Domain
open Effect Saturating Transition OrdMap

/-- Whether a reason ends the matter for a source; the two others are counted every time. -/
def ActivationRejectionReason.terminal : ActivationRejectionReason → Bool
  | .secondaryCondition | .recursionLevelLocked => false
  | _ => true

/-- How many sources a map gives a reason. -/
def countFor (reason : ActivationRejectionReason)
    (verdicts : BTreeMap KnowledgeSourceId ActivationRejectionReason) : Nat :=
  total (fun _ given => if given = reason then 1 else 0) verdicts

/-- Every terminally rejected source is counted under one reason, and nothing else is counted
under a terminal one. -/
def CountedOnce (verdicts : BTreeMap KnowledgeSourceId ActivationRejectionReason)
    (summary : RejectionSummary) : Prop :=
  ∃ counted : BTreeMap KnowledgeSourceId ActivationRejectionReason,
    (∀ sourceId : KnowledgeSourceId, sourceId ∈ counted ↔ sourceId ∈ verdicts) ∧
    ∀ reason, reason.terminal = true →
      (summary reason).getD 0 = UInt32.ofNat (countFor reason counted)

/-- The same activation: only its rank and further deliveries may differ. -/
def SameVerdict (entry later : ActivatedKnowledgeRef) : Prop :=
  ∃ deliveries rank, later = { entry with deliveries := deliveries, rank := rank }

theorem SameVerdict.refl (entry : ActivatedKnowledgeRef) : SameVerdict entry entry :=
  ⟨entry.deliveries, entry.rank, rfl⟩

theorem SameVerdict.trans {first second third : ActivatedKnowledgeRef}
    (earlier : SameVerdict first second) (later : SameVerdict second third) :
    SameVerdict first third := by
  obtain ⟨_, _, rfl⟩ := earlier
  obtain ⟨deliveries, rank, rfl⟩ := later
  exact ⟨deliveries, rank, rfl⟩

/-- A source is turned down only if it is not activated, and no further delivery of an
activated one is. -/
def sparing (refusal : Refusal) (sourceId : KnowledgeSourceId) (activated : Activated) : Prop :=
  refusal ≠ .undelivered ∧ activated[sourceId]? = none

instance decidableSparing (refusal : Refusal) (sourceId : KnowledgeSourceId) (activated : Activated) :
    Decidable (sparing refusal sourceId activated) :=
  inferInstanceAs (Decidable (_ ∧ _))

section
variable {verdicts : BTreeMap KnowledgeSourceId ActivationRejectionReason}
  {summary : RejectionSummary} {reason : ActivationRejectionReason}

theorem increment_getD (summary : RejectionSummary) (reason other : ActivationRejectionReason) :
    (increment summary reason other).getD 0 =
      (summary other).getD 0 + if reason = other then 1 else 0 := by
  unfold increment
  by_cases same : reason = other
  · subst same
    simp
  · rw [Function.update_of_ne fun equal => same equal.symm, if_neg same, UInt32.add_zero]

/-- A passing reason is not counted under a terminal one. -/
theorem CountedOnce.tally (counted : CountedOnce verdicts summary)
    (passing : reason.terminal = false) : CountedOnce verdicts (increment summary reason) := by
  obtain ⟨map, keys, counts⟩ := counted
  refine ⟨map, keys, fun other terminal => ?_⟩
  rw [increment_getD, if_neg, UInt32.add_zero, counts other terminal]
  intro same
  rw [same, terminal] at passing
  cases passing

theorem CountedOnce.reject (counted : CountedOnce verdicts summary)
    (sourceId : KnowledgeSourceId) (reason : ActivationRejectionReason) :
    CountedOnce (verdicts.insert sourceId reason)
      (if verdicts.contains sourceId then summary else increment summary reason) := by
  obtain ⟨map, keys, counts⟩ := counted
  split
  · rename_i known
    refine ⟨map, fun other => ?_, counts⟩
    rw [keys, Std.ExtTreeMap.mem_insert, compare_eq_iff_eq]
    refine ⟨.inr, ?_⟩
    rintro (same | member)
    · rw [← same]
      exact Std.ExtTreeMap.contains_iff_mem.mp known
    · exact member
  · rename_i unknown
    have fresh : map[sourceId]? = none := by
      refine Option.not_isSome_iff_eq_none.mp fun found => unknown ?_
      exact Std.ExtTreeMap.contains_iff_mem.mpr
        ((keys sourceId).mp (Std.ExtTreeMap.mem_iff_isSome_getElem?.mpr found))
    refine ⟨map.insert sourceId reason, fun other => ?_, fun other terminal => ?_⟩
    · rw [Std.ExtTreeMap.mem_insert, Std.ExtTreeMap.mem_insert, keys]
    · rw [increment_getD, counts other terminal, countFor, countFor, total_insert_fresh _ fresh,
        Nat.add_comm, UInt32.ofNat_add]
      split <;> rfl

/-- A new summary counts each source under the reason it is rejected for. -/
theorem counted_afresh (verdicts : BTreeMap KnowledgeSourceId ActivationRejectionReason) :
    CountedOnce verdicts ((valuesOf verdicts).foldl increment fun _ => none) := by
  have folded (reasons : List ActivationRejectionReason) (summary : RejectionSummary)
      (reason : ActivationRejectionReason) :
      (reasons.foldl increment summary reason).getD 0 = (summary reason).getD 0 +
        UInt32.ofNat (reasons.map fun given => if given = reason then 1 else 0).sum := by
    induction reasons generalizing summary with
    | nil => simp
    | cons first rest ih =>
      rw [List.foldl_cons, ih, increment_getD, List.map_cons, List.sum_cons, UInt32.ofNat_add,
        UInt32.add_assoc]
      split <;> rfl
  refine ⟨verdicts, fun _ => Iff.rfl, fun reason _ => ?_⟩
  rw [folded, countFor, total, valuesOf, List.map_map]
  simp only [Option.getD_none, UInt32.zero_add]
  rfl

end

/-- No source has two verdicts, each activation has an entry of its own, and each rejection
is counted once. -/
structure Standing.Final (s : Standing) : Prop where
  apart : s.Apart
  exclusive : ∀ (sourceId : KnowledgeSourceId) (entry : ActivatedKnowledgeRef),
    s.activated[sourceId]? = some entry → s.terminalRejections[sourceId]? = none
  counted : CountedOnce s.terminalRejections s.rejections
  once : s.activatedEntries = clamp64 s.activated.size

/-- What was decided stays decided. -/
structure Standing.Decided (s t : Standing) : Prop where
  activated : ∀ (sourceId : KnowledgeSourceId) (entry : ActivatedKnowledgeRef),
    s.activated[sourceId]? = some entry →
      ∃ later, t.activated[sourceId]? = some later ∧ SameVerdict entry later
  rejected : ∀ sourceId : KnowledgeSourceId,
    sourceId ∈ s.terminalRejections → sourceId ∈ t.terminalRejections

theorem Standing.Decided.trans {s t u : Standing} (first : s.Decided t) (second : t.Decided u) :
    s.Decided u where
  activated sourceId entry found := by
    obtain ⟨between, stored, earlier⟩ := first.activated sourceId entry found
    obtain ⟨later, kept, same⟩ := second.activated sourceId between stored
    exact ⟨later, kept, earlier.trans same⟩
  rejected sourceId member := second.rejected sourceId (first.rejected sourceId member)

theorem Standing.Decided.same {s t : Standing} (activated : t.activated = s.activated)
    (rejected : t.terminalRejections = s.terminalRejections) : s.Decided t where
  activated sourceId entry found := ⟨entry, by rw [activated]; exact found, .refl entry⟩
  rejected sourceId member := by rw [rejected]; exact member

theorem Standing.decided_reject (s : Standing) (sourceId : KnowledgeSourceId)
    (reason : ActivationRejectionReason) : s.Decided (s.reject sourceId reason) where
  activated _ entry found := ⟨entry, found, .refl entry⟩
  rejected _ member := Std.ExtTreeMap.mem_insert.mpr (.inr member)

section
variable {request : ActivationRequest} {externals : Externals}
  {allow : Refusal → KnowledgeSourceId → Activated → Prop} {s t : Standing}

theorem clamp64_succ (value : Nat) : clamp64 (value + 1) = add (clamp64 value) 1 := by
  apply UInt64.toNat_inj.mp
  rw [toNat_add, toNat_clamp64, toNat_clamp64, UInt64.toNat_one]
  have large : 0 < max64 := by decide
  omega

/-- No change takes a verdict back. -/
theorem Change.decided (change : Change request externals allow s t) (apart : s.Apart) :
    s.Decided t := by
  cases change with
  | round change =>
    cases change with
    | shed sourceId idle allowed => exact s.decided_reject sourceId .workLimit
    | refuse sourceId reason inactive absent loose => exact s.decided_reject sourceId reason
    | extend sourceId existing call usage found =>
      refine ⟨fun other entry stored => ?_, fun _ member => member⟩
      dsimp only
      rw [get_modify, stored]
      split
      · exact ⟨_, rfl, _, entry.rank, rfl⟩
      · exact ⟨entry, rfl, .refl entry⟩
    | _ => exact .same rfl rfl
  | body change =>
    cases change with
    | lose sourceId => exact .same rfl rfl
    | drop sourceId candidate reason found shortage =>
      have erased : s.Decided { s with pending := s.pending.erase sourceId } := .same rfl rfl
      exact erased.trans (Standing.decided_reject _ sourceId reason)
    | activate metadata candidate body call usage evidence found =>
      refine ⟨fun other entry stored => ⟨entry, ?_, .refl entry⟩, fun _ member => member⟩
      have inactive := (apart _ _ found).1
      dsimp only [Standing.activate]
      rw [get_insert, if_neg, stored]
      intro same
      rw [same, stored] at inactive
      cases inactive
  | recursion change => cases change <;> exact .same rfl rfl

theorem Standing.Final.reject (final : s.Final) {sourceId : KnowledgeSourceId}
    {reason : ActivationRejectionReason} (inactive : s.activated[sourceId]? = none)
    (apart : (s.reject sourceId reason).Apart) : (s.reject sourceId reason).Final where
  apart := apart
  exclusive := by
    intro other entry found
    simp only [Standing.reject, get_insert]
    split
    · rename_i same
      rw [← same] at found
      exact absurd (inactive.symm.trans found) (by simp)
    · exact final.exclusive other entry found
  counted := final.counted.reject sourceId reason
  once := final.once

theorem RoundChange.final (change : RoundChange request externals sparing s t) (final : s.Final) :
    t.Final := by
  have apart := change.apart final.apart
  cases change with
  | shed sourceId idle allowed =>
    have inactive : s.activated[sourceId]? = none := by
      rcases allowed with trimmed | unmatched
      · exact trimmed.2
      · exact unmatched.2
    exact final.reject inactive apart
  | tally reason passing =>
    refine ⟨apart, final.exclusive, final.counted.tally ?_, final.once⟩
    rcases passing with rfl | rfl
    · rfl
    · rfl
  | undelivered sourceId allowed => exact absurd rfl allowed.1
  | refuse sourceId reason inactive absent loose => exact final.reject inactive apart
  | extend sourceId existing call usage found =>
    refine ⟨apart, fun other entry stored => ?_, final.counted, ?_⟩
    · dsimp only at stored ⊢
      rw [get_modify] at stored
      split at stored
      · obtain ⟨old, before, _⟩ := Option.map_eq_some_iff.mp stored
        exact final.exclusive other old before
      · exact final.exclusive other entry stored
    · dsimp only
      rw [Std.ExtTreeMap.size_modify]
      exact final.once
  | _ => exact ⟨apart, final.exclusive, final.counted, final.once⟩

theorem BodyChange.final (change : BodyChange request s t) (final : s.Final) : t.Final := by
  have apart := change.apart final.apart
  cases change with
  | lose sourceId => exact ⟨apart, final.exclusive, final.counted, final.once⟩
  | drop sourceId candidate reason found shortage =>
    have erased : { s with pending := s.pending.erase sourceId }.Final :=
      ⟨final.apart.erase, final.exclusive, final.counted, final.once⟩
    exact erased.reject (final.apart sourceId candidate found).1 apart
  | activate metadata candidate body call usage evidence found =>
    obtain ⟨inactive, unrejected⟩ := final.apart _ _ found
    refine ⟨apart, fun other entry stored => ?_, final.counted, ?_⟩
    · dsimp only [Standing.activate] at stored ⊢
      rw [get_insert] at stored
      split at stored
      · rename_i same
        rw [← same]
        exact unrejected
      · exact final.exclusive other entry stored
    · dsimp only [Standing.activate]
      rw [size_insert_fresh inactive, final.once, clamp64_succ]

theorem Change.final (change : Change request externals sparing s t) (final : s.Final) :
    t.Final := by
  cases change with
  | round change => exact change.final final
  | body change => exact change.final final
  | recursion change =>
    cases change <;> exact ⟨final.apart, final.exclusive, final.counted, final.once⟩

end

namespace Live
open KnowledgeActivationSession
variable {externals : Externals} {live next : Live}

/-- The round that would be run next spares the activated sources. -/
def Spares (externals : Externals) (live : Live) : Prop :=
  NextAllowed live.request externals sparing live.session

/-- A step that, if it is a round, spares the activated sources. -/
def SparingStep (externals : Externals) (live next : Live) : Prop :=
  Step externals live next ∧
    (next = { live with session := after (nextRound live.request externals live.session) } →
      live.Spares externals)

instance decidableSpares (live : Live) : Decidable (live.Spares externals) :=
  decidableNextAllowed live.session

theorem sparingStep_traces (step : SparingStep externals live next) :
    next.request = live.request ∧
        Reaches (Change live.request externals sparing) live.session.standing
          next.session.standing ∨
      ∃ result, finish live.request live.session = .ok result ∧
        next.request.continuation = some result.continuation ∧
        start next.request = .ok next.session := by
  obtain ⟨step, spares⟩ := step
  cases step with
  | nextRound => exact .inl ⟨rfl, nextRound_traces (spares rfl)⟩
  | supplyBodies bodies => exact .inl ⟨rfl, supplyBodies_changes bodies⟩
  | dropAdmitted sourceId => exact .inl ⟨rfl, dropAdmitted_changes sourceId⟩
  | resume _ result finished continues started => exact .inr ⟨result, finished, continues, started⟩

/-- Neither a step nor the start of the next session takes a verdict back. -/
theorem step_final (step : SparingStep externals live next) (final : live.session.standing.Final) :
    next.session.standing.Final ∧ live.session.standing.Decided next.session.standing := by
  rcases sparingStep_traces step with ⟨_, trace⟩ | ⟨result, finished, continues, started⟩
  · refine Transition.invariant
      (P := fun t : Standing => t.Final ∧ live.session.standing.Decided t)
      (fun held change => ⟨change.final held.1, held.2.trans (change.decided held.1.apart)⟩) trace
      ⟨final, .same rfl rfl⟩
  · obtain ⟨⟨fresh, _⟩ | ⟨_, chosen⟩, _, _⟩ := start_ok started
    · rw [fresh] at continues
      cases continues
    · have same := Option.some.inj (chosen.symm.trans continues)
      rw [finish_ok finished] at same
      have opened := start_started started
      refine ⟨⟨fun sourceId candidate found => ?_, fun sourceId entry found => ?_, ?_, ?_⟩,
        fun sourceId entry found => ?_, fun sourceId member => ?_⟩
      · simp [standing, opened.pending] at found
      · simp only [standing, same] at found ⊢
        obtain ⟨rank, stored⟩ := finalContinuation_activated found
        exact final.exclusive sourceId { entry with rank := rank } stored
      · simp only [standing, opened.rejections]
        exact counted_afresh _
      · have sizes : live.session.finalContinuation.activated.size =
            live.session.continuation.activated.size :=
          Loop.foldl_keeps (fun activated : Activated => activated.size)
            (fun _ _ => Std.ExtTreeMap.size_modify) _ _
        simp only [standing, same, sizes]
        exact final.once
      · obtain ⟨rank, stored⟩ := finalContinuation_stored found
        refine ⟨{ entry with rank := rank }, ?_, entry.deliveries, rank, rfl⟩
        simp only [standing, same]
        exact stored
      · simp only [standing, same]
        exact member

theorem opens_final (opens : live.Opens) : live.session.standing.Final := by
  have opened := start_started opens.2
  obtain ⟨⟨_, chosen⟩ | ⟨_, given⟩, _, _⟩ := start_ok opens.2
  · refine ⟨fun sourceId candidate found => ?_, fun sourceId entry found => ?_, ?_, ?_⟩
    · simp [standing, opened.pending] at found
    · simp [standing, chosen, newContinuation] at found
    · simp only [standing, opened.rejections]
      exact counted_afresh _
    · simp only [standing, chosen, newContinuation, Std.ExtTreeMap.size_empty]
      rfl
  · rw [opens.1] at given
    cases given

theorem run_final (final : live.session.standing.Final)
    (run : Reaches (SparingStep externals) live next) :
    next.session.standing.Final ∧ live.session.standing.Decided next.session.standing := by
  refine Transition.invariant (P := fun next : Live =>
      next.session.standing.Final ∧ live.session.standing.Decided next.session.standing)
    (fun held step => ?_) run ⟨final, .same rfl rfl⟩
  obtain ⟨kept, decided⟩ := step_final step held.1
  exact ⟨kept, held.2.trans decided⟩

end Live

/-- In every run whose rounds spare the activated sources, every activation has an entry of
its own that is not replaced, no source has two verdicts, a rejected one is never activated
later, and each rejection is counted once. -/
theorem verdicts_final {externals : Externals} {first live later : Live} (opens : first.Opens)
    (run : Reaches (Live.SparingStep externals) first live)
    (further : Reaches (Live.SparingStep externals) live later) :
    live.session.continuation.consumed.activatedEntries =
        clamp64 live.session.continuation.activated.size ∧
      (∀ (sourceId : KnowledgeSourceId) (entry : ActivatedKnowledgeRef),
        live.session.continuation.activated[sourceId]? = some entry →
          sourceId ∉ live.session.continuation.terminalRejections ∧
          ∃ kept, later.session.continuation.activated[sourceId]? = some kept ∧
            SameVerdict entry kept) ∧
      (∀ sourceId : KnowledgeSourceId, sourceId ∈ live.session.continuation.terminalRejections →
        sourceId ∉ later.session.continuation.activated) ∧
      CountedOnce live.session.continuation.terminalRejections live.session.rejections := by
  have final := (Live.run_final (Live.opens_final opens) run).1
  obtain ⟨kept, decided⟩ := Live.run_final final further
  refine ⟨final.once, fun sourceId entry found => ⟨fun rejected => ?_, ?_⟩,
    fun sourceId rejected activated => ?_, final.counted⟩
  · obtain ⟨reason, given⟩ := mem_iff_exists.mp rejected
    exact absurd ((final.exclusive sourceId entry found).symm.trans given) (by simp)
  · exact decided.activated sourceId entry found
  · obtain ⟨entry, found⟩ := mem_iff_exists.mp activated
    obtain ⟨reason, given⟩ := mem_iff_exists.mp (decided.rejected sourceId rejected)
    exact absurd ((kept.exclusive sourceId entry found).symm.trans given) (by simp)

namespace Verdicts.Sample
open Reserve.Sample (externals lore legend story blank entry)

/-- One candidate a round. -/
def limits : ActivationRuntimeLimits := { Reserve.Sample.limits with maxCandidatesPerRound := 1 }

/-- An entry that is a candidate only when it is asked for. -/
def asked : ActivationEntryMetadata :=
  { entry legend .normal with
    rule := { (entry legend .normal).rule with mode := {} } }

def request : ActivationRequest :=
  { Reserve.Sample.request with
    limits := limits
    indexSnapshot := .new ⟨story, blank, 0, 0, matcherVersion⟩
      ((Std.ExtTreeMap.insert ∅ lore (entry lore .normal)).insert legend asked) {} {} {} {} }

def opened : Live where
  request := request
  session := {
    continuation := newContinuation request
    timedValid := ∅
    timedDelta := {}
    rejections := fun _ => none
    budget := (newContinuation request).usage
    state := .initial }

def round : Live :=
  { opened with
    session := after (KnowledgeActivationSession.nextRound request externals opened.session) }

def supplied : Live :=
  { round with
    session := after (KnowledgeActivationSession.supplyBodies request externals
      [⟨lore, .fact, 10, ⟨"told"⟩⟩] round.session) }

/-- The planner asks for the other entry, which it must have. -/
def resumedRequest : ActivationRequest :=
  { request with
    continuation := some supplied.session.finalContinuation
    externalSeeds := [⟨legend, .writer, .plannerExactTarget, none, true⟩] }

def resumed : Live where
  request := resumedRequest
  session := (KnowledgeActivationSession.start resumedRequest).toOption.getD opened.session

def resumedRound : Live :=
  { resumed with
    session := after (KnowledgeActivationSession.nextRound resumedRequest externals resumed.session) }

theorem resumed_started :
    KnowledgeActivationSession.start resumedRequest = .ok resumed.session := by
  have accepted : (KnowledgeActivationSession.start resumedRequest).toOption.isSome = true := by
    decide +kernel
  unfold resumed
  cases started : KnowledgeActivationSession.start resumedRequest with
  | error failure =>
    rw [started] at accepted
    cases accepted
  | ok session => rfl

theorem supplied_finishes : ∃ result,
    KnowledgeActivationSession.finish request supplied.session = .ok result ∧
      result.continuation = supplied.session.finalContinuation := by
  have idle : supplied.session.pending.isEmpty = true := by decide +kernel
  unfold KnowledgeActivationSession.finish
  rw [idle]
  exact ⟨_, rfl, rfl⟩

/-- The activated entry is trimmed to make room for the one that was asked for, and is now
both activated and rejected. -/
theorem activated_entry_rejected :
    opened.Opens ∧ Reaches (Live.Step externals) opened resumedRound ∧
      lore ∈ resumedRound.session.continuation.activated ∧
      lore ∈ resumedRound.session.continuation.terminalRejections := by
  refine ⟨⟨rfl, rfl⟩, ?_, by decide +kernel, by decide +kernel⟩
  obtain ⟨result, finished, same⟩ := supplied_finishes
  have first : Reaches (Live.Step externals) opened supplied :=
    .tail (.single (.nextRound opened)) (.supplyBodies round _)
  have second : Live.Step externals supplied resumed :=
    .resume supplied resumed result finished (by rw [same]; rfl) resumed_started
  exact .tail (.tail first second) (.nextRound resumed)

/-- Before the planner asks, nothing is turned down. -/
theorem first_session_final :
    lore ∈ supplied.session.continuation.activated ∧
      lore ∉ supplied.session.continuation.terminalRejections := by
  have spares : opened.Spares externals ∧ round.Spares externals := by decide +kernel
  have member : lore ∈ supplied.session.continuation.activated := by decide +kernel
  obtain ⟨entry, found⟩ := mem_iff_exists.mp member
  have first : Live.SparingStep externals opened round := ⟨.nextRound opened, fun _ => spares.1⟩
  have second : Live.SparingStep externals round supplied :=
    ⟨.supplyBodies round _, fun _ => spares.2⟩
  have opens : opened.Opens := ⟨rfl, rfl⟩
  exact ⟨member, ((verdicts_final opens (.tail (.single first) second) .refl).2.1 lore entry
    found).1⟩

end Verdicts.Sample

end Aise.Domain
