import Aise.Domain.Activation.Verdicts

/-! How far recursion goes. The content of an entry is kept for recursion before the step it
asks for is granted, and every later round reads what is kept. As long as no depth expansion
reads content beyond the limit, no entry is activated by content that was refused. -/
namespace Aise.Domain
open Effect Saturating Transition

/-- The caller's part: a match it hands over carries the kind of its fragment. -/
def ActivationRequest.Labelled (externals : Externals) (request : ActivationRequest) : Prop :=
  ∀ fragment ∈ request.scanBuffer.fragments, ∀ items,
    request.fragmentMatches[fragment.id externals]? = some items →
      ∀ item ∈ items, item.fragmentKind = fragment.kind

/-- No evidence of recursion is deeper than the limit. -/
def Shallow (limit : UInt16) (evidence : List ActivationEvidence) : Prop :=
  ∀ item ∈ evidence, item.fragmentKind = .recursionContent → item.recencyDepth ≤ limit

/-- No content kept for recursion is deeper than the limit. -/
def Standing.Clear (limit : UInt16) (s : Standing) : Prop :=
  ∀ fragment ∈ s.recursionFragments, fragment.recencyDepth ≤ limit

instance decidableClear (limit : UInt16) (s : Standing) : Decidable (s.Clear limit) :=
  inferInstanceAs (Decidable (∀ fragment ∈ s.recursionFragments, _))

/-- Content may be kept one step beyond the level that was reached; nothing found so far is
deeper than the limit. -/
structure Standing.Contained (limit : UInt16) (s : Standing) : Prop where
  level : s.recursionLevel ≤ limit
  fresh : s.stage = .start → s.recursionFragments = []
  fragments : ∀ fragment ∈ s.recursionFragments,
    fragment.recencyDepth.toNat ≤ s.recursionLevel.toNat + 1
  matched : ∀ (id : ScanFragmentId) (items : List FragmentPatternMatch),
    s.recursionMatches[id]? = some items → ∀ item ∈ items,
      ∃ fragment ∈ s.recursionFragments, item.recencyDepth = fragment.recencyDepth
  accumulated : ∀ (sourceId : KnowledgeSourceId) (items : List FragmentPatternMatch),
    s.accumulatedMatches[sourceId]? = some items → ∀ item ∈ items,
      item.fragmentKind = .recursionContent → item.recencyDepth ≤ limit
  pending : ∀ (sourceId : KnowledgeSourceId) (candidate : Candidate),
    s.pending[sourceId]? = some candidate → Shallow limit candidate.evidence
  activated : ∀ (sourceId : KnowledgeSourceId) (entry : ActivatedKnowledgeRef),
    s.activated[sourceId]? = some entry → Shallow limit entry.evidence

section
variable {request : ActivationRequest} {externals : Externals}
  {allow : Refusal → KnowledgeSourceId → Activated → Prop} {s t : Standing} {limit : UInt16}
  {candidate : Candidate}

theorem Standing.Contained.supports (contained : s.Contained limit) (supported : s.Supports candidate) :
    Shallow limit candidate.evidence := by
  intro evidence member kind
  obtain ⟨items, found, item, among, same, depth⟩ := supported evidence member
  rw [depth]
  exact contained.accumulated _ items found item among (same.symm.trans kind)

/-- A match that is read now is none of recursion, or not too deep. -/
theorem Standing.Contained.reads {item : FragmentPatternMatch}
    (contained : s.Contained limit) (clear : s.Clear limit) (labelled : request.Labelled externals)
    (read : s.Reads request externals item) (kind : item.fragmentKind = .recursionContent) :
    item.recencyDepth ≤ limit := by
  rcases read with ⟨fragment, inside, base, items, stored, among⟩ | ⟨_, _, items, stored, among⟩
  · rw [labelled fragment inside items stored item among] at kind
    exact absurd kind base
  · obtain ⟨fragment, inside, depth⟩ := contained.matched _ items stored item among
    rw [depth]
    exact clear fragment inside

theorem RoundChange.contained (change : RoundChange request externals allow s t)
    (labelled : request.Labelled externals) (clear : s.Clear limit) (contained : s.Contained limit) :
    t.Contained limit := by
  cases change with
  | ingest item read =>
    refine { contained with accumulated := fun sourceId items found other among kind => ?_ }
    simp only [Standing.accumulate, OrdMap.get_insert] at found
    split at found
    · rename_i here
      cases found
      rcases List.mem_append.mp among with old | new
      · cases before : s.accumulatedMatches[item.sourceId]? with
        | none => simp [before] at old
        | some items =>
          rw [before] at old
          exact contained.accumulated _ items before other old kind
      · rw [List.mem_singleton.mp new] at kind ⊢
        exact contained.reads clear labelled read kind
    · exact contained.accumulated sourceId items found other among kind
  | extend sourceId existing call usage stored =>
    refine { contained with activated := fun other entry found => ?_ }
    dsimp only at found
    rw [OrdMap.get_modify] at found
    split at found
    · obtain ⟨before, present, rfl⟩ := Option.map_eq_some_iff.mp found
      exact contained.activated other before present
    · exact contained.activated other entry found
  | enter metadata candidate entrant =>
    refine { contained with pending := fun other entered found => ?_ }
    dsimp only at found
    rw [OrdMap.get_insert] at found
    split at found
    · cases found
      exact contained.supports entrant.supported
    · exact contained.pending other entered found
  | _ => exact { contained with }

theorem Standing.Contained.erase {sourceId : KnowledgeSourceId} (contained : s.Contained limit) :
    { s with pending := s.pending.erase sourceId }.Contained limit := by
  refine { contained with pending := fun other candidate found => ?_ }
  dsimp only at found
  rw [OrdMap.get_erase] at found
  split at found
  · cases found
  · exact contained.pending other candidate found

theorem BodyChange.contained (change : BodyChange request s t) (contained : s.Contained limit) :
    t.Contained limit := by
  cases change with
  | lose sourceId => exact contained.erase
  | drop sourceId candidate reason found => exact { contained.erase with }
  | activate metadata candidate body call usage evidence found known paid cost current distinct kept =>
    refine { contained.erase with activated := fun other entry stored => ?_ }
    dsimp only [Standing.activate] at stored
    rw [OrdMap.get_insert] at stored
    split at stored
    · cases stored
      exact fun item member => contained.pending _ candidate found item (kept item member)
    · exact contained.activated other entry stored

theorem RecursionChange.contained (change : RecursionChange request externals s t)
    (contained : s.Contained request.limits.maxRecursionSteps) :
    t.Contained request.limits.maxRecursionSteps := by
  cases change with
  | recur fragment kind depth begun =>
    refine { contained with
      fresh := fun opening => absurd opening begun
      fragments := fun other member => ?_
      matched := fun id items found item among => ?_ }
    · rcases List.mem_append.mp member with old | new
      · exact contained.fragments other old
      · rw [List.mem_singleton.mp new, depth]
        exact toNat_next16_le _
    · dsimp only at found ⊢
      rw [OrdMap.get_insert] at found
      split at found
      · cases found
        exact ⟨fragment, List.mem_append_right _ (List.mem_singleton_self _),
          (ActivationIndexSnapshot.matchFragment_labels among).2⟩
      · obtain ⟨source, inside, same⟩ := contained.matched id items found item among
        exact ⟨source, List.mem_append_left _ inside, same⟩
  | climb room =>
    have next := toNat_next16_of_lt room
    refine { contained with level := ?_, fragments := fun fragment member => ?_ }
    · rw [UInt16.lt_iff_toNat_lt] at room
      rw [UInt16.le_iff_toNat_le, Standing.climb, next]
      exact room
    · have bound := contained.fragments fragment member
      rw [Standing.climb, next]
      omega
  | deepen room => exact { contained with }
  | turn stage onward => exact { contained with fresh := fun opening => absurd opening onward }

theorem RecursionChange.contained_reaches (trace : Reaches (RecursionChange request externals) s t)
    (contained : s.Contained request.limits.maxRecursionSteps) :
    t.Contained request.limits.maxRecursionSteps :=
  Transition.invariant (P := fun t : Standing => t.Contained request.limits.maxRecursionSteps)
    (fun held change => change.contained held) trace contained

/-- Only a depth expansion can find content beyond the limit. -/
theorem Entry.clear {state : ActivationMachineState} (entry : Entry request externals s state t)
    (contained : s.Contained request.limits.maxRecursionSteps) :
    state = .depthExpansion ∨ t.Clear request.limits.maxRecursionSteps := by
  cases entry with
  | opening _ opening =>
    refine .inr fun fragment member => ?_
    simp [contained.fresh opening] at member
  | recursion trace room =>
    refine .inr fun fragment member => ?_
    have bound := (RecursionChange.contained_reaches trace contained).fragments fragment member
    rw [UInt16.lt_iff_toNat_lt] at room
    rw [UInt16.le_iff_toNat_le]
    omega
  | depth trace room => exact .inl rfl

/-- The round a session begins with. -/
def Stage.opening : Stage → Nat
  | .start => 1
  | _ => 0

theorem Stage.opening_le (stage : Stage) : stage.opening ≤ 1 := by cases stage <;> decide

theorem Stage.opening_eq_zero {stage : Stage} (onward : stage ≠ .start) : stage.opening = 0 := by
  cases stage with
  | start => exact absurd rfl onward
  | _ => rfl

/-- How many more rounds a session can hand out. -/
def Standing.roundsLeft (limits : ActivationRuntimeLimits) (s : Standing) : Nat :=
  s.stage.opening +
    (limits.maxRecursionSteps.toNat - s.recursionSteps.toNat) +
    (limits.maxDepthExpansions.toNat - s.depthExpansions.toNat)

/-- The level that was reached is the number of steps that were taken. -/
def Standing.Paced (s : Standing) : Prop := s.recursionSteps = s.recursionLevel

theorem RecursionChange.paced (change : RecursionChange request externals s t) (paced : s.Paced) :
    t.Paced := by
  cases change with
  | climb room => exact congrArg next16 paced
  | _ => exact paced

theorem RecursionChange.paced_reaches (trace : Reaches (RecursionChange request externals) s t)
    (paced : s.Paced) : t.Paced :=
  Transition.invariant (P := Standing.Paced) (fun held change => change.paced held) trace paced

theorem BodyChange.paced_reaches (trace : Reaches (BodyChange request) s t) (paced : s.Paced) :
    t.Paced :=
  Transition.invariant (P := Standing.Paced) (fun held change => by cases change <;> exact held)
    trace paced

theorem Change.paced (change : Change request externals allow s t) (paced : s.Paced) : t.Paced := by
  cases change with
  | round change =>
    unfold Standing.Paced
    rw [change.frame.steps, change.frame.level]
    exact paced
  | body change => exact BodyChange.paced_reaches (.single change) paced
  | recursion change => exact change.paced paced

theorem Change.paced_reaches (trace : Reaches (Change request externals allow) s t)
    (paced : s.Paced) : t.Paced :=
  Transition.invariant (P := Standing.Paced) (fun held change => change.paced held) trace paced

theorem Standing.roundsLeft_climb (paced : s.Paced)
    (room : s.recursionLevel < request.limits.maxRecursionSteps) :
    s.climb.roundsLeft request.limits + 1 = s.roundsLeft request.limits := by
  rw [← paced] at room
  have next := toNat_next16_of_lt room
  rw [UInt16.lt_iff_toNat_lt] at room
  simp only [roundsLeft, climb, next]
  omega

theorem Standing.roundsLeft_deepen
    (room : s.depthExpansions < request.limits.maxDepthExpansions) :
    { s with depthExpansions := next16 s.depthExpansions }.roundsLeft request.limits + 1 =
      s.roundsLeft request.limits := by
  have next := toNat_next16_of_lt room
  rw [UInt16.lt_iff_toNat_lt] at room
  simp only [roundsLeft, next]
  omega

theorem Standing.roundsLeft_turn {stage : Stage} (onward : stage ≠ .start) :
    { s with stage := stage }.roundsLeft request.limits ≤ s.roundsLeft request.limits := by
  simp only [roundsLeft, Stage.opening_eq_zero onward]
  omega

theorem RecursionChange.roundsLeft (change : RecursionChange request externals s t)
    (paced : s.Paced) : t.roundsLeft request.limits ≤ s.roundsLeft request.limits := by
  cases change with
  | recur fragment kind depth begun => exact Nat.le_refl _
  | climb room =>
    have less := Standing.roundsLeft_climb paced room
    omega
  | deepen room =>
    have less := Standing.roundsLeft_deepen room
    omega
  | turn stage onward => exact Standing.roundsLeft_turn onward

theorem RecursionChange.roundsLeft_reaches
    (trace : Reaches (RecursionChange request externals) s t) (paced : s.Paced) :
    t.roundsLeft request.limits ≤ s.roundsLeft request.limits := by
  refine (Transition.invariant (P := fun t : Standing => t.Paced ∧
    t.roundsLeft request.limits ≤ s.roundsLeft request.limits) (fun held change => ?_) trace
    ⟨paced, Nat.le_refl _⟩).2
  exact ⟨change.paced held.1, (change.roundsLeft held.1).trans held.2⟩

/-- Entering a round uses one up. -/
theorem Entry.roundsLeft {state : ActivationMachineState}
    (entry : Entry request externals s state t) (paced : s.Paced) :
    t.roundsLeft request.limits + 1 ≤ s.roundsLeft request.limits := by
  cases entry with
  | opening _ opening =>
    simp only [Standing.roundsLeft, opening, Stage.opening]
    omega
  | recursion trace room =>
    have less := Standing.roundsLeft_climb (RecursionChange.paced_reaches trace paced) room
    exact less ▸ RecursionChange.roundsLeft_reaches trace paced
  | @depth u trace room =>
    have deeper : Reaches (RecursionChange request externals)
        { u with depthExpansions := next16 u.depthExpansions } _ :=
      .single (.turn .depthRecursion (by decide))
    have less := Standing.roundsLeft_deepen room
    have turned := RecursionChange.roundsLeft_reaches deeper
      (RecursionChange.paced_reaches (trace.tail (.deepen room)) paced)
    have before := RecursionChange.roundsLeft_reaches trace paced
    exact (Nat.succ_le_succ turned).trans (less.trans_le before)

theorem Standing.SameFrame.roundsLeft {limits : ActivationRuntimeLimits} (frame : s.SameFrame t) :
    t.roundsLeft limits = s.roundsLeft limits := by
  simp only [Standing.roundsLeft, frame.stage, frame.steps, frame.expansions]

theorem BodyChange.roundsLeft_reaches {limits : ActivationRuntimeLimits}
    (trace : Reaches (BodyChange request) s t) : t.roundsLeft limits = s.roundsLeft limits :=
  Transition.invariant (P := fun t : Standing => t.roundsLeft limits = s.roundsLeft limits)
    (fun held change => by cases change <;> exact held) trace rfl

end

namespace KnowledgeActivationSession
variable {request : ActivationRequest} {externals : Externals}

/-- Whether a call of `next_round` handed out a round. -/
def handedOut {ε σ : Type} : EStateM.Result ε σ (Option ActivationRoundOutcome) → Nat
  | .ok (some _) _ => 1
  | _ => 0

/-- A session after any calls, and how many rounds it has handed out in them. -/
inductive Rounds (request : ActivationRequest) (externals : Externals)
    (first : KnowledgeActivationSession) : Nat → KnowledgeActivationSession → Prop where
  | none : Rounds request externals first 0 first
  | nextRound {count : Nat} {session : KnowledgeActivationSession}
      (earlier : Rounds request externals first count session) :
      Rounds request externals first
        (count + handedOut (nextRound request externals session))
        (after (nextRound request externals session))
  | supplyBodies {count : Nat} {session : KnowledgeActivationSession}
      (bodies : List ActivationEntryBody)
      (earlier : Rounds request externals first count session) :
      Rounds request externals first count (after (supplyBodies request externals bodies session))
  | dropAdmitted {count : Nat} {session : KnowledgeActivationSession}
      (sourceId : KnowledgeSourceId)
      (earlier : Rounds request externals first count session) :
      Rounds request externals first count (after (dropAdmitted sourceId session))

/-- A call that hands out a round uses one up, and no call gives one back. -/
theorem nextRound_spends {session : KnowledgeActivationSession} (paced : session.standing.Paced) :
    handedOut (nextRound request externals session) +
        (after (nextRound request externals session)).standing.roundsLeft request.limits ≤
      session.standing.roundsLeft request.limits := by
  rcases nextRound_rounds session with ⟨trace, silent⟩ | ⟨state, t, ran, entry, round⟩
  · have none : handedOut (nextRound request externals session) = 0 := by
      unfold handedOut
      split
      · rename_i outcome t ran
        exact absurd ran (silent outcome t)
      · rfl
    rw [none, Nat.zero_add]
    exact RecursionChange.roundsLeft_reaches trace paced
  · have spent := entry.roundsLeft paced
    have once : handedOut (nextRound request externals session) ≤ 1 := by
      unfold handedOut
      split
      · exact Nat.le_refl 1
      · exact Nat.zero_le 1
    rw [(RoundChange.frame_reaches round).roundsLeft]
    omega

theorem rounds_bounded {first session : KnowledgeActivationSession} {count : Nat}
    (paced : first.standing.Paced) (rounds : Rounds request externals first count session) :
    session.standing.Paced ∧ count + session.standing.roundsLeft request.limits ≤
      first.standing.roundsLeft request.limits := by
  induction rounds with
  | none => exact ⟨paced, by omega⟩
  | nextRound earlier ih =>
    obtain ⟨paced, bound⟩ := ih
    rename_i session
    refine ⟨?_, ?_⟩
    · exact Change.paced_reaches (nextRound_traces
        (Live.nextAllowed_of_forall (fun _ _ _ => trivial) ⟨request, session⟩)) paced
    · have spent : handedOut (nextRound request externals session) + _ ≤ _ := nextRound_spends paced
      omega
  | supplyBodies bodies earlier ih =>
    refine ⟨BodyChange.paced_reaches (supplyBodies_bodies bodies) ih.1, ?_⟩
    rw [BodyChange.roundsLeft_reaches (supplyBodies_bodies bodies)]
    exact ih.2
  | dropAdmitted sourceId earlier ih =>
    refine ⟨BodyChange.paced_reaches (dropAdmitted_bodies request sourceId) ih.1, ?_⟩
    rw [BodyChange.roundsLeft_reaches (dropAdmitted_bodies request sourceId)]
    exact ih.2

end KnowledgeActivationSession

namespace Live
open KnowledgeActivationSession
variable {externals : Externals} {first live next : Live}

/-- Unless the next round is a depth expansion that finds content beyond the limit. -/
def Stops (externals : Externals) (live : Live) : Prop :=
  Onward (enterRound live.request externals) (fun entered t => entered = some .depthExpansion →
    t.standing.Clear live.request.limits.maxRecursionSteps) live.session

instance decidableStops (live : Live) : Decidable (live.Stops externals) :=
  decidableOnward live.session

/-- A step that, if it is a round, reads no content beyond the limit. -/
def ContainedStep (externals : Externals) (live next : Live) : Prop :=
  Step externals live next ∧ next.request.Labelled externals ∧
    (next = { live with session := after (nextRound live.request externals live.session) } →
      live.Stops externals)

/-- A session of a run, as far as recursion goes. -/
structure Contained (externals : Externals) (live : Live) : Prop where
  labelled : live.request.Labelled externals
  limits : live.session.continuation.limits = live.request.limits
  contained : live.session.standing.Contained live.request.limits.maxRecursionSteps

theorem nextRound_contained (held : live.Contained externals) (stops : live.Stops externals) :
    (after (nextRound live.request externals live.session)).standing.Contained
      live.request.limits.maxRecursionSteps := by
  rcases nextRound_rounds live.session with ⟨trace, _⟩ | ⟨state, t, ran, entry, round⟩
  · exact RecursionChange.contained_reaches trace held.contained
  · have clear : t.standing.Clear live.request.limits.maxRecursionSteps := by
      unfold Stops Onward at stops
      rw [ran] at stops
      rcases entry.clear held.contained with deeper | clear
      · exact stops (congrArg some deeper)
      · exact clear
    refine (Transition.invariant (P := fun u : Standing =>
        u.Clear live.request.limits.maxRecursionSteps ∧
          u.Contained live.request.limits.maxRecursionSteps) (fun known change => ⟨?_, ?_⟩) round
      ⟨clear, RecursionChange.contained_reaches entry.reaches held.contained⟩).2
    · unfold Standing.Clear
      rw [change.frame.fragments]
      exact known.1
    · exact change.contained held.labelled known.1 known.2

theorem step_contained (held : live.Contained externals) (step : ContainedStep externals live next) :
    next.Contained externals := by
  obtain ⟨step, labelled, stops⟩ := step
  have bodies {t : KnowledgeActivationSession}
      (trace : Reaches (BodyChange live.request) live.session.standing t.standing) :
      t.standing.Contained live.request.limits.maxRecursionSteps :=
    Transition.invariant
      (P := fun t : Standing => t.Contained live.request.limits.maxRecursionSteps)
      (fun known change => change.contained known) trace held.contained
  have limits {t : KnowledgeActivationSession}
      (trace : Reaches (Change live.request externals fun _ _ _ => True) live.session.standing
        t.standing) : t.continuation.limits = live.request.limits :=
    Transition.invariant (P := fun t : Standing => t.limits = live.request.limits)
      (fun known change => change.limits.trans known) trace held.limits
  cases step with
  | nextRound =>
    exact ⟨labelled, limits (nextRound_traces (nextAllowed_of_forall (fun _ _ _ => trivial) live)),
      nextRound_contained held (stops rfl)⟩
  | supplyBodies given =>
    exact ⟨labelled, limits (supplyBodies_changes given),
      bodies (supplyBodies_bodies given)⟩
  | dropAdmitted sourceId =>
    exact ⟨labelled, limits (dropAdmitted_changes sourceId),
      bodies (dropAdmitted_bodies live.request sourceId)⟩
  | resume _ result finished continues started =>
    obtain ⟨same, limits, equal⟩ := resumed_limits held.limits finished continues started
    have opened := start_started started
    refine ⟨labelled, limits, ?_⟩
    rw [equal]
    refine ⟨?_, fun _ => opened.fragments, fun fragment member => ?_, fun id items found => ?_, ?_,
      fun sourceId candidate found => ?_, fun sourceId entry found => ?_⟩
    · simp only [standing, same]
      exact held.contained.level
    · simp [standing, opened.fragments] at member
    · simp [standing, opened.matched] at found
    · simp only [standing, same]
      exact held.contained.accumulated
    · simp [standing, opened.pending] at found
    · simp only [standing, same] at found
      obtain ⟨rank, stored⟩ := finalContinuation_activated found
      exact held.contained.activated sourceId { entry with rank := rank } stored

theorem opens_contained (opens : live.Opens) (labelled : live.request.Labelled externals) :
    live.Contained externals := by
  have opened := start_started opens.2
  have chosen := opens.continuation
  refine ⟨labelled, by rw [chosen]; rfl, ?_, fun _ => opened.fragments, fun fragment member => ?_,
    fun id items found => ?_, fun sourceId items found => ?_, fun sourceId candidate found => ?_,
    fun sourceId entry found => ?_⟩
  · simp [standing, chosen, newContinuation]
  · simp [standing, opened.fragments] at member
  · simp [standing, opened.matched] at found
  · simp [standing, chosen, newContinuation] at found
  · simp [standing, opened.pending] at found
  · simp [standing, chosen, newContinuation] at found

/-- Steps are counted where they are taken in every run. -/
theorem run_paced (opens : first.Opens) (run : Reaches (Step externals) first live) :
    live.session.standing.Paced := by
  refine Live.invariant (P := fun live => live.session.continuation.limits = live.request.limits ∧
    live.session.standing.Paced) (fun held trace => ⟨?_, Change.paced_reaches trace held.2⟩)
    (fun held finished continues started => ?_) run ⟨by rw [opens.continuation]; rfl, ?_⟩ |>.2
  · exact Transition.invariant (P := fun t : Standing => t.limits = _)
      (fun known change => change.limits.trans known) trace held.1
  · obtain ⟨same, limits, _⟩ := resumed_limits held.1 finished continues started
    refine ⟨limits, ?_⟩
    simp only [Standing.Paced, standing, same]
    exact held.2
  · simp only [Standing.Paced, standing, opens.continuation]
    rfl

end Live

/-- In every run whose depth expansions read no content beyond the limit, no entry is
activated by recursion deeper than the limit; and a session hands out no more rounds than its
first one and what is left of its recursion steps and depth expansions. -/
theorem recursion_contained {externals : Externals} {first live : Live} (opens : first.Opens)
    (labelled : first.request.Labelled externals)
    (run : Reaches (Live.ContainedStep externals) first live) :
    (∀ (sourceId : KnowledgeSourceId) (entry : ActivatedKnowledgeRef),
      live.session.continuation.activated[sourceId]? = some entry →
        ∀ item ∈ entry.evidence, item.fragmentKind = .recursionContent →
          item.recencyDepth ≤ live.request.limits.maxRecursionSteps) ∧
      ∀ (count : Nat) (later : KnowledgeActivationSession),
        KnowledgeActivationSession.Rounds live.request externals live.session count later →
          count ≤ 1 + (live.request.limits.maxRecursionSteps.toNat -
              live.session.continuation.consumed.recursionSteps.toNat) +
            (live.request.limits.maxDepthExpansions.toNat -
              live.session.continuation.depthExpansions.toNat) := by
  have held := Transition.invariant (P := fun live : Live => live.Contained externals)
    (fun known step => Live.step_contained known step) run (Live.opens_contained opens labelled)
  have paced := Live.run_paced opens
    (Relation.ReflTransGen.mono (fun _ _ (step : Live.ContainedStep externals _ _) => step.1) _ _ run)
  refine ⟨held.contained.activated, fun count later rounds => ?_⟩
  have bound := (KnowledgeActivationSession.rounds_bounded paced rounds).2
  have opening := live.session.stage.opening_le
  simp only [Standing.roundsLeft, KnowledgeActivationSession.standing] at bound
  omega

namespace Levels.Sample
open KnowledgeActivationSession
open Reserve.Sample (lore legend story blank entry)

/-- A hash that tells short texts apart. -/
def externals : Externals :=
  { Reserve.Sample.externals with sha256 := fun fed position => fed.reverse.getD position 0 }

/-- One step of recursion and one depth expansion, with three entries asked for. -/
def limits : ActivationRuntimeLimits :=
  { Reserve.Sample.limits with
    minimumActivations := 3
    maxScanDepth := 1
    maxLiteralPatterns := 2
    maxPatternMatches := 8
    maxRecursionFragments := 8
    maxRecursionBytes := 80
    maxRecursionTokens := 80
    maxEvidenceBytes := 80 }

def myth : KnowledgeSourceId := ⟨.fact, "fact_0003", by decide⟩

/-- An entry that its key activates. -/
def keyed (sourceId : KnowledgeSourceId) : ActivationEntryMetadata :=
  { entry sourceId .normal with
    rule := { (entry sourceId .normal).rule with mode := {} } }

def key (sourceId : KnowledgeSourceId) (needle : String) : IndexedActivationPattern where
  sourceId := sourceId
  ordinal := 0
  kind := .primaryLiteral
  groupScoreContribution := 1
  matcher := .literal needle false false

/-- The text of each entry names the next one. -/
def request : ActivationRequest :=
  { Reserve.Sample.request with
    limits := limits
    indexSnapshot := .new ⟨story, blank, 0, 0, matcherVersion⟩
      (((Std.ExtTreeMap.insert ∅ lore (entry lore .normal)).insert legend (keyed legend)).insert
        myth (keyed myth)) ⟨[key legend "l", key myth "m"], 2⟩ {} {} {} }

def opened : Live where
  request := request
  session := {
    continuation := newContinuation request
    timedValid := ∅
    timedDelta := {}
    rejections := fun _ => none
    budget := (newContinuation request).usage
    state := .initial }

theorem opened_opens : opened.Opens := ⟨rfl, rfl⟩

theorem labelled : request.Labelled externals :=
  fun _ member => absurd member List.not_mem_nil

def round (live : Live) : Live :=
  { live with session := after (nextRound live.request externals live.session) }

def supply (sourceId : KnowledgeSourceId) (text : String) (live : Live) : Live :=
  { live with
    session := after (supplyBodies live.request externals [⟨sourceId, .fact, 1, ⟨text⟩⟩]
      live.session) }

/-- The first entry leads to the second one, as far as recursion may go. -/
def recurred : Live := supply legend "m" (round (supply lore "l" (round opened)))

/-- The text of the second one is refused, and read by the depth expansion all the same. -/
def expanded : Live := supply myth "n" (round recurred)

theorem round_step (live : Live) : Live.Step externals live (round live) := .nextRound live

theorem supply_step (sourceId : KnowledgeSourceId) (text : String) (live : Live) :
    Live.Step externals live (supply sourceId text live) := .supplyBodies live _

theorem refused_content_activates :
    opened.Opens ∧ request.Labelled externals ∧ Reaches (Live.Step externals) opened expanded ∧
      ∃ entry, expanded.session.continuation.activated[myth]? = some entry ∧
        ∃ item ∈ entry.evidence, item.fragmentKind = .recursionContent ∧
          expanded.request.limits.maxRecursionSteps < item.recencyDepth := by
  refine ⟨opened_opens, labelled, ?_, ?_⟩
  · have first : Reaches (Live.Step externals) opened recurred :=
      (((Relation.ReflTransGen.single (round_step _)).tail (supply_step _ _ _)).tail
        (round_step _)).tail (supply_step _ _ _)
    exact (first.tail (round_step _)).tail (supply_step _ _ _)
  · have found : (expanded.session.continuation.activated[myth]?.any fun entry =>
        entry.evidence.any fun item => item.fragmentKind = .recursionContent &&
          limits.maxRecursionSteps < item.recencyDepth) = true := by decide +kernel
    obtain ⟨entry, stored, deep⟩ := (Option.any_eq_true ..).mp found
    obtain ⟨item, among, deep⟩ := List.any_eq_true.mp deep
    simp only [Bool.and_eq_true, decide_eq_true_eq] at deep
    exact ⟨entry, stored, item, among, deep⟩

/-- Before the depth expansion, recursion is within its limit. -/
theorem first_step_contained :
    legend ∈ recurred.session.continuation.activated ∧
      ∀ entry, recurred.session.continuation.activated[legend]? = some entry →
        ∀ item ∈ entry.evidence, item.fragmentKind = .recursionContent →
          item.recencyDepth ≤ limits.maxRecursionSteps := by
  have first : Live.ContainedStep externals opened (round opened) :=
    ⟨round_step _, labelled, fun _ => by decide +kernel⟩
  have second : Live.ContainedStep externals (round opened) (supply lore "l" (round opened)) :=
    ⟨supply_step lore "l" _, labelled, fun _ => by decide +kernel⟩
  have third : Live.ContainedStep externals (supply lore "l" (round opened))
      (round (supply lore "l" (round opened))) :=
    ⟨round_step _, labelled, fun _ => by decide +kernel⟩
  have fourth : Live.ContainedStep externals (round (supply lore "l" (round opened))) recurred :=
    ⟨supply_step legend "m" _, labelled, fun _ => by decide +kernel⟩
  have run := (((Relation.ReflTransGen.single first).tail second).tail third).tail fourth
  exact ⟨by decide +kernel, (recursion_contained opened_opens labelled run).1 legend⟩

end Levels.Sample

end Aise.Domain
