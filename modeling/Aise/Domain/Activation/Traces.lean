import Aise.Domain.Activation.Collecting
import Aise.Domain.Activation.Groups

/-! Every operation of a session is a sequence of changes: the rest of a round, the bodies
supplied for it, and the recursion that leads to the next one. -/
namespace Aise.Domain
open Effect Saturating Transition

namespace KnowledgeActivationSession
variable {request : ActivationRequest} {externals : Externals}
  {allow : Refusal → KnowledgeSourceId → Activated → Prop} {origin s t : Standing}
  {candidates : Candidates} {candidate : Candidate}

theorem shed_gathering (sources : List KnowledgeSourceId) {session : KnowledgeActivationSession}
    (allowed : ∀ sourceId ∈ sources, allow .trimmed sourceId session.continuation.activated)
    (held : Gathering request externals allow origin session) :
    Gathering request externals allow origin
      (sources.foldl (fun session sourceId => session.reject sourceId .workLimit) session) := by
  induction sources generalizing session with
  | nil => exact held
  | cons sourceId sources ih =>
    obtain ⟨here, rest⟩ := List.forall_mem_cons.mp allowed
    exact ih rest (held.step (.shed sourceId held.idle (.inl here)) rfl)

/-- Erasing keys leaves a part of the map. -/
theorem erased_subset (sources : List KnowledgeSourceId) {key : KnowledgeSourceId}
    (found : (sources.foldl (fun candidates sourceId => candidates.erase sourceId) candidates)[key]? =
      some candidate) : candidates[key]? = some candidate := by
  induction sources generalizing candidates with
  | nil => exact found
  | cons sourceId sources ih =>
    have before := ih found
    rw [OrdMap.get_erase] at before
    split at before
    · cases before
    · exact before

theorem trimCandidates_traces (collected : Candidates) :
    Meets (fun session => Gathering request externals allow origin session ∧
        ∀ sourceId ∈ trimmedSources request collected,
          allow .trimmed sourceId session.continuation.activated)
      (trimCandidates request collected)
      (fun candidates session => Gathering request externals allow origin session ∧
        ∀ (key : KnowledgeSourceId) (candidate : Candidate), candidates[key]? = some candidate →
          collected[key]? = some candidate)
      (Gathering request externals allow origin) := by
  unfold trimmedSources trimCandidates
  dsimp only
  by_cases small : collected.size ≤ request.limits.maxCandidatesPerRound.toNat
  · rw [if_pos small, if_pos small]
    exact meets_pure fun _ known => ⟨known.1, fun _ _ found => found⟩
  · rw [if_neg small, if_neg small]
    split
    · exact meets_throw fun _ known => known.1
    · refine Meets.bind (Q := fun _ => Gathering request externals allow origin)
        (meets_modify fun session known => ?_) fun _ => meets_pure fun _ held => ?_
      · have shed := shed_gathering _ known.2 known.1
        exact ⟨shed.trace, shed.idle⟩
      · exact ⟨held, fun _ _ found => erased_subset _ found⟩

/-- What a candidate has passed when a round has considered it. -/
structure Eligible (request : ActivationRequest) (s : Standing) (candidate : Candidate) : Prop where
  known : ∃ metadata, request.metadata candidate.sourceId = some metadata
  inactive : s.activated[candidate.sourceId]? = none
  unrejected : s.terminalRejections[candidate.sourceId]? = none
  sticky : candidate.sticky = stickyNow request s.timedValid candidate.sourceId
  warm : candidate.sticky = false → ∀ state, s.timedValid[candidate.sourceId]? = some state →
    ∀ through, state.cooldownThroughTurn = some through → through.get < request.turnNumber.get
  supported : s.Supports candidate

theorem preFilter_none {session : KnowledgeActivationSession} {metadata : ActivationEntryMetadata}
    (passed : session.preFilter request metadata candidate = none) (loose : candidate.sticky = false)
    {state : ActivationTimedState} (stored : session.timedValid[candidate.sourceId]? = some state)
    {through : TurnNumber} (set : state.cooldownThroughTurn = some through) :
    through.get < request.turnNumber.get := by
  by_contra late
  have cooling : through.get ≥ request.turnNumber.get := UInt64.not_lt.mp late
  simp [preFilter, stored, set, loose, cooling] at passed
  repeat' split at passed
  all_goals cases passed

theorem preFilter_some {session : KnowledgeActivationSession} {metadata : ActivationEntryMetadata}
    {reason : ActivationRejectionReason}
    (refused : session.preFilter request metadata candidate = some reason)
    (drawn : reason = .probability ∨ reason = .cooldown) : candidate.sticky = false := by
  by_contra kept
  have sticky : candidate.sticky = true := Bool.eq_true_of_not_eq_false kept
  unfold preFilter at refused
  simp only [sticky, Bool.not_true, Bool.false_and, Bool.false_eq_true, if_false] at refused
  repeat' split at refused
  all_goals
    cases refused
    try simp at drawn

/-- What the account says after a call, whichever way it went. -/
theorem admitTo_returns {session : KnowledgeActivationSession} (budgetClass : ActivationBudgetClass)
    (forcedMandatory : Bool) (tokenCost : UInt64) (deliveries : List KnowledgeDelivery)
    {E : KnowledgeActivationSession → Prop} :
    Meets (fun t => t = session) (admitTo request budgetClass forcedMandatory tokenCost deliveries)
      (fun outcome t => ∃ call : Admission, call.tokenCost = tokenCost ∧
        call.deliveries = deliveries ∧ call.usage = session.budget ∧
        ∃ usage, admitDeliveries request.limits call = (outcome, usage) ∧
          t = { session with budget := usage, admissions := session.admissions ++ [call] } ∧
          (admitDeliveries request.limits
            ⟨budgetClass, forcedMandatory, tokenCost, deliveries, session.budget⟩).1 = outcome) E := by
  rintro t rfl
  exact ⟨⟨budgetClass, forcedMandatory, tokenCost, deliveries, t.budget⟩, rfl, rfl, rfl, _, rfl, rfl,
    rfl⟩

/-- A rejected call leaves the usage alone. -/
theorem admitDeliveries_rejected {limits : ActivationRuntimeLimits} {call : Admission}
    {usage : BudgetUsage} (rejected : admitDeliveries limits call = (.rejected, usage)) :
    usage = call.usage := by
  unfold admitDeliveries at rejected
  dsimp only at rejected
  repeat' split at rejected
  all_goals
    obtain ⟨outcome, same⟩ := Prod.mk.inj rejected
    first | exact same.symm | cases outcome

/-- Reached by changes of a round that leave the pending candidates and the rejections alone. -/
structure Quiet (request : ActivationRequest) (externals : Externals)
    (allow : Refusal → KnowledgeSourceId → Activated → Prop) (session later : KnowledgeActivationSession) :
    Prop where
  trace : Reaches (RoundChange request externals allow) session.standing later.standing
  pending : later.standing.pending = session.standing.pending
  verdicts : later.standing.terminalRejections = session.standing.terminalRejections

theorem Quiet.same {session later : KnowledgeActivationSession}
    (same : later.standing = session.standing) : Quiet request externals allow session later := by
  refine ⟨?_, ?_, ?_⟩
  · rw [same]
  · rw [same]
  · rw [same]

theorem mergeExistingDeliveries_traces {metadata : ActivationEntryMetadata}
    (known : request.metadata candidate.sourceId = some metadata)
    (distinct : candidate.deliveries.Nodup) {session : KnowledgeActivationSession}
    (allowed : MergeAllowed request allow candidate session) :
    Meets (fun t => t = session) (mergeExistingDeliveries request metadata candidate)
      (fun _ => Quiet request externals allow session) (Quiet request externals allow session) := by
  unfold mergeExistingDeliveries
  refine meets_get_bind fun current same => ?_
  subst same
  split
  · exact meets_pure fun _ same => .same (congrArg standing same)
  · rename_i existing found
    dsimp only
    split
    · exact meets_pure fun _ same => .same (congrArg standing same)
    · rename_i nonempty
      unfold validateDeliveries
      split
      · rename_i deliverables
        refine Meets.bind (meets_pure fun t same => same) fun _ =>
          Meets.bind (admitTo_returns _ _ _ _) fun outcome => ?_
        cases outcome with
        | admitted =>
          refine meets_modify fun t booked => ?_
          obtain ⟨call, cost, deliveries, budget, usage, admitted, rfl, _⟩ := booked
          rw [← deliveries]
          have change : RoundChange request externals allow current.standing _ :=
            .extend candidate.sourceId existing call usage found cost budget
              (by
                rw [deliveries]
                intro delivery member
                simpa using (List.mem_filter.mp member).2)
              (by rw [deliveries]; exact distinct.filter _) admitted
          exact ⟨.single change, rfl, rfl⟩
        | rejected =>
          dsimp only
          split
          · refine meets_throw fun t booked => ?_
            obtain ⟨call, _, _, budget, usage, rejected, rfl, _⟩ := booked
            rw [admitDeliveries_rejected rejected, budget]
            exact .same rfl
          · rename_i optional
            refine meets_modify fun t booked => ?_
            obtain ⟨call, _, _, budget, usage, rejected, rfl, refused⟩ := booked
            rw [admitDeliveries_rejected rejected, budget]
            refine ⟨.single (.undelivered candidate.sourceId (allowed ?_)), rfl, rfl⟩
            simp only [refusesMerge, known, found, refused, deliverables, decide_true, Bool.and_true,
              Bool.and_eq_true, Bool.not_eq_true']
            exact ⟨by simpa using nonempty, by simpa using optional⟩
      · exact Meets.bind (Q := fun _ _ => False)
          (meets_throw fun _ same => .same (congrArg standing same))
          fun _ _ impossible => impossible.elim

/-- What a candidate has passed it keeps, unless it is rejected after all. -/
theorem Eligible.transport (eligible : Eligible request s candidate)
    (trace : Reaches (RoundChange request externals allow) s t)
    (same : t.terminalRejections[candidate.sourceId]? = s.terminalRejections[candidate.sourceId]?) :
    Eligible request t candidate where
  known := eligible.known
  inactive := Transition.invariant (P := fun t : Standing => t.activated[candidate.sourceId]? = none)
    (fun held change => change.inactive held) trace eligible.inactive
  unrejected := same.trans eligible.unrejected
  sticky := by
    rw [(RoundChange.frame_reaches trace).timedValid]
    exact eligible.sticky
  warm := by
    rw [(RoundChange.frame_reaches trace).timedValid]
    exact eligible.warm
  supported := Transition.invariant (P := fun t : Standing => t.Supports candidate)
    (fun held change => change.supports held) trace eligible.supported

/-- The first loop of `select_round`, some candidates on. -/
structure Considering (request : ActivationRequest) (externals : Externals)
    (allow : Refusal → KnowledgeSourceId → Activated → Prop) (origin : Standing) (candidates : Candidates)
    (done eligible : List Candidate) (session : KnowledgeActivationSession) : Prop where
  gathered : Gathered request externals allow origin candidates session
  among : eligible.Sublist done
  passed : ∀ candidate ∈ eligible, Eligible request session.standing candidate

theorem Gathered.follow {session later : KnowledgeActivationSession}
    (gathered : Gathered request externals allow origin candidates session)
    (trace : Reaches (RoundChange request externals allow) session.standing later.standing)
    (pending : later.standing.pending = session.standing.pending) :
    Gathered request externals allow origin candidates later where
  held := ⟨gathered.held.trace.trans trace, pending.trans gathered.held.idle⟩
  collected := gathered.collected.transport_reaches trace
  stuck := gathered.stuck.transport_reaches trace

/-- A candidate that was collected is sticky exactly when its source is. -/
theorem Gathered.sticky {session : KnowledgeActivationSession} {key : KnowledgeSourceId}
    (gathered : Gathered request externals allow origin candidates session)
    (found : candidates[key]? = some candidate) :
    candidate.sticky = stickyNow request session.standing.timedValid candidate.sourceId := by
  obtain ⟨keyed, fair⟩ := gathered.collected key candidate found
  cases covered : stickyNow request session.standing.timedValid candidate.sourceId with
  | true =>
    obtain ⟨other, stored, sticky⟩ := gathered.stuck _ covered
    rw [keyed, found] at stored
    cases stored
    exact sticky
  | false =>
    refine Bool.eq_false_iff.mpr fun sticky => ?_
    rw [fair.loose sticky] at covered
    cases covered

theorem considerCandidate_traces {done eligible : List Candidate} {key : KnowledgeSourceId}
    (found : candidates[key]? = some candidate)
    (apart : ∀ other ∈ done, other.sourceId ≠ candidate.sourceId) :
    Meets (fun session => Considering request externals allow origin candidates done eligible session ∧
        MergeAllowed request allow candidate session)
      (considerCandidate request eligible candidate)
      (Considering request externals allow origin candidates (done ++ [candidate]))
      (Gathering request externals allow origin) := by
  unfold considerCandidate
  refine Meets.bind (Q := fun _ session =>
      Considering request externals allow origin candidates done eligible session ∧
        MergeAllowed request allow candidate session)
    (meets_modify fun session known => ?_) fun _ => ?_
  · obtain ⟨⟨gathered, among, passed⟩, allowed⟩ := known
    exact ⟨⟨gathered.follow .refl rfl, among, passed⟩, allowed⟩
  · split
    · exact meets_throw fun _ known => known.1.gathered.held
    · rename_i metadata metadataFound
      refine meets_get_bind fun session known => ?_
      obtain ⟨considering, allowed⟩ := known
      obtain ⟨gathered, among, passed⟩ := considering
      have longer := among.trans (List.sublist_append_left done [candidate])
      have keep {later : KnowledgeActivationSession}
          (trace : Reaches (RoundChange request externals allow) session.standing later.standing)
          (pending : later.standing.pending = session.standing.pending)
          (others : ∀ sourceId ≠ candidate.sourceId, later.standing.terminalRejections[sourceId]? =
            session.standing.terminalRejections[sourceId]?) :
          Considering request externals allow origin candidates (done ++ [candidate]) eligible
            later :=
        ⟨gathered.follow trace pending, longer, fun other inside =>
          (passed other inside).transport trace (others _ (apart other (among.subset inside)))⟩
      split
      · refine Meets.bind (Q := fun _ => Quiet request externals allow session)
          ((mergeExistingDeliveries_traces metadataFound
            (gathered.collected key candidate found).2.distinct allowed).weaken (fun _ same => same)
            (fun _ _ quiet => quiet) fun _ quiet => (gathered.follow quiet.trace quiet.pending).held)
          fun _ => meets_pure fun _ quiet => keep quiet.trace quiet.pending fun _ _ => ?_
        rw [quiet.verdicts]
      · rename_i inactive
        split
        · exact meets_pure fun _ same => same ▸ keep .refl rfl fun _ _ => rfl
        · rename_i unrejected
          have absent : session.standing.activated[candidate.sourceId]? = none :=
            Option.not_isSome_iff_eq_none.mp fun some => inactive
              (Std.ExtTreeMap.contains_eq_isSome_getElem?.trans some)
          split
          · rename_i passes
            refine meets_pure fun _ same => ?_
            subst same
            refine ⟨gathered, among.append (List.Sublist.refl _), fun other inside => ?_⟩
            rcases List.mem_append.mp inside with old | new
            · exact passed other old
            · rw [List.mem_singleton.mp new]
              exact ⟨⟨metadata, metadataFound⟩, absent, Option.not_isSome_iff_eq_none.mp
                  fun some => unrejected (Std.ExtTreeMap.contains_eq_isSome_getElem?.trans some),
                gathered.sticky found, fun loose _ stored _ set => preFilter_none passes loose stored set,
                (gathered.collected key candidate found).2.supported⟩
          · refine Meets.bind (Q := fun _ => Considering request externals allow origin candidates
              (done ++ [candidate]) eligible) (meets_modify fun _ same => ?_)
              fun _ => meets_pure fun _ kept => kept
            subst same
            exact keep (.single (.tally _ (.inr rfl))) rfl fun _ _ => rfl
          · rename_i reason _ refused
            refine Meets.bind (Q := fun _ => Considering request externals allow origin candidates
              (done ++ [candidate]) eligible) (meets_modify fun _ same => ?_)
              fun _ => meets_pure fun _ kept => kept
            subst same
            refine keep (.single (.refuse candidate.sourceId reason absent ?_ ?_)) rfl ?_
            · rw [gathered.held.idle]
              simp
            · intro drawn
              rw [← gathered.sticky found]
              exact preFilter_some refused drawn
            · intro sourceId other
              simp only [standing, reject, OrdMap.get_insert, if_neg other.symm]

/-- An eligible candidate that holds its groups. -/
structure Chosen (request : ActivationRequest) (s : Standing) (candidate : Candidate) : Prop where
  eligible : Eligible request s candidate
  wins : ∀ group ∈ groupsOf request candidate, s.groupWinners[group]? = some candidate.sourceId

variable (request externals allow) in
/-- Rejecting the losers touches no one else. -/
theorem losers_trace (losers : List Candidate) (session : KnowledgeActivationSession)
    (idle : session.standing.pending = ∅)
    (inactive : ∀ loser ∈ losers, session.standing.activated[loser.sourceId]? = none) :
    Reaches (RoundChange request externals allow) session.standing
        (losers.foldl (fun session candidate =>
          session.reject candidate.sourceId .groupLoser) session).standing ∧
      (losers.foldl (fun session candidate =>
        session.reject candidate.sourceId .groupLoser) session).standing.pending = ∅ ∧
      ∀ sourceId, (∀ loser ∈ losers, loser.sourceId ≠ sourceId) →
        (losers.foldl (fun session candidate =>
          session.reject candidate.sourceId .groupLoser) session).standing.terminalRejections[sourceId]? =
          session.standing.terminalRejections[sourceId]? := by
  induction losers generalizing session with
  | nil => exact ⟨.refl, idle, fun _ _ => rfl⟩
  | cons loser losers ih =>
    obtain ⟨here, rest⟩ := List.forall_mem_cons.mp inactive
    have change : RoundChange request externals allow session.standing
        (session.reject loser.sourceId .groupLoser).standing :=
      .refuse loser.sourceId .groupLoser here (by rw [idle]; simp) (fun drawn => by simp at drawn)
    obtain ⟨trace, empty, others⟩ := ih (session.reject loser.sourceId .groupLoser) idle rest
    refine ⟨.head change trace, empty, fun sourceId apart => ?_⟩
    obtain ⟨first, later⟩ := List.forall_mem_cons.mp apart
    refine (others sourceId later).trans ?_
    simp only [standing, reject, OrdMap.get_insert, if_neg first]

theorem resolveGroups_traces (considered : List Candidate) :
    Meets (fun session => Gathering request externals allow origin session ∧
        ∀ candidate ∈ considered, Eligible request session.standing candidate)
      (resolveGroups request externals considered)
      (fun eligible session => Gathering request externals allow origin session ∧
        eligible.Sublist considered ∧
        ∀ candidate ∈ eligible, Chosen request session.standing candidate)
      (Gathering request externals allow origin) := by
  rintro session ⟨held, passed⟩
  have settled : Settled request session.continuation.groupWinners considered
      (survivors request externals session.continuation.groupWinners considered) :=
    survivors_settled session.continuation.groupWinners considered
  have decide : RoundChange request externals allow session.standing
      { session.standing with groupWinners :=
        (survivors request externals session.continuation.groupWinners considered).2 } :=
    .decide _ settled.keeps
  obtain ⟨trace, idle, others⟩ := losers_trace request externals allow
    (considered.filter fun candidate => !(groupsOf request candidate).isEmpty &&
      !(survivors request externals session.continuation.groupWinners considered).1.any fun item =>
        item.sourceId = candidate.sourceId)
    { session with continuation.groupWinners :=
      (survivors request externals session.continuation.groupWinners considered).2 }
    held.idle (fun loser member => (passed loser (List.mem_filter.mp member).1).inactive)
  refine ⟨⟨(held.trace.tail decide).trans trace, idle⟩, settled.among, fun candidate member => ?_⟩
  have kept := settled.holds candidate member
  refine ⟨(passed candidate (settled.among.subset member)).transport (.head decide trace) ?_, ?_⟩
  · refine others candidate.sourceId fun loser lost same => ?_
    have absent := (Bool.and_eq_true_iff.mp (List.mem_filter.mp lost).2).2
    rw [Bool.not_eq_true', List.any_eq_false] at absent
    exact absent candidate member (decide_eq_true same.symm)
  · intro group inside
    have unchanged (session : KnowledgeActivationSession) (loser : Candidate) :
        (session.reject loser.sourceId .groupLoser).standing.groupWinners =
          session.standing.groupWinners := rfl
    refine (congrArg (·[group]?) (Loop.foldl_keeps
      (fun session : KnowledgeActivationSession => session.standing.groupWinners) unchanged _ _)).trans ?_
    exact of_decide_eq_true (List.all_eq_true.mp kept group inside)

/-- The sources that a round admits are those that are pending after it. -/
structure Admits (admitted : List KnowledgeSourceId) (session : KnowledgeActivationSession) :
    Prop where
  distinct : admitted.Nodup
  pending : ∀ key, key ∈ session.pending ↔ key ∈ admitted

/-- The second loop of `select_round`, some candidates on. -/
structure Entering (request : ActivationRequest) (externals : Externals)
    (allow : Refusal → KnowledgeSourceId → Activated → Prop) (origin : Standing)
    (items done : List Candidate) (admitted : List KnowledgeSourceId)
    (session : KnowledgeActivationSession) : Prop where
  trace : Reaches (RoundChange request externals allow) origin session.standing
  admits : Admits admitted session
  entered : ∀ (key : KnowledgeSourceId) (candidate : Candidate),
    session.standing.pending[key]? = some candidate → ∃ other ∈ done, other.sourceId = key
  waiting : ∀ candidate ∈ items, (∀ other ∈ done, other.sourceId ≠ candidate.sourceId) →
    Chosen request session.standing candidate

theorem enterPending_traces {items done rest : List Candidate}
    (whole : items = done ++ candidate :: rest)
    (apart : ∀ other ∈ done, other.sourceId ≠ candidate.sourceId)
    (admitted : List KnowledgeSourceId) :
    Meets (Entering request externals allow origin items done admitted)
      (enterPending request externals admitted candidate)
      (Entering request externals allow origin items (done ++ [candidate]))
      (fun session => Reaches (RoundChange request externals allow) origin session.standing) := by
  have member : candidate ∈ items := by
    rw [whole]
    exact List.mem_append_right _ List.mem_cons_self
  have absent {session : KnowledgeActivationSession}
      (entering : Entering request externals allow origin items done admitted session) :
      session.standing.pending[candidate.sourceId]? = none := by
    cases found : session.standing.pending[candidate.sourceId]? with
    | none => rfl
    | some other =>
      obtain ⟨before, inside, same⟩ := entering.entered _ _ found
      exact absurd same (apart before inside)
  have refuse {session later : KnowledgeActivationSession}
      (entering : Entering request externals allow origin items done admitted session)
      {reason : ActivationRejectionReason}
      (loose : reason = .probability ∨ reason = .cooldown →
        stickyNow request session.standing.timedValid candidate.sourceId = false)
      (rejected : later.standing = session.standing.reject candidate.sourceId reason) :
      Entering request externals allow origin items (done ++ [candidate]) admitted later := by
    have chosen := entering.waiting candidate member apart
    have change : RoundChange request externals allow session.standing later.standing := by
      rw [rejected]
      exact .refuse _ _ chosen.eligible.inactive (absent entering) loose
    have pending : later.pending = session.pending := congrArg Standing.pending rejected
    refine ⟨entering.trace.tail change, ⟨entering.admits.distinct, ?_⟩, ?_, ?_⟩
    · rw [pending]
      exact entering.admits.pending
    · rw [rejected]
      intro key other found
      obtain ⟨before, inside, same⟩ := entering.entered key other found
      exact ⟨before, List.mem_append_left _ inside, same⟩
    · intro other inside fresh
      have before := entering.waiting other inside fun earlier among =>
        fresh earlier (List.mem_append_left _ among)
      have different := fresh candidate (List.mem_append_right _ (List.mem_singleton_self _))
      refine ⟨before.eligible.transport (.single change) ?_, ?_⟩
      · rw [rejected, Standing.reject, OrdMap.get_insert, if_neg different]
      · rw [rejected]
        exact before.wins
  unfold enterPending
  dsimp only
  split
  · exact meets_throw fun _ entering => entering.trace
  · rename_i metadata known
    split
    · rename_i drawn
      refine Meets.bind (meets_modify fun session entering => refuse entering (fun _ => ?_) rfl)
        fun _ => meets_pure fun _ kept => kept
      have chosen := entering.waiting candidate member apart
      rw [← chosen.eligible.sticky]
      simpa using (Bool.and_eq_true_iff.mp drawn).1
    · refine meets_get_bind fun session entering => ?_
      split
      · refine Meets.bind (Q := fun _ => Entering request externals allow origin items
          (done ++ [candidate]) admitted) ?_ fun _ => meets_pure fun _ kept => kept
        unfold trimUnless
        split
        · exact meets_throw fun _ same => same ▸ entering.trace
        · refine meets_modify fun _ same => ?_
          subst same
          exact refuse entering (fun drawn => by simp at drawn) rfl
      · refine Meets.bind (Q := fun _ => Entering request externals allow origin items
          (done ++ [candidate]) (admitted ++ [candidate.sourceId]))
          (meets_modify fun later same => ?_) fun _ => meets_pure fun _ kept => kept
        subst same
        have chosen := entering.waiting candidate member apart
        have change : RoundChange request externals allow later.standing
            { later.standing with
              pending := later.standing.pending.insert candidate.sourceId candidate } :=
          .enter metadata candidate ⟨known, chosen.eligible.inactive, chosen.eligible.unrejected,
            absent entering, chosen.eligible.sticky, chosen.eligible.warm, chosen.wins,
            chosen.eligible.supported⟩
        refine ⟨entering.trace.tail change, ⟨?_, fun key => ?_⟩, ?_, ?_⟩
        · refine List.nodup_append'.mpr
            ⟨entering.admits.distinct, List.nodup_singleton _, List.disjoint_singleton.mpr ?_⟩
          intro before
          have held := (entering.admits.pending candidate.sourceId).mpr before
          obtain ⟨other, found⟩ := OrdMap.mem_iff_exists.mp held
          cases (absent entering).symm.trans found
        · rw [Std.ExtTreeMap.mem_insert, entering.admits.pending, compare_eq_iff_eq,
            List.mem_append, List.mem_singleton, or_comm, eq_comm]
        · intro key other found
          simp only [standing, OrdMap.get_insert] at found
          split at found
          · rename_i here
            exact ⟨candidate, List.mem_append_right _ (List.mem_singleton_self _), here⟩
          · obtain ⟨before, inside, same⟩ := entering.entered key other found
            exact ⟨before, List.mem_append_left _ inside, same⟩
        · intro other inside fresh
          have before := entering.waiting other inside fun earlier among =>
            fresh earlier (List.mem_append_left _ among)
          exact ⟨before.eligible.transport (.single change) rfl, before.wins⟩

/-- In a list of distinct sources, those before a candidate are not its own. -/
theorem apart_of_nodup {items done rest : List Candidate}
    (distinct : (items.map (·.sourceId)).Nodup) (whole : items = done ++ candidate :: rest) :
    ∀ other ∈ done, other.sourceId ≠ candidate.sourceId := by
  intro other inside same
  rw [whole, List.map_append, List.map_cons, List.nodup_append] at distinct
  exact distinct.2.2 _ (List.mem_map_of_mem inside) _ List.mem_cons_self same

theorem considerAll_traces {collected : Candidates} (candidates : Candidates)
    (distinct : ((valuesOf candidates).map (·.sourceId)).Nodup)
    (part : ∀ (key : KnowledgeSourceId) (candidate : Candidate), candidates[key]? = some candidate →
      collected[key]? = some candidate) :
    Meets (fun session => Gathered request externals allow origin collected session ∧
        ConsiderAllowed request allow candidates session)
      ((valuesOf candidates).foldlM (considerCandidate request) [])
      (Considering request externals allow origin collected (valuesOf candidates))
      (Gathering request externals allow origin) := by
  refine (meets_foldlM_throughout (J := Considering request externals allow origin collected)
    (G := fun _ => MergeAllowed request allow) (fun done candidate rest eligible whole => ?_) []).weaken
    (fun session known => ⟨⟨known.1, List.Sublist.refl _, by simp⟩, known.2⟩)
    (fun _ _ kept => kept) fun _ held => held
  have member : candidate ∈ valuesOf candidates := by
    rw [whole]
    exact List.mem_append_right _ List.mem_cons_self
  obtain ⟨key, found⟩ := mem_valuesOf.mp member
  exact considerCandidate_traces (part key candidate found) (apart_of_nodup distinct whole)

theorem enterAll_traces (items : List Candidate) (distinct : (items.map (·.sourceId)).Nodup) :
    Meets (fun session => Gathering request externals allow origin session ∧
        ∀ candidate ∈ items, Chosen request session.standing candidate)
      (items.foldlM (enterPending request externals) [])
      (fun admitted session => Reaches (RoundChange request externals allow) origin session.standing ∧
        Admits admitted session)
      (fun session => Reaches (RoundChange request externals allow) origin session.standing) := by
  refine (meets_foldlM_throughout
    (J := Entering request externals allow origin items) (G := fun _ _ _ => True)
    (fun done candidate rest admitted whole => ?_) []).weaken
    (fun session known => ⟨⟨known.1.trace, ⟨List.nodup_nil, fun key => ?_⟩, ?_,
        fun candidate member _ => known.2 candidate member⟩,
      throughout_of_forall (fun _ _ _ => trivial) _ _ _⟩)
    (fun _ _ entering => ⟨entering.trace, entering.admits⟩) fun _ kept => kept
  · exact (enterPending_traces whole (apart_of_nodup distinct whole) admitted).weaken
      (fun _ known => known.1) (fun _ _ kept => kept) fun _ kept => kept
  · have idle : session.pending = ∅ := known.1.idle
    rw [idle]
    exact iff_of_false Std.ExtTreeMap.not_mem_empty List.not_mem_nil
  · intro key candidate found
    rw [known.1.idle] at found
    simp at found

/-- From the candidates a round considers to those it leaves pending. -/
theorem choose_traces {collected : Candidates} (candidates : Candidates)
    (part : ∀ (key : KnowledgeSourceId) (candidate : Candidate), candidates[key]? = some candidate →
      collected[key]? = some candidate) :
    Meets (fun session => Gathered request externals allow origin collected session ∧
        ConsiderAllowed request allow candidates session)
      ((valuesOf candidates).foldlM (considerCandidate request) [] >>= fun considered =>
        resolveGroups request externals considered >>= fun eligible =>
          (Sorting.sort (candidateOrder request) eligible).foldlM (enterPending request externals) [])
      (fun admitted session => Reaches (RoundChange request externals allow) origin session.standing ∧
        Admits admitted session)
      (fun session => Reaches (RoundChange request externals allow) origin session.standing) := by
  intro session known
  have distinct : ((valuesOf candidates).map (·.sourceId)).Nodup :=
    nodup_valuesOf fun key candidate found =>
      (known.1.collected key candidate (part key candidate found)).1
  refine Meets.bind ((considerAll_traces candidates distinct part).weaken (fun _ holds => holds)
    (fun _ _ kept => kept) fun _ held => held.trace) (fun considered => ?_) session known
  refine Meets.bind (Q := fun eligible session =>
      (Gathering request externals allow origin session ∧
        ∀ candidate ∈ Sorting.sort (candidateOrder request) eligible,
          Chosen request session.standing candidate) ∧
      ((Sorting.sort (candidateOrder request) eligible).map (·.sourceId)).Nodup) ?_ fun eligible => ?_
  · intro session considering
    obtain ⟨held, among, chosen⟩ := resolveGroups_traces considered session
      ⟨considering.gathered.held, considering.passed⟩
    refine ⟨⟨held, fun candidate member => chosen candidate ((List.mem_insertionSort _).mp member)⟩, ?_⟩
    exact ((List.perm_insertionSort _ _).map _).nodup_iff.mpr
      (distinct.sublist ((among.trans considering.among).map _))
  · intro session known
    exact enterAll_traces _ known.2 session known.1

theorem selectRound_traces :
    Meets (fun session => Gathering request externals allow origin session ∧
        RoundAllowed request externals allow session) (selectRound request externals)
      (fun admitted session => Reaches (RoundChange request externals allow) origin session.standing ∧
        Admits admitted session)
      (fun session => Reaches (RoundChange request externals allow) origin session.standing) := by
  unfold selectRound RoundAllowed
  refine Meets.weaken (Meets.onward (collectCandidates_traces.weaken (fun _ known => known)
      (fun _ _ kept => kept) fun _ held => held.trace) fun collected => ?_)
    (fun session known => ⟨⟨known.1, known.2.1⟩, known.2.2⟩) (fun _ _ kept => kept) fun _ kept => kept
  refine Meets.bind (Q := fun _ session => Gathered request externals allow origin collected session ∧
      TrimAllowed request allow collected session) (meets_modify fun session known => ?_) fun _ => ?_
  · exact ⟨known.1.follow .refl rfl, known.2⟩
  · intro session known
    obtain ⟨gathered, trimmed, onward⟩ := known
    refine Meets.onward (P := fun later => later = session) (Q := fun candidates later =>
        Gathered request externals allow origin collected later ∧
          ∀ (key : KnowledgeSourceId) (candidate : Candidate), candidates[key]? = some candidate →
            collected[key]? = some candidate) (fun later same => ?_) (fun candidates => ?_)
      session ⟨rfl, onward⟩
    · subst same
      have resting : Gathering request externals allow later.standing later :=
        ⟨.refl, gathered.held.idle⟩
      have trimming := trimCandidates_traces collected later ⟨resting, trimmed⟩
      cases ran : trimCandidates request collected later with
      | ok candidates next =>
        rw [ran] at trimming
        exact ⟨gathered.follow trimming.1.trace (trimming.1.idle.trans gathered.held.idle.symm),
          trimming.2⟩
      | error _ next =>
        rw [ran] at trimming
        exact gathered.held.trace.trans trimming.trace
    · intro later known
      exact choose_traces candidates known.1.2 later ⟨known.1.1, known.2⟩

/-- A round is a sequence of changes, and leaves pending what it admits. -/
theorem runRound_traces (state : ActivationMachineState) {session : KnowledgeActivationSession}
    (idle : session.pending = ∅)
    (allowed : RoundAllowed request externals allow { session with state := state }) :
    Meets (fun later => later = session) (runRound request externals state)
      (fun outcome later =>
        Reaches (RoundChange request externals allow) session.standing later.standing ∧
          Admits outcome.admitted later)
      (fun later => Reaches (RoundChange request externals allow) session.standing later.standing) := by
  unfold runRound
  refine Meets.bind (Q := fun _ later => later = { session with state := state })
    (meets_modify fun _ same => by rw [same]) fun _ => ?_
  refine Meets.bind (selectRound_traces.weaken (fun later same => ?_) (fun _ _ kept => kept)
    fun _ kept => kept) fun admitted => meets_get_bind fun later trace => meets_pure fun _ same => ?_
  · rw [same]
    exact ⟨⟨.refl, idle⟩, allowed⟩
  · rw [same]
    exact trace

/-- A condition that allows everything is met. -/
theorem roundAllowed_of_forall (all : ∀ refusal sourceId activated, allow refusal sourceId activated)
    (session : KnowledgeActivationSession) : RoundAllowed request externals allow session := by
  refine ⟨?_, onward_of_forall (fun collected later => ⟨fun sourceId _ => all _ _ _, ?_⟩) session⟩
  · refine onward_of_forall (fun _ _ => onward_of_forall (fun _ later => ?_) _) session
    refine onward_of_forall (fun _ _ => onward_of_forall (fun fragments t => ?_) _) later
    refine throughout_of_forall (fun _ fragment t _ => ?_) fragments _ t
    exact throughout_of_forall (fun _ _ _ _ => all _ _ _) _ _ _
  · exact onward_of_forall (fun _ t => throughout_of_forall (fun _ _ _ _ => all _ _ _) _ _ t) _

section
variable {session : KnowledgeActivationSession} {body : ActivationEntryBody}

/-- A body is admitted, or its candidate is dropped, or lost in a failure. -/
theorem admitBody_changes (found : session.pending[body.sourceId]? = some candidate) :
    Meets (fun later => later = { session with pending := session.pending.erase body.sourceId })
      (admitBody request externals candidate body)
      (fun _ later => BodyChange request session.standing later.standing)
      (fun later => BodyChange request session.standing later.standing) := by
  have lost {later : KnowledgeActivationSession}
      (same : later = { session with pending := session.pending.erase body.sourceId }) :
      BodyChange request session.standing later.standing := by
    rw [same]
    exact .lose body.sourceId
  have trimmed (mandatory : Bool) {reason : ActivationRejectionReason}
      (shortage : reason = .budget ∨ reason = .workLimit) {before : KnowledgeActivationSession}
      (same : before.standing =
        { session with pending := session.pending.erase body.sourceId }.standing) :
      Meets (fun later => later = before) (trimUnless mandatory body.sourceId reason)
        (fun _ later => BodyChange request session.standing later.standing)
        (fun later => BodyChange request session.standing later.standing) := by
    unfold trimUnless
    split
    · refine meets_throw fun later here => ?_
      rw [here, same]
      exact .lose body.sourceId
    · refine meets_modify fun later here => ?_
      have dropped : (later.trim body.sourceId reason).standing =
          { session with pending := session.pending.erase body.sourceId }.standing.reject
            body.sourceId reason := by
        rw [here, ← same]
        rfl
      rw [dropped]
      exact .drop body.sourceId candidate reason found shortage
  unfold admitBody
  split
  · exact meets_throw fun _ same => lost same
  · rename_i metadata known
    dsimp only
    split
    · exact meets_throw fun _ same => lost same
    · rename_i accepted
      split
      · exact trimmed _ (.inl rfl) rfl
      · refine meets_get_bind fun later same => ?_
        subst same
        split
        · exact trimmed _ (.inr rfl) rfl
        · unfold validateDeliveries
          split
          · refine Meets.bind (meets_pure fun _ same => same) fun _ =>
              Meets.bind (admitTo_returns _ _ _ _) fun outcome => ?_
            cases outcome with
            | rejected =>
              intro later booked
              obtain ⟨call, _, _, budget, usage, rejected, same, _⟩ := booked
              rw [admitDeliveries_rejected rejected, budget] at same
              exact trimmed _ (.inl rfl) (by rw [same]; rfl) later rfl
            | admitted =>
              refine meets_modify fun later booked => ?_
              obtain ⟨call, cost, deliveries, budget, usage, admitted, rfl, _⟩ := booked
              rw [← deliveries]
              refine .activate metadata candidate body call usage _ found known ?_ cost budget ?_ ?_
                admitted
              · exact fun zero => accepted (.inr zero)
              · rw [deliveries]
                exact sortDedup_nodup _
              · intro item member
                exact (List.mem_insertionSort _).mp (List.mem_of_mem_take member)
          · exact Meets.bind (Q := fun _ _ => False) (meets_throw fun _ same => lost same)
              fun _ _ impossible => impossible.elim

theorem supplyBodies_traces (bodies : List ActivationEntryBody) :
    Keeps (fun session => Reaches (BodyChange request) origin session.standing)
      (supplyBodies request externals bodies) := by
  have each (body : ActivationEntryBody) :
      Keeps (fun session => Reaches (BodyChange request) origin session.standing)
        (supplyBody request externals body) := by
    unfold supplyBody
    refine meets_get_bind fun session trace => ?_
    split
    · exact meets_throw fun _ same => same ▸ trace
    · rename_i candidate found
      refine Meets.bind (Q := fun _ later =>
          later = { session with pending := session.pending.erase body.sourceId })
        (meets_modify fun _ same => by rw [same]) fun _ => ?_
      exact (admitBody_changes found).weaken (fun _ same => same) (fun _ _ change => trace.tail change)
        fun _ change => trace.tail change
  unfold supplyBodies
  refine .bind (keeps_forM each bodies) fun _ => meets_get_bind fun session trace => ?_
  split
  · exact meets_pure fun _ same => same ▸ trace
  · exact meets_throw fun _ same => same ▸ trace

theorem dropAdmitted_traces (sourceId : KnowledgeSourceId) :
    Keeps (fun session => Reaches (BodyChange request) origin session.standing)
      (dropAdmitted sourceId) := by
  unfold dropAdmitted
  refine meets_get_bind fun session trace => ?_
  split
  · rename_i pending
    refine meets_modify fun later same => ?_
    obtain ⟨candidate, found⟩ := OrdMap.mem_iff_exists.mp (Std.ExtTreeMap.contains_iff_mem.mp pending)
    rw [same]
    exact trace.tail (.drop sourceId candidate .budget found (.inl rfl))
  · exact meets_throw fun _ same => same ▸ trace

/-- Between rounds: reached by changes of the recursion, with nothing pending. -/
structure Resting (request : ActivationRequest) (externals : Externals) (origin : Standing)
    (session : KnowledgeActivationSession) : Prop where
  trace : Reaches (RecursionChange request externals) origin session.standing
  idle : session.pending = ∅

theorem Resting.same {session later : KnowledgeActivationSession}
    (resting : Resting request externals origin session)
    (same : later.standing = session.standing) : Resting request externals origin later := by
  refine ⟨?_, ?_⟩
  · rw [same]
    exact resting.trace
  · exact (congrArg Standing.pending same).trans resting.idle

theorem accountFragment_standing (session : KnowledgeActivationSession) (fragment : ScanFragment) :
    (accountFragment externals session fragment).standing = session.standing := by
  unfold accountFragment
  dsimp only
  split
  · rfl
  · rfl

theorem accountScanFragments_stands :
    Spares standing (accountScanFragments request externals) := by
  unfold accountScanFragments
  refine .bind (spares_modify fun session => ?_) fun _ => .bind spares_get fun session => ?_
  · exact Loop.foldl_keeps standing accountFragment_standing session _
  · dsimp only
    repeat' split
    all_goals first
      | exact spares_throw _
      | exact spares_pure _

theorem setStage_rests {stage : Stage} (onward : stage ≠ .start) :
    Keeps (Resting request externals origin) (setStage stage) :=
  keeps_modify fun _ resting => ⟨resting.trace.tail (.turn stage onward), resting.idle⟩

/-- Recursion, once the first round has begun. -/
def Recurring (request : ActivationRequest) (externals : Externals) (origin : Standing)
    (session : KnowledgeActivationSession) : Prop :=
  Resting request externals origin session ∧ session.stage ≠ .start

theorem Recurring.same {session later : KnowledgeActivationSession}
    (recurring : Recurring request externals origin session)
    (same : later.standing = session.standing) : Recurring request externals origin later := by
  refine ⟨recurring.1.same same, ?_⟩
  have stage : later.stage = session.stage := congrArg Standing.stage same
  rw [stage]
  exact recurring.2

theorem addRecursionFragment_rests (added : UInt64) (sourceId : KnowledgeSourceId) :
    Keeps (Recurring request externals origin)
      (addRecursionFragment request externals added sourceId) := by
  unfold addRecursionFragment
  refine meets_get_bind fun session recurring => ?_
  refine Meets.bind (Q := fun _ later =>
      later = { session with recursionBodies := session.recursionBodies.erase sourceId })
    (meets_modify fun _ same => by rw [same]) fun _ => ?_
  split
  · exact meets_pure fun _ same => recurring.same (by rw [same]; rfl)
  · split
    · exact meets_throw fun _ same => recurring.same (by rw [same]; rfl)
    · refine Meets.bind (Q := fun _ later => later = { session with
          recursionBodies := session.recursionBodies.erase sourceId
          continuation.recursionSources := session.continuation.recursionSources.insert sourceId })
        (meets_modify fun _ same => by rw [same]) fun _ => ?_
      split
      · exact meets_pure fun _ same => recurring.same (by rw [same]; rfl)
      · split
        · exact meets_throw fun _ same => recurring.same (by rw [same]; rfl)
        · dsimp only
          split
          · exact meets_throw fun _ same => recurring.same (by rw [same]; rfl)
          · refine Meets.bind (Q := fun _ => Recurring request externals origin)
              (meets_modify fun later same => ?_) fun _ => meets_pure fun _ kept => kept
            rw [same]
            exact ⟨⟨recurring.1.trace.tail (.recur _ rfl rfl recurring.2), recurring.1.idle⟩, recurring.2⟩

theorem addRecursionFragments_rests :
    Keeps (Recurring request externals origin) (addRecursionFragments request externals) := by
  unfold addRecursionFragments
  refine .bind spares_get.keeps fun session =>
    .bind (keeps_modify fun _ recurring => recurring.same rfl) fun _ => ?_
  exact meets_foldlM addRecursionFragment_rests _ _

theorem expandRecursion_rests :
    Meets (Recurring request externals origin) (expandRecursion request externals)
      (fun step session => Resting request externals origin session ∧
        (step = .expanded → Entry request externals origin .recursion session.standing))
      (Resting request externals origin) := by
  unfold expandRecursion
  refine Meets.bind (addRecursionFragments_rests.weaken (fun _ recurring => recurring)
    (fun _ _ kept => kept) fun _ kept => kept.1) fun added =>
      meets_get_bind fun session recurring => ?_
  split
  · exact meets_pure fun _ same => ⟨same ▸ recurring.1, fun expanded => by cases expanded⟩
  · split
    · exact Meets.bind (Q := fun _ => Resting request externals origin)
        (meets_modify fun _ same => recurring.1.same (by rw [same]; rfl))
        fun _ => meets_pure fun _ kept => ⟨kept, fun expanded => by cases expanded⟩
    · rename_i low
      have room := UInt16.not_le.mp low
      refine Meets.bind (Q := fun _ later => later.standing = session.standing.climb ∧
          later.pending = session.pending) (meets_modify fun later same => by rw [same]; exact ⟨rfl, rfl⟩)
        fun _ => meets_pure fun later climbed => ?_
      rw [climbed.1]
      refine ⟨⟨?_, climbed.2.trans recurring.1.idle⟩, fun _ => .recursion recurring.1.trace room⟩
      rw [climbed.1]
      exact recurring.1.trace.tail (.climb room)

/-- What is known once a round is entered, or none is. -/
structure Onset (request : ActivationRequest) (externals : Externals) (origin : Standing)
    (entered : Option ActivationMachineState) (session : KnowledgeActivationSession) : Prop where
  resting : Resting request externals origin session
  entry : ∀ state, entered = some state → Entry request externals origin state session.standing

theorem enterDepthRound_enters :
    Meets (Resting request externals origin) (enterDepthRound request externals)
      (Onset request externals origin) (Resting request externals origin) := by
  unfold enterDepthRound
  refine meets_get_bind fun session resting => ?_
  dsimp only
  split
  · rename_i wanted
    have room := of_decide_eq_true (Bool.and_eq_true_iff.mp wanted).2
    refine Meets.bind (Q := fun _ later => later.standing = { session.standing with
        depthExpansions := next16 session.standing.depthExpansions })
      (meets_modify fun _ same => by rw [same]; rfl) fun _ => ?_
    refine Meets.bind ((Spares.keeps (P := fun s => s = { session.standing with
        depthExpansions := next16 session.standing.depthExpansions })
      accountScanFragments_stands).weaken (fun _ deeper => deeper) (fun _ _ deeper => deeper)
      fun later deeper => ?_) fun _ => ?_
    · refine ⟨?_, (congrArg Standing.pending deeper).trans resting.idle⟩
      rw [deeper]
      exact resting.trace.tail (.deepen room)
    · refine Meets.bind (Q := fun _ later => later.standing = { session.standing with
          depthExpansions := next16 session.standing.depthExpansions, stage := .depthRecursion })
        (meets_modify fun later deeper => ?_) fun _ => meets_pure fun later deeper => ?_
      · exact congrArg (fun s : Standing => { s with stage := .depthRecursion }) deeper
      · refine ⟨⟨?_, (congrArg Standing.pending deeper).trans resting.idle⟩, ?_⟩
        · rw [deeper]
          exact (resting.trace.tail (.deepen room)).tail (.turn .depthRecursion (by decide))
        · rintro state ⟨⟩
          rw [deeper]
          exact .depth resting.trace room
  · refine Meets.bind ((setStage_rests (by decide)).weaken (fun _ same => same ▸ resting)
      (fun _ _ kept => kept) fun _ kept => kept) fun _ => meets_pure fun _ kept => ⟨kept, ?_⟩
    rintro state ⟨⟩

variable (request externals origin) in
theorem enterRound_enters :
    Meets (fun session => session.standing = origin) (enterRound request externals)
      (fun entered session => Reaches (RecursionChange request externals) origin session.standing ∧
        ∀ state, entered = some state → session.pending = ∅ ∧
          Entry request externals origin state session.standing)
      (fun session => Reaches (RecursionChange request externals) origin session.standing) := by
  have deepen : Meets (Resting request externals origin) (setStage .depthLoop >>= fun _ =>
      enterDepthRound request externals) (Onset request externals origin)
      (Resting request externals origin) :=
    .bind (setStage_rests (by decide)) fun _ => enterDepthRound_enters
  have stay {t : KnowledgeActivationSession} (resting : Resting request externals origin t) :
      Onset request externals origin none t := ⟨resting, by rintro state ⟨⟩⟩
  unfold enterRound
  refine meets_get_bind fun session same => ?_
  subst same
  split
  · exact meets_throw fun _ same => same ▸ .refl
  · rename_i empty
    have idle : session.pending = ∅ := Std.ExtTreeMap.isEmpty_iff.mp (by simpa using empty)
    have resting : Resting request externals session.standing session := ⟨.refl, idle⟩
    refine Meets.weaken (Q := Onset request externals session.standing)
      (E := Resting request externals session.standing) ?_ (fun _ same => same)
      (fun _ _ kept => ⟨kept.resting.trace, fun state some => ⟨kept.resting.idle, kept.entry state some⟩⟩)
      fun _ kept => kept.trace
    split
    · exact meets_pure fun _ same => stay (same ▸ resting)
    · rename_i opening
      refine Meets.bind ((Spares.keeps (P := fun s => s = session.standing)
        accountScanFragments_stands).weaken (fun later same => congrArg standing same)
        (fun _ _ same => same) fun later same => resting.same same) fun _ => ?_
      refine Meets.bind (Q := fun _ later => later.standing = { session.standing with
          stage := .initialRecursion }) (meets_modify fun later same => ?_) fun _ =>
            meets_pure fun later begun => ?_
      · exact congrArg (fun s : Standing => { s with stage := .initialRecursion }) same
      · refine ⟨⟨?_, (congrArg Standing.pending begun).trans idle⟩, ?_⟩
        · rw [begun]
          exact .single (.turn .initialRecursion (by decide))
        · rintro state ⟨⟩
          rw [begun]
          exact .opening _ opening
    · rename_i stage
      have recurring : Recurring request externals session.standing session :=
        ⟨resting, by rw [stage]; decide⟩
      refine Meets.bind (expandRecursion_rests.weaken (fun _ same => same ▸ recurring)
        (fun _ _ kept => kept) fun _ kept => kept) fun step => ?_
      cases step with
      | none => exact deepen.weaken (fun _ kept => kept.1) (fun _ _ kept => kept) fun _ kept => kept
      | exhausted =>
        exact deepen.weaken (fun _ kept => kept.1) (fun _ _ kept => kept) fun _ kept => kept
      | expanded =>
        refine meets_pure fun _ kept => ⟨kept.1, ?_⟩
        rintro state ⟨⟩
        exact kept.2 rfl
    · rename_i stage
      have recurring : Recurring request externals session.standing session :=
        ⟨resting, by rw [stage]; decide⟩
      refine Meets.bind (expandRecursion_rests.weaken (fun _ same => same ▸ recurring)
        (fun _ _ kept => kept) fun _ kept => kept) fun step => ?_
      cases step with
      | none => exact deepen.weaken (fun _ kept => kept.1) (fun _ _ kept => kept) fun _ kept => kept
      | exhausted =>
        refine Meets.bind ((setStage_rests (by decide)).weaken (fun _ kept => kept.1)
          (fun _ _ kept => kept) fun _ kept => kept) fun _ => meets_pure fun _ kept => stay kept
      | expanded =>
        refine meets_pure fun _ kept => ⟨kept.1, ?_⟩
        rintro state ⟨⟩
        exact kept.2 rfl
    · exact enterDepthRound_enters.weaken (fun _ same => same ▸ resting) (fun _ _ kept => kept)
        fun _ kept => kept

variable (request externals) in
/-- The round that was entered, if one was, refuses only where it is allowed to. -/
def EnteredAllowed (allow : Refusal → KnowledgeSourceId → Activated → Prop) :
    Option ActivationMachineState → KnowledgeActivationSession → Prop
  | none, _ => True
  | some state, session => RoundAllowed request externals allow { session with state := state }

variable (request externals) in
/-- The round that `next_round` runs, if it does, refuses only where it is allowed to. -/
def NextAllowed (allow : Refusal → KnowledgeSourceId → Activated → Prop)
    (session : KnowledgeActivationSession) : Prop :=
  Onward (enterRound request externals) (EnteredAllowed request externals allow) session

/-- A call of `next_round` ends between rounds, or in a round that was entered. -/
theorem nextRound_cases (session : KnowledgeActivationSession) :
    (Reaches (RecursionChange request externals) session.standing
        (after (nextRound request externals session)).standing ∧
      ∀ outcome t, nextRound request externals session ≠ .ok (some outcome) t) ∨
    ∃ state t, enterRound request externals session = .ok (some state) t ∧ t.pending = ∅ ∧
      Entry request externals session.standing state t.standing ∧
      nextRound request externals session = (some <$> runRound request externals state) t := by
  have known := enterRound_enters request externals session.standing session rfl
  have split : nextRound request externals session =
      EStateM.bind (enterRound request externals) (runEntered request externals) session :=
    congrFun nextRound_eq session
  unfold EStateM.bind at split
  cases ran : enterRound request externals session with
  | error failure t =>
    rw [ran] at known split
    refine .inl ⟨?_, fun outcome t => ?_⟩
    · rw [split]
      exact known
    · rw [split]
      rintro ⟨⟩
  | ok entered t =>
    rw [ran] at known split
    cases entered with
    | none =>
      refine .inl ⟨?_, fun outcome t => ?_⟩
      · rw [split]
        exact known.1
      · rw [split]
        rintro ⟨⟩
    | some state =>
      obtain ⟨idle, entry⟩ := known.2 state rfl
      exact .inr ⟨state, t, rfl, idle, entry, split⟩

/-- A round that was entered is a sequence of changes of a round. -/
theorem entered_traces {state : ActivationMachineState} {t : KnowledgeActivationSession}
    (idle : t.pending = ∅)
    (allowed : RoundAllowed request externals allow { t with state := state }) :
    Reaches (RoundChange request externals allow) t.standing
      (after ((some <$> runRound request externals state) t)).standing :=
  Meets.leaves (P := fun later => later = t) (R := fun later : KnowledgeActivationSession =>
      Reaches (RoundChange request externals allow) t.standing later.standing)
    (Meets.map (runRound_traces state idle allowed) fun _ _ round => round.1) rfl

/-- The same, for a round that may refuse anything. -/
theorem nextRound_rounds (session : KnowledgeActivationSession) :
    (Reaches (RecursionChange request externals) session.standing
        (after (nextRound request externals session)).standing ∧
      ∀ outcome t, nextRound request externals session ≠ .ok (some outcome) t) ∨
    ∃ state t, enterRound request externals session = .ok (some state) t ∧
      Entry request externals session.standing state t.standing ∧
      Reaches (RoundChange request externals fun _ _ _ => True) t.standing
        (after (nextRound request externals session)).standing := by
  rcases nextRound_cases session with between | ⟨state, t, ran, idle, entry, same⟩
  · exact .inl between
  · refine .inr ⟨state, t, ran, entry, ?_⟩
    rw [same]
    exact entered_traces idle (roundAllowed_of_forall (fun _ _ _ => trivial) _)

/-- Recursion, and then the round it led to. -/
theorem nextRound_traces (allowed : NextAllowed request externals allow session) :
    Reaches (Change request externals allow) session.standing
      (after (nextRound request externals session)).standing := by
  have recursion {t : Standing} (trace : Reaches (RecursionChange request externals) session.standing t) :
      Reaches (Change request externals allow) session.standing t :=
    Relation.ReflTransGen.mono (fun _ _ change => Change.recursion change) _ _ trace
  rcases nextRound_cases session with ⟨trace, _⟩ | ⟨state, t, ran, idle, entry, same⟩
  · exact recursion trace
  · unfold NextAllowed Onward at allowed
    rw [ran] at allowed
    rw [same]
    exact (recursion entry.reaches).trans (Relation.ReflTransGen.mono
      (fun _ _ change => Change.round change) _ _ (entered_traces idle allowed))

theorem supplyBodies_bodies (bodies : List ActivationEntryBody) :
    Reaches (BodyChange request) session.standing
      (after (supplyBodies request externals bodies session)).standing :=
  Meets.after (supplyBodies_traces bodies) .refl

theorem dropAdmitted_bodies (request : ActivationRequest) (sourceId : KnowledgeSourceId) :
    Reaches (BodyChange request) session.standing (after (dropAdmitted sourceId session)).standing :=
  Meets.after (dropAdmitted_traces sourceId) .refl

/-- The two operations on pending candidates, as changes of any kind. -/
theorem supplyBodies_changes (bodies : List ActivationEntryBody) :
    Reaches (Change request externals allow) session.standing
      (after (supplyBodies request externals bodies session)).standing :=
  Relation.ReflTransGen.mono (fun _ _ change => Change.body change) _ _ (supplyBodies_bodies bodies)

theorem dropAdmitted_changes (sourceId : KnowledgeSourceId) :
    Reaches (Change request externals allow) session.standing
      (after (dropAdmitted sourceId session)).standing :=
  Relation.ReflTransGen.mono (fun _ _ change => Change.body change) _ _
    (dropAdmitted_bodies request sourceId)

end

section
variable [∀ refusal sourceId activated, Decidable (allow refusal sourceId activated)]

instance decidableMatchAllowed (item : FragmentPatternMatch) (session : KnowledgeActivationSession) :
    Decidable (MatchAllowed request allow item session) :=
  inferInstanceAs (Decidable (_ → _))

instance decidableFragmentAllowed (fragment : ScanFragmentId × List FragmentPatternMatch)
    (session : KnowledgeActivationSession) : Decidable (FragmentAllowed request allow fragment session) :=
  inferInstanceAs (Decidable (_ → _))

instance decidableTextAllowed (session : KnowledgeActivationSession) :
    Decidable (TextAllowed request externals allow session) :=
  decidableOnward session

instance decidableCollectAllowed (session : KnowledgeActivationSession) :
    Decidable (CollectAllowed request externals allow session) :=
  decidableOnward session

instance decidableMergeAllowed (candidate : Candidate) (session : KnowledgeActivationSession) :
    Decidable (MergeAllowed request allow candidate session) :=
  inferInstanceAs (Decidable (_ → _))

instance decidableConsiderAllowed (candidates : Candidates) (session : KnowledgeActivationSession) :
    Decidable (ConsiderAllowed request allow candidates session) :=
  decidableThroughout _ _ session

instance decidableTrimAllowed (collected : Candidates) (session : KnowledgeActivationSession) :
    Decidable (TrimAllowed request allow collected session) :=
  inferInstanceAs (Decidable (_ ∧ _))

instance decidableRoundAllowed (session : KnowledgeActivationSession) :
    Decidable (RoundAllowed request externals allow session) :=
  inferInstanceAs (Decidable (_ ∧ _))

instance decidableEnteredAllowed :
    ∀ (entered : Option ActivationMachineState) (session : KnowledgeActivationSession),
      Decidable (EnteredAllowed request externals allow entered session)
  | none, _ => isTrue trivial
  | some _, _ => decidableRoundAllowed _

instance decidableNextAllowed (session : KnowledgeActivationSession) :
    Decidable (NextAllowed request externals allow session) :=
  decidableOnward session

end

end KnowledgeActivationSession

namespace Live
open KnowledgeActivationSession
variable {externals : Externals} {allow : Refusal → KnowledgeSourceId → Activated → Prop}

/-- A step is a sequence of changes of the open session, or the start of the next one. -/
theorem step_traces {live next : Live} (step : Step externals live next)
    (allowed : NextAllowed live.request externals allow live.session) :
    next.request = live.request ∧
        Reaches (Change live.request externals allow) live.session.standing next.session.standing ∨
      ∃ result, finish live.request live.session = .ok result ∧
        next.request.continuation = some result.continuation ∧
        start next.request = .ok next.session := by
  cases step with
  | nextRound => exact .inl ⟨rfl, nextRound_traces allowed⟩
  | supplyBodies bodies => exact .inl ⟨rfl, supplyBodies_changes bodies⟩
  | dropAdmitted sourceId => exact .inl ⟨rfl, dropAdmitted_changes sourceId⟩
  | resume _ result finished continues started => exact .inr ⟨result, finished, continues, started⟩

/-- The condition that allows every refusal. -/
theorem nextAllowed_of_forall
    (all : ∀ refusal sourceId activated, allow refusal sourceId activated) (live : Live) :
    NextAllowed live.request externals allow live.session := by
  refine onward_of_forall (fun entered later => ?_) _
  cases entered with
  | none => trivial
  | some state => exact roundAllowed_of_forall all _

/-- The calls on one session are a sequence of its changes. -/
theorem calls_trace {live next : Live} (calls : Reaches (Call externals) live next) :
    next.request = live.request ∧
      Reaches (Change live.request externals fun _ _ _ => True) live.session.standing
        next.session.standing := by
  induction calls with
  | refl => exact ⟨rfl, .refl⟩
  | @tail between _ _ call ih =>
    obtain ⟨same, trace⟩ := ih
    have changes {t : KnowledgeActivationSession}
        (later : Reaches (Change between.request externals fun _ _ _ => True)
          between.session.standing t.standing) :
        Reaches (Change live.request externals fun _ _ _ => True) live.session.standing t.standing := by
      rw [same] at later
      exact trace.trans later
    cases call with
    | nextRound =>
      exact ⟨same, changes (nextRound_traces (nextAllowed_of_forall (fun _ _ _ => trivial) between))⟩
    | supplyBodies bodies => exact ⟨same, changes (supplyBodies_changes bodies)⟩
    | dropAdmitted sourceId => exact ⟨same, changes (dropAdmitted_changes sourceId)⟩

/-- What every change keeps, and the start of the next session too, holds in every run. -/
theorem invariant {P : Live → Prop} {first live : Live}
    (changes : ∀ {live : Live} {t : KnowledgeActivationSession}, P live →
      Reaches (Change live.request externals fun _ _ _ => True) live.session.standing t.standing →
        P { live with session := t })
    (resumes : ∀ {live next : Live} {result : ActivationResult}, P live →
      finish live.request live.session = .ok result →
      next.request.continuation = some result.continuation →
      start next.request = .ok next.session → P next)
    (run : Reaches (Step externals) first live) (initial : P first) : P live := by
  refine Transition.invariant (P := P) (fun {live next} held step => ?_) run initial
  rcases step_traces step (nextAllowed_of_forall (fun _ _ _ => trivial) live) with
    ⟨same, trace⟩ | ⟨result, finished, continues, started⟩
  · have kept := changes held trace
    rwa [← same] at kept
  · exact resumes held finished continues started

end Live

end Aise.Domain
