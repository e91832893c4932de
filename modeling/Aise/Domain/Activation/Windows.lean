import Aise.Domain.Activation.Levels

/-! Sticky and cooldown windows. A session takes the stored states it is given, turns away
those of other rules, and leaves a delta: an upsert for every entry it activated afresh, and
deletes for what is stale or has run out. Two sessions of a turn merge their deltas. -/
namespace Aise.Domain
open Effect Saturating Transition OrdMap

namespace PendingActivationStateDelta

/-- States under their own sources, added to a map. -/
def collect (states : List ActivationTimedState)
    (map : BTreeMap KnowledgeSourceId ActivationTimedState) :
    BTreeMap KnowledgeSourceId ActivationTimedState :=
  states.foldl (fun map state => map.insert state.sourceId state) map

def merge (self newer : PendingActivationStateDelta) : PendingActivationStateDelta :=
  let upserts := newer.deletes.toList.foldl (fun upserts sourceId => upserts.erase sourceId)
    (collect self.upserts ∅)
  let deletes := newer.deletes.toList.foldl (fun deletes sourceId => deletes.insert sourceId)
    self.deletes
  { upserts := valuesOf (collect newer.upserts upserts)
    deletes := newer.upserts.foldl (fun deletes state => deletes.erase state.sourceId) deletes }

/-- Whether a delta writes a state for a source. -/
def Writes (delta : PendingActivationStateDelta) (sourceId : KnowledgeSourceId) : Prop :=
  sourceId ∈ delta.upserts.map (·.sourceId)

instance decidableWrites (delta : PendingActivationStateDelta) (sourceId : KnowledgeSourceId) :
    Decidable (delta.Writes sourceId) :=
  inferInstanceAs (Decidable (_ ∈ _))

variable {self newer : PendingActivationStateDelta} {sourceId : KnowledgeSourceId}

theorem mem_merge_deletes : sourceId ∈ (self.merge newer).deletes ↔
    ¬ newer.Writes sourceId ∧ (sourceId ∈ newer.deletes ∨ sourceId ∈ self.deletes) := by
  unfold merge
  dsimp only
  rw [set_mem_eraseAll ActivationTimedState.sourceId, set_mem_insertAll fun sourceId => sourceId,
    List.map_id', Std.ExtTreeSet.mem_toList]
  rfl

/-- Every state of a map stands under its own source. -/
def Owned (map : BTreeMap KnowledgeSourceId ActivationTimedState) : Prop :=
  ∀ (key : KnowledgeSourceId) (state : ActivationTimedState),
    map[key]? = some state → state.sourceId = key

section
variable {map : BTreeMap KnowledgeSourceId ActivationTimedState}

theorem Owned.mem_iff (own : Owned map) :
    sourceId ∈ (valuesOf map).map (·.sourceId) ↔ sourceId ∈ map := by
  rw [mem_iff_exists]
  constructor
  · intro member
    obtain ⟨state, stored, rfl⟩ := List.mem_map.mp member
    obtain ⟨key, found⟩ := mem_valuesOf.mp stored
    rw [own key state found]
    exact ⟨state, found⟩
  · rintro ⟨state, found⟩
    exact List.mem_map.mpr ⟨state, mem_valuesOf.mpr ⟨_, found⟩, own _ _ found⟩

theorem Owned.collect (states : List ActivationTimedState) (own : Owned map) :
    Owned (collect states map) := by
  intro key state found
  rcases get_insertAll ActivationTimedState.sourceId states found with ⟨_, here⟩ | ⟨_, stored⟩
  · exact here
  · exact own key state stored

theorem get_erased (sources : List KnowledgeSourceId) (key : KnowledgeSourceId) :
    (sources.foldl (fun map sourceId => map.erase sourceId) map)[key]? =
      if key ∈ sources then none else map[key]? := by
  rw [get_eraseAll fun sourceId : KnowledgeSourceId => sourceId, List.map_id']

theorem Owned.erased (sources : List KnowledgeSourceId) (own : Owned map) :
    Owned (sources.foldl (fun map sourceId => map.erase sourceId) map) := by
  intro key state found
  rw [get_erased] at found
  split at found
  · cases found
  · exact own key state found

end

theorem merge_writes : (self.merge newer).Writes sourceId ↔
    newer.Writes sourceId ∨ self.Writes sourceId ∧ sourceId ∉ newer.deletes := by
  have empty : Owned ∅ := fun key state found => by simp at found
  unfold Writes merge
  dsimp only
  rw [((empty.collect self.upserts).erased _ |>.collect newer.upserts).mem_iff]
  unfold collect
  rw [mem_insertAll ActivationTimedState.sourceId, mem_iff_exists, get_erased]
  refine or_congr Iff.rfl ?_
  by_cases deleted : sourceId ∈ newer.deletes
  · simp [deleted]
  · rw [if_neg (mt Std.ExtTreeSet.mem_toList.mp deleted), ← mem_iff_exists,
      mem_insertAll ActivationTimedState.sourceId]
    simp [deleted]

end PendingActivationStateDelta

/-- A state of another rule than the entry has now, or of no entry. -/
def ActivationRequest.Stale (request : ActivationRequest) (state : ActivationTimedState) : Prop :=
  ∀ metadata, request.metadata state.sourceId = some metadata →
    state.ruleVersion ≠ metadata.ruleVersion

/-- The index keeps every entry under its own source. -/
def ActivationRequest.Keyed (request : ActivationRequest) : Prop :=
  ∀ sourceId metadata, request.metadata sourceId = some metadata → metadata.sourceId = sourceId

/-- What is taken over from the stored states. -/
structure Viewed (request : ActivationRequest) (states : List ActivationTimedState)
    (view : TimedView) : Prop where
  upserts : view.delta.upserts = []
  deletes : ∀ sourceId, sourceId ∈ view.delta.deletes ↔
    ∃ state ∈ states, state.sourceId = sourceId ∧ request.Stale state
  valid : ∀ (sourceId : KnowledgeSourceId) (state : ActivationTimedState),
    view.valid[sourceId]? = some state ↔
      state ∈ states ∧ state.sourceId = sourceId ∧ ¬ request.Stale state

section
variable {request : ActivationRequest} {states : List ActivationTimedState}
  {state : ActivationTimedState} {view next : TimedView}

theorem Viewed.stale (viewed : Viewed request states view) (stale : request.Stale state) :
    Viewed request (states ++ [state])
      { view with delta.deletes := view.delta.deletes.insert state.sourceId } where
  upserts := viewed.upserts
  deletes sourceId := by
    simp only [set_mem_insert, viewed.deletes, List.mem_append, List.mem_singleton]
    constructor
    · rintro (here | ⟨other, member, known⟩)
      · exact ⟨state, .inr rfl, here, stale⟩
      · exact ⟨other, .inl member, known⟩
    · rintro ⟨other, member | rfl, known⟩
      · exact .inr ⟨other, member, known⟩
      · exact .inl known.1
  valid sourceId other := by
    simp only [viewed.valid, List.mem_append, List.mem_singleton]
    constructor
    · rintro ⟨member, known⟩
      exact ⟨.inl member, known⟩
    · rintro ⟨member | rfl, known⟩
      · exact ⟨member, known⟩
      · exact absurd stale known.2

theorem viewState_ok (viewed : Viewed request states view)
    (accepted : viewState request view state = .ok next) :
    Viewed request (states ++ [state]) next := by
  unfold viewState at accepted
  dsimp only at accepted
  split at accepted
  · cases accepted
  · rename_i absent
    split at accepted
    · rename_i unknown
      cases accepted
      exact viewed.stale fun metadata known => absurd (unknown.symm.trans known) (by simp)
    · rename_i metadata known
      split at accepted
      · rename_i other
        cases accepted
        refine viewed.stale fun found here => ?_
        cases known.symm.trans here
        exact other
      · rename_i same
        split at accepted
        · cases accepted
        · cases accepted
          have current : ¬ request.Stale state := fun stale => stale metadata known (not_not.mp same)
          refine ⟨viewed.upserts, fun sourceId => ?_, fun sourceId other => ?_⟩
          · simp only [viewed.deletes, List.mem_append, List.mem_singleton]
            constructor
            · rintro ⟨old, member, stale⟩
              exact ⟨old, .inl member, stale⟩
            · rintro ⟨old, member | rfl, stale⟩
              · exact ⟨old, member, stale⟩
              · exact absurd stale.2 current
          · simp only [get_insert, List.mem_append, List.mem_singleton]
            split
            · rename_i here
              subst here
              constructor
              · rintro ⟨⟩
                exact ⟨.inr rfl, rfl, current⟩
              · rintro ⟨member | rfl, here, valid⟩
                · have found := (viewed.valid _ other).mpr ⟨member, here, valid⟩
                  refine absurd ?_ absent
                  exact Std.ExtTreeMap.contains_iff_mem.mpr (mem_iff_exists.mpr ⟨other, found⟩)
                · rfl
            · rename_i different
              rw [viewed.valid]
              constructor
              · rintro ⟨member, here⟩
                exact ⟨.inl member, here⟩
              · rintro ⟨member | rfl, here⟩
                · exact ⟨member, here⟩
                · exact absurd here.1 different

theorem timedView_ok (accepted : timedView request = .ok view) :
    Viewed request request.timedState view := by
  have folded (rest done : List ActivationTimedState) (view next : TimedView)
      (viewed : Viewed request done view)
      (accepted : rest.foldlM (viewState request) view = .ok next) :
      Viewed request (done ++ rest) next := by
    induction rest generalizing done view with
    | nil =>
      cases accepted
      rwa [List.append_nil]
    | cons state rest ih =>
      rw [List.foldlM_cons] at accepted
      obtain ⟨between, first, accepted⟩ := Result.bind_eq_ok accepted
      have longer := ih (done ++ [state]) between (viewState_ok viewed first) accepted
      rwa [List.append_assoc, List.singleton_append] at longer
  exact folded request.timedState [] {} view ⟨rfl, by simp, by simp⟩ accepted

end

/-- Whether an activation opens a window at all. -/
def ActivationEntryMetadata.timed (metadata : ActivationEntryMetadata) : Prop :=
  metadata.rule.timing.stickyTurns ≠ 0 ∨ metadata.rule.timing.cooldownTurns ≠ 0

/-- The windows an activation opens. -/
def openedWindows (request : ActivationRequest) (metadata : ActivationEntryMetadata) :
    ActivationTimedState :=
  let timing := metadata.rule.timing
  let sticky := add request.turnNumber.get timing.stickyTurns.toUInt64
  { sourceId := metadata.sourceId
    ruleVersion := metadata.ruleVersion
    stickyThroughTurn := KnowledgeActivationSession.throughTurn timing.stickyTurns sticky
    cooldownThroughTurn := KnowledgeActivationSession.throughTurn timing.cooldownTurns
      (add sticky timing.cooldownTurns.toUInt64) }

/-- A source that a session has activated, from a given state on, and not because it is
sticky. -/
structure Standing.Freshly (request : ActivationRequest) (origin s : Standing)
    (sourceId : KnowledgeSourceId) : Prop where
  activated : sourceId ∈ s.activated
  before : sourceId ∉ origin.activated
  loose : stickyNow request origin.timedValid sourceId = false

/-- The delta writes exactly the windows of what was activated afresh, and deletes what it
began with deleting but for these. -/
structure Standing.Timed (request : ActivationRequest) (origin s : Standing) : Prop where
  apart : s.Apart
  loyal : ∀ (sourceId : KnowledgeSourceId) (candidate : Candidate),
    s.pending[sourceId]? = some candidate →
      candidate.sticky = stickyNow request origin.timedValid sourceId
  valid : s.timedValid = origin.timedValid
  kept : ∀ sourceId, sourceId ∈ origin.activated → sourceId ∈ s.activated
  upserts : ∀ state, state ∈ s.timedDelta.upserts ↔
    ∃ metadata, request.metadata state.sourceId = some metadata ∧ metadata.timed ∧
      state = openedWindows request metadata ∧ Standing.Freshly request origin s state.sourceId
  deletes : ∀ sourceId, sourceId ∈ s.timedDelta.deletes ↔
    sourceId ∈ origin.timedDelta.deletes ∧ ¬ s.timedDelta.Writes sourceId

section
variable {request : ActivationRequest} {externals : Externals}
  {allow : Refusal → KnowledgeSourceId → Activated → Prop} {origin s t : Standing}

theorem updateTimedState_untimed {metadata : ActivationEntryMetadata}
    (untimed : ¬ metadata.timed) (delta : PendingActivationStateDelta) :
    KnowledgeActivationSession.updateTimedState request metadata delta = delta := by
  simp only [ActivationEntryMetadata.timed, not_or, not_not] at untimed
  exact if_pos untimed

theorem updateTimedState_timed {metadata : ActivationEntryMetadata}
    (timed : metadata.timed) (delta : PendingActivationStateDelta) :
    KnowledgeActivationSession.updateTimedState request metadata delta =
      { deletes := delta.deletes.erase metadata.sourceId
        upserts := (delta.upserts.filter fun state => state.sourceId ≠ metadata.sourceId) ++
          [openedWindows request metadata] } := by
  refine if_neg fun zero => ?_
  rcases timed with sticky | cooldown
  · exact sticky zero.1
  · exact cooldown zero.2

/-- A change that activates nothing and leaves the delta alone. -/
theorem Standing.Timed.same (timed : Standing.Timed request origin s) (apart : t.Apart)
    (loyal : ∀ (sourceId : KnowledgeSourceId) (candidate : Candidate),
      t.pending[sourceId]? = some candidate →
        candidate.sticky = stickyNow request origin.timedValid sourceId)
    (valid : t.timedValid = s.timedValid) (delta : t.timedDelta = s.timedDelta)
    (activated : ∀ sourceId, sourceId ∈ t.activated ↔ sourceId ∈ s.activated) :
    Standing.Timed request origin t where
  apart := apart
  loyal := loyal
  valid := valid.trans timed.valid
  kept sourceId member := (activated sourceId).mpr (timed.kept sourceId member)
  upserts state := by
    rw [delta, timed.upserts]
    constructor
    · rintro ⟨metadata, known, windows, same, fresh⟩
      exact ⟨metadata, known, windows, same, (activated _).mpr fresh.activated, fresh.before,
        fresh.loose⟩
    · rintro ⟨metadata, known, windows, same, fresh⟩
      exact ⟨metadata, known, windows, same, (activated _).mp fresh.activated, fresh.before,
        fresh.loose⟩
  deletes sourceId := by
    rw [delta]
    exact timed.deletes sourceId

theorem RoundChange.timed (change : RoundChange request externals allow s t)
    (timed : Standing.Timed request origin s) : Standing.Timed request origin t := by
  have apart := change.apart timed.apart
  cases change with
  | extend sourceId existing call usage found =>
    refine timed.same apart timed.loyal rfl rfl fun other => ?_
    dsimp only
    rw [Std.ExtTreeMap.mem_modify]
  | enter metadata candidate entrant =>
    refine timed.same apart (fun other entered found => ?_) rfl rfl fun _ => Iff.rfl
    dsimp only at found
    rw [get_insert] at found
    split at found
    · rename_i here
      cases found
      rw [← here, ← timed.valid]
      exact entrant.sticky
    · exact timed.loyal other entered found
  | _ => exact timed.same apart timed.loyal rfl rfl fun _ => Iff.rfl

theorem Standing.Timed.loyal_erase {sourceId : KnowledgeSourceId}
    (timed : Standing.Timed request origin s) (other : KnowledgeSourceId) (candidate : Candidate)
    (found : (s.pending.erase sourceId)[other]? = some candidate) :
    candidate.sticky = stickyNow request origin.timedValid other := by
  rw [get_erase] at found
  split at found
  · cases found
  · exact timed.loyal other candidate found

/-- What an activation does to a delta: an entry that is not sticky and has windows is written,
and no longer deleted. -/
theorem activate_delta (request : ActivationRequest) (metadata : ActivationEntryMetadata)
    (sticky : Bool) (delta : PendingActivationStateDelta) {next : PendingActivationStateDelta}
    (given : next = if sticky then delta
      else KnowledgeActivationSession.updateTimedState request metadata delta) :
    (∀ state, state ∈ next.upserts ↔
      (state ∈ delta.upserts ∧ (state.sourceId ≠ metadata.sourceId ∨ sticky ∨ ¬ metadata.timed)) ∨
        state = openedWindows request metadata ∧ sticky = false ∧ metadata.timed) ∧
      ∀ sourceId, sourceId ∈ next.deletes ↔ sourceId ∈ delta.deletes ∧
        (metadata.sourceId ≠ sourceId ∨ sticky ∨ ¬ metadata.timed) := by
  subst given
  cases sticky with
  | true => simp
  | false =>
    by_cases timed : metadata.timed
    · simp only [Bool.false_eq_true, if_false, updateTimedState_timed timed, timed, not_true,
        or_false, and_true, set_mem_erase, List.mem_append, List.mem_filter, List.mem_singleton,
        decide_eq_true_eq]
      refine ⟨fun state => ?_, fun sourceId => and_comm⟩
      simp
    · simp [updateTimedState_untimed timed, timed]

theorem BodyChange.timed (keyed : request.Keyed) (change : BodyChange request s t)
    (timed : Standing.Timed request origin s) : Standing.Timed request origin t := by
  have apart := change.apart timed.apart
  cases change with
  | lose sourceId => exact timed.same apart timed.loyal_erase rfl rfl fun _ => Iff.rfl
  | drop sourceId candidate reason found =>
    exact timed.same apart timed.loyal_erase rfl rfl fun _ => Iff.rfl
  | activate metadata candidate body call usage evidence found known =>
    have own := keyed _ _ known
    have loyal := timed.loyal _ _ found
    have inactive : body.sourceId ∉ s.activated := fun member => by
      obtain ⟨entry, stored⟩ := mem_iff_exists.mp member
      exact absurd ((timed.apart _ _ found).1.symm.trans stored) (by simp)
    have unwritten (state : ActivationTimedState) (member : state ∈ s.timedDelta.upserts) :
        state.sourceId ≠ body.sourceId := fun same => by
      obtain ⟨_, _, _, _, fresh⟩ := (timed.upserts state).mp member
      exact inactive (same ▸ fresh.activated)
    have freshly (sourceId : KnowledgeSourceId) :
        Standing.Freshly request origin
            (s.activate request metadata candidate body call.deliveries evidence usage) sourceId ↔
          Standing.Freshly request origin s sourceId ∨
            sourceId = body.sourceId ∧ candidate.sticky = false := by
      constructor
      · rintro ⟨member, before, loose⟩
        rcases Std.ExtTreeMap.mem_insert.mp member with here | old
        · have same := compare_eq_iff_eq.mp here
          exact .inr ⟨same.symm, by rw [loyal, same]; exact loose⟩
        · exact .inl ⟨old, before, loose⟩
      · rintro (⟨member, before, loose⟩ | ⟨rfl, loose⟩)
        · exact ⟨Std.ExtTreeMap.mem_insert.mpr (.inr member), before, loose⟩
        · refine ⟨Std.ExtTreeMap.mem_insert.mpr (.inl (compare_eq_iff_eq.mpr rfl)), ?_, ?_⟩
          · exact fun before => inactive (timed.kept _ before)
          · exact loyal ▸ loose
    obtain ⟨upserts, deletes⟩ := activate_delta request metadata candidate.sticky s.timedDelta rfl
    refine ⟨apart, timed.loyal_erase, timed.valid, fun sourceId member =>
      Std.ExtTreeMap.mem_insert.mpr (.inr (timed.kept sourceId member)), fun state => ?_,
      fun sourceId => ?_⟩
    · rw [freshly]
      refine (upserts state).trans ?_
      rw [own]
      constructor
      · rintro (⟨member, _⟩ | ⟨rfl, loose, windows⟩)
        · obtain ⟨found, here, windows, same, fresh⟩ := (timed.upserts state).mp member
          exact ⟨found, here, windows, same, .inl fresh⟩
        · have here : request.metadata (openedWindows request metadata).sourceId = some metadata :=
            (congrArg request.metadata own).trans known
          exact ⟨metadata, here, windows, rfl, .inr ⟨own, loose⟩⟩
      · rintro ⟨stored, here, windows, same, fresh | ⟨body, loose⟩⟩
        · have member := (timed.upserts state).mpr ⟨stored, here, windows, same, fresh⟩
          exact .inl ⟨member, .inl (unwritten state member)⟩
        · rw [body, known] at here
          cases here
          exact .inr ⟨same, loose, windows⟩
    · refine (deletes sourceId).trans ?_
      rw [timed.deletes, and_assoc, own]
      refine and_congr Iff.rfl ?_
      constructor
      · rintro ⟨before, spared⟩ written
        obtain ⟨state, member, here⟩ := List.mem_map.mp written
        rcases (upserts state).mp member with ⟨old, _⟩ | ⟨rfl, loose, windows⟩
        · exact before (List.mem_map.mpr ⟨state, old, here⟩)
        · rcases spared with different | sticky | untimed
          · exact different (own.symm.trans here)
          · exact absurd sticky (by simp [loose])
          · exact untimed windows
      · intro silent
        refine ⟨fun written => ?_, ?_⟩
        · obtain ⟨state, member, here⟩ := List.mem_map.mp written
          have still := (upserts state).mpr (.inl ⟨member, .inl (own ▸ unwritten state member)⟩)
          exact silent (List.mem_map.mpr ⟨state, still, here⟩)
        · by_contra opens
          simp only [not_or, not_not] at opens
          have added := (upserts _).mpr (.inr ⟨rfl, by simpa using opens.2.1, opens.2.2⟩)
          exact silent (List.mem_map.mpr ⟨_, added, own.trans opens.1⟩)

theorem Change.timed (keyed : request.Keyed) (change : Change request externals allow s t)
    (timed : Standing.Timed request origin s) : Standing.Timed request origin t := by
  cases change with
  | round change => exact change.timed timed
  | body change => exact change.timed keyed timed
  | recursion change =>
    have step : Change request externals allow s t := .recursion change
    have apart := step.apart timed.apart
    cases change <;> exact timed.same apart timed.loyal rfl rfl fun _ => Iff.rfl

end

namespace KnowledgeActivationSession
variable {request : ActivationRequest} {session : KnowledgeActivationSession}

theorem started_timed (started : start request = .ok session) :
    Standing.Timed request session.standing session.standing := by
  have opened := start_started started
  have viewed := timedView_ok opened.timed
  refine ⟨fun _ _ found => ?_, fun _ _ found => ?_, rfl, fun _ member => member, fun state => ?_,
    fun sourceId => ?_⟩
  · simp [standing, opened.pending] at found
  · simp [standing, opened.pending] at found
  · have none : session.standing.timedDelta.upserts = [] := viewed.upserts
    rw [none]
    refine ⟨fun member => absurd member List.not_mem_nil, ?_⟩
    rintro ⟨_, _, _, _, fresh⟩
    exact absurd fresh.activated fresh.before
  · have none : session.standing.timedDelta.upserts = [] := viewed.upserts
    simp [PendingActivationStateDelta.Writes, none]

/-- What a finished session writes and deletes. -/
theorem finish_delta {result : ActivationResult} (finished : finish request session = .ok result) :
    (∀ state, state ∈ result.pendingTimedState.upserts ↔ state ∈ session.timedDelta.upserts) ∧
      ∀ sourceId, sourceId ∈ result.pendingTimedState.deletes ↔
        sourceId ∈ session.timedDelta.deletes ∨ ∃ state, session.timedValid[sourceId]? = some state ∧
          expired request state = true ∧ sourceId ∉ session.continuation.activated := by
  unfold finish at finished
  split at finished
  · cases finished
  · cases finished
    refine ⟨fun state => List.mem_insertionSort _, fun sourceId => ?_⟩
    dsimp only [cleanupTimedState]
    rw [← List.foldl_filter, set_mem_insertAll Prod.fst, or_comm]
    refine or_congr Iff.rfl ?_
    simp only [List.mem_map, List.mem_filter, Bool.and_eq_true, Bool.not_eq_true',
      contains_eq_false_iff, Prod.exists, Std.ExtTreeMap.mem_toList_iff_getElem?_eq_some]
    constructor
    · rintro ⟨other, state, ⟨stored, ended⟩, rfl⟩
      exact ⟨state, stored, ended⟩
    · rintro ⟨state, stored, ended⟩
      exact ⟨sourceId, state, ⟨stored, ended⟩, rfl⟩

end KnowledgeActivationSession

namespace Live
open KnowledgeActivationSession
variable {externals : Externals} {first last : Live} {result : ActivationResult}
  {sourceId : KnowledgeSourceId}

/-- A source the session has activated between two of its states, and not because it is
sticky. -/
def Freshly (first last : Live) (sourceId : KnowledgeSourceId) : Prop :=
  Standing.Freshly first.request first.session.standing last.session.standing sourceId

theorem calls_timed (keyed : first.request.Keyed) (started : start first.request = .ok first.session)
    (calls : Reaches (Call externals) first last) :
    Standing.Timed first.request first.session.standing last.session.standing :=
  Transition.invariant
    (P := fun t : Standing => Standing.Timed first.request first.session.standing t)
    (fun held change => change.timed keyed held) (calls_trace calls).2 (started_timed started)

/-- A whole session: it writes exactly what it activated afresh, if that has windows, and
deletes what is stale or has run out, but for what it activated. -/
structure Delta (first last : Live) (delta : PendingActivationStateDelta) : Prop where
  upserts : ∀ state, state ∈ delta.upserts ↔ ∃ metadata,
    first.request.metadata state.sourceId = some metadata ∧ metadata.timed ∧
      state = openedWindows first.request metadata ∧ Freshly first last state.sourceId
  deletes : ∀ sourceId, sourceId ∈ delta.deletes ↔
    (∃ state ∈ first.request.timedState, state.sourceId = sourceId ∧ first.request.Stale state) ∧
        ¬ delta.Writes sourceId ∨
      ∃ state ∈ first.request.timedState, state.sourceId = sourceId ∧ ¬ first.request.Stale state ∧
        expired first.request state = true ∧ sourceId ∉ last.session.continuation.activated
  kept : ∀ sourceId, sourceId ∈ first.session.continuation.activated →
    sourceId ∈ last.session.continuation.activated

theorem session_delta (keyed : first.request.Keyed)
    (started : start first.request = .ok first.session)
    (calls : Reaches (Call externals) first last)
    (finished : finish last.request last.session = .ok result) :
    Delta first last result.pendingTimedState := by
  have timed := calls_timed keyed started calls
  have viewed := timedView_ok (start_started started).timed
  obtain ⟨upserts, deletes⟩ := finish_delta finished
  have valid : last.session.timedValid = first.session.timedValid := timed.valid
  have writes (sourceId : KnowledgeSourceId) : result.pendingTimedState.Writes sourceId ↔
      last.session.timedDelta.Writes sourceId := by
    simp only [PendingActivationStateDelta.Writes, List.mem_map, upserts]
  refine ⟨fun state => (upserts state).trans (timed.upserts state), fun sourceId => ?_, timed.kept⟩
  rw [deletes, valid, (calls_trace calls).1, writes]
  refine or_congr ?_ ?_
  · refine (timed.deletes sourceId).trans (and_congr (viewed.deletes sourceId) Iff.rfl)
  · simp only [viewed.valid, and_assoc]

theorem Delta.writes {metadata : ActivationEntryMetadata} {delta : PendingActivationStateDelta}
    (told : Delta first last delta) (keyed : first.request.Keyed)
    (known : first.request.metadata sourceId = some metadata) (timed : metadata.timed)
    (fresh : Freshly first last sourceId) : delta.Writes sourceId ∧ sourceId ∉ delta.deletes := by
  have own : (openedWindows first.request metadata).sourceId = sourceId := keyed _ _ known
  have written : delta.Writes sourceId := by
    refine List.mem_map.mpr ⟨openedWindows first.request metadata, (told.upserts _).mpr ?_, own⟩
    rw [own]
    exact ⟨metadata, known, timed, rfl, fresh⟩
  refine ⟨written, fun deleted => ?_⟩
  rcases (told.deletes sourceId).mp deleted with ⟨_, silent⟩ | ⟨_, _, _, _, _, inactive⟩
  · exact silent written
  · exact inactive fresh.activated

end Live

/-- Of two sessions of a turn, the second resumed from the first on the same index and the
same stored states: what either activated afresh is written and not deleted by the merged
delta, if and only if it was the second that activated it, or no state of another rule was
stored for it. -/
theorem merged_delta_keeps {externals : Externals} {first ended second last : Live}
    {earlier later : ActivationResult} {sourceId : KnowledgeSourceId}
    {metadata : ActivationEntryMetadata} (keyed : first.request.Keyed)
    (started : KnowledgeActivationSession.start first.request = .ok first.session)
    (calls : Reaches (Live.Call externals) first ended)
    (finished : KnowledgeActivationSession.finish ended.request ended.session = .ok earlier)
    (resumes : second.request.continuation = some earlier.continuation)
    (sameIndex : second.request.indexSnapshot = first.request.indexSnapshot)
    (sameStates : second.request.timedState = first.request.timedState)
    (restarted : KnowledgeActivationSession.start second.request = .ok second.session)
    (recalls : Reaches (Live.Call externals) second last)
    (refinished : KnowledgeActivationSession.finish last.request last.session = .ok later)
    (known : first.request.metadata sourceId = some metadata) (timed : metadata.timed)
    (fresh : first.Freshly ended sourceId ∨ second.Freshly last sourceId) :
    ((earlier.pendingTimedState.merge later.pendingTimedState).Writes sourceId ∧
        sourceId ∉ (earlier.pendingTimedState.merge later.pendingTimedState).deletes) ↔
      (second.Freshly last sourceId ∨ ∀ state ∈ first.request.timedState,
        state.sourceId = sourceId → state.ruleVersion = metadata.ruleVersion) := by
  have same (other : KnowledgeSourceId) : second.request.metadata other = first.request.metadata other :=
    congrArg (fun index : ActivationIndexSnapshot => index.metadata[other]?) sameIndex
  have rekeyed : second.request.Keyed := fun other found here => keyed other found (same other ▸ here)
  have told := Live.session_delta keyed started calls finished
  have retold := Live.session_delta rekeyed restarted recalls refinished
  rw [PendingActivationStateDelta.merge_writes, PendingActivationStateDelta.mem_merge_deletes]
  by_cases again : second.Freshly last sourceId
  · obtain ⟨written, _⟩ := retold.writes rekeyed ((same sourceId).trans known) timed again
    simp [written, again]
  · have fresh : first.Freshly ended sourceId := fresh.resolve_right again
    obtain ⟨written, undeleted⟩ := told.writes keyed known timed fresh
    have active : sourceId ∈ second.session.continuation.activated := by
      obtain ⟨⟨none, _⟩ | ⟨_, chosen⟩, _, _⟩ := start_ok restarted
      · rw [none] at resumes
        cases resumes
      · have continued := Option.some.inj (chosen.symm.trans resumes)
        rw [finish_ok finished] at continued
        obtain ⟨entry, stored⟩ := mem_iff_exists.mp fresh.activated
        obtain ⟨rank, kept⟩ := finalContinuation_stored stored
        rw [continued]
        exact mem_iff_exists.mpr ⟨_, kept⟩
    have unwritten : ¬ later.pendingTimedState.Writes sourceId := by
      intro writes
      obtain ⟨state, member, rfl⟩ := List.mem_map.mp writes
      obtain ⟨_, _, _, _, other⟩ := (retold.upserts state).mp member
      exact other.before active
    have stale : sourceId ∈ later.pendingTimedState.deletes ↔ ∃ state ∈ first.request.timedState,
        state.sourceId = sourceId ∧ state.ruleVersion ≠ metadata.ruleVersion := by
      rw [retold.deletes, sameStates]
      constructor
      · rintro (⟨⟨state, member, rfl, stale⟩, _⟩ | ⟨_, _, _, _, _, inactive⟩)
        · exact ⟨state, member, rfl, stale metadata ((same _).trans known)⟩
        · exact absurd (retold.kept sourceId active) inactive
      · rintro ⟨state, member, rfl, other⟩
        refine .inl ⟨⟨state, member, rfl, fun found here => ?_⟩, unwritten⟩
        rw [same, known] at here
        cases here
        exact other
    simp only [unwritten, false_or, written, true_and, undeleted, or_false, not_false_eq_true,
      and_self, again, stale]
    push Not
    rfl

namespace Windows.Sample
open KnowledgeActivationSession
open Reserve.Sample (externals lore story blank entry)

/-- The rule version the entry had before. -/
def formerVersion : ActivationRuleVersion := ⟨⟨List.replicate 32 1, rfl⟩⟩

/-- An entry that stays for a turn. -/
def sticky : ActivationEntryMetadata :=
  { entry lore .normal with
    rule := { (entry lore .normal).rule with timing := { stickyTurns := 1 } } }

def stored (ruleVersion : ActivationRuleVersion) : ActivationTimedState :=
  ⟨lore, ruleVersion, none, none⟩

def request (states : List ActivationTimedState) : ActivationRequest :=
  { Reserve.Sample.request with
    indexSnapshot := .new ⟨story, blank, 0, 0, matcherVersion⟩
      (Std.ExtTreeMap.insert ∅ lore sticky) {} {} {} {}
    timedState := states }

def opened (request : ActivationRequest) : Live where
  request := request
  session := (start request).toOption.getD {
    continuation := newContinuation request
    timedValid := ∅
    timedDelta := {}
    rejections := fun _ => none
    budget := {}
    state := .initial }

theorem opened_started {request : ActivationRequest}
    (accepted : (start request).toOption.isSome = true) :
    start request = .ok (opened request).session :=
  Result.eq_ok_of_isSome accepted _

/-- A round, and the body it asks for. -/
def told (states : List ActivationTimedState) : Live :=
  let live := opened (request states)
  let round := after (nextRound live.request externals live.session)
  { live with
    session := after (supplyBodies live.request externals [⟨lore, .fact, 1, ⟨"told"⟩⟩] round) }

def resumedRequest (states : List ActivationTimedState) : ActivationRequest :=
  { request states with continuation := some (told states).session.finalContinuation }

/-- The second session, which has nothing more to do. -/
def retold (states : List ActivationTimedState) : Live :=
  let live := opened (resumedRequest states)
  { live with session := after (nextRound live.request externals live.session) }

/-- What a session that has nothing pending finishes with. -/
def ended (live : Live) : ActivationResult :=
  { activated := rankedActivated live.session.continuation
    continuation := live.session.finalContinuation
    pendingTimedState := cleanupTimedState live.request live.session
    rejectionSummary := live.session.rejections
    stopReason := live.session.stopReason live.request
      (rankedActivated live.session.continuation).length }

theorem ended_finishes {live : Live} (idle : live.session.pending.isEmpty = true) :
    finish live.request live.session = .ok (ended live) := by
  unfold finish
  rw [idle]
  rfl

theorem told_calls (states : List ActivationTimedState) :
    Reaches (Live.Call externals) (opened (request states)) (told states) :=
  .tail (.single (.nextRound _)) (.supplyBodies _ _)

theorem retold_calls (states : List ActivationTimedState) :
    Reaches (Live.Call externals) (opened (resumedRequest states)) (retold states) :=
  .single (.nextRound _)

theorem keyed (states : List ActivationTimedState) : (request states).Keyed := by
  intro sourceId metadata known
  simp only [ActivationRequest.metadata, request, ActivationIndexSnapshot.new, get_insert] at known
  split at known
  · rename_i here
    cases known
    exact here
  · simp at known

/-- The second session deletes, as stale, what the first has written. -/
theorem stale_state_loses_activation :
    let states := [stored formerVersion]
    let merged := (ended (told states)).pendingTimedState.merge
      (ended (retold states)).pendingTimedState
    start (request states) = .ok (opened (request states)).session ∧
      Reaches (Live.Call externals) (opened (request states)) (told states) ∧
      finish (told states).request (told states).session = .ok (ended (told states)) ∧
      (resumedRequest states).continuation = some (ended (told states)).continuation ∧
      start (resumedRequest states) = .ok (opened (resumedRequest states)).session ∧
      Reaches (Live.Call externals) (opened (resumedRequest states)) (retold states) ∧
      finish (retold states).request (retold states).session = .ok (ended (retold states)) ∧
      (request states).metadata lore = some sticky ∧ sticky.timed ∧
      (opened (request states)).Freshly (told states) lore ∧
      ¬ merged.Writes lore ∧ lore ∈ merged.deletes := by
  intro states merged
  refine ⟨opened_started (by decide +kernel), told_calls _, ended_finishes (by decide +kernel), rfl,
    opened_started (by decide +kernel), retold_calls _, ended_finishes (by decide +kernel),
    by decide +kernel, .inl (by decide), ⟨by decide +kernel, by decide +kernel, by decide +kernel⟩,
    by decide +kernel, by decide +kernel⟩

/-- With a state of the present rule the activation is kept. -/
theorem current_state_keeps_activation :
    let states := [stored ⟨blank⟩]
    let merged := (ended (told states)).pendingTimedState.merge
      (ended (retold states)).pendingTimedState
    merged.Writes lore ∧ lore ∉ merged.deletes := by
  intro states merged
  have started : start (request states) = .ok (opened (request states)).session :=
    opened_started (by decide +kernel)
  have restarted : start (resumedRequest states) = .ok (opened (resumedRequest states)).session :=
    opened_started (by decide +kernel)
  have resumes : (opened (resumedRequest states)).request.continuation =
      some (ended (told states)).continuation := rfl
  have known : (request states).metadata lore = some sticky := by decide +kernel
  have fresh : (opened (request states)).Freshly (told states) lore :=
    ⟨by decide +kernel, by decide +kernel, by decide +kernel⟩
  refine (merged_delta_keeps (keyed states) started (told_calls states)
    (ended_finishes (by decide +kernel)) resumes rfl rfl restarted (retold_calls states)
    (ended_finishes (by decide +kernel)) known (.inl (by decide)) (.inl fresh)).mpr (.inr ?_)
  intro state member _
  rw [List.mem_singleton.mp member]
  rfl

end Windows.Sample

end Aise.Domain
