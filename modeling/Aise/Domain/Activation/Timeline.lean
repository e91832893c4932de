import Aise.Domain.Activation.Windows

/-! Windows over the turns of a story. Every turn runs a session on the stored states and
commits its delta: deletes, then upserts, then what no entry stands for any more is removed. -/
namespace Aise.Domain
open Effect Saturating Transition OrdMap

inductive StoreError where
  | constraintViolation (constraint : String)
  deriving DecidableEq

/-- What a row of `knowledge_entries` says about activation. -/
structure StoredRule where
  kind : KnowledgeKind
  ruleVersion : Option ActivationRuleVersion
  deriving DecidableEq

abbrev TimedRows := BTreeMap KnowledgeSourceId ActivationTimedState

/-- The rows of `knowledge_activation_timed_state` of a story, and of its entries. -/
structure TimedStore where
  rows : TimedRows
  entries : BTreeMap KnowledgeSourceId StoredRule

def upsertState (rows : TimedRows) (state : ActivationTimedState) : Except StoreError TimedRows :=
  if state.sourceId.kind = .memory then
    .error (.constraintViolation "activation_timed_state_memory")
  else .ok (rows.insert state.sourceId state)

/-- A turn number always fits the column, so the conversions cannot fail. -/
def applyActivationStateDelta (rows : TimedRows) (delta : PendingActivationStateDelta) :
    Except StoreError TimedRows :=
  delta.upserts.foldlM upsertState
    (delta.deletes.toList.foldl (fun rows sourceId => rows.erase sourceId) rows)

def reconcileActivationState (rows : TimedRows)
    (entries : BTreeMap KnowledgeSourceId StoredRule) : TimedRows :=
  rows.filter fun sourceId state => entries[sourceId]?.any fun entry =>
    entry.kind ≠ .memory && entry.ruleVersion = some state.ruleVersion

section
variable {rows next : TimedRows} {delta : PendingActivationStateDelta}
  {sourceId : KnowledgeSourceId} {state : ActivationTimedState}

theorem upsertStates_ok {states : List ActivationTimedState}
    (applied : states.foldlM upsertState rows = .ok next) :
    next = PendingActivationStateDelta.collect states rows := by
  induction states generalizing rows with
  | nil => exact (Except.ok.inj applied).symm
  | cons state states ih =>
    rw [List.foldlM_cons] at applied
    obtain ⟨between, first, applied⟩ := Result.bind_eq_ok applied
    unfold upsertState at first
    split at first
    · cases first
    · cases first
      exact ih applied

/-- Where a row comes from once a delta is applied. -/
theorem applied_row (applied : applyActivationStateDelta rows delta = .ok next)
    (found : next[sourceId]? = some state) :
    state ∈ delta.upserts ∧ state.sourceId = sourceId ∨
      ¬ delta.Writes sourceId ∧ sourceId ∉ delta.deletes ∧ rows[sourceId]? = some state := by
  rw [upsertStates_ok applied] at found
  rcases get_insertAll ActivationTimedState.sourceId delta.upserts found with written | ⟨silent, stored⟩
  · exact .inl written
  · rw [PendingActivationStateDelta.get_erased] at stored
    split at stored
    · cases stored
    · rename_i undeleted
      exact .inr ⟨silent, mt Std.ExtTreeSet.mem_toList.mpr undeleted, stored⟩

theorem applied_kept (applied : applyActivationStateDelta rows delta = .ok next)
    (silent : ¬ delta.Writes sourceId) (undeleted : sourceId ∉ delta.deletes) :
    next[sourceId]? = rows[sourceId]? := by
  rw [upsertStates_ok applied, PendingActivationStateDelta.collect,
    get_insertAll_of_not_mem ActivationTimedState.sourceId _ silent,
    PendingActivationStateDelta.get_erased, if_neg (mt Std.ExtTreeSet.mem_toList.mp undeleted)]

theorem applied_written (applied : applyActivationStateDelta rows delta = .ok next)
    (written : delta.Writes sourceId) :
    ∃ state ∈ delta.upserts, state.sourceId = sourceId ∧ next[sourceId]? = some state := by
  have member : sourceId ∈ next := by
    rw [upsertStates_ok applied]
    exact (mem_insertAll ActivationTimedState.sourceId _ _).mpr (.inl written)
  obtain ⟨state, found⟩ := mem_iff_exists.mp member
  rcases applied_row applied found with ⟨among, own⟩ | ⟨silent, _⟩
  · exact ⟨state, among, own, found⟩
  · exact absurd written silent

end

theorem reconciled_row {rows : TimedRows} {entries : BTreeMap KnowledgeSourceId StoredRule}
    {sourceId : KnowledgeSourceId} {state : ActivationTimedState} :
    (reconcileActivationState rows entries)[sourceId]? = some state ↔
      rows[sourceId]? = some state ∧ ∃ entry, entries[sourceId]? = some entry ∧
        entry.kind ≠ .memory ∧ entry.ruleVersion = some state.ruleVersion := by
  rw [reconcileActivationState, Std.ExtTreeMap.getElem?_filter', Option.filter_eq_some_iff]
  refine and_congr Iff.rfl ?_
  rw [Option.any_eq_true]
  simp only [Bool.and_eq_true, decide_eq_true_eq, ne_eq]

namespace ActivationTimedState

/-- Whether the sticky window covers a turn. -/
def stickyAt (state : ActivationTimedState) (turn : TurnNumber) : Bool :=
  state.stickyThroughTurn.any fun through => through.get ≥ turn.get

def coolingAt (state : ActivationTimedState) (turn : TurnNumber) : Bool :=
  state.cooldownThroughTurn.any fun through => through.get ≥ turn.get

/-- What can be stored: the cooldown does not end before the sticky window. -/
def Sane (state : ActivationTimedState) : Prop := state.crossed = false

end ActivationTimedState

section
variable {request : ActivationRequest} {metadata : ActivationEntryMetadata}
  {state : ActivationTimedState} {turn : TurnNumber}

/-- A window that is over stays over. -/
theorem over_later {through : Option TurnNumber} {later : TurnNumber}
    (ended : through.any (fun last => last.get ≥ turn.get) = false)
    (after : turn.get.toNat ≤ later.get.toNat) :
    through.any (fun last => last.get ≥ later.get) = false := by
  cases through with
  | none => rfl
  | some last =>
    simp only [Option.any_some, decide_eq_false_iff_not, ge_iff_le, UInt64.le_iff_toNat_le] at ended ⊢
    omega

theorem expired_iff : KnowledgeActivationSession.expired request state = true ↔
    state.stickyAt request.turnNumber = false ∧ state.coolingAt request.turnNumber = false := by
  have passed (through : Option TurnNumber) :
      through.all (fun through => through.get < request.turnNumber.get) = true ↔
        through.any (fun through => through.get ≥ request.turnNumber.get) = false := by
    cases through with
    | none => simp
    | some value => simp
  simp only [KnowledgeActivationSession.expired, ActivationTimedState.stickyAt,
    ActivationTimedState.coolingAt, Bool.and_eq_true, passed]

/-- The last turn of a window that fits. -/
theorem throughTurn_covers {length : UInt16} {through : UInt64} (set : length ≠ 0)
    (positive : 0 < through.toNat) (fits : through.toNat ≤ 2 ^ 63 - 1) :
    (KnowledgeActivationSession.throughTurn length through).any (fun last => last.get ≥ turn.get) =
      decide (turn.get.toNat ≤ through.toNat) := by
  have accepted : through ≠ 0 ∧ through.toNat ≤ 2 ^ 63 - 1 := by
    refine ⟨fun zero => ?_, fits⟩
    rw [zero] at positive
    exact absurd positive (by decide)
  rw [KnowledgeActivationSession.throughTurn, if_neg set, turnNumber, dif_pos accepted]
  exact decide_eq_decide.mpr UInt64.le_iff_toNat_le

theorem untimed_zero (untimed : ¬ metadata.timed) :
    metadata.rule.timing.stickyTurns.toNat = 0 ∧ metadata.rule.timing.cooldownTurns.toNat = 0 := by
  simp only [ActivationEntryMetadata.timed, not_or, not_not] at untimed
  rw [untimed.1, untimed.2]
  exact ⟨rfl, rfl⟩

/-- The last turn of both windows is one that can be stored. -/
def Lasting (request : ActivationRequest) (metadata : ActivationEntryMetadata) : Prop :=
  request.turnNumber.get.toNat + metadata.rule.timing.stickyTurns.toNat +
    metadata.rule.timing.cooldownTurns.toNat ≤ 2 ^ 63 - 1

theorem toNat_sticky (lasting : Lasting request metadata) :
    (add request.turnNumber.get metadata.rule.timing.stickyTurns.toUInt64).toNat =
      request.turnNumber.get.toNat + metadata.rule.timing.stickyTurns.toNat := by
  unfold Lasting at lasting
  have large : 2 ^ 63 - 1 ≤ max64 := by decide
  rw [toNat_add, UInt16.toNat_toUInt64]
  omega

theorem toNat_cooldown (lasting : Lasting request metadata) :
    (add (add request.turnNumber.get metadata.rule.timing.stickyTurns.toUInt64)
      metadata.rule.timing.cooldownTurns.toUInt64).toNat =
      request.turnNumber.get.toNat + metadata.rule.timing.stickyTurns.toNat +
        metadata.rule.timing.cooldownTurns.toNat := by
  have sticky := toNat_sticky lasting
  unfold Lasting at lasting
  have large : 2 ^ 63 - 1 ≤ max64 := by decide
  rw [toNat_add, sticky, UInt16.toNat_toUInt64]
  omega

theorem turn_positive (turn : TurnNumber) : 0 < turn.get.toNat := by
  refine Nat.pos_of_ne_zero fun zero => turn.accepted.1 ?_
  exact UInt64.toNat_inj.mp zero

theorem opened_stickyAt (lasting : Lasting request metadata)
    (later : request.turnNumber.get.toNat < turn.get.toNat) :
    (openedWindows request metadata).stickyAt turn = decide (turn.get.toNat ≤
      request.turnNumber.get.toNat + metadata.rule.timing.stickyTurns.toNat) := by
  have last := toNat_sticky lasting
  have positive := turn_positive request.turnNumber
  unfold Lasting at lasting
  simp only [ActivationTimedState.stickyAt, openedWindows]
  by_cases set : metadata.rule.timing.stickyTurns = 0
  · simp only [set, KnowledgeActivationSession.throughTurn, if_pos, Option.any_none]
    exact (decide_eq_false (by simpa using later)).symm
  · rw [throughTurn_covers set (by omega) (by omega), last]

theorem opened_coolingAt (lasting : Lasting request metadata)
    (later : request.turnNumber.get.toNat + metadata.rule.timing.stickyTurns.toNat <
      turn.get.toNat) :
    (openedWindows request metadata).coolingAt turn = decide (turn.get.toNat ≤
      request.turnNumber.get.toNat + metadata.rule.timing.stickyTurns.toNat +
        metadata.rule.timing.cooldownTurns.toNat) := by
  have last := toNat_cooldown lasting
  have positive := turn_positive request.turnNumber
  unfold Lasting at lasting
  simp only [ActivationTimedState.coolingAt, openedWindows]
  by_cases set : metadata.rule.timing.cooldownTurns = 0
  · simp only [set, KnowledgeActivationSession.throughTurn, if_pos, Option.any_none]
    exact (decide_eq_false (by simpa using later)).symm
  · rw [throughTurn_covers set (by omega) (by omega), last]

theorem throughTurn_get {length : UInt16} {through : UInt64} {last : TurnNumber}
    (set : KnowledgeActivationSession.throughTurn length through = some last) :
    last.get = through := by
  unfold KnowledgeActivationSession.throughTurn turnNumber at set
  split at set
  · cases set
  · split at set
    · cases set
      rfl
    · cases set

theorem opened_sane : (openedWindows request metadata).Sane := by
  unfold ActivationTimedState.Sane ActivationTimedState.crossed
  split
  · rename_i sticky cooldown first second
    rw [throughTurn_get first, throughTurn_get second, decide_eq_false_iff_not, UInt64.not_lt,
      UInt64.le_iff_toNat_le, toNat_add (add _ _)]
    have bound := toNat_le (add request.turnNumber.get metadata.rule.timing.stickyTurns.toUInt64)
    omega
  · rfl

end

/-- Whether a source may be activated now, as far as its windows go. -/
def Ready (request : ActivationRequest) (timedValid : TimedRows) (sourceId : KnowledgeSourceId) :
    Prop :=
  ∀ state, timedValid[sourceId]? = some state →
    state.stickyAt request.turnNumber = true ∨ state.coolingAt request.turnNumber = false

/-- Windows are minded: what cools down is not activated, and what is sticky is turned down
neither by probability nor for cooling down. -/
structure Standing.Minded (request : ActivationRequest) (s : Standing) : Prop where
  pending : ∀ (sourceId : KnowledgeSourceId) (candidate : Candidate),
    s.pending[sourceId]? = some candidate → Ready request s.timedValid sourceId
  activated : ∀ sourceId, sourceId ∈ s.activated → Ready request s.timedValid sourceId
  exempt : ∀ (sourceId : KnowledgeSourceId) (reason : ActivationRejectionReason),
    stickyNow request s.timedValid sourceId = true →
      s.terminalRejections[sourceId]? = some reason → reason ≠ .probability ∧ reason ≠ .cooldown

section
variable {request : ActivationRequest} {externals : Externals}
  {allow : Refusal → KnowledgeSourceId → Activated → Prop} {s t : Standing}
  {sourceId : KnowledgeSourceId} {reason : ActivationRejectionReason}

theorem Standing.Minded.reject (minded : s.Minded request)
    (exempt : stickyNow request s.timedValid sourceId = true →
      reason ≠ .probability ∧ reason ≠ .cooldown) : (s.reject sourceId reason).Minded request := by
  refine ⟨minded.pending, minded.activated, fun other given sticky found => ?_⟩
  simp only [Standing.reject, get_insert] at found
  split at found
  · rename_i here
    cases found
    exact exempt (here ▸ sticky)
  · exact minded.exempt other given sticky found

theorem Entrant.ready {metadata : ActivationEntryMetadata} {candidate : Candidate}
    (entrant : Entrant request s metadata candidate) :
    Ready request s.timedValid candidate.sourceId := by
  intro state stored
  cases loose : candidate.sticky with
  | true =>
    have sticky := entrant.sticky
    rw [loose, stickyNow, stored, Option.any_some] at sticky
    exact .inl sticky.symm
  | false =>
    refine .inr ?_
    cases set : state.cooldownThroughTurn with
    | none => simp only [ActivationTimedState.coolingAt, set, Option.any_none]
    | some through =>
      have ended := entrant.warm loose state stored through set
      simpa only [ActivationTimedState.coolingAt, set, Option.any_some, decide_eq_false_iff_not,
        ge_iff_le, UInt64.not_le] using ended

theorem RoundChange.minded (change : RoundChange request externals allow s t)
    (minded : s.Minded request) : t.Minded request := by
  cases change with
  | shed sourceId idle allowed => exact minded.reject fun _ => ⟨by decide, by decide⟩
  | refuse sourceId reason inactive absent loose =>
    refine minded.reject fun sticky => ⟨fun drawn => ?_, fun cooling => ?_⟩
    · exact absurd sticky (by rw [loose (.inl drawn)]; decide)
    · exact absurd sticky (by rw [loose (.inr cooling)]; decide)
  | extend sourceId existing call usage found =>
    refine ⟨minded.pending, fun other member => ?_, minded.exempt⟩
    exact minded.activated other (Std.ExtTreeMap.mem_modify.mp member)
  | enter metadata candidate entrant =>
    refine ⟨fun other entered found => ?_, minded.activated, minded.exempt⟩
    dsimp only at found
    rw [get_insert] at found
    split at found
    · rename_i here
      exact here ▸ entrant.ready
    · exact minded.pending other entered found
  | _ => exact ⟨minded.pending, minded.activated, minded.exempt⟩

theorem Standing.Minded.erase (minded : s.Minded request) :
    { s with pending := s.pending.erase sourceId }.Minded request := by
  refine ⟨fun other candidate found => ?_, minded.activated, minded.exempt⟩
  dsimp only at found
  rw [get_erase] at found
  split at found
  · cases found
  · exact minded.pending other candidate found

theorem BodyChange.minded (change : BodyChange request s t) (minded : s.Minded request) :
    t.Minded request := by
  cases change with
  | lose sourceId => exact minded.erase
  | drop sourceId candidate reason found shortage =>
    refine minded.erase.reject fun _ => ?_
    rcases shortage with rfl | rfl
    · exact ⟨by decide, by decide⟩
    · exact ⟨by decide, by decide⟩
  | activate metadata candidate body call usage evidence found =>
    refine ⟨minded.erase.pending, fun other member => ?_, minded.exempt⟩
    rcases Std.ExtTreeMap.mem_insert.mp member with here | old
    · rw [← compare_eq_iff_eq.mp here]
      exact minded.pending _ candidate found
    · exact minded.activated other old

theorem Change.minded (change : Change request externals allow s t) (minded : s.Minded request) :
    t.Minded request := by
  cases change with
  | round change => exact change.minded minded
  | body change => exact change.minded minded
  | recursion change =>
    cases change <;> exact ⟨minded.pending, minded.activated, minded.exempt⟩

end

namespace Live
open KnowledgeActivationSession
variable {externals : Externals} {first last : Live}

theorem calls_minded (opens : first.Opens) (calls : Reaches (Call externals) first last) :
    last.session.standing.Minded first.request := by
  have opened := start_started opens.2
  have chosen := opens.continuation
  refine Transition.invariant (P := fun t : Standing => t.Minded first.request)
    (fun held change => change.minded held) (calls_trace calls).2
    ⟨fun _ _ found => ?_, fun _ member => ?_, fun _ _ _ found => ?_⟩
  · simp [standing, opened.pending] at found
  · simp [standing, chosen, newContinuation] at member
  · simp [standing, chosen, newContinuation] at found

end Live

/-- The store has an entry for the source, with a rule of that version. -/
def TimedStore.Holds (store : TimedStore) (sourceId : KnowledgeSourceId)
    (ruleVersion : ActivationRuleVersion) : Prop :=
  ∃ entry, store.entries[sourceId]? = some entry ∧ entry.kind ≠ .memory ∧
    entry.ruleVersion = some ruleVersion

/-- A turn that was committed: a session of its own on what is stored, on an index of the
stored entries, and its delta applied. The commit may change the entries as well. -/
structure CommittedTurn (externals : Externals) (before after : TimedStore) (first last : Live) :
    Prop where
  opens : first.Opens
  keyed : first.request.Keyed
  loaded : first.request.timedState.Perm (valuesOf before.rows)
  indexed : ∀ sourceId metadata, first.request.metadata sourceId = some metadata →
    before.Holds sourceId metadata.ruleVersion
  calls : Reaches (Live.Call externals) first last
  committed : ∃ result rows, KnowledgeActivationSession.finish last.request last.session = .ok result ∧
    applyActivationStateDelta before.rows result.pendingTimedState = .ok rows ∧
    after.rows = reconcileActivationState rows after.entries

/-- Every row stands under its own source, and its windows are not crossed. -/
structure Sound (rows : TimedRows) : Prop where
  own : PendingActivationStateDelta.Owned rows
  sane : ∀ (sourceId : KnowledgeSourceId) (state : ActivationTimedState),
    rows[sourceId]? = some state → state.Sane

theorem Sound.loaded {states : List ActivationTimedState} {rows : TimedRows}
    {state : ActivationTimedState} {sourceId : KnowledgeSourceId} (sound : Sound rows)
    (loaded : states.Perm (valuesOf rows)) :
    (state ∈ states ∧ state.sourceId = sourceId) ↔ rows[sourceId]? = some state := by
  rw [loaded.mem_iff, mem_valuesOf]
  constructor
  · rintro ⟨⟨key, found⟩, rfl⟩
    rw [sound.own key state found]
    exact found
  · intro found
    exact ⟨⟨sourceId, found⟩, sound.own sourceId state found⟩

namespace CommittedTurn
open KnowledgeActivationSession
variable {externals : Externals} {before after : TimedStore} {first last : Live}
  {sourceId : KnowledgeSourceId} {state : ActivationTimedState} {metadata : ActivationEntryMetadata}

theorem delta {result : ActivationResult} (turn : CommittedTurn externals before after first last)
    (finished : finish last.request last.session = .ok result) :
    Live.Delta first last result.pendingTimedState :=
  Live.session_delta turn.keyed turn.opens.2 turn.calls finished

/-- The session goes by the rows that are of the present rules. -/
theorem valid (turn : CommittedTurn externals before after first last) (sound : Sound before.rows) :
    first.session.timedValid[sourceId]? = some state ↔
      before.rows[sourceId]? = some state ∧ ¬ first.request.Stale state := by
  rw [(timedView_ok (start_started turn.opens.2).timed).valid, ← and_assoc, sound.loaded turn.loaded]

theorem sound (turn : CommittedTurn externals before after first last) (sound : Sound before.rows) :
    Sound after.rows := by
  obtain ⟨result, rows, finished, applied, committed⟩ := turn.committed
  have told := turn.delta finished
  have each (sourceId : KnowledgeSourceId) (state : ActivationTimedState)
      (found : after.rows[sourceId]? = some state) : state.sourceId = sourceId ∧ state.Sane := by
    rw [committed] at found
    rcases applied_row applied (reconciled_row.mp found).1 with ⟨member, own⟩ | ⟨_, _, stored⟩
    · obtain ⟨_, _, _, same, _⟩ := (told.upserts state).mp member
      exact ⟨own, same ▸ opened_sane⟩
    · exact ⟨sound.own sourceId state stored, sound.sane sourceId state stored⟩
  exact ⟨fun sourceId state found => (each sourceId state found).1,
    fun sourceId state found => (each sourceId state found).2⟩

/-- A fresh activation is stored with its windows. -/
theorem writes (turn : CommittedTurn externals before after first last)
    (known : first.request.metadata sourceId = some metadata) (timed : metadata.timed)
    (fresh : first.Freshly last sourceId) (holds : after.Holds sourceId metadata.ruleVersion) :
    after.rows[sourceId]? = some (openedWindows first.request metadata) := by
  obtain ⟨result, rows, finished, applied, committed⟩ := turn.committed
  have told := turn.delta finished
  obtain ⟨written, _⟩ := told.writes turn.keyed known timed fresh
  obtain ⟨state, member, own, stored⟩ := applied_written applied written
  obtain ⟨other, here, _, same, _⟩ := (told.upserts state).mp member
  rw [own, known] at here
  cases here
  rw [committed, reconciled_row, stored, same]
  exact ⟨rfl, holds⟩

/-- What is sticky or cools down is not activated afresh. -/
theorem unfresh (turn : CommittedTurn externals before after first last)
    (sound : Sound before.rows) (stored : before.rows[sourceId]? = some state)
    (current : ¬ first.request.Stale state)
    (lasts : state.stickyAt first.request.turnNumber = true ∨
      state.coolingAt first.request.turnNumber = true) : ¬ first.Freshly last sourceId := by
  intro fresh
  have view := (turn.valid sound).mpr ⟨stored, current⟩
  have loose : state.stickyAt first.request.turnNumber = false := by
    have here : first.session.standing.timedValid[sourceId]? = some state := view
    have loose := fresh.loose
    rwa [stickyNow, here] at loose
  have minded := Live.calls_minded turn.opens turn.calls
  have same := (Live.calls_timed turn.keyed turn.opens.2 turn.calls).valid
  have ready := minded.activated sourceId fresh.activated
  rw [same] at ready
  rcases ready state view with sticky | warm
  · rw [loose] at sticky
    cases sticky
  · rcases lasts with sticky | cooling
    · rw [loose] at sticky
      cases sticky
    · rw [warm] at cooling
      cases cooling

/-- A row whose windows last stays as it is. -/
theorem keeps (turn : CommittedTurn externals before after first last)
    (sound : Sound before.rows) (stored : before.rows[sourceId]? = some state)
    (current : ¬ first.request.Stale state)
    (lasts : state.stickyAt first.request.turnNumber = true ∨
      state.coolingAt first.request.turnNumber = true)
    (holds : after.Holds sourceId state.ruleVersion) : after.rows[sourceId]? = some state := by
  obtain ⟨result, rows, finished, applied, committed⟩ := turn.committed
  have told := turn.delta finished
  have only (other : ActivationTimedState) (member : other ∈ first.request.timedState)
      (own : other.sourceId = sourceId) : other = state := by
    have found := (sound.loaded turn.loaded).mp ⟨member, own⟩
    exact Option.some.inj (found.symm.trans stored)
  have silent : ¬ result.pendingTimedState.Writes sourceId := by
    intro written
    obtain ⟨other, member, rfl⟩ := List.mem_map.mp written
    obtain ⟨_, _, _, _, fresh⟩ := (told.upserts other).mp member
    exact turn.unfresh sound stored current lasts fresh
  have undeleted : sourceId ∉ result.pendingTimedState.deletes := by
    intro deleted
    rcases (told.deletes sourceId).mp deleted with
      ⟨⟨other, member, own, stale⟩, _⟩ | ⟨other, member, own, _, ended, _⟩
    · exact current (only other member own ▸ stale)
    · rw [only other member own, expired_iff] at ended
      rcases lasts with sticky | cooling
      · exact absurd sticky (by simp [ended.1])
      · exact absurd cooling (by simp [ended.2])
  rw [committed, reconciled_row, applied_kept applied silent undeleted]
  exact ⟨stored, holds⟩

/-- A row whose windows are over goes, unless its source is activated afresh. -/
theorem clears (turn : CommittedTurn externals before after first last)
    (sound : Sound before.rows)
    (ended : ∀ state, before.rows[sourceId]? = some state → ¬ first.request.Stale state →
      expired first.request state = true) :
    after.rows[sourceId]? = none ∨ first.Freshly last sourceId := by
  obtain ⟨result, rows, finished, applied, committed⟩ := turn.committed
  have told := turn.delta finished
  by_cases active : sourceId ∈ last.session.continuation.activated
  · refine .inr ⟨active, ?_, ?_⟩
    · simp [standing, turn.opens.continuation, newContinuation]
    · unfold stickyNow
      cases view : first.session.standing.timedValid[sourceId]? with
      | none => rfl
      | some state =>
        obtain ⟨stored, current⟩ := (turn.valid sound).mp view
        exact (expired_iff.mp (ended state stored current)).1
  · refine .inl (Option.eq_none_iff_forall_ne_some.mpr fun state found => ?_)
    rw [committed] at found
    rcases applied_row applied (reconciled_row.mp found).1 with ⟨member, own⟩ | ⟨silent, kept, stored⟩
    · obtain ⟨_, _, _, _, fresh⟩ := (told.upserts state).mp member
      exact active (own ▸ fresh.activated)
    · obtain ⟨member, own⟩ := (sound.loaded turn.loaded).mpr stored
      refine kept ((told.deletes sourceId).mpr ?_)
      by_cases stale : first.request.Stale state
      · exact .inl ⟨⟨state, member, own, stale⟩, silent⟩
      · exact .inr ⟨state, member, own, stale, ended state stored stale, active⟩

/-- What is stored after an activation that opens no windows was over before. -/
theorem untouched (turn : CommittedTurn externals before after first last)
    (sound : Sound before.rows) (known : first.request.metadata sourceId = some metadata)
    (untimed : ¬ metadata.timed) (fresh : first.Freshly last sourceId)
    (stored : after.rows[sourceId]? = some state) :
    state.stickyAt first.request.turnNumber = false ∧
      state.coolingAt first.request.turnNumber = false := by
  obtain ⟨result, rows, finished, applied, committed⟩ := turn.committed
  have told := turn.delta finished
  rw [committed] at stored
  rcases applied_row applied (reconciled_row.mp stored).1 with ⟨member, own⟩ | ⟨silent, kept, row⟩
  · obtain ⟨found, here, timed, _, _⟩ := (told.upserts state).mp member
    rw [own, known] at here
    cases here
    exact absurd timed untimed
  · have current : ¬ first.request.Stale state := by
      intro stale
      obtain ⟨member, own⟩ := (sound.loaded turn.loaded).mpr row
      exact kept ((told.deletes sourceId).mpr (.inl ⟨⟨state, member, own, stale⟩, silent⟩))
    have lasting := mt (turn.unfresh sound row current) (not_not.mpr fresh)
    simpa only [not_or, Bool.not_eq_true] using lasting

end CommittedTurn

section
variable {request : ActivationRequest}

/-- States of distinct sources that are not crossed are all taken over. -/
theorem viewStates_accepted {states : List ActivationTimedState} {view : TimedView}
    (distinct : (states.map (·.sourceId)).Nodup)
    (fresh : ∀ state ∈ states, state.sourceId ∉ view.valid)
    (sane : ∀ state ∈ states, state.Sane) :
    ∃ next, states.foldlM (viewState request) view = .ok next := by
  induction states generalizing view with
  | nil => exact ⟨view, rfl⟩
  | cons state states ih =>
    obtain ⟨apart, distinct⟩ := List.nodup_cons.mp distinct
    obtain ⟨unseen, fresh⟩ := List.forall_mem_cons.mp fresh
    obtain ⟨uncrossed, sane⟩ := List.forall_mem_cons.mp sane
    have first : ∃ next, viewState request view state = .ok next ∧
        ∀ other, other ∈ next.valid → other ∈ view.valid ∨ other = state.sourceId := by
      unfold viewState
      dsimp only
      rw [if_neg (by simpa using unseen)]
      split
      · exact ⟨_, rfl, fun other member => .inl member⟩
      · split
        · exact ⟨_, rfl, fun other member => .inl member⟩
        · rw [uncrossed, if_neg Bool.false_ne_true]
          refine ⟨_, rfl, fun other member => ?_⟩
          rcases Std.ExtTreeMap.mem_insert.mp member with here | old
          · exact .inr (compare_eq_iff_eq.mp here).symm
          · exact .inl old
    obtain ⟨next, accepted, grown⟩ := first
    rw [List.foldlM_cons, accepted]
    refine ih distinct (fun other member seen => ?_) sane
    rcases grown _ seen with old | same
    · exact fresh other member old
    · exact apart (List.mem_map.mpr ⟨other, member, same⟩)

/-- No row that can be stored stops a session from starting. -/
theorem Sound.start {rows : TimedRows} (sound : Sound rows)
    (loaded : request.timedState.Perm (valuesOf rows)) :
    KnowledgeActivationSession.start request ≠ .error .timedStateInconsistent := by
  have viewed : ∃ view, timedView request = .ok view := by
    refine viewStates_accepted ?_ (fun state _ seen => by simp at seen) fun state member => ?_
    · exact (loaded.map _).nodup_iff.mpr (nodup_valuesOf sound.own)
    · obtain ⟨key, found⟩ := mem_valuesOf.mp (loaded.mem_iff.mp member)
      exact sound.sane key state found
  obtain ⟨view, viewed⟩ := viewed
  intro failed
  unfold KnowledgeActivationSession.start at failed
  rcases Result.bind_eq_error failed with refused | ⟨_, _, failed⟩
  · unfold validateRequest at refused
    dsimp only at refused
    repeat' split at refused
    all_goals cases refused
  · rcases Result.bind_eq_error failed with refused | ⟨_, _, failed⟩
    · unfold chooseContinuation at refused
      repeat' split at refused
      all_goals cases refused
    · rw [viewed] at failed
      rcases Result.bind_eq_error failed with refused | ⟨_, _, failed⟩
      · cases refused
      · rcases Result.bind_eq_error failed with refused | ⟨_, _, failed⟩
        · unfold budgetUsage at refused
          split at refused
          · cases refused
          · obtain ⟨_, _, _, refused⟩ := Result.foldlM_eq_error refused
            unfold restoreEntry at refused
            split at refused
            · cases refused
            · cases refused
        · cases failed

end

/-- Whenever a session collects its candidates, what is sticky is one of them. -/
theorem collects_sticky {request : ActivationRequest} {externals : Externals}
    {session later : KnowledgeActivationSession} {candidates : Candidates}
    {sourceId : KnowledgeSourceId} (idle : session.pending = ∅)
    (sticky : stickyNow request session.timedValid sourceId = true)
    (collected : KnowledgeActivationSession.collectCandidates request externals session =
      .ok candidates later) :
    ∃ candidate, candidates[sourceId]? = some candidate ∧ candidate.sticky = true := by
  have allowed : KnowledgeActivationSession.RoundAllowed request externals (fun _ _ _ => True)
      session :=
    KnowledgeActivationSession.roundAllowed_of_forall (fun _ _ _ => trivial) session
  have gathered := KnowledgeActivationSession.collectCandidates_traces session
    ⟨⟨.refl, idle⟩, allowed.1⟩
  rw [collected] at gathered
  refine gathered.stuck sourceId ?_
  rw [(RoundChange.frame_reaches gathered.held.trace).timedValid]
  exact sticky

/-- Committed turns of a story, one after the other. The turn at a position runs on the store
at that position and leaves the next one. -/
structure Timeline (externals : Externals) (length : Nat) (store : Nat → TimedStore)
    (first last : Nat → Live) : Prop where
  empty : (store 0).rows = ∅
  committed : ∀ n < length, CommittedTurn externals (store n) (store (n + 1)) (first n) (last n)
  consecutive : ∀ n, n + 1 < length → (first (n + 1)).request.turnNumber.get.toNat =
    (first n).request.turnNumber.get.toNat + 1

/-- The entry is there, with the rule it had, in the turns after one position and up to another. -/
def Unchanged (first : Nat → Live) (n m : Nat) (sourceId : KnowledgeSourceId)
    (metadata : ActivationEntryMetadata) : Prop :=
  ∀ k, n < k → k ≤ m → ∃ found, (first k).request.metadata sourceId = some found ∧
    found.rule = metadata.rule ∧ found.ruleVersion = metadata.ruleVersion

section
variable {first : Nat → Live} {n m : Nat} {sourceId : KnowledgeSourceId}
  {metadata : ActivationEntryMetadata}

theorem Unchanged.mono {k : Nat} (unchanged : Unchanged first n m sourceId metadata) (less : k ≤ m) :
    Unchanged first n k sourceId metadata :=
  fun i after before => unchanged i after (before.trans less)

/-- A state of the rule is none of another rule as long as the rule does not change. -/
theorem Unchanged.current {state : ActivationTimedState}
    (unchanged : Unchanged first n m sourceId metadata) (later : n < m)
    (own : state.sourceId = sourceId) (version : state.ruleVersion = metadata.ruleVersion) :
    ¬ (first m).request.Stale state := by
  intro stale
  obtain ⟨found, known, _, same⟩ := unchanged m later (Nat.le_refl m)
  rw [← own] at known
  exact stale found known (version.trans same.symm)

end

namespace Timeline
open KnowledgeActivationSession
variable {externals : Externals} {length : Nat} {store : Nat → TimedStore}
  {first last : Nat → Live} {n m : Nat} {sourceId : KnowledgeSourceId}
  {metadata : ActivationEntryMetadata}

theorem sound (history : Timeline externals length store first last) (inside : n ≤ length) :
    Sound (store n).rows := by
  induction n with
  | zero =>
    rw [history.empty]
    exact ⟨fun _ _ found => by simp at found, fun _ _ found => by simp at found⟩
  | succ n ih => exact (history.committed n inside).sound (ih (Nat.le_of_succ_le inside))

theorem number (history : Timeline externals length store first last) (later : n ≤ m)
    (inside : m < length) : (first m).request.turnNumber.get.toNat =
      (first n).request.turnNumber.get.toNat + (m - n) := by
  induction m, later using Nat.le_induction with
  | base => simp
  | succ m later ih =>
    rw [history.consecutive m inside, ih (Nat.lt_of_succ_lt inside)]
    omega

theorem holds (history : Timeline externals length store first last) (inside : m < length)
    (later : n < m) (unchanged : Unchanged first n m sourceId metadata) :
    (store m).Holds sourceId metadata.ruleVersion := by
  obtain ⟨found, known, _, version⟩ := unchanged m later (Nat.le_refl m)
  rw [← version]
  exact (history.committed m inside).indexed sourceId found known

/-- As long as its windows last, what was activated is sticky or cools down. -/
theorem lasts (lasting : Lasting (first n).request metadata)
    (number : (first m).request.turnNumber.get.toNat =
      (first n).request.turnNumber.get.toNat + (m - n)) (later : n < m)
    (within : m ≤ n + metadata.rule.timing.stickyTurns.toNat +
      metadata.rule.timing.cooldownTurns.toNat) :
    (openedWindows (first n).request metadata).stickyAt (first m).request.turnNumber = true ∨
      (openedWindows (first n).request metadata).coolingAt (first m).request.turnNumber = true := by
  by_cases sticky : m ≤ n + metadata.rule.timing.stickyTurns.toNat
  · left
    rw [opened_stickyAt lasting (by omega), decide_eq_true_eq]
    omega
  · right
    rw [opened_coolingAt lasting (by omega), decide_eq_true_eq]
    omega

/-- The windows of an activation stay stored until they are over. -/
theorem row (history : Timeline externals length store first last) (inside : m < length)
    (later : n < m) (known : (first n).request.metadata sourceId = some metadata)
    (timed : metadata.timed) (lasting : Lasting (first n).request metadata)
    (fresh : (first n).Freshly (last n) sourceId)
    (unchanged : Unchanged first n m sourceId metadata)
    (within : m ≤ n + metadata.rule.timing.stickyTurns.toNat +
      metadata.rule.timing.cooldownTurns.toNat + 1) :
    (store m).rows[sourceId]? = some (openedWindows (first n).request metadata) := by
  have own := (history.committed n (later.trans inside)).keyed sourceId metadata known
  induction m, later using Nat.le_induction with
  | base =>
    exact (history.committed n (Nat.lt_of_succ_lt inside)).writes known timed fresh
      (history.holds inside (Nat.lt_succ_self n) unchanged)
  | succ m later ih =>
    have before := Nat.lt_of_succ_lt inside
    have earlier : Unchanged first n m sourceId metadata := Unchanged.mono unchanged (Nat.le_succ m)
    have stored := ih before earlier (by omega)
    have number := history.number (Nat.le_of_lt later) before
    exact (history.committed m before).keeps (history.sound (Nat.le_of_lt before)) stored
      (earlier.current later own rfl) (lasts lasting number later (by omega))
      (history.holds inside (by omega) unchanged)

/-- Once the windows are over, what is stored for the source is over as well. -/
theorem outlasted (history : Timeline externals length store first last) (inside : m < length)
    (known : (first n).request.metadata sourceId = some metadata)
    (lasting : Lasting (first n).request metadata) (fresh : (first n).Freshly (last n) sourceId)
    (unchanged : Unchanged first n m sourceId metadata)
    (ends : m = n + metadata.rule.timing.stickyTurns.toNat +
      metadata.rule.timing.cooldownTurns.toNat + 1)
    {state : ActivationTimedState} (stored : (store m).rows[sourceId]? = some state) :
    expired (first m).request state = true := by
  have number := history.number (n := n) (m := m) (by omega) inside
  rw [expired_iff]
  by_cases timed : metadata.timed
  · have row := history.row inside (by omega) known timed lasting fresh unchanged (by omega)
    cases Option.some.inj (stored.symm.trans row)
    rw [opened_stickyAt lasting (by omega), opened_coolingAt lasting (by omega)]
    exact ⟨decide_eq_false (by omega), decide_eq_false (by omega)⟩
  · have zero := untimed_zero timed
    have next : m = n + 1 := by omega
    subst next
    have before := Nat.lt_of_succ_lt inside
    obtain ⟨sticky, cooling⟩ := (history.committed n before).untouched
      (history.sound (Nat.le_of_lt before)) known timed fresh stored
    exact ⟨over_later sticky (by omega), over_later cooling (by omega)⟩

/-- The session of a later turn goes by the windows of the activation. -/
theorem view (history : Timeline externals length store first last) (inside : m < length)
    (later : n < m) (known : (first n).request.metadata sourceId = some metadata)
    (lasting : Lasting (first n).request metadata) (fresh : (first n).Freshly (last n) sourceId)
    (unchanged : Unchanged first n m sourceId metadata)
    (within : m ≤ n + metadata.rule.timing.stickyTurns.toNat +
      metadata.rule.timing.cooldownTurns.toNat) :
    (first m).session.timedValid[sourceId]? = some (openedWindows (first n).request metadata) := by
  have timed : metadata.timed := by
    by_contra untimed
    have zero := untimed_zero untimed
    omega
  have own := (history.committed n (later.trans inside)).keyed sourceId metadata known
  have row := history.row inside later known timed lasting fresh unchanged (by omega)
  exact ((history.committed m inside).valid (history.sound (Nat.le_of_lt inside))).mpr
    ⟨row, unchanged.current later own rfl⟩

end Timeline

/-- Over every history of committed turns: a fresh activation makes its entry a sticky
candidate, exempt from probability and cooldown and never written anew, for the turns of its
sticky window, keeps it from being activated for those of its cooldown, and is forgotten in the
turn after these, unless it is renewed there. No row stops a later session from starting. -/
theorem windows_observed {externals : Externals} {length : Nat} {store : Nat → TimedStore}
    {first last : Nat → Live} (history : Timeline externals length store first last) :
    (∀ (n : Nat) (sourceId : KnowledgeSourceId) (metadata : ActivationEntryMetadata),
      (first n).request.metadata sourceId = some metadata → (first n).Freshly (last n) sourceId →
      Lasting (first n).request metadata →
      ∀ m, n < m → m < length → Unchanged first n m sourceId metadata →
      (m ≤ n + metadata.rule.timing.stickyTurns.toNat →
        (∀ session later candidates, session.timedValid = (first m).session.timedValid →
          session.pending = ∅ → KnowledgeActivationSession.collectCandidates (first m).request
            externals session = .ok candidates later →
          ∃ candidate, candidates[sourceId]? = some candidate ∧ candidate.sticky = true) ∧
        (∀ live, Reaches (Live.Call externals) (first m) live →
          live.session.continuation.terminalRejections[sourceId]? ≠ some .probability ∧
          live.session.continuation.terminalRejections[sourceId]? ≠ some .cooldown) ∧
        ∀ result, KnowledgeActivationSession.finish (last m).request (last m).session = .ok result →
          ¬ result.pendingTimedState.Writes sourceId) ∧
      (n + metadata.rule.timing.stickyTurns.toNat < m →
        m ≤ n + metadata.rule.timing.stickyTurns.toNat + metadata.rule.timing.cooldownTurns.toNat →
        sourceId ∉ (last m).session.continuation.activated) ∧
      (m = n + metadata.rule.timing.stickyTurns.toNat +
          metadata.rule.timing.cooldownTurns.toNat + 1 →
        (store (m + 1)).rows[sourceId]? = none ∨ (first m).Freshly (last m) sourceId)) ∧
    ∀ m ≤ length, ∀ request : ActivationRequest,
      request.timedState.Perm (valuesOf (store m).rows) →
        KnowledgeActivationSession.start request ≠ .error .timedStateInconsistent := by
  refine ⟨?_, fun m bound request loaded => (history.sound bound).start loaded⟩
  intro n sourceId metadata known fresh lasting m later bound unchanged
  refine ⟨fun sticky => ?_, fun past cooling => ?_, fun ends => ?_⟩
  · have view := history.view bound later known lasting fresh unchanged (by omega)
    have number := history.number (Nat.le_of_lt later) bound
    have turn := history.committed m bound
    have covered : stickyNow (first m).request (first m).session.timedValid sourceId = true := by
      have window : (openedWindows (first n).request metadata).stickyAt (first m).request.turnNumber =
          true := by
        rw [opened_stickyAt lasting (by omega), decide_eq_true_eq]
        omega
      rw [stickyNow, view]
      exact window
    refine ⟨fun session state candidates same idle collected => ?_, fun live calls => ?_,
      fun result finished written => ?_⟩
    · exact collects_sticky idle (same ▸ covered) collected
    · have minded := Live.calls_minded turn.opens calls
      have valid := (Live.calls_timed turn.keyed turn.opens.2 calls).valid
      have exempt (reason : ActivationRejectionReason)
          (given : live.session.continuation.terminalRejections[sourceId]? = some reason) :=
        minded.exempt sourceId reason (by rw [valid]; exact covered) given
      exact ⟨fun given => (exempt .probability given).1 rfl, fun given => (exempt .cooldown given).2 rfl⟩
    · obtain ⟨state, member, own⟩ := List.mem_map.mp written
      obtain ⟨_, _, _, _, again⟩ := ((turn.delta finished).upserts state).mp member
      rw [own] at again
      exact Bool.false_ne_true (again.loose.symm.trans covered)
  · have view := history.view bound later known lasting fresh unchanged cooling
    have number := history.number (Nat.le_of_lt later) bound
    have turn := history.committed m bound
    intro active
    have ready := (Live.calls_minded turn.opens turn.calls).activated sourceId active
    rw [(Live.calls_timed turn.keyed turn.opens.2 turn.calls).valid] at ready
    rcases ready _ view with window | warm
    · rw [opened_stickyAt lasting (by omega), decide_eq_true_eq] at window
      omega
    · rw [opened_coolingAt lasting (by omega), decide_eq_false_iff_not] at warm
      omega
  · refine (history.committed m bound).clears (history.sound (Nat.le_of_lt bound))
      fun state stored _ => ?_
    exact history.outlasted bound known lasting fresh unchanged ends stored

namespace Timeline.Sample
open KnowledgeActivationSession
open Reserve.Sample (externals lore story blank)
open Windows.Sample (sticky opened opened_started ended ended_finishes)

/-- Sticky for two turns. -/
def metadata : ActivationEntryMetadata :=
  { sticky with rule := { sticky.rule with timing := { stickyTurns := 2 } } }

def turnAt (base : UInt64) (n : Nat) : TurnNumber :=
  (turnNumber (base + n.toUInt64)).getD Reserve.Sample.request.turnNumber

def request (turn : TurnNumber) (rows : TimedRows) : ActivationRequest :=
  { Reserve.Sample.request with
    turnNumber := turn
    indexSnapshot := .new ⟨story, blank, 0, 0, matcherVersion⟩
      (Std.ExtTreeMap.insert ∅ lore metadata) {} {} {} {}
    timedState := valuesOf rows }

def first (base : UInt64) (store : Nat → TimedStore) (n : Nat) : Live :=
  opened (request (turnAt base n) (store n).rows)

/-- A round, and the body it asks for. -/
def told (live : Live) : Live :=
  { live with
    session := after (supplyBodies live.request externals [⟨lore, .fact, 1, ⟨"told"⟩⟩]
      (after (nextRound live.request externals live.session))) }

def commit (store : TimedStore) (live : Live) : TimedStore :=
  { store with
    rows := reconcileActivationState ((applyActivationStateDelta store.rows
      (ended live).pendingTimedState).toOption.getD ∅) store.entries }

def store (base : UInt64) : Nat → TimedStore
  | 0 => ⟨∅, Std.ExtTreeMap.insert ∅ lore ⟨.fact, some ⟨blank⟩⟩⟩
  | n + 1 => commit (store base n) (told (opened (request (turnAt base n) (store base n).rows)))

def last (base : UInt64) (n : Nat) : Live := told (first base (store base) n)

theorem metadata_of {turn : TurnNumber} {rows : TimedRows} {sourceId : KnowledgeSourceId}
    {found : ActivationEntryMetadata} (known : (request turn rows).metadata sourceId = some found) :
    sourceId = lore ∧ found = metadata := by
  simp only [ActivationRequest.metadata, request, ActivationIndexSnapshot.new, get_insert] at known
  split at known
  · rename_i here
    cases known
    exact ⟨here.symm, rfl⟩
  · simp at known

theorem commit_entries (store : TimedStore) (live : Live) : (commit store live).entries = store.entries :=
  rfl

theorem store_entries (base : UInt64) (n : Nat) : (store base n).entries = (store base 0).entries := by
  induction n with
  | zero => rfl
  | succ n ih => exact (commit_entries _ _).trans ih

/-- A turn of the sample, once its session has started, finished and been applied. -/
theorem committed {base : UInt64} {n : Nat}
    (accepted : (start (first base (store base) n).request).toOption.isSome = true)
    (idle : (last base n).session.pending.isEmpty = true)
    (applied : (applyActivationStateDelta (store base n).rows
      (ended (last base n)).pendingTimedState).toOption.isSome = true) :
    CommittedTurn externals (store base n) (store base (n + 1)) (first base (store base) n)
      (last base n) where
  opens := ⟨rfl, opened_started accepted⟩
  keyed sourceId found known := by
    obtain ⟨rfl, rfl⟩ := metadata_of known
    rfl
  loaded := .refl _
  indexed sourceId found known := by
    obtain ⟨rfl, rfl⟩ := metadata_of known
    refine ⟨⟨.fact, some ⟨blank⟩⟩, ?_, by decide, rfl⟩
    rw [store_entries]
    exact (get_insert _ _ _).trans (if_pos rfl)
  calls := .tail (.single (.nextRound _)) (.supplyBodies _ _)
  committed :=
    ⟨ended (last base n), _, ended_finishes idle, Result.eq_ok_of_isSome applied ∅, rfl⟩

theorem history {base : UInt64}
    (earlier : CommittedTurn externals (store base 0) (store base 1) (first base (store base) 0)
      (last base 0))
    (later : CommittedTurn externals (store base 1) (store base 2) (first base (store base) 1)
      (last base 1))
    (next : (turnAt base 1).get.toNat = (turnAt base 0).get.toNat + 1) :
    Timeline externals 2 (store base) (first base (store base)) (last base) where
  empty := rfl
  committed n inside := by
    have position : n = 0 ∨ n = 1 := by omega
    rcases position with rfl | rfl
    · exact earlier
    · exact later
  consecutive n inside := by
    have position : n = 0 := by omega
    subst position
    exact next

theorem unchanged (base : UInt64) : Unchanged (first base (store base)) 0 1 lore metadata := by
  intro k _ _
  refine ⟨metadata, ?_, rfl, rfl⟩
  simp only [first, opened, request, ActivationRequest.metadata, ActivationIndexSnapshot.new]
  exact (get_insert _ _ _).trans (if_pos rfl)

/-- The last but one turn there is: the sticky window does not fit, and the next turn, which
is the last one, activates the entry afresh. -/
theorem last_turns_unwindowed :
    let base := 0x7FFFFFFFFFFFFFFE
    Timeline externals 2 (store base) (first base (store base)) (last base) ∧
      (first base (store base) 0).Freshly (last base 0) lore ∧
      Unchanged (first base (store base)) 0 1 lore metadata ∧
      1 ≤ 0 + metadata.rule.timing.stickyTurns.toNat ∧
      finish (last base 1).request (last base 1).session = .ok (ended (last base 1)) ∧
      (ended (last base 1)).pendingTimedState.Writes lore := by
  intro base
  refine ⟨history (committed (by decide +kernel) (by decide +kernel) (by decide +kernel))
    (committed (by decide +kernel) (by decide +kernel) (by decide +kernel)) (by decide +kernel),
    ⟨by decide +kernel, by decide +kernel, by decide +kernel⟩, unchanged base, by decide,
    ended_finishes (by decide +kernel), by decide +kernel⟩

/-- In the first turns of a story the entry stays sticky and is not written anew. -/
theorem second_turn_sticky :
    finish (last 1 1).request (last 1 1).session = .ok (ended (last 1 1)) ∧
      ¬ (ended (last 1 1)).pendingTimedState.Writes lore := by
  have turns : Timeline externals 2 (store 1) (first 1 (store 1)) (last 1) := history
    (committed (by decide +kernel) (by decide +kernel) (by decide +kernel))
    (committed (by decide +kernel) (by decide +kernel) (by decide +kernel)) (by decide +kernel)
  have fresh : (first 1 (store 1) 0).Freshly (last 1 0) lore :=
    ⟨by decide +kernel, by decide +kernel, by decide +kernel⟩
  have known : (first 1 (store 1) 0).request.metadata lore = some metadata := by decide +kernel
  have lasting : Lasting (first 1 (store 1) 0).request metadata := by
    unfold Lasting
    decide +kernel
  have finished : finish (last 1 1).request (last 1 1).session = .ok (ended (last 1 1)) :=
    ended_finishes (by decide +kernel)
  refine ⟨finished, ?_⟩
  exact (((windows_observed turns).1 0 lore metadata known fresh lasting 1 (by decide) (by decide)
    (unchanged 1)).1 (by decide)).2.2 _ finished

end Timeline.Sample

end Aise.Domain
