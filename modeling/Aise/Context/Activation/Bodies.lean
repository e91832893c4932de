import Aise.Domain.Activation.Room
import Aise.Persistence.KnowledgeBodies

/-! How the bodies of a round are loaded. The store is asked for all of them at once, and a round
that asked for each source by itself would not always activate the same entries. -/
namespace Aise.Domain
open Effect Persistence

/-- The engine's word on a source that it waits for. -/
def KnowledgeActivationSession.admittedIsMandatory (request : ActivationRequest)
    (sourceId : KnowledgeSourceId) : SessionM Bool := do
  let session ← get
  match session.pending[sourceId]?, request.metadata sourceId with
  | some candidate, some metadata =>
    return isMandatory metadata.rule.budgetClass candidate.mandatory
  | _, _ => throw .snapshotMismatch

def bodyOf (record : KnowledgeRecord) : ActivationEntryBody where
  sourceId := record.sourceId
  kind := record.kind
  tokenCost := max (estimateTextTokens record.content.value) 1
  body := record.content

def loadedOf (record : KnowledgeRecord) : LoadedActivationEntry where
  body := bodyOf record
  salience := record.salience
  source := record.source
  activation := record.activation
  activationRuleVersion := record.activationRuleVersion

open KnowledgeActivationSession

section
variable (request : ActivationRequest) (externals : Externals) (tables : KnowledgeTables)
  (snapshot : KnowledgeSnapshotRef) (maxItemBytes : Nat)

def anyMandatory (admitted : List KnowledgeSourceId) : SessionM Bool :=
  admitted.foldlM (fun mandatory sourceId => do
    let value ← admittedIsMandatory request sourceId
    return mandatory || value) false

def loadRecord (admitted : List KnowledgeSourceId) (record : KnowledgeRecord) :
    SessionM LoadedActivationEntry :=
  if record.sourceId ∉ admitted ∨ record.kind ≠ record.sourceId.kind then throw .snapshotMismatch
  else pure (loadedOf record)

def dropMissing (loaded : List LoadedActivationEntry) (sourceId : KnowledgeSourceId) :
    SessionM Unit :=
  if loaded.any fun entry => entry.body.sourceId = sourceId then pure ()
  else do
    let mandatory ← admittedIsMandatory request sourceId
    if mandatory then throw .mandatoryBudgetExceeded
    else dropAdmitted sourceId

def loadBodies (admitted : List KnowledgeSourceId) :
    SessionM (List ActivationEntryBody × List LoadedActivationEntry) :=
  match tables.findBySourceIds (bodyQuery snapshot maxItemBytes admitted) with
  | .error _ => do
    let mandatory ← anyMandatory request admitted
    if mandatory then throw .mandatoryBudgetExceeded
    else do
      forM admitted dropAdmitted
      return ([], [])
  | .ok records => do
    let loaded ← records.mapM (loadRecord admitted)
    forM admitted (dropMissing request loaded)
    return (loaded.map (·.body), loaded)

def loadRound (admitted : List KnowledgeSourceId) :
    SessionM (List ActivationEntryBody × List LoadedActivationEntry) :=
  if admitted = [] then pure ([], [])
  else loadBodies request tables snapshot maxItemBytes admitted

/-- What follows a round in `drive_with_loaded`. -/
def supplyRound (admitted : List KnowledgeSourceId) : SessionM (List LoadedActivationEntry) := do
  let (bodies, loaded) ← loadRound request tables snapshot maxItemBytes admitted
  supplyBodies request externals bodies
  return loaded

/-- The same, with a load for each source. -/
def supplySeparately (admitted : List KnowledgeSourceId) :
    SessionM (List LoadedActivationEntry) := do
  let loads ← admitted.mapM fun sourceId => loadBodies request tables snapshot maxItemBytes [sourceId]
  supplyBodies request externals (loads.flatMap (·.1))
  return loads.flatMap (·.2)

end

/-- The entries that are active after a call, if it succeeds. -/
def activatedBy {α : Type} (call : SessionM α) (session : KnowledgeActivationSession) :
    Option Activated :=
  match call session with
  | .ok _ later => some later.continuation.activated
  | .error _ _ => none

/-! ### Sources that are given up -/

section
variable {request : ActivationRequest} {session later last : KnowledgeActivationSession}
  {key : KnowledgeSourceId} {ids dropped : List KnowledgeSourceId}

/-- The session waits for a source that it can do without. -/
def Dispensable (request : ActivationRequest) (session : KnowledgeActivationSession)
    (key : KnowledgeSourceId) : Prop :=
  ∃ candidate metadata, session.pending[key]? = some candidate ∧
    request.metadata key = some metadata ∧
    isMandatory metadata.rule.budgetClass candidate.mandatory = false

theorem admittedIsMandatory_eq_false_iff :
    admittedIsMandatory request key session = .ok false session ↔ Dispensable request session key := by
  unfold admittedIsMandatory
  rw [run_get_bind]
  constructor
  · intro ran
    cases found : session.pending[key]? with
    | none =>
      rw [found] at ran
      cases ran
    | some candidate =>
      cases known : request.metadata key with
      | none =>
        rw [found, known] at ran
        cases ran
      | some metadata =>
        rw [found, known] at ran
        exact ⟨candidate, metadata, found, known, (EStateM.Result.ok.inj ran).1⟩
  · rintro ⟨candidate, metadata, found, known, optional⟩
    rw [found, known]
    dsimp only
    rw [optional]
    rfl

/-- The sources that a session no longer waits for, with nothing else spent. -/
structure Sheds (dropped : List KnowledgeSourceId) (session later : KnowledgeActivationSession) :
    Prop where
  account : later.account = session.account
  activated : later.continuation.activated = session.continuation.activated
  pending : ∀ key, later.pending[key]? = if key ∈ dropped then none else session.pending[key]?

theorem Sheds.none : Sheds [] session session :=
  ⟨rfl, rfl, fun _ => (if_neg List.not_mem_nil).symm⟩

theorem Sheds.append {others : List KnowledgeSourceId} (first : Sheds dropped session later)
    (second : Sheds others later last) : Sheds (dropped ++ others) session last := by
  refine ⟨second.account.trans first.account, second.activated.trans first.activated, fun key => ?_⟩
  rw [second.pending, first.pending]
  by_cases here : key ∈ dropped
  · rw [if_pos here, if_pos (List.mem_append_left others here), ite_self]
  · rw [if_neg here]
    simp only [List.mem_append, here, false_or]

theorem Sheds.dispensable (sheds : Sheds dropped session later) (kept : key ∉ dropped)
    (optional : Dispensable request session key) : Dispensable request later key := by
  obtain ⟨candidate, metadata, found, others⟩ := optional
  refine ⟨candidate, metadata, ?_, others⟩
  rw [sheds.pending, if_neg kept, found]

/-- What was done for one source leaves the others dispensable. -/
theorem Sheds.others {rest : List KnowledgeSourceId} (sheds : Sheds dropped session later)
    (only : ∀ other ∈ dropped, other = key) (fresh : key ∉ rest)
    (optional : ∀ other ∈ rest, Dispensable request session other) :
    ∀ other ∈ rest, Dispensable request later other := by
  intro other member
  apply sheds.dispensable _ (optional other member)
  intro given
  exact fresh (only other given ▸ member)

theorem dropAdmitted_sheds (optional : Dispensable request session key) :
    ∃ later, dropAdmitted key session = .ok ⟨⟩ later ∧ Sheds [key] session later := by
  obtain ⟨candidate, metadata, found, -⟩ := optional
  have waits : session.pending.contains key = true := by
    rw [Std.ExtTreeMap.contains_eq_isSome_getElem?, found]
    rfl
  refine ⟨{ session with pending := session.pending.erase key }.trim key .budget, ?_, rfl, rfl, ?_⟩
  · unfold dropAdmitted
    rw [run_get_bind, if_pos waits]
    rfl
  · intro other
    change (session.pending.erase key)[other]? = _
    rw [OrdMap.get_erase]
    simp only [List.mem_singleton, eq_comm]

/-- A loop over different sources sheds what its rounds shed. -/
theorem sheds_forM {round : KnowledgeSourceId → SessionM PUnit} (sheds : KnowledgeSourceId → Bool)
    (each : ∀ key session, Dispensable request session key → ∃ later,
      round key session = .ok ⟨⟩ later ∧ Sheds (if sheds key then [key] else []) session later)
    (distinct : ids.Nodup) (optional : ∀ key ∈ ids, Dispensable request session key) :
    ∃ later, forM ids round session = .ok ⟨⟩ later ∧ Sheds (ids.filter sheds) session later := by
  induction ids generalizing session with
  | nil => exact ⟨session, rfl, .none⟩
  | cons key rest ih =>
    obtain ⟨fresh, distinct⟩ := List.nodup_cons.mp distinct
    obtain ⟨here, optional⟩ := List.forall_mem_cons.mp optional
    obtain ⟨next, done, shed⟩ := each key session here
    have only : ∀ other ∈ (if sheds key then [key] else []), other = key := by
      intro other given
      split at given
      · exact List.mem_singleton.mp given
      · cases given
    obtain ⟨later, finished, others⟩ := ih distinct (shed.others only fresh optional)
    refine ⟨later, ?_, ?_⟩
    · rw [List.forM_cons, run_bind_of_ok _ done, finished]
    · have both := shed.append others
      rw [List.filter_cons]
      split
      · rw [if_pos ‹_›] at both
        exact both
      · rw [if_neg ‹_›] at both
        exact both

theorem anyMandatory_dispensable (optional : ∀ key ∈ ids, Dispensable request session key) :
    anyMandatory request ids session = .ok false session := by
  unfold anyMandatory
  induction ids with
  | nil => rfl
  | cons key rest ih =>
    obtain ⟨here, optional⟩ := List.forall_mem_cons.mp optional
    have answer := admittedIsMandatory_eq_false_iff.mpr here
    have step : (do
        let value ← admittedIsMandatory request key
        return false || value : SessionM Bool) session = .ok false session := run_bind_of_ok _ answer
    rw [List.foldlM_cons, run_bind_of_ok _ step]
    exact ih optional

end

/-! ### Loads -/

section
variable {request : ActivationRequest} {externals : Externals} {tables : KnowledgeTables}
  {snapshot : KnowledgeSnapshotRef} {maxItemBytes : Nat}
  {session later : KnowledgeActivationSession} {ids dropped : List KnowledgeSourceId}

/-- The sources of which a load has found nothing. -/
def missing (tables : KnowledgeTables) (snapshot : KnowledgeSnapshotRef) (maxItemBytes : Nat)
    (ids : List KnowledgeSourceId) : List KnowledgeSourceId :=
  ids.filter fun id =>
    !(tables.found snapshot maxItemBytes ids).any fun record => record.sourceId = id

theorem mem_missing_iff {key : KnowledgeSourceId} : key ∈ missing tables snapshot maxItemBytes ids ↔
    key ∈ ids ∧
      key ∉ ((tables.found snapshot maxItemBytes ids).map bodyOf).map (·.sourceId) := by
  rw [missing, List.mem_filter, Bool.not_eq_true', List.any_eq_false, List.map_map, List.mem_map]
  simp only [decide_eq_true_eq, not_exists, not_and]
  rfl

/-- A load of one source finds nothing else. -/
theorem eq_of_found_one {id key : KnowledgeSourceId} (member :
    key ∈ ((tables.found snapshot maxItemBytes [id]).map bodyOf).map (·.sourceId)) : key = id := by
  rw [List.map_map] at member
  obtain ⟨record, found, rfl⟩ := List.mem_map.mp member
  exact List.mem_singleton.mp (KnowledgeTables.found_asked (List.nodup_singleton id) found).1

theorem loadRecord_asked {record : KnowledgeRecord}
    (asked : record.sourceId ∈ ids ∧ record.kind = record.sourceId.kind) :
    loadRecord ids record = pure (loadedOf record) := by
  apply if_neg
  rintro (other | kind)
  · exact other asked.1
  · exact kind asked.2

theorem loadRecords_asked {records : List KnowledgeRecord}
    (asked : ∀ record ∈ records, record.sourceId ∈ ids ∧ record.kind = record.sourceId.kind) :
    records.mapM (loadRecord ids) = pure (records.map loadedOf) := by
  induction records with
  | nil => rfl
  | cons record rest ih =>
    obtain ⟨here, asked⟩ := List.forall_mem_cons.mp asked
    rw [List.mapM_cons, loadRecord_asked here, ih asked]
    rfl

theorem dropMissing_sheds (loaded : List LoadedActivationEntry) {key : KnowledgeSourceId}
    (optional : Dispensable request session key) :
    ∃ later, dropMissing request loaded key session = .ok ⟨⟩ later ∧
      Sheds (if !loaded.any fun entry => entry.body.sourceId = key then [key] else [])
        session later := by
  unfold dropMissing
  cases loaded.any fun entry => entry.body.sourceId = key with
  | true => exact ⟨session, rfl, .none⟩
  | false =>
    obtain ⟨later, dropped, sheds⟩ := dropAdmitted_sheds optional
    refine ⟨later, ?_, sheds⟩
    exact (run_bind_of_ok _ (admittedIsMandatory_eq_false_iff.mpr optional)).trans dropped

variable (tables snapshot maxItemBytes)

/-- A load keeps what it has found and gives up the rest. -/
theorem loadBodies_sheds (distinct : ids.Nodup)
    (optional : ∀ key ∈ ids, Dispensable request session key) :
    ∃ later, loadBodies request tables snapshot maxItemBytes ids session =
        .ok ((tables.found snapshot maxItemBytes ids).map bodyOf,
          (tables.found snapshot maxItemBytes ids).map loadedOf) later ∧
      Sheds (missing tables snapshot maxItemBytes ids) session later := by
  have asked (record : KnowledgeRecord) (member : record ∈ tables.found snapshot maxItemBytes ids) :=
    KnowledgeTables.found_asked distinct member
  unfold loadBodies missing
  cases read : tables.findBySourceIds (bodyQuery snapshot maxItemBytes ids) with
  | error failure =>
    rw [KnowledgeTables.found_of_error ⟨failure, read⟩]
    obtain ⟨later, dropped, sheds⟩ :=
      sheds_forM (fun _ => true) (fun _ _ optional => dropAdmitted_sheds optional) distinct optional
    refine ⟨later, ?_, sheds⟩
    refine (run_bind_of_ok _ (anyMandatory_dispensable optional)).trans ?_
    exact run_bind_of_ok _ dropped
  | ok records =>
    have found : tables.found snapshot maxItemBytes ids = records := by
      rw [KnowledgeTables.found, read]
      rfl
    rw [found] at asked ⊢
    obtain ⟨later, dropped, sheds⟩ :=
      sheds_forM _ (fun _ _ => dropMissing_sheds (records.map loadedOf)) distinct optional
    have loaded : records.mapM (loadRecord ids) session = .ok (records.map loadedOf) session :=
      congrFun (loadRecords_asked asked) session
    refine ⟨later, ?_, ?_⟩
    · refine (run_bind_of_ok _ loaded).trans ((run_bind_of_ok _ dropped).trans ?_)
      rw [List.map_map]
      rfl
    · simp only [List.any_map] at sheds
      exact sheds

/-- Loads of one source each give up what every one of them has not found. -/
theorem loadEach_sheds (distinct : ids.Nodup)
    (optional : ∀ key ∈ ids, Dispensable request session key) :
    ∃ later, ids.mapM (fun id => loadBodies request tables snapshot maxItemBytes [id]) session =
        .ok (ids.map fun id => ((tables.found snapshot maxItemBytes [id]).map bodyOf,
          (tables.found snapshot maxItemBytes [id]).map loadedOf)) later ∧
      Sheds (ids.flatMap fun id => missing tables snapshot maxItemBytes [id]) session later := by
  induction ids generalizing session with
  | nil => exact ⟨session, rfl, .none⟩
  | cons id rest ih =>
    obtain ⟨fresh, distinct⟩ := List.nodup_cons.mp distinct
    obtain ⟨here, optional⟩ := List.forall_mem_cons.mp optional
    obtain ⟨next, loaded, shed⟩ := loadBodies_sheds tables snapshot maxItemBytes
      (List.nodup_singleton id) (List.forall_mem_singleton.mpr here)
    have only : ∀ other ∈ missing tables snapshot maxItemBytes [id], other = id := fun other given =>
      List.mem_singleton.mp (mem_missing_iff.mp given).1
    obtain ⟨later, others, sheds⟩ := ih distinct (shed.others only fresh optional)
    refine ⟨later, ?_, shed.append sheds⟩
    rw [List.mapM_cons, run_bind_of_ok _ loaded, run_bind_of_ok _ others]
    rfl

end

/-! ### Rounds -/

section
variable {α β : Type} {session later : KnowledgeActivationSession}

theorem activatedBy_of_ok {first : SessionM α} {value : α} (next : α → SessionM β)
    (done : first session = .ok value later) :
    activatedBy (first >>= next) session = activatedBy (next value) later := by
  unfold activatedBy
  rw [run_bind_of_ok next done]

theorem activatedBy_return {call : SessionM α} (value : β) :
    activatedBy (do let _ ← call; return value) session = activatedBy call session := by
  unfold activatedBy
  cases ran : call session with
  | ok given later => rw [run_bind_of_ok _ ran]; rfl
  | error failure later => rw [run_bind_of_error _ ran]

end

section
variable (request : ActivationRequest) (externals : Externals) (tables : KnowledgeTables)
  (snapshot : KnowledgeSnapshotRef) (maxItemBytes : Nat)

/-- The entries that are active once bodies were weighed in turn. -/
def entered (session : KnowledgeActivationSession) (bodies : List ActivationEntryBody) :
    Option Activated :=
  (Greedy.run (weigh request externals session.pending) bodies session.account).map fun result =>
    result.1.foldl (enter request session.pending) session.continuation.activated

/-- The bodies that can be read, in the order of admission. -/
def readableBodies (admitted : List KnowledgeSourceId) : List ActivationEntryBody :=
  (admitted.filterMap (tables.record maxItemBytes)).map bodyOf

def bySourceId (bodies : List ActivationEntryBody) : List ActivationEntryBody :=
  bodies.mergeSort fun first second => first.sourceId.asStr ≤ second.sourceId.asStr

end

section
variable {request : ActivationRequest} {externals : Externals} {tables : KnowledgeTables}
  {snapshot : KnowledgeSnapshotRef} {maxItemBytes : Nat}
  {session later : KnowledgeActivationSession} {ids dropped : List KnowledgeSourceId}
  {bodies : List ActivationEntryBody}

/-- A session that has given up the sources without a body is supplied with the others. -/
theorem activatedBy_supplyBodies (admits : Admits ids session)
    (optional : ∀ key ∈ ids, Dispensable request session key) (sheds : Sheds dropped session later)
    (distinct : (bodies.map (·.sourceId)).Nodup) (within : ∀ body ∈ bodies, body.sourceId ∈ ids)
    (drops : ∀ key ∈ ids, key ∈ dropped ↔ key ∉ bodies.map (·.sourceId)) :
    activatedBy (supplyBodies request externals bodies) later =
      entered request externals session bodies := by
  have kept (body : ActivationEntryBody) (member : body ∈ bodies) :
      later.pending[body.sourceId]? = session.pending[body.sourceId]? := by
    rw [sheds.pending, if_neg]
    intro given
    exact (drops _ (within body member)).mp given (List.mem_map_of_mem member)
  have awaited : ∀ body ∈ bodies, ∃ candidate metadata,
      later.pending[body.sourceId]? = some candidate ∧
        session.pending[body.sourceId]? = some candidate ∧
        request.metadata body.sourceId = some metadata ∧
        isMandatory metadata.rule.budgetClass candidate.mandatory = false := by
    intro body member
    obtain ⟨candidate, metadata, found, others⟩ := optional _ (within body member)
    exact ⟨candidate, metadata, (kept body member).trans found, found, others⟩
  have all : ∀ key, key ∉ bodies.map (·.sourceId) → later.pending[key]? = none := by
    intro key absent
    rw [sheds.pending]
    by_cases asked : key ∈ ids
    · exact if_pos ((drops key asked).mpr absent)
    · have idle : session.pending[key]? = none :=
        Std.ExtTreeMap.getElem?_eq_none fun held => asked ((admits.pending key).mp held)
      rw [idle, ite_self]
  have weighed := supplyBodies_weighed externals distinct awaited all
  rw [sheds.account] at weighed
  unfold activatedBy entered
  cases ran : Greedy.run (weigh request externals session.pending) bodies session.account with
  | none =>
    rw [ran] at weighed
    obtain ⟨failure, last, failed⟩ := weighed
    rw [failed]
    rfl
  | some result =>
    rw [ran] at weighed
    obtain ⟨last, done, supplied⟩ := weighed
    rw [done]
    dsimp only
    rw [supplied.activated, sheds.activated]
    rfl

/-- A round enters what one load has found. -/
theorem supplyRound_entered (admits : Admits ids session)
    (optional : ∀ key ∈ ids, Dispensable request session key) :
    activatedBy (supplyRound request externals tables snapshot maxItemBytes ids) session =
      entered request externals session ((tables.found snapshot maxItemBytes ids).map bodyOf) := by
  have loaded : ∃ later, loadRound request tables snapshot maxItemBytes ids session =
      .ok ((tables.found snapshot maxItemBytes ids).map bodyOf,
        (tables.found snapshot maxItemBytes ids).map loadedOf) later ∧
      Sheds (missing tables snapshot maxItemBytes ids) session later := by
    unfold loadRound
    split
    · rename_i none
      rw [none, KnowledgeTables.found_nil]
      exact ⟨session, rfl, .none⟩
    · exact loadBodies_sheds tables snapshot maxItemBytes admits.distinct optional
  obtain ⟨later, loaded, sheds⟩ := loaded
  unfold supplyRound
  rw [activatedBy_of_ok _ loaded, activatedBy_return]
  apply activatedBy_supplyBodies admits optional sheds
  · rw [List.map_map]
    exact KnowledgeTables.found_distinct admits.distinct
  · intro body member
    obtain ⟨record, found, rfl⟩ := List.mem_map.mp member
    exact (KnowledgeTables.found_asked admits.distinct found).1
  · intro key asked
    rw [mem_missing_iff, and_iff_right asked]

/-- Separate loads enter what each of them has found. -/
theorem supplySeparately_entered (admits : Admits ids session)
    (optional : ∀ key ∈ ids, Dispensable request session key) :
    activatedBy (supplySeparately request externals tables snapshot maxItemBytes ids) session =
      entered request externals session
        (ids.flatMap fun id => (tables.found snapshot maxItemBytes [id]).map bodyOf) := by
  obtain ⟨later, loaded, sheds⟩ :=
    loadEach_sheds tables snapshot maxItemBytes admits.distinct optional
  unfold supplySeparately
  rw [activatedBy_of_ok _ loaded, activatedBy_return, List.flatMap_map]
  apply activatedBy_supplyBodies admits optional sheds
  · rw [List.map_flatMap]
    refine List.nodup_flatMap.mpr ⟨fun id _ => ?_, ?_⟩
    · rw [List.map_map]
      exact KnowledgeTables.found_distinct (List.nodup_singleton id)
    · refine admits.distinct.imp fun {id other} apart key here there => ?_
      exact apart ((eq_of_found_one here).symm.trans (eq_of_found_one there))
  · intro body member
    obtain ⟨id, inside, member⟩ := List.mem_flatMap.mp member
    rw [eq_of_found_one (List.mem_map_of_mem member)]
    exact inside
  · intro key inside
    rw [List.mem_flatMap, List.map_flatMap, List.mem_flatMap]
    constructor
    · rintro ⟨id, -, given⟩ ⟨other, -, found⟩
      obtain ⟨here, absent⟩ := mem_missing_iff.mp given
      obtain rfl := List.mem_singleton.mp here
      obtain rfl := eq_of_found_one found
      exact absent found
    · intro absent
      refine ⟨key, inside, mem_missing_iff.mpr ⟨List.mem_singleton_self key, fun found => ?_⟩⟩
      exact absent ⟨key, inside, found⟩

theorem found_each (answers : tables.Answers snapshot maxItemBytes) :
    (ids.flatMap fun id => (tables.found snapshot maxItemBytes [id]).map bodyOf) =
      readableBodies tables maxItemBytes ids := by
  unfold readableBodies
  induction ids with
  | nil => rfl
  | cons id rest ih =>
    rw [List.flatMap_cons, ih, KnowledgeTables.found_one answers, List.filterMap_cons]
    cases tables.record maxItemBytes id <;> rfl

theorem found_unanswered (refuses : ¬tables.Answers snapshot maxItemBytes) :
    tables.found snapshot maxItemBytes ids = [] :=
  KnowledgeTables.found_of_error (KnowledgeTables.findBySourceIds_unanswered refuses)

theorem readableBodies_distinct (distinct : ids.Nodup) :
    ((readableBodies tables maxItemBytes ids).map (·.sourceId)).Nodup := by
  rw [readableBodies, List.map_map]
  exact KnowledgeTables.records_distinct distinct

theorem readableBodies_asked :
    ∀ body ∈ readableBodies tables maxItemBytes ids, body.sourceId ∈ ids := by
  intro body member
  obtain ⟨record, found, rfl⟩ := List.mem_map.mp member
  obtain ⟨id, asked, read⟩ := List.mem_filterMap.mp found
  have here : (bodyOf record).sourceId = id := (KnowledgeTables.record_source read).1
  rw [here]
  exact asked

/-- A statement for the sources is refused, or fails on one of them. -/
def BatchFails (tables : KnowledgeTables) (maxItemBytes : Nat) (ids : List KnowledgeSourceId) : Prop :=
  ¬KnowledgeTables.Few ids ∨ ∃ id ∈ ids, tables.unreadable maxItemBytes id = true

theorem found_batchFails (answers : tables.Answers snapshot maxItemBytes) (distinct : ids.Nodup)
    (fails : BatchFails tables maxItemBytes ids) : tables.found snapshot maxItemBytes ids = [] := by
  apply KnowledgeTables.found_of_error
  rcases fails with many | ⟨id, asked, spoilt⟩
  · exact KnowledgeTables.findBySourceIds_many many
  · by_cases few : KnowledgeTables.Few ids
    · exact KnowledgeTables.findBySourceIds_unreadable answers few distinct asked spoilt
    · exact KnowledgeTables.findBySourceIds_many few

theorem strictly_ordered (distinct : (bodies.map (·.sourceId)).Nodup) (ordered : bodies.Pairwise
      fun first second => first.sourceId.asStr ≤ second.sourceId.asStr) :
    bodies.Pairwise fun first second => first.sourceId.asStr < second.sourceId.asStr := by
  have apart : bodies.Pairwise fun first second => first.sourceId ≠ second.sourceId :=
    List.pairwise_map.mp distinct
  refine (ordered.and apart).imp fun {first second} both => ?_
  refine lt_of_le_of_ne both.1 fun same => ?_
  exact both.2 (KnowledgeSourceId.asStr_injective same)

theorem bySourceId_sorted (distinct : (bodies.map (·.sourceId)).Nodup) :
    (bySourceId bodies).Pairwise fun first second => first.sourceId.asStr < second.sourceId.asStr := by
  have perm : (bySourceId bodies).Perm bodies := List.mergeSort_perm _ _
  have ordered : (bySourceId bodies).Pairwise
      fun first second => decide (first.sourceId.asStr ≤ second.sourceId.asStr) = true := by
    refine List.pairwise_mergeSort (fun a b c first second => ?_) (fun a b => ?_) _
    · exact decide_eq_true (le_trans (of_decide_eq_true first) (of_decide_eq_true second))
    · rw [Bool.or_eq_true, decide_eq_true_eq, decide_eq_true_eq]
      exact le_total a.sourceId.asStr b.sourceId.asStr
  exact strictly_ordered ((perm.map _).nodup_iff.mpr distinct) (ordered.imp of_decide_eq_true)

/-- There is one order of ids. -/
theorem bySourceId_eq {listed : List ActivationEntryBody} (perm : listed.Perm bodies)
    (ordered : listed.Pairwise fun first second => first.sourceId.asStr < second.sourceId.asStr) :
    bySourceId bodies = listed := by
  have apart : listed.Pairwise fun first second => first.sourceId ≠ second.sourceId := by
    refine ordered.imp fun {first second} below same => ?_
    rw [same] at below
    exact lt_irrefl _ below
  have once : (listed.map (·.sourceId)).Nodup := List.pairwise_map.mpr apart
  have sorted : (bySourceId bodies).Perm bodies := List.mergeSort_perm _ _
  apply List.Perm.eq_of_pairwise _ (bySourceId_sorted ((perm.map _).nodup_iff.mp once)) ordered
    (sorted.trans perm.symm)
  intro first second _ _ below above
  exact absurd above (lt_asymm below)

/-- One load of sources that can all be read returns their bodies in the order of their ids. -/
theorem found_together (answers : tables.Answers snapshot maxItemBytes) (distinct : ids.Nodup)
    (reads : ¬BatchFails tables maxItemBytes ids) :
    (tables.found snapshot maxItemBytes ids).map bodyOf =
      bySourceId (readableBodies tables maxItemBytes ids) := by
  rw [BatchFails, not_or, not_not, not_exists] at reads
  have readable : ∀ id ∈ ids, tables.unreadable maxItemBytes id = false := fun id asked =>
    Bool.eq_false_iff.mpr fun spoilt => reads.2 id ⟨asked, spoilt⟩
  by_cases asks : ids = []
  · subst asks
    rw [KnowledgeTables.found_nil]
    exact List.mergeSort_nil.symm
  · obtain ⟨same, sorted⟩ := KnowledgeTables.found_readable answers asks reads.1 distinct readable
    have once : (((tables.found snapshot maxItemBytes ids).map bodyOf).map (·.sourceId)).Nodup := by
      rw [List.map_map]
      exact KnowledgeTables.found_distinct distinct
    have loaded : ((tables.found snapshot maxItemBytes ids).map bodyOf).Pairwise
        fun first second => first.sourceId.asStr ≤ second.sourceId.asStr :=
      List.pairwise_map.mpr sorted
    exact (bySourceId_eq (same.map bodyOf) (strictly_ordered once loaded)).symm

/-- Some of the bodies that can be read enter the same as all of them only if a run takes the
same. -/
theorem entered_readable_iff (awaiting : Awaiting request ids session)
    (optional : ∀ key ∈ ids, Dispensable request session key)
    (within : ∀ body ∈ bodies, body ∈ readableBodies tables maxItemBytes ids) :
    entered request externals session bodies =
        entered request externals session (readableBodies tables maxItemBytes ids) ↔
      Greedy.takes (weigh request externals session.pending) bodies session.account =
        Greedy.takes (weigh request externals session.pending)
          (readableBodies tables maxItemBytes ids) session.account := by
  have distinct : ((readableBodies tables maxItemBytes ids).map (·.sourceId)).Nodup :=
    readableBodies_distinct awaiting.distinct
  have alone := List.inj_on_of_nodup_map distinct
  apply activated_eq_iff within fun _ inside => inside
  · intro body inside other inside' same
    exact alone inside' inside same
  · intro body inside
    obtain ⟨candidate, metadata, found, known, -⟩ := optional _ (readableBodies_asked body inside)
    exact ⟨candidate, metadata, found, known⟩
  · intro body inside
    exact awaiting.inactive _ (readableBodies_asked body inside)

end

section
variable (request : ActivationRequest) (externals : Externals) (tables : KnowledgeTables)
  (snapshot : KnowledgeSnapshotRef) (maxItemBytes : Nat)

/-- A round activates what it would with a load for each source. -/
def ActivatesAlike (admitted : List KnowledgeSourceId) (session : KnowledgeActivationSession) : Prop :=
  activatedBy (supplyRound request externals tables snapshot maxItemBytes admitted) session =
    activatedBy (supplySeparately request externals tables snapshot maxItemBytes admitted) session

/-- A store that answers at all has either failed on all sources at once, and then no body that could
be read has room by itself, or has returned the bodies in the order of their ids, and then no two
that have room by themselves contend for what is scarce in another order than that of admission. -/
def HarmlessBatch (admitted : List KnowledgeSourceId) (session : KnowledgeActivationSession) : Prop :=
  let bodies := readableBodies tables maxItemBytes admitted
  let needs := metering request externals session.pending
  tables.Answers snapshot maxItemBytes →
    (BatchFails tables maxItemBytes admitted →
      ∀ body ∈ bodies, ¬needs.HasRoom session.account body) ∧
    (¬BatchFails tables maxItemBytes admitted →
      ∀ first second, [first, second].Sublist bodies →
        second.sourceId.asStr < first.sourceId.asStr →
          needs.HasRoom session.account first → needs.HasRoom session.account second →
            ¬needs.Contend bodies session.account first second)

end

section
variable {request : ActivationRequest} {externals : Externals} (tables : KnowledgeTables)
  (snapshot : KnowledgeSnapshotRef) (maxItemBytes : Nat)
  {before session : KnowledgeActivationSession} {outcome : ActivationRoundOutcome}

/-- A round activates the same with one load as with one for each source where that does no harm,
and where the one load fails, only there. -/
theorem activates_alike (ran : nextRound request externals before = .ok (some outcome) session)
    (optional : ∀ sourceId ∈ outcome.admitted,
      admittedIsMandatory request sourceId session = .ok false session) :
    (HarmlessBatch request externals tables snapshot maxItemBytes outcome.admitted session →
      ActivatesAlike request externals tables snapshot maxItemBytes outcome.admitted session) ∧
    (BatchFails tables maxItemBytes outcome.admitted →
      ActivatesAlike request externals tables snapshot maxItemBytes outcome.admitted session →
        HarmlessBatch request externals tables snapshot maxItemBytes outcome.admitted session) := by
  have awaiting : Awaiting request outcome.admitted session := nextRound_awaits ran
  have spare : ∀ key ∈ outcome.admitted, Dispensable request session key := fun key member =>
    admittedIsMandatory_eq_false_iff.mp (optional key member)
  have metered : Greedy.Metered (weigh request externals session.pending) _ := weigh_metered
  have distinct : ((readableBodies tables maxItemBytes outcome.admitted).map (·.sourceId)).Nodup :=
    readableBodies_distinct awaiting.distinct
  unfold ActivatesAlike
  rw [supplyRound_entered awaiting.toAdmits spare, supplySeparately_entered awaiting.toAdmits spare]
  by_cases answers : tables.Answers snapshot maxItemBytes
  · rw [found_each answers, HarmlessBatch, imp_iff_right answers]
    by_cases fails : BatchFails tables maxItemBytes outcome.admitted
    · rw [found_batchFails answers awaiting.distinct fails, List.map_nil,
        entered_readable_iff awaiting spare (List.forall_mem_nil _), Greedy.takes_nil]
      have none : some ∅ = Greedy.takes (weigh request externals session.pending)
          (readableBodies tables maxItemBytes outcome.admitted) session.account ↔
          ∀ body ∈ readableBodies tables maxItemBytes outcome.admitted,
            ¬(metering request externals session.pending).HasRoom session.account body := by
        rw [eq_comm, Greedy.takes_eq_empty_iff]
        exact forall₂_congr fun body _ => metered.refused_iff body session.account
      exact ⟨fun alike => none.mpr (alike.1 fails), fun _ same =>
        ⟨fun _ => none.mp same, fun reads => absurd fails reads⟩⟩
    · refine ⟨fun alike => ?_, fun failed => absurd failed fails⟩
      have perm : (bySourceId (readableBodies tables maxItemBytes outcome.admitted)).Perm
          (readableBodies tables maxItemBytes outcome.admitted) := List.mergeSort_perm _ _
      rw [found_together answers awaiting.distinct fails,
        entered_readable_iff awaiting spare fun _ => perm.mem_iff.mp]
      refine metered.takes_perm perm fun first second here there => alike.2 fails first second here ?_
      have sorted := (bySourceId_sorted distinct).sublist there
      exact (List.pairwise_cons.mp sorted).1 first (List.mem_singleton_self first)
  · rw [found_unanswered answers, List.map_nil]
    refine ⟨fun _ => ?_, fun _ _ answered => absurd answered answers⟩
    refine congrArg (entered request externals session) (Eq.symm ?_)
    refine List.flatMap_eq_nil_iff.mpr fun id _ => ?_
    rw [found_unanswered answers, List.map_nil]

end

namespace Bodies.Sample
open KnowledgeActivationSession
open Reserve.Sample (lore legend story blank entry externals)

/-- Two facts that are always candidates, and that the turn can do without. -/
def request (limits : ActivationRuntimeLimits) (legendSalience : UInt8) : ActivationRequest :=
  { Reserve.Sample.request with
    indexSnapshot := .new ⟨story, blank, 0, 0, matcherVersion⟩
      ((Std.ExtTreeMap.insert ∅ lore (entry lore .normal)).insert legend
        { entry legend .normal with salience := legendSalience }) {} {} {} {}
    limits }

/-- There is room for both facts, and the first comes first. -/
def spacious : ActivationRequest := request Reserve.Sample.limits 0

/-- There is room for one of the facts, and the second comes first. -/
def narrow : ActivationRequest := request { Reserve.Sample.limits with maxTotalItems := 1 } 1

def opened (request : ActivationRequest) : KnowledgeActivationSession where
  continuation := newContinuation request
  timedValid := ∅
  timedDelta := {}
  rejections := fun _ => none
  budget := (newContinuation request).usage
  state := .initial

def session (request : ActivationRequest) : KnowledgeActivationSession :=
  Effect.after (nextRound request externals (opened request))

def fact (id : KnowledgeId .fact) (text : String) : KnowledgeEntry := .fact {
  id := id
  key := none
  text := ⟨text⟩
  proposition := none
  retrievalHint := Persistence.Sample.crossing
  activation := Persistence.Sample.rule
  activationRuleVersion := (entry id.val .normal).ruleVersion
  salience := 40
  source := .committedTurn spacious.turnNumber }

/-- What is stored of the two facts. -/
def tables (first second : String) : KnowledgeTables where
  story := some (0, blank)
  rows := [.of (fact ⟨lore, rfl⟩ first), .of (fact ⟨legend, rfl⟩ second)]
  keyed := by
    change [("fact", "fact_0001"), ("fact", "fact_0002")].Nodup
    decide

def admittedIn :
    EStateM.Result ActivationError KnowledgeActivationSession (Option ActivationRoundOutcome) →
      Option (List KnowledgeSourceId)
  | .ok (some outcome) _ => some outcome.admitted
  | _ => none

theorem session_round {request : ActivationRequest} {ids : List KnowledgeSourceId}
    (shown : admittedIn (nextRound request externals (opened request)) = some ids) :
    ∃ outcome, nextRound request externals (opened request) = .ok (some outcome) (session request) ∧
      outcome.admitted = ids := by
  unfold session
  cases ran : nextRound request externals (opened request) with
  | error failure later =>
    rw [ran] at shown
    cases shown
  | ok result later =>
    rw [ran] at shown
    cases result with
    | none => cases shown
    | some outcome => exact ⟨outcome, rfl, Option.some.inj shown⟩

def spared (request : ActivationRequest) (key : KnowledgeSourceId) : Bool :=
  (session request).pending[key]?.any fun candidate => (request.metadata key).any fun metadata =>
    isMandatory metadata.rule.budgetClass candidate.mandatory = false

theorem session_spares {request : ActivationRequest} {ids : List KnowledgeSourceId}
    (spares : ids.all (spared request) = true) :
    ∀ key ∈ ids, admittedIsMandatory request key (session request) = .ok false (session request) := by
  intro key member
  have here := List.all_eq_true.mp spares key member
  obtain ⟨candidate, found, spares⟩ := (Option.any_eq_true ..).mp here
  obtain ⟨metadata, known, optional⟩ := (Option.any_eq_true ..).mp spares
  exact admittedIsMandatory_eq_false_iff.mpr
    ⟨candidate, metadata, found, known, of_decide_eq_true optional⟩

theorem lore_read (second : String) :
    (tables "old" second).record 8 lore = some (fact ⟨lore, rfl⟩ "old").record := by
  have row : (tables "old" second).row lore = some (.of (fact ⟨lore, rfl⟩ "old")) :=
    KnowledgeTables.row_eq_some.mpr ⟨by decide, List.mem_cons_self, rfl⟩
  have read : (materializeRow (.of (fact ⟨lore, rfl⟩ "old")) 8).toOption =
      some (fact ⟨lore, rfl⟩ "old").record := by decide +kernel
  rw [KnowledgeTables.record, row, Option.bind_some, read]

theorem legend_read (first : String) :
    (tables first "older").record 8 legend = some (fact ⟨legend, rfl⟩ "older").record := by
  have row : (tables first "older").row legend = some (.of (fact ⟨legend, rfl⟩ "older")) :=
    KnowledgeTables.row_eq_some.mpr ⟨by decide, List.mem_cons_of_mem _ List.mem_cons_self, rfl⟩
  have read : (materializeRow (.of (fact ⟨legend, rfl⟩ "older")) 8).toOption =
      some (fact ⟨legend, rfl⟩ "older").record := by decide +kernel
  rw [KnowledgeTables.record, row, Option.bind_some, read]

theorem both_read {ids : List KnowledgeSourceId} (among : ids ⊆ [lore, legend])
    (few : KnowledgeTables.Few ids) : ¬BatchFails (tables "old" "older") 8 ids := by
  rintro (many | ⟨id, member, spoilt⟩)
  · exact many few
  · rcases List.mem_pair.mp (among member) with rfl | rfl
    · rw [KnowledgeTables.unreadable_of_record (lore_read _)] at spoilt
      cases spoilt
    · rw [KnowledgeTables.unreadable_of_record (legend_read _)] at spoilt
      cases spoilt

/-- Two facts that can both be read are activated as by separate loads. -/
theorem loaded_alike : ∃ outcome,
    nextRound spacious externals (opened spacious) = .ok (some outcome) (session spacious) ∧
      ActivatesAlike spacious externals (tables "old" "older") spacious.knowledgeSnapshot 8
        outcome.admitted (session spacious) := by
  have shown : admittedIn (nextRound spacious externals (opened spacious)) = some [lore, legend] := by
    decide +kernel
  have spared : [lore, legend].all (spared spacious) = true := by decide +kernel
  obtain ⟨outcome, ran, admitted⟩ := session_round shown
  have spares := session_spares spared
  rw [← admitted] at spares
  refine ⟨outcome, ran, (activates_alike _ _ 8 ran spares).1 fun _ => ?_⟩
  have bodies : readableBodies (tables "old" "older") 8 [lore, legend] =
      [bodyOf (fact ⟨lore, rfl⟩ "old").record, bodyOf (fact ⟨legend, rfl⟩ "older").record] := by
    rw [readableBodies, List.filterMap_cons, lore_read, List.filterMap_cons, legend_read]
    rfl
  have reads : ¬BatchFails (tables "old" "older") 8 [lore, legend] :=
    both_read (List.Subset.refl _) (Nat.le_of_ble_eq_true rfl)
  rw [admitted, bodies]
  refine ⟨fun fails => absurd fails reads, fun _ first second here below => ?_⟩
  cases here with
  | cons _ shorter => exact absurd shorter.length_le (Nat.not_le.mpr Nat.one_lt_two)
  | cons_cons _ rest =>
    cases List.mem_singleton.mp (List.singleton_sublist.mp rest)
    exact absurd below (by decide)

/-- What one load and separate loads activate of the two facts in a round that can do without. -/
def Activates (request : ActivationRequest) (first second : String)
    (together apart : List KnowledgeSourceId) : Prop :=
  ∃ outcome, nextRound request externals (opened request) = .ok (some outcome) (session request) ∧
    (∀ id ∈ outcome.admitted,
      admittedIsMandatory request id (session request) = .ok false (session request)) ∧
    (activatedBy (supplyRound request externals (tables first second) request.knowledgeSnapshot 8
      outcome.admitted) (session request)).map (·.keys) = some together ∧
    (activatedBy (supplySeparately request externals (tables first second) request.knowledgeSnapshot 8
      outcome.admitted) (session request)).map (·.keys) = some apart

theorem activates {request : ActivationRequest} {first second : String}
    {ids together apart : List KnowledgeSourceId} (loaded : List ActivationEntryBody)
    (shown : admittedIn (nextRound request externals (opened request)) = some ids)
    (spared : ids.all (spared request) = true)
    (answers : (tables first second).Answers request.knowledgeSnapshot 8)
    (found : ids.Nodup →
      ((tables first second).found request.knowledgeSnapshot 8 ids).map bodyOf = loaded)
    (one : (entered request externals (session request) loaded).map (·.keys) = some together)
    (each : (entered request externals (session request)
      (readableBodies (tables first second) 8 ids)).map (·.keys) = some apart) :
    Activates request first second together apart := by
  obtain ⟨outcome, ran, rfl⟩ := session_round shown
  have awaiting := nextRound_awaits ran
  have spares := session_spares spared
  have dispensable : ∀ key ∈ outcome.admitted, Dispensable request (session request) key :=
    fun key member => admittedIsMandatory_eq_false_iff.mp (spares key member)
  refine ⟨outcome, ran, spares, ?_, ?_⟩
  · rw [supplyRound_entered awaiting.toAdmits dispensable, found awaiting.distinct]
    exact one
  · rw [supplySeparately_entered awaiting.toAdmits dispensable, found_each answers]
    exact each

/-- A fact that is too long takes the other one down with it. -/
theorem oversized_drops_other : Activates spacious "very long" "older" [] [legend] := by
  have shown : admittedIn (nextRound spacious externals (opened spacious)) = some [lore, legend] := by
    decide +kernel
  have spared : [lore, legend].all (spared spacious) = true := by decide +kernel
  have answers : (tables "very long" "older").Answers spacious.knowledgeSnapshot 8 := ⟨by decide, rfl⟩
  have spoilt : (tables "very long" "older").unreadable 8 lore = true := by decide +kernel
  have bodies : readableBodies (tables "very long" "older") 8 [lore, legend] =
      [bodyOf (fact ⟨legend, rfl⟩ "older").record] := by
    rw [readableBodies, List.filterMap_cons, KnowledgeTables.record_of_unreadable spoilt,
      List.filterMap_cons, legend_read]
    rfl
  refine activates [] shown spared answers (fun distinct => ?_) ?_ ?_
  · rw [found_batchFails answers distinct (.inr ⟨lore, List.mem_cons_self, spoilt⟩)]
    rfl
  · decide +kernel
  · rw [bodies]
    decide +kernel

/-- Where there is room for one of the facts, it is the first by id, not the first admitted. -/
theorem narrow_takes_first_id : Activates narrow "old" "older" [lore] [legend] := by
  have shown : admittedIn (nextRound narrow externals (opened narrow)) = some [legend, lore] := by
    decide +kernel
  have spared : [legend, lore].all (spared narrow) = true := by decide +kernel
  have answers : (tables "old" "older").Answers narrow.knowledgeSnapshot 8 := ⟨by decide, rfl⟩
  have reads : ¬BatchFails (tables "old" "older") 8 [legend, lore] :=
    both_read (List.Perm.swap lore legend []).subset (Nat.le_of_ble_eq_true rfl)
  have bodies : readableBodies (tables "old" "older") 8 [legend, lore] =
      [bodyOf (fact ⟨legend, rfl⟩ "older").record, bodyOf (fact ⟨lore, rfl⟩ "old").record] := by
    rw [readableBodies, List.filterMap_cons, legend_read, List.filterMap_cons, lore_read]
    rfl
  have sorted : bySourceId [bodyOf (fact ⟨legend, rfl⟩ "older").record,
      bodyOf (fact ⟨lore, rfl⟩ "old").record] =
      [bodyOf (fact ⟨lore, rfl⟩ "old").record, bodyOf (fact ⟨legend, rfl⟩ "older").record] :=
    bySourceId_eq (List.Perm.swap ..) (by decide)
  refine activates [bodyOf (fact ⟨lore, rfl⟩ "old").record, bodyOf (fact ⟨legend, rfl⟩ "older").record]
    shown spared answers (fun distinct => ?_) ?_ ?_
  · rw [found_together answers distinct reads, bodies, sorted]
  · decide +kernel
  · rw [bodies]
    decide +kernel

/-- One load is not what a load for each source is, be a fact too long or the room short. -/
theorem loads_differ : Activates spacious "very long" "older" [] [legend] ∧
    Activates narrow "old" "older" [lore] [legend] :=
  ⟨oversized_drops_other, narrow_takes_first_id⟩

end Bodies.Sample

end Aise.Domain
