import Aise.Persistence.KnowledgeRows

/-! The bodies of knowledge that a round of activation asks for. They are read by one statement, in
the order of their ids, and only where they are not too many and every row among them can be read. -/
namespace Aise.Domain

/-- The first letter of an id tells its kind. -/
theorem KnowledgeSourceId.asStr_injective : Function.Injective KnowledgeSourceId.asStr := by
  intro first second same
  have starts (id : KnowledgeSourceId) : id.kind.idPrefix <+: id.asStr.toList := by
    have accepted := id.accepted
    rw [isKnowledgeId, Bool.and_eq_true] at accepted
    exact List.isPrefixOf_iff_prefix.mp accepted.1
  have letter (kind : KnowledgeKind) (rest : List Char) :
      (kind.idPrefix ++ rest).head? = kind.idPrefix.head? := by
    cases kind <;> rfl
  have apart (one two : KnowledgeKind) (letters : one.idPrefix.head? = two.idPrefix.head?) :
      one = two := by
    revert letters
    cases one <;> cases two <;> decide
  have kinds : first.kind = second.kind := by
    obtain ⟨rest, here⟩ := starts first
    obtain ⟨rest', there⟩ := starts second
    rw [← same, ← here] at there
    apply apart
    rw [← letter first.kind rest, ← letter second.kind rest', there]
  apply KnowledgeSourceId.rank_injective
  rw [KnowledgeSourceId.rank, KnowledgeSourceId.rank, kinds, same]

end Aise.Domain

namespace Aise.Domain.Persistence

def validateFilter (filter : KnowledgeFilter) : Except StoreError Unit := do
  Result.failIf (filter.knowledgeKinds = []) (.constraintViolation "knowledge_kinds_empty")
  Result.failIf (filter.maxItemBytes = 0) (.limitExceeded "max_item_bytes")
  match filter.delivery with
  | .writer =>
    Result.failIf (.memory ∈ filter.knowledgeKinds)
      (.constraintViolation "memory_forbidden_for_writer_delivery")
  | .character _ =>
    Result.failIf (.fact ∈ filter.knowledgeKinds)
      (.constraintViolation "fact_forbidden_for_character_delivery")

/-- The clauses of `push_authorization`. -/
def authorizes (filter : KnowledgeFilter) (row : KnowledgeRow) : Bool :=
  match filter.delivery with
  | .writer => true
  | .character roleId =>
    row.knowledgeKind ≠ "fact" &&
      (row.knowledgeKind ≠ "memory" || row.memoryOwnerRoleId = some roleId.value)

/-- The `WHERE` of the statement. -/
def selects (query : SourceKnowledgeQuery) (row : KnowledgeRow) : Bool :=
  row.knowledgeKind ∈ query.filter.knowledgeKinds.map KnowledgeKind.name &&
    (query.sourceIds.any fun id => row.isAt id.kind.name id.asStr) && authorizes query.filter row

/-- `SQLITE_MAX_EXPR_DEPTH`, which nothing sets to another value. -/
def maxExpressionDepth : Nat := 1000

/-- The levels of the `WHERE`. A source is a column of a table, compared and joined to another, with
the sources joined one to the next and then to the clauses before and after them. -/
def whereDepth (query : SourceKnowledgeQuery) : Nat :=
  match query.filter.delivery with
  | .writer => query.sourceIds.length + 4
  | .character _ => query.sourceIds.length + 6

def orderedById (rows : List KnowledgeRow) : List KnowledgeRow :=
  rows.mergeSort fun first second => first.sourceId ≤ second.sourceId

def loadBySourceIds (story : Option (Int64 × Sha256Digest)) (rows : List KnowledgeRow)
    (query : SourceKnowledgeQuery) : Except StoreError (List KnowledgeRecord) := do
  validateFilter query.filter
  verifySnapshot story query.snapshot
  if query.sourceIds = [] ∨ query.limit = 0 then return []
  else
    Result.failIf (2 ^ 63 ≤ query.limit) (.limitExceeded "knowledge_limit")
    -- no statement is prepared of an expression that is too deep
    Result.failIf (maxExpressionDepth < whereDepth query) .unavailable
    ((orderedById (rows.filter (selects query))).take query.limit).mapM fun row =>
      materializeRow row query.filter.maxItemBytes

/-- What the store has of a story. Kind and id are the key of a row. -/
structure KnowledgeTables where
  story : Option (Int64 × Sha256Digest)
  rows : List KnowledgeRow
  keyed : (rows.map KnowledgeRow.key).Nodup

namespace KnowledgeTables
variable (tables : KnowledgeTables)

/-- `KnowledgeReadPort::find_by_source_ids`. -/
def findBySourceIds (query : SourceKnowledgeQuery) : Except StoreError (List KnowledgeRecord) :=
  loadBySourceIds tables.story tables.rows query

/-- The row of a source, if that is told to the writer. -/
def row (id : KnowledgeSourceId) : Option KnowledgeRow :=
  if id.kind = .memory then none else tables.rows.find? (KnowledgeRow.isAt id.kind.name id.asStr)

variable (maxItemBytes : Nat)

def record (id : KnowledgeSourceId) : Option KnowledgeRecord :=
  (tables.row id).bind fun row => (materializeRow row maxItemBytes).toOption

/-- There is a row of the source, and it cannot be read. -/
def unreadable (id : KnowledgeSourceId) : Bool :=
  (tables.row id).any fun row => (materializeRow row maxItemBytes).toOption.isNone

end KnowledgeTables

/-- The query of `load_bodies`. -/
def bodyQuery (snapshot : KnowledgeSnapshotRef) (maxItemBytes : Nat)
    (admitted : List KnowledgeSourceId) : SourceKnowledgeQuery where
  snapshot
  filter := ⟨.writer, [.fact, .rumor], maxItemBytes⟩
  sourceIds := admitted
  limit := admitted.length

/-! ### Rows -/

theorem row_isAt_iff {row : KnowledgeRow} {id : KnowledgeSourceId} :
    row.isAt id.kind.name id.asStr = true ↔ row.key = id.columns := KnowledgeRow.isAt_iff

theorem materializeRow_source {row : KnowledgeRow} {maxItemBytes : Nat} {record : KnowledgeRecord}
    (read : materializeRow row maxItemBytes = .ok record) {id : KnowledgeSourceId}
    (here : row.key = id.columns) : record.sourceId = id ∧ record.kind = id.kind := by
  obtain ⟨kindName, text⟩ := Prod.mk.inj here
  unfold materializeRow at read
  obtain ⟨_, _, read⟩ := Result.bind_eq_ok read
  obtain ⟨_, _, read⟩ := Result.bind_eq_ok read
  obtain ⟨_, _, read⟩ := Result.bind_eq_ok read
  obtain ⟨kind, parsed, read⟩ := Result.bind_eq_ok read
  obtain ⟨_, _, read⟩ := Result.bind_eq_ok read
  obtain ⟨_, _, read⟩ := Result.bind_eq_ok read
  obtain ⟨sourceId, made, read⟩ := Result.bind_eq_ok read
  obtain ⟨_, _, read⟩ := Result.bind_eq_ok read
  obtain ⟨_, _, read⟩ := Result.bind_eq_ok read
  obtain ⟨_, _, read⟩ := Result.bind_eq_ok read
  obtain ⟨_, _, read⟩ := Result.bind_eq_ok read
  obtain ⟨_, _, read⟩ := Result.bind_eq_ok read
  cases read
  rw [kindName, parseKind_name] at parsed
  cases parsed
  rw [text, makeSourceId_asStr] at made
  cases made
  exact ⟨rfl, rfl⟩

namespace KnowledgeTables
variable {tables : KnowledgeTables} {maxItemBytes : Nat} {snapshot : KnowledgeSnapshotRef}
  {id : KnowledgeSourceId} {ids : List KnowledgeSourceId}

theorem row_eq_some {row : KnowledgeRow} :
    tables.row id = some row ↔ id.kind ≠ .memory ∧ row ∈ tables.rows ∧ row.key = id.columns := by
  rw [KnowledgeTables.row]
  split
  · rename_i memory
    exact iff_of_false nofun fun told => told.1 memory
  · rename_i told
    constructor
    · intro found
      exact ⟨told, List.mem_of_find?_eq_some found, row_isAt_iff.mp (List.find?_some found)⟩
    · rintro ⟨-, member, here⟩
      cases found : tables.rows.find? (KnowledgeRow.isAt id.kind.name id.asStr) with
      | none => exact absurd (row_isAt_iff.mpr here) (List.find?_eq_none.mp found row member)
      | some other =>
        have same := (row_isAt_iff.mp (List.find?_some found)).trans here.symm
        exact congrArg some
          (List.inj_on_of_nodup_map tables.keyed (List.mem_of_find?_eq_some found) member same)

theorem record_source {record : KnowledgeRecord} (read : tables.record maxItemBytes id = some record) :
    record.sourceId = id ∧ record.kind = id.kind := by
  obtain ⟨row, found, materialized⟩ := Option.bind_eq_some_iff.mp read
  exact materializeRow_source (Result.toOption_eq_some materialized) (row_eq_some.mp found).2.2

theorem selects_iff {row : KnowledgeRow} (member : row ∈ tables.rows) :
    selects (bodyQuery snapshot maxItemBytes ids) row = true ↔
      ∃ id ∈ ids, tables.row id = some row := by
  have told (kind : KnowledgeKind) :
      kind.name ∈ [KnowledgeKind.fact, .rumor].map KnowledgeKind.name ↔ kind ≠ .memory := by
    cases kind <;> decide
  rw [selects, Bool.and_eq_true, Bool.and_eq_true, List.any_eq_true]
  constructor
  · rintro ⟨⟨known, id, asked, here⟩, -⟩
    have columns := row_isAt_iff.mp here
    have kind := of_decide_eq_true known
    rw [(Prod.mk.inj columns).1] at kind
    exact ⟨id, asked, row_eq_some.mpr ⟨(told id.kind).mp kind, member, columns⟩⟩
  · rintro ⟨id, asked, found⟩
    obtain ⟨kind, -, columns⟩ := row_eq_some.mp found
    refine ⟨⟨decide_eq_true ?_, id, asked, row_isAt_iff.mpr columns⟩, rfl⟩
    rw [(Prod.mk.inj columns).1]
    exact (told id.kind).mpr kind

/-- The rows that the statement selects are those of the sources. -/
theorem selected_perm (distinct : ids.Nodup) :
    (tables.rows.filter (selects (bodyQuery snapshot maxItemBytes ids))).Perm
      (ids.filterMap tables.row) := by
  have rows : tables.rows.Nodup := List.Nodup.of_map _ tables.keyed
  refine (List.perm_ext_iff_of_nodup (rows.filter _) ?_).mpr fun row => ?_
  · refine distinct.filterMap fun id other row found also => ?_
    have columns := (row_eq_some.mp found).2.2.symm.trans (row_eq_some.mp also).2.2
    exact KnowledgeSourceId.columns_injective columns
  · rw [List.mem_filter, List.mem_filterMap]
    constructor
    · rintro ⟨member, selected⟩
      exact (selects_iff member).mp selected
    · rintro ⟨id, asked, found⟩
      have member := (row_eq_some.mp found).2.1
      exact ⟨member, (selects_iff member).mpr ⟨id, asked, found⟩⟩

/-- The records of rows are as many as the rows and in their order. -/
theorem ordered_records {rows : List KnowledgeRow} {records : List KnowledgeRecord}
    (keys : ∀ row ∈ rows, ∃ id, row.key = KnowledgeSourceId.columns id)
    (read : (orderedById rows).mapM (fun row => materializeRow row maxItemBytes) = .ok records) :
    records.Pairwise fun first second => first.sourceId.asStr ≤ second.sourceId.asStr := by
  have texts : records.map (·.sourceId.asStr) = (orderedById rows).map (·.sourceId) := by
    refine Result.map_of_forall₂ _ _ (Result.mapM_eq_ok read) fun row member record here => ?_
    obtain ⟨id, columns⟩ := keys row (List.mem_mergeSort.mp member)
    rw [(materializeRow_source here columns).1]
    exact (Prod.mk.inj columns).2.symm
  have ordered : (orderedById rows).Pairwise fun first second => first.sourceId ≤ second.sourceId := by
    have sorted : (orderedById rows).Pairwise fun first second =>
        decide (first.sourceId ≤ second.sourceId) = true := by
      refine List.pairwise_mergeSort (fun a b c first second => ?_) (fun a b => ?_) rows
      · exact decide_eq_true (le_trans (of_decide_eq_true first) (of_decide_eq_true second))
      · rw [Bool.or_eq_true, decide_eq_true_eq, decide_eq_true_eq]
        exact le_total a.sourceId b.sourceId
    exact sorted.imp of_decide_eq_true
  have sorted := List.pairwise_map.mpr ordered
  rw [← texts] at sorted
  exact List.pairwise_map.mp sorted

/-! ### Statements -/

/-- Whether the store answers for a snapshot at all. -/
def Answers (tables : KnowledgeTables) (snapshot : KnowledgeSnapshotRef) (maxItemBytes : Nat) : Prop :=
  maxItemBytes ≠ 0 ∧ verifySnapshot tables.story snapshot = .ok ⟨⟩

theorem findBySourceIds_unanswered (refuses : ¬tables.Answers snapshot maxItemBytes) :
    ∃ failure, tables.findBySourceIds (bodyQuery snapshot maxItemBytes ids) = .error failure := by
  unfold findBySourceIds loadBySourceIds
  by_cases zero : maxItemBytes = 0
  · rw [zero]
    exact ⟨_, rfl⟩
  · have accepted : validateFilter (bodyQuery snapshot maxItemBytes ids).filter = .ok ⟨⟩ := by
      simp only [validateFilter, bodyQuery, Result.failIf, zero, bind, Except.bind, if_false]
      rfl
    rw [accepted]
    cases verified : verifySnapshot tables.story snapshot with
    | ok _ => exact absurd ⟨zero, verified⟩ refuses
    | error failure =>
      refine ⟨failure, ?_⟩
      have same : (bodyQuery snapshot maxItemBytes ids).snapshot = snapshot := rfl
      rw [same, verified]
      rfl

/-- How many sources a statement can name. -/
def Few (ids : List KnowledgeSourceId) : Prop := ids.length ≤ 996

theorem few_one : Few [id] := by
  rw [Few, List.length_singleton]
  decide

/-- A store that answers takes the sources for a statement, if it can be prepared. -/
theorem findBySourceIds_prepared (answers : tables.Answers snapshot maxItemBytes) (asks : ids ≠ []) :
    tables.findBySourceIds (bodyQuery snapshot maxItemBytes ids) = (do
      Result.failIf (2 ^ 63 ≤ ids.length) (.limitExceeded "knowledge_limit")
      Result.failIf (1000 < ids.length + 4) .unavailable
      ((orderedById (tables.rows.filter (selects (bodyQuery snapshot maxItemBytes ids)))).take
        ids.length).mapM fun row => materializeRow row maxItemBytes) := by
  have accepted : validateFilter (bodyQuery snapshot maxItemBytes ids).filter = .ok ⟨⟩ := by
    simp only [validateFilter, bodyQuery, Result.failIf, answers.1, bind, Except.bind, if_false]
    rfl
  have verified : verifySnapshot tables.story (bodyQuery snapshot maxItemBytes ids).snapshot = .ok ⟨⟩ :=
    answers.2
  have asked : ¬((bodyQuery snapshot maxItemBytes ids).sourceIds = [] ∨
      (bodyQuery snapshot maxItemBytes ids).limit = 0) := by
    rintro (none | none)
    · exact asks none
    · exact asks (List.length_eq_zero_iff.mp none)
  unfold findBySourceIds loadBySourceIds
  rw [accepted, verified]
  exact if_neg asked

/-- A statement with more sources is refused. -/
theorem findBySourceIds_many (many : ¬Few ids) :
    ∃ failure, tables.findBySourceIds (bodyQuery snapshot maxItemBytes ids) = .error failure := by
  by_cases answers : tables.Answers snapshot maxItemBytes
  · have asks : ids ≠ [] := by
      rintro rfl
      exact many (Nat.zero_le 996)
    have deep : 1000 < ids.length + 4 := by
      have more := Nat.not_le.mp many
      omega
    rw [findBySourceIds_prepared answers asks]
    by_cases huge : 2 ^ 63 ≤ ids.length
    · rw [Result.failIf, if_pos huge]
      exact ⟨_, rfl⟩
    · rw [Result.failIf, if_neg huge, Result.failIf, if_pos deep]
      exact ⟨_, rfl⟩
  · exact findBySourceIds_unanswered answers

/-- A store that answers reads the rows of the sources in the order of their ids. -/
theorem findBySourceIds_answered (answers : tables.Answers snapshot maxItemBytes) (asks : ids ≠ [])
    (few : Few ids) (distinct : ids.Nodup) :
    tables.findBySourceIds (bodyQuery snapshot maxItemBytes ids) =
      (orderedById (tables.rows.filter (selects (bodyQuery snapshot maxItemBytes ids)))).mapM
        fun row => materializeRow row maxItemBytes := by
  have short : (orderedById
      (tables.rows.filter (selects (bodyQuery snapshot maxItemBytes ids)))).length ≤ ids.length := by
    rw [orderedById, List.length_mergeSort, (selected_perm distinct).length_eq]
    exact List.length_filterMap_le _ _
  have bounded : ¬2 ^ 63 ≤ ids.length := Nat.not_le.mpr (Nat.lt_of_le_of_lt few (by decide))
  have shallow : ¬1000 < ids.length + 4 := Nat.not_lt.mpr (Nat.add_le_add_right few 4)
  rw [findBySourceIds_prepared answers asks, Result.failIf, if_neg bounded, Result.failIf, if_neg shallow,
    List.take_of_length_le short]
  rfl

/-- One row that cannot be read fails the whole statement. -/
theorem findBySourceIds_unreadable (answers : tables.Answers snapshot maxItemBytes)
    (few : Few ids) (distinct : ids.Nodup) (asked : id ∈ ids)
    (spoilt : tables.unreadable maxItemBytes id = true) :
    ∃ failure, tables.findBySourceIds (bodyQuery snapshot maxItemBytes ids) = .error failure := by
  rw [findBySourceIds_answered answers (List.ne_nil_of_mem asked) few distinct]
  obtain ⟨row, found, unread⟩ := (Option.any_eq_true ..).mp spoilt
  cases read : (orderedById (tables.rows.filter (selects (bodyQuery snapshot maxItemBytes ids)))).mapM
      fun row => materializeRow row maxItemBytes with
  | error failure => exact ⟨failure, rfl⟩
  | ok records =>
    have member : row ∈ orderedById
        (tables.rows.filter (selects (bodyQuery snapshot maxItemBytes ids))) :=
      List.mem_mergeSort.mpr
        ((selected_perm distinct).mem_iff.mpr (List.mem_filterMap.mpr ⟨id, asked, found⟩))
    obtain ⟨record, -, materialized⟩ := Result.exists_of_forall₂ (Result.mapM_eq_ok read).flip member
    have here : materializeRow row maxItemBytes = .ok record := materialized
    rw [here] at unread
    cases unread

/-- Where every row can be read, the records of the sources are read, in the order of their ids. -/
theorem findBySourceIds_readable (answers : tables.Answers snapshot maxItemBytes) (asks : ids ≠ [])
    (few : Few ids) (distinct : ids.Nodup)
    (readable : ∀ id ∈ ids, tables.unreadable maxItemBytes id = false) :
    ∃ records, tables.findBySourceIds (bodyQuery snapshot maxItemBytes ids) = .ok records ∧
      records.Perm (ids.filterMap (tables.record maxItemBytes)) ∧
      records.Pairwise fun first second => first.sourceId.asStr ≤ second.sourceId.asStr := by
  rw [findBySourceIds_answered answers asks few distinct]
  have selected : (tables.rows.filter (selects (bodyQuery snapshot maxItemBytes ids))).Perm
      (ids.filterMap tables.row) := selected_perm distinct
  have ordered := (List.mergeSort_perm (tables.rows.filter (selects
    (bodyQuery snapshot maxItemBytes ids))) fun first second => first.sourceId ≤ second.sourceId).trans
      selected
  have each : ∀ row ∈ orderedById (tables.rows.filter (selects (bodyQuery snapshot maxItemBytes ids))),
      ∃ id ∈ ids, tables.row id = some row := by
    intro row member
    exact List.mem_filterMap.mp (ordered.mem_iff.mp member)
  obtain ⟨records, read⟩ := Result.mapM_total (f := fun row => materializeRow row maxItemBytes)
    fun row member => by
      obtain ⟨id, asked, found⟩ := each row member
      have good := readable id asked
      rw [unreadable, found, Option.any_some] at good
      cases materialized : materializeRow row maxItemBytes with
      | ok record => exact ⟨record, rfl⟩
      | error failure =>
        rw [materialized] at good
        cases good
  refine ⟨records, read, ?_, ordered_records (fun row member => ?_) read⟩
  · have collected : records.map some = (orderedById (tables.rows.filter (selects
        (bodyQuery snapshot maxItemBytes ids)))).map
          fun row => (materializeRow row maxItemBytes).toOption := by
      refine Result.map_of_forall₂ _ _ (Result.mapM_eq_ok read) fun row _ record here => ?_
      rw [here]
      rfl
    have same := congrArg (List.filterMap id) collected
    rw [List.filterMap_map, List.filterMap_map] at same
    have all : records.filterMap (id ∘ some) = records := List.filterMap_some
    rw [all] at same
    have through : ids.filterMap (tables.record maxItemBytes) =
        (ids.filterMap tables.row).filterMap fun row => (materializeRow row maxItemBytes).toOption := by
      rw [List.filterMap_filterMap]
      rfl
    rw [same, through]
    exact ordered.filterMap _
  · obtain ⟨id, asked, found⟩ := each row (List.mem_mergeSort.mpr member)
    exact ⟨id, (row_eq_some.mp found).2.2⟩

/-- The records that a statement has returned, none where it has failed. -/
def found (tables : KnowledgeTables) (snapshot : KnowledgeSnapshotRef) (maxItemBytes : Nat)
    (ids : List KnowledgeSourceId) : List KnowledgeRecord :=
  (tables.findBySourceIds (bodyQuery snapshot maxItemBytes ids)).toOption.getD []

theorem found_of_error
    (failed : ∃ failure, tables.findBySourceIds (bodyQuery snapshot maxItemBytes ids) = .error failure) :
    tables.found snapshot maxItemBytes ids = [] := by
  obtain ⟨failure, failed⟩ := failed
  rw [found, failed]
  rfl

theorem found_readable (answers : tables.Answers snapshot maxItemBytes) (asks : ids ≠ [])
    (few : Few ids) (distinct : ids.Nodup)
    (readable : ∀ id ∈ ids, tables.unreadable maxItemBytes id = false) :
    (tables.found snapshot maxItemBytes ids).Perm (ids.filterMap (tables.record maxItemBytes)) ∧
      (tables.found snapshot maxItemBytes ids).Pairwise fun first second =>
        first.sourceId.asStr ≤ second.sourceId.asStr := by
  obtain ⟨records, read, same⟩ := findBySourceIds_readable answers asks few distinct readable
  rw [found, read]
  exact same

theorem record_of_unreadable (spoilt : tables.unreadable maxItemBytes id = true) :
    tables.record maxItemBytes id = none := by
  obtain ⟨row, here, unread⟩ := (Option.any_eq_true ..).mp spoilt
  rw [record, here]
  exact Option.isNone_iff_eq_none.mp unread

theorem unreadable_of_record {record : KnowledgeRecord}
    (read : tables.record maxItemBytes id = some record) : tables.unreadable maxItemBytes id = false := by
  apply Bool.eq_false_iff.mpr
  intro spoilt
  cases read.symm.trans (record_of_unreadable spoilt)

theorem records_distinct (distinct : ids.Nodup) :
    ((ids.filterMap (tables.record maxItemBytes)).map (·.sourceId)).Nodup := by
  rw [List.map_filterMap]
  refine distinct.filterMap fun id other key here there => ?_
  obtain ⟨record, read, rfl⟩ := Option.map_eq_some_iff.mp here
  obtain ⟨record', read', same⟩ := Option.map_eq_some_iff.mp there
  exact (record_source read).1.symm.trans (same.symm.trans (record_source read').1)

theorem found_nil : tables.found snapshot maxItemBytes [] = [] := by
  unfold found findBySourceIds loadBySourceIds
  cases validateFilter (bodyQuery snapshot maxItemBytes []).filter with
  | error failure => rfl
  | ok _ =>
    cases verifySnapshot tables.story (bodyQuery snapshot maxItemBytes []).snapshot with
    | error failure => rfl
    | ok _ => rfl

/-- A statement that fails returns no record, any other those that can be read. -/
theorem found_cases (distinct : ids.Nodup) :
    tables.found snapshot maxItemBytes ids = [] ∨
      (tables.found snapshot maxItemBytes ids).Perm (ids.filterMap (tables.record maxItemBytes)) := by
  by_cases asks : ids = []
  · rw [asks]
    exact .inl found_nil
  · by_cases answers : tables.Answers snapshot maxItemBytes ∧ Few ids
    · obtain ⟨answers, few⟩ := answers
      by_cases readable : ∀ id ∈ ids, tables.unreadable maxItemBytes id = false
      · exact .inr (found_readable answers asks few distinct readable).1
      · push Not at readable
        obtain ⟨id, asked, spoilt⟩ := readable
        exact .inl (found_of_error
          (findBySourceIds_unreadable answers few distinct asked (Bool.eq_true_of_not_eq_false spoilt)))
    · refine .inl (found_of_error ?_)
      rcases not_and_or.mp answers with refuses | many
      · exact findBySourceIds_unanswered refuses
      · exact findBySourceIds_many many

theorem found_asked (distinct : ids.Nodup) {record : KnowledgeRecord}
    (member : record ∈ tables.found snapshot maxItemBytes ids) :
    record.sourceId ∈ ids ∧ record.kind = record.sourceId.kind := by
  rcases @found_cases tables maxItemBytes snapshot ids distinct with none | same
  · rw [none] at member
    cases member
  · obtain ⟨id, asked, read⟩ := List.mem_filterMap.mp (same.mem_iff.mp member)
    obtain ⟨here, kind⟩ := record_source read
    rw [here]
    exact ⟨asked, kind⟩

theorem found_distinct (distinct : ids.Nodup) :
    ((tables.found snapshot maxItemBytes ids).map (·.sourceId)).Nodup := by
  rcases @found_cases tables maxItemBytes snapshot ids distinct with none | same
  · rw [none]
    exact List.nodup_nil
  · exact (same.map _).nodup_iff.mpr (records_distinct distinct)

/-- Of one source a statement returns what can be read of it. -/
theorem found_one (answers : tables.Answers snapshot maxItemBytes) :
    tables.found snapshot maxItemBytes [id] = (tables.record maxItemBytes id).toList := by
  cases spoilt : tables.unreadable maxItemBytes id with
  | true =>
    rw [record_of_unreadable spoilt]
    exact found_of_error
      (findBySourceIds_unreadable answers few_one (List.nodup_singleton id) List.mem_cons_self spoilt)
  | false =>
    have same := (found_readable answers (List.cons_ne_nil id []) few_one (List.nodup_singleton id)
      (List.forall_mem_singleton.mpr spoilt)).1
    rw [List.filterMap_cons, List.filterMap_nil] at same
    cases read : tables.record maxItemBytes id with
    | none =>
      rw [read] at same
      exact same.eq_nil
    | some record =>
      rw [read] at same
      exact same.eq_singleton

end KnowledgeTables

end Aise.Domain.Persistence
