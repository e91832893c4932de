import Aise.Context.Baseline
import Aise.Domain.StoredEntry
import Aise.Lib.Table
import Aise.Persistence.CommitRows

/-! The rows of the knowledge of a story with all their columns. Each row holds its entry twice, as
columns and as a payload. -/
namespace Aise.Domain

/-- `knowledge_kind_str` and `kind_name`. -/
def KnowledgeKind.name : KnowledgeKind → String
  | fact => "fact"
  | rumor => "rumor"
  | memory => "memory"

theorem KnowledgeKind.name_injective : Function.Injective KnowledgeKind.name := by
  intro first second same
  cases first <;> cases second <;> first | rfl | exact absurd same (by decide)

/-- What the row of an entry is told apart by. -/
def KnowledgeSourceId.columns (id : KnowledgeSourceId) : String × String := (id.kind.name, id.asStr)

theorem KnowledgeSourceId.columns_injective : Function.Injective KnowledgeSourceId.columns := by
  intro first second same
  obtain ⟨kind, text⟩ := Prod.mk.inj same
  have kinds := KnowledgeKind.name_injective kind
  cases first
  cases second
  cases kinds
  cases text
  rfl

/-- How a version is displayed. -/
def ActivationRuleVersion.display (version : ActivationRuleVersion) : String :=
  String.ofList (version.asDigest.bytes.flatMap hexByte)

/-- What is handed out of an entry. -/
def KnowledgeEntry.record (entry : KnowledgeEntry) : KnowledgeRecord where
  sourceId := entry.sourceId
  kind := entry.kind
  content := entry.content
  salience := entry.salience
  source := entry.source
  memoryOwner := entry.memoryOwner
  activation := entry.activation.map Prod.fst
  activationRuleVersion := entry.activation.map Prod.snd

end Aise.Domain

namespace Aise.Domain.Persistence
open RustText SerdeJson

/-! ### Rows -/

/-- A row of `knowledge_entries`. JSON columns are taken for the values that they are the text of. -/
structure KnowledgeRow where
  sourceId : String
  knowledgeKind : String
  memoryOwnerRoleId : Option String
  content : String
  retrievalHint : Option String
  salience : Int64
  sourceJson : Json
  payloadJson : Json
  activationRuleJson : Option Json
  activationRuleVersion : Option String

/-- What the table checks of a row. -/
def KnowledgeRow.checked (row : KnowledgeRow) : Bool :=
  row.knowledgeKind ∈ ["fact", "rumor", "memory"] &&
  (0 ≤ row.salience && row.salience ≤ 255) &&
  (if row.knowledgeKind = "memory" then
    row.memoryOwnerRoleId.isSome && row.activationRuleJson.isNone && row.activationRuleVersion.isNone
  else
    row.memoryOwnerRoleId.isNone && row.activationRuleJson.isSome && row.activationRuleVersion.isSome) &&
  (if row.knowledgeKind = "memory" then row.retrievalHint.isNone
  else row.retrievalHint.any fun hint => hint.toList.any (· ≠ ' '))

/-- The row has the key of these columns. -/
def KnowledgeRow.isAt (knowledgeKind sourceId : String) (row : KnowledgeRow) : Bool :=
  row.knowledgeKind = knowledgeKind && row.sourceId = sourceId

def invalidRecord : StoreError := .serialization .invalidStoryState

/-- `i64::from` of the salience. -/
def salienceColumn (salience : UInt8) : Int64 := Int64.ofNat salience.toNat

/-- `u8::try_from(salience).ok()`. -/
def readSalience (salience : Int64) : Option UInt8 :=
  if 0 ≤ salience.toInt ∧ salience.toInt < 2 ^ 8 then some (UInt8.ofNat salience.toInt.toNat) else none

theorem readSalience_column (salience : UInt8) : readSalience (salienceColumn salience) = some salience := by
  have bound := salience.toNat_lt
  have same : (salienceColumn salience).toInt = salience.toNat := Int64.toInt_ofNat_of_lt (by omega)
  rw [readSalience, same, if_pos (by omega), Int.toNat_natCast, UInt8.ofNat_toNat]

/-! ### Writing -/

/-- The row that is inserted for an entry. -/
def KnowledgeRow.of (entry : KnowledgeEntry) : KnowledgeRow where
  sourceId := entry.sourceId.asStr
  knowledgeKind := entry.kind.name
  memoryOwnerRoleId := entry.memoryOwner.map RoleId.value
  content := entry.content.value
  retrievalHint := entry.retrievalHint.map RetrievalHint.value
  salience := salienceColumn entry.salience
  sourceJson := knowledgeSourceCodec.encode entry.source
  payloadJson := knowledgeEntryCodec.encode entry
  activationRuleJson := entry.activation.map fun rule => knowledgeActivationRuleCodec.encode rule.1
  activationRuleVersion := entry.activation.map fun rule => rule.2.display

/-- The columns that an update sets, of which the retrieval hint is none. -/
def KnowledgeRow.rewrite (merged : KnowledgeEntry) (row : KnowledgeRow) : KnowledgeRow :=
  { row with
    content := merged.content.value
    salience := salienceColumn merged.salience
    sourceJson := knowledgeSourceCodec.encode merged.source
    payloadJson := knowledgeEntryCodec.encode merged
    activationRuleJson := merged.activation.map fun rule => knowledgeActivationRuleCodec.encode rule.1
    activationRuleVersion := merged.activation.map fun rule => rule.2.display }

def insertKnowledgeEntry (rows : List KnowledgeRow) (entry : KnowledgeEntry) :
    Except StoreError (List KnowledgeRow) := do
  let row := KnowledgeRow.of entry
  Result.failIf (¬row.checked) .checkFailed
  Result.failIf (rows.any (·.isAt row.knowledgeKind row.sourceId)) .duplicateKey
  return rows ++ [row]

def applyKnowledgeMutation (rows : List KnowledgeRow) (mutation : ValidatedKnowledgeMutation) :
    Except StoreError (List KnowledgeRow) :=
  match mutation.operation with
  | .add entry => insertKnowledgeEntry rows entry
  | .update target value => do
    let here := KnowledgeRow.isAt value.kind.name target.asStr
    let found ← Result.okOr (rows.find? here) (.constraintViolation "knowledge_update_target_missing")
    let existing ← Result.okOr (knowledgeEntryCodec.decode found.payloadJson) invalidRecord
    let merged ← mergeKnowledgeUpdate existing value
    let updated := SqlTable.update rows here (KnowledgeRow.rewrite merged)
    Result.failIf (¬rows.all fun row => !here row || (row.rewrite merged).checked) .checkFailed
    Result.failIf (updated.2 ≠ 1) (.constraintViolation "knowledge_update_target_missing")
    return updated.1
  | .delete target => do
    let deleted := SqlTable.delete rows
      (KnowledgeRow.isAt target.sourceId.kind.name target.sourceId.asStr)
    Result.failIf (deleted.2 ≠ 1) (.constraintViolation "knowledge_delete_target_missing")
    return deleted.1

/-- One mutation after the other, over any number of turns. -/
def applyAll (rows : List KnowledgeRow) (mutations : List ValidatedKnowledgeMutation) :
    Except StoreError (List KnowledgeRow) :=
  mutations.foldlM applyKnowledgeMutation rows

/-! ### Reading -/

def parseKind (value : String) : Except StoreError KnowledgeKind :=
  Result.okOr ([KnowledgeKind.fact, .rumor, .memory].find? (·.name = value)) invalidRecord

def makeSourceId (kind : KnowledgeKind) (value : String) : Except StoreError KnowledgeSourceId :=
  Result.okOr ((KnowledgeId.tryNew kind value).map Subtype.val) invalidRecord

def readOwner (owner : Option String) : Except StoreError (Option RoleId) :=
  owner.mapM fun value => Result.okOr (RoleId.tryNew value) invalidRecord

def materializeRow (row : KnowledgeRow) (maxItemBytes : Nat) : Except StoreError KnowledgeRecord := do
  Result.failIf (len row.content > maxItemBytes) (.limitExceeded "max_item_bytes")
  let payloadLimit := maxItemBytes * 4 + 4096
  Result.failIf (2 ^ 64 ≤ payloadLimit) (.limitExceeded "knowledge_payload_bytes")
  Result.failIf (size row.payloadJson.pieces > payloadLimit) (.limitExceeded "knowledge_payload_bytes")
  let kind ← parseKind row.knowledgeKind
  let memoryOwner ← readOwner row.memoryOwnerRoleId
  Result.failIf (decide (kind = .memory) ≠ memoryOwner.isSome) invalidRecord
  let sourceId ← makeSourceId kind row.sourceId
  let source ← Result.okOr (knowledgeSourceCodec.decode row.sourceJson) invalidRecord
  let content ← (BoundedText.tryNew row.content "knowledge_content" maxItemBytes).mapError
    fun _ => invalidRecord
  let payload ← Result.okOr (knowledgeEntryCodec.decode row.payloadJson) invalidRecord
  let salience ← Result.okOr (readSalience row.salience) invalidRecord
  let record : KnowledgeRecord :=
    { sourceId, kind, content, salience, source, memoryOwner
      activation := payload.activation.map Prod.fst
      activationRuleVersion := payload.activation.map Prod.snd }
  Result.failIf (payload.sourceId ≠ record.sourceId ∨ payload.kind ≠ record.kind ∨
    payload.content ≠ record.content ∨ payload.salience ≠ record.salience ∨
    payload.source ≠ record.source ∨ payload.memoryOwner ≠ record.memoryOwner) invalidRecord
  return record

/-- The story that a snapshot is taken of, by its revision and the digest of its pack. -/
def verifySnapshot (story : Option (Int64 × Sha256Digest)) (snapshot : KnowledgeSnapshotRef) :
    Except StoreError Unit := do
  let (revision, digest) ← Result.okOr story .notFound
  Result.failIf (revision < 0) invalidRecord
  Result.failIf (revision.toInt ≠ snapshot.baseRevision.toNat ∨ digest ≠ snapshot.packDigest)
    .revisionConflict

def indexRecord (row : KnowledgeRow) : Except StoreError KnowledgeIndexEntry := do
  let kind ← parseKind row.knowledgeKind
  Result.failIf (kind = .memory) invalidRecord
  let retrievalHint ← Result.okOr (row.retrievalHint.bind RetrievalHint.tryNew) invalidRecord
  let sourceId ← makeSourceId kind row.sourceId
  return { sourceId, retrievalHint }

def loadIndex (story : Option (Int64 × Sha256Digest)) (rows : List KnowledgeRow)
    (query : KnowledgeIndexQuery) : Except StoreError (List KnowledgeIndexEntry) := do
  verifySnapshot story query.snapshot
  let indexedKinds := query.knowledgeKinds.filter (· ≠ .memory)
  if indexedKinds = [] ∨ query.limit = 0 then return []
  else
    Result.failIf (2 ^ 63 ≤ query.limit) (.limitExceeded "knowledge_index_limit")
    let selected := rows.filter fun row => row.knowledgeKind ∈ indexedKinds.map KnowledgeKind.name
    let ordered := selected.mergeSort fun first second => first.sourceId ≤ second.sourceId
    (ordered.take query.limit).mapM indexRecord

/-! ### Agreement of columns and payload -/

/-- The payload reads as the entry, and the columns that updates set agree with it. -/
structure KnowledgeRow.Stores (row : KnowledgeRow) (entry : KnowledgeEntry) : Prop where
  payload : knowledgeEntryCodec.decode row.payloadJson = some entry
  sourceId : row.sourceId = entry.sourceId.asStr
  knowledgeKind : row.knowledgeKind = entry.kind.name
  memoryOwner : row.memoryOwnerRoleId = entry.memoryOwner.map RoleId.value
  content : row.content = entry.content.value
  salience : row.salience = salienceColumn entry.salience
  source : row.sourceJson = knowledgeSourceCodec.encode entry.source
  activationRule : row.activationRuleJson =
    entry.activation.map fun rule => knowledgeActivationRuleCodec.encode rule.1
  activationRuleVersion : row.activationRuleVersion = entry.activation.map fun rule => rule.2.display

/-- All columns agree with the entry that the payload reads as. -/
structure KnowledgeRow.Agrees (row : KnowledgeRow) (entry : KnowledgeEntry) : Prop
    extends row.Stores entry where
  retrievalHint : row.retrievalHint = entry.retrievalHint.map RetrievalHint.value

/-- The bytes of the row are within what is asked for. -/
def KnowledgeRow.Within (row : KnowledgeRow) (maxItemBytes : Nat) : Prop :=
  len row.content ≤ maxItemBytes ∧ maxItemBytes * 4 + 4096 < 2 ^ 64 ∧
    size row.payloadJson.pieces ≤ maxItemBytes * 4 + 4096

theorem parseKind_name (kind : KnowledgeKind) : parseKind kind.name = .ok kind := by
  cases kind <;> rfl

theorem makeSourceId_asStr (id : KnowledgeSourceId) : makeSourceId id.kind id.asStr = .ok id := by
  have made := KnowledgeId.tryNew_asStr (⟨id, rfl⟩ : KnowledgeId id.kind)
  dsimp only at made
  rw [makeSourceId, made]
  rfl

theorem readOwner_map (owner : Option RoleId) : readOwner (owner.map RoleId.value) = .ok owner := by
  cases owner with
  | none => rfl
  | some roleId =>
    simp only [readOwner, Option.map_some, Option.mapM_some, RoleId.tryNew_value]
    rfl

/-- What a payload is read as can be written and read again. -/
theorem storable_of_decode {json : Json} {entry : KnowledgeEntry}
    (read : knowledgeEntryCodec.decode json = some entry) :
    entry.Storable ∧ entry.stored = entry := by
  obtain ⟨storable, same⟩ :=
    KnowledgeEntry.readsAs_iff.mp (knowledgeEntryCodec.back (knowledgeEntryCodec.sound read))
  exact ⟨storable, same.symm⟩

namespace KnowledgeRow
variable {row : KnowledgeRow} {entry : KnowledgeEntry}

/-- A row that stores an entry is materialized, whatever its retrieval hint is. -/
theorem Stores.materializes (stores : row.Stores entry) {maxItemBytes : Nat}
    (within : row.Within maxItemBytes) : materializeRow row maxItemBytes = .ok entry.record := by
  obtain ⟨short, bounded, small⟩ := within
  have owner : readOwner row.memoryOwnerRoleId = .ok entry.memoryOwner := by
    rw [stores.memoryOwner, readOwner_map]
  have owned : decide (entry.kind = .memory) = entry.memoryOwner.isSome := by
    cases entry <;> rfl
  have sourceId : makeSourceId entry.kind row.sourceId = .ok entry.sourceId := by
    rw [stores.sourceId, ← entry.sourceId_kind, makeSourceId_asStr]
  have source : knowledgeSourceCodec.decode row.sourceJson = some entry.source := by
    rw [stores.source]
    exact knowledgeSourceCodec.back
      (knowledgeSource_readable_iff.mpr (storable_of_decode stores.payload).1.source)
  have content : BoundedText.tryNew row.content "knowledge_content" maxItemBytes = .ok entry.content := by
    rw [BoundedText.tryNew, if_neg (Nat.not_lt.mpr short), stores.content]
  have salience : readSalience row.salience = some entry.salience := by
    rw [stores.salience, readSalience_column]
  unfold materializeRow
  simp only [Result.failIf, Nat.not_lt.mpr short, Nat.not_le.mpr bounded, Nat.not_lt.mpr small,
    stores.knowledgeKind, parseKind_name, owner, owned, sourceId, source, content, stores.payload, salience,
    Result.okOr, Except.mapError, bind, Except.bind, if_false, ne_eq, not_true_eq_false, or_self]
  rfl

/-- The listing shows the hint of the entry where the columns agree with it. -/
theorem Agrees.listed (agrees : row.Agrees entry) {hint : RetrievalHint}
    (hinted : entry.retrievalHint = some hint) :
    indexRecord row = .ok ⟨entry.sourceId, hint⟩ := by
  have known : entry.kind ≠ .memory := by
    cases entry with
    | memory value => cases hinted
    | fact value => exact nofun
    | rumor value => exact nofun
  have sourceId : makeSourceId entry.kind row.sourceId = .ok entry.sourceId := by
    rw [agrees.sourceId, ← entry.sourceId_kind, makeSourceId_asStr]
  unfold indexRecord
  simp only [Result.failIf, agrees.knowledgeKind, parseKind_name, known, agrees.retrievalHint, hinted,
    Option.map_some, Option.bind_some, RetrievalHint.tryNew_value, sourceId, Result.okOr, bind, Except.bind,
    if_false]
  rfl

end KnowledgeRow

/-- Every row agrees with its payload, none is refused for what it holds, and what is listed are the
hints of the payloads. -/
structure KnowledgeConsistent (rows : List KnowledgeRow) : Prop where
  columns : ∀ row ∈ rows, ∃ entry, row.Agrees entry
  materialized : ∀ row ∈ rows, ∀ maxItemBytes, row.Within maxItemBytes →
    ∃ record, materializeRow row maxItemBytes = .ok record
  listed : ∀ story query, verifySnapshot story query.snapshot = .ok ⟨⟩ → query.limit < 2 ^ 63 →
    ∃ listing, loadIndex story rows query = .ok listing ∧ ∀ record ∈ listing, ∃ row ∈ rows, ∃ entry,
      knowledgeEntryCodec.decode row.payloadJson = some entry ∧ record.sourceId = entry.sourceId ∧
        entry.retrievalHint = some record.retrievalHint

theorem hinted_of_kind {entry : KnowledgeEntry} (known : entry.kind ≠ .memory) :
    ∃ hint, entry.retrievalHint = some hint := by
  cases entry with
  | fact value => exact ⟨_, rfl⟩
  | rumor value => exact ⟨_, rfl⟩
  | memory value => exact absurd rfl known

theorem knowledgeConsistent_iff {rows : List KnowledgeRow} :
    KnowledgeConsistent rows ↔ ∀ row ∈ rows, ∃ entry, row.Agrees entry := by
  refine ⟨fun consistent => consistent.columns, fun agree => ⟨agree, ?_, ?_⟩⟩
  · intro row member maxItemBytes within
    obtain ⟨entry, agrees⟩ := agree row member
    exact ⟨entry.record, agrees.materializes within⟩
  · intro story query verified bounded
    unfold loadIndex
    simp only [verified, bind, Except.bind]
    split
    · exact ⟨[], rfl, fun record member => absurd member List.not_mem_nil⟩
    · simp only [Result.failIf, Nat.not_le.mpr bounded, if_false]
      -- Only rows of facts and rumors are selected, and those have a hint.
      have each : ∀ row, row ∈ ((rows.filter fun row => row.knowledgeKind ∈
          (query.knowledgeKinds.filter (· ≠ .memory)).map KnowledgeKind.name).mergeSort
            fun first second => first.sourceId ≤ second.sourceId).take query.limit →
          ∃ entry hint, row ∈ rows ∧ row.Agrees entry ∧ entry.retrievalHint = some hint ∧
            indexRecord row = .ok ⟨entry.sourceId, hint⟩ := by
        intro row member
        have selected := List.mem_mergeSort.mp (List.mem_of_mem_take member)
        obtain ⟨among, indexed⟩ := List.mem_filter.mp selected
        obtain ⟨entry, agrees⟩ := agree row among
        rw [decide_eq_true_eq, List.mem_map] at indexed
        obtain ⟨kind, kept, same⟩ := indexed
        rw [agrees.knowledgeKind] at same
        have known : entry.kind ≠ .memory := by
          rw [← KnowledgeKind.name_injective same]
          simpa using (List.mem_filter.mp kept).2
        obtain ⟨hint, hinted⟩ := hinted_of_kind known
        exact ⟨entry, hint, among, agrees, hinted, agrees.listed hinted⟩
      obtain ⟨listing, listed⟩ := Result.mapM_total fun row member =>
        let ⟨_, _, _, _, _, record⟩ := each row member
        ⟨_, record⟩
      refine ⟨listing, listed, fun record member => ?_⟩
      obtain ⟨row, inside, here⟩ := Result.exists_of_forall₂ (Result.mapM_eq_ok listed) member
      obtain ⟨entry, hint, among, agrees, hinted, said⟩ := each row inside
      cases said.symm.trans here
      exact ⟨row, among, entry, agrees.payload, rfl, hinted⟩

/-! ### What a mutation keeps -/

namespace KnowledgeRow
variable {row : KnowledgeRow} {entry : KnowledgeEntry}

theorem of_agrees (storable : entry.Storable) : (KnowledgeRow.of entry).Agrees entry.stored where
  payload := KnowledgeEntry.readsAs_iff.mpr ⟨storable, rfl⟩
  sourceId := by rw [entry.stored_sourceId]; rfl
  knowledgeKind := by rw [entry.stored_kind]; rfl
  memoryOwner := by rw [entry.stored_memoryOwner]; rfl
  content := by rw [entry.stored_content]; rfl
  salience := by rw [entry.stored_salience]; rfl
  source := by rw [entry.stored_source]; rfl
  activationRule := by rw [entry.stored_activation]; rfl
  activationRuleVersion := by rw [entry.stored_activation]; rfl
  retrievalHint := by rw [entry.stored_retrievalHint]; rfl

/-- A rewritten row stores what is merged into it. -/
theorem Stores.rewrite (stores : row.Stores entry) {value merged : KnowledgeEntry}
    (ok : mergeKnowledgeUpdate entry value = .ok merged) (storable : merged.Storable) :
    (row.rewrite merged).Stores merged.stored := by
  have id := mergeKnowledgeUpdate_sourceId ok
  obtain ⟨kind, owner⟩ := mergeKnowledgeUpdate_same ok
  exact {
    payload := KnowledgeEntry.readsAs_iff.mpr ⟨storable, rfl⟩
    sourceId := by rw [merged.stored_sourceId, id]; exact stores.sourceId
    knowledgeKind := by rw [merged.stored_kind, kind]; exact stores.knowledgeKind
    memoryOwner := by rw [merged.stored_memoryOwner, owner]; exact stores.memoryOwner
    content := by rw [merged.stored_content]; rfl
    salience := by rw [merged.stored_salience]; rfl
    source := by rw [merged.stored_source]; rfl
    activationRule := by rw [merged.stored_activation]; rfl
    activationRuleVersion := by rw [merged.stored_activation]; rfl }

end KnowledgeRow

/-- What a merged entry is read back with comes from the value, but for the key that stays. -/
theorem mergeKnowledgeUpdate_value {existing value merged : KnowledgeEntry}
    (ok : mergeKnowledgeUpdate existing value = .ok merged) :
    merged.source = value.source ∧ merged.memoryKind = value.memoryKind ∧
      merged.retrievalHint = value.retrievalHint ∧ merged.key = existing.key := by
  unfold mergeKnowledgeUpdate at ok
  split at ok
  · cases ok
    exact ⟨rfl, rfl, rfl, rfl⟩
  · cases ok
    exact ⟨rfl, rfl, rfl, rfl⟩
  · split at ok
    · cases ok
    · cases ok
      exact ⟨rfl, rfl, rfl, rfl⟩
  · cases ok

theorem mergeKnowledgeUpdate_storable_iff {existing value merged : KnowledgeEntry}
    (ok : mergeKnowledgeUpdate existing value = .ok merged) (storable : existing.Storable) :
    merged.Storable ↔ value.Rewritable := by
  obtain ⟨source, memoryKind, _, key⟩ := mergeKnowledgeUpdate_value ok
  constructor
  · rintro ⟨⟨sourced, named⟩, _⟩
    rw [source] at sourced
    rw [memoryKind] at named
    exact ⟨sourced, named⟩
  · rintro ⟨sourced, named⟩
    rw [← source] at sourced
    rw [← memoryKind] at named
    refine ⟨⟨sourced, named⟩, ?_⟩
    rw [key]
    exact storable.key

/-- What is written can be read back. -/
def ReadsBack (mutation : ValidatedKnowledgeMutation) : Prop :=
  match mutation.operation with
  | .add entry => entry.Storable
  | .update _ value => value.Rewritable
  | .delete _ => True

/-- An update leaves the retrieval hint of its target as it is. -/
def LeavesHint (rows : List KnowledgeRow) (mutation : ValidatedKnowledgeMutation) : Prop :=
  ∀ target value, mutation.operation = .update target value →
    ∀ row ∈ rows, row.isAt value.kind.name target.asStr = true →
      row.retrievalHint = value.retrievalHint.map RetrievalHint.value

section
variable {rows next : List KnowledgeRow}

theorem insertKnowledgeEntry_eq_ok {entry : KnowledgeEntry}
    (ok : insertKnowledgeEntry rows entry = .ok next) : next = rows ++ [KnowledgeRow.of entry] := by
  obtain ⟨_, ok⟩ := Result.check_bind_eq_ok.mp ok
  obtain ⟨_, ok⟩ := Result.check_bind_eq_ok.mp ok
  cases ok
  rfl

theorem applyKnowledgeMutation_update {ordinal : UInt32} {target : KnowledgeSourceId}
    {value : KnowledgeEntry}
    (ok : applyKnowledgeMutation rows ⟨ordinal, .update target value⟩ = .ok next) :
    ∃ found existing merged, found ∈ rows ∧ found.isAt value.kind.name target.asStr = true ∧
      knowledgeEntryCodec.decode found.payloadJson = some existing ∧
      mergeKnowledgeUpdate existing value = .ok merged ∧
      rows.countP (KnowledgeRow.isAt value.kind.name target.asStr) = 1 ∧
      next = (SqlTable.update rows (KnowledgeRow.isAt value.kind.name target.asStr)
        (KnowledgeRow.rewrite merged)).1 := by
  obtain ⟨found, known, ok⟩ := Result.bind_eq_ok ok
  obtain ⟨existing, read, ok⟩ := Result.bind_eq_ok ok
  obtain ⟨merged, mergedOk, ok⟩ := Result.bind_eq_ok ok
  obtain ⟨_, ok⟩ := Result.check_bind_eq_ok.mp ok
  obtain ⟨one, ok⟩ := Result.check_bind_eq_ok.mp ok
  cases ok
  have stored := Result.okOr_eq_ok.mp known
  rw [Result.failIf_eq_ok, not_not] at one
  exact ⟨found, existing, merged, List.mem_of_find?_eq_some stored, List.find?_some stored,
    Result.okOr_eq_ok.mp read, mergedOk, one, rfl⟩

theorem applyKnowledgeMutation_delete {ordinal : UInt32} {target : DeletableKnowledgeId}
    (ok : applyKnowledgeMutation rows ⟨ordinal, .delete target⟩ = .ok next) : next ⊆ rows := by
  obtain ⟨_, ok⟩ := Result.check_bind_eq_ok.mp ok
  cases ok
  exact List.filter_subset_self _

/-- Rows agree with their payloads after a mutation exactly if it writes what can be read back and
leaves the hint. -/
theorem applyKnowledgeMutation_consistent_iff {mutation : ValidatedKnowledgeMutation}
    (consistent : KnowledgeConsistent rows) (ok : applyKnowledgeMutation rows mutation = .ok next) :
    KnowledgeConsistent next ↔ ReadsBack mutation ∧ LeavesHint rows mutation := by
  obtain ⟨ordinal, operation⟩ := mutation
  rw [knowledgeConsistent_iff]
  cases operation with
  | add entry =>
    obtain rfl := insertKnowledgeEntry_eq_ok ok
    constructor
    · intro agree
      obtain ⟨other, agrees⟩ := agree (.of entry) (List.mem_append_right _ (List.mem_singleton_self _))
      exact ⟨KnowledgeEntry.storable_of_readsAs agrees.payload, fun _ _ => nofun⟩
    · rintro ⟨storable, _⟩ row member
      rcases List.mem_append.mp member with before | added
      · exact consistent.columns row before
      · rw [List.mem_singleton.mp added]
        exact ⟨entry.stored, KnowledgeRow.of_agrees storable⟩
  | update target value =>
    obtain ⟨found, existing, merged, among, here, read, mergedOk, one, rfl⟩ :=
      applyKnowledgeMutation_update ok
    obtain ⟨entry, agrees⟩ := consistent.columns found among
    cases agrees.payload.symm.trans read
    have storable := (storable_of_decode read).1
    have hinted := (mergeKnowledgeUpdate_value mergedOk).2.2.1
    -- The row that was found is the only one that is rewritten.
    have only : ∀ row ∈ rows, row.isAt value.kind.name target.asStr = true → row = found :=
      fun row inside affected => SqlTable.eq_of_countP one inside among affected here
    constructor
    · intro agree
      obtain ⟨other, kept⟩ := agree _ (SqlTable.set_mem_update among here)
      obtain ⟨written, rfl⟩ := KnowledgeEntry.readsAs_iff.mp kept.payload
      refine ⟨(mergeKnowledgeUpdate_storable_iff mergedOk storable).mp written, ?_⟩
      rintro _ _ ⟨⟩ row inside affected
      rw [only row inside affected, ← hinted, ← merged.stored_retrievalHint]
      exact kept.retrievalHint
    · rintro ⟨rewritable, leaves⟩ row member
      rcases SqlTable.mem_update member with ⟨old, inside, affected, rfl⟩ | ⟨inside, _⟩
      · have written := (mergeKnowledgeUpdate_storable_iff mergedOk storable).mpr rewritable
        rw [only old inside affected]
        refine ⟨merged.stored, agrees.toStores.rewrite mergedOk written, ?_⟩
        rw [merged.stored_retrievalHint, hinted]
        exact leaves target value rfl found among here
      · exact consistent.columns row inside
  | delete target =>
    have fewer := applyKnowledgeMutation_delete ok
    constructor
    · exact fun _ => ⟨trivial, fun _ _ => nofun⟩
    · exact fun _ row member => consistent.columns row (fewer member)

end

/-! ### The entries that rows stand for -/

/-- What a row is told apart by. -/
def KnowledgeRow.key (row : KnowledgeRow) : String × String := (row.knowledgeKind, row.sourceId)

theorem KnowledgeRow.isAt_iff {row : KnowledgeRow} {knowledgeKind sourceId : String} :
    row.isAt knowledgeKind sourceId = true ↔ row.key = (knowledgeKind, sourceId) := by
  simp [isAt, key]

/-- There is one row for every entry, which the payload is written of. -/
structure Represents (rows : List KnowledgeRow) (knowledge : KnowledgeRows) : Prop where
  checked : ∀ row ∈ rows, row.checked = true
  distinct : (rows.map KnowledgeRow.key).Nodup
  sound : ∀ row ∈ rows, ∃ entry : KnowledgeEntry,
    knowledge[entry.sourceId]? = some entry ∧ row.Stores entry.stored
  complete : ∀ entry : KnowledgeEntry, knowledge[entry.sourceId]? = some entry →
    ∃ row ∈ rows, row.Stores entry.stored

theorem KnowledgeRow.Stores.key_eq {row : KnowledgeRow} {entry : KnowledgeEntry}
    (stores : row.Stores entry.stored) : row.key = entry.sourceId.columns := by
  rw [KnowledgeRow.key, stores.knowledgeKind, stores.sourceId, entry.stored_kind, entry.stored_sourceId,
    KnowledgeSourceId.columns, entry.sourceId_kind]

/-- What is inserted for an entry passes the checks of the table. -/
theorem KnowledgeRow.checked_of (entry : KnowledgeEntry) : (KnowledgeRow.of entry).checked = true := by
  have visible (hint : RetrievalHint) : ∃ c ∈ hint.value.toList, ¬c = ' ' := by
    by_contra! spaces
    have blank : isBlank hint.value = true := (isBlank_iff _).mpr fun c member => by
      rw [spaces c member]
      rfl
    rw [hint.accepted.1] at blank
    cases blank
  have small : 0 ≤ salienceColumn entry.salience ∧ salienceColumn entry.salience ≤ 255 := by
    have bound := entry.salience.toNat_lt
    have same : (salienceColumn entry.salience).toInt = entry.salience.toNat :=
      Int64.toInt_ofNat_of_lt (by omega)
    rw [Int64.le_iff_toInt_le, Int64.le_iff_toInt_le, same]
    exact ⟨Int.natCast_nonneg _, by change (entry.salience.toNat : Int) ≤ 255; omega⟩
  cases entry with
  | fact value =>
    simpa [checked, KnowledgeRow.of, KnowledgeEntry.kind, KnowledgeKind.name, KnowledgeEntry.memoryOwner,
      KnowledgeEntry.activation, KnowledgeEntry.retrievalHint, small] using visible value.retrievalHint
  | rumor value =>
    simpa [checked, KnowledgeRow.of, KnowledgeEntry.kind, KnowledgeKind.name, KnowledgeEntry.memoryOwner,
      KnowledgeEntry.activation, KnowledgeEntry.retrievalHint, small] using visible value.retrievalHint
  | memory value =>
    simp [checked, KnowledgeRow.of, KnowledgeEntry.kind, KnowledgeKind.name, KnowledgeEntry.memoryOwner,
      KnowledgeEntry.activation, KnowledgeEntry.retrievalHint, small]

/-- What is rewritten of a row for an entry of the same kind passes the checks of the table. -/
theorem KnowledgeRow.checked_rewrite {row : KnowledgeRow} {merged : KnowledgeEntry}
    (checked : row.checked = true) (same : row.knowledgeKind = merged.kind.name) :
    (row.rewrite merged).checked = true := by
  have written := KnowledgeRow.checked_of merged
  cases known : merged.kind with
  | fact =>
    simp [KnowledgeRow.checked, KnowledgeRow.of, KnowledgeRow.rewrite, same, known, KnowledgeKind.name]
      at checked written ⊢
    exact ⟨⟨written.1.1, checked.1.2.1.1, written.1.2.2⟩, checked.2⟩
  | rumor =>
    simp [KnowledgeRow.checked, KnowledgeRow.of, KnowledgeRow.rewrite, same, known, KnowledgeKind.name]
      at checked written ⊢
    exact ⟨⟨written.1.1, checked.1.2.1.1, written.1.2.2⟩, checked.2⟩
  | memory =>
    simp [KnowledgeRow.checked, KnowledgeRow.of, KnowledgeRow.rewrite, same, known, KnowledgeKind.name]
      at checked written ⊢
    exact ⟨⟨written.1.1, checked.1.2.1.1, written.1.2.2⟩, checked.2⟩

/-- An update takes from the old entry what is read back as it is. -/
theorem mergeKnowledgeUpdate_stored (existing value : KnowledgeEntry) :
    mergeKnowledgeUpdate existing.stored value = mergeKnowledgeUpdate existing value := by
  cases existing <;> cases value <;> rfl

namespace Represents
variable {rows : List KnowledgeRow} {knowledge next : KnowledgeRows}

/-- The row at the columns of an identifier is that of its entry. -/
theorem at_columns (represents : Represents rows knowledge) {id : KnowledgeSourceId} {row : KnowledgeRow}
    (member : row ∈ rows) (here : row.key = id.columns) :
    ∃ entry : KnowledgeEntry, knowledge[id]? = some entry ∧ entry.sourceId = id ∧
      row.Stores entry.stored := by
  obtain ⟨entry, found, stores⟩ := represents.sound row member
  have same := KnowledgeSourceId.columns_injective (stores.key_eq.symm.trans here)
  subst same
  exact ⟨entry, found, rfl, stores⟩

theorem add (represents : Represents rows knowledge) {entry : KnowledgeEntry} (storable : entry.Storable)
    (absent : entry.sourceId ∉ knowledge) :
    insertKnowledgeEntry rows entry = .ok (rows ++ [.of entry]) ∧
      Represents (rows ++ [.of entry]) (knowledge.insert entry.sourceId entry) := by
  have stores := (KnowledgeRow.of_agrees storable).toStores
  have fresh : ∀ row ∈ rows, row.key ≠ (KnowledgeRow.of entry).key := by
    intro row member same
    obtain ⟨other, found, _⟩ := represents.at_columns member (same.trans stores.key_eq)
    exact absent (OrdMap.mem_iff_exists.mpr ⟨other, found⟩)
  constructor
  · have none : rows.any (KnowledgeRow.isAt (KnowledgeRow.of entry).knowledgeKind
        (KnowledgeRow.of entry).sourceId) = false :=
      List.any_eq_false.mpr fun row member here => fresh row member (KnowledgeRow.isAt_iff.mp here)
    simp only [insertKnowledgeEntry, Result.failIf, KnowledgeRow.checked_of, none, not_true_eq_false,
      Bool.false_eq_true, if_false, bind, Except.bind]
    rfl
  · refine ⟨?_, ?_, ?_, ?_⟩
    · intro row member
      rcases List.mem_append.mp member with before | added
      · exact represents.checked row before
      · rw [List.mem_singleton.mp added]
        exact KnowledgeRow.checked_of entry
    · rw [List.map_append, List.map_cons, List.map_nil]
      refine List.Nodup.append represents.distinct (List.nodup_singleton _) ?_
      intro key before added
      obtain ⟨row, member, rfl⟩ := List.mem_map.mp before
      exact fresh row member (List.mem_singleton.mp added)
    · intro row member
      rcases List.mem_append.mp member with before | added
      · obtain ⟨other, found, stored⟩ := represents.sound row before
        refine ⟨other, ?_, stored⟩
        rw [OrdMap.get_insert, if_neg ?_, found]
        intro same
        exact absent (OrdMap.mem_iff_exists.mpr ⟨other, same ▸ found⟩)
      · rw [List.mem_singleton.mp added]
        exact ⟨entry, by rw [OrdMap.get_insert, if_pos rfl], stores⟩
    · intro other found
      rw [OrdMap.get_insert] at found
      split at found
      · cases found
        exact ⟨_, List.mem_append_right _ (List.mem_singleton_self _), stores⟩
      · obtain ⟨row, member, stored⟩ := represents.complete other found
        exact ⟨row, List.mem_append_left _ member, stored⟩

/-- An entry that is there has its row, which is the only one at its columns. -/
theorem single (represents : Represents rows knowledge) {entry : KnowledgeEntry}
    (found : knowledge[entry.sourceId]? = some entry) :
    ∃ row ∈ rows, row.isAt entry.sourceId.kind.name entry.sourceId.asStr = true ∧
      row.Stores entry.stored ∧
      rows.countP (KnowledgeRow.isAt entry.sourceId.kind.name entry.sourceId.asStr) = 1 := by
  obtain ⟨row, member, stores⟩ := represents.complete entry found
  have here : row.isAt entry.sourceId.kind.name entry.sourceId.asStr = true :=
    KnowledgeRow.isAt_iff.mpr stores.key_eq
  refine ⟨row, member, here, stores, SqlTable.countP_eq_one represents.distinct member here ?_⟩
  intro other _ too
  exact (KnowledgeRow.isAt_iff.mp too).trans stores.key_eq.symm

/-- Rows at the columns of an identifier are those of its entry. -/
theorem isAt_iff {entry : KnowledgeEntry} {row : KnowledgeRow} (stores : row.Stores entry.stored)
    (id : KnowledgeSourceId) : row.isAt id.kind.name id.asStr = true ↔ entry.sourceId = id := by
  rw [KnowledgeRow.isAt_iff, stores.key_eq]
  exact KnowledgeSourceId.columns_injective.eq_iff

theorem delete (represents : Represents rows knowledge) (id : KnowledgeSourceId) :
    Represents (SqlTable.delete rows (KnowledgeRow.isAt id.kind.name id.asStr)).1 (knowledge.erase id) := by
  have kept {row : KnowledgeRow} :
      row ∈ (SqlTable.delete rows (KnowledgeRow.isAt id.kind.name id.asStr)).1 ↔
        row ∈ rows ∧ row.isAt id.kind.name id.asStr = false := by
    rw [SqlTable.delete, List.mem_filter, Bool.not_eq_true']
  refine ⟨?_, ?_, ?_, ?_⟩
  · exact fun row member => represents.checked row (kept.mp member).1
  · exact represents.distinct.sublist (List.filter_sublist.map _)
  · intro row member
    obtain ⟨before, apart⟩ := kept.mp member
    obtain ⟨entry, found, stores⟩ := represents.sound row before
    refine ⟨entry, ?_, stores⟩
    rw [OrdMap.get_erase, if_neg ?_, found]
    rintro rfl
    exact absurd ((isAt_iff stores _).mpr rfl) (Bool.eq_false_iff.mp apart)
  · intro entry found
    rw [OrdMap.get_erase] at found
    split at found
    · cases found
    · rename_i differ
      obtain ⟨row, member, stores⟩ := represents.complete entry found
      refine ⟨row, kept.mpr ⟨member, Bool.eq_false_iff.mpr fun here => ?_⟩, stores⟩
      exact differ ((isAt_iff stores id).mp here).symm

theorem update (represents : Represents rows knowledge) {existing value merged : KnowledgeEntry}
    (found : knowledge[existing.sourceId]? = some existing)
    (ok : mergeKnowledgeUpdate existing value = .ok merged) (storable : merged.Storable) :
    Represents (SqlTable.update rows
      (KnowledgeRow.isAt existing.sourceId.kind.name existing.sourceId.asStr)
      (KnowledgeRow.rewrite merged)).1 (knowledge.insert existing.sourceId merged) := by
  have id := mergeKnowledgeUpdate_sourceId ok
  have kind := (mergeKnowledgeUpdate_same ok).1
  have own {row : KnowledgeRow} (member : row ∈ rows)
      (here : row.isAt existing.sourceId.kind.name existing.sourceId.asStr = true) :
      row.Stores existing.stored := by
    obtain ⟨entry, known, _, stores⟩ := represents.at_columns member (KnowledgeRow.isAt_iff.mp here)
    cases found.symm.trans known
    exact stores
  have rewritten {row : KnowledgeRow} (stores : row.Stores existing.stored) :
      (row.rewrite merged).Stores merged.stored :=
    stores.rewrite (by rw [mergeKnowledgeUpdate_stored]; exact ok) storable
  refine ⟨?_, ?_, ?_, ?_⟩
  · intro row member
    rcases SqlTable.mem_update member with ⟨old, inside, here, rfl⟩ | ⟨inside, _⟩
    · refine KnowledgeRow.checked_rewrite (represents.checked old inside) ?_
      rw [(own inside here).knowledgeKind, existing.stored_kind, kind]
    · exact represents.checked row inside
  · have keys : (SqlTable.update rows
        (KnowledgeRow.isAt existing.sourceId.kind.name existing.sourceId.asStr)
        (KnowledgeRow.rewrite merged)).1.map KnowledgeRow.key = rows.map KnowledgeRow.key :=
      SqlTable.map_update fun _ _ => rfl
    rw [keys]
    exact represents.distinct
  · intro row member
    rcases SqlTable.mem_update member with ⟨old, inside, here, rfl⟩ | ⟨inside, apart⟩
    · exact ⟨merged, by rw [OrdMap.get_insert, if_pos id.symm], rewritten (own inside here)⟩
    · obtain ⟨entry, known, stores⟩ := represents.sound row inside
      refine ⟨entry, ?_, stores⟩
      rw [OrdMap.get_insert, if_neg ?_, known]
      intro same
      exact absurd ((isAt_iff stores _).mpr same.symm) (Bool.eq_false_iff.mp apart)
  · intro entry known
    rw [OrdMap.get_insert] at known
    split at known
    · cases known
      obtain ⟨row, member, here, stores, _⟩ := represents.single found
      exact ⟨_, SqlTable.set_mem_update member here, rewritten stores⟩
    · rename_i differ
      obtain ⟨row, member, stores⟩ := represents.complete entry known
      refine ⟨row, SqlTable.mem_update_of_not member (Bool.eq_false_iff.mpr fun here => ?_), stores⟩
      exact differ ((isAt_iff stores _).mp here).symm

/-- The mutation of the rows is the one of the entries that they stand for. -/
theorem apply (represents : Represents rows knowledge) (keyed : KnowledgeKeyed knowledge)
    {mutation : ValidatedKnowledgeMutation} (readsBack : ReadsBack mutation)
    (ok : applyKnowledgeOperation knowledge mutation.operation = .ok next) :
    ∃ nextRows, applyKnowledgeMutation rows mutation = .ok nextRows ∧ Represents nextRows next := by
  obtain ⟨ordinal, operation⟩ := mutation
  cases operation with
  | add entry =>
    rw [applyKnowledgeOperation] at ok
    split at ok
    · cases ok
    · rename_i absent
      cases ok
      exact ⟨_, represents.add readsBack absent⟩
  | update target value =>
    obtain ⟨existing, known, ok⟩ := Result.bind_eq_ok ok
    obtain ⟨merged, mergedOk, ok⟩ := Result.bind_eq_ok ok
    cases ok
    have stored := Result.okOr_eq_ok.mp known
    split at stored
    · rename_i targeted
      obtain rfl := keyed target existing stored
      obtain ⟨row, member, here, stores, one⟩ := represents.single stored
      have storable : merged.Storable :=
        (mergeKnowledgeUpdate_storable_iff (by rw [mergeKnowledgeUpdate_stored]; exact mergedOk)
          (storable_of_decode stores.payload).1).mpr readsBack
      have next := represents.update stored mergedOk storable
      rw [targeted] at here one next
      have foundRow : rows.find? (KnowledgeRow.isAt value.kind.name existing.sourceId.asStr) = some row := by
        obtain ⟨other, is⟩ := Option.isSome_iff_exists.mp (List.find?_isSome.mpr ⟨row, member, here⟩)
        rw [is, SqlTable.eq_of_countP one (List.mem_of_find?_eq_some is) member (List.find?_some is) here]
      have checks : rows.all (fun row => !row.isAt value.kind.name existing.sourceId.asStr ||
          (row.rewrite merged).checked) = true := by
        refine List.all_eq_true.mpr fun other inside => ?_
        cases there : other.isAt value.kind.name existing.sourceId.asStr with
        | false => rfl
        | true =>
          exact next.checked _ (SqlTable.set_mem_update inside there)
      refine ⟨_, ?_, next⟩
      simp only [applyKnowledgeMutation, foundRow, stores.payload, mergeKnowledgeUpdate_stored, mergedOk,
        Result.okOr, Result.failIf, checks, SqlTable.update, one, ne_eq, not_true_eq_false, if_false, bind,
        Except.bind]
      rfl
    · cases stored
  | delete target =>
    rw [applyKnowledgeOperation] at ok
    split at ok
    · rename_i present
      cases ok
      obtain ⟨entry, found⟩ := OrdMap.mem_iff_exists.mp present
      have same := keyed _ _ found
      rw [← same] at found
      obtain ⟨_, _, _, _, one⟩ := represents.single found
      rw [same] at one
      refine ⟨_, ?_, represents.delete target.sourceId⟩
      simp only [applyKnowledgeMutation, SqlTable.delete, one, Result.failIf, ne_eq, not_true_eq_false,
        if_false, bind, Except.bind]
      rfl
    · cases ok

/-- The rows of a story follow its entries through the mutations of its turns. -/
theorem applyAll (represents : Represents rows knowledge) (keyed : KnowledgeKeyed knowledge)
    {mutations : List ValidatedKnowledgeMutation} (readBack : ∀ mutation ∈ mutations, ReadsBack mutation)
    (ok : applyKnowledgeMutations knowledge mutations = .ok next) :
    ∃ nextRows, Persistence.applyAll rows mutations = .ok nextRows ∧ Represents nextRows next := by
  induction mutations generalizing rows knowledge with
  | nil =>
    cases ok
    exact ⟨rows, rfl, represents⟩
  | cons mutation mutations ih =>
    obtain ⟨between, first, ok⟩ := Result.bind_eq_ok ok
    obtain ⟨here, later⟩ := List.forall_mem_cons.mp readBack
    obtain ⟨betweenRows, applied, followed⟩ := represents.apply keyed here first
    obtain ⟨nextRows, rest, final⟩ := ih followed (applyKnowledgeOperation_keyed keyed first) later ok
    refine ⟨nextRows, ?_, final⟩
    rw [Persistence.applyAll, List.foldlM_cons, applied]
    exact rest

end Represents

/-- All states of a run of mutations are consistent exactly if all of them write what can be read back
and leave the retrieval hints of their targets. -/
theorem knowledge_rows_consistent_iff {rows last : List KnowledgeRow}
    {mutations : List ValidatedKnowledgeMutation} (consistent : KnowledgeConsistent rows)
    (ran : applyAll rows mutations = .ok last) :
    (∀ before, before <+: mutations → ∀ between, applyAll rows before = .ok between →
      KnowledgeConsistent between) ↔
    ∀ before mutation, before ++ [mutation] <+: mutations → ∀ between,
      applyAll rows before = .ok between → ReadsBack mutation ∧ LeavesHint between mutation :=
  Result.foldlM_always_iff (P := KnowledgeConsistent) applyKnowledgeMutation_consistent_iff ran consistent

namespace Sample

def rule : KnowledgeActivationRule where
  matchRule := { keys := [⟨"ford"⟩] }
  mode := {}
  budgetClass := .normal

/-- What is known of the ford, to be found under a hint. -/
def ford (text : String) (hint : RetrievalHint) : KnowledgeEntry :=
  .fact {
    id := ⟨⟨.fact, "fact_0052", by decide⟩, rfl⟩
    key := none
    text := ⟨text⟩
    proposition := none
    retrievalHint := hint
    activation := rule
    activationRuleVersion := ⟨⟨List.replicate 32 11, rfl⟩⟩
    salience := 40
    source := .committedTurn ⟨5, by decide⟩ }

def crossing : RetrievalHint := ⟨"where to cross", by decide⟩

def drowned : RetrievalHint := ⟨"where the ferryman drowned", by decide⟩

def fordId : KnowledgeSourceId := ⟨.fact, "fact_0052", by decide⟩

/-- The ford is told of, and then told of again under another hint. -/
def told (later : RetrievalHint) : List ValidatedKnowledgeMutation :=
  [⟨0, .add (ford "The ford is shallow." crossing)⟩, ⟨0, .update fordId (ford "The ford is deep." later)⟩]

theorem consistent_nil : KnowledgeConsistent [] :=
  knowledgeConsistent_iff.mpr fun _ member => absurd member List.not_mem_nil

/-- An update with the same hint keeps the row consistent. -/
theorem told_consistent : ∃ last, applyAll [] (told crossing) = .ok last ∧
    ∀ before, before <+: told crossing → ∀ between,
      applyAll [] before = .ok between → KnowledgeConsistent between := by
  have ran := Result.eq_ok_of_isSome
    (show (applyAll [] (told crossing)).toOption.isSome = true by decide +kernel) []
  refine ⟨_, ran, (knowledge_rows_consistent_iff consistent_nil ran).mpr ?_⟩
  intro before mutation inside between reached
  match before, inside with
  | [], inside =>
    obtain ⟨rfl, _⟩ := List.cons_prefix_cons.mp inside
    exact ⟨⟨⟨trivial, nofun⟩, nofun⟩, fun _ _ => nofun⟩
  | [first], inside =>
    obtain ⟨here, later⟩ := List.cons_prefix_cons.mp inside
    obtain ⟨same, _⟩ := List.cons_prefix_cons.mp later
    subst here same
    obtain ⟨rows, added, done⟩ := Result.bind_eq_ok reached
    cases done
    obtain rfl := insertKnowledgeEntry_eq_ok added
    refine ⟨⟨trivial, nofun⟩, ?_⟩
    rintro _ _ ⟨⟩ row member _
    rw [List.nil_append, List.mem_singleton] at member
    subst member
    rfl
  | first :: second :: rest, inside =>
    have short := inside.length_le
    simp [told] at short

/-- After an update with another hint the row shows the old one. -/
theorem old_hint_shown :
    ∃ last, applyAll [] (told drowned) = .ok last ∧ ¬KnowledgeConsistent last := by
  refine ⟨_, Result.eq_ok_of_isSome (by decide +kernel) [], fun consistent => ?_⟩
  have shown : ((applyAll [] (told drowned)).toOption.getD []).map (fun row =>
      (row.retrievalHint, (knowledgeEntryCodec.decode row.payloadJson).bind (·.retrievalHint))) =
      [(some crossing.value, some drowned)] := by decide +kernel
  obtain ⟨row, only, same⟩ := List.map_eq_singleton_iff.mp shown
  obtain ⟨column, payload⟩ := Prod.mk.inj same
  obtain ⟨entry, agrees⟩ := consistent.columns row (by rw [only]; exact List.mem_singleton_self row)
  rw [agrees.payload, Option.bind_some] at payload
  rw [agrees.retrievalHint, payload] at column
  exact absurd column (by decide)

end Sample

end Aise.Domain.Persistence
