import Aise.Context.Activation.Layers
import Aise.Persistence.KnowledgeBodies
import Aise.Story.InstanceFactory

/-! What the store reads for the index of a story. The entries of the pack are not read from the rows of
the story: they are numbered anew, from the world book of the pack. -/
namespace Aise.Domain

/-- `ActivationIndexSnapshotRef::from_knowledge`. -/
def ActivationIndexSnapshotRef.fromKnowledge (snapshot : KnowledgeSnapshotRef)
    (overlayVersion : UInt64) (matcherVersion : UInt32) : ActivationIndexSnapshotRef where
  storyId := snapshot.storyId
  packDigest := snapshot.packDigest
  baseRevision := snapshot.baseRevision
  overlayVersion
  matcherVersion

structure ActivationIndexMetadata where
  reference : ActivationIndexSnapshotRef
  packEntries : IndexEntries
  entries : IndexEntries

/-- Whether a source is a seed of the pack. -/
def KnowledgeSource.fromPack (packDigest : Sha256Digest) : KnowledgeSource → Bool
  | seed _ digest => digest = packDigest
  | committedTurn _ => false

/-- What an index holds of an entry, which is nothing of a memory. -/
def KnowledgeEntry.metadata (packDigest : Sha256Digest) (entry : KnowledgeEntry) :
    Option ActivationEntryMetadata :=
  entry.activation.map fun rule => {
    sourceId := entry.sourceId
    kind := entry.kind
    rule := rule.1
    ruleVersion := rule.2
    salience := entry.salience
    fromPack := entry.source.fromPack packDigest }

theorem KnowledgeEntry.metadata_sourceId {packDigest : Sha256Digest} {entry : KnowledgeEntry}
    {metadata : ActivationEntryMetadata} (held : entry.metadata packDigest = some metadata) :
    metadata.sourceId = entry.sourceId := by
  obtain ⟨rule, _, rfl⟩ := Option.map_eq_some_iff.mp held
  rfl

theorem KnowledgeEntry.metadata_stored (packDigest : Sha256Digest) (entry : KnowledgeEntry) :
    entry.stored.metadata packDigest = entry.metadata packDigest := by
  simp [metadata]

/-- The displayed digits of a digest are read as the digest. -/
theorem ActivationRuleVersion.tryNew_display (version : ActivationRuleVersion) :
    Sha256Digest.tryNew version.display = some version.asDigest := by
  have bare : digestPrefix.isPrefixOf version.display.toList = false := by
    rw [Bool.eq_false_iff, ne_eq, List.isPrefixOf_iff_prefix, display, String.toList_ofList]
    intro labelled
    -- The first letter of the label is no digit.
    have letter : 's' ∈ version.asDigest.bytes.flatMap hexByte := labelled.subset (by decide)
    obtain ⟨byte, _, inside⟩ := List.mem_flatMap.mp letter
    have digits : ∀ n < 16, SerdeJson.hexDigit n ≠ 's' := by decide
    have bound := byte.toNat_lt
    rcases List.mem_cons.mp inside with high | low
    · exact digits (byte.toNat / 16) (by omega) high.symm
    · exact digits (byte.toNat % 16) (by omega) (List.mem_singleton.mp low).symm
  rw [Sha256Digest.tryNew, bare]
  simp only [Bool.false_eq_true, if_false, display, String.toList_ofList, unhex_hexByte]
  simp [version.asDigest.sized]

end Aise.Domain

namespace Aise.Domain.Persistence
open SerdeJson Saturating

/-- The errors of the store, with `InvalidWorldState` among those of serialization. -/
inductive ActivationStoreError where
  | store (error : StoreError)
  | invalidWorldState
  deriving DecidableEq

def activationLimit (limit : String) : ActivationStoreError := .store (.limitExceeded limit)

/-- What a column gives that may be null. -/
def column {α : Type} (value : Option α) : Except ActivationStoreError α :=
  Result.okOr value (.store .unavailable)

/-- What the text of a column is read as. -/
def readAs {α : Type} (value : Option α) : Except ActivationStoreError α :=
  Result.okOr value .invalidWorldState

/-! ### The entries of the pack -/

/-- A row of the statement in `canonical_pack_entries`. -/
structure PackEntryRow where
  kindOrder : Nat
  knowledgeKind : String
  entryKey : String
  salience : Int64
  activationRuleJson : Json

def factRow (seed : AssetKey × FactSeed) : PackEntryRow :=
  ⟨0, "fact", seed.1.asStr, salienceColumn seed.2.salience,
    knowledgeActivationRuleCodec.encode seed.2.activation⟩

def rumorRow (seed : AssetKey × RumorSeed) : PackEntryRow :=
  ⟨1, "rumor", seed.1.asStr, salienceColumn seed.2.salience,
    knowledgeActivationRuleCodec.encode seed.2.activation⟩

/-- `ORDER BY kind_order, entry_key`. -/
def packEntryRows (worldBook : WorldBook) : List PackEntryRow :=
  Sorting.sort (fun row => toLex (row.kindOrder, row.entryKey))
    (worldBook.facts.toList.map factRow ++ worldBook.rumors.toList.map rumorRow)

def indexedKind (knowledgeKind : String) : Except ActivationStoreError KnowledgeKind :=
  if knowledgeKind = "fact" then .ok .fact
  else if knowledgeKind = "rumor" then .ok .rumor
  else .error .invalidWorldState

section
variable (externals : Externals)

def packEntry (sourceId : KnowledgeSourceId) (row : PackEntryRow) :
    Except ActivationStoreError ActivationEntryMetadata := do
  let rule ← readAs (knowledgeActivationRuleCodec.decode row.activationRuleJson)
  let salience ← readAs (readSalience row.salience)
  return {
    sourceId
    kind := sourceId.kind
    rule
    ruleVersion := .fromRule externals rule
    salience
    fromPack := true }

/-- The loop that gives every row the next identifier. -/
def assignRows (entries : IndexEntries) :
    List PackEntryRow → List KnowledgeSourceId → Except ActivationStoreError IndexEntries
  | [], _ => .ok entries
  | _ :: _, [] => .error .invalidWorldState
  | row :: rows, sourceId :: assigned => do
    let entry ← packEntry externals sourceId row
    assignRows (entries.insert sourceId entry) rows assigned

def canonicalPackEntries (worldBook : WorldBook) (maxEntries : UInt64) :
    Except ActivationStoreError IndexEntries := do
  -- `checked_add`, and the column type of the limit.
  Result.failIf (2 ^ 63 ≤ maxEntries.toNat + 1) (activationLimit "max_entries")
  let rows := (packEntryRows worldBook).take (maxEntries.toNat + 1)
  Result.failIf (rows.length > maxEntries.toNat) (activationLimit "max_entries")
  let kinds ← rows.mapM fun row => indexedKind row.knowledgeKind
  let allocation ← (allocateKnowledgeIds 0 kinds).mapError fun _ => .invalidWorldState
  assignRows externals ∅ rows allocation.assigned

end

/-! ### The entries of the story -/

def activationEntry (packDigest : Sha256Digest) (row : KnowledgeRow) :
    Except ActivationStoreError ActivationEntryMetadata := do
  let kind ← indexedKind row.knowledgeKind
  let sourceId ← readAs ((KnowledgeId.tryNew kind row.sourceId).map Subtype.val)
  let source ← readAs (knowledgeSourceCodec.decode row.sourceJson)
  let rule ← readAs (knowledgeActivationRuleCodec.decode (← column row.activationRuleJson))
  let ruleVersion ← readAs (Sha256Digest.tryNew (← column row.activationRuleVersion))
  let salience ← readAs (readSalience row.salience)
  return {
    sourceId
    kind
    rule
    ruleVersion := ⟨ruleVersion⟩
    salience
    fromPack := source.fromPack packDigest }

/-- The variables of the loop of `load_snapshot`. -/
structure IndexLoad where
  entries : IndexEntries := ∅
  overlayEntries : UInt64 := 0

def loadEntry (packDigest : Sha256Digest) (maxOverlayEntries : UInt64) (load : IndexLoad)
    (row : KnowledgeRow) : Except ActivationStoreError IndexLoad := do
  let entry ← activationEntry packDigest row
  let overlayEntries :=
    if entry.fromPack then load.overlayEntries else Saturating.add load.overlayEntries 1
  Result.failIf (entry.fromPack = false ∧ overlayEntries > maxOverlayEntries)
    (activationLimit "max_overlay_entries")
  return { entries := load.entries.insert entry.sourceId entry, overlayEntries }

/-- `knowledge_kind != 'memory'`. -/
def indexedRows (rows : List KnowledgeRow) : List KnowledgeRow :=
  rows.filter fun row => row.knowledgeKind ≠ "memory"

/-- A story with its instance and its pack. -/
structure ActivationRow where
  revision : Int64
  digest : Sha256Digest
  overlayVersion : StoredCount
  worldBook : WorldBook

section
variable (externals : Externals)

/-- `ActivationIndexPort::load_snapshot`. -/
def loadSnapshot (story : Option ActivationRow) (rows : List KnowledgeRow)
    (knowledge : KnowledgeSnapshotRef) (limits : ActivationIndexLimits) :
    Except ActivationStoreError ActivationIndexMetadata := do
  let story ← Result.okOr story (.store .notFound)
  Result.failIf (story.revision < 0) .invalidWorldState
  Result.failIf (story.revision.toUInt64 ≠ knowledge.baseRevision ∨ story.digest ≠ knowledge.packDigest)
    (.store .revisionConflict)
  let packEntries ← canonicalPackEntries externals story.worldBook limits.maxEntries
  Result.failIf ((indexedRows rows).length > limits.maxEntries.toNat) (activationLimit "max_entries")
  let load ← (orderedById (indexedRows rows)).foldlM
    (loadEntry knowledge.packDigest limits.maxOverlayEntries) {}
  return {
    reference := .fromKnowledge knowledge story.overlayVersion.get matcherVersion
    packEntries
    entries := load.entries }

end

/-! ### What is read of the pack -/

/-- What an index holds of the knowledge of a story. -/
def indexed (packDigest : Sha256Digest) (knowledge : KnowledgeRows) : List ActivationEntryMetadata :=
  (valuesOf knowledge).filterMap (KnowledgeEntry.metadata packDigest)

def keyedBySource (entries : List ActivationEntryMetadata) : IndexEntries :=
  entries.foldl (fun map entry => map.insert entry.sourceId entry) ∅

def indexOf (packDigest : Sha256Digest) (knowledge : KnowledgeRows) : IndexEntries :=
  keyedBySource (indexed packDigest knowledge)

theorem keyedBySource_valuesOf {entries : IndexEntries}
    (keyed : ∀ (sourceId : KnowledgeSourceId) (entry : ActivationEntryMetadata),
      entries[sourceId]? = some entry → entry.sourceId = sourceId) :
    keyedBySource (valuesOf entries) = entries := by
  apply Std.ExtTreeMap.ext_getElem?
  intro sourceId
  apply Option.ext
  intro entry
  rw [keyedBySource, OrdMap.get_insertAll_distinct _ (nodup_valuesOf keyed), mem_valuesOf]
  constructor
  · rintro ⟨⟨other, found⟩, rfl⟩
    rw [keyed other entry found]
    exact found
  · exact fun found => ⟨⟨sourceId, found⟩, keyed sourceId entry found⟩

section
variable {packDigest : Sha256Digest} {knowledge : KnowledgeRows}

theorem mem_indexed (keyed : KnowledgeKeyed knowledge) {metadata : ActivationEntryMetadata} :
    metadata ∈ indexed packDigest knowledge ↔ ∃ entry : KnowledgeEntry,
      knowledge[entry.sourceId]? = some entry ∧ entry.metadata packDigest = some metadata := by
  rw [indexed, List.mem_filterMap]
  refine exists_congr fun entry => and_congr_left fun _ => ?_
  rw [mem_valuesOf]
  constructor
  · rintro ⟨id, found⟩
    rwa [keyed id entry found]
  · exact fun found => ⟨_, found⟩

theorem metadata_sources (packDigest : Sha256Digest) (entries : List KnowledgeEntry) :
    ((entries.filterMap (KnowledgeEntry.metadata packDigest)).map (·.sourceId)).Sublist
      (entries.map KnowledgeEntry.sourceId) := by
  induction entries with
  | nil => exact List.Sublist.slnil
  | cons entry rest ih =>
    rw [List.filterMap_cons, List.map_cons]
    cases held : entry.metadata packDigest with
    | none => exact ih.cons _
    | some metadata =>
      rw [List.map_cons, KnowledgeEntry.metadata_sourceId held]
      exact ih.cons_cons _

theorem nodup_indexed (keyed : KnowledgeKeyed knowledge) :
    ((indexed packDigest knowledge).map (·.sourceId)).Nodup :=
  (nodup_valuesOf keyed).sublist (metadata_sources packDigest (valuesOf knowledge))

/-- Of every source an index holds what the knowledge has. -/
theorem indexOf_get (keyed : KnowledgeKeyed knowledge) (sourceId : KnowledgeSourceId) :
    (indexOf packDigest knowledge)[sourceId]? =
      knowledge[sourceId]?.bind (KnowledgeEntry.metadata packDigest) := by
  apply Option.ext
  intro metadata
  rw [indexOf, keyedBySource, OrdMap.get_insertAll_distinct _ (nodup_indexed keyed), mem_indexed keyed,
    Option.bind_eq_some_iff]
  constructor
  · rintro ⟨⟨entry, found, held⟩, rfl⟩
    rw [KnowledgeEntry.metadata_sourceId held]
    exact ⟨entry, found, held⟩
  · rintro ⟨entry, found, held⟩
    have same := keyed sourceId entry found
    rw [KnowledgeEntry.metadata_sourceId held, same]
    exact ⟨⟨entry, by rw [same]; exact found, held⟩, rfl⟩

end

/-- The rows come in the order in which the entries of a story are made of the seeds. -/
theorem packEntryRows_eq (worldBook : WorldBook) : packEntryRows worldBook =
    worldBook.facts.toList.map factRow ++ worldBook.rumors.toList.map rumorRow := by
  have within (order : Nat) {first second : AssetKey} (less : compare first second = .lt) :
      toLex (order, first.asStr) ≤ toLex (order, second.asStr) :=
    Prod.Lex.toLex_le_toLex.mpr (.inr ⟨rfl, le_of_lt (compare_lt_iff_lt.mp less)⟩)
  refine List.Pairwise.insertionSort_eq (List.pairwise_append.mpr ⟨?_, ?_, ?_⟩)
  · exact List.pairwise_map.mpr (Std.ExtTreeMap.ordered_keys_toList.imp (within 0))
  · exact List.pairwise_map.mpr (Std.ExtTreeMap.ordered_keys_toList.imp (within 1))
  · intro first isFact second isRumor
    obtain ⟨fact, _, rfl⟩ := List.mem_map.mp isFact
    obtain ⟨rumor, _, rfl⟩ := List.mem_map.mp isRumor
    exact Prod.Lex.toLex_le_toLex.mpr (.inl Nat.zero_lt_one)

theorem knowledgeActivationRule_back (rule : KnowledgeActivationRule) :
    knowledgeActivationRuleCodec.decode (knowledgeActivationRuleCodec.encode rule) = some rule :=
  knowledgeActivationRuleCodec.back (knowledgeActivationRule_readable rule)

section
variable {externals : Externals} {packDigest : Sha256Digest}

/-- A row gives what the entry of its seed gives. -/
def RowOf (externals : Externals) (packDigest : Sha256Digest) (row : PackEntryRow)
    (entry : KnowledgeEntry) : Prop :=
  indexedKind row.knowledgeKind = .ok entry.kind ∧
    ∃ metadata, packEntry externals entry.sourceId row = .ok metadata ∧
      entry.metadata packDigest = some metadata

theorem RowOf.of_columns {row : PackEntryRow} {entry : KnowledgeEntry} {rule : KnowledgeActivationRule}
    {packId : AssetKey} (kind : indexedKind row.knowledgeKind = .ok entry.kind)
    (salience : row.salience = salienceColumn entry.salience)
    (ruled : row.activationRuleJson = knowledgeActivationRuleCodec.encode rule)
    (active : entry.activation = some (rule, .fromRule externals rule))
    (source : entry.source = .seed packId packDigest) : RowOf externals packDigest row entry := by
  refine ⟨kind, ⟨entry.sourceId, entry.kind, rule, .fromRule externals rule, entry.salience, true⟩, ?_, ?_⟩
  · rw [packEntry, salience, readSalience_column, ruled, knowledgeActivationRule_back,
      KnowledgeEntry.sourceId_kind]
    rfl
  · rw [KnowledgeEntry.metadata, active, source, Option.map_some, KnowledgeSource.fromPack]
    simp

theorem factRow_of {packId : AssetKey} {seed : AssetKey × FactSeed} {id : KnowledgeId .fact}
    {entry : KnowledgeEntry}
    (made : seedFact externals (.seed packId packDigest) id seed = .ok entry) :
    RowOf externals packDigest (factRow seed) entry := by
  obtain ⟨hint, _, made⟩ := Result.bind_eq_ok made
  cases made
  exact .of_columns rfl rfl rfl rfl rfl

theorem rumorRow_of {packId : AssetKey} {seed : AssetKey × RumorSeed} {id : KnowledgeId .rumor}
    {entry : KnowledgeEntry}
    (made : seedRumor externals (.seed packId packDigest) id seed = .ok entry) :
    RowOf externals packDigest (rumorRow seed) entry := by
  obtain ⟨hint, _, made⟩ := Result.bind_eq_ok made
  cases made
  exact .of_columns rfl rfl rfl rfl rfl

theorem assignRows_of {rows : List PackEntryRow} {entries : List KnowledgeEntry}
    (each : List.Forall₂ (RowOf externals packDigest) rows entries) (start : IndexEntries)
    (rest : List KnowledgeSourceId) :
    assignRows externals start rows (entries.map (·.sourceId) ++ rest) =
      .ok ((entries.filterMap (KnowledgeEntry.metadata packDigest)).foldl
        (fun map entry => map.insert entry.sourceId entry) start) := by
  induction each generalizing start with
  | nil => rfl
  | cons first _ ih =>
    obtain ⟨_, metadata, read, held⟩ := first
    rw [List.filterMap_cons, held, List.foldl_cons, ← ih, KnowledgeEntry.metadata_sourceId held]
    simp only [List.map_cons, List.cons_append, assignRows, read, bind, Except.bind]

theorem packEntryRows_of {frozen : FrozenStoryPack} {facts rumors memories : List KnowledgeEntry}
    (materialized : Materialized externals frozen facts rumors memories) :
    List.Forall₂ (RowOf externals frozen.digest) (packEntryRows frozen.resolvedWorldBook)
      (facts ++ rumors) := by
  rw [packEntryRows_eq]
  refine List.rel_append ?_ ?_
  · exact List.forall₂_map_left_iff.mpr
      (materialized.factSeeds.imp fun _ _ ⟨_, made⟩ => factRow_of made)
  · exact List.forall₂_map_left_iff.mpr
      (materialized.rumorSeeds.imp fun _ _ ⟨_, made⟩ => rumorRow_of made)

/-- An index holds all facts and rumors of the pack. -/
theorem indexed_length {frozen : FrozenStoryPack} {facts rumors memories : List KnowledgeEntry}
    (materialized : Materialized externals frozen facts rumors memories) :
    ((facts ++ rumors).filterMap (KnowledgeEntry.metadata frozen.digest)).length =
      (facts ++ rumors).length := by
  rw [List.filterMap_length_eq_length]
  intro entry member
  obtain ⟨row, _, _, metadata, _, held⟩ :=
    Result.exists_of_forall₂ (packEntryRows_of materialized) member
  rw [held]
  rfl

/-- The entries of the pack get the identifiers, the rules and the saliences that they were given when
the story was created, unless there are too many of them. -/
theorem canonicalPackEntries_eq {frozen : FrozenStoryPack} {facts rumors memories : List KnowledgeEntry}
    (materialized : Materialized externals frozen facts rumors memories) (maxEntries : UInt64) :
    canonicalPackEntries externals frozen.resolvedWorldBook maxEntries =
      if maxEntries.toNat + 1 < 2 ^ 63 ∧ (facts ++ rumors).length ≤ maxEntries.toNat then
        .ok (keyedBySource ((facts ++ rumors).filterMap (KnowledgeEntry.metadata frozen.digest)))
      else .error (activationLimit "max_entries") := by
  have each := packEntryRows_of materialized
  unfold canonicalPackEntries
  by_cases wide : 2 ^ 63 ≤ maxEntries.toNat + 1
  · rw [if_neg (fun both => by omega), Result.failIf, if_pos wide]
    rfl
  · by_cases many : (facts ++ rumors).length > maxEntries.toNat
    · have fetched : ((packEntryRows frozen.resolvedWorldBook).take (maxEntries.toNat + 1)).length >
          maxEntries.toNat := by
        rw [List.length_take, each.length_eq]
        omega
      rw [if_neg (fun both => by omega)]
      simp only [Result.failIf, wide, fetched, bind, Except.bind, if_false, if_true]
    · -- No row is cut off.
      have whole : (packEntryRows frozen.resolvedWorldBook).take (maxEntries.toNat + 1) =
          packEntryRows frozen.resolvedWorldBook := by
        apply List.take_of_length_le
        rw [each.length_eq]
        omega
      have kinds : (packEntryRows frozen.resolvedWorldBook).mapM
          (fun row => indexedKind row.knowledgeKind) = .ok ((facts ++ rumors).map (·.kind)) :=
        Result.mapM_of_forall₂ each fun here => here.1
      obtain ⟨wider, rest, widely, assigned⟩ := materialized.allocated
      rw [← List.map_append] at widely
      obtain ⟨first, narrowly, among⟩ := allocateFrom_append widely
      have taken : first.assigned = (facts ++ rumors).map (·.sourceId) := by
        rw [assigned, List.map_append, List.append_assoc] at among
        have long : first.assigned.length = ((facts ++ rumors).map (·.sourceId)).length := by
          have counted := congrArg List.length (allocateFrom_kinds narrowly)
          rw [List.length_map, List.length_map] at counted
          rw [counted, List.length_map]
        exact (List.prefix_of_prefix_length_le among (List.prefix_append _ _) long.le).eq_of_length long
      have counted := assignRows_of each ∅ []
      rw [List.append_nil, ← taken] at counted
      rw [if_pos ⟨by omega, by omega⟩, keyedBySource, ← counted]
      simp only [whole, each.length_eq, Result.failIf, wide, many, kinds, allocateKnowledgeIds, narrowly,
        Except.mapError, bind, Except.bind, if_false]

end

/-! ### What is read of the story -/

section
variable {packDigest : Sha256Digest} {rows : List KnowledgeRow} {knowledge : KnowledgeRows}

theorem indexedKind_name {kind : KnowledgeKind} (known : kind ≠ .memory) :
    indexedKind kind.name = .ok kind := by
  cases kind with
  | fact => rfl
  | rumor => rfl
  | memory => exact absurd rfl known

theorem KnowledgeRow.Stores.indexed {row : KnowledgeRow} {entry : KnowledgeEntry}
    (stores : row.Stores entry) {metadata : ActivationEntryMetadata}
    (held : entry.metadata packDigest = some metadata) :
    activationEntry packDigest row = .ok metadata := by
  obtain ⟨rule, active, rfl⟩ := Option.map_eq_some_iff.mp held
  have known : entry.kind ≠ .memory :=
    entry.activation_isSome.mp (by rw [active]; rfl)
  have source : knowledgeSourceCodec.decode row.sourceJson = some entry.source := by
    rw [stores.source]
    exact knowledgeSourceCodec.back
      (knowledgeSource_readable_iff.mpr (storable_of_decode stores.payload).1.source)
  have id := KnowledgeId.tryNew_asStr (⟨entry.sourceId, entry.sourceId_kind⟩ : KnowledgeId entry.kind)
  dsimp only at id
  unfold activationEntry
  simp only [stores.knowledgeKind, indexedKind_name known, stores.sourceId, id, source, stores.activationRule,
    stores.activationRuleVersion, stores.salience, active, Option.map_some, knowledgeActivationRule_back,
    ActivationRuleVersion.tryNew_display, readSalience_column, readAs, column, Result.okOr, bind, Except.bind]
  rfl

/-- The rows that are loaded are those of the entries that an index holds. -/
theorem Represents.indexed (represents : Represents rows knowledge) (packDigest : Sha256Digest)
    {row : KnowledgeRow} (member : row ∈ indexedRows rows) :
    ∃ metadata, activationEntry packDigest row = .ok metadata ∧
      ∃ entry : KnowledgeEntry, knowledge[entry.sourceId]? = some entry ∧
        entry.metadata packDigest = some metadata ∧ row.key = metadata.sourceId.columns := by
  obtain ⟨inside, shared⟩ := List.mem_filter.mp member
  obtain ⟨entry, found, stores⟩ := represents.sound row inside
  have known : entry.kind ≠ .memory := by
    intro memory
    rw [stores.knowledgeKind, entry.stored_kind, memory] at shared
    exact absurd rfl (of_decide_eq_true shared)
  obtain ⟨rule, active⟩ := Option.isSome_iff_exists.mp (entry.activation_isSome.mpr known)
  have held : entry.metadata packDigest = some _ := congrArg (Option.map _) active
  exact ⟨_, stores.indexed ((entry.metadata_stored packDigest).trans held), entry, found, held,
    stores.key_eq⟩

/-- The loop reads what an index holds of the knowledge, in the order of the identifiers. -/
theorem Represents.parsed (represents : Represents rows knowledge) (keyed : KnowledgeKeyed knowledge)
    (packDigest : Sha256Digest) :
    ∃ parsed, List.Forall₂ (fun row metadata => activationEntry packDigest row = .ok metadata)
        (orderedById (indexedRows rows)) parsed ∧
      parsed.Perm (Persistence.indexed packDigest knowledge) := by
  have ordered : (orderedById (indexedRows rows)).Perm (indexedRows rows) := List.mergeSort_perm _ _
  obtain ⟨parsed, each⟩ := Result.forall₂_total fun row member =>
    represents.indexed packDigest (ordered.mem_iff.mp member)
  have keys : parsed.map (·.sourceId.columns) = (orderedById (indexedRows rows)).map KnowledgeRow.key :=
    Result.map_of_forall₂ _ _ each fun _ _ _ ⟨_, _, _, _, key⟩ => key.symm
  have rowKeys : ((orderedById (indexedRows rows)).map KnowledgeRow.key).Nodup :=
    (ordered.map _).nodup_iff.mpr (represents.distinct.sublist (List.filter_sublist.map _))
  refine ⟨parsed, each.imp fun _ _ here => here.1, ?_⟩
  refine (List.perm_ext_iff_of_nodup ?_ (nodup_indexed keyed).of_map).mpr fun metadata => ?_
  · rw [← keys] at rowKeys
    exact rowKeys.of_map
  rw [mem_indexed keyed]
  constructor
  · intro member
    obtain ⟨row, _, _, entry, found, held, _⟩ := Result.exists_of_forall₂ each member
    exact ⟨entry, found, held⟩
  · rintro ⟨entry, found, held⟩
    obtain ⟨row, inside, stores⟩ := represents.complete entry found
    have read := stores.indexed ((entry.metadata_stored packDigest).trans held)
    have among : row ∈ indexedRows rows := by
      refine List.mem_filter.mpr ⟨inside, decide_eq_true ?_⟩
      rw [stores.knowledgeKind, entry.stored_kind]
      obtain ⟨rule, active, _⟩ := Option.map_eq_some_iff.mp held
      have known := entry.activation_isSome.mp (by rw [active]; rfl)
      exact fun same => known (KnowledgeKind.name_injective same)
    obtain ⟨other, member, also, _⟩ :=
      Result.exists_of_forall₂ each.flip (ordered.mem_iff.mpr among)
    cases read.symm.trans also
    exact member

theorem loadEntry_eq {row : KnowledgeRow} {entry : ActivationEntryMetadata} {maxOverlayEntries : UInt64}
    (read : activationEntry packDigest row = .ok entry) (load : IndexLoad) :
    loadEntry packDigest maxOverlayEntries load row =
      let overlayEntries :=
        if entry.fromPack then load.overlayEntries else Saturating.add load.overlayEntries 1
      if entry.fromPack = false ∧ overlayEntries > maxOverlayEntries then
        .error (activationLimit "max_overlay_entries")
      else .ok ⟨load.entries.insert entry.sourceId entry, overlayEntries⟩ := by
  by_cases exceeds : entry.fromPack = false ∧
      (if entry.fromPack then load.overlayEntries else Saturating.add load.overlayEntries 1) >
        maxOverlayEntries
  · simp only [loadEntry, read, Result.failIf, bind, Except.bind, if_pos exceeds]
  · simp only [loadEntry, read, Result.failIf, bind, Except.bind, if_neg exceeds]
    rfl

/-- Entries are loaded unless too many of them are not of the pack. -/
theorem loadEntries_eq {parsed : List ActivationEntryMetadata} (maxOverlayEntries : UInt64)
    (each : List.Forall₂ (fun row metadata => activationEntry packDigest row = .ok metadata) rows parsed)
    (load : IndexLoad) (within : load.overlayEntries ≤ maxOverlayEntries)
    (bounded : load.overlayEntries.toNat + parsed.length ≤ max64) :
    (rows.foldlM (loadEntry packDigest maxOverlayEntries) load).map IndexLoad.entries =
      if load.overlayEntries.toNat + parsed.countP (fun entry => !entry.fromPack) ≤
          maxOverlayEntries.toNat then
        .ok (parsed.foldl (fun map entry => map.insert entry.sourceId entry) load.entries)
      else .error (activationLimit "max_overlay_entries") := by
  induction each generalizing load with
  | nil =>
    rw [List.countP_nil, Nat.add_zero, if_pos (UInt64.le_iff_toNat_le.mp within)]
    rfl
  | cons first others ih =>
    rename_i row entry rest parsed
    rw [List.length_cons] at bounded
    rw [List.foldlM_cons, List.foldl_cons, loadEntry_eq first]
    cases owned : entry.fromPack with
    | true =>
      rw [List.countP_cons_of_neg (by simp [owned])]
      exact ih ⟨load.entries.insert entry.sourceId entry, load.overlayEntries⟩ within
        (by dsimp only; omega)
    | false =>
      have counted : (Saturating.add load.overlayEntries 1).toNat = load.overlayEntries.toNat + 1 := by
        rw [toNat_add, UInt64.toNat_one]
        omega
      rw [List.countP_cons_of_pos (by simp [owned])]
      by_cases more : Saturating.add load.overlayEntries 1 > maxOverlayEntries
      · have exceeded := UInt64.lt_iff_toNat_lt.mp more
        rw [counted] at exceeded
        have tooMany : ¬load.overlayEntries.toNat + (parsed.countP (fun entry => !entry.fromPack) + 1) ≤
            maxOverlayEntries.toNat := by omega
        rw [if_neg tooMany]
        simp [bind, Except.bind, Except.map, more]
      · have step := ih ⟨load.entries.insert entry.sourceId entry,
          Saturating.add load.overlayEntries 1⟩ (UInt64.not_lt.mp more) (by dsimp only; omega)
        dsimp only at step
        rw [counted, Nat.add_assoc, Nat.add_comm 1] at step
        rw [← step]
        simp [bind, Except.bind, more]

/-- A story of a pack is loaded unless there are too many entries, and then with the entries of the
pack as they were at first and with those of the story as they are. -/
theorem loadSnapshot_eq {externals : Externals} {frozen : FrozenStoryPack}
    {facts rumors memories : List KnowledgeEntry}
    (materialized : Materialized externals frozen facts rumors memories)
    (represents : Represents rows knowledge) (keyed : KnowledgeKeyed knowledge)
    (story : ActivationRow) (reference : KnowledgeSnapshotRef)
    (current : 0 ≤ story.revision ∧ story.revision.toUInt64 = reference.baseRevision)
    (packed : story.worldBook = frozen.resolvedWorldBook ∧ story.digest = frozen.digest ∧
      reference.packDigest = frozen.digest) (limits : ActivationIndexLimits) :
    loadSnapshot externals (some story) rows reference limits =
      if limits.maxEntries.toNat + 1 < 2 ^ 63 ∧ (facts ++ rumors).length ≤ limits.maxEntries.toNat ∧
          (indexed frozen.digest knowledge).length ≤ limits.maxEntries.toNat then
        if (indexed frozen.digest knowledge).countP (fun entry => !entry.fromPack) ≤
            limits.maxOverlayEntries.toNat then
          .ok {
            reference := .fromKnowledge reference story.overlayVersion.get matcherVersion
            packEntries :=
              keyedBySource ((facts ++ rumors).filterMap (KnowledgeEntry.metadata frozen.digest))
            entries := indexOf frozen.digest knowledge }
        else .error (activationLimit "max_overlay_entries")
      else .error (activationLimit "max_entries") := by
  obtain ⟨positive, revised⟩ := current
  obtain ⟨book, own, digest⟩ := packed
  obtain ⟨parsed, each, perm⟩ := represents.parsed keyed frozen.digest
  have counted : (indexedRows rows).length = (indexed frozen.digest knowledge).length := by
    rw [← perm.length_eq, ← each.length_eq, orderedById, List.length_mergeSort]
  have signed : ¬story.revision < 0 := Int64.not_lt.mpr positive
  have matching : ¬(story.revision.toUInt64 ≠ reference.baseRevision ∨ story.digest ≠ frozen.digest) := by
    rw [revised, own]
    simp
  have packs := canonicalPackEntries_eq materialized limits.maxEntries
  unfold loadSnapshot
  rw [digest]
  by_cases fits : limits.maxEntries.toNat + 1 < 2 ^ 63 ∧ (facts ++ rumors).length ≤ limits.maxEntries.toNat
  · rw [if_pos fits] at packs
    by_cases few : (indexed frozen.digest knowledge).length ≤ limits.maxEntries.toNat
    · have bounded : 0 + parsed.length ≤ max64 := by
        have limit := toNat_le limits.maxEntries
        rw [perm.length_eq]
        omega
      have loop := loadEntries_eq limits.maxOverlayEntries each {} UInt64.zero_le bounded
      have same : parsed.foldl (fun map entry => map.insert entry.sourceId entry) ∅ =
          indexOf frozen.digest knowledge :=
        OrdMap.insertAll_perm _ ((perm.map _).nodup_iff.mpr (nodup_indexed keyed)) perm
      rw [same, perm.countP_eq, UInt64.toNat_zero, Nat.zero_add] at loop
      rw [if_pos ⟨fits.1, fits.2, few⟩]
      simp only [Result.okOr, Result.failIf, signed, matching, book, packs, counted, Nat.not_lt.mpr few,
        bind, Except.bind, if_false]
      by_cases overlaid : (indexed frozen.digest knowledge).countP (fun entry => !entry.fromPack) ≤
          limits.maxOverlayEntries.toNat
      · rw [if_pos overlaid] at loop ⊢
        obtain ⟨load, looped, same⟩ := Result.map_eq_ok loop
        rw [looped, ← same]
        rfl
      · rw [if_neg overlaid] at loop ⊢
        rw [Result.map_eq_error loop]
    · rw [if_neg fun all => few all.2.2]
      simp only [Result.okOr, Result.failIf, signed, matching, book, packs, counted, Nat.lt_of_not_le few,
        bind, Except.bind, if_false, if_true]
  · rw [if_neg fits] at packs
    rw [if_neg fun all => fits ⟨all.1, all.2.1⟩]
    simp only [Result.okOr, Result.failIf, signed, matching, book, packs, bind, Except.bind, if_false]

end

/-! ### The version of the overlay -/

/-- `knowledge_mutation_affects_activation`. -/
def knowledgeMutationAffectsActivation (mutation : ValidatedKnowledgeMutation) : Bool :=
  match mutation.operation with
  | .add entry | .update _ entry => entry.kind ≠ .memory
  | .delete (.rumor _) => true
  | .delete (.memory _) => false

/-- What a story has of its activation: its rows of knowledge, and how often they have changed. -/
structure ActivationColumns where
  rows : List KnowledgeRow
  overlayVersion : StoredCount

/-- What `commit_turn` does to the columns. -/
def commitActivation (columns : ActivationColumns) (mutations : List ValidatedKnowledgeMutation) :
    Except StoreError ActivationColumns := do
  let rows ← applyAll columns.rows mutations
  let overlayVersion ←
    if mutations.any knowledgeMutationAffectsActivation then
      StoredCount.store (columns.overlayVersion.get + 1)
    else .ok columns.overlayVersion
  return { rows, overlayVersion }

theorem unversioned_fits : (0 : UInt64).toNat < 2 ^ 63 := by decide

/-- What `create_story_instance` inserts. -/
def createActivation (entries : List KnowledgeEntry) : Except StoreError ActivationColumns := do
  return { rows := ← entries.foldlM insertKnowledgeEntry [], overlayVersion := ⟨0, unversioned_fits⟩ }

end Aise.Domain.Persistence
