import Aise.Persistence.SqliteActivation
import Aise.Story.ExactlyOnce
import Aise.Validation.HighWater

/-! The index of a story over its runs. What the store keeps of a pack and of a story is enough to
compose an index that matches what an index of all the current entries matches. -/
namespace Aise.Domain

/-! ### What a turn writes -/

/-- An entry that a turn writes can be read back, and is of that turn. -/
structure KnowledgeEntry.WrittenBy (context : KnowledgeEnrichmentContext) (entry : KnowledgeEntry) :
    Prop extends entry.Storable where
  sourced : entry.source = context.source

theorem semantic_of_named {value : String} {key : AssetKey}
    (named : AssetKey.tryNewSemantic value = some key) : isValidSemanticKey key.asStr = true := by
  have read : semanticKeyCodec.decode (.str value) = some key := named
  exact semanticKeyCodec.sound read

section
variable {externals : Externals} {engine : RegexEngine} {context : KnowledgeEnrichmentContext}
  {snapshot : StorySnapshot} {newRoles : List StoryRole} {dto : StoryStateExtractionDto}

theorem KnowledgeEntry.WrittenBy.of_parts {entry : KnowledgeEntry} (sourced : entry.source = context.source)
    (unnamed : entry.key = none)
    (kinds : ∀ kind ∈ entry.memoryKind, isValidSemanticKey kind.asStr = true) :
    entry.WrittenBy context where
  source := by
    rw [sourced]
    exact trivial
  memoryKind := kinds
  key key named := by
    rw [unnamed] at named
    cases named
  sourced := sourced

theorem updateFact_written {update : FactUpdateDto} {operation : ValidatedKnowledgeOperation}
    {entry : KnowledgeEntry} (made : updateFact externals engine context update = .ok operation)
    (writes : operation.entry = some entry) : entry.WrittenBy context := by
  obtain ⟨target, _, made⟩ := Result.bind_eq_ok made
  obtain ⟨existing, _, made⟩ := Result.bind_eq_ok made
  obtain ⟨content, _, made⟩ := Result.bind_eq_ok made
  obtain ⟨hint, _, made⟩ := Result.bind_eq_ok made
  obtain ⟨activation, _, made⟩ := Result.bind_eq_ok made
  cases made
  cases writes
  exact .of_parts rfl rfl nofun

theorem updateRumor_written {update : RumorUpdateDto} {operation : ValidatedKnowledgeOperation}
    {entry : KnowledgeEntry}
    (made : updateRumor externals engine context snapshot newRoles update = .ok operation)
    (writes : operation.entry = some entry) : entry.WrittenBy context := by
  obtain ⟨target, _, made⟩ := Result.bind_eq_ok made
  obtain ⟨existing, _, made⟩ := Result.bind_eq_ok made
  obtain ⟨content, _, made⟩ := Result.bind_eq_ok made
  obtain ⟨hint, _, made⟩ := Result.bind_eq_ok made
  obtain ⟨source, _, made⟩ := Result.bind_eq_ok made
  obtain ⟨activation, _, made⟩ := Result.bind_eq_ok made
  cases made
  cases writes
  exact .of_parts rfl rfl nofun

theorem updateMemory_written {update : MemoryUpdateDto} {operation : ValidatedKnowledgeOperation}
    {entry : KnowledgeEntry} (made : updateMemory context update = .ok operation)
    (writes : operation.entry = some entry) : entry.WrittenBy context := by
  obtain ⟨target, _, made⟩ := Result.bind_eq_ok made
  obtain ⟨⟨owner, salience⟩, _, made⟩ := Result.bind_eq_ok made
  obtain ⟨kind, named, made⟩ := Result.bind_eq_ok made
  obtain ⟨content, _, made⟩ := Result.bind_eq_ok made
  cases made
  cases writes
  refine .of_parts rfl rfl fun other same => ?_
  cases same
  exact semantic_of_named (Result.okOr_eq_ok.mp named)

theorem finishFact_written {draft : FactDraftDto} {prepared : BoundedText × RetrievalHint}
    {id : KnowledgeId .fact} {entry : KnowledgeEntry}
    (made : finishFact externals engine context draft prepared id = .ok entry) :
    entry.WrittenBy context := by
  obtain ⟨activation, _, made⟩ := Result.bind_eq_ok made
  cases made
  exact .of_parts rfl rfl nofun

theorem drafted_memory_written {draft : MemoryDraftDto} {entry : KnowledgeEntry}
    (drafted : Drafted (prepareMemory context snapshot newRoles) (finishMemory context) draft entry) :
    entry.WrittenBy context := by
  obtain ⟨prepared, id, readied, finished⟩ := drafted
  obtain ⟨owner, _, readied⟩ := Result.bind_eq_ok readied
  split at readied
  · obtain ⟨kind, named, readied⟩ := Result.bind_eq_ok readied
    obtain ⟨content, _, readied⟩ := Result.bind_eq_ok readied
    cases readied
    cases finished
    refine .of_parts rfl rfl fun other same => ?_
    cases same
    exact semantic_of_named (Result.okOr_eq_ok.mp named)
  · cases readied

/-- Whatever an extraction adds or updates is written by the turn. -/
theorem EnrichedFrom.written {parts : KnowledgeParts} {assigned : List KnowledgeSourceId}
    (enriched : EnrichedFrom externals engine context snapshot newRoles dto parts assigned)
    {operation : ValidatedKnowledgeOperation} (member : operation ∈ parts.operations)
    {entry : KnowledgeEntry} (writes : operation.entry = some entry) : entry.WrittenBy context := by
  simp only [KnowledgeParts.operations, List.mem_append, List.mem_map] at member
  obtain ((((((⟨added, among, rfl⟩ | updated) | ⟨added, among, rfl⟩) | updated) | deleted) |
    ⟨added, among, rfl⟩) | updated) | deleted := member
  · cases writes
    obtain ⟨draft, _, prepared, id, _, finished⟩ := Result.exists_of_forall₂ enriched.addedFacts among
    exact finishFact_written finished
  · obtain ⟨update, _, made⟩ := Result.exists_of_forall₂ enriched.updatedFacts updated
    exact updateFact_written made writes
  · cases writes
    obtain ⟨draft, _, prepared, id, _, finished⟩ := Result.exists_of_forall₂ enriched.addedRumors among
    cases finished
    exact .of_parts rfl rfl fun _ member => by cases member
  · obtain ⟨update, _, made⟩ := Result.exists_of_forall₂ enriched.updatedRumors updated
    exact updateRumor_written made writes
  · obtain ⟨rawId, _, made⟩ := Result.exists_of_forall₂ enriched.deletedRumors deleted
    obtain ⟨_, _, _, _, rfl⟩ := deleteRumor_eq_ok made
    cases writes
  · cases writes
    obtain ⟨draft, _, drafted⟩ := Result.exists_of_forall₂ enriched.addedMemories among
    exact drafted_memory_written drafted
  · obtain ⟨update, _, made⟩ := Result.exists_of_forall₂ enriched.updatedMemories updated
    exact updateMemory_written made writes
  · obtain ⟨rawId, _, made⟩ := Result.exists_of_forall₂ enriched.deletedMemories deleted
    obtain ⟨_, _, _, _, rfl⟩ := deleteMemory_eq_ok made
    cases writes

end

end Aise.Domain

namespace Aise.Domain.Persistence

/-! ### What a mutation keeps -/

/-- What comes from the pack is as it was at first. -/
def Seeded (packDigest : Sha256Digest) (first knowledge : KnowledgeRows) : Prop :=
  ∀ (id : KnowledgeSourceId) (entry : KnowledgeEntry), knowledge[id]? = some entry →
    entry.source.fromPack packDigest = true → first[id]? = some entry

section
variable {packDigest : Sha256Digest} {first knowledge next : KnowledgeRows}
  {operation : ValidatedKnowledgeOperation}

/-- An operation writes nothing that comes from the pack. -/
theorem Seeded.applied (seeded : Seeded packDigest first knowledge)
    (foreign : ∀ entry, operation.entry = some entry → entry.source.fromPack packDigest = false)
    (ok : applyKnowledgeOperation knowledge operation = .ok next) : Seeded packDigest first next := by
  intro id entry found fromPack
  cases operation with
  | add added =>
    rw [applyKnowledgeOperation] at ok
    split at ok
    · cases ok
    · cases ok
      rw [OrdMap.get_insert] at found
      split at found
      · cases found
        rw [foreign _ rfl] at fromPack
        cases fromPack
      · exact seeded id entry found fromPack
  | update target value =>
    obtain ⟨existing, known, ok⟩ := Result.bind_eq_ok ok
    obtain ⟨merged, mergedOk, ok⟩ := Result.bind_eq_ok ok
    cases ok
    rw [OrdMap.get_insert] at found
    split at found
    · cases found
      rw [(mergeKnowledgeUpdate_value mergedOk).1, foreign value rfl] at fromPack
      cases fromPack
    · exact seeded id entry found fromPack
  | delete target =>
    rw [applyKnowledgeOperation] at ok
    split at ok
    · cases ok
      rw [OrdMap.get_erase] at found
      split at found
      · cases found
      · exact seeded id entry found fromPack
    · cases ok

/-- What an index would hold of a source. -/
def heldAt (packDigest : Sha256Digest) (knowledge : KnowledgeRows) (id : KnowledgeSourceId) :
    Option ActivationEntryMetadata :=
  knowledge[id]?.bind (KnowledgeEntry.metadata packDigest)

theorem heldAt_memory {id : KnowledgeSourceId} (keyed : KnowledgeKeyed knowledge)
    (memory : id.kind = .memory) :
    heldAt packDigest knowledge id = none := by
  rw [heldAt, Option.bind_eq_none_iff]
  intro entry found
  have none : entry.activation = none := by
    rw [← Option.not_isSome_iff_eq_none, entry.activation_isSome, ← entry.sourceId_kind,
      keyed id entry found, not_not]
    exact memory
  rw [KnowledgeEntry.metadata, none, Option.map_none]

/-- An operation that does not affect activation leaves what an index would hold. -/
theorem heldAt_unaffected (ordinal : UInt32) (keyed : KnowledgeKeyed knowledge)
    (unaffecting : knowledgeMutationAffectsActivation ⟨ordinal, operation⟩ = false)
    (ok : applyKnowledgeOperation knowledge operation = .ok next) :
    heldAt packDigest next = heldAt packDigest knowledge := by
  have after := applyKnowledgeOperation_keyed keyed ok
  have outside {target : KnowledgeSourceId} (memory : target.kind = .memory)
      (others : ∀ id, target ≠ id → next[id]? = knowledge[id]?) :
      heldAt packDigest next = heldAt packDigest knowledge := by
    funext id
    by_cases here : target = id
    · rw [heldAt_memory after (here ▸ memory), heldAt_memory keyed (here ▸ memory)]
    · rw [heldAt, heldAt, others id here]
  cases operation with
  | add added =>
    have memory : added.kind = .memory := by simpa [knowledgeMutationAffectsActivation] using unaffecting
    rw [applyKnowledgeOperation] at ok
    split at ok
    · cases ok
    · cases ok
      refine outside (added.sourceId_kind.trans memory) fun id apart => ?_
      rw [OrdMap.get_insert, if_neg apart]
  | update target value =>
    have memory : value.kind = .memory := by simpa [knowledgeMutationAffectsActivation] using unaffecting
    obtain ⟨existing, known, ok⟩ := Result.bind_eq_ok ok
    obtain ⟨merged, _, ok⟩ := Result.bind_eq_ok ok
    cases ok
    have stored := Result.okOr_eq_ok.mp known
    split at stored
    · rename_i same
      refine outside (same.trans memory) fun id apart => ?_
      rw [OrdMap.get_insert, if_neg apart]
    · cases stored
  | delete target =>
    cases target with
    | rumor id => cases unaffecting
    | memory target =>
      rw [applyKnowledgeOperation] at ok
      split at ok
      · cases ok
        refine outside target.2 fun id apart => ?_
        rw [OrdMap.get_erase]
        exact if_neg apart
      · cases ok

/-- Neither do the mutations of a turn none of which affects activation. -/
theorem heldAt_mutations {mutations : List ValidatedKnowledgeMutation} (keyed : KnowledgeKeyed knowledge)
    (unaffecting : mutations.any knowledgeMutationAffectsActivation = false)
    (ok : applyKnowledgeMutations knowledge mutations = .ok next) :
    heldAt packDigest next = heldAt packDigest knowledge := by
  have each := List.any_eq_false.mp unaffecting
  refine (Result.foldlM_invariant_mem (P := fun rows => KnowledgeKeyed rows ∧
    heldAt packDigest rows = heldAt packDigest knowledge) ?_ ok ⟨keyed, rfl⟩).2
  rintro rows mutation later ⟨held, same⟩ member step
  refine ⟨applyKnowledgeOperation_keyed held step, ?_⟩
  rw [← same]
  exact heldAt_unaffected mutation.ordinal held (Bool.eq_false_iff.mpr (each mutation member)) step

end

/-! ### What a turn keeps -/

section
variable {around : Surroundings} {story next : StoredStory} (turn : StoryTurn around story next)
include turn

theorem StoryTurn.written {mutation : ValidatedKnowledgeMutation}
    (member : mutation ∈ turn.changes.knowledgeMutations) {entry : KnowledgeEntry}
    (writes : mutation.operation.entry = some entry) : entry.WrittenBy turn.turn.enrichmentContext := by
  obtain ⟨parts, state, resolution, from', -, -⟩ := turn.builtFrom
  obtain ⟨pieces, _, _, _, operations, enriched⟩ :=
    enrichExtractedKnowledge_eq_ok (buildStateParts_eq_ok from'.built).knowledge
  rw [from'.mutations] at member
  have among := List.mem_map_of_mem (f := ValidatedKnowledgeMutation.operation) member
  rw [operations] at among
  exact enriched.written among writes

theorem StoryTurn.readsBack {mutation : ValidatedKnowledgeMutation}
    (member : mutation ∈ turn.changes.knowledgeMutations) : ReadsBack mutation := by
  unfold ReadsBack
  have written (entry : KnowledgeEntry) (writes : mutation.operation.entry = some entry) :
      entry.Storable := (turn.written member writes).toStorable
  split
  · rename_i entry here
    exact written entry (by rw [here]; rfl)
  · rename_i target value here
    exact (written value (by rw [here]; rfl)).toRewritable
  · trivial

theorem StoryTurn.seeded {packDigest : Sha256Digest} {first : KnowledgeRows}
    (seeded : Seeded packDigest first story.knowledge) : Seeded packDigest first next.knowledge := by
  have applied := turn.commits.knowledge
  rw [turn.committing] at applied
  refine Result.foldlM_invariant_mem (P := Seeded packDigest first) ?_ applied seeded
  intro rows mutation later held member step
  refine held.applied (fun entry writes => ?_) step
  rw [(turn.written member writes).sourced]
  rfl

end

/-! ### How a story starts -/

theorem Represents.empty : Represents [] ∅ where
  checked _ member := absurd member List.not_mem_nil
  distinct := List.nodup_nil
  sound _ member := absurd member List.not_mem_nil
  complete entry found := by
    rw [Std.ExtTreeMap.getElem?_empty] at found
    cases found

/-- What a pack that was read from the store has been checked for. -/
structure StoredStoryPack.Readable (stored : StoredStoryPack) : Prop where
  packId : isValidKey stored.row.packId.asStr = true
  facts : ∀ seed ∈ stored.resolvedWorldBook.facts.toList, isValidKey seed.1.asStr = true
  rumors : ∀ seed ∈ stored.resolvedWorldBook.rumors.toList, isValidKey seed.1.asStr = true
  memories : ∀ seed ∈ memorySeeds stored.frozen, isValidSemanticKey seed.2.kind.asStr = true

/-- The columns of a new story, of which `createStory` has made the other ones. -/
def Foundation.columns (around : Surroundings) (foundation : Foundation) :
    Except StoryCreationError ActivationColumns := do
  let materialized ← materialize foundation.limits foundation.stored foundation.spec around.uuids
    around.externals around.engine foundation.narrativeLimits foundation.sources
  (createActivation materialized.knowledge).mapError .store

/-- The columns after the turns that have committed `changes`. -/
def Foundation.columnsAfter (around : Surroundings) (foundation : Foundation)
    (changes : List ValidatedChangeSet) : Except StoryCreationError ActivationColumns := do
  let columns ← foundation.columns around
  (changes.foldlM (fun columns changes => commitActivation columns changes.knowledgeMutations)
    columns).mapError .store

section
variable {around : Surroundings} {foundation : Foundation} {start : StoredStory}

/-- Nothing but what the entries have is inserted, each under its own source. -/
theorem insertKnowledge_eq_ok {entries : List KnowledgeEntry} {rows : KnowledgeRows}
    (inserted : insertKnowledge entries = .ok rows) :
    rows = entries.foldl (fun rows entry => rows.insert entry.sourceId entry) ∅ := by
  suffices each : ∀ (start : KnowledgeRows) (entries : List KnowledgeEntry),
      entries.foldlM (fun rows entry => applyKnowledgeOperation rows (.add entry)) start = .ok rows →
        rows = entries.foldl (fun rows entry => rows.insert entry.sourceId entry) start from
    each ∅ entries inserted
  intro start entries inserted
  induction entries generalizing start with
  | nil =>
    cases inserted
    rfl
  | cons entry entries ih =>
    obtain ⟨next, added, inserted⟩ := Result.bind_eq_ok inserted
    dsimp only at added
    rw [applyKnowledgeOperation] at added
    split at added
    · cases added
    · cases added
      exact ih _ inserted

/-- What a story starts with. -/
structure Begins (around : Surroundings) (foundation : Foundation) (start : StoredStory)
    (entries : List KnowledgeEntry) : Prop where
  columns : foundation.columns around = (createActivation entries).mapError .store
  inserted : insertKnowledge entries = .ok start.knowledge
  distinct : (entries.map (·.sourceId)).Nodup
  materialized : ∃ facts rumors memories, entries = facts ++ rumors ++ memories ∧
    Materialized around.externals foundation.stored.frozen facts rumors memories
  storable : foundation.stored.Readable → ∀ entry ∈ entries, entry.Storable
  pack : start.pack = foundation.stored.row
  revision : start.revision = 0

theorem seed_storable {stored : StoredStoryPack} (readable : stored.Readable)
    {ruleLimits : ActivationRuleLimits} {createdAtMs : Int64} {entries : List KnowledgeEntry}
    {highWater : UInt64} (made : materializeKnowledge around.externals around.engine ruleLimits stored.frozen
      createdAtMs = .ok (entries, highWater)) {entry : KnowledgeEntry} (member : entry ∈ entries) :
    entry.Storable := by
  obtain ⟨seed, among, id, formed⟩ | ⟨seed, among, id, formed⟩ | ⟨seed, among, id, formed⟩ :=
    materializeKnowledge_seed made member
  · obtain ⟨hint, _, formed⟩ := Result.bind_eq_ok formed
    cases formed
    refine ⟨⟨readable.packId, nofun⟩, fun key same => ?_⟩
    cases same
    exact readable.facts seed among
  · obtain ⟨hint, _, formed⟩ := Result.bind_eq_ok formed
    cases formed
    refine ⟨⟨readable.packId, nofun⟩, fun key same => ?_⟩
    cases same
    exact readable.rumors seed among
  · cases formed
    refine ⟨⟨readable.packId, fun kind same => ?_⟩, nofun⟩
    cases same
    exact readable.memories seed among

theorem Foundation.begins (created : foundation.create around = .ok start) :
    ∃ entries, Begins around foundation start entries := by
  obtain ⟨spec, made, created⟩ := Result.bind_eq_ok created
  have from' := materialize_eq_ok made
  have starts := createStoryInstance_eq_ok (Result.mapError_eq_ok.mp created)
  obtain ⟨facts, rumors, memories, same, materialized, kinds, allocation, rest, allocated, assigned, _⟩ :=
    materializeKnowledge_ok from'.knowledge
  refine ⟨spec.knowledge, ?_, starts.knowledge, ?_, ⟨facts, rumors, memories, same, materialized⟩, ?_,
    starts.pack, starts.revision⟩
  · unfold Foundation.columns
    rw [made]
    rfl
  · obtain ⟨_, distinct, _⟩ := allocateKnowledgeIds_fresh allocated
    rw [assigned] at distinct
    exact (List.nodup_append.mp distinct).1
  · exact fun readable entry member => seed_storable readable from'.knowledge member

namespace Begins
variable {entries : List KnowledgeEntry} (begins : Begins around foundation start entries)
include begins

theorem knowledge_get {id : KnowledgeSourceId} {entry : KnowledgeEntry} :
    start.knowledge[id]? = some entry ↔ entry ∈ entries ∧ entry.sourceId = id := by
  rw [insertKnowledge_eq_ok begins.inserted]
  exact OrdMap.get_insertAll_distinct _ begins.distinct

/-- Their rows are those of the entries. -/
theorem represents (readable : foundation.stored.Readable) : ∃ columns,
    foundation.columns around = .ok columns ∧ columns.overlayVersion.get = 0 ∧
      Represents columns.rows start.knowledge := by
  have mutations : applyKnowledgeMutations ∅ (entries.map fun entry => ⟨0, .add entry⟩) =
      .ok start.knowledge := by
    rw [← begins.inserted, applyKnowledgeMutations, List.foldlM_map]
    rfl
  obtain ⟨rows, inserted, represents⟩ := Represents.empty.applyAll
    (insertKnowledge_keyed (rfl : insertKnowledge [] = .ok ∅)) (fun mutation member => by
      obtain ⟨entry, among, rfl⟩ := List.mem_map.mp member
      exact begins.storable readable entry among) mutations
  refine ⟨⟨rows, ⟨0, unversioned_fits⟩⟩, ?_, rfl, represents⟩
  have filled : entries.foldlM insertKnowledgeEntry [] = .ok rows := by
    rw [← inserted, applyAll, List.foldlM_map]
    rfl
  rw [begins.columns, createActivation, filled]
  rfl

/-- What the store numbers anew of the pack is what an index held of the story at first. -/
theorem indexed_perm {facts rumors memories : List KnowledgeEntry}
    (same : entries = facts ++ rumors ++ memories) (privately : ∀ entry ∈ memories, entry.kind = .memory)
    (packDigest : Sha256Digest) :
    ((facts ++ rumors).filterMap (KnowledgeEntry.metadata packDigest)).Perm
      (indexed packDigest start.knowledge) := by
  have unindexed : memories.filterMap (KnowledgeEntry.metadata packDigest) = [] := by
    rw [List.filterMap_eq_nil_iff]
    intro entry member
    rw [KnowledgeEntry.metadata, Option.map_eq_none_iff, ← Option.not_isSome_iff_eq_none,
      entry.activation_isSome, not_not]
    exact privately entry member
  have all : (facts ++ rumors).filterMap (KnowledgeEntry.metadata packDigest) =
      entries.filterMap (KnowledgeEntry.metadata packDigest) := by
    rw [same, List.filterMap_append (l := facts ++ rumors), unindexed, List.append_nil]
  have distinct := begins.distinct.sublist (metadata_sources packDigest entries)
  rw [all]
  refine (List.perm_ext_iff_of_nodup distinct.of_map (nodup_indexed start.knowledgeKeyed).of_map).mpr
    fun metadata => ?_
  rw [mem_indexed start.knowledgeKeyed, List.mem_filterMap]
  exact exists_congr fun entry => and_congr_left fun _ => by rw [begins.knowledge_get, and_iff_left rfl]

theorem packEntries_eq {facts rumors memories : List KnowledgeEntry}
    (same : entries = facts ++ rumors ++ memories) (privately : ∀ entry ∈ memories, entry.kind = .memory)
    (packDigest : Sha256Digest) :
    keyedBySource ((facts ++ rumors).filterMap (KnowledgeEntry.metadata packDigest)) =
      indexOf packDigest start.knowledge := by
  have perm := begins.indexed_perm same privately packDigest
  exact OrdMap.insertAll_perm _ ((perm.map _).nodup_iff.mpr (nodup_indexed start.knowledgeKeyed)) perm

end Begins

end

/-! ### How a story goes on -/

/-- The columns of a story that has begun with `first`. -/
structure Indexes (packDigest : Sha256Digest) (first : KnowledgeRows) (story : StoredStory)
    (columns : ActivationColumns) : Prop where
  represents : Represents columns.rows story.knowledge
  seeded : Seeded packDigest first story.knowledge
  -- The version cannot overflow before the revision does.
  counted : (columns.overlayVersion.get.toNat : Int) ≤ story.revision.toInt

section
variable {around : Surroundings} {packDigest : Sha256Digest} {first : KnowledgeRows}
  {story next : StoredStory} {columns : ActivationColumns}

/-- A turn counts the version up unless it leaves what an index would hold. -/
theorem StoryTurn.indexes (turn : StoryTurn around story next)
    (held : Indexes packDigest first story columns) : ∃ later,
      commitActivation columns turn.changes.knowledgeMutations = .ok later ∧
      Indexes packDigest first next later ∧
      (later.overlayVersion.get.toNat = columns.overlayVersion.get.toNat + 1 ∨
        later.overlayVersion = columns.overlayVersion ∧
          ∀ packDigest, heldAt packDigest next.knowledge = heldAt packDigest story.knowledge) := by
  have applied := turn.commits.knowledge
  rw [turn.committing] at applied
  obtain ⟨rows, rowsApplied, represents⟩ := held.represents.applyAll story.knowledgeKeyed
    (fun mutation member => turn.readsBack member) applied
  have revised := turn.commits.revision_toInt
  have seeded := turn.seeded held.seeded
  have counted := held.counted
  cases affecting : turn.changes.knowledgeMutations.any knowledgeMutationAffectsActivation with
  | false =>
    refine ⟨⟨rows, columns.overlayVersion⟩, ?_, ⟨represents, seeded, ?_⟩, .inr ⟨rfl, fun packDigest => ?_⟩⟩
    · rw [commitActivation, rowsApplied, affecting]
      rfl
    · dsimp only
      omega
    · exact heldAt_mutations story.knowledgeKeyed affecting applied
  | true =>
    have small := Int64.toInt_lt next.revision
    have bumped : (columns.overlayVersion.get + 1).toNat = columns.overlayVersion.get.toNat + 1 := by
      rw [UInt64.toNat_add, UInt64.toNat_one]
      have := columns.overlayVersion.fits
      omega
    have fits : (columns.overlayVersion.get + 1).toNat < 2 ^ 63 := by
      rw [bumped]
      omega
    refine ⟨⟨rows, ⟨columns.overlayVersion.get + 1, fits⟩⟩, ?_, ⟨represents, seeded, ?_⟩, .inl bumped⟩
    · rw [commitActivation, rowsApplied, affecting, StoredCount.store, dif_pos fits]
      rfl
    · dsimp only
      omega

end

/-! ### Whole runs -/

section
variable {around : Surroundings} {foundation : Foundation} {start story : StoredStory}
  {changes : List ValidatedChangeSet}

theorem Foundation.columnsAfter_turn {columns later : ActivationColumns} {change : ValidatedChangeSet}
    (reached : foundation.columnsAfter around changes = .ok columns)
    (committed : commitActivation columns change.knowledgeMutations = .ok later) :
    foundation.columnsAfter around (changes ++ [change]) = .ok later := by
  obtain ⟨first, made, looped⟩ := Result.bind_eq_ok reached
  have before := Result.mapError_eq_ok.mp looped
  unfold Foundation.columnsAfter
  rw [made]
  refine Result.mapError_eq_ok.mpr ?_
  rw [List.foldlM_append, before]
  exact Result.foldlM_singleton.mpr committed

/-- The columns can always be written, and are those of the story. -/
theorem Runs.indexes (created : foundation.create around = .ok start)
    (readable : foundation.stored.Readable) (run : Runs around start changes story) : ∃ columns,
      foundation.columnsAfter around changes = .ok columns ∧
        Indexes foundation.stored.row.digest start.knowledge story columns := by
  obtain ⟨entries, begins⟩ := Foundation.begins created
  obtain ⟨first, made, unversioned, represents⟩ := begins.represents readable
  refine run.invariant (P := fun changes story => ∃ columns,
    foundation.columnsAfter around changes = .ok columns ∧
      Indexes foundation.stored.row.digest start.knowledge story columns) ?_ ?_
  · refine ⟨first, ?_, represents, fun id entry found _ => found, ?_⟩
    · unfold Foundation.columnsAfter
      rw [made]
      rfl
    · rw [unversioned, begins.revision]
      decide
  · rintro before story next turn ⟨columns, reached, held⟩
    obtain ⟨later, committed, holds, _⟩ := turn.indexes held
    exact ⟨later, Foundation.columnsAfter_turn reached committed, holds⟩

theorem History.indexes (history : History around start) (created : foundation.create around = .ok start)
    (readable : foundation.stored.Readable) {n : Nat} (inside : n ≤ history.length)
    {columns : ActivationColumns}
    (reached : foundation.columnsAfter around (history.changes n inside) = .ok columns) :
    Indexes foundation.stored.row.digest start.knowledge (history.story n) columns := by
  obtain ⟨same, also, held⟩ := (history.runs n inside).indexes created readable
  cases reached.symm.trans also
  exact held

/-- From one state of a story to a later one the version does not fall, and where it stays, so does what
an index would hold. -/
theorem History.version_rises (history : History around start)
    (created : foundation.create around = .ok start) (readable : foundation.stored.Readable)
    {early : Nat} (earlyInside : early ≤ history.length) {columns : ActivationColumns}
    (reached : foundation.columnsAfter around (history.changes early earlyInside) = .ok columns)
    {late : Nat} (lateInside : late ≤ history.length) (ordered : early ≤ late) {later : ActivationColumns}
    (laterReached : foundation.columnsAfter around (history.changes late lateInside) = .ok later) :
    columns.overlayVersion.get.toNat ≤ later.overlayVersion.get.toNat ∧
      (columns.overlayVersion.get.toNat = later.overlayVersion.get.toNat → ∀ packDigest,
        heldAt packDigest (history.story late).knowledge =
          heldAt packDigest (history.story early).knowledge) := by
  induction ordered generalizing later with
  | refl =>
    cases reached.symm.trans laterReached
    exact ⟨le_refl _, fun _ _ => rfl⟩
  | step before ih =>
    rename_i late
    obtain ⟨between, betweenReached, held⟩ :=
      (history.runs late (Nat.le_of_succ_le lateInside)).indexes created readable
    obtain ⟨risen, kept⟩ := ih (Nat.le_of_succ_le lateInside) betweenReached
    obtain ⟨next, committed, _, counts⟩ := (history.turn late lateInside).indexes held
    cases laterReached.symm.trans (Foundation.columnsAfter_turn betweenReached committed)
    obtain counted | ⟨unversioned, unaffected⟩ := counts
    · exact ⟨by omega, fun same => by omega⟩
    · rw [unversioned]
      refine ⟨risen, fun same packDigest => ?_⟩
      rw [unaffected, kept same]

/-- In two states of a story with the same version an index holds the same. -/
theorem History.same_version (history : History around start)
    (created : foundation.create around = .ok start) (readable : foundation.stored.Readable)
    {first second : Nat} (firstInside : first ≤ history.length) (secondInside : second ≤ history.length)
    {columns others : ActivationColumns}
    (reached : foundation.columnsAfter around (history.changes first firstInside) = .ok columns)
    (otherReached : foundation.columnsAfter around (history.changes second secondInside) = .ok others)
    (version : columns.overlayVersion = others.overlayVersion) (packDigest : Sha256Digest) :
    indexOf packDigest (history.story first).knowledge =
      indexOf packDigest (history.story second).knowledge := by
  have held : heldAt packDigest (history.story first).knowledge =
      heldAt packDigest (history.story second).knowledge := by
    obtain ordered | ordered := Nat.le_total first second
    · have kept := (history.version_rises created readable firstInside reached secondInside ordered
        otherReached).2
      exact (kept (by rw [version]) packDigest).symm
    · have kept := (history.version_rises created readable secondInside otherReached firstInside ordered
        reached).2
      exact kept (by rw [version]) packDigest
  apply Std.ExtTreeMap.ext_getElem?
  intro id
  rw [indexOf_get (history.story first).knowledgeKeyed, indexOf_get (history.story second).knowledgeKeyed]
  exact congrFun held id

/-- The version of the overlay names the entries of a story. In all the states of one story it never
falls, and whenever it is the same, an index would hold the same. -/
theorem overlay_version_names_entries (history : History around start)
    (created : foundation.create around = .ok start) (readable : foundation.stored.Readable)
    {first second : Nat} (firstInside : first ≤ history.length) (secondInside : second ≤ history.length)
    {columns others : ActivationColumns}
    (reached : foundation.columnsAfter around (history.changes first firstInside) = .ok columns)
    (otherReached : foundation.columnsAfter around (history.changes second secondInside) = .ok others) :
    (first ≤ second → columns.overlayVersion.get ≤ others.overlayVersion.get) ∧
      (columns.overlayVersion = others.overlayVersion → ∀ packDigest,
        indexOf packDigest (history.story first).knowledge =
          indexOf packDigest (history.story second).knowledge) := by
  constructor
  · intro ordered
    rw [UInt64.le_iff_toNat_le]
    exact (history.version_rises created readable firstInside reached secondInside ordered otherReached).1
  · intro version packDigest
    exact history.same_version created readable firstInside secondInside reached otherReached version
      packDigest

/-! ### The index of a story -/

/-- The reference that a snapshot of the story has. -/
def StoredStory.knowledgeRef (story : StoredStory) : KnowledgeSnapshotRef where
  storyId := story.storyId
  packDigest := story.pack.digest
  baseRevision := story.revision.toUInt64
  knowledgeIdHighWater := story.knowledgeIdHighWater.get

/-- The story, its instance and its pack, as they are read for the index. -/
def StoredStory.activationRow (stored : StoredStoryPack) (story : StoredStory) (columns : ActivationColumns) :
    ActivationRow where
  revision := story.revision
  digest := story.pack.digest
  overlayVersion := columns.overlayVersion
  worldBook := stored.resolvedWorldBook

theorem Indexes.layered {columns : ActivationColumns}
    (held : Indexes foundation.stored.row.digest start.knowledge story columns) :
    Layered (indexOf foundation.stored.row.digest start.knowledge)
      (indexOf foundation.stored.row.digest story.knowledge) := by
  have keyed (story : StoredStory) (id : KnowledgeSourceId) (metadata : ActivationEntryMetadata)
      (found : (indexOf foundation.stored.row.digest story.knowledge)[id]? = some metadata) :
      metadata.sourceId = id := by
    rw [indexOf_get story.knowledgeKeyed] at found
    obtain ⟨entry, known, holds⟩ := Option.bind_eq_some_iff.mp found
    rw [KnowledgeEntry.metadata_sourceId holds]
    exact story.knowledgeKeyed id entry known
  refine ⟨keyed start, keyed story, fun id metadata found fromPack => ?_⟩
  rw [indexOf_get story.knowledgeKeyed] at found
  rw [indexOf_get start.knowledgeKeyed]
  obtain ⟨entry, known, holds⟩ := Option.bind_eq_some_iff.mp found
  obtain ⟨rule, _, same⟩ := Option.map_eq_some_iff.mp holds
  rw [← same] at fromPack
  rw [held.seeded id entry known fromPack]
  exact holds

/-- There are not too many entries to load. -/
structure Fits (packDigest : Sha256Digest) (first knowledge : KnowledgeRows) (limits : ActivationIndexLimits) :
    Prop where
  -- One more is asked for, which the column type has to hold.
  few : limits.maxEntries.toNat + 1 < 2 ^ 63
  packEntries : (indexed packDigest first).length ≤ limits.maxEntries.toNat
  entries : (indexed packDigest knowledge).length ≤ limits.maxEntries.toNat
  overlay : (indexed packDigest knowledge).countP (fun entry => !entry.fromPack) ≤
    limits.maxOverlayEntries.toNat

/-- What is loaded of a story for its index. -/
structure Loaded (foundation : Foundation) (start story : StoredStory) (columns : ActivationColumns)
    (loaded : ActivationIndexMetadata) : Prop where
  reference : loaded.reference =
    .fromKnowledge story.knowledgeRef columns.overlayVersion.get matcherVersion
  packEntries : loaded.packEntries = indexOf foundation.stored.row.digest start.knowledge
  entries : loaded.entries = indexOf foundation.stored.row.digest story.knowledge

theorem Runs.loads (created : foundation.create around = .ok start) (run : Runs around start changes story)
    {columns : ActivationColumns} (held : Indexes foundation.stored.row.digest start.knowledge story columns)
    (limits : ActivationIndexLimits) :
    (Fits foundation.stored.row.digest start.knowledge story.knowledge limits → ∃ loaded,
        loadSnapshot around.externals (some (story.activationRow foundation.stored columns)) columns.rows
          story.knowledgeRef limits = .ok loaded ∧ Loaded foundation start story columns loaded) ∧
      (¬Fits foundation.stored.row.digest start.knowledge story.knowledge limits → ∃ limit,
        loadSnapshot around.externals (some (story.activationRow foundation.stored columns)) columns.rows
          story.knowledgeRef limits = .error (activationLimit limit)) := by
  obtain ⟨entries, begins⟩ := Foundation.begins created
  obtain ⟨facts, rumors, memories, same, materialized⟩ := begins.materialized
  have pack : story.pack = foundation.stored.row := run.pack_eq.trans begins.pack
  have positive : 0 ≤ story.revision := by
    rw [Int64.le_iff_toInt_le, Int64.toInt_zero]
    exact (Int.natCast_nonneg _).trans held.counted
  have packed : (story.activationRow foundation.stored columns).digest = foundation.stored.frozen.digest := by
    rw [StoredStory.activationRow, pack]
    rfl
  have whole := loadSnapshot_eq materialized held.represents story.knowledgeKeyed
    (story.activationRow foundation.stored columns) story.knowledgeRef
    ⟨positive, rfl⟩ ⟨rfl, packed, packed⟩ limits
  rw [begins.packEntries_eq same materialized.privately, ← indexed_length materialized,
    (begins.indexed_perm same materialized.privately _).length_eq] at whole
  have digest : foundation.stored.frozen.digest = foundation.stored.row.digest := rfl
  rw [digest] at whole
  constructor
  · intro fits
    rw [if_pos ⟨fits.few, fits.packEntries, fits.entries⟩, if_pos fits.overlay] at whole
    exact ⟨_, whole, rfl, rfl, rfl⟩
  · intro exceeds
    split at whole
    · rename_i fits
      split at whole
      · rename_i overlaid
        exact absurd ⟨fits.1, fits.2.1, fits.2.2, overlaid⟩ exceeds
      · exact ⟨_, whole⟩
    · exact ⟨_, whole⟩

end

section
variable (externals : Externals) (engine : RegexEngine) (macros : ActivationMacroValues)
  (limits : ActivationIndexLimits) (ruleLimits : ActivationRuleLimits)

/-- A snapshot of an index serves as an index that was built of `entries` would. -/
structure ServesAs (entries : IndexEntries) (snapshot : ActivationIndexSnapshot) : Prop where
  metadata : snapshot.metadata = entries
  flat : ∀ key index,
    buildFrozenPackIndex externals engine macros limits ruleLimits key (valuesOf entries) = .ok index →
      ∀ fragment, (snapshot.matchFragment externals fragment).Perm (index.matchFragment externals fragment)
  ofSource : ∀ fragment (id : KnowledgeSourceId),
    ((snapshot.matchFragment externals fragment).filter fun item => item.sourceId = id).Perm
      (entries[id]?.elim [] (entryMatches externals engine macros limits fragment))

/-- The layers of an index are built and put together. -/
def Composes (loaded : ActivationIndexMetadata) (snapshot : ActivationIndexSnapshot) : Prop :=
  ∃ key packIndex overlay,
    buildFrozenPackIndex externals engine macros limits ruleLimits key (valuesOf loaded.packEntries) =
        .ok packIndex ∧
      buildOverlayIndex externals engine macros limits ruleLimits loaded.reference.overlayVersion
        loaded.entries packIndex = .ok overlay ∧
      composeIndexSnapshot loaded.reference packIndex overlay limits = .ok snapshot

end

section
variable {externals : Externals} {engine : RegexEngine} {macros : ActivationMacroValues}
  {limits : ActivationIndexLimits} {ruleLimits : ActivationRuleLimits}

theorem Composes.serves {loaded : ActivationIndexMetadata} {snapshot : ActivationIndexSnapshot}
    (layered : Layered loaded.packEntries loaded.entries)
    (composes : Composes externals engine macros limits ruleLimits loaded snapshot) :
    ServesAs externals engine macros limits ruleLimits loaded.entries snapshot := by
  obtain ⟨key, packIndex, overlay, packed, overlaid, composed⟩ := composes
  have onTop := buildOverlayIndex_ok overlaid
  have together := composeIndexSnapshot_ok composed
  have rekeyed : packIndex.metadata = loaded.packEntries := by
    rw [buildFrozenPackIndex_metadata packed]
    exact keyedBySource_valuesOf layered.packKeyed
  have flat := snapshot_matches layered rekeyed (buildFrozenPackIndex_matches packed) onTop together
  refine ⟨composed_metadata layered rekeyed onTop together, fun _ index direct fragment => ?_,
    fun fragment id => ?_⟩
  · exact (flat fragment).trans (buildFrozenPackIndex_matches direct fragment).symm
  · exact matches_of_source layered.keyed (flat fragment) id

end

section
variable {around : Surroundings} {foundation : Foundation} {start story : StoredStory}
  {changes : List ValidatedChangeSet}

/-- The layered index of a story is as good as one of all its entries. In every state of every story
the columns can be read back unless there are too many of them, the pack has the entries that the story
began with, and what is composed of both matches, of every source, what its current entry matches. -/
theorem layered_index_flat (created : foundation.create around = .ok start)
    (readable : foundation.stored.Readable) (run : Runs around start changes story) :
    ∃ columns, foundation.columnsAfter around changes = .ok columns ∧ ∀ limits,
      (¬Fits foundation.stored.row.digest start.knowledge story.knowledge limits → ∃ limit,
        loadSnapshot around.externals (some (story.activationRow foundation.stored columns)) columns.rows
          story.knowledgeRef limits = .error (activationLimit limit)) ∧
      (Fits foundation.stored.row.digest start.knowledge story.knowledge limits → ∃ loaded,
        loadSnapshot around.externals (some (story.activationRow foundation.stored columns)) columns.rows
            story.knowledgeRef limits = .ok loaded ∧
          (∀ id, loaded.packEntries[id]? = heldAt foundation.stored.row.digest start.knowledge id) ∧
          (∀ id, loaded.entries[id]? = heldAt foundation.stored.row.digest story.knowledge id) ∧
          ∀ macros ruleLimits snapshot,
            Composes around.externals around.engine macros limits ruleLimits loaded snapshot →
              ServesAs around.externals around.engine macros limits ruleLimits loaded.entries snapshot) := by
  obtain ⟨columns, reached, held⟩ := run.indexes created readable
  refine ⟨columns, reached, fun limits => ?_⟩
  obtain ⟨loads, fails⟩ := run.loads created held limits
  refine ⟨fails, fun fits => ?_⟩
  obtain ⟨loaded, read, shown⟩ := loads fits
  refine ⟨loaded, read, fun id => ?_, fun id => ?_, fun macros ruleLimits snapshot composes => ?_⟩
  · rw [shown.packEntries]
    exact indexOf_get start.knowledgeKeyed id
  · rw [shown.entries]
    exact indexOf_get story.knowledgeKeyed id
  · refine composes.serves ?_
    rw [shown.packEntries, shown.entries]
    exact held.layered

end

namespace LayeredIndex.Sample
open Run.Sample FactValues.Sample

/-- The bridge is told of, over the fact of the pack. -/
def bridge : StoryStateExtractionDto where
  addFacts := [{
    content := "The bridge is out."
    retrievalHint := "bridge"
    activationTerms := ["bridge"] }]

def plenty : ActivationIndexLimits := ⟨9, 9, 9, 9, 9, 9, 9, 9⟩

theorem rivers_readable : (rivers none).stored.Readable where
  packId := by decide +kernel
  facts := by decide +kernel
  rumors := by decide +kernel
  memories := by decide +kernel

/-- Whether there is room for what the story has, which is the river and the bridge. -/
def bridged (played : Played) : Bool :=
  let packDigest := (rivers none).stored.row.digest
  (indexed packDigest played.start.knowledge).length = 1 &&
    (indexed packDigest played.next.knowledge).map (·.fromPack) = [true, false]

/-- Of the story the river of the pack is loaded, and the bridge with it. -/
theorem bridge_loaded : ∃ (start next : StoredStory) (turn : StoryTurn around start next)
    (columns : ActivationColumns) (loaded : ActivationIndexMetadata),
      (rivers none).columnsAfter around [turn.changes] = .ok columns ∧
      loadSnapshot around.externals (some (next.activationRow (rivers none).stored columns)) columns.rows
        next.knowledgeRef plenty = .ok loaded ∧
      (indexed (rivers none).stored.row.digest next.knowledge).map (·.fromPack) = [true, false] ∧
      ∀ id, loaded.entries[id]? = heldAt (rivers none).stored.row.digest next.knowledge id := by
  obtain ⟨start, next, created, turn, -, checked⟩ :=
    played_eq (rivers none) bridge {} bridged (by decide +kernel)
  simp only [bridged, Bool.and_eq_true, decide_eq_true_eq] at checked
  obtain ⟨packed, kinds⟩ := checked
  have counted := congrArg List.length kinds
  have overlaid := congrArg (List.countP fun fromPack => !fromPack) kinds
  rw [List.length_map] at counted
  rw [List.countP_map] at overlaid
  obtain ⟨columns, reached, loads⟩ := layered_index_flat created rivers_readable (.turned .created turn)
  obtain ⟨loaded, read, _, entries, _⟩ := (loads plenty).2 {
    few := by decide
    packEntries := packed.le.trans (by decide)
    entries := counted.le.trans (by decide)
    overlay := overlaid.le.trans (by decide) }
  exact ⟨start, next, turn, columns, loaded, reached, read, kinds, entries⟩

/-- The miller remembers the turn, which no index holds. -/
def remembered : StoryStateExtractionDto where
  addMemories := [⟨"miller", "sighting", "The wheel turned."⟩]

def versionAfter (changes : List ValidatedChangeSet) : Option StoredCount :=
  ((rivers none).columnsAfter around changes).toOption.map (·.overlayVersion)

/-- A turn that is only remembered leaves the version, and with it the index. -/
theorem memory_unversioned : ∃ (start next : StoredStory) (turn : StoryTurn around start next),
    start.knowledge.size < next.knowledge.size ∧
      versionAfter [] = versionAfter [turn.changes] ∧
      ∀ packDigest, indexOf packDigest start.knowledge = indexOf packDigest next.knowledge := by
  obtain ⟨start, next, created, turn, -, checked⟩ := played_eq (rivers none) remembered {}
    (fun played => decide (played.start.knowledge.size < played.next.knowledge.size) &&
      decide (versionAfter [] = versionAfter [played.changes])) (by decide +kernel)
  simp only [Bool.and_eq_true, decide_eq_true_eq] at checked
  obtain ⟨grown, unversioned⟩ := checked
  let history : History around start := .single turn
  have bound : 1 ≤ history.length := le_refl 1
  obtain ⟨columns, reached, -⟩ := Runs.indexes created rivers_readable .created
  obtain ⟨others, also, -⟩ := Runs.indexes created rivers_readable (.turned .created turn)
  have same : columns.overlayVersion = others.overlayVersion := by
    rw [versionAfter, versionAfter, reached] at unversioned
    rw [List.nil_append] at also
    rw [also] at unversioned
    exact Option.some.inj unversioned
  refine ⟨start, next, turn, grown, unversioned, ?_⟩
  exact (overlay_version_names_entries history created rivers_readable (Nat.zero_le 1) bound
    reached also).2 same

end LayeredIndex.Sample

end Aise.Domain.Persistence
