import Aise.Turn.Extraction

/-! Where the changes to knowledge come from: each one is made of one item of the extraction, and
the additions have taken the identifiers that were allocated in their order. -/
namespace Aise.Domain

/-- The operations, as the loops leave them. -/
structure KnowledgeParts where
  addedFacts : List KnowledgeEntry
  updatedFacts : List ValidatedKnowledgeOperation
  addedRumors : List KnowledgeEntry
  updatedRumors : List ValidatedKnowledgeOperation
  deletedRumors : List ValidatedKnowledgeOperation
  addedMemories : List KnowledgeEntry
  updatedMemories : List ValidatedKnowledgeOperation
  deletedMemories : List ValidatedKnowledgeOperation

namespace KnowledgeParts
variable (parts : KnowledgeParts)

def added : List KnowledgeEntry := parts.addedFacts ++ parts.addedRumors ++ parts.addedMemories

def operations : List ValidatedKnowledgeOperation :=
  parts.addedFacts.map .add ++ parts.updatedFacts ++ parts.addedRumors.map .add ++
    parts.updatedRumors ++ parts.deletedRumors ++ parts.addedMemories.map .add ++
    parts.updatedMemories ++ parts.deletedMemories

end KnowledgeParts

/-- An entry was made of a draft. -/
def Drafted {Draft Prepared : Type} {kind : KnowledgeKind}
    (prepare : Draft → Except ExtractionEnrichmentError Prepared)
    (finish : Draft → Prepared → KnowledgeId kind → Except ExtractionEnrichmentError KnowledgeEntry)
    (draft : Draft) (entry : KnowledgeEntry) : Prop :=
  ∃ prepared id, prepare draft = .ok prepared ∧ finish draft prepared id = .ok entry

theorem addEach_ok {Draft Prepared : Type} {kind : KnowledgeKind}
    {prepare : Draft → Except ExtractionEnrichmentError Prepared}
    {finish : Draft → Prepared → KnowledgeId kind → Except ExtractionEnrichmentError KnowledgeEntry}
    (named : ∀ {draft prepared id entry}, finish draft prepared id = .ok entry →
      entry.sourceId = id.1)
    {drafts : List Draft} {ids rest : List KnowledgeSourceId} {entries : List KnowledgeEntry}
    (made : addEach kind prepare finish drafts ids = .ok (entries, rest)) :
    ids = entries.map (·.sourceId) ++ rest ∧ List.Forall₂ (Drafted prepare finish) drafts entries := by
  induction drafts generalizing ids entries with
  | nil =>
    cases made
    exact ⟨rfl, .nil⟩
  | cons draft drafts ih =>
    unfold addEach at made
    obtain ⟨prepared, readied, made⟩ := Result.bind_eq_ok made
    obtain ⟨⟨id, others⟩, taken, made⟩ := Result.bind_eq_ok made
    obtain ⟨entry, formed, made⟩ := Result.bind_eq_ok made
    obtain ⟨⟨later, left⟩, looped, made⟩ := Result.bind_eq_ok made
    cases made
    obtain ⟨used, formedLater⟩ := ih looped
    have first : ids = id.1 :: others := by
      cases ids with
      | nil => cases taken
      | cons head tail =>
        by_cases same : head.kind = kind
        · rw [nextAssigned, dif_pos same] at taken
          cases taken
          rfl
        · rw [nextAssigned, dif_neg same] at taken
          cases taken
    refine ⟨?_, .cons ⟨prepared, id, readied, formed⟩ formedLater⟩
    rw [first, List.map_cons, List.cons_append, ← used, named formed]

section
variable {externals : Externals} {engine : RegexEngine} {context : KnowledgeEnrichmentContext}
  {snapshot : StorySnapshot} {newRoles : List StoryRole} {dto : StoryStateExtractionDto}

theorem finishFact_eq_ok {draft : FactDraftDto} {prepared : BoundedText × RetrievalHint}
    {id : KnowledgeId .fact} {entry : KnowledgeEntry}
    (made : finishFact externals engine context draft prepared id = .ok entry) :
    ∃ fact : WorldFact, entry = .fact fact ∧ fact.id = id ∧ fact.key = none ∧
      fact.proposition = none := by
  obtain ⟨activation, _, made⟩ := Result.bind_eq_ok made
  cases made
  exact ⟨_, rfl, rfl, rfl, rfl⟩

theorem finishFact_sourceId {draft : FactDraftDto} {prepared : BoundedText × RetrievalHint}
    {id : KnowledgeId .fact} {entry : KnowledgeEntry}
    (made : finishFact externals engine context draft prepared id = .ok entry) :
    entry.sourceId = id.1 := by
  obtain ⟨fact, rfl, rfl, _⟩ := finishFact_eq_ok made
  rfl

theorem finishRumor_sourceId {draft : RumorDraftDto}
    {prepared : BoundedText × RetrievalHint × Option RoleId × KnowledgeActivationRule}
    {id : KnowledgeId .rumor} {entry : KnowledgeEntry}
    (made : finishRumor externals context draft prepared id = .ok entry) : entry.sourceId = id.1 := by
  cases made
  rfl

theorem finishMemory_sourceId {draft : MemoryDraftDto} {prepared : RoleId × AssetKey × BoundedText}
    {id : KnowledgeId .memory} {entry : KnowledgeEntry}
    (made : finishMemory context draft prepared id = .ok entry) : entry.sourceId = id.1 := by
  cases made
  rfl

/-- What the operations owe to the extraction. -/
structure EnrichedFrom (externals : Externals) (engine : RegexEngine)
    (context : KnowledgeEnrichmentContext) (snapshot : StorySnapshot) (newRoles : List StoryRole)
    (dto : StoryStateExtractionDto) (parts : KnowledgeParts) (assigned : List KnowledgeSourceId) :
    Prop where
  addedFacts : List.Forall₂ (Drafted (prepareFact context) (finishFact externals engine context))
    dto.addFacts parts.addedFacts
  updatedFacts : List.Forall₂
    (fun update operation => updateFact externals engine context update = .ok operation)
    dto.updateFacts parts.updatedFacts
  addedRumors : List.Forall₂
    (Drafted (prepareRumor externals engine context snapshot newRoles) (finishRumor externals context))
    dto.addRumors parts.addedRumors
  updatedRumors : List.Forall₂ (fun update operation =>
    updateRumor externals engine context snapshot newRoles update = .ok operation)
    dto.updateRumors parts.updatedRumors
  deletedRumors : List.Forall₂ (fun rawId operation => deleteRumor context rawId = .ok operation)
    dto.deleteRumorIds parts.deletedRumors
  addedMemories : List.Forall₂
    (Drafted (prepareMemory context snapshot newRoles) (finishMemory context))
    dto.addMemories parts.addedMemories
  updatedMemories : List.Forall₂
    (fun update operation => updateMemory context update = .ok operation)
    dto.updateMemories parts.updatedMemories
  deletedMemories : List.Forall₂ (fun rawId operation => deleteMemory context rawId = .ok operation)
    dto.deleteMemoryIds parts.deletedMemories
  taken : ∃ rest, assigned = parts.added.map (·.sourceId) ++ rest

theorem enrichOperations_eq_ok {assigned : List KnowledgeSourceId}
    {operations : List ValidatedKnowledgeOperation}
    (made : enrichOperations externals engine context snapshot newRoles dto assigned =
      .ok operations) :
    ∃ parts, EnrichedFrom externals engine context snapshot newRoles dto parts assigned ∧
      operations = parts.operations := by
  unfold enrichOperations at made
  obtain ⟨⟨addedFacts, afterFacts⟩, facts, made⟩ := Result.bind_eq_ok made
  obtain ⟨updatedFacts, factUpdates, made⟩ := Result.bind_eq_ok made
  obtain ⟨⟨addedRumors, afterRumors⟩, rumors, made⟩ := Result.bind_eq_ok made
  obtain ⟨updatedRumors, rumorUpdates, made⟩ := Result.bind_eq_ok made
  obtain ⟨deletedRumors, rumorDeletes, made⟩ := Result.bind_eq_ok made
  obtain ⟨⟨addedMemories, rest⟩, memories, made⟩ := Result.bind_eq_ok made
  obtain ⟨updatedMemories, memoryUpdates, made⟩ := Result.bind_eq_ok made
  obtain ⟨deletedMemories, memoryDeletes, made⟩ := Result.bind_eq_ok made
  cases made
  obtain ⟨usedFacts, draftedFacts⟩ := addEach_ok finishFact_sourceId facts
  obtain ⟨usedRumors, draftedRumors⟩ := addEach_ok finishRumor_sourceId rumors
  obtain ⟨usedMemories, draftedMemories⟩ := addEach_ok finishMemory_sourceId memories
  refine ⟨⟨addedFacts, updatedFacts, addedRumors, updatedRumors, deletedRumors, addedMemories,
    updatedMemories, deletedMemories⟩, ?_, rfl⟩
  constructor
  · exact draftedFacts
  · exact Result.mapM_eq_ok factUpdates
  · exact draftedRumors
  · exact Result.mapM_eq_ok rumorUpdates
  · exact Result.mapM_eq_ok rumorDeletes
  · exact draftedMemories
  · exact Result.mapM_eq_ok memoryUpdates
  · exact Result.mapM_eq_ok memoryDeletes
  · refine ⟨rest, ?_⟩
    rw [usedFacts, usedRumors, usedMemories]
    simp only [KnowledgeParts.added, List.map_append, List.append_assoc]

/-- Numbering keeps the operations. -/
theorem numberOperations_eq_ok {operations : List ValidatedKnowledgeOperation}
    {mutations : List ValidatedKnowledgeMutation}
    (numbered : operations.zipIdx.mapM numberOperation = .ok mutations) :
    mutations.map (·.operation) = operations := by
  have related := Result.mapM_eq_ok numbered
  have operationOf : ∀ entry mutation, numberOperation entry = .ok mutation →
      mutation.operation = entry.1 := by
    intro entry mutation made
    unfold numberOperation at made
    split at made
    · cases made
      rfl
    · cases made
  have same : ∀ (entries : List (ValidatedKnowledgeOperation × Nat)) mutations,
      List.Forall₂ (fun entry mutation => numberOperation entry = .ok mutation) entries mutations →
      mutations.map (·.operation) = entries.map Prod.fst := by
    intro entries mutations related
    induction related with
    | nil => rfl
    | cons first _ ih => rw [List.map_cons, List.map_cons, ih, operationOf _ _ first]
  rw [same _ _ related, List.zipIdx_map_fst]

theorem enrichExtractedKnowledge_eq_ok {mutations : List ValidatedKnowledgeMutation}
    {highWater : UInt64}
    (made : enrichExtractedKnowledge externals engine context snapshot newRoles dto =
      .ok (mutations, highWater)) :
    ∃ parts allocation,
      allocateKnowledgeIds snapshot.knowledgeIdHighWater dto.addKinds = .ok allocation ∧
      highWater = allocation.newHighWater ∧
      mutations.map (·.operation) = parts.operations ∧
      EnrichedFrom externals engine context snapshot newRoles dto parts allocation.assigned := by
  unfold enrichExtractedKnowledge at made
  obtain ⟨allocation, allocated, made⟩ := Result.bind_eq_ok made
  obtain ⟨operations, enriched, made⟩ := Result.bind_eq_ok made
  obtain ⟨numbered, counted, made⟩ := Result.bind_eq_ok made
  cases made
  obtain ⟨parts, from', rfl⟩ := enrichOperations_eq_ok enriched
  exact ⟨parts, allocation, Result.mapError_eq_ok.mp allocated, rfl,
    numberOperations_eq_ok counted, from'⟩

/-! ### What the operations are -/

theorem updateFact_eq_ok {update : FactUpdateDto} {operation : ValidatedKnowledgeOperation}
    (made : updateFact externals engine context update = .ok operation) :
    ∃ target existing, ∃ fact : WorldFact, knowledgeIdOf .fact update.id = some target ∧
      existingFact context.retrieved target = some existing ∧
      operation = .update target (.fact fact) ∧ fact.id = target ∧ fact.proposition = none := by
  obtain ⟨target, resolved, made⟩ := Result.bind_eq_ok made
  obtain ⟨existing, found, made⟩ := Result.bind_eq_ok made
  obtain ⟨content, _, made⟩ := Result.bind_eq_ok made
  obtain ⟨hint, _, made⟩ := Result.bind_eq_ok made
  obtain ⟨activation, _, made⟩ := Result.bind_eq_ok made
  cases made
  exact ⟨target, existing, _, Result.okOr_eq_ok.mp resolved, Result.okOr_eq_ok.mp found, rfl, rfl, rfl⟩

theorem updateRumor_eq_ok {update : RumorUpdateDto} {operation : ValidatedKnowledgeOperation}
    (made : updateRumor externals engine context snapshot newRoles update = .ok operation) :
    ∃ target existing, ∃ rumor : SharedRumor, knowledgeIdOf .rumor update.id = some target ∧
      existingRumor context.retrieved target = some existing ∧
      operation = .update target (.rumor rumor) ∧ rumor.id = target := by
  obtain ⟨target, resolved, made⟩ := Result.bind_eq_ok made
  obtain ⟨existing, found, made⟩ := Result.bind_eq_ok made
  obtain ⟨content, _, made⟩ := Result.bind_eq_ok made
  obtain ⟨hint, _, made⟩ := Result.bind_eq_ok made
  obtain ⟨source, _, made⟩ := Result.bind_eq_ok made
  obtain ⟨activation, _, made⟩ := Result.bind_eq_ok made
  cases made
  exact ⟨target, existing, _, Result.okOr_eq_ok.mp resolved, Result.okOr_eq_ok.mp found, rfl, rfl⟩

theorem deleteRumor_eq_ok {rawId : String} {operation : ValidatedKnowledgeOperation}
    (made : deleteRumor context rawId = .ok operation) :
    ∃ target existing, knowledgeIdOf .rumor rawId = some target ∧
      existingRumor context.retrieved target = some existing ∧
      operation = .delete (.rumor target) := by
  obtain ⟨target, resolved, made⟩ := Result.bind_eq_ok made
  obtain ⟨existing, found, made⟩ := Result.bind_eq_ok made
  cases made
  exact ⟨target, existing, Result.okOr_eq_ok.mp resolved, Result.okOr_eq_ok.mp found, rfl⟩

theorem updateMemory_eq_ok {update : MemoryUpdateDto} {operation : ValidatedKnowledgeOperation}
    (made : updateMemory context update = .ok operation) :
    ∃ target owner salience, ∃ memory : MemoryEntry, knowledgeIdOf .memory update.id = some target ∧
      existingMemory context.retrieved target = some (owner, salience) ∧
      operation = .update target (.memory memory) ∧ memory.id = target ∧ memory.owner = owner := by
  obtain ⟨target, resolved, made⟩ := Result.bind_eq_ok made
  obtain ⟨⟨owner, salience⟩, found, made⟩ := Result.bind_eq_ok made
  obtain ⟨kind, _, made⟩ := Result.bind_eq_ok made
  obtain ⟨content, _, made⟩ := Result.bind_eq_ok made
  cases made
  exact ⟨target, owner, salience, _, Result.okOr_eq_ok.mp resolved, Result.okOr_eq_ok.mp found,
    rfl, rfl, rfl⟩

theorem deleteMemory_eq_ok {rawId : String} {operation : ValidatedKnowledgeOperation}
    (made : deleteMemory context rawId = .ok operation) :
    ∃ target owner, knowledgeIdOf .memory rawId = some target ∧
      existingMemory context.retrieved target = some owner ∧
      operation = .delete (.memory target) := by
  obtain ⟨target, resolved, made⟩ := Result.bind_eq_ok made
  obtain ⟨owner, found, made⟩ := Result.bind_eq_ok made
  cases made
  exact ⟨target, owner, Result.okOr_eq_ok.mp resolved, Result.okOr_eq_ok.mp found, rfl⟩

/-- What an operation was made of. -/
inductive MadeOf (context : KnowledgeEnrichmentContext) (parts : KnowledgeParts) :
    ValidatedKnowledgeOperation → Prop
  | added {entry : KnowledgeEntry} (member : entry ∈ parts.added) : MadeOf context parts (.add entry)
  | updatedFact {target : KnowledgeId .fact} {existing : RetrievedKnowledgeItem} {fact : WorldFact}
      (found : existingFact context.retrieved target = some existing)
      (unstated : fact.proposition = none) : MadeOf context parts (.update target (.fact fact))
  | updatedRumor {target : KnowledgeId .rumor} {existing : RetrievedKnowledgeItem}
      {rumor : SharedRumor} (found : existingRumor context.retrieved target = some existing) :
      MadeOf context parts (.update target (.rumor rumor))
  | deletedRumor {target : KnowledgeId .rumor} {existing : RetrievedKnowledgeItem}
      (found : existingRumor context.retrieved target = some existing) :
      MadeOf context parts (.delete (.rumor target))
  | updatedMemory {target : KnowledgeId .memory} {owner : RoleId} {salience : UInt8}
      {memory : MemoryEntry} (found : existingMemory context.retrieved target = some (owner, salience))
      (owned : memory.owner = owner) : MadeOf context parts (.update target (.memory memory))
  | deletedMemory {target : KnowledgeId .memory} {existing : RoleId × UInt8}
      (found : existingMemory context.retrieved target = some existing) :
      MadeOf context parts (.delete (.memory target))

theorem EnrichedFrom.madeOf {parts : KnowledgeParts} {assigned : List KnowledgeSourceId}
    (enriched : EnrichedFrom externals engine context snapshot newRoles dto parts assigned)
    {operation : ValidatedKnowledgeOperation} (member : operation ∈ parts.operations) :
    MadeOf context parts operation := by
  simp only [KnowledgeParts.operations, List.mem_append, List.mem_map] at member
  obtain ((((((⟨entry, among, rfl⟩ | updated) | ⟨entry, among, rfl⟩) | updated) | deleted) |
    ⟨entry, among, rfl⟩) | updated) | deleted := member
  · exact .added (by simp [KnowledgeParts.added, among])
  · obtain ⟨update, _, made⟩ := Result.exists_of_forall₂ enriched.updatedFacts updated
    obtain ⟨_, _, other, _, found, rfl, _, unstated⟩ := updateFact_eq_ok made
    exact .updatedFact found unstated
  · exact .added (by simp [KnowledgeParts.added, among])
  · obtain ⟨update, _, made⟩ := Result.exists_of_forall₂ enriched.updatedRumors updated
    obtain ⟨_, _, other, _, found, rfl, _⟩ := updateRumor_eq_ok made
    exact .updatedRumor found
  · obtain ⟨rawId, _, made⟩ := Result.exists_of_forall₂ enriched.deletedRumors deleted
    obtain ⟨_, _, _, found, rfl⟩ := deleteRumor_eq_ok made
    exact .deletedRumor found
  · exact .added (by simp [KnowledgeParts.added, among])
  · obtain ⟨update, _, made⟩ := Result.exists_of_forall₂ enriched.updatedMemories updated
    obtain ⟨_, _, _, other, _, found, rfl, _, owned⟩ := updateMemory_eq_ok made
    exact .updatedMemory found owned
  · obtain ⟨rawId, _, made⟩ := Result.exists_of_forall₂ enriched.deletedMemories deleted
    obtain ⟨_, _, _, found, rfl⟩ := deleteMemory_eq_ok made
    exact .deletedMemory found

/-- The entry that an operation adds or that it updates an entry to. -/
def ValidatedKnowledgeOperation.entry : ValidatedKnowledgeOperation → Option KnowledgeEntry
  | .add entry => some entry
  | .update _ value => some value
  | .delete _ => none

/-- An added fact has no proposition. -/
theorem EnrichedFrom.added_unstated {parts : KnowledgeParts} {assigned : List KnowledgeSourceId}
    (enriched : EnrichedFrom externals engine context snapshot newRoles dto parts assigned)
    {fact : WorldFact} (member : .fact fact ∈ parts.added) : fact.proposition = none := by
  simp only [KnowledgeParts.added, List.mem_append] at member
  obtain (among | among) | among := member
  · obtain ⟨draft, _, prepared, id, _, finished⟩ := Result.exists_of_forall₂ enriched.addedFacts among
    obtain ⟨other, same, _, _, unstated⟩ := finishFact_eq_ok finished
    cases same
    exact unstated
  · obtain ⟨draft, _, prepared, id, _, finished⟩ := Result.exists_of_forall₂ enriched.addedRumors among
    cases finished
  · obtain ⟨draft, _, prepared, id, _, finished⟩ :=
      Result.exists_of_forall₂ enriched.addedMemories among
    cases finished

/-- No fact that a turn writes has a proposition. -/
theorem EnrichedFrom.unstated {parts : KnowledgeParts} {assigned : List KnowledgeSourceId}
    (enriched : EnrichedFrom externals engine context snapshot newRoles dto parts assigned)
    {operation : ValidatedKnowledgeOperation} (member : operation ∈ parts.operations)
    {fact : WorldFact} (writes : operation.entry = some (.fact fact)) : fact.proposition = none := by
  cases enriched.madeOf member with
  | added among =>
    cases writes
    exact enriched.added_unstated among
  | updatedFact _ unstated =>
    cases writes
    exact unstated
  | updatedRumor _ => cases writes
  | deletedRumor _ => cases writes
  | updatedMemory _ _ => cases writes
  | deletedMemory _ => cases writes

end

/-! ### Operations on each other's entries -/

/-- The identifier that an operation takes, the one that it frees, and the one that it needs. -/
def ValidatedKnowledgeOperation.takes : ValidatedKnowledgeOperation → Option KnowledgeSourceId
  | .add entry => some entry.sourceId
  | .update .. | .delete _ => none

def ValidatedKnowledgeOperation.frees : ValidatedKnowledgeOperation → Option KnowledgeSourceId
  | .delete target => some target.sourceId
  | .add _ | .update .. => none

def ValidatedKnowledgeOperation.needs : ValidatedKnowledgeOperation → Option KnowledgeSourceId
  | .update target _ => some target
  | .delete target => some target.sourceId
  | .add _ => none

/-- The later operation does not take what the earlier one has taken, nor need what it has freed. -/
def ValidatedKnowledgeOperation.Independent (earlier later : ValidatedKnowledgeOperation) : Prop :=
  (∀ id, earlier.takes = some id → later.takes ≠ some id) ∧
    ∀ id, earlier.frees = some id → later.needs ≠ some id

end Aise.Domain
