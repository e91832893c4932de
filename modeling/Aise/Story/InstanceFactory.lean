import Aise.Domain.Activation.Compile
import Aise.Domain.Entry
import Aise.Lib.Sorting

/-! What a new story knows. The facts and rumors of the pack's world book, in the order of their
keys, and then the memories of its roles become entries of the story. -/
namespace Aise.Domain
open Sorting

structure FactSeed where
  proposition : Option Proposition
  content : BoundedText
  retrievalHint : Option RetrievalHint
  salience : UInt8
  activation : KnowledgeActivationRule
  deriving DecidableEq

structure RumorSeed where
  claim : Option Proposition
  content : BoundedText
  retrievalHint : Option RetrievalHint
  salience : UInt8
  activation : KnowledgeActivationRule
  deriving DecidableEq

structure MemorySeed where
  memoryKey : AssetKey
  kind : AssetKey
  content : BoundedText
  salience : UInt8
  deriving DecidableEq

structure WorldBook where
  facts : BTreeMap AssetKey FactSeed
  rumors : BTreeMap AssetKey RumorSeed

/-- A pack with the memories its roles start with. -/
structure FrozenStoryPack where
  packId : AssetKey
  digest : Sha256Digest
  resolvedWorldBook : WorldBook
  seedMemories : BTreeMap RoleId (List MemorySeed)

inductive StoryInstantiationError where
  | packNotFound
  | invalidReference (code : String)
  | limitExceeded (limit : String)
  deriving DecidableEq

/-- The next of the identifiers that were allocated, which has to be of the kind. -/
def nextId (kind : KnowledgeKind) :
    List KnowledgeSourceId → Except StoryInstantiationError (KnowledgeId kind × List KnowledgeSourceId)
  | [] => .error (.limitExceeded "knowledge_id_allocation")
  | id :: ids =>
    if same : id.kind = kind then .ok (⟨id, same⟩, ids)
    else .error (.invalidReference "knowledge_id_allocation_kind_mismatch")

section
variable (externals : Externals) (engine : RegexEngine) (ruleLimits : ActivationRuleLimits)

def validateSeed (activation : KnowledgeActivationRule) : Except StoryInstantiationError Unit :=
  match activation.validate engine ruleLimits with
  | .error _ => .error (.invalidReference "activation_rule_invalid")
  | .ok _ => .ok ()

def seedHint (content : BoundedText) (configured : Option RetrievalHint) :
    Except StoryInstantiationError RetrievalHint :=
  match normalizeStaticRetrievalHint content configured with
  | none => .error (.invalidReference "retrieval_hint_required")
  | some hint => .ok hint

def seedFact (source : KnowledgeSource) (id : KnowledgeId .fact) (seed : AssetKey × FactSeed) :
    Except StoryInstantiationError KnowledgeEntry := do
  let retrievalHint ← seedHint seed.2.content seed.2.retrievalHint
  .ok (.fact {
    id := id
    key := some seed.1
    text := seed.2.content
    proposition := seed.2.proposition
    retrievalHint := retrievalHint
    activation := seed.2.activation
    activationRuleVersion := .fromRule externals seed.2.activation
    salience := seed.2.salience
    source := source })

def seedRumor (source : KnowledgeSource) (id : KnowledgeId .rumor) (seed : AssetKey × RumorSeed) :
    Except StoryInstantiationError KnowledgeEntry := do
  let retrievalHint ← seedHint seed.2.content seed.2.retrievalHint
  .ok (.rumor {
    id := id
    key := some seed.1
    content := seed.2.content
    claim := seed.2.claim
    retrievalHint := retrievalHint
    activation := seed.2.activation
    activationRuleVersion := .fromRule externals seed.2.activation
    salience := seed.2.salience
    sourceRoleId := none
    truthValue := .unverified
    source := source })

def seedMemory (source : KnowledgeSource) (createdAtMs : Int64) (id : KnowledgeId .memory)
    (seed : RoleId × MemorySeed) : Except StoryInstantiationError KnowledgeEntry :=
  .ok (.memory {
    id := id
    owner := seed.1
    kind := seed.2.kind
    content := seed.2.content
    salience := seed.2.salience
    source := source
    createdAtMs := createdAtMs })

/-- What the three loops of `materialize_knowledge` share: a seed is checked, takes the next
identifier and becomes an entry. -/
def materializeSeeds {Seed : Type} (kind : KnowledgeKind)
    (check : Seed → Except StoryInstantiationError Unit)
    (entryOf : KnowledgeId kind → Seed → Except StoryInstantiationError KnowledgeEntry) :
    List Seed → List KnowledgeSourceId →
      Except StoryInstantiationError (List KnowledgeEntry × List KnowledgeSourceId)
  | [], ids => .ok ([], ids)
  | seed :: seeds, ids => do
    check seed
    let (id, ids) ← nextId kind ids
    let entry ← entryOf id seed
    let (entries, ids) ← materializeSeeds kind check entryOf seeds ids
    .ok (entry :: entries, ids)

def memorySeeds (frozen : FrozenStoryPack) : List (RoleId × MemorySeed) :=
  sort (fun seed => toLex (seed.1, seed.2.memoryKey))
    (frozen.seedMemories.toList.flatMap fun role => role.2.map fun seed => (role.1, seed))

def FrozenStoryPack.source (frozen : FrozenStoryPack) : KnowledgeSource :=
  .seed frozen.packId frozen.digest

def materializeKnowledge (frozen : FrozenStoryPack) (createdAtMs : Int64) :
    Except StoryInstantiationError (List KnowledgeEntry × UInt64) :=
  let memories := memorySeeds frozen
  let additionKinds := List.replicate frozen.resolvedWorldBook.facts.size KnowledgeKind.fact ++
    List.replicate frozen.resolvedWorldBook.rumors.size KnowledgeKind.rumor ++
    List.replicate memories.length KnowledgeKind.memory
  match allocateKnowledgeIds 0 additionKinds with
  | .error _ => .error (.limitExceeded "knowledge_id_allocation")
  | .ok allocation => do
    let (facts, ids) ← materializeSeeds .fact
      (fun seed : AssetKey × FactSeed => validateSeed engine ruleLimits seed.2.activation)
      (seedFact externals frozen.source) frozen.resolvedWorldBook.facts.toList allocation.assigned
    let (rumors, ids) ← materializeSeeds .rumor
      (fun seed : AssetKey × RumorSeed => validateSeed engine ruleLimits seed.2.activation)
      (seedRumor externals frozen.source) frozen.resolvedWorldBook.rumors.toList ids
    let (memories, _) ← materializeSeeds .memory (fun _ => .ok ())
      (seedMemory frozen.source createdAtMs) memories ids
    .ok (facts ++ rumors ++ memories, allocation.newHighWater)

end

/-! ### What the entries are made of -/

/-- Each seed has become an entry, and the entries have taken the identifiers in order. -/
theorem materializeSeeds_ok {Seed : Type} {kind : KnowledgeKind}
    {check : Seed → Except StoryInstantiationError Unit}
    {entryOf : KnowledgeId kind → Seed → Except StoryInstantiationError KnowledgeEntry}
    (named : ∀ {id seed entry}, entryOf id seed = .ok entry → entry.sourceId = id.1)
    {seeds : List Seed} {ids rest : List KnowledgeSourceId} {entries : List KnowledgeEntry}
    (made : materializeSeeds kind check entryOf seeds ids = .ok (entries, rest)) :
    ids = entries.map (·.sourceId) ++ rest ∧
      List.Forall₂ (fun seed entry => ∃ id, entryOf id seed = .ok entry) seeds entries := by
  induction seeds generalizing ids entries with
  | nil =>
    cases made
    exact ⟨rfl, .nil⟩
  | cons seed seeds ih =>
    unfold materializeSeeds at made
    obtain ⟨_, _, made⟩ := Result.bind_eq_ok made
    obtain ⟨⟨id, others⟩, taken, made⟩ := Result.bind_eq_ok made
    obtain ⟨entry, formed, made⟩ := Result.bind_eq_ok made
    obtain ⟨⟨later, left⟩, looped, made⟩ := Result.bind_eq_ok made
    cases made
    obtain ⟨used, formedLater⟩ := ih looped
    have first : ids = id.1 :: others := by
      cases ids with
      | nil => cases taken
      | cons head tail =>
        by_cases same : head.kind = kind
        · rw [nextId, dif_pos same] at taken
          cases taken
          rfl
        · rw [nextId, dif_neg same] at taken
          cases taken
    refine ⟨?_, .cons ⟨id, formed⟩ formedLater⟩
    rw [first, List.map_cons, List.cons_append, ← used, named formed]

section
variable {externals : Externals} {engine : RegexEngine} {ruleLimits : ActivationRuleLimits}
  {source : KnowledgeSource} {entry : KnowledgeEntry}

theorem seedFact_sourceId {id : KnowledgeId .fact} {seed : AssetKey × FactSeed}
    (made : seedFact externals source id seed = .ok entry) : entry.sourceId = id.1 := by
  obtain ⟨_, _, made⟩ := Result.bind_eq_ok made
  cases made
  rfl

theorem seedRumor_sourceId {id : KnowledgeId .rumor} {seed : AssetKey × RumorSeed}
    (made : seedRumor externals source id seed = .ok entry) : entry.sourceId = id.1 := by
  obtain ⟨_, _, made⟩ := Result.bind_eq_ok made
  cases made
  rfl

theorem seedMemory_sourceId {createdAtMs : Int64} {id : KnowledgeId .memory}
    {seed : RoleId × MemorySeed} (made : seedMemory source createdAtMs id seed = .ok entry) :
    entry.sourceId = id.1 := by
  cases made
  rfl

/-- The entries a story starts with. -/
structure Materialized (externals : Externals) (frozen : FrozenStoryPack)
    (facts rumors memories : List KnowledgeEntry) : Prop where
  factSeeds : List.Forall₂
    (fun seed entry => ∃ id, seedFact externals frozen.source id seed = .ok entry)
    frozen.resolvedWorldBook.facts.toList facts
  rumorSeeds : List.Forall₂
    (fun seed entry => ∃ id, seedRumor externals frozen.source id seed = .ok entry)
    frozen.resolvedWorldBook.rumors.toList rumors
  privately : ∀ entry ∈ memories, entry.kind = .memory
  allocated : ∃ allocation rest, allocateKnowledgeIds 0
      (facts.map (·.kind) ++ rumors.map (·.kind) ++ memories.map (·.kind)) = .ok allocation ∧
    allocation.assigned = (facts ++ rumors ++ memories).map (·.sourceId) ++ rest

theorem forall₂_kinds {Seed : Type} {kind : KnowledgeKind}
    {entryOf : KnowledgeId kind → Seed → Except StoryInstantiationError KnowledgeEntry}
    (named : ∀ {id seed entry}, entryOf id seed = .ok entry → entry.sourceId = id.1)
    {seeds : List Seed} {entries : List KnowledgeEntry}
    (formed : List.Forall₂ (fun seed entry => ∃ id, entryOf id seed = .ok entry) seeds entries) :
    entries.map (·.kind) = List.replicate seeds.length kind := by
  induction formed with
  | nil => rfl
  | cons first _ ih =>
    obtain ⟨id, made⟩ := first
    rw [List.map_cons, ih, ← KnowledgeEntry.sourceId_kind, named made, id.2]
    rfl

theorem materializeKnowledge_ok {frozen : FrozenStoryPack} {createdAtMs : Int64}
    {entries : List KnowledgeEntry} {highWater : UInt64}
    (made : materializeKnowledge externals engine ruleLimits frozen createdAtMs =
      .ok (entries, highWater)) :
    ∃ facts rumors memories, entries = facts ++ rumors ++ memories ∧
      Materialized externals frozen facts rumors memories ∧
      ∃ kinds allocation rest, allocateKnowledgeIds 0 kinds = .ok allocation ∧
        allocation.assigned = entries.map (·.sourceId) ++ rest ∧
        highWater = allocation.newHighWater := by
  unfold materializeKnowledge at made
  dsimp only at made
  split at made
  · cases made
  · rename_i allocation allocated
    obtain ⟨⟨facts, afterFacts⟩, first, made⟩ := Result.bind_eq_ok made
    obtain ⟨⟨rumors, afterRumors⟩, second, made⟩ := Result.bind_eq_ok made
    obtain ⟨⟨memories, rest⟩, third, made⟩ := Result.bind_eq_ok made
    cases made
    obtain ⟨usedFacts, formedFacts⟩ := materializeSeeds_ok seedFact_sourceId first
    obtain ⟨usedRumors, formedRumors⟩ := materializeSeeds_ok seedRumor_sourceId second
    obtain ⟨usedMemories, formedMemories⟩ := materializeSeeds_ok seedMemory_sourceId third
    have factKinds := forall₂_kinds seedFact_sourceId formedFacts
    have rumorKinds := forall₂_kinds seedRumor_sourceId formedRumors
    have memoryKinds := forall₂_kinds seedMemory_sourceId formedMemories
    have assigned : allocation.assigned = (facts ++ rumors ++ memories).map (·.sourceId) ++ rest := by
      dsimp only at usedRumors usedMemories
      rw [usedFacts, usedRumors, usedMemories]
      simp only [List.map_append, List.append_assoc]
    refine ⟨facts, rumors, memories, rfl, ⟨formedFacts, formedRumors, ?_, allocation, rest, ?_, assigned⟩,
      _, allocation, rest, allocated, assigned, rfl⟩
    · intro entry member
      have kinds := List.mem_map_of_mem (f := KnowledgeEntry.kind) member
      rw [memoryKinds] at kinds
      exact List.eq_of_mem_replicate kinds
    · rw [factKinds, rumorKinds, memoryKinds, Std.ExtTreeMap.length_toList,
        Std.ExtTreeMap.length_toList]
      exact allocated

/-- Every entry is made of a seed. -/
theorem materializeKnowledge_seed {frozen : FrozenStoryPack} {createdAtMs : Int64}
    {entries : List KnowledgeEntry} {highWater : UInt64}
    (made : materializeKnowledge externals engine ruleLimits frozen createdAtMs =
      .ok (entries, highWater)) (member : entry ∈ entries) :
    (∃ seed ∈ frozen.resolvedWorldBook.facts.toList, ∃ id,
        seedFact externals frozen.source id seed = .ok entry) ∨
      (∃ seed ∈ frozen.resolvedWorldBook.rumors.toList, ∃ id,
        seedRumor externals frozen.source id seed = .ok entry) ∨
      ∃ seed ∈ memorySeeds frozen, ∃ id, seedMemory frozen.source createdAtMs id seed = .ok entry := by
  unfold materializeKnowledge at made
  dsimp only at made
  split at made
  · cases made
  · obtain ⟨⟨facts, _⟩, first, made⟩ := Result.bind_eq_ok made
    obtain ⟨⟨rumors, _⟩, second, made⟩ := Result.bind_eq_ok made
    obtain ⟨⟨memories, _⟩, third, made⟩ := Result.bind_eq_ok made
    cases made
    rw [List.mem_append, List.mem_append] at member
    obtain (fact | rumor) | memory := member
    · exact .inl (Result.exists_of_forall₂ (materializeSeeds_ok seedFact_sourceId first).2 fact)
    · exact .inr (.inl (Result.exists_of_forall₂ (materializeSeeds_ok seedRumor_sourceId second).2 rumor))
    · exact .inr (.inr (Result.exists_of_forall₂ (materializeSeeds_ok seedMemory_sourceId third).2 memory))

end

end Aise.Domain
