import Aise.Engine.Factory
import Aise.Persistence.History

/-! Where the knowledge of a running story comes from. One turn keeps an entry's
identifier and origin, adds an entry under a free key, or removes a rumor; by
induction over the lineage every entry is a seed of the creation or was added by
the recorded commit its origin names. -/
namespace Aise

/-- What identifies an entry over its life; updates only touch the body. -/
def KnowledgeEntry.stamp (entry : KnowledgeEntry kind) : Ident kind × EntryOrigin :=
  (entry.id, entry.origin)

/-- What one turn may do under one key. -/
inductive EntryStep (id : Ident kind) (number : TurnNumber) (adds removes : Prop)
    (before : Option (KnowledgeEntry kind)) : Option (KnowledgeEntry kind) → Prop where
  | kept (same : after.map KnowledgeEntry.stamp = before.map KnowledgeEntry.stamp) :
      EntryStep id number adds removes before after
  | added (adding : adds) (body : KnowledgeBody) :
      EntryStep id number adds removes before (some { id, origin := .turn number, body })
  | removed (removing : removes) : EntryStep id number adds removes before none

theorem EntryStep.present {id : Ident kind} (step : EntryStep id number adds False before after)
    (present : before.isSome) : after.isSome := by
  cases step with
  | kept same => rwa [← Option.isSome_map, same, Option.isSome_map]
  | added => rfl
  | removed removing => contradiction

theorem EntryStep.origin {id : Ident kind}
    (step : EntryStep id number adds removes (some old) (some new))
    (other : ¬ adds) : new.origin = old.origin := by
  cases step with
  | kept same => exact congrArg Prod.snd (Option.some.inj same)
  | added adding => exact absurd adding other

section Traced
variable {K : Type} {name : K → Ident kind} {adds : StoryCommit → K → Prop}
  {initial before after : K → Option (KnowledgeEntry kind)} {log : List StoryCommit}

/-- Entries sit under their own identifier; seeds stood there initially, and every
other entry was added there by a commit of the log. -/
def Traced (name : K → Ident kind) (adds : StoryCommit → K → Prop)
    (initial current : K → Option (KnowledgeEntry kind)) (log : List StoryCommit) : Prop :=
  ∀ key entry, current key = some entry → entry.id = name key ∧
    match entry.origin with
    | .seed => (initial key).isSome
    | .turn number => ∃ turn ∈ log, turn.turn.turnNumber = number ∧ adds turn key

theorem Traced.seeds (seeds : ∀ key entry, initial key = some entry →
    entry.id = name key ∧ entry.origin = .seed) : Traced name adds initial initial [] := by
  intro key entry found
  obtain ⟨named, seed⟩ := seeds key entry found
  refine ⟨named, ?_⟩
  rw [seed]
  exact Option.isSome_of_mem found

theorem Traced.step {removes : K → Prop} (traced : Traced name adds initial before log)
    (steps : ∀ key, EntryStep (name key) turn.turn.turnNumber (adds turn key) (removes key)
      (before key) (after key)) : Traced name adds initial after (log ++ [turn]) := by
  intro key entry found
  have step := steps key
  rw [found] at step
  cases step with
  | kept same =>
    obtain ⟨old, stood, stamped⟩ := Option.map_eq_some_iff.mp same.symm
    obtain ⟨sameId, sameOrigin⟩ := Prod.mk.inj stamped
    obtain ⟨named, traced⟩ := traced key old stood
    rw [sameOrigin] at traced
    refine ⟨sameId.symm.trans named, ?_⟩
    cases origin : entry.origin with
    | seed => simpa only [origin] using traced
    | turn number =>
      simp only [origin] at traced
      obtain ⟨earlier, logged, numbered, added⟩ := traced
      exact ⟨earlier, List.mem_append_left _ logged, numbered, added⟩
  | added adding body => exact ⟨rfl, turn, List.mem_append_right _ List.mem_cons_self, rfl, adding⟩

end Traced

def StoryCommit.AddsFact (turn : StoryCommit) (id : FactId) : Prop :=
  ∃ body, FactChangeOp.add id body ∈ turn.turn.knowledgeChange.facts

def StoryCommit.AddsRumor (turn : StoryCommit) (id : RumorId) : Prop :=
  ∃ body, RumorChangeOp.add id body ∈ turn.turn.knowledgeChange.rumors

def StoryCommit.RemovesRumor (turn : StoryCommit) (id : RumorId) : Prop :=
  RumorChangeOp.remove id ∈ turn.turn.knowledgeChange.rumors

def StoryCommit.AddsMemory (turn : StoryCommit) (target : RoleId × MemoryId) : Prop :=
  ∃ body, RoleMemoryChangeOp.add target.1 target.2 body ∈ turn.turn.knowledgeChange.memories

theorem stamp_update (entry : Option (KnowledgeEntry kind)) (body : KnowledgeBody) :
    (entry.map ({ · with body })).map KnowledgeEntry.stamp = entry.map KnowledgeEntry.stamp := by
  rw [Option.map_map]
  rfl

namespace StoredStory
variable {story : StoredStory} {turn : StoryCommit} (config : StoryStoreConfig) (now : DateTime)

theorem Accepts.fact_step (accepts : story.Accepts turn) (id : FactId) :
    EntryStep id turn.turn.turnNumber (turn.AddsFact id) False story.context.facts[id]?
      (story.record config now turn).context.facts[id]? := by
  rw [record_context]
  change EntryStep _ _ _ _ _
    (turn.turn.knowledgeChange.facts.foldl (applyFactOp _) story.context.facts)[id]?
  rcases Keyed.look_cases (applyFactOp_pointwise turn.turn.turnNumber)
      accepts.admission.knowledge.factTargets story.context.facts id with
    ⟨_, same⟩ | ⟨op, member, rfl, effect⟩
  · exact .kept (congrArg _ same)
  · rw [effect]
    cases op with
    | add id body => exact .added ⟨body, member⟩ body
    | update id body => exact .kept (stamp_update _ body)

theorem Accepts.rumor_step (accepts : story.Accepts turn) (id : RumorId) :
    EntryStep id turn.turn.turnNumber (turn.AddsRumor id) (turn.RemovesRumor id)
      story.context.rumors[id]? (story.record config now turn).context.rumors[id]? := by
  rw [record_context]
  change EntryStep _ _ _ _ _
    (turn.turn.knowledgeChange.rumors.foldl (applyRumorOp _) story.context.rumors)[id]?
  rcases Keyed.look_cases (applyRumorOp_pointwise turn.turn.turnNumber)
      accepts.admission.knowledge.rumorTargets story.context.rumors id with
    ⟨_, same⟩ | ⟨op, member, rfl, effect⟩
  · exact .kept (congrArg _ same)
  · rw [effect]
    cases op with
    | add id body => exact .added ⟨body, member⟩ body
    | update id body => exact .kept (stamp_update _ body)
    | remove id => exact .removed member

theorem memory?_eq (context : StoryContext) (target : RoleId × MemoryId) :
    context.memory? target = (memoryAt context.roles target).join := by
  unfold StoryContext.memory? memoryAt
  cases context.roles[target.1]? <;> rfl

theorem Accepts.memory_step (accepts : story.Accepts turn) (target : RoleId × MemoryId) :
    EntryStep target.2 turn.turn.turnNumber (turn.AddsMemory target) False
      (story.context.memory? target) ((story.record config now turn).context.memory? target) := by
  rw [memory?_eq, memory?_eq, record_context]
  change EntryStep _ _ _ _ _
    (memoryAt (turn.turn.knowledgeChange.memories.foldl (applyMemoryOp _) story.context.roles)
      target).join
  rcases Keyed.look_cases (applyMemoryOp_pointwise turn.turn.turnNumber)
      accepts.admission.knowledge.memoryTargets story.context.roles target with
    ⟨_, same⟩ | ⟨op, member, rfl, effect⟩
  · exact .kept (congrArg (fun slot => slot.join.map KnowledgeEntry.stamp) same)
  · rw [effect]
    cases op with
    | add roleId id body =>
      have free := RoleMemoryChangeOp.fits_add_iff.mp
        (accepts.admission.knowledge.memoriesFit _ member)
      simp only [RoleMemoryChangeOp.target, RoleMemoryChangeOp.effect, free, Option.map_some,
        Option.join_some]
      exact .added ⟨body, member⟩ body
    | update roleId id body =>
      obtain ⟨entry, stands⟩ := RoleMemoryChangeOp.fits_update_iff.mp
        (accepts.admission.knowledge.memoriesFit _ member)
      simp only [RoleMemoryChangeOp.target, RoleMemoryChangeOp.effect, stands, Option.map_some,
        Option.join_some]
      exact .kept rfl

/-- A turn leaves every role in place and only writes to its memories. -/
theorem record_role (story : StoredStory) (turn : StoryCommit) (roleId : RoleId) :
    ∃ memories : RoleEntry → BTreeMap .memory MemoryEntry,
      (story.record config now turn).context.roles[roleId]? =
        story.context.roles[roleId]?.map fun role => { role with memories := memories role } := by
  rw [record_context]
  exact ⟨_, applyMemoryOps_get _ _ _ roleId⟩

end StoredStory

namespace StoredStory
variable {config : StoryStoreConfig} {story : StoredStory} {spec : StoryInstanceSpec}
  {log : List StoryCommit}

/-- The memory a spec gives a role under an id. -/
def seedMemory? (spec : StoryInstanceSpec) (target : RoleId × MemoryId) : Option MemoryEntry :=
  spec.roles[target.1]?.bind (·.memories[target.2]?)

theorem seedMemory?_isSome {id : MemoryId} : (seedMemory? spec (roleId, id)).isSome ↔
    ∃ role, spec.roles[roleId]? = some role ∧ id ∈ role.memories := by
  simp only [seedMemory?, Option.isSome_iff_exists, Option.bind_eq_some_iff, OrdMap.mem_iff_exists]
  grind

theorem Lineage.facts_traced (lineage : Lineage config Q spec log story) (seeded : spec.Seeded) :
    Traced (fun id => id) StoryCommit.AddsFact (fun id => spec.facts[id]?)
      (fun id => story.context.facts[id]?) log := by
  induction lineage with
  | created => exact .seeds seeded.facts
  | committed now _ accepts _ _ ih => exact ih.step (accepts.fact_step config now)

theorem Lineage.rumors_traced (lineage : Lineage config Q spec log story) (seeded : spec.Seeded) :
    Traced (fun id => id) StoryCommit.AddsRumor (fun id => spec.rumors[id]?)
      (fun id => story.context.rumors[id]?) log := by
  induction lineage with
  | created => exact .seeds seeded.rumors
  | committed now _ accepts _ _ ih => exact ih.step (accepts.rumor_step config now)

theorem Lineage.memories_traced (lineage : Lineage config Q spec log story)
    (seeded : spec.Seeded) :
    Traced Prod.snd StoryCommit.AddsMemory (seedMemory? spec) story.context.memory? log := by
  induction lineage with
  | created =>
    refine .seeds fun target entry found => ?_
    obtain ⟨role, stands, kept⟩ := Option.bind_eq_some_iff.mp found
    exact seeded.memories target.1 role target.2 entry stands kept
  | committed now _ accepts _ _ ih => exact ih.step (accepts.memory_step config now)

theorem Lineage.roles_seeded (lineage : Lineage config Q spec log story) (seeded : spec.Seeded)
    (found : story.context.roles[roleId]? = some role) :
    role.id = roleId ∧ role.origin = .seed ∧ roleId ∈ spec.roles := by
  induction lineage generalizing role with
  | created =>
    obtain ⟨named, origin⟩ := seeded.roles roleId role found
    exact ⟨named, origin, OrdMap.mem_iff_exists.mpr ⟨role, found⟩⟩
  | committed now _ accepts _ _ ih =>
    obtain ⟨memories, roles⟩ := record_role config now _ _ roleId
    rw [roles] at found
    obtain ⟨earlier, stood, rfl⟩ := Option.map_eq_some_iff.mp found
    have seed := ih stood
    exact seed

/-- What an origin says: a seed of the creation, or an addition made by the
recorded commit of the turn it names. -/
def OriginHolds (story : StoredStory) (seeded : Prop) (adds : StoryCommit → Prop) :
    EntryOrigin → Prop
  | .seed => seeded
  | .turn number => 1 ≤ number.value ∧ number.value ≤ story.context.turnNumber.value ∧
    ∃ (key : IdempotencyKey) (turn : StoryCommit), story.committed[key]? = some turn ∧
      turn.turn.turnNumber = number ∧ adds turn

structure Provenance (spec : StoryInstanceSpec) (story : StoredStory) : Prop where
  facts : ∀ (id : FactId) (entry : FactEntry), story.context.facts[id]? = some entry →
    entry.id = id ∧ story.OriginHolds (id ∈ spec.facts) (·.AddsFact id) entry.origin
  rumors : ∀ (id : RumorId) (entry : RumorEntry), story.context.rumors[id]? = some entry →
    entry.id = id ∧ story.OriginHolds (id ∈ spec.rumors) (·.AddsRumor id) entry.origin
  roles : ∀ (id : RoleId) (role : RoleEntry), story.context.roles[id]? = some role →
    role.id = id ∧ role.origin = .seed ∧ id ∈ spec.roles
  memories : ∀ (roleId : RoleId) (id : MemoryId) (entry : MemoryEntry),
    story.context.memory? (roleId, id) = some entry → entry.id = id ∧
      story.OriginHolds (∃ role, spec.roles[roleId]? = some role ∧ id ∈ role.memories)
        (·.AddsMemory (roleId, id)) entry.origin

theorem Recorded.originHolds {adds : StoryCommit → K → Prop}
    {current : K → Option (KnowledgeEntry kind)} {entry : KnowledgeEntry kind}
    (recorded : Recorded maximum log story) (traced : Traced name adds initial current log)
    (key : K) (found : current key = some entry) :
    entry.id = name key ∧ story.OriginHolds (initial key).isSome (adds · key) entry.origin := by
  obtain ⟨named, traced⟩ := traced key entry found
  refine ⟨named, ?_⟩
  cases origin : entry.origin with
  | seed =>
    simp only [origin] at traced
    exact traced
  | turn number =>
    simp only [origin] at traced
    obtain ⟨turn, logged, rfl, added⟩ := traced
    have bounds := recorded.journal.number_bounds logged
    rw [← recorded.turnNumber] at bounds
    obtain ⟨key, found⟩ := recorded.committed_iff.mpr logged
    exact ⟨bounds.1, bounds.2, key, turn, found, rfl, added⟩

theorem Lineage.provenance (lineage : Lineage config Q spec log story) (seeded : spec.Seeded) :
    story.Provenance spec where
  facts id entry found := by
    simpa using lineage.recorded.originHolds (lineage.facts_traced seeded) id found
  rumors id entry found := by
    simpa using lineage.recorded.originHolds (lineage.rumors_traced seeded) id found
  roles id role found := lineage.roles_seeded seeded found
  memories roleId id entry found := by
    simpa only [seedMemory?_isSome] using
      lineage.recorded.originHolds (lineage.memories_traced seeded) (roleId, id) found

/-- Facts and memories stay; rumors may go. -/
structure Keeps (story next : StoredStory) : Prop where
  facts : ∀ id, id ∈ story.context.facts → id ∈ next.context.facts
  memories : ∀ target, (story.context.memory? target).isSome → (next.context.memory? target).isSome

/-- The turn changes no origin but those of the entries it adds. -/
structure KeepsOrigins (turn : StoryCommit) (story next : StoredStory) : Prop where
  facts : ∀ (id : FactId) (old new : FactEntry), ¬ turn.AddsFact id →
    story.context.facts[id]? = some old → next.context.facts[id]? = some new →
    new.origin = old.origin
  rumors : ∀ (id : RumorId) (old new : RumorEntry), ¬ turn.AddsRumor id →
    story.context.rumors[id]? = some old → next.context.rumors[id]? = some new →
    new.origin = old.origin
  roles : ∀ (id : RoleId) (old new : RoleEntry),
    story.context.roles[id]? = some old → next.context.roles[id]? = some new →
    new.origin = old.origin
  memories : ∀ (target : RoleId × MemoryId) (old new : MemoryEntry), ¬ turn.AddsMemory target →
    story.context.memory? target = some old → next.context.memory? target = some new →
    new.origin = old.origin

theorem Keeps.refl (story : StoredStory) : story.Keeps story := ⟨fun _ h => h, fun _ h => h⟩

theorem Keeps.trans (first : Keeps a b) (second : Keeps b c) : Keeps a c :=
  ⟨fun id h => second.facts id (first.facts id h),
    fun target h => second.memories target (first.memories target h)⟩

theorem Accepts.keeps {turn : StoryCommit} (accepts : story.Accepts turn) (now : DateTime) :
    story.Keeps (story.record config now turn) where
  facts id present := by
    have step := accepts.fact_step config now id
    rw [← Std.ExtTreeMap.isSome_getElem?_iff_mem] at present ⊢
    exact step.present present
  memories target present := (accepts.memory_step config now target).present present

theorem KeepsOrigins.refl (turn : StoryCommit) (story : StoredStory) :
    KeepsOrigins turn story story := by
  constructor
  all_goals
    intros
    simp_all

theorem Accepts.keepsOrigins {turn : StoryCommit} (accepts : story.Accepts turn)
    (now : DateTime) : KeepsOrigins turn story (story.record config now turn) where
  facts id old new other before after := by
    have step := accepts.fact_step config now id
    rw [before, after] at step
    exact step.origin other
  rumors id old new other before after := by
    have step := accepts.rumor_step config now id
    rw [before, after] at step
    exact step.origin other
  roles id old new before after := by
    obtain ⟨memories, roles⟩ := record_role config now story turn id
    rw [roles, before] at after
    cases after
    rfl
  memories target old new other before after := by
    have step := accepts.memory_step config now target
    rw [before, after] at step
    exact step.origin other

end StoredStory

/-- The instances `freeze_story` hands to the store. -/
def Frozen (spec : StoryInstanceSpec) : Prop :=
  ∃ canonical storyId creation bundle,
    freezeStory canonical storyId creation = .ok bundle ∧ bundle.instanceSpec = spec

theorem Frozen.seeded (frozen : Frozen spec) : spec.Seeded := by
  obtain ⟨_, _, _, _, freezes, rfl⟩ := frozen
  exact (freezeStory_freezes freezes).seeded

namespace StoryStoreMem
variable {config : StoryStoreConfig} {store : StoryStoreMem} {storyId : StoryId}
  {story : StoredStory}

theorem keep_run_keeps (run : Transition.Reaches KeepStep store later)
    (found : store.stories[storyId]? = some story) :
    ∃ next, later.stories[storyId]? = some next ∧ story.Keeps next := by
  refine Transition.follow (·.stories[storyId]?) StoredStory.Keeps.refl StoredStory.Keeps.trans ?_
    run found
  rintro store _ story ⟨op, keeps, rfl⟩ found
  rcases keep_next keeps found with same | ⟨now, turn, _, _, accepts, foundNext⟩
  · exact ⟨story, same, .refl story⟩
  · exact ⟨_, foundNext, accepts.keeps now⟩

theorem knowledge_provenance (run : Run config storyId Frozen (fun _ _ => True) store)
    (found : store.stories[storyId]? = some story) :
    (∃ spec log, spec.storyId = storyId ∧ Frozen spec ∧
      StoredStory.Lineage config (fun _ _ => True) spec log story ∧ story.Provenance spec) ∧
    (∀ later, Transition.Reaches KeepStep store later →
      ∃ next, later.stories[storyId]? = some next ∧ story.Keeps next) ∧
    (∀ now turn next, ((commit now turn).call store).2.stories[storyId]? = some next →
      StoredStory.KeepsOrigins turn story next) := by
  refine ⟨?_, ?_, ?_⟩
  · obtain ⟨spec, log, own, frozen, lineage⟩ := run.lineage.2 story found
    exact ⟨spec, log, own, frozen, lineage, lineage.provenance frozen.seeded⟩
  · intro later keeps
    exact keep_run_keeps keeps found
  · intro now turn next left
    rcases commit_next now turn found left with rfl | ⟨_, accepts, rfl⟩
    · exact .refl turn next
    · exact accepts.keepsOrigins now

end StoryStoreMem

namespace Sample

def creation : StoryCreationSpec where
  storyPack := pack
  cast := ∅
  playerId := playerId
  playerRole := hero

def bundle : StoryCreateBundle :=
  .assemble ⟨packRef, pack⟩ storyId pack.opening (freezeRoles pack ∅) (freezeFacts pack)
    (freezeRumors pack) creation.playerId hero {}

theorem freezes : freezeStory (fun _ => .ok packRef.digest) storyId creation = .ok bundle := by
  rfl

/-- The first turn adds, updates and removes; the second brings the rumor back. -/
def learning : List StoreOp :=
  let first := commit 1 keyA
  let second := commit 2 keyB
  [.create now bundle.instanceSpec,
    .commit now { first with turn := { first.turn with knowledgeChange :=
      { facts := [.add newFactId (body "The hero left."), .update factId (body "The gate opened.")]
        rumors := [.remove rumorId]
        memories := [.add hero newMemoryId (body "the road")] } } },
    .commit now { second with turn := { second.turn with knowledgeChange :=
      { rumors := [.add rumorId (body "The wolf is back.")] } } }]

def learned : StoryStoreMem := StoryStoreMem.performAll learning (StoryStoreMem.withConfig {})

end Sample

namespace StoryStoreMem

theorem knowledge_provenance_sample :
    ∃ story, Sample.learned.stories[Sample.storyId]? = some story ∧
      story.context.turnNumber.value = 2 ∧ ∃ spec, story.Provenance spec := by
  have turns : Sample.learned.stories[Sample.storyId]?.map (·.context.turnNumber.value) = some 2 := by
    decide +kernel
  obtain ⟨story, found, two⟩ := Option.map_eq_some_iff.mp turns
  have frozen : Frozen Sample.bundle.instanceSpec :=
    ⟨_, Sample.storyId, Sample.creation, Sample.bundle, Sample.freezes, rfl⟩
  have run : Run {} Sample.storyId Frozen (fun _ _ => True) Sample.learned :=
    run_performAll {} ⟨fun _ => frozen, fun _ _ _ => trivial, fun _ _ _ => trivial, trivial⟩
  obtain ⟨⟨spec, _, _, _, _, provenance⟩, _⟩ := knowledge_provenance run found
  exact ⟨story, found, two, spec, provenance⟩

end StoryStoreMem
end Aise
