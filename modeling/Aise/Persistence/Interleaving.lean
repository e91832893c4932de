import Aise.Persistence.Store

/-! Interleaved creations and removals. A story id is spent when its creation
starts and known when the creation returns; both only grow. That is enough to keep
every release away from the stories that still need their pack. -/
namespace Aise

def Progress.call : Progress → Option StoreCall
  | .running next => some next
  | .finished _ => none

/-- The id a finished creation hands to its caller. -/
def Progress.returns : Progress → Set StoryId
  | .finished (.created (.ok info)) => {info.storyId}
  | _ => ∅

structure World where
  store : Store
  calls : Nat → Option StoreCall
  used : Set StoryId
  returned : Set StoryId

namespace World

def initial (storyConfig : StoryStoreConfig) (packConfig : PackStoreConfig) : World where
  store := ⟨.withConfig storyConfig, .withConfig packConfig⟩
  calls := fun _ => none
  used := ∅
  returned := ∅

def enter (world : World) (client : Nat) (call : StoreCall) : World :=
  { world with calls := Function.update world.calls client (some call) }

/-- One client makes the next store call of its own call in flight. -/
def advance (world : World) (now : DateTime) (client : Nat) (call : StoreCall) : World where
  store := (call.advance now world.store).2
  calls := Function.update world.calls client (call.advance now world.store).1.call
  used := world.used
  returned := world.returned ∪ (call.advance now world.store).1.returns

def commit (world : World) (now : DateTime) (turn : StoryCommit) : World :=
  { world with store := { world.store with
      storyStore := ((StoryStoreMem.commit now turn).call world.store.storyStore).2 } }

/-- Creations use new ids, removals use ids a creation returned, and turns are
committed in between; apart from that the order is free. -/
inductive Step : World → World → Prop where
  | createStarts (idle : world.calls client = none)
      (fresh : bundle.instanceSpec.storyId ∉ world.used) :
      Step world { world.enter client (.retaining bundle) with
        used := insert bundle.instanceSpec.storyId world.used }
  | removeStarts (idle : world.calls client = none) (known : storyId ∈ world.returned) :
      Step world (world.enter client (.removing storyId))
  | advances (now : DateTime) (running : world.calls client = some call) :
      Step world (world.advance now client call)
  | commits (now : DateTime) (turn : StoryCommit) : Step world (world.commit now turn)

end World

/-- The id a creation in flight works on. -/
def StoreCall.creates : StoreCall → Option StoryId
  | .retaining bundle | .creating bundle => some bundle.instanceSpec.storyId
  | .compensating storyId _ => some storyId
  | .removing _ | .releasing _ => none

/-- The id whose lease this call answers for while the story is not stored. -/
def StoreCall.owns : StoreCall → Option StoryId
  | .creating bundle => some bundle.instanceSpec.storyId
  | .compensating storyId _ | .releasing storyId => some storyId
  | .retaining _ | .removing _ => none

/-- What a call in flight relies on. -/
def StoreCall.Ready (world : World) (ledger : PackStoreMem.PackLedger) : StoreCall → Prop
  | .creating bundle =>
    ledger.held bundle.instanceSpec.storyId = some bundle.instanceSpec.packRef
  | .removing storyId => storyId ∈ world.returned
  | .releasing storyId => storyId ∈ world.returned ∧ world.store.storyStore.stories[storyId]? = none
  | .retaining _ | .compensating _ _ => True

/-- Ids are spent before they are known, and no two creations work on the same one. -/
structure IdsApart (calls : Nat → Option StoreCall) (used returned : Set StoryId) : Prop where
  spent : returned ⊆ used
  creates : ∀ client call storyId, calls client = some call → call.creates = some storyId →
    storyId ∈ used ∧ storyId ∉ returned
  apart : ∀ client other call call' storyId, calls client = some call →
    calls other = some call' → call.creates = some storyId → call'.creates = some storyId →
    client = other

/-- Stored stories hold their packs, and every other lease has a call that will
either store the story or give the lease back. -/
structure World.Consistent (config : PackStoreConfig) (ledger : PackStoreMem.PackLedger)
    (world : World) : Prop where
  sound : PackStoreMem.Sound config (world.store.packStore, ledger)
  ids : IdsApart world.calls world.used world.returned
  retained : ∀ (storyId : StoryId) (story : StoredStory),
    world.store.storyStore.stories[storyId]? = some story →
    ledger.held storyId = some story.context.packRef ∧ storyId ∈ world.returned
  ready : ∀ client call, world.calls client = some call → call.Ready world ledger
  owned : ∀ storyId packRef, ledger.held storyId = some packRef →
    (∃ story, world.store.storyStore.stories[storyId]? = some story) ∨
    ∃ client call, world.calls client = some call ∧ call.owns = some storyId

section Table
variable {calls : Nat → Option StoreCall} {used returned : Set StoryId} {client : Nat}
  {call : StoreCall} {next : Option StoreCall}

theorem update_some (found : Function.update calls client next other = some call) :
    (other = client ∧ next = some call) ∨ (other ≠ client ∧ calls other = some call) := by
  by_cases same : other = client
  · subst same
    exact .inl ⟨rfl, by simpa using found⟩
  · exact .inr ⟨same, by simpa [same] using found⟩

/-- A client that goes on with the same id, or with none, disturbs nobody. -/
theorem IdsApart.update (ids : IdsApart calls used returned)
    (same : ∀ after storyId, next = some after → after.creates = some storyId →
      ∃ before, calls client = some before ∧ before.creates = some storyId) :
    IdsApart (Function.update calls client next) used returned := by
  -- Every creation of the new table was there before, at the same client.
  have earlier : ∀ other after storyId, Function.update calls client next other = some after →
      after.creates = some storyId →
      ∃ before, calls other = some before ∧ before.creates = some storyId := by
    intro other after storyId found creates
    rcases update_some found with ⟨rfl, entered⟩ | ⟨_, kept⟩
    · exact same after storyId entered creates
    · exact ⟨after, kept, creates⟩
  refine ⟨ids.spent, ?_, ?_⟩
  · intro other after storyId found creates
    obtain ⟨before, stood, created⟩ := earlier other after storyId found creates
    exact ids.creates other before storyId stood created
  · intro first second after after' storyId found found' creates creates'
    obtain ⟨before, stood, created⟩ := earlier first after storyId found creates
    obtain ⟨before', stood', created'⟩ := earlier second after' storyId found' creates'
    exact ids.apart first second before before' storyId stood stood' created created'

theorem IdsApart.start (ids : IdsApart calls used returned) (fresh : storyId ∉ used)
    (creates : call.creates = some storyId) :
    IdsApart (Function.update calls client (some call)) (insert storyId used) returned := by
  have elsewhere : ∀ other after, calls other = some after → after.creates ≠ some storyId :=
    fun other after found same => fresh (ids.creates other after storyId found same).1
  refine ⟨ids.spent.trans (Set.subset_insert _ _), ?_, ?_⟩
  · intro other after storyId' found creates'
    rcases update_some found with ⟨_, entered⟩ | ⟨_, kept⟩
    · cases entered
      cases creates.symm.trans creates'
      exact ⟨Set.mem_insert _ _, fun known => fresh (ids.spent known)⟩
    · obtain ⟨spent, unknown⟩ := ids.creates other after storyId' kept creates'
      exact ⟨Set.mem_insert_of_mem _ spent, unknown⟩
  · intro first second after after' storyId' found found' creates' creates''
    rcases update_some found with ⟨here, entered⟩ | ⟨_, kept⟩
    · rcases update_some found' with ⟨there, _⟩ | ⟨_, kept'⟩
      · exact here.trans there.symm
      · cases entered
        cases creates.symm.trans creates'
        exact absurd creates'' (elsewhere second after' kept')
    · rcases update_some found' with ⟨_, entered⟩ | ⟨_, kept'⟩
      · cases entered
        cases creates.symm.trans creates''
        exact absurd creates' (elsewhere first after kept)
      · exact ids.apart first second after after' storyId' kept kept' creates' creates''

/-- A creation that returns takes its id out of flight and makes it known. -/
theorem IdsApart.finish (ids : IdsApart calls used returned) (running : calls client = some call)
    (creates : call.creates = some storyId) :
    IdsApart (Function.update calls client none) used (returned ∪ {storyId}) := by
  have rest : IdsApart (Function.update calls client none) used returned := ids.update (by simp)
  refine ⟨?_, ?_, rest.apart⟩
  · intro other known
    rcases known with known | rfl
    · exact ids.spent known
    · exact (ids.creates client call _ running creates).1
  · intro other after storyId' found creates'
    obtain ⟨spent, unknown⟩ := rest.creates other after storyId' found creates'
    refine ⟨spent, ?_⟩
    rintro (known | rfl)
    · exact unknown known
    · rcases update_some found with ⟨_, entered⟩ | ⟨different, kept⟩
      · contradiction
      · exact different (ids.apart other client after call _ kept running creates' creates)

theorem keep_owner {owner : StoreCall} (found : calls other = some owner)
    (different : other ≠ client) : Function.update calls client next other = some owner := by
  rw [Function.update_of_ne different, found]

end Table

/-- What a call relies on survives what the others do. -/
theorem StoreCall.Ready.frame {call : StoreCall} {world world' : World}
    (ready : call.Ready world ledger) (known : world.returned ⊆ world'.returned)
    (held : ∀ storyId, call.creates = some storyId → ledger'.held storyId = ledger.held storyId)
    (absent : ∀ storyId ∈ world.returned, world.store.storyStore.stories[storyId]? = none →
      world'.store.storyStore.stories[storyId]? = none) : call.Ready world' ledger' := by
  cases call with
  | retaining _ | compensating _ _ => trivial
  | creating bundle => exact (held _ rfl).trans ready
  | removing storyId => exact known ready
  | releasing storyId => exact ⟨known ready.1, absent storyId ready.1 ready.2⟩

namespace World
variable {world : World} {ledger : PackStoreMem.PackLedger} {config : PackStoreConfig}
  {now : DateTime} {client : Nat}

theorem Consistent.initial (storyConfig : StoryStoreConfig) (packConfig : PackStoreConfig) :
    Consistent packConfig .empty (initial storyConfig packConfig) where
  sound := ⟨rfl, .empty _⟩
  ids := ⟨by simp [World.initial], by simp [World.initial], by simp [World.initial]⟩
  retained := by simp [World.initial, StoryStoreMem.withConfig]
  ready := by simp [World.initial]
  owned := by simp [Lease.Ledger.empty]

theorem Consistent.createStarts (consistent : Consistent config ledger world)
    (idle : world.calls client = none) (fresh : bundle.instanceSpec.storyId ∉ world.used) :
    Consistent config ledger { world.enter client (.retaining bundle) with
      used := insert bundle.instanceSpec.storyId world.used } where
  sound := consistent.sound
  ids := consistent.ids.start fresh rfl
  retained := consistent.retained
  ready other call found := by
    rcases update_some found with ⟨_, entered⟩ | ⟨_, kept⟩
    · cases entered
      trivial
    · exact (consistent.ready other call kept).frame subset_rfl (fun _ _ => rfl) (fun _ _ h => h)
  owned storyId packRef held := by
    rcases consistent.owned storyId packRef held with stored | ⟨other, owner, found, owns⟩
    · exact .inl stored
    · refine .inr ⟨other, owner, keep_owner found ?_, owns⟩
      rintro rfl
      simp [idle] at found

theorem Consistent.removeStarts (consistent : Consistent config ledger world)
    (idle : world.calls client = none) (known : storyId ∈ world.returned) :
    Consistent config ledger (world.enter client (.removing storyId)) where
  sound := consistent.sound
  ids := consistent.ids.update (by
    rintro after storyId entered creates
    cases entered
    contradiction)
  retained := consistent.retained
  ready other call found := by
    rcases update_some found with ⟨_, entered⟩ | ⟨_, kept⟩
    · cases entered
      exact known
    · exact (consistent.ready other call kept).frame subset_rfl (fun _ _ => rfl) (fun _ _ h => h)
  owned storyId packRef held := by
    rcases consistent.owned storyId packRef held with stored | ⟨other, owner, found, owns⟩
    · exact .inl stored
    · refine .inr ⟨other, owner, keep_owner found ?_, owns⟩
      rintro rfl
      simp [idle] at found

/-- A call that fails without a lease leaves nothing behind. -/
theorem Consistent.retaining_fails (consistent : Consistent config ledger world)
    (running : world.calls client = some (.retaining bundle)) :
    Consistent config ledger { world with calls := Function.update world.calls client none } where
  sound := consistent.sound
  ids := consistent.ids.update (by simp)
  retained := consistent.retained
  ready other call found := by
    rcases update_some found with ⟨_, entered⟩ | ⟨_, kept⟩
    · contradiction
    · exact (consistent.ready other call kept).frame subset_rfl (fun _ _ => rfl) (fun _ _ h => h)
  owned storyId packRef held := by
    rcases consistent.owned storyId packRef held with stored | ⟨other, owner, found, owns⟩
    · exact .inl stored
    · refine .inr ⟨other, owner, keep_owner found ?_, owns⟩
      rintro rfl
      cases running.symm.trans found
      contradiction

theorem Consistent.retaining_succeeds (consistent : Consistent config ledger world)
    (running : world.calls client = some (.retaining bundle))
    (granted : (PackStoreMem.retain bundle.instanceSpec.storyId bundle.snapshot).call
      world.store.packStore = (.ok (), packStore)) :
    Consistent config
      (ledger.retain bundle.instanceSpec.storyId bundle.snapshot.packRef bundle.snapshot.pack)
      { world with
        store := { world.store with packStore }
        calls := Function.update world.calls client (some (.creating bundle)) } where
  sound := consistent.sound.retained granted
  ids := consistent.ids.update (by
    rintro after storyId entered creates
    cases entered
    exact ⟨_, running, creates⟩)
  retained storyId story found := by
    obtain ⟨held, known⟩ := consistent.retained storyId story found
    refine ⟨?_, known⟩
    rw [Lease.Ledger.held_retain, if_neg, held]
    rintro rfl
    exact (consistent.ids.creates client _ _ running rfl).2 known
  ready other call found := by
    rcases update_some found with ⟨_, entered⟩ | ⟨different, kept⟩
    · cases entered
      change (ledger.retain _ _ _).held _ = _
      rw [Lease.Ledger.held_retain, if_pos rfl, bundle.bound]
    · refine (consistent.ready other call kept).frame subset_rfl ?_ (fun _ _ h => h)
      intro storyId creates
      rw [Lease.Ledger.held_retain, if_neg]
      rintro rfl
      exact different (consistent.ids.apart other client _ _ _ kept running creates rfl)
  owned storyId packRef held := by
    by_cases own : bundle.instanceSpec.storyId = storyId
    · exact .inr ⟨client, .creating bundle, Function.update_self _ _ _, congrArg some own⟩
    · rw [Lease.Ledger.held_retain, if_neg own] at held
      rcases consistent.owned storyId packRef held with stored | ⟨other, owner, found, owns⟩
      · exact .inl stored
      · refine .inr ⟨other, owner, keep_owner found ?_, owns⟩
        rintro rfl
        cases running.symm.trans found
        contradiction

theorem Consistent.creating_succeeds (consistent : Consistent config ledger world)
    (running : world.calls client = some (.creating bundle)) :
    Consistent config ledger
      { world with
        store := ⟨world.store.storyStore.insertStory bundle.instanceSpec.storyId
          (StoredStory.created now bundle.instanceSpec), world.store.packStore⟩
        calls := Function.update world.calls client none
        returned := world.returned ∪ {bundle.instanceSpec.storyId} } where
  sound := consistent.sound
  ids := consistent.ids.finish running rfl
  retained storyId story found := by
    simp only [StoryStoreMem.insertStory_get?] at found
    split at found
    · rename_i own
      subst own
      cases found
      exact ⟨consistent.ready client _ running, .inr rfl⟩
    · obtain ⟨held, known⟩ := consistent.retained storyId story found
      exact ⟨held, .inl known⟩
  ready other call found := by
    rcases update_some found with ⟨_, entered⟩ | ⟨_, kept⟩
    · contradiction
    · refine (consistent.ready other call kept).frame Set.subset_union_left (fun _ _ => rfl) ?_
      intro storyId known absent
      simp only [StoryStoreMem.insertStory_get?]
      rw [if_neg, absent]
      rintro rfl
      exact (consistent.ids.creates client _ _ running rfl).2 known
  owned storyId packRef held := by
    simp only [StoryStoreMem.insertStory_get?]
    by_cases own : bundle.instanceSpec.storyId = storyId
    · exact .inl ⟨_, if_pos own⟩
    · rw [if_neg own]
      rcases consistent.owned storyId packRef held with stored | ⟨other, owner, found, owns⟩
      · exact .inl stored
      · refine .inr ⟨other, owner, keep_owner found ?_, owns⟩
        rintro rfl
        cases running.symm.trans found
        exact own (Option.some.inj owns)

theorem Consistent.creating_fails (consistent : Consistent config ledger world)
    (running : world.calls client = some (.creating bundle)) :
    Consistent config ledger
      { world with
        calls := Function.update world.calls client
          (some (.compensating bundle.instanceSpec.storyId error)) } where
  sound := consistent.sound
  ids := consistent.ids.update (by
    rintro after storyId entered creates
    cases entered
    exact ⟨_, running, creates⟩)
  retained := consistent.retained
  ready other call found := by
    rcases update_some found with ⟨_, entered⟩ | ⟨_, kept⟩
    · cases entered
      trivial
    · exact (consistent.ready other call kept).frame subset_rfl (fun _ _ => rfl) (fun _ _ h => h)
  owned storyId packRef held := by
    rcases consistent.owned storyId packRef held with stored | ⟨other, owner, found, owns⟩
    · exact .inl stored
    · by_cases here : other = client
      · subst here
        cases running.symm.trans found
        exact .inr ⟨other, .compensating bundle.instanceSpec.storyId error,
          Function.update_self _ _ _, owns⟩
      · exact .inr ⟨other, owner, keep_owner found here, owns⟩

/-- A release by a call that owns the id of no stored story and no other creation. -/
theorem Consistent.released (consistent : Consistent config ledger world)
    (running : world.calls client = some call) (owns : call.owns = some storyId)
    (absent : world.store.storyStore.stories[storyId]? = none)
    (alone : ∀ other after, other ≠ client → world.calls other = some after →
      after.creates ≠ some storyId) :
    Consistent config (ledger.release storyId)
      { world with
        store := { world.store with
          packStore := ((PackStoreMem.release storyId).call world.store.packStore).2 }
        calls := Function.update world.calls client none } where
  sound := consistent.sound.released storyId
  ids := consistent.ids.update (by simp)
  retained other story found := by
    obtain ⟨held, known⟩ := consistent.retained other story found
    refine ⟨?_, known⟩
    rw [Lease.Ledger.held_release, if_neg, held]
    rintro rfl
    simp [absent] at found
  ready other after found := by
    rcases update_some found with ⟨_, entered⟩ | ⟨different, kept⟩
    · contradiction
    · refine (consistent.ready other after kept).frame subset_rfl ?_ (fun _ _ h => h)
      intro created creates
      rw [Lease.Ledger.held_release, if_neg]
      rintro rfl
      exact alone other after different kept creates
  owned other packRef held := by
    rw [Lease.Ledger.held_release] at held
    split at held
    · contradiction
    · rename_i different
      rcases consistent.owned other packRef held with stored | ⟨owner, after, found, owned⟩
      · exact .inl stored
      · refine .inr ⟨owner, after, keep_owner found ?_, owned⟩
        rintro rfl
        cases running.symm.trans found
        exact different (Option.some.inj (owns.symm.trans owned))

theorem Consistent.removing (consistent : Consistent config ledger world)
    (running : world.calls client = some (.removing storyId))
    (stories : ∀ other : StoryId, storyStore.stories[other]? =
      if storyId = other then none else world.store.storyStore.stories[other]?) :
    Consistent config ledger
      { world with
        store := { world.store with storyStore }
        calls := Function.update world.calls client (some (.releasing storyId)) } where
  sound := consistent.sound
  ids := consistent.ids.update (by
    rintro after storyId entered creates
    cases entered
    contradiction)
  retained other story found := by
    simp only [stories] at found
    split at found
    · contradiction
    · exact consistent.retained other story found
  ready other call found := by
    rcases update_some found with ⟨_, entered⟩ | ⟨_, kept⟩
    · cases entered
      exact ⟨consistent.ready client _ running, (stories storyId).trans (if_pos rfl)⟩
    · refine (consistent.ready other call kept).frame subset_rfl (fun _ _ => rfl) ?_
      intro other _ absent
      simp only [stories, absent, ite_self]
  owned other packRef held := by
    by_cases own : storyId = other
    · exact .inr ⟨client, .releasing storyId, Function.update_self _ _ _, congrArg some own⟩
    · simp only [stories, if_neg own]
      rcases consistent.owned other packRef held with stored | ⟨owner, after, found, owns⟩
      · exact .inl stored
      · refine .inr ⟨owner, after, keep_owner found ?_, owns⟩
        rintro rfl
        cases running.symm.trans found
        contradiction

theorem Consistent.advances (consistent : Consistent config ledger world)
    (running : world.calls client = some call) :
    ∃ ledger', Consistent config ledger' (world.advance now client call) := by
  cases call with
  | retaining bundle =>
    rcases result : (PackStoreMem.retain bundle.instanceSpec.storyId bundle.snapshot).call
      world.store.packStore with ⟨error | granted, packStore⟩
    · cases PackStoreMem.retain_error result
      simp only [World.advance, StoreCall.advance, result, Progress.call, Progress.returns, Set.union_empty]
      exact ⟨ledger, consistent.retaining_fails running⟩
    · simp only [World.advance, StoreCall.advance, result, Progress.call, Progress.returns, Set.union_empty]
      exact ⟨_, consistent.retaining_succeeds running result⟩
  | creating bundle =>
    have created := StoryStoreMem.create_call now bundle.instanceSpec world.store.storyStore
    refine ⟨ledger, ?_⟩
    split at created
    · simp only [World.advance, StoreCall.advance, created, Progress.call, Progress.returns, Set.union_empty]
      exact consistent.creating_fails running
    · split at created
      · simp only [World.advance, StoreCall.advance, created, Progress.call, Progress.returns, Set.union_empty]
        exact consistent.creating_fails running
      · simp only [World.advance, StoreCall.advance, created, Progress.call, Progress.returns]
        exact consistent.creating_succeeds running
  | compensating storyId createSource =>
    have unknown := (consistent.ids.creates client _ storyId running rfl).2
    have absent : world.store.storyStore.stories[storyId]? = none := by
      by_contra stored
      obtain ⟨story, found⟩ := Option.ne_none_iff_exists'.mp stored
      exact unknown (consistent.retained storyId story found).2
    simp only [World.advance, StoreCall.advance, PackStoreMem.release_call, Progress.call, Progress.returns, Set.union_empty]
    refine ⟨_, consistent.released running rfl absent ?_⟩
    intro other after different kept creates
    exact different (consistent.ids.apart other client _ _ storyId kept running creates rfl)
  | removing storyId =>
    have removed := StoryStoreMem.remove_call storyId world.store.storyStore
    refine ⟨ledger, ?_⟩
    split at removed
    · simp only [World.advance, StoreCall.advance, removed, Progress.call, Progress.returns, Set.union_empty]
      exact consistent.removing running (fun other => OrdMap.get_erase storyId other)
    · rename_i absent
      simp only [World.advance, StoreCall.advance, removed, Progress.call, Progress.returns, Set.union_empty]
      refine consistent.removing running fun other => ?_
      split
      · rename_i own
        subst own
        simpa using absent
      · rfl
  | releasing storyId =>
    obtain ⟨known, absent⟩ := consistent.ready client _ running
    simp only [World.advance, StoreCall.advance, PackStoreMem.release_call, Progress.call, Progress.returns, Set.union_empty]
    refine ⟨_, consistent.released running rfl absent ?_⟩
    intro other after _ kept creates
    exact (consistent.ids.creates other after storyId kept creates).2 known

theorem Consistent.commits (consistent : Consistent config ledger world) (now : DateTime)
    (turn : StoryCommit) : Consistent config ledger (world.commit now turn) := by
  -- A commit neither adds nor drops a story, and never changes its pack reference.
  have stories : ∀ storyId : StoryId,
      (world.commit now turn).store.storyStore.stories[storyId]?.map (·.context.packRef) =
        world.store.storyStore.stories[storyId]?.map (·.context.packRef) :=
    StoryStoreMem.commit_packRefs now turn world.store.storyStore
  refine ⟨consistent.sound, consistent.ids, ?_, ?_, ?_⟩
  · intro storyId after found
    have same := stories storyId
    rw [found] at same
    obtain ⟨story, stored, packRef⟩ := Option.map_eq_some_iff.mp same.symm
    have kept : story.context.packRef = after.context.packRef := packRef
    rw [← kept]
    exact consistent.retained storyId story stored
  · intro client call found
    refine (consistent.ready client call found).frame subset_rfl (fun _ _ => rfl) ?_
    intro storyId _ absent
    have same := stories storyId
    rw [absent] at same
    exact Option.map_eq_none_iff.mp same
  · intro storyId packRef held
    rcases consistent.owned storyId packRef held with ⟨story, stored⟩ | owner
    · have same := stories storyId
      rw [stored] at same
      obtain ⟨after, found, _⟩ := Option.map_eq_some_iff.mp same
      exact .inl ⟨after, found⟩
    · exact .inr owner

theorem Consistent.step {before after : World}
    (consistent : ∃ ledger, Consistent config ledger before) (step : Step before after) :
    ∃ ledger, Consistent config ledger after := by
  obtain ⟨ledger, consistent⟩ := consistent
  cases step with
  | createStarts idle fresh => exact ⟨ledger, consistent.createStarts idle fresh⟩
  | removeStarts idle known => exact ⟨ledger, consistent.removeStarts idle known⟩
  | advances now running => exact consistent.advances running
  | commits now turn => exact ⟨ledger, consistent.commits now turn⟩

/-- The snapshot behind a lease. -/
theorem Consistent.snapshot (consistent : Consistent config ledger world)
    (held : ledger.held storyId = some packRef) :
    world.store.packStore.snapshots.holders[storyId]? = some packRef.digest ∧
    ∃ snapshot, world.store.packStore.snapshots.packs[packRef.digest]? = some snapshot ∧
      snapshot.packRef = packRef ∧ storyId ∈ snapshot.holders ∧
      world.store.packStore.getPack packRef = .ok snapshot.value := by
  obtain ⟨_, counted⟩ := consistent.sound
  obtain ⟨snapshot, found, rfl⟩ := counted.kept storyId packRef held
  refine ⟨by rw [counted.held, held, Option.map_some], snapshot, found, rfl, ?_, ?_⟩
  · exact (counted.shared _ snapshot found storyId).mpr held
  · exact (counted.get_ok_iff _ _).mpr ⟨⟨storyId, held⟩, counted.original _ snapshot found⟩

/-- No interleaving leaves a story without its pack, and when nothing is in flight
the holders are exactly the stories. -/
theorem stories_hold_their_packs
    (run : Transition.Reaches Step (World.initial storyConfig packConfig) world) :
    (∀ (storyId : StoryId) (story : StoredStory),
      world.store.storyStore.stories[storyId]? = some story →
      world.store.packStore.snapshots.holders[storyId]? = some story.context.packRef.digest ∧
      ∃ snapshot : Snapshot,
        world.store.packStore.snapshots.packs[story.context.packRef.digest]? = some snapshot ∧
        snapshot.packRef = story.context.packRef ∧ storyId ∈ snapshot.holders ∧
        world.store.packStore.getPack story.context.packRef = .ok snapshot.value) ∧
    ((∀ client, world.calls client = none) → ∀ storyId : StoryId,
      storyId ∈ world.store.packStore.snapshots.holders ↔
        storyId ∈ world.store.storyStore.stories) := by
  have initial : ∃ ledger, Consistent packConfig ledger (World.initial storyConfig packConfig) :=
    ⟨_, .initial storyConfig packConfig⟩
  obtain ⟨ledger, consistent⟩ := Transition.invariant
    (P := fun world => ∃ ledger, Consistent packConfig ledger world) Consistent.step run initial
  constructor
  · intro storyId story found
    exact consistent.snapshot (consistent.retained storyId story found).1
  · intro idle storyId
    simp only [OrdMap.mem_iff_exists]
    constructor
    · rintro ⟨digest, holder⟩
      rw [consistent.sound.2.held] at holder
      obtain ⟨packRef, held, _⟩ := Option.map_eq_some_iff.mp holder
      rcases consistent.owned storyId packRef held with stored | ⟨client, call, found, _⟩
      · exact stored
      · simp [idle client] at found
    · rintro ⟨story, found⟩
      exact ⟨_, (consistent.snapshot (consistent.retained storyId story found).1).1⟩

end World

namespace Sample

def bareBundle : StoryCreateBundle := ⟨⟨packRef, pack⟩, spec, rfl⟩

/-- One creation, step by step. -/
def asked : World :=
  { (World.initial {} {}).enter 0 (.retaining bareBundle) with
    used := insert bareBundle.instanceSpec.storyId ∅ }
def leased : World := asked.advance now 0 (.retaining bareBundle)
def stored : World := leased.advance now 0 (.creating bareBundle)

end Sample

namespace World

theorem stories_hold_their_packs_sample :
    ∃ story, Sample.stored.store.storyStore.stories[Sample.storyId]? = some story ∧
      ∃ pack, Sample.stored.store.packStore.getPack story.context.packRef = .ok pack := by
  have asked : Transition.Reaches Step (World.initial {} {}) Sample.asked :=
    .single (.createStarts rfl (Set.notMem_empty _))
  have leased : Transition.Reaches Step (World.initial {} {}) Sample.leased :=
    asked.tail (.advances Sample.now rfl)
  have stored : Transition.Reaches Step (World.initial {} {}) Sample.stored :=
    leased.tail (.advances Sample.now rfl)
  have present : Sample.stored.store.storyStore.stories[Sample.storyId]?.isSome = true := by decide
  obtain ⟨story, found⟩ := Option.isSome_iff_exists.mp present
  obtain ⟨_, snapshot, _, _, _, got⟩ :=
    (stories_hold_their_packs stored).1 Sample.storyId story found
  exact ⟨story, found, snapshot.value, got⟩

end World
end Aise
