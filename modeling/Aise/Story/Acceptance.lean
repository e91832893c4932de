import Aise.Persistence.CommitRows
import Aise.Story.FactValues
import Aise.Validation.HighWater
import Aise.Validation.Targets

/-! The store accepts what was validated. The validators check a turn on the snapshot, the store
checks every change again on rows that change with each. -/
namespace Aise.Domain.Persistence
open SerdeJson

/-! ### What was retrieved -/

/-- What the contexts of a turn show are entries of the story. -/
structure ReadFrom (turn : CandidateTurn) (story : StoredStory) : Prop where
  baselineFacts : ∀ baseline ∈ turn.baseline, ∀ item ∈ baseline.relevantWorldKnowledge.facts,
    ∃ fact : WorldFact, story.knowledge[item.sourceId]? = some (.fact fact)
  baselineRumors : ∀ baseline ∈ turn.baseline, ∀ item ∈ baseline.relevantWorldKnowledge.rumors,
    ∃ rumor : SharedRumor, story.knowledge[item.sourceId]? = some (.rumor rumor)
  facts : ∀ item ∈ turn.retrieved.world.facts,
    ∃ fact : WorldFact, story.knowledge[item.sourceId]? = some (.fact fact)
  rumors : ∀ item ∈ turn.retrieved.world.rumors,
    ∃ rumor : SharedRumor, story.knowledge[item.sourceId]? = some (.rumor rumor)
  knownRumors : ∀ (roleId : RoleId) (character : RetrievedCharacterContext),
    turn.retrieved.characters[roleId]? = some character → ∀ item ∈ character.knownRumors,
      ∃ rumor : SharedRumor, story.knowledge[item.sourceId]? = some (.rumor rumor)
  memories : ∀ (roleId : RoleId) (character : RetrievedCharacterContext),
    turn.retrieved.characters[roleId]? = some character → ∀ item ∈ character.memories,
      ∃ memory : MemoryEntry, story.knowledge[item.sourceId]? = some (.memory memory) ∧
        memory.owner = roleId

section
variable {turn : CandidateTurn} {story : StoredStory} (read : ReadFrom turn story)
include read

theorem ReadFrom.existingFact {target : KnowledgeId .fact} {existing : RetrievedKnowledgeItem}
    (found : existingFact turn.retrieved target = some existing) :
    ∃ fact : WorldFact, story.knowledge[target.1]? = some (.fact fact) := by
  have same := List.find?_some found
  rw [decide_eq_true_eq] at same
  rw [← same]
  exact read.facts existing (List.mem_of_find?_eq_some found)

theorem ReadFrom.existingRumor {target : KnowledgeId .rumor} {existing : RetrievedKnowledgeItem}
    (found : existingRumor turn.retrieved target = some existing) :
    ∃ rumor : SharedRumor, story.knowledge[target.1]? = some (.rumor rumor) := by
  have same := List.find?_some found
  rw [decide_eq_true_eq] at same
  rw [← same]
  have member := List.mem_of_find?_eq_some found
  rcases List.mem_append.mp member with world | known
  · exact read.rumors existing world
  · obtain ⟨character, among, member⟩ := List.mem_flatMap.mp known
    obtain ⟨roleId, stored⟩ := mem_valuesOf.mp among
    exact read.knownRumors roleId character stored existing member

theorem ReadFrom.existingMemory {target : KnowledgeId .memory} {owner : RoleId} {salience : UInt8}
    (found : existingMemory turn.retrieved target = some (owner, salience)) :
    ∃ memory : MemoryEntry, story.knowledge[target.1]? = some (.memory memory) ∧
      memory.owner = owner := by
  obtain ⟨⟨roleId, character⟩, among, here⟩ := List.exists_of_findSome?_eq_some found
  obtain ⟨item, held, same⟩ := Option.map_eq_some_iff.mp here
  cases same
  have named := List.find?_some held
  rw [decide_eq_true_eq] at named
  rw [← named]
  exact read.memories owner character (Std.ExtTreeMap.mem_toList_iff_getElem?_eq_some.mp among) item
    (List.mem_of_find?_eq_some held)

end


/-! ### Identifiers that were given out -/

/-- No identifier is beyond the high water of its kind. -/
structure StoredStory.Within (uuids : UuidReader) (story : StoredStory) : Prop where
  knowledge : ∀ id ∈ story.knowledge, id.sequence ≤ story.knowledgeIdHighWater.get.toNat
  roles : ∀ roles, (storyRolesCodec uuids).decode story.rolesJson = some roles →
    ∀ roleId ∈ roles, ∀ sequence ∈ roleId.dynamicSequence,
      sequence ≤ story.roleIdHighWater.get.toNat

instance (uuids : UuidReader) (story : StoredStory) : Decidable (story.Within uuids) :=
  decidable_of_iff
    ((∀ id ∈ story.knowledge.keys, id.sequence ≤ story.knowledgeIdHighWater.get.toNat) ∧
      ∀ roles ∈ (storyRolesCodec uuids).decode story.rolesJson, ∀ roleId ∈ roles.keys,
        ∀ sequence ∈ roleId.dynamicSequence, sequence ≤ story.roleIdHighWater.get.toNat)
    ⟨fun ⟨knowledge, roles⟩ =>
      ⟨fun id member => knowledge id (Std.ExtTreeMap.mem_keys.mpr member),
        fun stored read roleId member => roles stored read roleId (Std.ExtTreeMap.mem_keys.mpr member)⟩,
    fun within =>
      ⟨fun id member => within.knowledge id (Std.ExtTreeMap.mem_keys.mp member),
        fun stored read roleId member =>
          within.roles stored read roleId (Std.ExtTreeMap.mem_keys.mp member)⟩⟩

section
variable {uuids : UuidReader} {externals : Externals}
  {engine : RegexEngine} {story : StoredStory} {snapshot : StorySnapshot} {turn : CandidateTurn}
  {dto : StoryStateExtractionDto} {state : StateParts}
  {roles : BTreeMap RoleId StoryRole}

/-! ### Roles -/

theorem StoredRoles.mem_iff (same : snapshot.roles = roles.map fun _ role => role.view)
    {roleId : RoleId} : roleId ∈ snapshot.roles ↔ roleId ∈ roles := by
  rw [same, Std.ExtTreeMap.mem_map]

theorem newRoles_names (built : StateBuiltFrom externals engine turn dto snapshot state) :
    state.newRoles.map (·.roleId.value) = dto.newRoles.map (·.roleId) := by
  refine Result.map_of_forall₂ _ _ (Result.mapM_eq_ok built.newRoles) fun draft _ role made => ?_
  exact RoleId.tryNew_eq_some.mp (buildNewRole_eq_ok made).named

/-- The new roles are none of the story, and no two are the same. -/
theorem fresh_newRoles (clean : Clean turn dto snapshot)
    (built : StateBuiltFrom externals engine turn dto snapshot state)
    (same : snapshot.roles = roles.map fun _ role => role.view) :
    Distinct.Fresh (·.roleId) roles.keys state.newRoles := by
  constructor
  · refine List.Nodup.of_map RoleId.value ?_
    rw [List.map_map]
    show (state.newRoles.map (·.roleId.value)).Nodup
    rw [newRoles_names built]
    exact clean.schema.newRoles.1
  · intro role member among
    obtain ⟨draft, drafted, made⟩ :=
      Result.exists_of_forall₂ (Result.mapM_eq_ok built.newRoles) member
    obtain ⟨roleId, named, absent, _⟩ := clean.references.newRoles draft drafted
    cases named.symm.trans (buildNewRole_eq_ok made).named
    rw [StoredRoles.mem_iff same] at absent
    exact absent (Std.ExtTreeMap.mem_keys.mp among)

/-- A role that an extraction knows is a role of the story or a new one. -/
theorem mem_of_resolvesTo (built : StateBuiltFrom externals engine turn dto snapshot state)
    {raw : String} {roleId : RoleId} (resolves : resolvesTo (knownRoles snapshot dto) raw = true)
    (named : RoleId.tryNew raw = some roleId) :
    roleId ∈ snapshot.roles ∨ ∃ role ∈ state.newRoles, role.roleId = roleId := by
  rw [resolvesTo, named, Option.any_some, decide_eq_true_eq, knownRoles, List.mem_append,
    Std.ExtTreeMap.mem_keys, List.mem_filterMap] at resolves
  refine resolves.imp_right ?_
  rintro ⟨draft, drafted, given⟩
  have each := Result.mapM_eq_ok built.newRoles
  obtain ⟨role, member, made⟩ := Result.exists_of_forall₂ each.flip drafted
  refine ⟨role, member, ?_⟩
  exact Option.some.inj ((buildNewRole_eq_ok made).named.symm.trans given)

theorem commitRoles_total {changes : ValidatedChangeSet} (clean : Clean turn dto snapshot)
    (built : StateBuiltFrom externals engine turn dto snapshot state)
    (read : (storyRolesCodec uuids).decode story.rolesJson = some roles)
    (same : snapshot.roles = roles.map fun _ role => role.view)
    (newRoles : changes.newRoles = state.newRoles)
    (roleChanges : changes.roleChanges = state.roleChanges) :
    ∃ committed, commitRoles uuids story changes = .ok committed ∧
      ∀ roleId, roleId ∈ committed ↔ roleId ∈ roles ∨ ∃ role ∈ state.newRoles, role.roleId = roleId := by
  obtain ⟨added, addedOk⟩ := addNewRoles_total (fresh_newRoles clean built same)
  have members : ∀ roleId, roleId ∈ added ↔
      roleId ∈ roles ∨ ∃ role ∈ state.newRoles, role.roleId = roleId := by
    intro roleId
    rw [Std.ExtTreeMap.mem_iff_isSome_getElem?, (addNewRoles_eq_ok addedOk).2, Option.isSome_or,
      Bool.or_eq_true, List.find?_isSome, or_comm, ← Std.ExtTreeMap.mem_iff_isSome_getElem?]
    simp
  have known : ∀ change ∈ state.roleChanges, change.roleId ∈ added := by
    intro change member
    obtain ⟨draft, drafted, made⟩ :=
      Result.exists_of_forall₂ (Result.mapM_eq_ok built.roleChanges) member
    obtain ⟨resolves, _⟩ := clean.references.roleStates draft drafted
    rw [members, ← StoredRoles.mem_iff same]
    exact mem_of_resolvesTo built resolves (buildRoleChange_eq_ok made).named
  obtain ⟨committed, changed⟩ := applyRoleChanges_total known
  refine ⟨committed, ?_, fun roleId => ?_⟩
  · rw [commitRoles, read, newRoles, roleChanges]
    simp only [Result.okOr, bind, Except.bind, addedOk]
    exact changed
  · rw [applyRoleChanges_keys changed, members]

/-! ### Relationships -/

theorem mem_relationshipsByKey {relationships : List RelationshipState} {state : RelationshipState} :
    state.orderedKey ∈ relationshipsByKey relationships ↔
      relationships.any (·.key = state.key) = true := by
  rw [relationshipsByKey, OrdMap.mem_insertAll, List.mem_map, List.any_eq_true]
  constructor
  · rintro (⟨other, member, same⟩ | absurd)
    · exact ⟨other, member, decide_eq_true (orderKey_inj same)⟩
    · cases Std.ExtTreeMap.not_mem_empty absurd
  · rintro ⟨other, member, same⟩
    exact .inl ⟨other, member, congrArg orderKey (of_decide_eq_true same)⟩

theorem relationshipOperation_applies {relationships : List RelationshipState}
    {relationship : RelationshipStateDto} {operation : ValidatedRelationshipOperation}
    (made : RelationshipFrom relationships relationship operation) :
    RelationshipApplies (relationshipsByKey relationships) operation := by
  rw [made.operation]
  split
  · rename_i known
    exact ⟨rfl, mem_relationshipsByKey.mpr known⟩
  · rename_i unknown
    exact fun among => unknown (mem_relationshipsByKey.mp among)

theorem commitRelationships_total {changes : ValidatedChangeSet} (clean : Clean turn dto snapshot)
    (built : StateBuiltFrom externals engine turn dto snapshot state)
    (read : relationshipsCodec.decode story.relationshipsJson = some snapshot.relationships)
    (operations : changes.relationshipOperations = state.relationshipOperations) :
    ∃ relationships, commitRelationships story changes = .ok relationships := by
  have each := (Result.mapM_eq_ok built.relationships).imp fun _ _ => buildRelationshipOperation_eq_ok
  have distinct : (state.relationshipOperations.map (·.newState.orderedKey)).Nodup := by
    refine List.pairwise_map.mpr (Result.pairwise_of_forall₂ each
      (List.pairwise_map.mp clean.schema.relationships.1) ?_)
    intro relationship operation other last made later apart same
    have keys : operation.newState.key = last.newState.key := orderKey_inj same
    obtain ⟨source, target, kind⟩ : operation.newState.sourceRoleId = last.newState.sourceRoleId ∧
        operation.newState.targetRoleId = last.newState.targetRoleId ∧
        operation.newState.kind = last.newState.kind := by
      simpa [RelationshipState.key] using keys
    obtain ⟨sources, targets, kinds⟩ := made.named
    obtain ⟨otherSources, otherTargets, otherKinds⟩ := later.named
    refine apart ?_
    rw [RelationshipStateDto.key, RelationshipStateDto.key, sources, targets, kinds, otherSources,
      otherTargets, otherKinds, source, target, kind]
  obtain ⟨rows, applied⟩ := applyRelationshipOperations_total distinct (by
    intro operation member
    obtain ⟨relationship, _, made⟩ := Result.exists_of_forall₂ each member
    exact relationshipOperation_applies made)
  refine ⟨valuesOf rows, ?_⟩
  rw [commitRelationships, read, operations]
  simp only [Result.okOr, bind, Except.bind, applied]
  rfl

/-! ### Knowledge -/

section
variable {parts : KnowledgeParts} {allocation : KnowledgeIdAllocation}
  {operation : ValidatedKnowledgeOperation}

/-- What an operation was made of is in the rows, and what it adds is not. -/
theorem madeOf_applies (within : story.Within uuids) (read : ReadFrom turn story)
    (fresh : ∀ entry ∈ parts.added, story.knowledgeIdHighWater.get.toNat < entry.sourceId.sequence)
    (made : MadeOf turn.enrichmentContext parts operation) :
    KnowledgeApplies story.knowledge operation := by
  cases made with
  | added member =>
    intro among
    have past := within.knowledge _ among
    have future := fresh _ member
    omega
  | @updatedFact target _ _ found =>
    obtain ⟨fact, stored⟩ := read.existingFact found
    exact ⟨target.2, _, stored, rfl, rfl⟩
  | @updatedRumor target _ _ found =>
    obtain ⟨rumor, stored⟩ := read.existingRumor found
    exact ⟨target.2, _, stored, rfl, rfl⟩
  | deletedRumor found =>
    obtain ⟨rumor, stored⟩ := read.existingRumor found
    exact OrdMap.mem_iff_exists.mpr ⟨_, stored⟩
  | @updatedMemory target _ _ _ found owned =>
    obtain ⟨memory, stored, owner⟩ := read.existingMemory found
    exact ⟨target.2, _, stored, rfl, congrArg some (owner.trans owned.symm)⟩
  | deletedMemory found =>
    obtain ⟨memory, stored, _⟩ := read.existingMemory found
    exact OrdMap.mem_iff_exists.mpr ⟨_, stored⟩

end

/-- The mutations of a valid turn can be made, and no identifier is beyond the new high water. -/
theorem applyKnowledgeMutations_total {changes : ValidatedChangeSet}
    (clean : Clean turn dto snapshot)
    (built : StateBuiltFrom externals engine turn dto snapshot state)
    (within : story.Within uuids) (read : ReadFrom turn story)
    (highWater : snapshot.knowledgeIdHighWater = story.knowledgeIdHighWater.get)
    (mutations : changes.knowledgeMutations = state.knowledgeMutations) :
    ∃ next, applyKnowledgeMutations story.knowledge changes.knowledgeMutations = .ok next ∧
      ∀ id ∈ next, id.sequence ≤ state.knowledgeIdHighWater.toNat := by
  obtain ⟨parts, allocation, allocated, same, operations, enriched⟩ :=
    enrichExtractedKnowledge_eq_ok built.knowledge
  obtain ⟨above, distinct, fresh⟩ := allocateKnowledgeIds_fresh allocated
  have added : ∀ entry ∈ parts.added, entry.sourceId ∈ allocation.assigned := by
    obtain ⟨rest, taken⟩ := enriched.taken
    intro entry member
    rw [taken]
    exact List.mem_append_left _ (List.mem_map_of_mem member)
  rw [highWater] at above fresh
  have applies : ∀ operation ∈ parts.operations, KnowledgeApplies story.knowledge operation :=
    fun operation member =>
      madeOf_applies within read (fun entry among => (fresh _ (added entry among)).1)
        (enriched.madeOf member)
  obtain ⟨next, applied⟩ :=
    applyKnowledgeOperations_total (enriched.independent clean.schema distinct) applies
  refine ⟨next, ?_, fun id member => ?_⟩
  · rw [applyKnowledgeMutations_eq, mutations, operations, applied]
  · rw [same]
    rcases mem_of_applyKnowledgeOperations applied member with before | ⟨operation, among, takes⟩
    · exact le_trans (within.knowledge id before) (UInt64.le_iff_toNat_le.mp above)
    · have taken := List.mem_filterMap.mpr ⟨operation, among, takes⟩
      rw [enriched.filterMap_takes] at taken
      obtain ⟨entry, drafted, rfl⟩ := List.mem_map.mp taken
      exact (fresh _ (added entry drafted)).2

/-! ### Events -/

/-- New events are all of a turn that is still to come, so their identifiers are new. -/
theorem insertEvents_error {turnNumber : TurnNumber} {recorded events : List StoryEvent}
    {failure : StoreError} (distinct : (events.map (·.id)).Nodup)
    (fresh : ∀ event ∈ events, event.turnNumber = turnNumber → event.id ∉ recorded.map (·.id))
    (failed : insertEvents turnNumber recorded events = .error failure) :
    failure = .constraintViolation "event_turn_reference" := by
  induction events generalizing recorded with
  | nil => cases failed
  | cons event rest ih =>
    obtain ⟨once, distinct⟩ := List.nodup_cons.mp distinct
    obtain ⟨here, later⟩ := List.forall_mem_cons.mp fresh
    rw [insertEvents, List.foldlM_cons] at failed
    rcases Result.bind_eq_error failed with now | ⟨next, inserted, failed⟩
    · split at now
      · cases now
        rfl
      · rename_i same
        rw [if_neg (here (not_not.mp same))] at now
        cases now
    · split at inserted
      · cases inserted
      · split at inserted
        · cases inserted
        · cases inserted
          refine ih distinct (fun other member same among => ?_) failed
          rw [List.map_append, List.mem_append, List.map_singleton, List.mem_singleton] at among
          rcases among with before | again
          · exact later other member same before
          · exact once (List.mem_map.mpr ⟨other, member, again⟩)

theorem nodup_madeEvents {storyId : StoryId} {turnNumber : TurnNumber}
    {intents : List WorldEventIntent} {events : List StoryEvent}
    (made : intents.zipIdx.mapM (makeEvent storyId turnNumber) = .ok events) :
    (events.map (·.id)).Nodup := by
  have positions : (intents.zipIdx).Pairwise fun entry other => entry.2 ≠ other.2 := by
    rw [← List.pairwise_map, List.zipIdx_map_snd]
    exact List.nodup_range'
  refine List.pairwise_map.mpr (Result.pairwise_of_forall₂ (Result.mapM_eq_ok made) positions ?_)
  intro entry event other last first later apart same
  rw [(makeEvent_eq_ok first).1, (makeEvent_eq_ok later).1] at same
  exact apart (eventId_inj same).2.2

/-- An event of a later turn is none of those that were recorded. -/
theorem event_not_recorded {event : StoryEvent}
    (future : story.lastTurnNumber.get.toNat < event.turnNumber.get.toNat) :
    event.id ∉ story.events.map (·.id) := by
  intro among
  obtain ⟨other, recorded, same⟩ := List.mem_map.mp among
  have past := story.eventsPast other recorded
  obtain ⟨storyId, index, named⟩ := event.named
  obtain ⟨otherStory, position, otherNamed⟩ := other.named
  rw [named, otherNamed] at same
  have turns := (eventId_inj same).2.1
  omega

/-! ### High waters -/

/-- The new roles take the numbers from the high water of the snapshot up to the new one. -/
theorem numbered_newRole (clean : Clean turn dto snapshot)
    (built : StateBuiltFrom externals engine turn dto snapshot state) {role : StoryRole}
    (member : role ∈ state.newRoles) : ∃ sequence, role.roleId.dynamicSequence = some sequence ∧
      snapshot.roleIdHighWater.toNat < sequence ∧ sequence ≤ (Saturating.add snapshot.roleIdHighWater
        (Saturating.clamp64 state.newRoles.length)).toNat := by
  have each := Result.mapM_eq_ok built.newRoles
  obtain ⟨draft, drafted, made⟩ := Result.exists_of_forall₂ each member
  rcases clean.domain.candidates with none | ⟨pool, allocated, placed⟩
  · rw [none] at drafted
    cases drafted
  · obtain ⟨index, found⟩ := List.mem_iff_getElem?.mp drafted
    obtain ⟨roleId, named, position⟩ := placed index draft found
    cases (buildNewRole_eq_ok made).named.symm.trans named
    obtain ⟨inside, same⟩ := dynamicSequence_of_candidate allocated position
    have bound := (allocateDynamicRoleCandidates_eq_some allocated).1 (by omega)
    refine ⟨_, same, by omega, ?_⟩
    rw [Saturating.toNat_add, Saturating.toNat_clamp64, ← each.length_eq]
    have size : UInt64.size = Saturating.max64 + 1 := rfl
    omega

theorem Commits.within {spec : TurnCommitSpec} {next : StoredStory}
    (commits : Commits uuids spec story next)
    (shows : Shows uuids story snapshot) (clean : Clean turn dto snapshot)
    (built : StateBuiltFrom externals engine turn dto snapshot state)
    (within : story.Within uuids) (read : ReadFrom turn story)
    (newRoles : spec.changes.newRoles = state.newRoles)
    (roleChanges : spec.changes.roleChanges = state.roleChanges)
    (mutations : spec.changes.knowledgeMutations = state.knowledgeMutations)
    (knowledgeHighWater : spec.changes.knowledgeIdHighWater = state.knowledgeIdHighWater)
    (roleHighWater : spec.changes.nextRoleIdHighWater =
      Saturating.add snapshot.roleIdHighWater (Saturating.clamp64 state.newRoles.length)) :
    next.Within uuids := by
  constructor
  · obtain ⟨knowledge, applied, below⟩ := applyKnowledgeMutations_total clean built within read
      shows.knowledgeHighWater mutations
    cases applied.symm.trans commits.knowledge
    rw [commits.knowledgeHighWater, knowledgeHighWater]
    exact below
  · intro back decoded roleId member sequence numbered
    obtain ⟨roles, rolesRead, same⟩ := shows.roles
    obtain ⟨committed, rolesOk, encoded⟩ := commits.roles
    obtain ⟨total, totalOk, members⟩ := commitRoles_total clean built rolesRead same newRoles roleChanges
    cases totalOk.symm.trans rolesOk
    rw [encoded] at decoded
    have among := (Codec.mem_map_back (fun _ _ => trivial) decoded roleId).mp member
    rw [members] at among
    rw [commits.roleHighWater, roleHighWater]
    rcases among with before | ⟨role, added, rfl⟩
    · have past := within.roles roles rolesRead roleId before sequence numbered
      rw [← shows.roleHighWater] at past
      rw [Saturating.toNat_add]
      have bound := Saturating.toNat_le snapshot.roleIdHighWater
      omega
    · obtain ⟨taken, same, -, below⟩ := numbered_newRole clean built added
      cases numbered.symm.trans same
      exact below

/-! ### Constraints -/

section
variable {spec : TurnCommitSpec} {constraint limit : String}

theorem following_not_constraint {value : UInt64} :
    following limit value ≠ .error (.constraintViolation constraint) := by
  unfold following
  split <;> nofun

theorem addUsage_not_constraint {total count : UInt64} :
    addUsage limit total count ≠ .error (.constraintViolation constraint) := by
  unfold addUsage
  split <;> nofun

theorem aggregateLlmUsage_not_constraint {calls : List LlmCallUsage} :
    aggregateLlmUsage calls ≠ .error (.constraintViolation constraint) := by
  intro failed
  obtain ⟨total, call, _, failed⟩ := Result.foldlM_eq_error failed
  unfold addCall at failed
  split at failed
  · rcases Result.bind_eq_error failed with failed | ⟨_, _, failed⟩
    · exact addUsage_not_constraint failed
    · rcases Result.bind_eq_error failed with failed | ⟨_, _, failed⟩
      · exact addUsage_not_constraint failed
      · rcases Result.bind_eq_error failed with failed | ⟨_, _, failed⟩
        · exact addUsage_not_constraint failed
        · cases failed
  · cases failed

theorem commitNarrative_not_constraint {before : NarrativeRuntimeState} :
    commitNarrative spec before ≠ .error (.constraintViolation constraint) := by
  unfold commitNarrative
  dsimp only
  split
  · nofun
  · intro failed
    rcases Result.bind_eq_error failed with failed | ⟨_, _, failed⟩
    · obtain ⟨current, transition, _, failed⟩ := Result.foldlM_eq_error failed
      unfold applyTransition at failed
      split at failed
      · cases failed
      · cases failed
    · cases failed

/-- Before it writes, a commit breaks no constraint but those of roles and relationships. -/
theorem planCommit_constraint
    (failed : planCommit uuids spec story = .error (.constraintViolation constraint)) :
    commitRoles uuids story spec.changes = .error (.constraintViolation constraint) ∨
      commitRelationships story spec.changes = .error (.constraintViolation constraint) := by
  unfold planCommit at failed
  dsimp only at failed
  split at failed
  · cases failed
  · rcases Result.bind_eq_error failed with numbered | ⟨_, _, failed⟩
    · rcases Result.bind_eq_error (Result.attach_eq_error.mp numbered) with next | ⟨_, _, same⟩
      · cases following_not_constraint next
      · split at same <;> cases same
    · rcases Result.bind_eq_error failed with revised | ⟨_, _, failed⟩
      · cases following_not_constraint revised
      · rcases Result.bind_eq_error failed with sequenced | ⟨_, _, failed⟩
        · unfold nextSequenceOf at sequenced
          split at sequenced <;> cases sequenced
        · rcases Result.bind_eq_error failed with roles | ⟨_, _, failed⟩
          · exact .inl roles
          · rcases Result.bind_eq_error failed with relationships | ⟨_, _, failed⟩
            · exact .inr relationships
            · rcases Result.bind_eq_error failed with read | ⟨_, _, failed⟩
              · unfold Result.okOr at read
                split at read <;> cases read
              · rcases Result.bind_eq_error failed with narrated | ⟨_, _, failed⟩
                · cases commitNarrative_not_constraint narrated
                · rcases Result.bind_eq_error failed with used | ⟨_, _, failed⟩
                  · cases aggregateLlmUsage_not_constraint used
                  · cases failed

theorem commitTimedState_constraint {timed : TimedRows} {delta : PendingActivationStateDelta}
    {knowledge : KnowledgeRows}
    (failed : commitTimedState timed delta knowledge = .error (.constraintViolation constraint)) :
    constraint = "activation_timed_state_memory" := by
  rcases Result.bind_eq_error failed with failed | ⟨_, _, failed⟩
  · obtain ⟨cause, failed, same⟩ := Result.mapError_eq_error failed
    obtain ⟨rows, state, _, failed⟩ := Result.foldlM_eq_error failed
    unfold upsertState at failed
    split at failed
    · cases failed
      cases same
      rfl
    · cases failed
  · cases failed

theorem store_constraint {value : UInt64}
    (failed : StoredCount.store value = .error (.constraintViolation constraint)) :
    constraint = "275" := by
  unfold StoredCount.store at failed
  split at failed
  · cases failed
  · cases failed
    rfl

/-- What a commit can break as it writes. -/
theorem writeCommit_constraint {plan : CommitPlan spec story}
    (failed : writeCommit uuids plan = .error (.constraintViolation constraint)) :
    constraint ∈ ["275", "activation_timed_state_memory"] ∨
      insertEvents spec.turnNumber story.events spec.changes.narrativeEvents =
        .error (.constraintViolation constraint) ∨
      applyKnowledgeMutations story.knowledge spec.changes.knowledgeMutations =
        .error (.constraintViolation constraint) := by
  unfold writeCommit at failed
  rcases Result.bind_eq_error failed with stored | ⟨_, _, failed⟩
  · exact .inl (store_constraint stored ▸ List.mem_cons_self)
  · rcases Result.bind_eq_error failed with stored | ⟨_, _, failed⟩
    · exact .inl (store_constraint stored ▸ List.mem_cons_self)
    · split at failed
      · cases failed
        exact .inl List.mem_cons_self
      · rcases Result.bind_eq_error failed with recorded | ⟨_, _, failed⟩
        · exact .inr (.inl (Result.attach_eq_error.mp recorded))
        · rcases Result.bind_eq_error failed with known | ⟨_, _, failed⟩
          · exact .inr (.inr (Result.attach_eq_error.mp known))
          · rcases Result.bind_eq_error failed with timed | ⟨_, _, failed⟩
            · refine .inl ?_
              rw [commitTimedState_constraint timed]
              exact List.mem_cons_of_mem _ List.mem_cons_self
            · cases failed

end

/-! ### Acceptance -/

/-- What the store refuses in the roles, the relationships, the knowledge and the keys of a change
set. -/
def refusals : List String :=
  ["new_role_id_collision", "role_change_reference", "relationship_add_collision",
    "relationship_change_reference", "knowledge_update_target_missing",
    "knowledge_update_kind_mismatch", "knowledge_memory_owner_immutable",
    "knowledge_delete_target_missing", "1555"]

/-- A change set that was built of a valid turn breaks none of the constraints on what it changes. -/
theorem commitTurn_constraint {spec : TurnCommitSpec} {parts : CandidateParts}
    {resolution : NarrativeResolution} {constraint : String}
    (shows : Shows uuids story snapshot) (clean : Clean turn parts.extraction.state snapshot)
    (built : BuiltFrom externals engine turn spec.changes parts state resolution)
    (stated : StateBuiltFrom externals engine turn parts.extraction.state snapshot state)
    (within : story.Within uuids) (read : ReadFrom turn story)
    (failed : commitTurn uuids spec story = .error (.constraintViolation constraint)) :
    constraint ∈ ["275", "activation_timed_state_memory", "event_turn_reference"] := by
  obtain ⟨roles, rolesRead, same⟩ := shows.roles
  unfold commitTurn at failed
  split at failed
  · cases failed
  · split at failed
    · split at failed <;> cases failed
    · rcases Result.bind_eq_error failed with planned | ⟨plan, _, failed⟩
      · rcases planCommit_constraint planned with failed | failed
        · obtain ⟨committed, ok, _⟩ :=
            commitRoles_total clean stated rolesRead same built.newRoles built.roleChanges
          cases ok.symm.trans failed
        · obtain ⟨relationships, ok⟩ :=
            commitRelationships_total clean stated shows.relationships built.relationships
          cases ok.symm.trans failed
      · rcases Result.bind_eq_error failed with written | ⟨_, _, failed⟩
        · rcases writeCommit_constraint written with other | failed | failed
          · exact List.mem_append_left ["event_turn_reference"] other
          · have fresh : ∀ event ∈ spec.changes.narrativeEvents,
                event.turnNumber = spec.turnNumber → event.id ∉ story.events.map (·.id) := by
              intro event _ same
              exact event_not_recorded (same ▸ plan.follows)
            cases insertEvents_error (nodup_madeEvents built.events) fresh failed
            decide
          · obtain ⟨next, ok, _⟩ := applyKnowledgeMutations_total clean stated within read
              shows.knowledgeHighWater built.mutations
            cases ok.symm.trans failed
        · cases failed

/-- What the validators have found nothing wrong with, the store accepts: whatever the base
revision is, the change set breaks none of the constraints on what it changes, and the rows that it
leaves are again within their high waters. -/
theorem validated_change_set_accepted {limits : SnapshotLimits} {spec : TurnCommitSpec}
    {extraction : StoryStateExtractionEnvelope}
    (loaded : loadStorySnapshot limits uuids turn.storyId story = .ok snapshot)
    (held : turn.snapshot = some snapshot) (extracted : turn.extraction = some extraction)
    (within : story.Within uuids) (read : ReadFrom turn story)
    (valid : runDeterministic turn = [])
    (built : buildChangeSet externals engine turn = .ok spec.changes) :
    (∀ constraint ∈ refusals,
      commitTurn uuids spec story ≠ .error (.constraintViolation constraint)) ∧
    ∀ result next, commitTurn uuids spec story = .ok (result, next) →
      next.Within uuids := by
  have shows := loadStorySnapshot_shows loaded
  have clean := runDeterministic_eq_nil extracted held valid
  obtain ⟨parts, state, resolution, from'⟩ := buildChangeSet_eq_ok built
  obtain ⟨_, extractedOf, heldOf, _⟩ := CandidateTurn.parts_eq_ok from'.parted
  cases heldOf.symm.trans held
  cases extractedOf.symm.trans extracted
  have stated := buildStateParts_eq_ok from'.built
  constructor
  · intro constraint refused failed
    have others := commitTurn_constraint shows clean from' stated within read failed
    have apart : ∀ constraint ∈ refusals,
        constraint ∉ ["275", "activation_timed_state_memory", "event_turn_reference"] := by decide
    exact apart constraint refused others
  · intro result next committed
    by_cases fresh : story.turns.find? (·.idempotencyKey = spec.idempotencyKey) = none
    · exact (commitTurn_eq_ok fresh committed).within shows clean stated within read from'.newRoles
        from'.roleChanges from'.mutations from'.knowledgeHighWater from'.roleHighWater
    · obtain ⟨turn, found⟩ := Option.ne_none_iff_exists'.mp fresh
      unfold commitTurn at committed
      rw [found] at committed
      split at committed
      · cases committed
      · dsimp only at committed
        split at committed
        · cases committed
          exact within
        · cases committed

end

/-- A turn that is shown facts only, and those of the story. -/
theorem ReadFrom.of_facts {turn : CandidateTurn} {story : StoredStory}
    {shown : List RetrievedKnowledgeItem} (baseline : turn.baseline = none)
    (retrieved : turn.retrieved = { world := { facts := shown } })
    (known : ∀ item ∈ shown, ∃ fact : WorldFact, story.knowledge[item.sourceId]? = some (.fact fact)) :
    ReadFrom turn story := by
  have absent : ∀ roleId : RoleId, turn.retrieved.characters[roleId]? = none := by
    intro roleId
    rw [retrieved]
    exact Std.ExtTreeMap.getElem?_empty
  constructor
  · intro shown held
    rw [baseline] at held
    cases held
  · intro shown held
    rw [baseline] at held
    cases held
  · intro item member
    rw [retrieved] at member
    exact known item member
  · intro item member
    rw [retrieved] at member
    cases member
  · intro roleId character found
    rw [absent] at found
    cases found
  · intro roleId character found
    rw [absent] at found
    cases found

namespace Acceptance.Sample
open Run.Sample

/-- A traveller comes to the mill, and is liked. -/
def arrival : StoryStateExtractionDto where
  newRoles := [{
    roleId := "role_0001"
    location := "mill"
    name := "Bea"
    roleLabel := "Traveller"
    narrativeFunction := "guest" }]
  relationshipStates := [⟨"miller", "role_0001", "friend", 3⟩]
  addFacts := [{
    content := "The bridge is out."
    retrievalHint := "bridge"
    activationTerms := ["bridge"] }]

def quiet : Foundation := foundation FactValues.Sample.quiet FactValues.Sample.quiet_storable ∅

/-- The traveller comes while the river falls, which the story knows of. -/
def crossing : StoryStateExtractionDto :=
  { arrival with updateFacts := FactValues.Sample.falling.updateFacts }

/-- The first turn is accepted, with a new role, a relationship, a new fact and one that is
replaced. -/
theorem crossing_accepted : ∃ (start next : StoredStory) (turn : StoryTurn around start next),
    turn.turn.extraction.map (·.state) = some crossing ∧
      (∃ item ∈ turn.turn.retrieved.world.facts, item.sourceId = FactValues.Sample.river) ∧
      (∀ constraint ∈ refusals, commitTurn around.uuids turn.spec start ≠
        .error (.constraintViolation constraint)) ∧
      next.Within around.uuids := by
  obtain ⟨start, next, created, turn, same, checked⟩ := played_eq (FactValues.Sample.rivers none) crossing
    FactValues.Sample.seen (fun played => decide (played.start.Within around.uuids) &&
      decide (runDeterministic played.turn = []) &&
      played.start.knowledge[FactValues.Sample.river]?.any (·.kind = .fact)) (by decide +kernel)
  simp only [Bool.and_eq_true, decide_eq_true_eq] at checked
  obtain ⟨⟨within, valid⟩, known⟩ := checked
  have extracted : ∃ extraction, turn.turn.extraction = some extraction ∧
      extraction.state = crossing := by
    rw [same]
    exact ⟨_, rfl, rfl⟩
  obtain ⟨extraction, given, state⟩ := extracted
  have read : ReadFrom turn.turn start := by
    refine .of_facts (congrArg _ same) (congrArg _ same) fun item member => ?_
    cases List.mem_singleton.mp member
    obtain ⟨entry, found, isFact⟩ := (Option.any_eq_true _ _).mp known
    cases entry with
    | fact fact => exact ⟨fact, found⟩
    | rumor rumor => cases isFact
    | memory memory => cases isFact
  have owned := turn.owned
  obtain ⟨accepted, again⟩ := validated_change_set_accepted (owned ▸ turn.loaded) turn.held given within
    read valid (turn.committing ▸ turn.built)
  refine ⟨start, next, turn, ?_, ?_, accepted, again _ _ turn.committed⟩
  · rw [given, ← state]
    rfl
  · rw [same]
    exact ⟨_, List.mem_cons_self, rfl⟩

end Acceptance.Sample

end Aise.Domain.Persistence
