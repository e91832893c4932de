import Aise.Pipeline.Error

/-! Freezing a story pack into the instance a store creates. Every entry of a frozen
instance is a seed, kept under its own identifier. -/
namespace Aise

inductive EngineError where
  | storyNotActive (lifeCycle : StoryLifeCycle)
  | dependency (message : String)
  | core (error : CoreError)
  | story (error : StoryError)
  | narrative (error : NarrativeError)
  | persistence (error : PersistenceError)
  | prompt (message : String)
  | llm (error : LlmError)
  | pipeline (error : PipelineError)
  | notInitialized
  deriving DecidableEq

/-- `?` on a result whose error has a `#[from]` conversion. -/
def EngineError.lift (wrap : E → EngineError) : Except E α → Except EngineError α
  | .ok value => .ok value
  | .error error => .error (wrap error)

theorem EngineError.lift_ok {wrap : E → EngineError} {result : Except E α}
    (ok : lift wrap result = .ok value) : result = .ok value := by
  cases result with
  | ok _ => exact congrArg Except.ok (Except.ok.inj ok)
  | error _ => contradiction

/-- The part of a card that casting reads. -/
structure CharacterCard where
  profile : CharacterProfile

inductive RoleActorSpec where
  | default
  | card (actor : CharacterCard)

structure StoryCreationSpec where
  storyPack : StoryPack
  cast : BTreeMap .role RoleActorSpec
  playerId : PlayerId
  playerRole : RoleId

def validateCast (pack : StoryPack) (playerRole : RoleId) (cast : BTreeMap .role RoleActorSpec) :
    Except StoryError Unit :=
  if !pack.playableRoles.contains playerRole then .error (.roleNotPlayable (toString playerRole))
  else match cast.keys.find? (fun roleId => !pack.roles.contains roleId) with
    | some roleId => .error (.unknownRole "cast" (toString roleId))
    | none => .ok ()

def RoleActorSpec.profile (seedRole : SeedRole) : Option RoleActorSpec → CharacterProfile
  | some (.card actor) => actor.profile
  | some .default | none => seedRole.defaultProfile

/-- Each role occurs once in the pack, so `cast.remove` reads the cast as it came. -/
def freezeRoles (pack : StoryPack) (cast : BTreeMap .role RoleActorSpec) :
    BTreeMap .role RoleEntry :=
  pack.roles.map fun roleId seedRole =>
    { id := roleId
      origin := .seed
      spec := seedRole.spec
      profile := RoleActorSpec.profile seedRole cast[roleId]?
      memories := seedRole.seedMemories.map fun id body => { id, origin := .seed, body } }

def freezeFacts (pack : StoryPack) : BTreeMap .fact FactEntry :=
  pack.seedFacts.map fun id body => { id, origin := .seed, body }

def freezeRumors (pack : StoryPack) : BTreeMap .rumor RumorEntry :=
  pack.seedRumors.map fun id body => { id, origin := .seed, body }

def validateOpening (pack : StoryPack) : Except StoryError Unit :=
  if RustText.len pack.opening.value > maxOpeningBytes then
    .error (.openingTooLarge (RustText.len pack.opening.value) maxOpeningBytes)
  else .ok ()

/-- `canonical` stands for the digest of the serialized pack. -/
def freezeStory (canonical : StoryPack → Except CoreError Sha256Digest) (storyId : StoryId)
    (spec : StoryCreationSpec) : Except EngineError StoryCreateBundle := do
  let pack := spec.storyPack
  EngineError.lift .story pack.validatePlay
  EngineError.lift .narrative pack.validateNarrative
  EngineError.lift .story pack.validateRoles
  EngineError.lift .story (validateCast pack spec.playerRole spec.cast)
  EngineError.lift .story (validateOpening pack)
  let roles := freezeRoles pack spec.cast
  EngineError.lift .story (validateRuntimeRoles roles)
  let narrative := (pack.narrative.map NarrativeGraph.initialState).getD {}
  let snapshot ← EngineError.lift .core (StoryPackSnapshot.fromPack canonical pack)
  return StoryCreateBundle.assemble snapshot storyId pack.opening roles (freezeFacts pack)
    (freezeRumors pack) spec.playerId spec.playerRole narrative

/-- A frozen bundle holds the pack it was asked for and what the freezers make of it. -/
structure Freezes (storyId : StoryId) (spec : StoryCreationSpec) (bundle : StoryCreateBundle) :
    Prop where
  valid : spec.storyPack.validateNarrative = .ok ()
  pack : bundle.snapshot.pack = spec.storyPack
  storyId : bundle.instanceSpec.storyId = storyId
  roles : bundle.instanceSpec.roles = freezeRoles spec.storyPack spec.cast
  facts : bundle.instanceSpec.facts = freezeFacts spec.storyPack
  rumors : bundle.instanceSpec.rumors = freezeRumors spec.storyPack
  narrative : bundle.instanceSpec.narrative =
    (spec.storyPack.narrative.map NarrativeGraph.initialState).getD {}

theorem freezeStory_freezes (frozen : freezeStory canonical storyId spec = .ok bundle) :
    Freezes storyId spec bundle := by
  obtain ⟨_, _, frozen⟩ := Result.bind_eq_ok frozen
  obtain ⟨_, narrative, frozen⟩ := Result.bind_eq_ok frozen
  obtain ⟨_, _, frozen⟩ := Result.bind_eq_ok frozen
  obtain ⟨_, _, frozen⟩ := Result.bind_eq_ok frozen
  obtain ⟨_, _, frozen⟩ := Result.bind_eq_ok frozen
  obtain ⟨_, _, frozen⟩ := Result.bind_eq_ok frozen
  obtain ⟨snapshot, taken, frozen⟩ := Result.bind_eq_ok frozen
  obtain ⟨packRef, _, taken⟩ := Result.bind_eq_ok (EngineError.lift_ok taken)
  cases taken
  cases frozen
  exact ⟨EngineError.lift_ok narrative, rfl, rfl, rfl, rfl, rfl, rfl⟩

/-- Every entry is a seed under its own identifier. -/
structure StoryInstanceSpec.Seeded (spec : StoryInstanceSpec) : Prop where
  facts : ∀ (id : FactId) (entry : FactEntry), spec.facts[id]? = some entry →
    entry.id = id ∧ entry.origin = .seed
  rumors : ∀ (id : RumorId) (entry : RumorEntry), spec.rumors[id]? = some entry →
    entry.id = id ∧ entry.origin = .seed
  roles : ∀ (id : RoleId) (role : RoleEntry), spec.roles[id]? = some role →
    role.id = id ∧ role.origin = .seed
  memories : ∀ (roleId : RoleId) (role : RoleEntry) (id : MemoryId) (entry : MemoryEntry),
    spec.roles[roleId]? = some role → role.memories[id]? = some entry →
    entry.id = id ∧ entry.origin = .seed

theorem seeded_map {kind : IdKind} {bodies : BTreeMap kind KnowledgeBody} {id : Ident kind}
    {entry : KnowledgeEntry kind}
    (found : (bodies.map fun id body => ({ id, origin := .seed, body } : KnowledgeEntry kind))[id]? =
      some entry) : entry.id = id ∧ entry.origin = .seed := by
  rw [Std.ExtTreeMap.getElem?_map] at found
  obtain ⟨body, _, rfl⟩ := Option.map_eq_some_iff.mp found
  exact ⟨rfl, rfl⟩

theorem Freezes.seeded {storyId : StoryId} (freezes : Freezes storyId spec bundle) :
    bundle.instanceSpec.Seeded where
  facts id entry found := by
    rw [freezes.facts] at found
    exact seeded_map found
  rumors id entry found := by
    rw [freezes.rumors] at found
    exact seeded_map found
  roles id role found := by
    rw [freezes.roles, freezeRoles, Std.ExtTreeMap.getElem?_map] at found
    obtain ⟨seed, _, rfl⟩ := Option.map_eq_some_iff.mp found
    exact ⟨rfl, rfl⟩
  memories roleId role id entry found kept := by
    rw [freezes.roles, freezeRoles, Std.ExtTreeMap.getElem?_map] at found
    obtain ⟨seed, _, rfl⟩ := Option.map_eq_some_iff.mp found
    exact seeded_map kept

/-! ### The limits on roles

A pack is checked through projections of the entries its roles will become; without cards the
entries are these projections. -/

theorem mapJson_map {toJson : W → SerdeJson.Json} {kind : IdKind} (map : BTreeMap kind V)
    (change : Ident kind → V → W) :
    mapJson toJson (map.map change) =
      .obj (map.toList.map fun entry => (entry.1.value, toJson (change entry.1 entry.2))) := by
  rw [mapJson, Std.ExtTreeMap.toList_map, List.map_map]
  rfl

/-- No role is played after a card. -/
def Uncarded (cast : BTreeMap .role RoleActorSpec) : Prop :=
  ∀ (roleId : RoleId) (actor : CharacterCard), cast[roleId]? ≠ some (.card actor)

/-- The entry a seed role becomes when it keeps its own profile. -/
def SeedRole.entry (roleId : RoleId) (role : SeedRole) : RoleEntry where
  id := roleId
  origin := .seed
  spec := role.spec
  profile := role.defaultProfile
  memories := role.seedMemories.map fun id body => { id, origin := .seed, body }

theorem freezeRoles_uncarded (pack : StoryPack) {cast : BTreeMap .role RoleActorSpec}
    (uncarded : Uncarded cast) : freezeRoles pack cast = pack.roles.map SeedRole.entry := by
  refine congrArg pack.roles.map (funext fun roleId => funext fun seedRole => ?_)
  have own : RoleActorSpec.profile seedRole cast[roleId]? = seedRole.defaultProfile := by
    cases actor : cast[roleId]? with
    | none => rfl
    | some played =>
      cases played with
      | default => rfl
      | card card => exact absurd actor (uncarded roleId card)
  rw [own]
  rfl

/-- The projection is written field by field like the entry. -/
theorem SeedRole.projection_toJson (roleId : RoleId) (role : SeedRole) :
    (role.projection roleId).toJson = (role.entry roleId).toJson := by
  have memories : mapJson MemoryEntryProjection.toJson (role.projection roleId).memories =
      mapJson KnowledgeEntry.toJson (role.entry roleId).memories := by
    rw [SeedRole.projection, SeedRole.entry, mapJson_map, mapJson_map]
    rfl
  rw [RoleEntryProjection.toJson, RoleEntry.toJson, memories]
  rfl

theorem validateRuntimeRoles_entries (roles : BTreeMap .role SeedRole) :
    validateRuntimeRoles (roles.map SeedRole.entry) = validateSeedRoles roles := by
  have counts : memoryCounts (roles.map SeedRole.entry) =
      roles.toList.map fun entry => (entry.1, entry.2.spec, entry.2.seedMemories.size) := by
    rw [memoryCounts, Std.ExtTreeMap.toList_map, List.map_map]
    refine List.map_congr_left fun entry _ => ?_
    simp [SeedRole.entry, Std.ExtTreeMap.size_map]
  have state : mapJson RoleEntry.toJson (roles.map SeedRole.entry) =
      mapJson RoleEntryProjection.toJson (roles.map SeedRole.projection) := by
    rw [mapJson_map, mapJson_map]
    simp only [SeedRole.projection_toJson]
  rw [validateRuntimeRoles, counts, state, Std.ExtTreeMap.size_map]
  rfl

/-- The errors of the two validators of roles. -/
def StoryError.limitsRoles : StoryError → Bool
  | .tooManyRoles .. | .tooManyRoleAliases .. | .roleCatalogTooLarge .. | .tooManyRoleMemories ..
  | .roleStateTooLarge .. | .roleStateSerialization .. => true
  | .openingTooLarge .. | .noPlayableRole | .unknownRole .. | .roleNotPlayable .. => false

theorem EngineError.lift_error {wrap : E → EngineError} {result : Except E α} {error : EngineError}
    (failed : lift wrap result = .error error) :
    ∃ inner, result = .error inner ∧ wrap inner = error := by
  cases result with
  | ok _ => contradiction
  | error inner => exact ⟨inner, rfl, Except.error.inj failed⟩

theorem EngineError.lift_story {result : Except StoryError α} {error : StoryError}
    (failed : lift .story result = .error (.story error)) : result = .error error := by
  obtain ⟨inner, raised, same⟩ := lift_error failed
  cases same
  exact raised

theorem StoryPack.validatePlay_error {pack : StoryPack} {error : StoryError}
    (failed : pack.validatePlay = .error error) : error.limitsRoles = false := by
  rw [validatePlay] at failed
  split at failed
  · cases failed
    rfl
  · split at failed
    · cases failed
      rfl
    · contradiction

theorem validateCast_error {pack : StoryPack} {cast : BTreeMap .role RoleActorSpec}
    {error : StoryError} (failed : validateCast pack playerRole cast = .error error) :
    error.limitsRoles = false := by
  rw [validateCast] at failed
  split at failed
  · cases failed
    rfl
  · split at failed
    · cases failed
      rfl
    · contradiction

theorem validateOpening_error {pack : StoryPack} {error : StoryError}
    (failed : validateOpening pack = .error error) : error.limitsRoles = false := by
  rw [validateOpening] at failed
  split at failed
  · cases failed
    rfl
  · contradiction

/-- Of the steps that freeze a story only the two validators refuse it for its roles. -/
theorem freezeStory_limited {canonical : StoryPack → Except CoreError Sha256Digest}
    {storyId : StoryId} {spec : StoryCreationSpec} {error : StoryError}
    (limits : error.limitsRoles = true)
    (failed : freezeStory canonical storyId spec = .error (.story error)) :
    validateSeedRoles spec.storyPack.roles = .error error ∨
      validateRuntimeRoles (freezeRoles spec.storyPack spec.cast) = .error error := by
  have other (false_ : error.limitsRoles = false) : False := by
    rw [limits] at false_
    contradiction
  rw [freezeStory] at failed
  rcases Result.bind_eq_error failed with play | ⟨_, _, failed⟩
  · exact (other (StoryPack.validatePlay_error (EngineError.lift_story play))).elim
  rcases Result.bind_eq_error failed with narrative | ⟨_, _, failed⟩
  · obtain ⟨_, _, same⟩ := EngineError.lift_error narrative
    contradiction
  rcases Result.bind_eq_error failed with seeds | ⟨_, _, failed⟩
  · exact .inl (EngineError.lift_story seeds)
  rcases Result.bind_eq_error failed with cast | ⟨_, _, failed⟩
  · exact (other (validateCast_error (EngineError.lift_story cast))).elim
  rcases Result.bind_eq_error failed with opening | ⟨_, _, failed⟩
  · exact (other (validateOpening_error (EngineError.lift_story opening))).elim
  rcases Result.bind_eq_error failed with runtime | ⟨_, _, failed⟩
  · exact .inr (EngineError.lift_story runtime)
  rcases Result.bind_eq_error failed with snapshot | ⟨_, _, failed⟩
  · obtain ⟨_, _, same⟩ := EngineError.lift_error snapshot
    contradiction
  · contradiction

/-- Without cards the roles of a new story get the verdict the pack got, so a pack that was
accepted is not refused for its roles. -/
theorem seed_roles_instantiable (spec : StoryCreationSpec) (uncarded : Uncarded spec.cast) :
    validateRuntimeRoles (freezeRoles spec.storyPack spec.cast) =
        validateSeedRoles spec.storyPack.roles ∧
      (spec.storyPack.validateRoles = .ok () → ∀ canonical storyId error,
        error.limitsRoles = true →
          freezeStory canonical storyId spec ≠ .error (.story error)) := by
  have same : validateRuntimeRoles (freezeRoles spec.storyPack spec.cast) =
      validateSeedRoles spec.storyPack.roles := by
    rw [freezeRoles_uncarded spec.storyPack uncarded, validateRuntimeRoles_entries]
  refine ⟨same, fun accepted canonical storyId error limits failed => ?_⟩
  rw [StoryPack.validateRoles] at accepted
  rcases freezeStory_limited limits failed with seeds | runtime
  · cases accepted.symm.trans seeds
  · cases accepted.symm.trans (same.symm.trans runtime)

namespace Sample

/-- The role keeps the profile of the pack. -/
def uncast : StoryCreationSpec where
  storyPack := pack
  cast := ∅
  playerId := playerId
  playerRole := hero

theorem uncast_instantiable :
    validateRuntimeRoles (freezeRoles uncast.storyPack uncast.cast) =
      validateSeedRoles uncast.storyPack.roles := by
  have uncarded : Uncarded uncast.cast := fun roleId actor => by simp [uncast]
  exact (seed_roles_instantiable uncast uncarded).1

end Sample
end Aise
