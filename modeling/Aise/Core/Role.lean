import Aise.Core.Knowledge

/-! Roles of a story and the limits on them. `validate_seed_roles` checks a pack,
`validate_runtime_roles` a running story; both count roles, aliases, memories,
catalog bytes and the bytes of the serialized role state, in that order. -/
namespace Aise
open SerdeJson

structure RoleSpec where
  name : BoundedText
  aliases : List BoundedText := []
  backstory : BoundedText
  retrieval : RetrievalHint
  deriving DecidableEq

structure DialogueExample where
  situation : BoundedText
  response : BoundedText
  deriving DecidableEq

structure CharacterProfile where
  appearance : Option BoundedText := none
  personality : Option BoundedText := none
  speakingStyle : Option BoundedText := none
  dialogueExamples : List DialogueExample := []
  deriving DecidableEq

structure SeedRole where
  spec : RoleSpec
  defaultProfile : CharacterProfile
  seedMemories : BTreeMap .memory MemoryBody := ∅
  deriving DecidableEq

structure RoleEntry where
  id : RoleId
  origin : EntryOrigin
  spec : RoleSpec
  profile : CharacterProfile
  memories : BTreeMap .memory MemoryEntry := ∅
  deriving DecidableEq

def maxRolesPerStory : Nat := 64
def maxAliasesPerRole : Nat := 8
def maxRoleCatalogBytes : Nat := 32 * 1024
def maxMemoriesPerRole : Nat := 32
def maxRoleStateBytes : Nat := 2 * 1024 * 1024
def maxOpeningBytes : Nat := 16 * 1024

inductive StoryError where
  | tooManyRoles (actual maximum : Nat)
  | tooManyRoleAliases (roleId : RoleId) (actual maximum : Nat)
  | roleCatalogTooLarge (actual maximum : Nat)
  | tooManyRoleMemories (roleId : RoleId) (actual maximum : Nat)
  | roleStateTooLarge (actual maximum : Nat)
  | roleStateSerialization (message : String)
  | openingTooLarge (actual maximum : Nat)
  | noPlayableRole
  | unknownRole (field roleId : String)
  | roleNotPlayable (roleId : String)
  deriving DecidableEq

/-- `usize::saturating_add`. -/
def saturatingAdd (a b : Nat) : Nat := min (a + b) (UInt64.size - 1)

def RoleSpec.toJson (spec : RoleSpec) : Json := .obj [
  ("name", spec.name.toJson),
  ("alias", .arr (spec.aliases.map BoundedText.toJson)),
  ("backstory", spec.backstory.toJson),
  ("retrieval", spec.retrieval.text.toJson)]

def DialogueExample.toJson (example_ : DialogueExample) : Json :=
  .obj [("situation", example_.situation.toJson), ("response", example_.response.toJson)]

def CharacterProfile.toJson (profile : CharacterProfile) : Json := .obj [
  ("appearance", optionJson BoundedText.toJson profile.appearance),
  ("personality", optionJson BoundedText.toJson profile.personality),
  ("speaking_style", optionJson BoundedText.toJson profile.speakingStyle),
  ("dialogue_examples", .arr (profile.dialogueExamples.map DialogueExample.toJson))]

def mapJson (toJson : V → Json) (map : BTreeMap kind V) : Json :=
  .obj (map.toList.map fun (id, value) => (id.value, toJson value))

def RoleEntry.toJson (role : RoleEntry) : Json := .obj [
  ("id", .str role.id.value),
  ("origin", role.origin.toJson),
  ("spec", role.spec.toJson),
  ("profile", role.profile.toJson),
  ("memories", mapJson KnowledgeEntry.toJson role.memories)]

/-- A seed memory as `validate_seed_roles` serializes it. -/
structure MemoryEntryProjection where
  id : MemoryId
  origin : EntryOrigin
  body : MemoryBody

structure RoleEntryProjection where
  id : RoleId
  origin : EntryOrigin
  spec : RoleSpec
  profile : CharacterProfile
  memories : BTreeMap .memory MemoryEntryProjection

def MemoryEntryProjection.toJson (memory : MemoryEntryProjection) : Json := .obj [
  ("id", .str memory.id.value),
  ("origin", memory.origin.toJson),
  ("body", memory.body.toJson)]

def RoleEntryProjection.toJson (role : RoleEntryProjection) : Json := .obj [
  ("id", .str role.id.value),
  ("origin", role.origin.toJson),
  ("spec", role.spec.toJson),
  ("profile", role.profile.toJson),
  ("memories", mapJson MemoryEntryProjection.toJson role.memories)]

def SeedRole.projection (roleId : RoleId) (role : SeedRole) : RoleEntryProjection where
  id := roleId
  origin := .seed
  spec := role.spec
  profile := role.defaultProfile
  memories := role.seedMemories.map fun id body => { id, origin := .seed, body }

def validateRoleSpec (roleId : RoleId) (spec : RoleSpec) : Except StoryError Unit :=
  if spec.aliases.length > maxAliasesPerRole then
    .error (.tooManyRoleAliases roleId spec.aliases.length maxAliasesPerRole)
  else .ok ()

def validateRoleCount (actual : Nat) : Except StoryError Unit :=
  if actual > maxRolesPerStory then .error (.tooManyRoles actual maxRolesPerStory) else .ok ()

def validateMemoryCount (roleId : RoleId) (actual : Nat) : Except StoryError Unit :=
  if actual > maxMemoriesPerRole then
    .error (.tooManyRoleMemories roleId actual maxMemoriesPerRole)
  else .ok ()

def roleCatalogBytes (roleId : RoleId) (spec : RoleSpec) : Nat :=
  saturatingAdd
    (spec.aliases.foldl (fun total name => saturatingAdd total (RustText.len name.value))
      (saturatingAdd (RustText.len roleId.value) (RustText.len spec.name.value)))
    (RustText.len spec.retrieval.text.value)

def validateCatalogBytes (actual : Nat) : Except StoryError Unit :=
  if actual > maxRoleCatalogBytes then .error (.roleCatalogTooLarge actual maxRoleCatalogBytes)
  else .ok ()

/-- Role state always serializes, so a stopped writer is the only failure. -/
def validateStateSize (value : Json) : Except StoryError Unit :=
  match (CountingWriter.new maxRoleStateBytes).writeAll value.pieces with
  | (true, _) => .ok ()
  | (false, writer) => .error (.roleStateTooLarge writer.written maxRoleStateBytes)

/-- The loop shared by the two validators: per role the aliases, then the memories,
with the catalog bytes accumulated. -/
def checkRoles (catalogBytes : Nat) : List (RoleId × RoleSpec × Nat) → Except StoryError Nat
  | [] => .ok catalogBytes
  | (roleId, spec, memories) :: rest => do
    validateRoleSpec roleId spec
    validateMemoryCount roleId memories
    checkRoles (saturatingAdd catalogBytes (roleCatalogBytes roleId spec)) rest

def validateRoles (count : Nat) (roles : List (RoleId × RoleSpec × Nat)) (state : Json) :
    Except StoryError Unit := do
  validateRoleCount count
  let catalogBytes ← checkRoles 0 roles
  validateCatalogBytes catalogBytes
  validateStateSize state

def validateSeedRoles (roles : BTreeMap .role SeedRole) : Except StoryError Unit :=
  validateRoles roles.size
    (roles.toList.map fun (roleId, role) => (roleId, role.spec, role.seedMemories.size))
    (mapJson RoleEntryProjection.toJson (roles.map SeedRole.projection))

/-- The roles as the loop reads them. -/
def memoryCounts (roles : BTreeMap .role RoleEntry) : List (RoleId × RoleSpec × Nat) :=
  roles.toList.map fun (roleId, role) => (roleId, role.spec, role.memories.size)

def validateRuntimeRoles (roles : BTreeMap .role RoleEntry) : Except StoryError Unit :=
  validateRoles roles.size (memoryCounts roles) (mapJson RoleEntry.toJson roles)

theorem validateStateSize_ok_iff {value : Json} :
    validateStateSize value = .ok () ↔ size value.pieces ≤ maxRoleStateBytes := by
  have spec := CountingWriter.writeAll_spec (CountingWriter.new maxRoleStateBytes) value.pieces
    (Nat.zero_le _)
  rw [validateStateSize, spec]
  by_cases fits : size value.pieces ≤ maxRoleStateBytes <;> simp [CountingWriter.new, fits]

/-- A map of short entries has a short text. -/
theorem mapJson_size_le {toJson : V → Json} {map : BTreeMap kind V}
    (each : ∀ (id : Ident kind) (value : V), map[id]? = some value →
      RustText.len (quoted id.value) + size (toJson value).pieces ≤ bound) :
    size (mapJson toJson map).pieces ≤ map.size * (bound + 2) + 2 := by
  have fields : size (mapJson toJson map).pieces ≤
      (map.toList.map fun (id, value) => (id.value, toJson value)).length * (bound + 2) + 2 := by
    refine size_obj_le fun name value member => ?_
    obtain ⟨⟨id, entry⟩, listed, same⟩ := List.mem_map.mp member
    cases same
    exact each id entry (Std.ExtTreeMap.mem_toList_iff_getElem?_eq_some.mp listed)
  rwa [List.length_map, Std.ExtTreeMap.length_toList] at fields

/-- A role within its own two limits. -/
def RoleFits (spec : RoleSpec) (memories : Nat) : Prop :=
  spec.aliases.length ≤ maxAliasesPerRole ∧ memories ≤ maxMemoriesPerRole

theorem checkRoles_ok_iff {roles : List (RoleId × RoleSpec × Nat)} :
    (∃ total, checkRoles catalogBytes roles = .ok total) ↔
      ∀ roleId spec memories, (roleId, spec, memories) ∈ roles → RoleFits spec memories := by
  induction roles generalizing catalogBytes with
  | nil => simp [checkRoles]
  | cons entry rest ih =>
    obtain ⟨roleId, spec, memories⟩ := entry
    unfold checkRoles validateRoleSpec validateMemoryCount
    split
    · rename_i aliases
      simp only [bind, Except.bind, reduceCtorEq, exists_false, false_iff]
      intro fit
      exact absurd (fit roleId spec memories List.mem_cons_self).1 (Nat.not_le.mpr aliases)
    · rename_i aliases
      split
      · rename_i many
        simp only [bind, Except.bind, reduceCtorEq, exists_false, false_iff]
        intro fit
        exact absurd (fit roleId spec memories List.mem_cons_self).2 (Nat.not_le.mpr many)
      · rename_i few
        simp only [bind, Except.bind, ih]
        constructor
        · intro fit otherId other count member
          rcases List.mem_cons.mp member with same | later
          · cases same
            exact ⟨Nat.not_lt.mp aliases, Nat.not_lt.mp few⟩
          · exact fit otherId other count later
        · intro fit otherId other count member
          exact fit otherId other count (List.mem_cons_of_mem _ member)

/-- Where no role has too many aliases, the loop can only stop at a role with too
many memories. -/
theorem checkRoles_overfull {roles : List (RoleId × RoleSpec × Nat)}
    (aliases : ∀ roleId spec memories, (roleId, spec, memories) ∈ roles →
      spec.aliases.length ≤ maxAliasesPerRole)
    (failed : checkRoles catalogBytes roles = .error error) :
    ∃ roleId actual, error = .tooManyRoleMemories roleId actual maxMemoriesPerRole := by
  induction roles generalizing catalogBytes with
  | nil => contradiction
  | cons entry rest ih =>
    obtain ⟨roleId, spec, memories⟩ := entry
    have few := aliases roleId spec memories List.mem_cons_self
    unfold checkRoles validateRoleSpec validateMemoryCount at failed
    rw [if_neg (Nat.not_lt.mpr few)] at failed
    split at failed
    · cases failed
      exact ⟨roleId, memories, rfl⟩
    · exact ih (fun otherId other count member =>
        aliases otherId other count (List.mem_cons_of_mem _ member)) failed

/-- The checks after the loop are about bytes. -/
theorem bytes_not_overfull {value : Json} :
    (validateCatalogBytes total >>= fun _ => validateStateSize value) ≠
      .error (.tooManyRoleMemories roleId actual maximum) := by
  intro failed
  unfold validateCatalogBytes at failed
  split at failed
  · cases failed
  · change validateStateSize value = _ at failed
    unfold validateStateSize at failed
    split at failed <;> cases failed

theorem mem_memoryCounts_iff {roles : BTreeMap .role RoleEntry} {roleId : RoleId} :
    (roleId, spec, memories) ∈ memoryCounts roles ↔
      ∃ role, roles[roleId]? = some role ∧ role.spec = spec ∧ role.memories.size = memories := by
  simp only [memoryCounts, List.mem_map, Prod.exists, Prod.mk.injEq]
  constructor
  · rintro ⟨id, role, member, rfl, rfl, rfl⟩
    exact ⟨role, Std.ExtTreeMap.mem_toList_iff_getElem?_eq_some.mp member, rfl, rfl⟩
  · rintro ⟨role, found, rfl, rfl⟩
    exact ⟨roleId, role, Std.ExtTreeMap.mem_toList_iff_getElem?_eq_some.mpr found, rfl, rfl, rfl⟩

theorem validateRuntimeRoles_ok_iff {roles : BTreeMap .role RoleEntry} :
    validateRuntimeRoles roles = .ok () ↔
      roles.size ≤ maxRolesPerStory ∧
      (∃ total ≤ maxRoleCatalogBytes, checkRoles 0 (memoryCounts roles) = .ok total) ∧
      size (mapJson RoleEntry.toJson roles).pieces ≤ maxRoleStateBytes := by
  rw [← validateStateSize_ok_iff]
  unfold validateRuntimeRoles validateRoles validateRoleCount
  split
  · rename_i many
    simp [bind, Except.bind, Nat.not_le.mpr many]
  · rename_i few
    cases checked : checkRoles 0 (memoryCounts roles) with
    | error error => simp [bind, Except.bind]
    | ok total =>
      by_cases large : maxRoleCatalogBytes < total
      · simp [bind, Except.bind, validateCatalogBytes, large, Nat.not_le.mpr large]
      · simp [bind, Except.bind, validateCatalogBytes, large, Nat.not_lt.mp large,
          Nat.not_lt.mp few]

/-- What a running story's roles satisfy, one by one. -/
theorem validateRuntimeRoles_fits {roles : BTreeMap .role RoleEntry}
    (valid : validateRuntimeRoles roles = .ok ()) :
    roles.size ≤ maxRolesPerStory ∧
      ∀ (roleId : RoleId) (role : RoleEntry), roles[roleId]? = some role →
        RoleFits role.spec role.memories.size := by
  obtain ⟨count, ⟨total, _, checked⟩, _⟩ := validateRuntimeRoles_ok_iff.mp valid
  refine ⟨count, fun roleId role found => ?_⟩
  exact checkRoles_ok_iff.mp ⟨total, checked⟩ roleId role.spec role.memories.size
    (mem_memoryCounts_iff.mpr ⟨role, found, rfl, rfl⟩)

/-- With few enough roles and aliases, the validator reports too many memories
exactly when some role has too many. -/
theorem validateRuntimeRoles_overfull_iff {roles : BTreeMap .role RoleEntry}
    (count : roles.size ≤ maxRolesPerStory)
    (aliases : ∀ (roleId : RoleId) (role : RoleEntry), roles[roleId]? = some role →
      role.spec.aliases.length ≤ maxAliasesPerRole) :
    (∃ roleId actual maximum,
        validateRuntimeRoles roles = .error (.tooManyRoleMemories roleId actual maximum)) ↔
      ∃ (roleId : RoleId) (role : RoleEntry), roles[roleId]? = some role ∧
        maxMemoriesPerRole < role.memories.size := by
  unfold validateRuntimeRoles validateRoles validateRoleCount
  rw [if_neg (Nat.not_lt.mpr count)]
  cases checked : checkRoles 0 (memoryCounts roles) with
  | error error =>
    have overfull : ∃ (roleId : RoleId) (role : RoleEntry), roles[roleId]? = some role ∧
        maxMemoriesPerRole < role.memories.size := by
      by_contra room
      push Not at room
      have passes : ∃ total, checkRoles 0 (memoryCounts roles) = .ok total :=
        checkRoles_ok_iff.mpr fun roleId spec memories member => by
          obtain ⟨role, found, rfl, rfl⟩ := mem_memoryCounts_iff.mp member
          exact ⟨aliases roleId role found, room roleId role found⟩
      obtain ⟨total, passes⟩ := passes
      cases checked.symm.trans passes
    obtain ⟨roleId, actual, rfl⟩ := checkRoles_overfull (fun roleId spec memories member => by
      obtain ⟨role, found, rfl, rfl⟩ := mem_memoryCounts_iff.mp member
      exact aliases roleId role found) checked
    exact ⟨fun _ => overfull, fun _ => ⟨roleId, actual, _, rfl⟩⟩
  | ok total =>
    constructor
    · rintro ⟨roleId, actual, maximum, failed⟩
      exact absurd failed bytes_not_overfull
    · rintro ⟨roleId, role, found, many⟩
      have fits := checkRoles_ok_iff.mp ⟨total, checked⟩ roleId role.spec role.memories.size
        (mem_memoryCounts_iff.mpr ⟨role, found, rfl, rfl⟩)
      exact absurd fits.2 (Nat.not_le.mpr many)

end Aise
