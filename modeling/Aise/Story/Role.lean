import Aise.Domain.Asset.Keys
import Aise.Story.Snapshot

/-! The roles and relationships of a story and how they are stored. -/
namespace Aise.Domain
open SerdeJson

structure DialogueExample where
  situation : BoundedText
  response : BoundedText
  deriving DecidableEq

structure CharacterProfile where
  name : BoundedText
  appearance : Option BoundedText := none
  personality : Option BoundedText := none
  speakingStyle : Option BoundedText := none
  dialogueExamples : List DialogueExample := []
  deriving DecidableEq

structure CharacterId where
  asStr : String
  deriving DecidableEq

structure FrozenCharacterCardRef where
  characterId : CharacterId
  version : String
  digest : Sha256Digest
  deriving DecidableEq

structure StoryRoleState where
  location : AssetKey
  goals : List BoundedText
  attributes : BTreeMap AssetKey ScalarValue := ∅
  deriving DecidableEq

structure StoryRole where
  roleId : RoleId
  controller : RoleController
  roleLabel : BoundedText
  narrativeFunction : BoundedText
  background : Option BoundedText := none
  effectiveProfile : CharacterProfile
  sourceCharacter : Option FrozenCharacterCardRef := none
  state : StoryRoleState
  deriving DecidableEq

structure StoryRoleView where
  roleId : RoleId
  controller : RoleController
  roleLabel : BoundedText
  narrativeFunction : BoundedText
  background : Option BoundedText
  effectiveProfile : CharacterProfile
  sourceCharacterId : Option CharacterId
  state : StoryRoleState
  deriving DecidableEq

/-- `StoryRoleView::from`. -/
def StoryRole.view (role : StoryRole) : StoryRoleView where
  roleId := role.roleId
  controller := role.controller
  roleLabel := role.roleLabel
  narrativeFunction := role.narrativeFunction
  background := role.background
  effectiveProfile := role.effectiveProfile
  sourceCharacterId := role.sourceCharacter.map (·.characterId)
  state := role.state

/-- The part of the view that contexts are made of. -/
def StoryRoleView.contextView (role : StoryRoleView) : RoleContextView where
  roleId := role.roleId
  roleLabel := role.roleLabel
  narrativeFunction := role.narrativeFunction
  name := role.effectiveProfile.name
  location := role.state.location
  controller := role.controller

def RoleController.kind : RoleController → RoleControllerKind
  | .player _ => .player
  | .ai => .ai

/-- The value of an attribute, which is looked for by its text. -/
def StoryRoleState.attribute (state : StoryRoleState) (name : BoundedText) : Option ScalarValue :=
  (state.attributes.toList.find? fun entry => entry.1.asStr = name.value).map (·.2)

/-! ### How roles are stored -/

/-- Code outside the repository: `Uuid::parse_str` with the hyphenated text of what it parses, if
that is not nil. Its own text is read as it is. -/
structure UuidReader where
  read : String → Option String
  hyphenated : ∀ {text value}, read text = some value → read value = some value

section
variable (uuids : UuidReader)

def dialogueExampleCodec : Codec DialogueExample :=
  (Fields.cons "situation" boundedTextCodec none <| .cons "response" boundedTextCodec none .nil).codec
    2 (by decide)
  |>.imap (fun (situation, response, _) => ⟨situation, response⟩)
    (fun example' => (example'.situation, example'.response, ⟨⟩)) (fun _ => rfl) (fun _ => rfl)

def characterProfileCodec : Codec CharacterProfile :=
  (Fields.cons "name" boundedTextCodec none
    <| .cons "appearance" optionalTextCodec (some ⟨none, boundedTextCodec.none_readable⟩)
    <| .cons "personality" optionalTextCodec (some ⟨none, boundedTextCodec.none_readable⟩)
    <| .cons "speaking_style" optionalTextCodec (some ⟨none, boundedTextCodec.none_readable⟩)
    <| .cons "dialogue_examples" (.list dialogueExampleCodec) (some ⟨[], nofun⟩) .nil).codec
    4 (by decide)
  |>.imap (fun (name, appearance, personality, speakingStyle, dialogueExamples, _) =>
      ⟨name, appearance, personality, speakingStyle, dialogueExamples⟩)
    (fun profile => (profile.name, profile.appearance, profile.personality, profile.speakingStyle,
      profile.dialogueExamples, ⟨⟩)) (fun _ => rfl) (fun _ => rfl)

def characterIdCodec : Codec CharacterId :=
  .text CharacterId.asStr (fun text => (uuids.read text).map CharacterId.mk)
    (fun id => uuids.read id.asStr = some id.asStr)
    (fun _ readable => by rw [readable, Option.map_some])
    (fun _ _ read => by
      obtain ⟨text, parsed, rfl⟩ := Option.map_eq_some_iff.mp read
      exact uuids.hyphenated parsed)

/-- A `SemanticVersion` is read back without a check. -/
def frozenCharacterCardRefCodec : Codec FrozenCharacterCardRef :=
  (Fields.cons "character_id" (characterIdCodec uuids) none
    <| .cons "version" .string none
    <| .cons "digest" digestCodec none .nil).codec
    3 (show ["character_id", "version", "digest"].Nodup by decide)
  |>.imap (fun (characterId, version, digest, _) => ⟨characterId, version, digest⟩)
    (fun card => (card.characterId, card.version, card.digest, ⟨⟩)) (fun _ => rfl) (fun _ => rfl)

/-- The variants of the adjacently tagged enum. -/
def roleControllerCodec : Codec RoleController where
  encode
    | .player playerId => .obj [("kind", .str "player"), ("player_id", .str playerId)]
    | .ai => .obj [("kind", .str "ai")]
  decode json := do
    match ← Fields.find ["kind", "player_id"] 2 json with
    | [some (.str "player"), some (.str playerId)] =>
      if isValidKey playerId then some (.player playerId) else none
    | [some (.str "ai"), none] | [some (.str "ai"), some .null] => some .ai
    | _ => none
  Readable controller := ∀ playerId, controller = .player playerId → isValidKey playerId = true
  back {controller} readable := by
    cases controller with
    | player playerId =>
      have valid := readable playerId rfl
      simp [Fields.find, List.lookup_cons, valid]
    | ai => rfl
  sound {json controller} read := by
    rintro playerId rfl
    obtain ⟨values, _, read⟩ := Option.bind_eq_some_iff.mp read
    split at read
    · split at read
      · rename_i valid
        cases read
        exact valid
      · cases read
    · cases read
    · cases read
    · cases read

def storyRoleStateCodec : Codec StoryRoleState :=
  (Fields.cons "location" assetKeyCodec none
    <| .cons "goals" (.list boundedTextCodec) none
    <| .cons "attributes" (.map assetKeys scalarValueCodec) (some ⟨∅, no_scalars_readable⟩)
      .nil).codec 2 (by decide)
  |>.imap (fun (location, goals, attributes, _) => ⟨location, goals, attributes⟩)
    (fun state => (state.location, state.goals, state.attributes, ⟨⟩)) (fun _ => rfl) (fun _ => rfl)

def storyRoleCodec : Codec StoryRole :=
  (Fields.cons "role_id" roleIdCodec none
    <| .cons "controller" roleControllerCodec none
    <| .cons "role_label" boundedTextCodec none
    <| .cons "narrative_function" boundedTextCodec none
    <| .cons "background" optionalTextCodec (some ⟨none, boundedTextCodec.none_readable⟩)
    <| .cons "effective_profile" characterProfileCodec none
    <| .cons "source_character" (.option (frozenCharacterCardRefCodec uuids) nofun) (some ⟨none, nofun⟩)
    <| .cons "state" storyRoleStateCodec none .nil).codec
    8 (show ["role_id", "controller", "role_label", "narrative_function", "background",
      "effective_profile", "source_character", "state"].Nodup by decide)
  |>.imap (fun (roleId, controller, roleLabel, narrativeFunction, background, effectiveProfile,
      sourceCharacter, state, _) => ⟨roleId, controller, roleLabel, narrativeFunction, background,
        effectiveProfile, sourceCharacter, state⟩)
    (fun role => (role.roleId, role.controller, role.roleLabel, role.narrativeFunction,
      role.background, role.effectiveProfile, role.sourceCharacter, role.state, ⟨⟩))
    (fun _ => rfl) (fun _ => rfl)

def storyRolesCodec : Codec (BTreeMap RoleId StoryRole) := .map roleIds (storyRoleCodec uuids)

end

/-! ### Relationships -/

/-- Keys of relationships, in the order of their fields. -/
abbrev OrderedRelationshipKey := RoleId ×ₗ RoleId ×ₗ String

instance : Std.TransOrd OrderedRelationshipKey := Prod.Lex.instTransOrdLex

instance : Std.LawfulEqOrd OrderedRelationshipKey := ⟨compare_eq_iff_eq.mp⟩

def RelationshipState.orderedKey (relationship : RelationshipState) : OrderedRelationshipKey :=
  toLex (relationship.sourceRoleId, toLex (relationship.targetRoleId, relationship.kind))

/-- A text that `RelationshipKind::try_new` accepts. -/
def relationshipKindCodec : Codec String :=
  .text id (fun value => if isValidSemanticKey value then some value else none)
    (fun value => isValidSemanticKey value = true) (fun _ readable => if_pos readable)
    (fun _ _ read => by
      split at read
      · rename_i valid
        cases read
        exact valid
      · cases read)

def relationshipStateCodec : Codec RelationshipState :=
  (Fields.cons "source_role_id" roleIdCodec none
    <| .cons "target_role_id" roleIdCodec none
    <| .cons "kind" relationshipKindCodec none
    <| .cons "trust" signed16 none .nil).codec 4 (by decide)
  |>.imap (fun (sourceRoleId, targetRoleId, kind, trust, _) => ⟨sourceRoleId, targetRoleId, kind, trust⟩)
    (fun relationship => (relationship.sourceRoleId, relationship.targetRoleId, relationship.kind,
      relationship.trust, ⟨⟩)) (fun _ => rfl) (fun _ => rfl)

def relationshipsCodec : Codec (List RelationshipState) := .list relationshipStateCodec

/-! ### What can be read back -/

/-- The values that a role can hold and that are lost when it is stored. -/
structure StoryRoleState.Storable (state : StoryRoleState) : Prop where
  located : isValidKey state.location.asStr = true
  named : ∀ entry ∈ state.attributes.toList, isValidKey entry.1.asStr = true
  plain : ∀ entry ∈ state.attributes.toList, ∀ text, entry.2 ≠ .text text

variable {uuids : UuidReader}

end Aise.Domain
