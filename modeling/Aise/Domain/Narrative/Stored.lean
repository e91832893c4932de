import Aise.Domain.Asset.Keys
import Aise.Domain.Narrative.Graph

/-! How the state of a narrative is stored. -/
namespace Aise.Domain
open RustText SerdeJson

/-! ### States and numbers -/

def NarrativeNodeState.name : NarrativeNodeState → String
  | inactive => "inactive"
  | active => "active"
  | completed => "completed"
  | skipped => "skipped"

def narrativeNodeStateCodec : Codec NarrativeNodeState :=
  .unit NarrativeNodeState.name
    (fun text => [.inactive, .active, .completed, .skipped].find? (·.name = text))
    (fun state => by cases state <;> rfl)

def narrativeTransitionKindCodec : Codec NarrativeTransitionKind :=
  .unit NarrativeTransitionKind.asStr
    (fun text => [.activate, .complete, .skip].find? (·.asStr = text))
    (fun kind => by cases kind <;> rfl)

def ImpulseUrgency.name : ImpulseUrgency → String
  | low => "low"
  | medium => "medium"
  | high => "high"

def impulseUrgencyCodec : Codec ImpulseUrgency :=
  .unit ImpulseUrgency.name (fun text => [.low, .medium, .high].find? (·.name = text))
    (fun urgency => by cases urgency <;> rfl)

def turnNumberCodec : Codec TurnNumber :=
  .int (fun turn => turn.get.toNat)
    (fun value => if 0 ≤ value ∧ value < 2 ^ 64 then turnNumber (UInt64.ofNat value.toNat) else none)
    fun turn => by
      have bound := turn.get.toNat_lt
      rw [if_pos (by omega), Int.toNat_natCast, UInt64.ofNat_toNat, turnNumber, dif_pos turn.accepted]

def nonZeroU32Codec : Codec { turns : UInt32 // turns ≠ 0 } :=
  .int (fun turns => turns.val.toNat)
    (fun value =>
      if bounded : 0 ≤ value ∧ value < 2 ^ 32 ∧ UInt32.ofNat value.toNat ≠ 0 then
        some ⟨UInt32.ofNat value.toNat, bounded.2.2⟩
      else none)
    fun turns => by
      have bound := turns.val.toNat_lt
      have same : UInt32.ofNat (turns.val.toNat : Int).toNat = turns.val := by
        rw [Int.toNat_natCast, UInt32.ofNat_toNat]
      rw [dif_pos ⟨by omega, by omega, by rw [same]; exact turns.property⟩]
      exact congrArg some (Subtype.ext same)

/-! ### Effects -/

/-- `NarrativeEffectId::try_new`. -/
def narrativeEffectIdCodec : Codec AssetKey :=
  .text AssetKey.asStr (fun text => if isBlank text then none else some ⟨text⟩)
    (fun id => isBlank id.asStr = false) (fun _ readable => by simp [readable])
    (fun _ _ read => by
      split at read
      · cases read
      · rename_i written
        cases read
        simpa using written)

def narrativeEffectIds : KeyCodec AssetKey where
  text := AssetKey.asStr
  read text := if isBlank text then none else some ⟨text⟩
  Readable id := isBlank id.asStr = false
  back readable := by simp [readable]
  sound read := by
    split at read
    · cases read
    · rename_i written
      cases read
      simpa using written

def locationCodec : Codec (Option AssetKey) := .option assetKeyCodec assetKeyCodec_ne_null

/-- The variants of the adjacently tagged enum. -/
def narrativeParticipantCodec : Codec NarrativeParticipant where
  encode
    | .role roleId => .obj [("kind", .str "role"), ("key", roleIdCodec.encode roleId)]
    | .location key => .obj [("kind", .str "location"), ("key", assetKeyCodec.encode key)]
  decode json := do
    match ← Fields.find ["kind", "key"] 2 json with
    | [some (.str "role"), some key] => (roleIdCodec.decode key).map .role
    | [some (.str "location"), some key] => (assetKeyCodec.decode key).map .location
    | _ => none
  Readable participant := ∀ key, participant = .location key → isValidKey key.asStr = true
  back {participant} readable := by
    cases participant with
    | role roleId =>
      have back : roleIdCodec.decode (roleIdCodec.encode roleId) = some roleId :=
        roleIdCodec.back trivial
      simp [Fields.find, List.lookup_cons, back]
    | location key =>
      have back := assetKeyCodec.back (readable key rfl)
      simp [Fields.find, List.lookup_cons, back]
  sound {json participant} read := by
    rintro key rfl
    obtain ⟨values, _, read⟩ := Option.bind_eq_some_iff.mp read
    split at read
    · obtain ⟨_, _, same⟩ := Option.map_eq_some_iff.mp read
      cases same
    · obtain ⟨found, decoded, same⟩ := Option.map_eq_some_iff.mp read
      cases same
      exact assetKeyCodec.sound decoded
    · cases read

def worldEventVariant : Variant "type"
    (AssetKey × BoundedText × List NarrativeParticipant × Option AssetKey × BoundedText × Unit) where
  name := "world_event"
  fields := .cons "event_key" assetKeyCodec none
    <| .cons "category" boundedTextCodec none
    <| .cons "participants" (.list narrativeParticipantCodec) (some ⟨[], nofun⟩)
    <| .cons "location" locationCodec (some ⟨none, assetKeyCodec.none_readable⟩)
    <| .cons "description" boundedTextCodec none .nil
  needed := 5
  distinct := show ["event_key", "category", "participants", "location", "description"].Nodup by decide
  apart := show "type" ∉ ["event_key", "category", "participants", "location", "description"] by decide

def characterImpulseVariant : Variant "type"
    (RoleId × BoundedText × Option BoundedText × Option BoundedText × ImpulseUrgency ×
      Option { turns : UInt32 // turns ≠ 0 } × Unit) where
  name := "character_impulse"
  fields := .cons "target_role_id" roleIdCodec none
    <| .cons "goal" boundedTextCodec none
    <| .cons "reason" optionalTextCodec (some ⟨none, boundedTextCodec.none_readable⟩)
    <| .cons "emotion" optionalTextCodec (some ⟨none, boundedTextCodec.none_readable⟩)
    <| .cons "urgency" impulseUrgencyCodec none
    <| .cons "valid_for_turns" (.option nonZeroU32Codec fun _ => nofun) (some ⟨none, nofun⟩) .nil
  needed := 6
  distinct := show ["target_role_id", "goal", "reason", "emotion", "urgency",
    "valid_for_turns"].Nodup by decide
  apart := show "type" ∉ ["target_role_id", "goal", "reason", "emotion", "urgency",
    "valid_for_turns"] by decide

def narrativeEffectDefinitionCodec : Codec NarrativeEffectDefinition :=
  (worldEventVariant.either characterImpulseVariant (by decide)).imap
    (fun
      | .inl (eventKey, category, participants, location, description, _) =>
        .worldEvent eventKey category participants location description
      | .inr (targetRoleId, goal, reason, emotion, urgency, validForTurns, _) =>
        .characterImpulse targetRoleId goal reason emotion urgency validForTurns)
    (fun
      | .worldEvent eventKey category participants location description =>
        .inl (eventKey, category, participants, location, description, ⟨⟩)
      | .characterImpulse targetRoleId goal reason emotion urgency validForTurns =>
        .inr (targetRoleId, goal, reason, emotion, urgency, validForTurns, ⟨⟩))
    (fun definition => by cases definition <;> rfl)
    (fun parts => by cases parts <;> rfl)

def pendingNarrativeEffectCodec : Codec PendingNarrativeEffect :=
  (Fields.cons "effect_id" narrativeEffectIdCodec none
    <| .cons "source_node" assetKeyCodec none
    <| .cons "source_transition" narrativeTransitionKindCodec none
    <| .cons "source_graph_revision" unsigned64 none
    <| .cons "created_by_turn" (.option turnNumberCodec fun _ => nofun) (some ⟨none, nofun⟩)
    <| .cons "effect_index" unsigned32 none
    <| .cons "expires_after_turn" (.option unsigned64 fun _ => nofun) (some ⟨none, nofun⟩)
    <| .cons "definition" narrativeEffectDefinitionCodec none .nil).codec
    8 (show ["effect_id", "source_node", "source_transition", "source_graph_revision",
      "created_by_turn", "effect_index", "expires_after_turn", "definition"].Nodup by decide)
  |>.imap (fun (effectId, sourceNode, sourceTransition, sourceGraphRevision, createdByTurn,
      effectIndex, expiresAfterTurn, definition, _) => ⟨effectId, sourceNode, sourceTransition,
        sourceGraphRevision, createdByTurn, effectIndex, expiresAfterTurn, definition⟩)
    (fun effect => (effect.effectId, effect.sourceNode, effect.sourceTransition,
      effect.sourceGraphRevision, effect.createdByTurn, effect.effectIndex,
      effect.expiresAfterTurn, effect.definition, ⟨⟩)) (fun _ => rfl) (fun _ => rfl)

/-! ### The state -/

def narrativeRuntimeStateCodec : Codec NarrativeRuntimeState :=
  (Fields.cons "graph_revision" unsigned64 none
    <| .cons "node_states" (.map assetKeys narrativeNodeStateCodec) none
    <| .cons "activation_turns" (.map assetKeys turnNumberCodec) none
    <| .cons "pending_effects" (.map narrativeEffectIds pendingNarrativeEffectCodec) none .nil).codec
    4 (show ["graph_revision", "node_states", "activation_turns", "pending_effects"].Nodup by decide)
  |>.imap (fun (graphRevision, nodeStates, activationTurns, pendingEffects, _) =>
      ⟨graphRevision, nodeStates, activationTurns, pendingEffects⟩)
    (fun state => (state.graphRevision, state.nodeStates, state.activationTurns,
      state.pendingEffects, ⟨⟩)) (fun _ => rfl) (fun _ => rfl)

/-- The column of a state takes no fewer bytes than effects are pending. -/
theorem size_pendingEffects_le (state : NarrativeRuntimeState) :
    state.pendingEffects.size ≤ size (narrativeRuntimeStateCodec.encode state).pieces := by
  have entries := Codec.size_le_size_map narrativeEffectIds pendingNarrativeEffectCodec
    state.pendingEffects
  have field : ("pending_effects", (Codec.map narrativeEffectIds pendingNarrativeEffectCodec).encode
      state.pendingEffects) ∈ [
        ("graph_revision", unsigned64.encode state.graphRevision),
        ("node_states", (Codec.map assetKeys narrativeNodeStateCodec).encode state.nodeStates),
        ("activation_turns", (Codec.map assetKeys turnNumberCodec).encode state.activationTurns),
        ("pending_effects", (Codec.map narrativeEffectIds pendingNarrativeEffectCodec).encode
          state.pendingEffects)] := by
    simp
  exact entries.trans (size_le_size_obj field)

/-! ### What can be read back -/

/-- The keys that an effect is read back with. -/
def NarrativeEffectDefinition.Storable : NarrativeEffectDefinition → Prop
  | .worldEvent eventKey _ participants location _ =>
    isValidKey eventKey.asStr = true ∧
      (∀ participant ∈ participants, narrativeParticipantCodec.Readable participant) ∧
      ∀ key ∈ location, isValidKey key.asStr = true
  | .characterImpulse .. => True

theorem narrativeEffectDefinition_readable_iff {definition : NarrativeEffectDefinition} :
    narrativeEffectDefinitionCodec.Readable definition ↔ definition.Storable := by
  cases definition with
  | worldEvent eventKey category participants location description =>
    constructor
    · rintro ⟨named, _, participants, located, _⟩
      exact ⟨named, participants, located⟩
    · rintro ⟨named, participants, located⟩
      exact ⟨named, trivial, participants, located, trivial, trivial⟩
  | characterImpulse targetRoleId goal reason emotion urgency validForTurns =>
    constructor
    · exact fun _ => trivial
    · exact fun _ => ⟨trivial, trivial, fun _ _ => trivial, fun _ _ => trivial, trivial,
        fun _ _ => trivial, trivial⟩

structure PendingNarrativeEffect.Storable (effect : PendingNarrativeEffect) : Prop where
  identified : isBlank effect.effectId.asStr = false
  sourced : isValidKey effect.sourceNode.asStr = true
  defined : effect.definition.Storable

theorem pendingNarrativeEffect_readable_iff {effect : PendingNarrativeEffect} :
    pendingNarrativeEffectCodec.Readable effect ↔ effect.Storable := by
  constructor
  · rintro ⟨identified, sourced, _, _, _, _, _, defined, _⟩
    exact ⟨identified, sourced, narrativeEffectDefinition_readable_iff.mp defined⟩
  · rintro ⟨identified, sourced, defined⟩
    exact ⟨identified, sourced, trivial, trivial, fun _ _ => trivial, trivial, fun _ _ => trivial,
      narrativeEffectDefinition_readable_iff.mpr defined, trivial⟩

structure NarrativeRuntimeState.Storable (state : NarrativeRuntimeState) : Prop where
  nodes : ∀ entry ∈ state.nodeStates.toList, isValidKey entry.1.asStr = true
  turns : ∀ entry ∈ state.activationTurns.toList, isValidKey entry.1.asStr = true
  identified : ∀ entry ∈ state.pendingEffects.toList, isBlank entry.1.asStr = false
  effects : ∀ entry ∈ state.pendingEffects.toList, entry.2.Storable

theorem narrativeRuntimeState_readable_iff {state : NarrativeRuntimeState} :
    narrativeRuntimeStateCodec.Readable state ↔ state.Storable := by
  constructor
  · rintro ⟨_, nodes, turns, effects, _⟩
    exact ⟨fun entry member => (nodes entry member).1, fun entry member => (turns entry member).1,
      fun entry member => (effects entry member).1,
      fun entry member => pendingNarrativeEffect_readable_iff.mp (effects entry member).2⟩
  · rintro ⟨nodes, turns, identified, effects⟩
    exact ⟨trivial, fun entry member => ⟨nodes entry member, trivial⟩,
      fun entry member => ⟨turns entry member, trivial⟩,
      fun entry member => ⟨identified entry member,
        pendingNarrativeEffect_readable_iff.mpr (effects entry member)⟩, trivial⟩

/-- What is read of a pack has valid keys. -/
structure NarrativeGraphDefinition.Storable (definition : NarrativeGraphDefinition) : Prop where
  keyed : ∀ key ∈ definition.nodes, isValidKey key.asStr = true
  effects : ∀ (key : AssetKey) (node : NarrativeNodeDefinition), definition.nodes[key]? = some node →
    ∀ effect ∈ node.effects.onActivate ++ node.effects.onComplete, effect.Storable

end Aise.Domain
