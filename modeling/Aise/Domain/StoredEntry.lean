import Aise.Domain.Narrative.Stored

/-! How an entry of knowledge is stored, and what it is read as. -/
namespace Aise

def SecondaryLogic.name : SecondaryLogic → String
  | andAny => "and_any"
  | andAll => "and_all"
  | notAny => "not_any"
  | notAll => "not_all"

end Aise

namespace Aise.Domain
open RustText SerdeJson

/-! ### Activation rules -/

def boolCodec : Codec Bool where
  encode := .bool
  decode
    | .bool value => some value
    | _ => none
  Readable _ := True
  back _ := rfl
  sound _ := trivial

/-- The untagged enum has one variant. -/
def activationPatternCodec : Codec ActivationPattern :=
  Codec.string.imap ActivationPattern.mk ActivationPattern.literal (fun _ => rfl) (fun _ => rfl)

def activationGroupKeyCodec : Codec ActivationGroupKey :=
  Codec.string.imap ActivationGroupKey.mk ActivationGroupKey.asStr (fun _ => rfl) (fun _ => rfl)

def secondaryLogicCodec : Codec SecondaryLogic :=
  .unit SecondaryLogic.name (fun text => [.andAny, .andAll, .notAny, .notAll].find? (·.name = text))
    (fun logic => by cases logic <;> rfl)

def GenerationTrigger.name : GenerationTrigger → String
  | normal => "normal"
  | «continue» => "continue"
  | regenerate => "regenerate"
  | repair => "repair"
  | dryRunPreview => "dry_run_preview"

def generationTriggerCodec : Codec GenerationTrigger :=
  .unit GenerationTrigger.name
    (fun text => [.normal, .continue, .regenerate, .repair, .dryRunPreview].find? (·.name = text))
    (fun trigger => by cases trigger <;> rfl)

def ActivationBudgetClass.name : ActivationBudgetClass → String
  | normal => "normal"
  | reserved => "reserved"
  | mandatory => "mandatory"

def activationBudgetClassCodec : Codec ActivationBudgetClass :=
  .unit ActivationBudgetClass.name
    (fun text => [.normal, .reserved, .mandatory].find? (·.name = text))
    (fun budgetClass => by cases budgetClass <;> rfl)

def optionalUnsigned16 : Codec (Option UInt16) := .option unsigned16 fun _ written => nomatch written

def activationMatchRuleCodec : Codec ActivationMatchRule :=
  (Fields.cons "keys" (.list activationPatternCodec) (some ⟨[], nofun⟩)
    <| .cons "secondary_keys" (.list activationPatternCodec) (some ⟨[], nofun⟩)
    <| .cons "secondary_logic" secondaryLogicCodec (some ⟨.andAny, trivial⟩)
    <| .cons "case_sensitive" boolCodec (some ⟨false, trivial⟩)
    <| .cons "match_whole_words" boolCodec (some ⟨false, trivial⟩)
    <| .cons "scan_depth" optionalUnsigned16 (some ⟨none, nofun⟩) .nil).codec
    6 (show ["keys", "secondary_keys", "secondary_logic", "case_sensitive", "match_whole_words",
      "scan_depth"].Nodup by decide)
  |>.imap (fun (keys, secondaryKeys, secondaryLogic, caseSensitive, matchWholeWords, scanDepth, _) =>
      ⟨keys, secondaryKeys, secondaryLogic, caseSensitive, matchWholeWords, scanDepth⟩)
    (fun rule => (rule.keys, rule.secondaryKeys, rule.secondaryLogic, rule.caseSensitive,
      rule.matchWholeWords, rule.scanDepth, ⟨⟩)) (fun _ => rfl) (fun _ => rfl)

def activationModeCodec : Codec ActivationMode :=
  (Fields.cons "enabled" boolCodec (some ⟨true, trivial⟩)
    <| .cons "constant" boolCodec (some ⟨false, trivial⟩)
    <| .cons "exact_target_only" boolCodec (some ⟨false, trivial⟩) .nil).codec
    0 (show ["enabled", "constant", "exact_target_only"].Nodup by decide)
  |>.imap (fun (enabled, constant, exactTargetOnly, _) => ⟨enabled, constant, exactTargetOnly⟩)
    (fun mode => (mode.enabled, mode.constant, mode.exactTargetOnly, ⟨⟩)) (fun _ => rfl) (fun _ => rfl)

def activationRecursionRuleCodec : Codec ActivationRecursionRule :=
  (Fields.cons "exclude_recursion" boolCodec (some ⟨false, trivial⟩)
    <| .cons "prevent_recursion" boolCodec (some ⟨false, trivial⟩)
    <| .cons "delay_until_recursion" optionalUnsigned16 (some ⟨none, nofun⟩) .nil).codec
    3 (show ["exclude_recursion", "prevent_recursion", "delay_until_recursion"].Nodup by decide)
  |>.imap (fun (excludeRecursion, preventRecursion, delayUntilRecursion, _) =>
      ⟨excludeRecursion, preventRecursion, delayUntilRecursion⟩)
    (fun rule => (rule.excludeRecursion, rule.preventRecursion, rule.delayUntilRecursion, ⟨⟩))
    (fun _ => rfl) (fun _ => rfl)

def activationSelectionRuleCodec : Codec ActivationSelectionRule :=
  (Fields.cons "order" signed32 (some ⟨0, trivial⟩)
    <| .cons "probability" unsigned8 (some ⟨100, trivial⟩)
    <| .cons "groups" (.list activationGroupKeyCodec) (some ⟨[], nofun⟩)
    <| .cons "group_override" boolCodec (some ⟨false, trivial⟩)
    <| .cons "group_weight" unsigned32 (some ⟨100, trivial⟩)
    <| .cons "use_group_scoring" boolCodec (some ⟨false, trivial⟩) .nil).codec
    0 (show ["order", "probability", "groups", "group_override", "group_weight",
      "use_group_scoring"].Nodup by decide)
  |>.imap (fun (order, probability, groups, groupOverride, groupWeight, useGroupScoring, _) =>
      ⟨order, probability, groups, groupOverride, groupWeight, useGroupScoring⟩)
    (fun rule => (rule.order, rule.probability, rule.groups, rule.groupOverride, rule.groupWeight,
      rule.useGroupScoring, ⟨⟩)) (fun _ => rfl) (fun _ => rfl)

def activationTimingRuleCodec : Codec ActivationTimingRule :=
  (Fields.cons "sticky_turns" unsigned16 (some ⟨0, trivial⟩)
    <| .cons "cooldown_turns" unsigned16 (some ⟨0, trivial⟩)
    <| .cons "delay_turns" unsigned16 (some ⟨0, trivial⟩) .nil).codec
    0 (show ["sticky_turns", "cooldown_turns", "delay_turns"].Nodup by decide)
  |>.imap (fun (stickyTurns, cooldownTurns, delayTurns, _) => ⟨stickyTurns, cooldownTurns, delayTurns⟩)
    (fun rule => (rule.stickyTurns, rule.cooldownTurns, rule.delayTurns, ⟨⟩)) (fun _ => rfl)
    (fun _ => rfl)

def activationScopeRuleCodec : Codec ActivationScopeRule :=
  (Fields.cons "generation_triggers" (.list generationTriggerCodec) (some ⟨[], nofun⟩) .nil).codec
    0 (show ["generation_triggers"].Nodup by decide)
  |>.imap (fun (generationTriggers, _) => ⟨generationTriggers⟩)
    (fun rule => (rule.generationTriggers, ⟨⟩)) (fun _ => rfl) (fun _ => rfl)

def knowledgeActivationRuleCodec : Codec KnowledgeActivationRule :=
  (Fields.cons "match" activationMatchRuleCodec none
    <| .cons "mode" activationModeCodec none
    <| .cons "recursion" activationRecursionRuleCodec none
    <| .cons "selection" activationSelectionRuleCodec none
    <| .cons "timing" activationTimingRuleCodec none
    <| .cons "scope" activationScopeRuleCodec none
    <| .cons "budget_class" activationBudgetClassCodec none .nil).codec
    7 (show ["match", "mode", "recursion", "selection", "timing", "scope", "budget_class"].Nodup by
      decide)
  |>.imap (fun (matchRule, mode, recursion, selection, timing, scope, budgetClass, _) =>
      ⟨matchRule, mode, recursion, selection, timing, scope, budgetClass⟩)
    (fun rule => (rule.matchRule, rule.mode, rule.recursion, rule.selection, rule.timing, rule.scope,
      rule.budgetClass, ⟨⟩)) (fun _ => rfl) (fun _ => rfl)

/-- A rule is made of nothing that is checked. -/
theorem knowledgeActivationRule_readable (rule : KnowledgeActivationRule) :
    knowledgeActivationRuleCodec.Readable rule := by
  refine ⟨⟨?_, ?_, trivial, trivial, trivial, ?_, trivial⟩, ⟨trivial, trivial, trivial, trivial⟩,
    ⟨trivial, trivial, ?_, trivial⟩, ⟨trivial, trivial, ?_, trivial, trivial, trivial, trivial⟩,
    ⟨trivial, trivial, trivial, trivial⟩, ⟨?_, trivial⟩, trivial, trivial⟩
  · exact fun _ _ => trivial
  · exact fun _ _ => trivial
  · exact fun _ _ => trivial
  · exact fun _ _ => trivial
  · exact fun _ _ => trivial
  · exact fun _ _ => trivial

def activationRuleVersionCodec : Codec ActivationRuleVersion :=
  digestCodec.imap ActivationRuleVersion.mk ActivationRuleVersion.asDigest (fun _ => rfl) (fun _ => rfl)

/-! ### Sources and identifiers -/

def seedFields : Fields (AssetKey × Sha256Digest × Unit) :=
  .cons "pack_id" assetKeyCodec none <| .cons "pack_digest" digestCodec none .nil

def committedTurnFields : Fields (TurnNumber × Unit) := .cons "turn_number" turnNumberCodec none .nil

def knowledgeSourceCodec : Codec KnowledgeSource :=
  (Codec.either "seed" (seedFields.openCodec 2 (show ["pack_id", "pack_digest"].Nodup by decide))
    "committed_turn" (committedTurnFields.openCodec 1 (show ["turn_number"].Nodup by decide))
    (by decide)).imap
    (fun
      | .inl (packId, packDigest, _) => .seed packId packDigest
      | .inr (turnNumber, _) => .committedTurn turnNumber)
    (fun
      | .seed packId packDigest => .inl (packId, packDigest, ⟨⟩)
      | .committedTurn turnNumber => .inr (turnNumber, ⟨⟩))
    (fun source => by cases source <;> rfl) (fun parts => by cases parts <;> rfl)

def knowledgeIdCodec (kind : KnowledgeKind) : Codec (KnowledgeId kind) :=
  .text (·.1.asStr) (KnowledgeId.tryNew kind) (fun _ => True) (fun id _ => id.tryNew_asStr)
    (fun _ _ _ => trivial)

theorem RetrievalHint.tryNew_value (hint : RetrievalHint) : RetrievalHint.tryNew hint.value = some hint :=
  dif_pos hint.accepted

def retrievalHintCodec : Codec RetrievalHint :=
  .text RetrievalHint.value RetrievalHint.tryNew (fun _ => True) (fun hint _ => hint.tryNew_value)
    (fun _ _ _ => trivial)

def semanticKeyCodec : Codec AssetKey :=
  .text AssetKey.asStr AssetKey.tryNewSemantic (fun key => isValidSemanticKey key.asStr = true)
    (fun _ readable => if_pos readable)
    (fun _ _ read => by
      unfold AssetKey.tryNewSemantic at read
      split at read
      · rename_i valid
        cases read
        exact valid
      · cases read)

/-! ### Entries -/

def TruthValue.name : TruthValue → String
  | true => "true"
  | false => "false"
  | unverified => "unverified"

def truthValueCodec : Codec TruthValue :=
  .unit TruthValue.name (fun text => [.true, .false, .unverified].find? (·.name = text))
    (fun truthValue => by cases truthValue <;> rfl)

/-- The codec of a `Proposition` and of a `Claim`. -/
def propositionCodec : Codec Proposition :=
  (Fields.cons "subject" boundedTextCodec none
    <| .cons "predicate" boundedTextCodec none
    <| .cons "value" scalarValueCodec none .nil).codec
    3 (show ["subject", "predicate", "value"].Nodup by decide)
  |>.imap (fun (subject, predicate, value, _) => ⟨subject, predicate, value⟩)
    (fun proposition => (proposition.subject, proposition.predicate, proposition.value, ⟨⟩))
    (fun _ => rfl) (fun _ => rfl)

def optionalKeyCodec : Codec (Option AssetKey) := .option assetKeyCodec assetKeyCodec_ne_null

def optionalRoleIdCodec : Codec (Option RoleId) := .option roleIdCodec fun _ written => nomatch written

def optionalPropositionCodec : Codec (Option Proposition) :=
  .option propositionCodec fun _ written => nomatch written

def worldFactCodec : Codec WorldFact :=
  (Fields.cons "id" (knowledgeIdCodec .fact) none
    <| .cons "key" optionalKeyCodec (some ⟨none, assetKeyCodec.none_readable⟩)
    <| .cons "text" boundedTextCodec none
    <| .cons "proposition" optionalPropositionCodec (some ⟨none, nofun⟩)
    <| .cons "retrieval_hint" retrievalHintCodec none
    <| .cons "activation" knowledgeActivationRuleCodec none
    <| .cons "activation_rule_version" activationRuleVersionCodec none
    <| .cons "salience" unsigned8 none
    <| .cons "source" knowledgeSourceCodec none .nil).codec
    9 (show ["id", "key", "text", "proposition", "retrieval_hint", "activation",
      "activation_rule_version", "salience", "source"].Nodup by decide)
  |>.imap (fun (id, key, text, proposition, retrievalHint, activation, activationRuleVersion,
      salience, source, _) => ⟨id, key, text, proposition, retrievalHint, activation,
        activationRuleVersion, salience, source⟩)
    (fun fact => (fact.id, fact.key, fact.text, fact.proposition, fact.retrievalHint,
      fact.activation, fact.activationRuleVersion, fact.salience, fact.source, ⟨⟩))
    (fun _ => rfl) (fun _ => rfl)

def sharedRumorCodec : Codec SharedRumor :=
  (Fields.cons "id" (knowledgeIdCodec .rumor) none
    <| .cons "key" optionalKeyCodec (some ⟨none, assetKeyCodec.none_readable⟩)
    <| .cons "content" boundedTextCodec none
    <| .cons "claim" optionalPropositionCodec (some ⟨none, nofun⟩)
    <| .cons "retrieval_hint" retrievalHintCodec none
    <| .cons "activation" knowledgeActivationRuleCodec none
    <| .cons "activation_rule_version" activationRuleVersionCodec none
    <| .cons "salience" unsigned8 none
    <| .cons "source_role_id" optionalRoleIdCodec (some ⟨none, nofun⟩)
    <| .cons "truth_value" truthValueCodec none
    <| .cons "source" knowledgeSourceCodec none .nil).codec
    11 (show ["id", "key", "content", "claim", "retrieval_hint", "activation",
      "activation_rule_version", "salience", "source_role_id", "truth_value", "source"].Nodup by
      decide)
  |>.imap (fun (id, key, content, claim, retrievalHint, activation, activationRuleVersion, salience,
      sourceRoleId, truthValue, source, _) => ⟨id, key, content, claim, retrievalHint, activation,
        activationRuleVersion, salience, sourceRoleId, truthValue, source⟩)
    (fun rumor => (rumor.id, rumor.key, rumor.content, rumor.claim, rumor.retrievalHint,
      rumor.activation, rumor.activationRuleVersion, rumor.salience, rumor.sourceRoleId,
      rumor.truthValue, rumor.source, ⟨⟩)) (fun _ => rfl) (fun _ => rfl)

def memoryEntryCodec : Codec MemoryEntry :=
  (Fields.cons "id" (knowledgeIdCodec .memory) none
    <| .cons "owner" roleIdCodec none
    <| .cons "kind" semanticKeyCodec none
    <| .cons "content" boundedTextCodec none
    <| .cons "salience" unsigned8 none
    <| .cons "source" knowledgeSourceCodec none
    <| .cons "created_at_ms" signed64 none .nil).codec
    7 (show ["id", "owner", "kind", "content", "salience", "source", "created_at_ms"].Nodup by decide)
  |>.imap (fun (id, owner, kind, content, salience, source, createdAtMs, _) =>
      ⟨id, owner, kind, content, salience, source, createdAtMs⟩)
    (fun memory => (memory.id, memory.owner, memory.kind, memory.content, memory.salience,
      memory.source, memory.createdAtMs, ⟨⟩)) (fun _ => rfl) (fun _ => rfl)

/-- The variants of the adjacently tagged enum. -/
def knowledgeEntryCodec : Codec KnowledgeEntry where
  encode
    | .fact fact => .obj [("kind", .str "fact"), ("value", worldFactCodec.encode fact)]
    | .rumor rumor => .obj [("kind", .str "rumor"), ("value", sharedRumorCodec.encode rumor)]
    | .memory memory => .obj [("kind", .str "memory"), ("value", memoryEntryCodec.encode memory)]
  decode json := do
    match ← Fields.find ["kind", "value"] 2 json with
    | [some (.str "fact"), some value] => (worldFactCodec.decode value).map .fact
    | [some (.str "rumor"), some value] => (sharedRumorCodec.decode value).map .rumor
    | [some (.str "memory"), some value] => (memoryEntryCodec.decode value).map .memory
    | _ => none
  Readable
    | .fact fact => worldFactCodec.Readable fact
    | .rumor rumor => sharedRumorCodec.Readable rumor
    | .memory memory => memoryEntryCodec.Readable memory
  back {entry} readable := by
    cases entry with
    | fact fact => simp [Fields.find, List.lookup_cons, worldFactCodec.back readable]
    | rumor rumor => simp [Fields.find, List.lookup_cons, sharedRumorCodec.back readable]
    | memory memory => simp [Fields.find, List.lookup_cons, memoryEntryCodec.back readable]
  sound {json entry} read := by
    obtain ⟨values, _, read⟩ := Option.bind_eq_some_iff.mp read
    split at read
    · obtain ⟨fact, decoded, rfl⟩ := Option.map_eq_some_iff.mp read
      exact worldFactCodec.sound decoded
    · obtain ⟨rumor, decoded, rfl⟩ := Option.map_eq_some_iff.mp read
      exact sharedRumorCodec.sound decoded
    · obtain ⟨memory, decoded, rfl⟩ := Option.map_eq_some_iff.mp read
      exact memoryEntryCodec.sound decoded
    · cases read

/-! ### What can be read back -/

/-- What a scalar is read as after it was written. -/
def ScalarValue.stored : ScalarValue → ScalarValue
  | .text value => .decimal value
  | value => value

def Proposition.stored (proposition : Proposition) : Proposition :=
  { proposition with value := proposition.value.stored }

theorem optionalProposition_encode_stored (proposition : Option Proposition) :
    optionalPropositionCodec.encode (proposition.map Proposition.stored) =
      optionalPropositionCodec.encode proposition := by
  cases proposition with
  | none => rfl
  | some proposition =>
    obtain ⟨subject, predicate, value⟩ := proposition
    cases value <;> rfl

theorem optionalProposition_readable_stored (proposition : Option Proposition) :
    optionalPropositionCodec.Readable (proposition.map Proposition.stored) := by
  intro item member
  obtain ⟨original, _, rfl⟩ := Option.map_eq_some_iff.mp member
  refine ⟨trivial, trivial, ?_, trivial⟩
  intro text same
  obtain ⟨subject, predicate, value⟩ := original
  cases value <;> cases same

def KnowledgeSource.Storable : KnowledgeSource → Prop
  | .seed packId _ => isValidKey packId.asStr = true
  | .committedTurn _ => True

theorem knowledgeSource_readable_iff {source : KnowledgeSource} :
    knowledgeSourceCodec.Readable source ↔ source.Storable := by
  cases source with
  | seed packId packDigest =>
    constructor
    · exact fun readable => readable.1
    · exact fun valid => ⟨valid, trivial, trivial⟩
  | committedTurn turnNumber =>
    constructor
    · exact fun _ => trivial
    · exact fun _ => ⟨trivial, trivial⟩

namespace KnowledgeEntry

/-- What an entry is read as after it was written. -/
def stored : KnowledgeEntry → KnowledgeEntry
  | .fact value => .fact { value with proposition := value.proposition.map Proposition.stored }
  | .rumor value => .rumor { value with claim := value.claim.map Proposition.stored }
  | .memory value => .memory value

def key : KnowledgeEntry → Option AssetKey
  | .fact value => value.key
  | .rumor value => value.key
  | .memory _ => none

def memoryKind : KnowledgeEntry → Option AssetKey
  | .fact _ | .rumor _ => none
  | .memory value => some value.kind

/-- What an update takes from the entry can be read back. -/
structure Rewritable (entry : KnowledgeEntry) : Prop where
  source : entry.source.Storable
  memoryKind : ∀ kind ∈ entry.memoryKind, isValidSemanticKey kind.asStr = true

/-- The keys that the entry is read back with. -/
structure Storable (entry : KnowledgeEntry) : Prop extends entry.Rewritable where
  key : ∀ key ∈ entry.key, isValidKey key.asStr = true

@[simp] theorem stored_sourceId (entry : KnowledgeEntry) : entry.stored.sourceId = entry.sourceId := by
  cases entry <;> rfl

@[simp] theorem stored_kind (entry : KnowledgeEntry) : entry.stored.kind = entry.kind := by
  cases entry <;> rfl

@[simp] theorem stored_memoryOwner (entry : KnowledgeEntry) :
    entry.stored.memoryOwner = entry.memoryOwner := by
  cases entry <;> rfl

@[simp] theorem stored_content (entry : KnowledgeEntry) : entry.stored.content = entry.content := by
  cases entry <;> rfl

@[simp] theorem stored_retrievalHint (entry : KnowledgeEntry) :
    entry.stored.retrievalHint = entry.retrievalHint := by
  cases entry <;> rfl

@[simp] theorem stored_salience (entry : KnowledgeEntry) : entry.stored.salience = entry.salience := by
  cases entry <;> rfl

@[simp] theorem stored_source (entry : KnowledgeEntry) : entry.stored.source = entry.source := by
  cases entry <;> rfl

@[simp] theorem stored_activation (entry : KnowledgeEntry) :
    entry.stored.activation = entry.activation := by
  cases entry <;> rfl

theorem encode_stored (entry : KnowledgeEntry) :
    knowledgeEntryCodec.encode entry.stored = knowledgeEntryCodec.encode entry := by
  cases entry with
  | fact fact =>
    have same := optionalProposition_encode_stored fact.proposition
    simp only [stored, knowledgeEntryCodec, worldFactCodec, Codec.imap, Fields.codec, Fields.cons, same]
  | rumor rumor =>
    have same := optionalProposition_encode_stored rumor.claim
    simp only [stored, knowledgeEntryCodec, sharedRumorCodec, Codec.imap, Fields.codec, Fields.cons, same]
  | memory memory => rfl

theorem readable_stored {entry : KnowledgeEntry} (storable : entry.Storable) :
    knowledgeEntryCodec.Readable entry.stored := by
  have source := knowledgeSource_readable_iff.mpr storable.source
  cases entry with
  | fact fact =>
    exact ⟨trivial, storable.key, trivial, optionalProposition_readable_stored fact.proposition, trivial,
      knowledgeActivationRule_readable _, trivial, trivial, source, trivial⟩
  | rumor rumor =>
    exact ⟨trivial, storable.key, trivial, optionalProposition_readable_stored rumor.claim, trivial,
      knowledgeActivationRule_readable _, trivial, trivial, fun _ _ => trivial, trivial, source, trivial⟩
  | memory memory =>
    exact ⟨trivial, trivial, storable.memoryKind _ rfl, trivial, trivial, source, trivial, trivial⟩

end KnowledgeEntry

theorem AssetKey.valid_of_readsAs {key other : AssetKey} (read : assetKeyCodec.ReadsAs key other) :
    isValidKey key.asStr = true :=
  (AssetKey.tryNew_eq_some.mp read).1

theorem optionalKey_valid {key other : Option AssetKey} (read : optionalKeyCodec.ReadsAs key other) :
    ∀ item ∈ key, isValidKey item.asStr = true := by
  rintro item rfl
  obtain ⟨found, _, same⟩ := Codec.readsAs_option read
  exact AssetKey.valid_of_readsAs same

theorem KnowledgeSource.storable_of_readsAs {source other : KnowledgeSource}
    (read : knowledgeSourceCodec.ReadsAs source other) : source.Storable := by
  cases source with
  | committedTurn turnNumber => trivial
  | seed packId packDigest =>
    rw [knowledgeSourceCodec, Codec.readsAs_imap] at read
    obtain ⟨found, _, same⟩ := Codec.readsAs_either read
    exact AssetKey.valid_of_readsAs (Fields.readsAs_cons.mp (Fields.readsAs_openCodec.mp same)).1

theorem semanticKey_valid {key other : AssetKey} (read : semanticKeyCodec.ReadsAs key other) :
    isValidSemanticKey key.asStr = true := by
  have named : AssetKey.tryNewSemantic key.asStr = some other := read
  have valid : isValidSemanticKey other.asStr = true := semanticKeyCodec.sound read
  rwa [AssetKey.tryNewSemantic_eq_some named] at valid

namespace KnowledgeEntry

theorem storable_of_readsAs {entry other : KnowledgeEntry}
    (read : knowledgeEntryCodec.ReadsAs entry other) : entry.Storable := by
  cases entry with
  | fact value =>
    have found : ∃ fact, worldFactCodec.ReadsAs value fact := by
      obtain ⟨fact, read, _⟩ := Option.map_eq_some_iff.mp read
      exact ⟨fact, read⟩
    obtain ⟨fact, same⟩ := found
    rw [worldFactCodec, Codec.readsAs_imap] at same
    replace same := Fields.readsAs_codec.mp same
    simp only [Fields.readsAs_cons] at same
    obtain ⟨_, key, _, _, _, _, _, _, source, _⟩ := same
    exact ⟨⟨KnowledgeSource.storable_of_readsAs source, nofun⟩, optionalKey_valid key⟩
  | rumor value =>
    have found : ∃ rumor, sharedRumorCodec.ReadsAs value rumor := by
      obtain ⟨rumor, read, _⟩ := Option.map_eq_some_iff.mp read
      exact ⟨rumor, read⟩
    obtain ⟨rumor, same⟩ := found
    rw [sharedRumorCodec, Codec.readsAs_imap] at same
    replace same := Fields.readsAs_codec.mp same
    simp only [Fields.readsAs_cons] at same
    obtain ⟨_, key, _, _, _, _, _, _, _, _, source, _⟩ := same
    exact ⟨⟨KnowledgeSource.storable_of_readsAs source, nofun⟩, optionalKey_valid key⟩
  | memory value =>
    have found : ∃ memory, memoryEntryCodec.ReadsAs value memory := by
      obtain ⟨memory, read, _⟩ := Option.map_eq_some_iff.mp read
      exact ⟨memory, read⟩
    obtain ⟨memory, same⟩ := found
    rw [memoryEntryCodec, Codec.readsAs_imap] at same
    replace same := Fields.readsAs_codec.mp same
    simp only [Fields.readsAs_cons] at same
    obtain ⟨_, _, kind, _, _, source, _⟩ := same
    refine ⟨⟨KnowledgeSource.storable_of_readsAs source, ?_⟩, nofun⟩
    rintro key ⟨⟩
    exact semanticKey_valid kind

/-- An entry is read back exactly if its keys are valid, and a text in it as a decimal. -/
theorem readsAs_iff {entry other : KnowledgeEntry} :
    knowledgeEntryCodec.ReadsAs entry other ↔ entry.Storable ∧ other = entry.stored := by
  have back (storable : entry.Storable) : knowledgeEntryCodec.ReadsAs entry entry.stored := by
    rw [Codec.ReadsAs, ← encode_stored]
    exact knowledgeEntryCodec.back (readable_stored storable)
  constructor
  · intro read
    have storable := storable_of_readsAs read
    exact ⟨storable, Option.some.inj (read.symm.trans (back storable))⟩
  · rintro ⟨storable, rfl⟩
    exact back storable

end KnowledgeEntry

end Aise.Domain
