import Aise.Domain.Activation.Compile
import Aise.Domain.Narrative.Projector
import Aise.Story.ReadSnapshot

/-! What the model extracted from a turn, and the changes to knowledge that are made of it. An
addition takes the next identifiers of the story, an update or a delete needs what was retrieved. -/
namespace Aise.Domain
open RustText

/-! ### What was extracted -/

structure StoryStateExtractionLimits where
  maxNewRoles : Nat
  maxRoleStates : Nat
  maxRelationshipStates : Nat
  maxKnowledgeItems : Nat
  maxGoalsPerRole : Nat
  maxAttributesPerRole : Nat
  maxItemBytes : Nat
  maxRoleProfileBytes : Nat
  maxKnowledgeChangeBytes : Nat
  maxCastPolicyViolations : Nat
  maxConditionQueries : Nat
  maxConditionEvidenceBytes : Nat
  maxConditionReasonBytes : Nat
  maxActivationTerms : Nat
  maxActivationPatternBytes : Nat
  deriving DecidableEq

/-- An attribute is named by any text, which becomes its key. -/
structure RoleStateDto where
  roleId : String
  location : String
  goals : List String := []
  attributes : BTreeMap AssetKey ScalarValue := ∅
  deriving DecidableEq

structure NewRoleDto extends RoleStateDto where
  name : String
  roleLabel : String
  narrativeFunction : String
  background : String := ""
  appearance : String := ""
  personality : String := ""
  speakingStyle : String := ""
  deriving DecidableEq

structure RelationshipStateDto where
  sourceRoleId : String
  targetRoleId : String
  kind : String
  trust : Int64
  deriving DecidableEq

structure FactDraftDto where
  content : String
  retrievalHint : String
  activationTerms : List String := []
  exactTargetOnly : Bool := false
  deriving DecidableEq

structure FactUpdateDto where
  id : String
  content : String
  retrievalHint : String
  activationTerms : Option (List String) := none
  deriving DecidableEq

structure RumorDraftDto extends FactDraftDto where
  sourceRoleId : String
  truthValue : TruthValue
  deriving DecidableEq

structure RumorUpdateDto extends FactUpdateDto where
  sourceRoleId : String
  truthValue : TruthValue
  deriving DecidableEq

structure MemoryDraftDto where
  ownerRoleId : String
  memoryKind : String
  content : String
  deriving DecidableEq

structure MemoryUpdateDto where
  id : String
  memoryKind : String
  content : String
  deriving DecidableEq

structure NarrativeConditionJudgmentDto where
  conditionKey : String
  status : NarrativeTruthValue
  evidence : String
  reason : String
  deriving DecidableEq

structure StoryStateExtractionDto where
  newRoles : List NewRoleDto := []
  roleStates : List RoleStateDto := []
  relationshipStates : List RelationshipStateDto := []
  addFacts : List FactDraftDto := []
  updateFacts : List FactUpdateDto := []
  addRumors : List RumorDraftDto := []
  updateRumors : List RumorUpdateDto := []
  deleteRumorIds : List String := []
  addMemories : List MemoryDraftDto := []
  updateMemories : List MemoryUpdateDto := []
  deleteMemoryIds : List String := []
  narrativeConditionJudgments : List NarrativeConditionJudgmentDto := []
  castPolicyViolations : List String := []
  deriving DecidableEq

structure StoryCandidateVersion where
  contentDigest : Sha256Digest
  repairAttempt : UInt32
  deriving DecidableEq

structure StoryStateExtractionEnvelope extends NarrativeExtraction where
  candidateVersion : StoryCandidateVersion
  state : StoryStateExtractionDto
  deriving DecidableEq

/-! ### Changes to knowledge -/

inductive DeletableKnowledgeId where
  | rumor (id : KnowledgeId .rumor)
  | memory (id : KnowledgeId .memory)
  deriving DecidableEq

def DeletableKnowledgeId.sourceId : DeletableKnowledgeId → KnowledgeSourceId
  | .rumor id => id.1
  | .memory id => id.1

inductive ValidatedKnowledgeOperation where
  | add (entry : KnowledgeEntry)
  | update (target : KnowledgeSourceId) (value : KnowledgeEntry)
  | delete (target : DeletableKnowledgeId)
  deriving DecidableEq

structure ValidatedKnowledgeMutation where
  ordinal : UInt32
  operation : ValidatedKnowledgeOperation
  deriving DecidableEq

inductive ExtractionEnrichmentError where
  | contentExceedsBudget | invalidRetrievalHint | invalidActivationRule | allocationOverflow
  | unknownTarget | unknownSourceRole | unknownOwnerRole | invalidMemoryKind | ordinalOverflow
  deriving DecidableEq

structure KnowledgeEnrichmentContext where
  retrieved : RetrievedContext
  turnNumber : TurnNumber
  createdAtMs : Int64
  maxContentBytes : Nat
  maxActivationTerms : Nat
  maxActivationPatternBytes : Nat
  activationRuleLimits : ActivationRuleLimits

def defaultRuntimeKnowledgeSalience : UInt8 := 128

theorem kind_of_accepted (kind : KnowledgeKind) (value : String)
    (accepted : isKnowledgeId kind value = true) :
    (⟨kind, value, accepted⟩ : KnowledgeSourceId).kind = kind := rfl

/-- `FactId::try_new(value).ok()` and its like. -/
def knowledgeIdOf (kind : KnowledgeKind) (value : String) : Option (KnowledgeId kind) :=
  if accepted : isKnowledgeId kind value = true then some ⟨⟨kind, value, accepted⟩, kind_of_accepted kind value accepted⟩ else none

/-! ### What was retrieved -/

def existingFact (retrieved : RetrievedContext) (id : KnowledgeId .fact) :
    Option RetrievedKnowledgeItem :=
  retrieved.world.facts.find? (·.sourceId = id.1)

def existingRumor (retrieved : RetrievedContext) (id : KnowledgeId .rumor) :
    Option RetrievedKnowledgeItem :=
  (retrieved.world.rumors ++ (valuesOf retrieved.characters).flatMap (·.knownRumors)).find?
    (·.sourceId = id.1)

/-- The role under which the memory was retrieved, with the salience it has. -/
def existingMemory (retrieved : RetrievedContext) (id : KnowledgeId .memory) :
    Option (RoleId × UInt8) :=
  retrieved.characters.toList.findSome? fun (roleId, character) =>
    (character.memories.find? (·.sourceId = id.1)).map fun item => (roleId, item.salience)

/-! ### Rules -/

/-- `KnowledgeActivationRule::disabled`. -/
def disabledActivationRule : KnowledgeActivationRule where
  matchRule := {}
  mode := { enabled := false }
  budgetClass := .normal

/-- A term that cannot be a literal. -/
def refusedTerm (maxPatternBytes : Nat) (term : String) : Bool :=
  len term > maxPatternBytes || isBlank term || ['/'].isPrefixOf (trim term).toList ||
    contains openBraces term.toList || contains closeBraces term.toList

section
variable (externals : Externals) (engine : RegexEngine)

/-- The loop of `replace_activation_terms`, with the terms seen so far. -/
def activationPatterns (maxPatternBytes : Nat) (caseSensitive : Bool) :
    (seen : List String) → List String → Except ExtractionEnrichmentError (List ActivationPattern)
  | _, [] => .ok []
  | seen, term :: terms =>
    let normalized := normalizeText externals.tables term caseSensitive
    if refusedTerm maxPatternBytes term then .error .invalidActivationRule
    else if normalized = "" ∨ normalized ∈ seen then .error .invalidActivationRule
    else return ⟨normalized⟩ ::
      (← activationPatterns maxPatternBytes caseSensitive (normalized :: seen) terms)

variable (context : KnowledgeEnrichmentContext)

def replaceActivationTerms (rule : KnowledgeActivationRule) (terms : List String) :
    Except ExtractionEnrichmentError KnowledgeActivationRule :=
  if terms.length > context.maxActivationTerms then .error .invalidActivationRule
  else do
    let patterns ← activationPatterns externals context.maxActivationPatternBytes
      rule.matchRule.caseSensitive [] terms
    let rule := { rule with matchRule := { rule.matchRule with keys := patterns } }
    (rule.validate engine context.activationRuleLimits).mapError fun _ => .invalidActivationRule
    return rule

def dynamicActivationRule (terms : List String) (exactTargetOnly : Bool) :
    Except ExtractionEnrichmentError KnowledgeActivationRule :=
  replaceActivationTerms externals engine context
    { disabledActivationRule with mode := { enabled := true, exactTargetOnly } } terms

/-- The rule of an entry that is updated. -/
def updatedActivationRule (existing : RetrievedKnowledgeItem) (terms : Option (List String)) :
    Except ExtractionEnrichmentError KnowledgeActivationRule := do
  let rule ← Result.okOr existing.activation .invalidActivationRule
  match terms with
  | some terms => replaceActivationTerms externals engine context rule terms
  | none => return rule

/-! ### Fields -/

def boundedContent (value : String) : Except ExtractionEnrichmentError BoundedText :=
  (BoundedText.tryNew (trim value) "knowledge_content" context.maxContentBytes).mapError
    fun _ => .contentExceedsBudget

def enrichedRetrievalHint (raw : String) : Except ExtractionEnrichmentError RetrievalHint :=
  Result.okOr (RetrievalHint.tryNew (trim raw)) .invalidRetrievalHint

variable (snapshot : StorySnapshot) (acceptedNewRoles : List StoryRole)

def roleIsKnown (roleId : RoleId) : Bool :=
  (snapshot.role roleId).isSome || acceptedNewRoles.any (·.roleId = roleId)

def resolveSourceRole (raw : String) : Except ExtractionEnrichmentError (Option RoleId) :=
  if isBlank raw then .ok none
  else do
    let roleId ← Result.okOr (RoleId.tryNew raw) .unknownSourceRole
    if roleIsKnown snapshot acceptedNewRoles roleId then return some roleId
    else .error .unknownSourceRole

/-! ### Operations -/

/-- The next of the identifiers that were allocated, which has to be of the kind. -/
def nextAssigned (kind : KnowledgeKind) :
    List KnowledgeSourceId →
      Except ExtractionEnrichmentError (KnowledgeId kind × List KnowledgeSourceId)
  | [] => .error .allocationOverflow
  | id :: ids => if same : id.kind = kind then .ok (⟨id, same⟩, ids) else .error .allocationOverflow

/-- What the three loops over drafts share. What a loop checks before it takes an identifier is
`prepare`, and `finish` is the rest. -/
def addEach {Draft Prepared : Type} (kind : KnowledgeKind)
    (prepare : Draft → Except ExtractionEnrichmentError Prepared)
    (finish : Draft → Prepared → KnowledgeId kind → Except ExtractionEnrichmentError KnowledgeEntry) :
    List Draft → List KnowledgeSourceId →
      Except ExtractionEnrichmentError (List KnowledgeEntry × List KnowledgeSourceId)
  | [], ids => .ok ([], ids)
  | draft :: drafts, ids => do
    let prepared ← prepare draft
    let (id, ids) ← nextAssigned kind ids
    let entry ← finish draft prepared id
    let (entries, ids) ← addEach kind prepare finish drafts ids
    return (entry :: entries, ids)

def KnowledgeEnrichmentContext.source : KnowledgeSource := .committedTurn context.turnNumber

def prepareFact (draft : FactDraftDto) :
    Except ExtractionEnrichmentError (BoundedText × RetrievalHint) := do
  let content ← boundedContent context draft.content
  let retrievalHint ← enrichedRetrievalHint draft.retrievalHint
  return (content, retrievalHint)

def finishFact (draft : FactDraftDto) (prepared : BoundedText × RetrievalHint)
    (id : KnowledgeId .fact) : Except ExtractionEnrichmentError KnowledgeEntry := do
  let activation ← dynamicActivationRule externals engine context draft.activationTerms
    draft.exactTargetOnly
  return .fact {
    id
    key := none
    text := prepared.1
    proposition := none
    retrievalHint := prepared.2
    activation
    activationRuleVersion := .fromRule externals activation
    salience := defaultRuntimeKnowledgeSalience
    source := context.source }

def updateFact (update : FactUpdateDto) :
    Except ExtractionEnrichmentError ValidatedKnowledgeOperation := do
  let target ← Result.okOr (knowledgeIdOf .fact update.id) .unknownTarget
  let existing ← Result.okOr (existingFact context.retrieved target) .unknownTarget
  let content ← boundedContent context update.content
  let retrievalHint ← enrichedRetrievalHint update.retrievalHint
  let activation ← updatedActivationRule externals engine context existing update.activationTerms
  return .update target (.fact {
    id := target
    key := none
    text := content
    proposition := none
    retrievalHint
    activation
    activationRuleVersion := .fromRule externals activation
    salience := existing.salience
    source := context.source })

def prepareRumor (draft : RumorDraftDto) : Except ExtractionEnrichmentError
    (BoundedText × RetrievalHint × Option RoleId × KnowledgeActivationRule) := do
  let content ← boundedContent context draft.content
  let retrievalHint ← enrichedRetrievalHint draft.retrievalHint
  let sourceRoleId ← resolveSourceRole snapshot acceptedNewRoles draft.sourceRoleId
  let activation ← dynamicActivationRule externals engine context draft.activationTerms
    draft.exactTargetOnly
  return (content, retrievalHint, sourceRoleId, activation)

def finishRumor (draft : RumorDraftDto)
    (prepared : BoundedText × RetrievalHint × Option RoleId × KnowledgeActivationRule)
    (id : KnowledgeId .rumor) : Except ExtractionEnrichmentError KnowledgeEntry :=
  let (content, retrievalHint, sourceRoleId, activation) := prepared
  .ok (.rumor {
    id
    key := none
    content
    claim := none
    retrievalHint
    activation
    activationRuleVersion := .fromRule externals activation
    salience := defaultRuntimeKnowledgeSalience
    sourceRoleId
    truthValue := draft.truthValue
    source := context.source })

def updateRumor (update : RumorUpdateDto) :
    Except ExtractionEnrichmentError ValidatedKnowledgeOperation := do
  let target ← Result.okOr (knowledgeIdOf .rumor update.id) .unknownTarget
  let existing ← Result.okOr (existingRumor context.retrieved target) .unknownTarget
  let content ← boundedContent context update.content
  let retrievalHint ← enrichedRetrievalHint update.retrievalHint
  let sourceRoleId ← resolveSourceRole snapshot acceptedNewRoles update.sourceRoleId
  let activation ← updatedActivationRule externals engine context existing update.activationTerms
  return .update target (.rumor {
    id := target
    key := none
    content
    claim := none
    retrievalHint
    activation
    activationRuleVersion := .fromRule externals activation
    salience := existing.salience
    sourceRoleId
    truthValue := update.truthValue
    source := context.source })

def deleteRumor (rawId : String) : Except ExtractionEnrichmentError ValidatedKnowledgeOperation := do
  let target ← Result.okOr (knowledgeIdOf .rumor rawId) .unknownTarget
  let _ ← Result.okOr (existingRumor context.retrieved target) .unknownTarget
  return .delete (.rumor target)

def prepareMemory (draft : MemoryDraftDto) :
    Except ExtractionEnrichmentError (RoleId × AssetKey × BoundedText) := do
  let owner ← Result.okOr (RoleId.tryNew draft.ownerRoleId) .unknownOwnerRole
  if roleIsKnown snapshot acceptedNewRoles owner then
    let memoryKind ← Result.okOr (AssetKey.tryNewSemantic draft.memoryKind) .invalidMemoryKind
    let content ← boundedContent context draft.content
    return (owner, memoryKind, content)
  else .error .unknownOwnerRole

def finishMemory (_ : MemoryDraftDto) (prepared : RoleId × AssetKey × BoundedText)
    (id : KnowledgeId .memory) : Except ExtractionEnrichmentError KnowledgeEntry :=
  let (owner, kind, content) := prepared
  .ok (.memory {
    id
    owner
    kind
    content
    salience := defaultRuntimeKnowledgeSalience
    source := context.source
    createdAtMs := context.createdAtMs })

def updateMemory (update : MemoryUpdateDto) :
    Except ExtractionEnrichmentError ValidatedKnowledgeOperation := do
  let target ← Result.okOr (knowledgeIdOf .memory update.id) .unknownTarget
  let (owner, salience) ← Result.okOr (existingMemory context.retrieved target) .unknownTarget
  let kind ← Result.okOr (AssetKey.tryNewSemantic update.memoryKind) .invalidMemoryKind
  let content ← boundedContent context update.content
  return .update target (.memory {
    id := target
    owner
    kind
    content
    salience
    source := context.source
    createdAtMs := context.createdAtMs })

def deleteMemory (rawId : String) : Except ExtractionEnrichmentError ValidatedKnowledgeOperation := do
  let target ← Result.okOr (knowledgeIdOf .memory rawId) .unknownTarget
  let _ ← Result.okOr (existingMemory context.retrieved target) .unknownTarget
  return .delete (.memory target)

def numberOperation (entry : ValidatedKnowledgeOperation × Nat) :
    Except ExtractionEnrichmentError ValidatedKnowledgeMutation :=
  if entry.2 < UInt32.size then .ok ⟨UInt32.ofNat entry.2, entry.1⟩ else .error .ordinalOverflow

def StoryStateExtractionDto.addKinds (dto : StoryStateExtractionDto) : List KnowledgeKind :=
  List.replicate dto.addFacts.length KnowledgeKind.fact ++
    List.replicate dto.addRumors.length KnowledgeKind.rumor ++
    List.replicate dto.addMemories.length KnowledgeKind.memory

/-- The loops, one after the other. -/
def enrichOperations (dto : StoryStateExtractionDto) (assigned : List KnowledgeSourceId) :
    Except ExtractionEnrichmentError (List ValidatedKnowledgeOperation) := do
  let (addedFacts, ids) ← addEach .fact (prepareFact context)
    (finishFact externals engine context) dto.addFacts assigned
  let updatedFacts ← dto.updateFacts.mapM (updateFact externals engine context)
  let (addedRumors, ids) ← addEach .rumor
    (prepareRumor externals engine context snapshot acceptedNewRoles)
    (finishRumor externals context) dto.addRumors ids
  let updatedRumors ← dto.updateRumors.mapM
    (updateRumor externals engine context snapshot acceptedNewRoles)
  let deletedRumors ← dto.deleteRumorIds.mapM (deleteRumor context)
  let (addedMemories, _) ← addEach .memory (prepareMemory context snapshot acceptedNewRoles)
    (finishMemory context) dto.addMemories ids
  let updatedMemories ← dto.updateMemories.mapM (updateMemory context)
  let deletedMemories ← dto.deleteMemoryIds.mapM (deleteMemory context)
  return addedFacts.map .add ++ updatedFacts ++ addedRumors.map .add ++ updatedRumors ++
    deletedRumors ++ addedMemories.map .add ++ updatedMemories ++ deletedMemories

def enrichExtractedKnowledge (dto : StoryStateExtractionDto) :
    Except ExtractionEnrichmentError (List ValidatedKnowledgeMutation × UInt64) := do
  let allocation ← (allocateKnowledgeIds snapshot.knowledgeIdHighWater dto.addKinds).mapError
    fun _ => .allocationOverflow
  let operations ← enrichOperations externals engine context snapshot acceptedNewRoles dto
    allocation.assigned
  let mutations ← operations.zipIdx.mapM numberOperation
  return (mutations, allocation.newHighWater)

end

end Aise.Domain
