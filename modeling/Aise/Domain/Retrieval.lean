import Aise.Core.Ids
import Aise.Domain.Activation.Contracts
import Aise.Domain.Entry
import Aise.Lib.Result
import Aise.Lib.Saturating

/-! What a turn plans to retrieve, and what it retrieves for the writer and for each character. -/
namespace Aise.Domain
open RustText Saturating

/-! ### The plan of the writer -/

inductive RetrievalRequestOrigin where
  | automatic | narrative | planner
  deriving DecidableEq

structure CharacterRetrievalRequest where
  roleId : RoleId
  reason : BoundedText
  origin : RetrievalRequestOrigin
  deriving DecidableEq

structure KnowledgeRetrievalRequest where
  delivery : KnowledgeDelivery
  targetSourceId : KnowledgeSourceId
  reason : BoundedText
  origin : RetrievalRequestOrigin
  mandatory : Bool
  deriving DecidableEq

structure RetrievalPlan where
  characterRequests : List CharacterRetrievalRequest := []
  knowledgeRequests : List KnowledgeRetrievalRequest := []
  deriving DecidableEq

structure CharacterThinkRequest where
  roleId : RoleId
  reason : BoundedText
  deriving DecidableEq

structure WriterPlan where
  storyGoal : BoundedText
  retrievalPlan : RetrievalPlan
  characterThinkRequests : List CharacterThinkRequest
  deriving DecidableEq

/-! ### Retrieved knowledge -/

def estimateTextTokens (text : String) : UInt64 :=
  max (add (clamp64 text.toList.length) 3 / 4) 1

structure RetrievedKnowledgeItem where
  sourceId : KnowledgeSourceId
  content : BoundedText
  source : KnowledgeSource
  activationClass : ActivationSeedKind
  rank : UInt32
  salience : UInt8
  tokenCost : UInt64
  activation : Option KnowledgeActivationRule := none
  activationRuleVersion : Option ActivationRuleVersion := none
  deriving DecidableEq

def RetrievedKnowledgeItem.fromParts (sourceId : KnowledgeSourceId) (content : BoundedText)
    (source : KnowledgeSource) (activationClass : ActivationSeedKind) (rank : UInt32)
    (salience : UInt8) : RetrievedKnowledgeItem where
  sourceId := sourceId
  content := content
  source := source
  activationClass := activationClass
  rank := rank
  salience := salience
  tokenCost := estimateTextTokens content.value

structure RetrievedWorldKnowledge where
  facts : List RetrievedKnowledgeItem := []
  rumors : List RetrievedKnowledgeItem := []
  deriving DecidableEq

inductive RoleController where
  | player (playerId : String)
  | ai
  deriving DecidableEq

/-- The part of a `StoryRoleView` that is read here. A `RoleContextView` has the same fields. -/
structure RoleContextView where
  roleId : RoleId
  roleLabel : BoundedText
  narrativeFunction : BoundedText
  name : BoundedText
  location : AssetKey
  controller : RoleController
  deriving DecidableEq

structure RetrievedCharacterContext where
  role : Option RoleContextView := none
  knownRumors : List RetrievedKnowledgeItem := []
  memories : List RetrievedKnowledgeItem := []
  deriving DecidableEq

structure RetrievedContext where
  world : RetrievedWorldKnowledge := {}
  characters : BTreeMap RoleId RetrievedCharacterContext := ∅

structure RetrievedContextLimits where
  maxRoleAudiences : Nat
  maxItemsPerAudience : Nat
  maxTokensPerAudience : UInt64
  maxTotalItems : Nat
  maxTotalTokens : UInt64
  maxItemBytes : Nat
  deriving DecidableEq

inductive RetrievedContextError where
  | invalidKind | invalidMemoryOwner | invalidRole | conflictingDuplicate
  | countLimit (limit : String)
  | itemByteLimit | audienceTokenLimit | totalTokenLimit | arithmeticOverflow
  deriving DecidableEq

namespace RetrievedContextError

def message : RetrievedContextError → String
  | invalidKind => "retrieved context kind is invalid for its partition"
  | invalidMemoryOwner => "retrieved context memory owner is invalid"
  | invalidRole => "retrieved context role is invalid"
  | conflictingDuplicate => "retrieved context contains a conflicting duplicate"
  | countLimit limit => s!"retrieved context count limit exceeded: {limit}"
  | itemByteLimit => "retrieved context item byte limit exceeded"
  | audienceTokenLimit => "retrieved context audience token limit exceeded"
  | totalTokenLimit => "retrieved context total token limit exceeded"
  | arithmeticOverflow => "retrieved context arithmetic overflow"

def turnCode : RetrievedContextError → String
  | invalidKind | invalidMemoryOwner | invalidRole | conflictingDuplicate =>
    "retrieval_partition_invalid"
  | _ => "retrieval_context_limit"

end RetrievedContextError

/-- The loop of `validate_kind_only`, with the identifiers seen so far. -/
def validateKindFrom (kind : KnowledgeKind) :
    (seen : List KnowledgeSourceId) → List RetrievedKnowledgeItem → Except RetrievedContextError Unit
  | _, [] => .ok ⟨⟩
  | seen, item :: items =>
    if item.sourceId.kind ≠ kind then .error .invalidKind
    else if item.sourceId ∈ seen then .error .conflictingDuplicate
    else validateKindFrom kind (item.sourceId :: seen) items

def validateKindOnly (items : List RetrievedKnowledgeItem) (kind : KnowledgeKind) :
    Except RetrievedContextError Unit :=
  validateKindFrom kind [] items

/-- `checked_add` of token costs. -/
def checkedAddToken (total cost : UInt64) : Except RetrievedContextError UInt64 :=
  if total.toNat + cost.toNat < UInt64.size then .ok (total + cost) else .error .arithmeticOverflow

def checkedAddTokens (base : UInt64) (items : List RetrievedKnowledgeItem) :
    Except RetrievedContextError UInt64 :=
  items.foldlM (fun total item => checkedAddToken total item.tokenCost) base

/-- A round of the loop of `validate_partition_bounds`. -/
def addPartitionTokens (limits : RetrievedContextLimits) (tokens : UInt64)
    (item : RetrievedKnowledgeItem) : Except RetrievedContextError UInt64 :=
  if len item.content.value > limits.maxItemBytes then .error .itemByteLimit
  else if item.tokenCost ≠ estimateTextTokens item.content.value then .error .invalidKind
  else checkedAddToken tokens item.tokenCost

def partitionTokens (limits : RetrievedContextLimits) (items : List RetrievedKnowledgeItem) :
    Except RetrievedContextError UInt64 :=
  items.foldlM (addPartitionTokens limits) 0

def validatePartitionBounds (items : List RetrievedKnowledgeItem) (limits : RetrievedContextLimits) :
    Except RetrievedContextError Unit :=
  if items.length > limits.maxItemsPerAudience then .error (.countLimit "max_items_per_audience")
  else do
    let tokens ← partitionTokens limits items
    if tokens > limits.maxTokensPerAudience then .error .audienceTokenLimit else .ok ⟨⟩

/-- `checked_add` of `usize`. -/
def checkedAddItems (total count : Nat) : Except RetrievedContextError Nat :=
  if total + count < UInt64.size then .ok (total + count) else .error .arithmeticOverflow

def validateCharacter (limits : RetrievedContextLimits) (roleId : RoleId)
    (character : RetrievedCharacterContext) : Except RetrievedContextError Unit := do
  if character.role.any (·.roleId ≠ roleId) then .error .invalidRole
  else
    validateKindOnly character.knownRumors .rumor
    validateKindOnly character.memories .memory
    validatePartitionBounds character.knownRumors limits
    validatePartitionBounds character.memories limits

/-- The items of all audiences, counted with `checked_add`. -/
def countItems (world : RetrievedWorldKnowledge) (characters : List RetrievedCharacterContext) :
    Except RetrievedContextError Nat := do
  let characterItems ← characters.foldlM (fun total character => do
    let total ← checkedAddItems total character.knownRumors.length
    checkedAddItems total character.memories.length) 0
  let worldItems ← checkedAddItems world.facts.length world.rumors.length
  checkedAddItems worldItems characterItems

/-- The tokens of all audiences, counted with `checked_add`. -/
def countTokens (world : RetrievedWorldKnowledge) (characters : List RetrievedCharacterContext) :
    Except RetrievedContextError UInt64 := do
  let total ← checkedAddTokens 0 world.facts
  let total ← checkedAddTokens total world.rumors
  characters.foldlM (fun total character => do
    let total ← checkedAddTokens total character.knownRumors
    checkedAddTokens total character.memories) total

def RetrievedContext.tryNew (world : RetrievedWorldKnowledge)
    (characters : BTreeMap RoleId RetrievedCharacterContext) (limits : RetrievedContextLimits) :
    Except RetrievedContextError RetrievedContext :=
  if characters.size > limits.maxRoleAudiences then .error (.countLimit "max_role_audiences")
  else do
    validateKindOnly world.facts .fact
    validateKindOnly world.rumors .rumor
    validatePartitionBounds world.facts limits
    validatePartitionBounds world.rumors limits
    characters.toList.forM fun (roleId, character) => validateCharacter limits roleId character
    let totalItems ← countItems world (valuesOf characters)
    if totalItems > limits.maxTotalItems then .error (.countLimit "max_total_items")
    else
      let totalTokens ← countTokens world (valuesOf characters)
      if totalTokens > limits.maxTotalTokens then .error .totalTokenLimit
      else .ok { world, characters }

/-! ### What is prepared before the plan -/

structure RoleIndexEntry where
  roleId : RoleId
  retrievalHint : BoundedText
  deriving DecidableEq

structure RelevantWorldKnowledgeItem where
  sourceId : KnowledgeSourceId
  content : BoundedText
  sourcePriority : UInt8
  salience : UInt8
  deriving DecidableEq

structure RelevantWorldKnowledge where
  facts : List RelevantWorldKnowledgeItem := []
  rumors : List RelevantWorldKnowledgeItem := []
  deriving DecidableEq

structure KnowledgeIndexEntry where
  sourceId : KnowledgeSourceId
  retrievalHint : RetrievalHint
  deriving DecidableEq

/-- The texts of a `StoryContinuity`. -/
structure StoryContinuity where
  summary : BoundedText
  recentSegments : List BoundedText := []
  deriving DecidableEq

def StoryContinuity.estimateTokens (continuity : StoryContinuity) : UInt64 :=
  let total := if isBlank continuity.summary.value then 0
    else add 0 (estimateTextTokens continuity.summary.value)
  continuity.recentSegments.foldl (fun total segment => add total (estimateTextTokens segment.value))
    total

inductive StoryConstraintRequirement where
  | require (statement : BoundedText)
  | forbid (statement : BoundedText)
  deriving DecidableEq

def StoryConstraintRequirement.statement : StoryConstraintRequirement → BoundedText
  | require statement | forbid statement => statement

structure BaselineContext where
  storyTitle : BoundedText
  playerRole : RoleContextView
  relevantRoles : List RoleContextView
  relevantWorldKnowledge : RelevantWorldKnowledge
  roleIndex : List RoleIndexEntry
  knowledgeIndex : List KnowledgeIndexEntry
  storyContinuity : StoryContinuity
  activeStoryConstraints : List StoryConstraintRequirement
  deriving DecidableEq

def BaselineContext.estimateTokens (baseline : BaselineContext) : UInt64 :=
  let texts := baseline.storyTitle :: baseline.playerRole.name ::
    baseline.relevantRoles.map (·.name) ++
    (baseline.relevantWorldKnowledge.facts ++ baseline.relevantWorldKnowledge.rumors).map
      (·.content) ++
    baseline.roleIndex.map (·.retrievalHint) ++
    baseline.activeStoryConstraints.map (·.statement)
  let total := texts.foldl (fun total text => add total (estimateTextTokens text.value))
    baseline.storyContinuity.estimateTokens
  max total 1

end Aise.Domain
