import Aise.Domain.Activation.Rule
import Aise.Domain.KnowledgeId

/-! Knowledge entries of a story and the identifiers they are given. Facts, rumors and memories
draw their numbers from one sequence. -/
namespace Aise.Domain
open RustText

/-! ### Numbered identifiers -/

/-- `new_knowledge_source_id` of a `KnowledgeSequence`, which is not zero. -/
def newKnowledgeSourceId (kind : KnowledgeKind) (sequence : UInt64) (nonzero : 0 < sequence.toNat) :
    Except KnowledgeIdError KnowledgeSourceId :=
  (KnowledgeId.fromSequence kind ⟨sequence, nonzero⟩).map Subtype.val

theorem newKnowledgeSourceId_eq_ok {kind : KnowledgeKind} {sequence : UInt64}
    {nonzero : 0 < sequence.toNat} {id : KnowledgeSourceId}
    (made : newKnowledgeSourceId kind sequence nonzero = .ok id) :
    id.kind = kind ∧ id.asStr = KnowledgeId.text kind sequence.toNat := by
  obtain ⟨named, numbered, rfl⟩ := Result.map_eq_ok made
  exact ⟨named.2, (KnowledgeId.fromSequence_eq_ok.mp numbered).2⟩

structure KnowledgeIdAllocation where
  assigned : List KnowledgeSourceId
  newHighWater : UInt64

/-- The loop of `allocate_knowledge_ids`. -/
def allocateFrom : (next : UInt64) → List KnowledgeKind →
    Except KnowledgeIdError KnowledgeIdAllocation
  | next, [] => .ok ⟨[], next⟩
  | next, kind :: kinds =>
    if room : next.toNat + 1 < UInt64.size then do
      let sourceId ← newKnowledgeSourceId kind (UInt64.ofNat (next.toNat + 1))
        (by rw [UInt64.toNat_ofNat', Nat.mod_eq_of_lt room]; omega)
      let rest ← allocateFrom (UInt64.ofNat (next.toNat + 1)) kinds
      .ok ⟨sourceId :: rest.assigned, rest.newHighWater⟩
    else .error .allocationOverflow

def allocateKnowledgeIds (base : UInt64) (additionKinds : List KnowledgeKind) :
    Except KnowledgeIdError KnowledgeIdAllocation :=
  allocateFrom base additionKinds

theorem allocateFrom_kinds {next : UInt64} {kinds : List KnowledgeKind}
    {allocation : KnowledgeIdAllocation} (allocated : allocateFrom next kinds = .ok allocation) :
    allocation.assigned.map (·.kind) = kinds := by
  induction kinds generalizing next allocation with
  | nil =>
    cases allocated
    rfl
  | cons kind kinds ih =>
    unfold allocateFrom at allocated
    split at allocated
    · obtain ⟨sourceId, made, allocated⟩ := Result.bind_eq_ok allocated
      obtain ⟨rest, later, allocated⟩ := Result.bind_eq_ok allocated
      cases allocated
      rw [List.map_cons, ih later, (newKnowledgeSourceId_eq_ok made).1]
    · cases allocated

/-- Whoever asks for fewer identifiers gets the first ones of those who ask for more. -/
theorem allocateFrom_append {next : UInt64} {kinds more : List KnowledgeKind}
    {allocation : KnowledgeIdAllocation} (allocated : allocateFrom next (kinds ++ more) = .ok allocation) :
    ∃ first, allocateFrom next kinds = .ok first ∧ first.assigned <+: allocation.assigned := by
  induction kinds generalizing next allocation with
  | nil => exact ⟨⟨[], next⟩, rfl, List.nil_prefix⟩
  | cons kind kinds ih =>
    rw [List.cons_append, allocateFrom] at allocated
    split at allocated
    · rename_i room
      obtain ⟨sourceId, made, allocated⟩ := Result.bind_eq_ok allocated
      obtain ⟨rest, later, allocated⟩ := Result.bind_eq_ok allocated
      cases allocated
      obtain ⟨first, fewer, among⟩ := ih later
      refine ⟨⟨sourceId :: first.assigned, first.newHighWater⟩, ?_, ?_⟩
      · rw [allocateFrom, dif_pos room, made]
        simp only [bind, Except.bind, fewer]
      · exact (List.prefix_cons_inj sourceId).mpr among
    · cases allocated

/-! ### Entries -/

/-- The types of `key_type!`, which keep any text and are ordered by it. -/
structure AssetKey where
  asStr : String
  deriving DecidableEq

namespace AssetKey

theorem asStr_injective : Function.Injective asStr := by
  intro a b same
  cases a
  cases b
  cases same
  rfl

instance : LinearOrder AssetKey := LinearOrder.lift' asStr asStr_injective

instance : Std.TransOrd AssetKey := inferInstance

instance : Std.LawfulEqOrd AssetKey := ⟨compare_eq_iff_eq.mp⟩

end AssetKey

theorem RoleId.value_injective : Function.Injective RoleId.value := by
  intro a b same
  cases a
  cases b
  cases same
  rfl

instance : LinearOrder RoleId := LinearOrder.lift' RoleId.value RoleId.value_injective

instance : Std.TransOrd RoleId := inferInstance

instance : Std.LawfulEqOrd RoleId := ⟨compare_eq_iff_eq.mp⟩

inductive KnowledgeSource where
  | seed (packId : AssetKey) (packDigest : Sha256Digest)
  | committedTurn (turnNumber : TurnNumber)
  deriving DecidableEq

structure RetrievalHint where
  value : String
  accepted : isBlank value = false ∧ len value ≤ 256
  deriving DecidableEq

/-- `RetrievalHint::try_new(..).ok()`. -/
def RetrievalHint.tryNew (value : String) : Option RetrievalHint :=
  if accepted : isBlank value = false ∧ len value ≤ 256 then some ⟨value, accepted⟩ else none

/-- The hint that is configured, else the content where it is short enough. -/
def normalizeStaticRetrievalHint (content : BoundedText) (configured : Option RetrievalHint) :
    Option RetrievalHint :=
  configured.or (RetrievalHint.tryNew content.value)

inductive ScalarValue where
  | bool (value : Bool)
  | integer (value : Int64)
  | decimal (value : String)
  | text (value : String)
  deriving DecidableEq

/-- The shape of a `Proposition` of a fact and of a `Claim` of a rumor. -/
structure Proposition where
  subject : BoundedText
  predicate : BoundedText
  value : ScalarValue
  deriving DecidableEq

inductive TruthValue where
  | true | false | unverified
  deriving DecidableEq

structure WorldFact where
  id : KnowledgeId .fact
  key : Option AssetKey
  text : BoundedText
  proposition : Option Proposition
  retrievalHint : RetrievalHint
  activation : KnowledgeActivationRule
  activationRuleVersion : ActivationRuleVersion
  salience : UInt8
  source : KnowledgeSource
  deriving DecidableEq

structure SharedRumor where
  id : KnowledgeId .rumor
  key : Option AssetKey
  content : BoundedText
  claim : Option Proposition
  retrievalHint : RetrievalHint
  activation : KnowledgeActivationRule
  activationRuleVersion : ActivationRuleVersion
  salience : UInt8
  sourceRoleId : Option RoleId
  truthValue : TruthValue
  source : KnowledgeSource
  deriving DecidableEq

structure MemoryEntry where
  id : KnowledgeId .memory
  owner : RoleId
  kind : AssetKey
  content : BoundedText
  salience : UInt8
  source : KnowledgeSource
  createdAtMs : Int64
  deriving DecidableEq

inductive KnowledgeEntry where
  | fact (value : WorldFact)
  | rumor (value : SharedRumor)
  | memory (value : MemoryEntry)
  deriving DecidableEq

namespace KnowledgeEntry

def sourceId : KnowledgeEntry → KnowledgeSourceId
  | .fact value => value.id
  | .rumor value => value.id
  | .memory value => value.id

def kind : KnowledgeEntry → KnowledgeKind
  | .fact _ => .fact
  | .rumor _ => .rumor
  | .memory _ => .memory

def content : KnowledgeEntry → BoundedText
  | .fact value => value.text
  | .rumor value => value.content
  | .memory value => value.content

def salience : KnowledgeEntry → UInt8
  | .fact value => value.salience
  | .rumor value => value.salience
  | .memory value => value.salience

def source : KnowledgeEntry → KnowledgeSource
  | .fact value => value.source
  | .rumor value => value.source
  | .memory value => value.source

def memoryOwner : KnowledgeEntry → Option RoleId
  | .fact _ | .rumor _ => none
  | .memory value => some value.owner

def retrievalHint : KnowledgeEntry → Option RetrievalHint
  | .fact value => some value.retrievalHint
  | .rumor value => some value.retrievalHint
  | .memory _ => none

/-- The rule and its version, which memories do not have. -/
def activation : KnowledgeEntry → Option (KnowledgeActivationRule × ActivationRuleVersion)
  | .fact value => some (value.activation, value.activationRuleVersion)
  | .rumor value => some (value.activation, value.activationRuleVersion)
  | .memory _ => none

theorem sourceId_kind (entry : KnowledgeEntry) : entry.sourceId.kind = entry.kind := by
  cases entry with
  | fact value => exact value.id.2
  | rumor value => exact value.id.2
  | memory value => exact value.id.2

/-- Memories are the entries without a rule. -/
theorem activation_isSome (entry : KnowledgeEntry) :
    entry.activation.isSome ↔ entry.kind ≠ .memory := by
  cases entry <;> simp [activation, kind]

end KnowledgeEntry

end Aise.Domain
