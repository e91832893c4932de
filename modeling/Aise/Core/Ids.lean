import Std.Data.ExtTreeMap
import Mathlib.Order.Compare
import Aise.Lib.Text

/-! Identifiers and bounded texts of `core`. The `define_id!` family is one type
indexed by its kind; a value is nonblank by construction. Ordered maps are `Std`'s
extensional trees keyed by the identifier text, as `BTreeMap` orders them. -/
namespace Aise

inductive CoreError where
  | invalidId (field value : String)
  | boundedTextLimitExceeded (limit : String) (actual maximum : Nat)
  | retrievalHintTooLong (actual maximum : Nat)
  | retrievalHintEmpty
  | activationKeyEmpty
  | activationKeyTooLong (actual maximum : Nat)
  | activationGroupKeyInvalid (value : String)
  | activationProbabilityInvalid (value : Nat)
  | digestFailed (subject message : String)
  deriving DecidableEq

/-- The `#[error(..)]` texts. -/
def CoreError.display : CoreError → String
  | .invalidId field value => s!"invalid ID: {field}-{value}"
  | .boundedTextLimitExceeded limit actual maximum =>
    s!"bounded text limit exceeded: {limit} (actual: {actual}, maximum: {maximum})"
  | .retrievalHintTooLong actual maximum =>
    s!"retrieval hint too long: {actual} (maximum: {maximum})"
  | .retrievalHintEmpty => "retrieval hint is empty."
  | .activationKeyEmpty => "activation key is empty."
  | .activationKeyTooLong actual maximum =>
    s!"activation key too long: {actual} (maximum: {maximum})"
  | .activationGroupKeyInvalid value => s!"activation group key is invalid: {value}"
  | .activationProbabilityInvalid value =>
    s!"activation probability is outside 0..=100: {value}"
  | .digestFailed subject message => s!"{subject} digest failed: {message}"

inductive IdKind where
  | characterCard | character | idempotencyKey | pack | player | role | version | digest
  | story | memory | fact | rumor | narrativeNode | narrativeCondition
  deriving DecidableEq

/-- The `field` literal each `define_id!` line reports in its error. -/
def IdKind.field : IdKind → String
  | .characterCard => "character_card_id"
  | .character => "character_id"
  | .idempotencyKey => "idempotency_key"
  | .pack => "pack_id"
  | .player => "player_id"
  | .role => "role_id"
  | .version => "version"
  | .digest => "digest"
  | .story => "story_id"
  | .memory => "memory_id"
  | .fact => "fact_id"
  | .rumor => "rumor_id"
  | .narrativeNode => "narrative_node_id"
  | .narrativeCondition => "narrative_condition_id"

structure Ident (kind : IdKind) where
  value : String
  visible : RustText.isBlank value = false
  deriving DecidableEq

namespace Ident
variable {kind : IdKind}

def tryNew (kind : IdKind) (value : String) : Except CoreError (Ident kind) :=
  if blank : RustText.isBlank value = true then .error (.invalidId kind.field value)
  else .ok ⟨value, by simpa using blank⟩

theorem tryNew_visible {text : String} (visible : RustText.isBlank text = false) :
    tryNew kind text = .ok ⟨text, visible⟩ := by
  simp [tryNew, visible]

theorem ext_value {a b : Ident kind} (same : a.value = b.value) : a = b := by
  cases a
  cases b
  cases same
  rfl

instance : Ord (Ident kind) := ⟨fun a b => compare a.value b.value⟩

instance : Std.TransOrd (Ident kind) where
  eq_swap := Std.OrientedOrd.eq_swap (α := String)
  isLE_trans := Std.TransOrd.isLE_trans (α := String)

instance : Std.LawfulEqOrd (Ident kind) where
  eq_of_compare same := ext_value (Std.LawfulEqOrd.eq_of_compare (α := String) same)

instance : ToString (Ident kind) := ⟨Ident.value⟩

end Ident

abbrev IdempotencyKey := Ident .idempotencyKey
abbrev PackId := Ident .pack
abbrev PlayerId := Ident .player
abbrev RoleId := Ident .role
abbrev SemanticVersion := Ident .version
abbrev Sha256Digest := Ident .digest
abbrev StoryId := Ident .story
abbrev MemoryId := Ident .memory
abbrev FactId := Ident .fact
abbrev RumorId := Ident .rumor
abbrev NarrativeNodeId := Ident .narrativeNode
abbrev NarrativeConditionId := Ident .narrativeCondition

abbrev BTreeMap (kind : IdKind) (V : Type) := Std.ExtTreeMap (Ident kind) V

structure BoundedText where
  value : String
  deriving DecidableEq

/-- The bound is checked here and not kept: `Deserialize` admits any length. -/
def BoundedText.tryNew (value field : String) (maximumBytes : Nat) :
    Except CoreError BoundedText :=
  if RustText.len value > maximumBytes then
    .error (.boundedTextLimitExceeded field (RustText.len value) maximumBytes)
  else .ok ⟨value⟩

/-- The two trimmed, nonempty, bounded texts share one constructor. -/
def trimmedText (value limitName : String) (maximumBytes : Nat) (empty : CoreError)
    (tooLong : Nat → Nat → CoreError) : Except CoreError BoundedText :=
  if RustText.isBlank value then .error empty
  else match BoundedText.tryNew (RustText.trim value) limitName maximumBytes with
    | .ok text => .ok text
    | .error (.boundedTextLimitExceeded limit actual maximum) =>
      if limit = limitName then .error (tooLong actual maximum)
      else .error (.boundedTextLimitExceeded limit actual maximum)
    | .error error => .error error

def retrievalHintMaxBytes : Nat := 256

/-- `RetrievalHint::try_new`. -/
def retrievalHintText (value : String) : Except CoreError BoundedText :=
  trimmedText value "retrieval_hint" retrievalHintMaxBytes .retrievalHintEmpty .retrievalHintTooLong

/-- A hint only exists as a result of its constructor. -/
structure RetrievalHint where
  text : BoundedText
  constructed : ∃ value, retrievalHintText value = .ok text

instance : DecidableEq RetrievalHint := fun a b =>
  decidable_of_iff (a.text = b.text) ⟨fun same => by cases a; cases b; cases same; rfl,
    fun same => same ▸ rfl⟩

def activationKeyMaxBytes : Nat := 128

/-- `ActivationKey::try_new`. -/
def activationKeyText (value : String) : Except CoreError BoundedText :=
  trimmedText value "activation_key" activationKeyMaxBytes .activationKeyEmpty .activationKeyTooLong

structure ActivationKey where
  text : BoundedText
  constructed : ∃ value, activationKeyText value = .ok text

instance : DecidableEq ActivationKey := fun a b =>
  decidable_of_iff (a.text = b.text) ⟨fun same => by cases a; cases b; cases same; rfl,
    fun same => same ▸ rfl⟩

end Aise
