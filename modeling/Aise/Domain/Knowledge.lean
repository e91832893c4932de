import Std.Data.ExtTreeMap
import Std.Data.ExtTreeSet
import Mathlib.Data.Prod.Lex
import Mathlib.Data.String.Basic
import Mathlib.Order.Compare
import Aise.Lib.Text

/-! Identifiers of the `aise` crate that knowledge activation compares and orders. An
identifier is ordered by its text, so `fact_10000` comes before `fact_9999`. -/
namespace Aise.Domain
open RustText

abbrev BTreeMap (K V : Type) [LinearOrder K] := Std.ExtTreeMap K V

abbrev BTreeSet (K : Type) [LinearOrder K] := Std.ExtTreeSet K

/-- `BTreeMap::values`, in the order of the keys. -/
def valuesOf {K V : Type} [LinearOrder K] (map : BTreeMap K V) : List V := map.toList.map (·.2)

theorem mem_valuesOf {K V : Type} [LinearOrder K] [Std.LawfulEqOrd K] {map : BTreeMap K V}
    {value : V} : value ∈ valuesOf map ↔ ∃ key : K, map[key]? = some value := by
  simp only [valuesOf, List.mem_map, Prod.exists, exists_eq_right,
    Std.ExtTreeMap.mem_toList_iff_getElem?_eq_some]

/-- Values that name their own keys are told apart by them. -/
theorem nodup_valuesOf {K V : Type} [LinearOrder K] [Std.LawfulEqOrd K] {map : BTreeMap K V}
    {own : V → K} (keyed : ∀ (key : K) (value : V), map[key]? = some value → own value = key) :
    ((valuesOf map).map own).Nodup := by
  have same : (valuesOf map).map own = map.keys := by
    rw [valuesOf, List.map_map, ← Std.ExtTreeMap.map_fst_toList_eq_keys]
    refine List.map_congr_left fun entry member => ?_
    exact keyed _ _ (Std.ExtTreeMap.mem_toList_iff_getElem?_eq_some.mp member)
  rw [same]
  exact Std.ExtTreeMap.nodup_keys

inductive KnowledgeKind where
  | fact | rumor | memory
  deriving DecidableEq

def KnowledgeKind.rank : KnowledgeKind → Nat
  | .fact => 0
  | .rumor => 1
  | .memory => 2

theorem KnowledgeKind.rank_injective : Function.Injective rank := by
  intro a b same
  cases a <;> cases b <;> first | rfl | cases same

/-- The `PREFIX` of each `knowledge_id_type!`. -/
def KnowledgeKind.idPrefix : KnowledgeKind → List Char
  | .fact => "fact_".toList
  | .rumor => "rumor_".toList
  | .memory => "memory_".toList

/-- At least four digits, and no leading zero beyond them. -/
def formatKnowledgeSequence (value : Nat) : List Char :=
  let digits := Nat.toDigits 10 value
  List.replicate (4 - digits.length) '0' ++ digits

def parseKnowledgeSequence (text : List Char) : Option Nat :=
  if text.isEmpty || !text.all Char.isDigit then none
  else
    let value := text.foldl (fun value digit => value * 10 + (digit.toNat - '0'.toNat)) 0
    if value = 0 || UInt64.size ≤ value then none
    else if formatKnowledgeSequence value = text then some value else none

/-- The largest sequence an identifier takes, `i64::MAX`. -/
def maxKnowledgeSequence : Nat := 2 ^ 63 - 1

/-- What `try_new` accepts under a prefix. -/
def isKnowledgeId (kind : KnowledgeKind) (text : String) : Bool :=
  kind.idPrefix.isPrefixOf text.toList &&
    (parseKnowledgeSequence (text.toList.drop kind.idPrefix.length)).any
      (· ≤ maxKnowledgeSequence)

structure KnowledgeSourceId where
  kind : KnowledgeKind
  asStr : String
  accepted : isKnowledgeId kind asStr = true
  deriving DecidableEq

namespace KnowledgeSourceId

def rank (id : KnowledgeSourceId) : Nat ×ₗ String := toLex (id.kind.rank, id.asStr)

theorem rank_injective : Function.Injective rank := by
  intro a b same
  obtain ⟨kind, text⟩ := Prod.mk.inj (toLex.injective same)
  cases a
  cases b
  cases KnowledgeKind.rank_injective kind
  cases text
  rfl

instance : LinearOrder KnowledgeSourceId := LinearOrder.lift' rank rank_injective

instance : Std.TransOrd KnowledgeSourceId := inferInstance

instance : Std.LawfulEqOrd KnowledgeSourceId := ⟨compare_eq_iff_eq.mp⟩

end KnowledgeSourceId

/-- The scan of `is_valid_role_id`, with `seen_segment` as its accumulator. -/
def roleIdScan (seenSegment : Bool) : List Char → Bool
  | [] => seenSegment
  | c :: rest =>
    if ('a' ≤ c && c ≤ 'z') || ('0' ≤ c && c ≤ '9') then roleIdScan true rest
    else if c == '.' || c == '_' || c == '-' then seenSegment && roleIdScan false rest
    else false

def roleIdMaxBytes : Nat := 128

def isValidRoleId (value : String) : Bool :=
  value ≠ "" && len value ≤ roleIdMaxBytes && roleIdScan false value.toList

def isCanonicalKnowledgeIdShape (value : String) : Bool :=
  [KnowledgeKind.fact, .rumor, .memory].any fun kind =>
    kind.idPrefix.isPrefixOf value.toList &&
      (parseKnowledgeSequence (value.toList.drop kind.idPrefix.length)).isSome

structure RoleId where
  value : String
  accepted : isValidRoleId value = true ∧ isCanonicalKnowledgeIdShape value = false
  deriving DecidableEq

/-- Whom a piece of knowledge is delivered to. -/
inductive KnowledgeDelivery where
  | writer
  | character (roleId : RoleId)
  deriving DecidableEq

namespace KnowledgeDelivery

def rank : KnowledgeDelivery → Nat ×ₗ String
  | .writer => toLex (0, "")
  | .character roleId => toLex (1, roleId.value)

theorem rank_injective : Function.Injective rank := by
  intro a b same
  cases a with
  | writer =>
    cases b with
    | writer => rfl
    | character _ => cases (Prod.mk.inj (toLex.injective same)).1
  | character left =>
    cases b with
    | writer => cases (Prod.mk.inj (toLex.injective same)).1
    | character right =>
      cases left
      cases right
      cases (Prod.mk.inj (toLex.injective same)).2
      rfl

instance : LinearOrder KnowledgeDelivery := LinearOrder.lift' rank rank_injective

instance : Std.TransOrd KnowledgeDelivery := inferInstance

instance : Std.LawfulEqOrd KnowledgeDelivery := ⟨compare_eq_iff_eq.mp⟩

end KnowledgeDelivery

structure StoryId where
  value : String
  visible : isBlank value ≠ true
  deriving DecidableEq

namespace StoryId

theorem value_injective : Function.Injective value := by
  intro a b same
  cases a
  cases b
  cases same
  rfl

instance : LinearOrder StoryId := LinearOrder.lift' value value_injective

instance : Std.TransOrd StoryId := inferInstance

instance : Std.LawfulEqOrd StoryId := ⟨compare_eq_iff_eq.mp⟩

end StoryId

/-- Nonzero, and within the signed range of the store. -/
structure TurnNumber where
  get : UInt64
  accepted : get ≠ 0 ∧ get.toNat ≤ 2 ^ 63 - 1
  deriving DecidableEq

/-- `TurnNumber::try_new(value).ok()`. -/
def turnNumber (value : UInt64) : Option TurnNumber :=
  if accepted : value ≠ 0 ∧ value.toNat ≤ 2 ^ 63 - 1 then some ⟨value, accepted⟩ else none

structure Sha256Digest where
  bytes : List UInt8
  sized : bytes.length = 32
  deriving DecidableEq

namespace Sha256Digest

def rank (digest : Sha256Digest) : List Nat := digest.bytes.map UInt8.toNat

theorem rank_injective : Function.Injective rank := by
  intro a b same
  cases a
  cases b
  cases List.map_injective_iff.mpr (fun _ _ => UInt8.toNat_inj.mp) same
  rfl

instance : LinearOrder Sha256Digest := LinearOrder.lift' rank rank_injective

instance : Std.TransOrd Sha256Digest := inferInstance

instance : Std.LawfulEqOrd Sha256Digest := ⟨compare_eq_iff_eq.mp⟩

end Sha256Digest

structure KnowledgeSnapshotRef where
  storyId : StoryId
  packDigest : Sha256Digest
  baseRevision : UInt64
  knowledgeIdHighWater : UInt64
  deriving DecidableEq

end Aise.Domain
