import Aise.Domain.Entry
import Aise.Lib.Serde

/-! Keys of assets and how they are stored. A key can be made of any text, but only a valid one is
read back. -/
namespace Aise.Domain
open RustText SerdeJson

/-! ### Keys -/

/-- The scan is that of `is_valid_role_id`. -/
def isValidKey (value : String) : Bool := value ≠ "" && roleIdScan false value.toList

/-- `char::is_control`, the category `Cc`. -/
def isControl (c : Char) : Bool := c.toNat < 32 || (127 ≤ c.toNat && c.toNat < 160)

def isValidSemanticKey (value : String) : Bool := !isBlank value && !value.toList.any isControl

/-- `try_new(..).ok()` of a `key_type!`. -/
def AssetKey.tryNew (value : String) : Option AssetKey := if isValidKey value then some ⟨value⟩ else none

/-- `try_new(..).ok()` of a `semantic_key_type!`. -/
def AssetKey.tryNewSemantic (value : String) : Option AssetKey :=
  if isValidSemanticKey value then some ⟨value⟩ else none

/-- `RoleId::try_new(value).ok()`. -/
def RoleId.tryNew (value : String) : Option RoleId :=
  if accepted : isValidRoleId value = true ∧ isCanonicalKnowledgeIdShape value = false then
    some ⟨value, accepted⟩
  else none

theorem AssetKey.tryNew_eq_some {value : String} {key : AssetKey} :
    AssetKey.tryNew value = some key ↔ isValidKey value ∧ key = ⟨value⟩ := by
  unfold AssetKey.tryNew
  split
  · rename_i valid
    simp [valid, eq_comm]
  · rename_i invalid
    simp [invalid]

theorem AssetKey.tryNewSemantic_eq_some {value : String} {key : AssetKey}
    (named : AssetKey.tryNewSemantic value = some key) : key.asStr = value := by
  unfold AssetKey.tryNewSemantic at named
  split at named
  · cases named
    rfl
  · cases named

theorem RoleId.tryNew_eq_some {value : String} {roleId : RoleId} :
    RoleId.tryNew value = some roleId ↔ roleId.value = value := by
  unfold RoleId.tryNew
  split
  · rename_i accepted
    rw [Option.some.injEq]
    constructor
    · rintro rfl
      rfl
    · rintro rfl
      rfl
  · rename_i refused
    constructor
    · intro made
      cases made
    · rintro rfl
      exact absurd roleId.accepted refused

theorem RoleId.tryNew_value (roleId : RoleId) : RoleId.tryNew roleId.value = some roleId :=
  RoleId.tryNew_eq_some.mpr rfl

/-! ### How keys and texts are stored -/

def assetKeyCodec : Codec AssetKey :=
  .text AssetKey.asStr AssetKey.tryNew (fun key => isValidKey key.asStr = true)
    (fun _ readable => AssetKey.tryNew_eq_some.mpr ⟨readable, rfl⟩)
    (fun _ _ read => by
      obtain ⟨valid, rfl⟩ := AssetKey.tryNew_eq_some.mp read
      exact valid)

theorem assetKeyCodec_ne_null (key : AssetKey) : assetKeyCodec.encode key ≠ .null := by
  intro written
  cases written

def assetKeys : KeyCodec AssetKey where
  text := AssetKey.asStr
  read := AssetKey.tryNew
  Readable key := isValidKey key.asStr = true
  back readable := AssetKey.tryNew_eq_some.mpr ⟨readable, rfl⟩
  sound read := by
    obtain ⟨valid, rfl⟩ := AssetKey.tryNew_eq_some.mp read
    exact valid

def roleIdCodec : Codec RoleId :=
  .text RoleId.value RoleId.tryNew (fun _ => True) (fun roleId _ => roleId.tryNew_value)
    (fun _ _ _ => trivial)

def roleIds : KeyCodec RoleId where
  text := RoleId.value
  read := RoleId.tryNew
  Readable _ := True
  back _ := RoleId.tryNew_value _
  sound _ := trivial

def boundedTextCodec : Codec BoundedText :=
  .text BoundedText.value (fun value => some ⟨value⟩) (fun _ => True) (fun _ _ => rfl)
    (fun _ _ _ => trivial)

def optionalTextCodec : Codec (Option BoundedText) :=
  .option boundedTextCodec fun _ written => nomatch written

/-- The texts of an untagged enum are tried in the order of its variants, so a text is a decimal. -/
def scalarValueCodec : Codec ScalarValue where
  encode
    | .bool value => .bool value
    | .integer value => .num value.toInt
    | .decimal value | .text value => .str value
  decode
    | .bool value => some (.bool value)
    | .num value =>
      if -2 ^ 63 ≤ value ∧ value < 2 ^ 63 then some (.integer (Int64.ofInt value)) else none
    | .str value => some (.decimal value)
    | _ => none
  Readable value := ∀ text, value ≠ .text text
  back {value} readable := by
    cases value with
    | bool value => rfl
    | integer value =>
      dsimp only
      rw [if_pos ⟨value.le_toInt, value.toInt_lt⟩, Int64.ofInt_toInt]
    | decimal value => rfl
    | text value => exact absurd rfl (readable value)
  sound {json value} read := by
    rintro text rfl
    split at read
    · cases read
    · split at read
      · cases read
      · cases read
    · cases read
    · cases read

theorem no_scalars_readable : (Codec.map assetKeys scalarValueCodec).Readable ∅ := by
  simp [Codec.map]

/-! ### Numbers -/

def unsigned64 : Codec UInt64 :=
  .int (fun value => value.toNat)
    (fun value => if 0 ≤ value ∧ value < 2 ^ 64 then some (UInt64.ofNat value.toNat) else none)
    fun value => by
      have bound := value.toNat_lt
      rw [if_pos (by omega), Int.toNat_natCast, UInt64.ofNat_toNat]

def unsigned32 : Codec UInt32 :=
  .int (fun value => value.toNat)
    (fun value => if 0 ≤ value ∧ value < 2 ^ 32 then some (UInt32.ofNat value.toNat) else none)
    fun value => by
      have bound := value.toNat_lt
      rw [if_pos (by omega), Int.toNat_natCast, UInt32.ofNat_toNat]

def signed16 : Codec Int16 :=
  .int Int16.toInt
    (fun value => if -2 ^ 15 ≤ value ∧ value < 2 ^ 15 then some (Int16.ofInt value) else none)
    fun value => by rw [if_pos ⟨value.le_toInt, value.toInt_lt⟩, Int16.ofInt_toInt]

def unsigned8 : Codec UInt8 :=
  .int (fun value => value.toNat)
    (fun value => if 0 ≤ value ∧ value < 2 ^ 8 then some (UInt8.ofNat value.toNat) else none)
    fun value => by
      have bound := value.toNat_lt
      rw [if_pos (by omega), Int.toNat_natCast, UInt8.ofNat_toNat]

def unsigned16 : Codec UInt16 :=
  .int (fun value => value.toNat)
    (fun value => if 0 ≤ value ∧ value < 2 ^ 16 then some (UInt16.ofNat value.toNat) else none)
    fun value => by
      have bound := value.toNat_lt
      rw [if_pos (by omega), Int.toNat_natCast, UInt16.ofNat_toNat]

def signed32 : Codec Int32 :=
  .int Int32.toInt
    (fun value => if -2 ^ 31 ≤ value ∧ value < 2 ^ 31 then some (Int32.ofInt value) else none)
    fun value => by rw [if_pos ⟨value.le_toInt, value.toInt_lt⟩, Int32.ofInt_toInt]

def signed64 : Codec Int64 :=
  .int Int64.toInt
    (fun value => if -2 ^ 63 ≤ value ∧ value < 2 ^ 63 then some (Int64.ofInt value) else none)
    fun value => by rw [if_pos ⟨value.le_toInt, value.toInt_lt⟩, Int64.ofInt_toInt]

/-! ### Digests -/

def hexVal (c : Char) : Option Nat :=
  if '0' ≤ c ∧ c ≤ '9' then some (c.toNat - '0'.toNat)
  else if 'a' ≤ c ∧ c ≤ 'f' then some (c.toNat - 'a'.toNat + 10)
  else none

def hexByte (byte : UInt8) : List Char := [hexDigit (byte.toNat / 16), hexDigit (byte.toNat % 16)]

def unhex : List Char → Option (List UInt8)
  | [] => some []
  | [_] => none
  | high :: low :: rest => do
    return UInt8.ofNat (16 * (← hexVal high) + (← hexVal low)) :: (← unhex rest)

theorem hexVal_hexDigit : ∀ n < 16, hexVal (hexDigit n) = some n := by decide

theorem unhex_hexByte (bytes : List UInt8) : unhex (bytes.flatMap hexByte) = some bytes := by
  induction bytes with
  | nil => rfl
  | cons byte bytes ih =>
    have bound := byte.toNat_lt
    have high := hexVal_hexDigit (byte.toNat / 16) (by omega)
    have low := hexVal_hexDigit (byte.toNat % 16) (by omega)
    have whole : 16 * (byte.toNat / 16) + byte.toNat % 16 = byte.toNat := Nat.div_add_mod _ _
    rw [List.flatMap_cons, hexByte, List.cons_append, List.cons_append, List.nil_append, unhex,
      high, low, ih]
    show some (UInt8.ofNat (16 * (byte.toNat / 16) + byte.toNat % 16) :: bytes) = some (byte :: bytes)
    rw [whole, UInt8.ofNat_toNat]

def digestPrefix : List Char := "sha256:".toList

/-- Hex digits take one byte each, so the digits of 32 bytes are the 64 that are asked for. -/
def Sha256Digest.tryNew (value : String) : Option Sha256Digest := do
  let hex := if digestPrefix.isPrefixOf value.toList then value.toList.drop digestPrefix.length
    else value.toList
  let bytes ← unhex hex
  if sized : bytes.length = 32 then some ⟨bytes, sized⟩ else none

def Sha256Digest.serialized (digest : Sha256Digest) : String :=
  String.ofList (digestPrefix ++ digest.bytes.flatMap hexByte)

theorem Sha256Digest.tryNew_serialized (digest : Sha256Digest) :
    Sha256Digest.tryNew digest.serialized = some digest := by
  have labelled : digestPrefix.isPrefixOf digest.serialized.toList = true := by
    rw [Sha256Digest.serialized, String.toList_ofList, List.isPrefixOf_iff_prefix]
    exact List.prefix_append _ _
  rw [Sha256Digest.tryNew, if_pos labelled, Sha256Digest.serialized, String.toList_ofList,
    List.drop_left, unhex_hexByte]
  simp [digest.sized]

def digestCodec : Codec Sha256Digest :=
  .text Sha256Digest.serialized Sha256Digest.tryNew (fun _ => True)
    (fun digest _ => digest.tryNew_serialized) (fun _ _ _ => trivial)

end Aise.Domain
