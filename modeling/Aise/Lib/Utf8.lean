import Mathlib.Data.List.Infix
import Mathlib.Tactic.Common

/-! Text as bytes. The bytes of a text tell the text, and every byte string is the bytes of one text
or of none. -/
namespace Utf8

/-- `str::as_bytes`. -/
def encode (text : String) : List UInt8 := text.toUTF8.data.toList

/-- `str::from_utf8(bytes).ok()`. -/
def decode (bytes : List UInt8) : Option String := String.fromUTF8? ⟨bytes.toArray⟩

@[simp] theorem decode_encode (text : String) : decode (encode text) = some text := by
  have valid : ByteArray.IsValidUTF8 ⟨(encode text).toArray⟩ := text.isValidUTF8
  unfold decode String.fromUTF8?
  rw [dif_pos valid]
  rfl

theorem decode_eq_some {bytes : List UInt8} {text : String} :
    decode bytes = some text ↔ encode text = bytes := by
  constructor
  · intro decoded
    unfold decode String.fromUTF8? at decoded
    split at decoded
    · cases decoded
      rfl
    · cases decoded
  · rintro rfl
    exact decode_encode text

theorem encode_injective : Function.Injective encode := by
  intro first second same
  have decoded := decode_encode second
  rw [← same, decode_encode] at decoded
  exact Option.some.inj decoded

@[simp] theorem decode_nil : decode [] = some "" := decode_eq_some.mpr rfl

/-- What begins the bytes and is not all of them begins them without the last. -/
theorem prefix_dropLast {bytes start : List UInt8} (begins : start <+: bytes)
    (part : start ≠ bytes) : start <+: bytes.dropLast := by
  have length : start.length ≠ bytes.length := fun same => part (begins.eq_of_length same)
  apply List.prefix_of_prefix_length_le begins (List.dropLast_prefix bytes)
  rw [List.length_dropLast]
  have most := begins.length_le
  omega

/-- The text of the longest beginning of the bytes that is one, within a number of bytes. -/
structure LongestText (bytes : List UInt8) (limit : Nat) (text : String) : Prop where
  begins : encode text <+: bytes
  within : (encode text).length ≤ limit
  longest : ∀ other, encode other <+: bytes → (encode other).length ≤ limit →
    encode other <+: encode text

theorem LongestText.unique {bytes : List UInt8} {limit : Nat} {text other : String}
    (one : LongestText bytes limit text) (two : LongestText bytes limit other) : text = other := by
  apply encode_injective
  exact (two.longest text one.begins one.within).eq_of_length_le
    (one.longest other two.begins two.within).length_le

/-- Within a number of bytes means within as many bytes of the beginning. -/
theorem longestText_take {bytes : List UInt8} {limit : Nat} {text : String}
    (begins : encode text <+: bytes.take limit)
    (longest : ∀ other, encode other <+: bytes.take limit → encode other <+: encode text) :
    LongestText bytes limit text where
  begins := begins.trans (List.take_prefix limit bytes)
  within := begins.length_le.trans (List.length_take_le limit bytes)
  longest other before within := longest other (List.prefix_take_iff.mpr ⟨before, within⟩)

end Utf8
