import Aise.Lib.Loop
import Aise.Lib.Saturating
import Aise.Lib.Utf8
import Aise.Lib.Json
import Aise.Core.Activation.Engine

/-! How the content of an observation is captured: its text is hashed and measured as a whole, and
kept up to a limit. -/
namespace Aise
open Saturating Utf8 SerdeJson

structure BoundedContent where
  json : String
  originalBytes : UInt64
  capturedBytes : UInt64
  truncated : Bool
  sha256 : String
  deriving DecidableEq

/-- `format!("{:x}", hasher.finalize())`. -/
def hexDigest (sha256 : Sha256) (fed : List UInt8) : String :=
  String.ofList ((List.ofFn (sha256 fed)).flatMap fun byte =>
    [hexDigit (byte.toNat / 16), hexDigit (byte.toNat % 16)])

/-- `hashed` is what the hasher was fed with. -/
structure BoundedHashWriter where
  captured : List UInt8 := []
  limit : UInt64
  originalBytes : UInt64 := 0
  hashed : List UInt8 := []

namespace BoundedHashWriter

/-- One round of the loop that drops the last byte until the captured bytes are a text. -/
def dropBroken (captured : List UInt8) : Loop.Flow (List UInt8) :=
  if (decode captured).isNone then .again captured.dropLast else .leave captured

/-- No bytes at all are a text, so there was a byte to drop. -/
theorem dropBroken_descends {captured shorter : List UInt8}
    (round : dropBroken captured = .again shorter) : shorter.length < captured.length := by
  unfold dropBroken at round
  split at round
  · rename_i broken
    cases round
    have some_byte : captured ≠ [] := by
      rintro rfl
      simp at broken
    rw [List.length_dropLast]
    exact Nat.sub_lt (List.length_pos_of_ne_nil some_byte) Nat.one_pos
  · cases round

def whole (captured : List UInt8) : List UInt8 :=
  Loop.run dropBroken List.length dropBroken_descends (captured.length + 1) captured
    (Nat.lt_succ_self _)

def finish (sha256 : Sha256) (writer : BoundedHashWriter) : BoundedContent :=
  let captured := whole writer.captured
  let capturedBytes := clamp64 captured.length
  { json := (decode captured).getD ""
    originalBytes := writer.originalBytes
    capturedBytes
    truncated := writer.originalBytes > capturedBytes
    sha256 := hexDigest sha256 writer.hashed }

/-- `Write::write`, which takes all bytes. -/
def write (writer : BoundedHashWriter) (bytes : List UInt8) : BoundedHashWriter × Nat :=
  let remaining := sub writer.limit (clamp64 writer.captured.length)
  ({ writer with
      hashed := writer.hashed ++ bytes
      originalBytes := add writer.originalBytes (clamp64 bytes.length)
      captured := writer.captured ++ bytes.take (min remaining.toNat bytes.length) },
    bytes.length)

def writes (writer : BoundedHashWriter) (pieces : List (List UInt8)) : BoundedHashWriter :=
  pieces.foldl (fun writer bytes => (writer.write bytes).1) writer

/-! ### What is captured -/

/-- What a writer holds after it was given some bytes. -/
structure Holds (limit : UInt64) (given : List UInt8) (writer : BoundedHashWriter) : Prop where
  limited : writer.limit = limit
  hashed : writer.hashed = given
  measured : writer.originalBytes.toNat = min given.length max64
  captured : writer.captured = given.take limit.toNat

variable {limit : UInt64} {given : List UInt8} {writer : BoundedHashWriter}

theorem holds_new : Holds limit [] { limit } where
  limited := rfl
  hashed := rfl
  measured := rfl
  captured := List.take_nil.symm

theorem Holds.write (holds : Holds limit given writer) (bytes : List UInt8) :
    Holds limit (given ++ bytes) (writer.write bytes).1 where
  limited := holds.limited
  hashed := congrArg (· ++ bytes) holds.hashed
  measured := by
    have measured := holds.measured
    simp only [BoundedHashWriter.write, toNat_add, toNat_clamp64, List.length_append]
    omega
  captured := by
    have bound := toNat_le limit
    have room : (sub writer.limit (clamp64 writer.captured.length)).toNat =
        limit.toNat - given.length := by
      rw [toNat_sub, toNat_clamp64, holds.limited, holds.captured, List.length_take]
      omega
    simp only [BoundedHashWriter.write]
    rw [room, ← List.take_eq_take_min, holds.captured, List.take_append]

theorem Holds.writes (holds : Holds limit given writer) (pieces : List (List UInt8)) :
    Holds limit (given ++ pieces.flatten) (writer.writes pieces) := by
  induction pieces generalizing given writer with
  | nil => simpa [BoundedHashWriter.writes] using holds
  | cons bytes pieces ih =>
    have later := ih (holds.write bytes)
    rw [List.append_assoc] at later
    exact later

/-- The loop ends with the longest text that the captured bytes begin with. -/
theorem whole_spec (captured : List UInt8) :
    ∃ text, encode text = whole captured ∧ whole captured <+: captured ∧
      ∀ other, encode other <+: captured → encode other <+: whole captured := by
  obtain ⟨rounds, -, ends⟩ := @Loop.run_ends _ dropBroken List.length dropBroken_descends
    (captured.length + 1) captured (Nat.lt_succ_self _)
  change Loop.Ends dropBroken captured rounds (whole captured) at ends
  generalize whole captured = rest at ends
  induction ends with
  | @leave captured rest left =>
    unfold dropBroken at left
    split at left
    · cases left
    · rename_i sound
      cases left
      obtain ⟨text, decoded⟩ : ∃ text, decode captured = some text := by
        cases decoded : decode captured with
        | none => exact absurd (congrArg Option.isNone decoded) sound
        | some text => exact ⟨text, rfl⟩
      exact ⟨text, decode_eq_some.mp decoded, List.prefix_rfl, fun _ before => before⟩
  | @again captured shorter _ _ round _ ih =>
    obtain ⟨text, same, before, longest⟩ := ih
    unfold dropBroken at round
    split at round
    · rename_i broken
      cases round
      refine ⟨text, same, before.trans (List.dropLast_prefix captured), fun other begins => ?_⟩
      -- The captured bytes are no text, so what begins them is not all of them.
      apply longest
      apply prefix_dropLast begins
      rintro same
      rw [← same, decode_encode] at broken
      cases broken
    · cases round

end BoundedHashWriter

/-- However a text is cut into writes, the longest text it begins with within the limit is captured,
all of it is measured and hashed, and it counts as truncated where something is missing. -/
theorem bounded_capture_exact (sha256 : Sha256) (limit : UInt64) {text : String}
    {pieces : List (List UInt8)} (split : pieces.flatten = encode text)
    (addressable : (encode text).length < UInt64.size) :
    let content := (BoundedHashWriter.writes { limit } pieces).finish sha256
    LongestText (encode text) limit.toNat content.json ∧
      content.originalBytes.toNat = (encode text).length ∧
      content.capturedBytes.toNat = (encode content.json).length ∧
      (content.truncated = true ↔ (encode content.json).length < (encode text).length) ∧
      content.sha256 = hexDigest sha256 (encode text) ∧
      ∀ others : List (List UInt8), others.flatten = encode text →
        (BoundedHashWriter.writes { limit } others).finish sha256 = content := by
  intro content
  have size : UInt64.size = max64 + 1 := rfl
  have holds (pieces : List (List UInt8)) (split : pieces.flatten = encode text) :
      BoundedHashWriter.Holds limit (encode text) (BoundedHashWriter.writes { limit } pieces) := by
    have new : BoundedHashWriter.Holds limit [] { limit } := BoundedHashWriter.holds_new
    have given := new.writes pieces
    rwa [List.nil_append, split] at given
  have held := holds pieces split
  obtain ⟨json, same, before, longest⟩ := BoundedHashWriter.whole_spec
    ((encode text).take limit.toNat)
  have captured : content.json = json := by
    change (decode (BoundedHashWriter.whole _)).getD "" = json
    rw [held.captured, ← same, decode_encode, Option.getD_some]
  have most : LongestText (encode text) limit.toNat json := by
    rw [← same] at before longest
    exact longestText_take before longest
  have original : content.originalBytes.toNat = (encode text).length := by
    change (BoundedHashWriter.writes { limit } pieces).originalBytes.toNat = _
    rw [held.measured]
    omega
  have kept : content.capturedBytes.toNat = (encode json).length := by
    change (clamp64 (BoundedHashWriter.whole _).length).toNat = _
    have short := most.begins.length_le
    rw [held.captured, ← same, toNat_clamp64]
    omega
  rw [captured]
  refine ⟨most, original, kept, ?_, ?_, fun others split => ?_⟩
  · rw [← kept, ← original, ← UInt64.lt_iff_toNat_lt]
    exact decide_eq_true_iff
  · exact congrArg (hexDigest sha256) held.hashed
  · have also := holds others split
    have measured : (BoundedHashWriter.writes { limit } others).originalBytes =
        (BoundedHashWriter.writes { limit } pieces).originalBytes :=
      UInt64.toNat_inj.mp (also.measured.trans held.measured.symm)
    simp only [content, BoundedHashWriter.finish, also.captured, also.hashed, held.captured,
      held.hashed, measured]

namespace Content.Sample

/-- The limit cuts the second character of the text, and a write cuts the first. -/
theorem accent_captured :
    ((BoundedHashWriter.writes { limit := 3 } [[195], [169, 195, 169]]).finish fun _ _ => 0).json =
      "é" := by
  have exact := @bounded_capture_exact (fun _ _ => 0) 3 "éé" [[195], [169, 195, 169]] (by decide) (by decide)
  have accent : LongestText (encode "éé") 3 "é" := by
    refine longestText_take (by decide) fun other begins => ?_
    have broken : decode ((encode "éé").take 3) = none := by decide
    apply prefix_dropLast begins
    intro same
    change encode other = (encode "éé").take 3 at same
    rw [← same, decode_encode] at broken
    cases broken
  exact exact.1.unique accent

end Content.Sample

end Aise
