import Mathlib.Algebra.GroupWithZero.Nat
import Aise.Lib.Text

/-! Compact JSON text as `serde_json` writes it, and a writer that counts bytes up
to a maximum. The text is a list of pieces in writing order; how the serializer
groups characters into pieces cannot be seen by a writer that only adds lengths. -/
namespace SerdeJson

inductive Json where
  | null
  | bool (value : Bool)
  | num (value : Int)
  | str (value : String)
  | arr (items : List Json)
  | obj (fields : List (String × Json))

def hexDigit (n : Nat) : Char := Nat.digitChar n

/-- `CompactFormatter`'s escapes: the two-character ones, `\u00xx` for the other
control characters, and every further character as it is. -/
def escape (c : Char) : List Char :=
  if c = '"' then ['\\', '"']
  else if c = '\\' then ['\\', '\\']
  else if c.toNat = 8 then ['\\', 'b']
  else if c.toNat = 9 then ['\\', 't']
  else if c.toNat = 10 then ['\\', 'n']
  else if c.toNat = 12 then ['\\', 'f']
  else if c.toNat = 13 then ['\\', 'r']
  else if c.toNat < 32 then
    ['\\', 'u', '0', '0', hexDigit (c.toNat / 16), hexDigit (c.toNat % 16)]
  else [c]

def quoted (text : String) : String :=
  String.ofList ('"' :: text.toList.flatMap escape ++ ['"'])

def literal : Bool → String
  | true => "true"
  | false => "false"

mutual
/-- The pieces `to_writer` hands to its writer for one value. -/
def Json.pieces : Json → List String
  | .null => ["null"]
  | .bool value => [literal value]
  | .num value => [toString value]
  | .str value => [quoted value]
  | .arr items => "[" :: itemPieces "" items
  | .obj fields => "\x7b" :: fieldPieces "" fields

def itemPieces (separator : String) : List Json → List String
  | [] => ["]"]
  | item :: items => separator :: item.pieces ++ itemPieces "," items

def fieldPieces (separator : String) : List (String × Json) → List String
  | [] => ["\x7d"]
  | (name, value) :: fields =>
    separator :: quoted name :: ":" :: value.pieces ++ fieldPieces "," fields
end

/-- Bytes of the whole text. -/
def size : List String → Nat
  | [] => 0
  | piece :: pieces => RustText.len piece + size pieces

theorem size_cons (piece : String) (pieces : List String) :
    size (piece :: pieces) = RustText.len piece + size pieces := rfl

theorem size_append (first second : List String) :
    size (first ++ second) = size first + size second := by
  induction first with
  | nil => exact (Nat.zero_add _).symm
  | cons piece first ih => rw [List.cons_append, size_cons, size_cons, ih, Nat.add_assoc]

/-- Characters of the whole text. -/
def Json.length (json : Json) : Nat := (json.pieces.map String.length).sum

/-- Each field comes with a colon and at most a comma. -/
theorem size_fieldPieces_le {fields : List (String × Json)} (short : RustText.len separator ≤ 1)
    (each : ∀ name value, (name, value) ∈ fields →
      RustText.len (quoted name) + size value.pieces ≤ bound) :
    size (fieldPieces separator fields) ≤ fields.length * (bound + 2) + 1 := by
  induction fields generalizing separator with
  | nil => exact Nat.le_add_left 1 _
  | cons field fields ih =>
    obtain ⟨name, value⟩ := field
    have own := each name value List.mem_cons_self
    have comma : RustText.len "," ≤ 1 := Nat.le_refl 1
    have others := ih comma fun name value member =>
      each name value (List.mem_cons_of_mem _ member)
    have colon : RustText.len ":" = 1 := rfl
    simp only [fieldPieces, size_cons, size_append, List.length_cons, List.cons_append]
    rw [Nat.succ_mul]
    omega

theorem size_obj_le {fields : List (String × Json)}
    (each : ∀ name value, (name, value) ∈ fields →
      RustText.len (quoted name) + size value.pieces ≤ bound) :
    size (Json.obj fields).pieces ≤ fields.length * (bound + 2) + 2 := by
  have inside : size (fieldPieces "" fields) ≤ _ := size_fieldPieces_le (Nat.zero_le 1) each
  have brace : RustText.len "\x7b" = 1 := rfl
  rw [Json.pieces, size_cons]
  omega

/-- Every field takes a byte at least, its colon. -/
theorem length_le_size_fieldPieces (separator : String) (fields : List (String × Json)) :
    fields.length ≤ size (fieldPieces separator fields) := by
  induction fields generalizing separator with
  | nil => exact Nat.zero_le _
  | cons field fields ih =>
    have others := ih ","
    have colon : RustText.len ":" = 1 := rfl
    simp only [fieldPieces, size_cons, size_append, List.length_cons, List.cons_append]
    omega

theorem size_le_size_fieldPieces {fields : List (String × Json)} {name : String} {value : Json}
    (separator : String) (member : (name, value) ∈ fields) :
    size value.pieces ≤ size (fieldPieces separator fields) := by
  induction fields generalizing separator with
  | nil => cases member
  | cons field fields ih =>
    simp only [fieldPieces, size_cons, size_append, List.cons_append]
    rcases List.mem_cons.mp member with rfl | later
    · dsimp only
      omega
    · have others := ih "," later
      omega

/-- An object takes no fewer bytes than it has fields. -/
theorem length_le_size_obj (fields : List (String × Json)) :
    fields.length ≤ size (Json.obj fields).pieces := by
  rw [Json.pieces, size_cons]
  exact (length_le_size_fieldPieces "" fields).trans (Nat.le_add_left _ _)

/-- An object takes no fewer bytes than each of its values. -/
theorem size_le_size_obj {fields : List (String × Json)} {name : String} {value : Json}
    (member : (name, value) ∈ fields) : size value.pieces ≤ size (Json.obj fields).pieces := by
  rw [Json.pieces, size_cons]
  exact (size_le_size_fieldPieces "" member).trans (Nat.le_add_left _ _)

structure CountingWriter where
  maximum : Nat
  written : Nat
  exceeded : Bool
  deriving DecidableEq

def CountingWriter.new (maximum : Nat) : CountingWriter := ⟨maximum, 0, false⟩

/-- `Write::write`; `false` is the error that stops the serializer. -/
def CountingWriter.write (writer : CountingWriter) (buffer : String) : Bool × CountingWriter :=
  if RustText.len buffer > writer.maximum - writer.written then
    (false, { writer with written := writer.maximum + 1, exceeded := true })
  else (true, { writer with written := writer.written + RustText.len buffer })

/-- `serde_json::to_writer`: the pieces in order, up to the first refused one. -/
def CountingWriter.writeAll (writer : CountingWriter) : List String → Bool × CountingWriter
  | [] => (true, writer)
  | piece :: pieces =>
    match writer.write piece with
    | (true, next) => next.writeAll pieces
    | (false, stopped) => (false, stopped)

/-- The count never passes the maximum unless a piece was refused, and a refusal
means exactly that the whole text is longer than the room that was left. -/
theorem CountingWriter.writeAll_spec (writer : CountingWriter) (pieces : List String)
    (room : writer.written ≤ writer.maximum) :
    writer.writeAll pieces =
      if writer.written + size pieces ≤ writer.maximum then
        (true, { writer with written := writer.written + size pieces })
      else (false, { writer with written := writer.maximum + 1, exceeded := true }) := by
  induction pieces generalizing writer with
  | nil => simp [writeAll, size, room]
  | cons piece pieces ih =>
    have total := size_cons piece pieces
    unfold writeAll write
    split
    · rename_i next same
      split at same
      · simp at same
      · rename_i fits
        cases same
        rw [ih _ (by dsimp only; omega), total]
        simp only [Nat.add_assoc]
    · rename_i stopped same
      split at same
      · rename_i long
        cases same
        rw [if_neg (by omega)]
      · simp at same

end SerdeJson
