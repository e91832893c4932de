import Mathlib.Data.List.DropRight

/-! Text as Rust's `str` sees it: the Unicode whitespace class, trimming at both
ends, and byte lengths in UTF-8. Lean's own `String.trim` only knows ASCII blanks,
so the class is written out from the Unicode `White_Space` property. -/
namespace RustText

/-- `char::is_whitespace`. -/
def isWhitespace (c : Char) : Bool :=
  let n := c.toNat
  (9 ≤ n && n ≤ 13) || n == 0x20 || n == 0x85 || n == 0xA0 || n == 0x1680 ||
    (0x2000 ≤ n && n ≤ 0x200A) || n == 0x2028 || n == 0x2029 || n == 0x202F ||
    n == 0x205F || n == 0x3000

/-- `str::trim`. -/
def trim (text : String) : String :=
  String.ofList ((text.toList.dropWhile isWhitespace).rdropWhile isWhitespace)

/-- `str::len`, the number of UTF-8 bytes. -/
def len (text : String) : Nat := text.utf8ByteSize

/-- `text.trim().is_empty()`. -/
def isBlank (text : String) : Bool := trim text == ""

/-- `str::find`, as what stands before the first occurrence and the text from there on. -/
def find (needle : List Char) : List Char → Option (List Char × List Char)
  | [] => if needle.isEmpty then some ([], []) else none
  | c :: rest =>
    if needle.isPrefixOf (c :: rest) then some ([], c :: rest)
    else (find needle rest).map fun (before, found) => (c :: before, found)

def contains (needle text : List Char) : Bool := (find needle text).isSome

/-- `str::replace` of a nonempty pattern; `skip` characters still belong to the last
occurrence. -/
def replaceFrom (pattern value : List Char) : (skip : Nat) → List Char → List Char
  | _, [] => []
  | skip + 1, _ :: rest => replaceFrom pattern value skip rest
  | 0, c :: rest =>
    if pattern.isPrefixOf (c :: rest) then
      value ++ replaceFrom pattern value (pattern.length - 1) rest
    else c :: replaceFrom pattern value 0 rest

def replace (pattern value text : List Char) : List Char := replaceFrom pattern value 0 text

/-- Characters of one byte each. -/
theorem len_ofList {chars : List Char} (ascii : ∀ c ∈ chars, c.utf8Size = 1) :
    len (String.ofList chars) = chars.length := by
  induction chars with
  | nil => rfl
  | cons c chars ih =>
    have rest := ih fun other member => ascii other (List.mem_cons_of_mem c member)
    have one : (String.ofList [c]).utf8ByteSize = 1 := by
      rw [← String.singleton_eq_ofList, String.utf8ByteSize_singleton]
      exact ascii c List.mem_cons_self
    simp only [len] at rest ⊢
    rw [← List.singleton_append, String.ofList_append, String.utf8ByteSize_append, rest, one,
      List.length_append, List.length_singleton]

/-- Trimming leaves nothing exactly when there was nothing but whitespace. -/
theorem isBlank_iff (text : String) :
    isBlank text = true ↔ ∀ c ∈ text.toList, isWhitespace c = true := by
  have empty (cs : List Char) : String.ofList cs = "" ↔ cs = [] := by
    rw [← String.toList_inj, String.toList_ofList]
    rfl
  simp only [isBlank, trim, beq_iff_eq, empty, List.rdropWhile_eq_nil_iff]
  constructor
  · intro inside c member
    rw [← List.takeWhile_append_dropWhile (p := isWhitespace) (l := text.toList)] at member
    rcases List.mem_append.mp member with front | back
    · exact List.mem_takeWhile_imp front
    · exact inside c back
  · intro whitespace c member
    exact whitespace c ((List.dropWhile_sublist _).mem member)

/-- One visible character is enough to survive trimming. -/
theorem not_blank_of_mem {text : String} {c : Char} (member : c ∈ text.toList)
    (visible : isWhitespace c = false) : isBlank text = false := by
  rw [← Bool.not_eq_true, isBlank_iff]
  intro whitespace
  simp [whitespace c member] at visible

end RustText
