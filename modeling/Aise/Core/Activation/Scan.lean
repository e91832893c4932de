import Mathlib.Data.Prod.Lex
import Mathlib.Data.List.Infix
import Mathlib.Tactic.Common
import Aise.Lib.Text
import Aise.Lib.Sorting

/-! Text an activation run scans: fragments with their normalized forms, the buffer a
turn starts from, and counting the literal occurrences of a key. -/
namespace Aise
open RustText

inductive ScanFragmentKind where
  | playerContribution | playerRoleName | narrativeDirection | recentStory | storyOpening
  | storySummary | recursionContent
  deriving DecidableEq

/-- The derived `Ord` follows the order of declaration. -/
def ScanFragmentKind.rank : ScanFragmentKind → Nat
  | .playerContribution => 0
  | .playerRoleName => 1
  | .narrativeDirection => 2
  | .recentStory => 3
  | .storyOpening => 4
  | .storySummary => 5
  | .recursionContent => 6

/-- What the matching reads of Unicode: `char::to_lowercase` and
`char::is_alphanumeric`. -/
structure CharTables where
  toLowercase : Char → List Char
  isAlphanumeric : Char → Bool

/-- One character of `normalize_text`, with `normalized` and `pending_space`. -/
def normalizeChar (tables : CharTables) (caseSensitive : Bool) (state : List Char × Bool)
    (character : Char) : List Char × Bool :=
  let (normalized, pendingSpace) := state
  if isWhitespace character then (normalized, !normalized.isEmpty)
  else
    let normalized := if pendingSpace then normalized ++ [' '] else normalized
    (normalized ++ if caseSensitive then [character] else tables.toLowercase character, false)

def normalizeText (tables : CharTables) (value : String) (caseSensitive : Bool) : String :=
  String.ofList (value.toList.foldl (normalizeChar tables caseSensitive) ([], false)).1

def isWordChar (tables : CharTables) (character : Char) : Bool :=
  tables.isAlphanumeric character || character == '_'

/-- The matches of `match_indices` from left to right. `skip` characters still belong to
the last match, `before` is the character in front of `haystack`. -/
def literalCountFrom (tables : CharTables) (needle : List Char) (wholeWords : Bool) :
    (before : Option Char) → (skip : Nat) → (haystack : List Char) → Nat
  | _, _, [] => 0
  | _, skip + 1, character :: rest =>
    literalCountFrom tables needle wholeWords (some character) skip rest
  | before, 0, character :: rest =>
    if needle.isPrefixOf (character :: rest) then
      let after := ((character :: rest).drop needle.length).head?
      let counted :=
        !wholeWords || (!before.any (isWordChar tables) && !after.any (isWordChar tables))
      (if counted then 1 else 0) +
        literalCountFrom tables needle wholeWords (some character) (needle.length - 1) rest
    else literalCountFrom tables needle wholeWords (some character) 0 rest

def literalCount (tables : CharTables) (haystack needle : String) (wholeWords : Bool) : Nat :=
  if needle.toList.isEmpty then 0
  else literalCountFrom tables needle.toList wholeWords none 0 haystack.toList

theorem literalCountFrom_infix
    (found : 0 < literalCountFrom tables needle wholeWords before skip haystack) :
    needle <:+: haystack := by
  induction haystack generalizing before skip with
  | nil =>
    cases skip <;> simp [literalCountFrom] at found
  | cons character rest ih =>
    have later {before skip}
        (found : 0 < literalCountFrom tables needle wholeWords before skip rest) :
        needle <:+: character :: rest :=
      (ih found).trans (List.suffix_cons character rest).isInfix
    cases skip with
    | succ skip =>
      simp only [literalCountFrom] at found
      exact later found
    | zero =>
      simp only [literalCountFrom] at found
      split at found
      · rename_i here
        exact (List.isPrefixOf_iff_prefix.mp here).isInfix
      · exact later found

/-- What is counted is there, and is not empty. -/
theorem literalCount_infix (found : 0 < literalCount tables haystack needle wholeWords) :
    needle.toList ≠ [] ∧ needle.toList <:+: haystack.toList := by
  simp only [literalCount] at found
  split at found
  · omega
  · rename_i nonempty
    exact ⟨by simpa using nonempty, literalCountFrom_infix found⟩

structure ScanFragment where
  kind : ScanFragmentKind
  depth : UInt16
  caseSensitiveText : String
  caseInsensitiveText : String

namespace ScanFragment

def new (tables : CharTables) (kind : ScanFragmentKind) (depth : UInt16) (text : String) :
    ScanFragment where
  kind := kind
  depth := depth
  caseSensitiveText := normalizeText tables text true
  caseInsensitiveText := normalizeText tables text false

def isEmpty (fragment : ScanFragment) : Bool := fragment.caseSensitiveText.toList.isEmpty

def haystack (fragment : ScanFragment) (caseSensitive : Bool) : String :=
  if caseSensitive then fragment.caseSensitiveText else fragment.caseInsensitiveText

def count (tables : CharTables) (fragment : ScanFragment) (needle : String)
    (caseSensitive wholeWords : Bool) : Nat :=
  literalCount tables (fragment.haystack caseSensitive) needle wholeWords

def sortKey (fragment : ScanFragment) : Nat ×ₗ Nat :=
  toLex (fragment.kind.rank, fragment.depth.toNat)

theorem new_haystack (tables : CharTables) (kind : ScanFragmentKind) (depth : UInt16)
    (text : String) (caseSensitive : Bool) :
    (new tables kind depth text).haystack caseSensitive = normalizeText tables text caseSensitive := by
  cases caseSensitive <;> rfl

end ScanFragment

/-- The text of the turn itself: no empty fragment, no recursion content, and ordered
by source and depth. -/
structure ScanBuffer where
  fragments : List ScanFragment
  nonempty : ∀ fragment ∈ fragments, fragment.isEmpty = false
  base : ∀ fragment ∈ fragments, fragment.kind ≠ .recursionContent
  sorted : fragments.Pairwise fun left right => left.sortKey ≤ right.sortKey

/-- Whether `ScanBuffer::new` keeps a fragment. -/
def ScanBuffer.keeps (fragment : ScanFragment) : Bool :=
  !fragment.isEmpty && fragment.kind ≠ .recursionContent

def ScanBuffer.new (fragments : List ScanFragment) : ScanBuffer where
  fragments := Sorting.sort ScanFragment.sortKey (fragments.filter keeps)
  nonempty := by
    intro fragment member
    have kept := List.of_mem_filter ((List.mem_insertionSort _).mp member)
    simp_all [keeps]
  base := by
    intro fragment member
    have kept := List.of_mem_filter ((List.mem_insertionSort _).mp member)
    simp_all [keeps]
  sorted := Sorting.sort_pairwise _ _

end Aise
