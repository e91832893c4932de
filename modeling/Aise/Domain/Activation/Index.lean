import Aise.Core.Activation.Engine
import Aise.Domain.Activation.Rule
import Aise.Lib.Saturating

/-! The text a session scans and the frozen index it is matched against. What a fragment
derives from its text, its identifier and its normalized forms, is computed here and not
stored, so no fragment can disagree with its own text. -/
namespace Aise.Domain
open RustText Saturating

/-- Code outside the repository: the hash, the character tables and the layout of
`ActivationEvidence`. -/
structure Externals where
  sha256 : Sha256
  tables : CharTables
  evidenceSize : UInt64

def Externals.digest (externals : Externals) (fed : List UInt8) : Sha256Digest where
  bytes := List.ofFn (externals.sha256 fed)
  sized := List.length_ofFn

inductive ScanFragmentKind where
  | playerContribution | recentStory | storySummary | playerRoleName | playerRoleLabel
  | narrativeDirection | narrativeEvent | recursionContent
  deriving DecidableEq

/-- The `Debug` name, which the fragment identifier hashes. -/
def ScanFragmentKind.name : ScanFragmentKind → String
  | .playerContribution => "PlayerContribution"
  | .recentStory => "RecentStory"
  | .storySummary => "StorySummary"
  | .playerRoleName => "PlayerRoleName"
  | .playerRoleLabel => "PlayerRoleLabel"
  | .narrativeDirection => "NarrativeDirection"
  | .narrativeEvent => "NarrativeEvent"
  | .recursionContent => "RecursionContent"

def sourcePriority : ScanFragmentKind → UInt8
  | .playerContribution => 0
  | .playerRoleName | .playerRoleLabel => 1
  | .narrativeDirection | .narrativeEvent => 2
  | .recentStory => 3
  | .storySummary => 4
  | .recursionContent => 5

abbrev ScanFragmentId := Sha256Digest

structure ScanFragment where
  kind : ScanFragmentKind
  recencyDepth : UInt16
  stableOrder : UInt32
  text : BoundedText
  deriving DecidableEq

namespace ScanFragment

def id (externals : Externals) (fragment : ScanFragment) : ScanFragmentId :=
  externals.digest
    (Activation.utf8 s!"{fragment.kind.name}:{fragment.recencyDepth}:{fragment.stableOrder}:" ++
      Activation.utf8 fragment.text.value)

def normalizedText (externals : Externals) (fragment : ScanFragment) (caseSensitive : Bool) :
    String :=
  normalizeText externals.tables fragment.text.value caseSensitive

def sortKey (fragment : ScanFragment) : Nat ×ₗ Nat ×ₗ Nat :=
  toLex ((sourcePriority fragment.kind).toNat,
    toLex (fragment.recencyDepth.toNat, fragment.stableOrder.toNat))

end ScanFragment

structure ActivationScanBuffer where
  fragments : List ScanFragment
  sorted : fragments.Pairwise fun left right => left.sortKey ≤ right.sortKey

inductive ScanBufferError where
  | invalidLimit | fragmentLimit | byteLimit
  deriving DecidableEq

namespace ActivationScanBuffer

def bytes (fragments : List ScanFragment) : Nat :=
  fragments.foldl (fun total fragment => total + len fragment.text.value) 0

/-- A byte total beyond `usize` is beyond `maxBytes` too, and fails the same way. -/
def tryNew (fragments : List ScanFragment) (maxFragments maxBytes : UInt64) :
    Except ScanBufferError ActivationScanBuffer :=
  if maxFragments = 0 ∨ maxBytes = 0 then .error .invalidLimit
  else if fragments.length > maxFragments.toNat then .error .fragmentLimit
  else if bytes fragments > maxBytes.toNat then .error .byteLimit
  else .ok ⟨Sorting.sort ScanFragment.sortKey fragments, Sorting.sort_pairwise _ _⟩

def visibleAtDepth (buffer : ActivationScanBuffer) (depth : UInt16) : List ScanFragment :=
  buffer.fragments.filter fun fragment => fragment.recencyDepth ≤ depth

end ActivationScanBuffer

inductive ActivationPatternKind where
  | primaryLiteral | primaryRegex | secondaryLiteral | secondaryRegex | constant | sticky | external
  deriving DecidableEq

/-- The derived `Ord` follows the order of declaration. -/
def ActivationPatternKind.rank : ActivationPatternKind → Nat
  | .primaryLiteral => 0
  | .primaryRegex => 1
  | .secondaryLiteral => 2
  | .secondaryRegex => 3
  | .constant => 4
  | .sticky => 5
  | .external => 6

def ActivationPatternKind.isPrimary : ActivationPatternKind → Bool
  | .primaryLiteral | .primaryRegex => true
  | _ => false

def ActivationPatternKind.isSecondary : ActivationPatternKind → Bool
  | .secondaryLiteral | .secondaryRegex => true
  | _ => false

structure FragmentPatternMatch where
  sourceId : KnowledgeSourceId
  patternKind : ActivationPatternKind
  patternOrdinal : UInt16
  fragmentKind : ScanFragmentKind
  recencyDepth : UInt16
  stableFragmentOrder : UInt32
  matchCount : UInt16
  groupScoreContribution : UInt16
  deriving DecidableEq

/-- A compiled regex is known by how many matches `find_iter` yields in a text. -/
inductive CompiledMatcher where
  | literal (needle : String) (caseSensitive wholeWords : Bool)
  | regex (asStr : String) (findIter : String → Nat)

structure IndexedActivationPattern where
  sourceId : KnowledgeSourceId
  ordinal : UInt16
  kind : ActivationPatternKind
  groupScoreContribution : UInt16
  matcher : CompiledMatcher

def IndexedActivationPattern.projection (pattern : IndexedActivationPattern)
    (fragment : ScanFragment) (matchCount : Nat) : FragmentPatternMatch where
  sourceId := pattern.sourceId
  patternKind := pattern.kind
  patternOrdinal := pattern.ordinal
  fragmentKind := fragment.kind
  recencyDepth := fragment.recencyDepth
  stableFragmentOrder := fragment.stableOrder
  matchCount := clamp16 matchCount
  groupScoreContribution := pattern.groupScoreContribution

/-- What the two indexes share: a pattern is reported with its count, unless that is zero. -/
def matchPatterns (count : CompiledMatcher → Option Nat) (patterns : List IndexedActivationPattern)
    (fragment : ScanFragment) : List FragmentPatternMatch :=
  patterns.filterMap fun pattern =>
    match count pattern.matcher with
    | none | some 0 => none
    | some count => some (pattern.projection fragment count)

/-- A match is a pattern's report on the fragment it was found in. -/
theorem mem_matchPatterns {count : CompiledMatcher → Option Nat}
    {patterns : List IndexedActivationPattern} {fragment : ScanFragment} {item : FragmentPatternMatch}
    (member : item ∈ matchPatterns count patterns fragment) :
    ∃ pattern ∈ patterns, ∃ found, item = pattern.projection fragment found := by
  obtain ⟨pattern, among, reported⟩ := List.mem_filterMap.mp member
  split at reported
  · cases reported
  · cases reported
  · exact ⟨pattern, among, _, (Option.some.inj reported).symm⟩

structure FrozenLiteralIndex where
  patterns : List IndexedActivationPattern := []
  compiledBytes : UInt64 := 0

def FrozenLiteralIndex.matchFragment (externals : Externals) (index : FrozenLiteralIndex)
    (fragment : ScanFragment) : List FragmentPatternMatch :=
  let count : CompiledMatcher → Option Nat
    | .literal needle caseSensitive wholeWords =>
      some (literalCount externals.tables (fragment.normalizedText externals caseSensitive) needle
        wholeWords)
    | .regex _ _ => none
  matchPatterns count index.patterns fragment

structure FrozenRegexSet where
  patterns : List IndexedActivationPattern := []
  compiledBytes : UInt64 := 0

def FrozenRegexSet.matchFragment (set : FrozenRegexSet) (fragment : ScanFragment) :
    List FragmentPatternMatch :=
  let count : CompiledMatcher → Option Nat
    | .literal _ _ _ => none
    | .regex _ findIter => some (findIter fragment.text.value)
  matchPatterns count set.patterns fragment

structure ActivationIndexSnapshotRef where
  storyId : StoryId
  packDigest : Sha256Digest
  baseRevision : UInt64
  overlayVersion : UInt64
  matcherVersion : UInt32
  deriving DecidableEq

structure ActivationEntryMetadata where
  sourceId : KnowledgeSourceId
  kind : KnowledgeKind
  rule : KnowledgeActivationRule
  ruleVersion : ActivationRuleVersion
  salience : UInt8
  fromPack : Bool
  deriving DecidableEq

structure ActivationIndexSnapshot where
  reference : ActivationIndexSnapshotRef
  constantEntries : List KnowledgeSourceId
  metadata : BTreeMap KnowledgeSourceId ActivationEntryMetadata
  literalIndex : FrozenLiteralIndex := {}
  regexSet : FrozenRegexSet := {}
  overlayLiteralIndex : FrozenLiteralIndex := {}
  overlayRegexSet : FrozenRegexSet := {}

namespace ActivationIndexSnapshot

def new (reference : ActivationIndexSnapshotRef)
    (metadata : BTreeMap KnowledgeSourceId ActivationEntryMetadata)
    (literalIndex : FrozenLiteralIndex) (regexSet : FrozenRegexSet)
    (overlayLiteralIndex : FrozenLiteralIndex) (overlayRegexSet : FrozenRegexSet) :
    ActivationIndexSnapshot where
  reference := reference
  constantEntries := ((valuesOf metadata).filter fun entry => entry.rule.mode.constant).map
    (·.sourceId)
  metadata := metadata
  literalIndex := literalIndex
  regexSet := regexSet
  overlayLiteralIndex := overlayLiteralIndex
  overlayRegexSet := overlayRegexSet

def literalPatternCount (index : ActivationIndexSnapshot) : UInt64 :=
  add (clamp64 index.literalIndex.patterns.length) (clamp64 index.overlayLiteralIndex.patterns.length)

def regexPatternCount (index : ActivationIndexSnapshot) : UInt64 :=
  add (clamp64 index.regexSet.patterns.length) (clamp64 index.overlayRegexSet.patterns.length)

def matchFragment (externals : Externals) (index : ActivationIndexSnapshot)
    (fragment : ScanFragment) : List FragmentPatternMatch :=
  let pack := index.literalIndex.matchFragment externals fragment ++
    index.regexSet.matchFragment fragment
  (pack.filter fun item => index.metadata[item.sourceId]?.any (·.fromPack)) ++
    index.overlayLiteralIndex.matchFragment externals fragment ++
    index.overlayRegexSet.matchFragment fragment

/-- What a fragment matches carries the kind and the depth of the fragment. -/
theorem matchFragment_labels {externals : Externals} {index : ActivationIndexSnapshot}
    {fragment : ScanFragment} {item : FragmentPatternMatch}
    (member : item ∈ index.matchFragment externals fragment) :
    item.fragmentKind = fragment.kind ∧ item.recencyDepth = fragment.recencyDepth := by
  have labels {count : CompiledMatcher → Option Nat} {patterns : List IndexedActivationPattern}
      (member : item ∈ matchPatterns count patterns fragment) :
      item.fragmentKind = fragment.kind ∧ item.recencyDepth = fragment.recencyDepth := by
    obtain ⟨_, _, _, rfl⟩ := mem_matchPatterns member
    exact ⟨rfl, rfl⟩
  unfold matchFragment FrozenLiteralIndex.matchFragment FrozenRegexSet.matchFragment at member
  rcases List.mem_append.mp member with rest | regex
  · rcases List.mem_append.mp rest with pack | literal
    · rcases List.mem_append.mp (List.mem_filter.mp pack).1 with literal | regex
      · exact labels literal
      · exact labels regex
    · exact labels literal
  · exact labels regex

def matchesSnapshot (index : ActivationIndexSnapshot) (snapshot : KnowledgeSnapshotRef)
    (matcherVersion : UInt32) : Bool :=
  index.reference.storyId = snapshot.storyId &&
    index.reference.packDigest = snapshot.packDigest &&
    index.reference.baseRevision = snapshot.baseRevision &&
    index.reference.matcherVersion = matcherVersion

end ActivationIndexSnapshot

def summaryVisible (kind : ScanFragmentKind) (depth : UInt16) (includeSummaryAtMaxDepth : Bool)
    (maxDepth : UInt16) : Bool :=
  kind ≠ .storySummary || (includeSummaryAtMaxDepth && depth = maxDepth)

end Aise.Domain
