import Aise.Context.Activation.PackCache
import Aise.Context.Baseline
import Aise.Domain.Activation.RuleBytes
import Aise.Lib.Label
import Aise.Lib.Shared
import Aise.Persistence.SqliteActivation

/-! The coordinator of activation. It loads what the store has for an index, takes the compiled index of
the pack from a cache, puts the overlay of the story on it, and looks a fragment up in a second cache
before it is matched. All tasks share both caches, so what one of them takes another one may have put
there. -/
namespace Aise.Domain
open RustText Shared Persistence

structure ActivationRuleLimitsConfig where
  maxPrimaryPatternsPerEntry : UInt64
  maxSecondaryPatternsPerEntry : UInt64
  maxPatternBytes : UInt64
  maxRegexProgramBytes : UInt64
  maxGroupsPerEntry : UInt64
  maxGroupKeyBytes : UInt64
  maxMacroValueBytes : UInt64

def activationRuleLimits (config : ActivationRuleLimitsConfig) (maxScanDepth : UInt16) :
    ActivationRuleLimits where
  maxPrimaryPatternsPerEntry := config.maxPrimaryPatternsPerEntry
  maxSecondaryPatternsPerEntry := config.maxSecondaryPatternsPerEntry
  maxPatternBytes := config.maxPatternBytes
  maxRegexProgramBytes := config.maxRegexProgramBytes
  maxGroupsPerEntry := config.maxGroupsPerEntry
  maxGroupKeyBytes := config.maxGroupKeyBytes
  maxScanDepth

def mapStoreError : ActivationStoreError → ActivationError
  | .store .revisionConflict => .store .revisionConflict
  | .store .notFound => .store .notFound
  | .store (.limitExceeded limit) => .workLimitExceeded limit
  | .store (.serialization _) | .invalidWorldState => .store .serialization
  | .store _ => .store .unavailable

def ScanFragment.contentHash (externals : Externals) (fragment : ScanFragment) : Sha256Digest :=
  externals.digest (Activation.utf8 fragment.text.value)

def fragmentCacheKey (externals : Externals) (storyId : StoryId) (reference : ActivationIndexSnapshotRef)
    (macroDigest : Sha256Digest) (fragment : ScanFragment) : FragmentMatchCacheKey where
  storyId
  fragmentId := fragment.id externals
  fragmentKind := fragment.kind
  contentHash := fragment.contentHash externals
  packDigest := reference.packDigest
  overlayVersion := reference.overlayVersion
  matcherVersion := reference.matcherVersion
  macroDigest

abbrev ActivationFragmentMatches := BTreeMap ScanFragmentId (List FragmentPatternMatch)

/-- An index with what it has matched. -/
abbrev ActivationFound := ActivationIndexSnapshot × ActivationFragmentMatches

/-- What a task asks the store and the caches. -/
inductive ActivationCall where
  | loadSnapshot (snapshot : KnowledgeSnapshotRef) (limits : ActivationIndexLimits)
  | getPack (key : FrozenPackIndexKey)
  | insertPack (index : FrozenPackIndex)
  | getMatches (key : FragmentMatchCacheKey)
  | insertMatches (key : FragmentMatchCacheKey) (value : List FragmentPatternMatch)

abbrev ActivationCall.Answer : ActivationCall → Type
  | .loadSnapshot _ _ => Except ActivationStoreError ActivationIndexMetadata
  | .getPack _ => Option FrozenPackIndex
  | .insertPack _ => Except ActivationError Unit
  | .getMatches _ => Option (List FragmentPatternMatch)
  | .insertMatches _ _ => Unit

abbrev ActivationProgram := Program ActivationCall ActivationCall.Answer

namespace ActivationProgram

def loadSnapshot (snapshot : KnowledgeSnapshotRef) (limits : ActivationIndexLimits) :
    ActivationProgram (Except ActivationStoreError ActivationIndexMetadata) :=
  .single (ActivationCall.loadSnapshot snapshot limits)

def getPack (key : FrozenPackIndexKey) : ActivationProgram (Option FrozenPackIndex) :=
  .single (ActivationCall.getPack key)

def insertPack (index : FrozenPackIndex) : ActivationProgram (Except ActivationError Unit) :=
  .single (ActivationCall.insertPack index)

def getMatches (key : FragmentMatchCacheKey) :
    ActivationProgram (Option (List FragmentPatternMatch)) :=
  .single (ActivationCall.getMatches key)

def insertMatches (key : FragmentMatchCacheKey) (value : List FragmentPatternMatch) :
    ActivationProgram Unit :=
  .single (ActivationCall.insertMatches key value)

end ActivationProgram

structure KnowledgeActivationCoordinator where
  fragmentCache : FragmentMatchCacheLimits
  packCache : FrozenPackIndexCache
  indexLimits : ActivationIndexLimits
  ruleLimits : ActivationRuleLimitsConfig
  runtimeLimits : ActivationRuntimeLimits

def packKey (externals : Externals) (snapshot : KnowledgeSnapshotRef) (macros : ActivationMacroValues) :
    FrozenPackIndexKey where
  packDigest := snapshot.packDigest
  macroDigest := macroDigest externals macros
  matcherVersion

namespace KnowledgeActivationCoordinator

def new (indexLimits : ActivationIndexLimits) (ruleLimits : ActivationRuleLimitsConfig)
    (runtimeLimits : ActivationRuntimeLimits) (cacheLimits : FragmentMatchCacheLimits) :
    KnowledgeActivationCoordinator where
  fragmentCache := cacheLimits
  packCache := .new cacheLimits.maxCachedStories cacheLimits.maxTotalEstimatedBytes
  indexLimits
  ruleLimits
  runtimeLimits

section
variable (externals : Externals) (engine : RegexEngine) (self : KnowledgeActivationCoordinator)

def macrosTooLong (macros : ActivationMacroValues) : Bool :=
  len macros.playerName > self.ruleLimits.maxMacroValueBytes.toNat ||
    len macros.playerRoleLabel > self.ruleLimits.maxMacroValueBytes.toNat

def compilePack (key : FrozenPackIndexKey) (macros : ActivationMacroValues)
    (metadata : ActivationIndexMetadata) : Except ActivationError FrozenPackIndex :=
  buildFrozenPackIndex externals engine macros self.indexLimits
    (activationRuleLimits self.ruleLimits self.runtimeLimits.maxScanDepth) key
    (valuesOf metadata.packEntries)

/-- The overlay of the story is put on the index of its pack. -/
def layerIndex (macros : ActivationMacroValues) (metadata : ActivationIndexMetadata)
    (packIndex : FrozenPackIndex) : Except ActivationError ActivationIndexSnapshot := do
  let overlay ← buildOverlayIndex externals engine macros self.indexLimits
    (activationRuleLimits self.ruleLimits self.runtimeLimits.maxScanDepth)
    metadata.reference.overlayVersion metadata.entries packIndex
  composeIndexSnapshot metadata.reference packIndex overlay self.indexLimits

/-- The part of `prepare_index_observed` that the cache of packs is for. -/
def packIndex (key : FrozenPackIndexKey) (macros : ActivationMacroValues)
    (metadata : ActivationIndexMetadata) : ActivationProgram (Except ActivationError FrozenPackIndex) := do
  match ← ActivationProgram.getPack key with
  | some cached => return .ok cached
  | none =>
    match self.compilePack externals engine key macros metadata with
    | .error error => return .error error
    | .ok built =>
      match ← ActivationProgram.insertPack built with
      | .error error => return .error error
      | .ok _ => return .ok built

def prepareIndex (snapshot : KnowledgeSnapshotRef) (macros : ActivationMacroValues) :
    ActivationProgram (Except ActivationError ActivationIndexSnapshot) := do
  if self.macrosTooLong macros then return .error (.invalidRule "macro_value_too_long")
  match ← ActivationProgram.loadSnapshot snapshot self.indexLimits with
  | .error error => return .error (mapStoreError error)
  | .ok metadata =>
    match ← self.packIndex externals engine (packKey externals snapshot macros) macros metadata with
    | .error error => return .error error
    | .ok packIndex => return self.layerIndex externals engine macros metadata packIndex

end

section
variable (externals : Externals)

/-- A round of the loop of `match_fragments`. -/
def matchFragment (storyId : StoryId) (index : ActivationIndexSnapshot) (macroDigest : Sha256Digest)
    (found : ActivationFragmentMatches) (fragment : ScanFragment) :
    ActivationProgram ActivationFragmentMatches := do
  let key := fragmentCacheKey externals storyId index.reference macroDigest fragment
  match ← ActivationProgram.getMatches key with
  | some cached => return found.insert (fragment.id externals) cached
  | none =>
    let computed := index.matchFragment externals fragment
    ActivationProgram.insertMatches key computed
    return found.insert (fragment.id externals) computed

def matchFragments (storyId : StoryId) (index : ActivationIndexSnapshot) (macroDigest : Sha256Digest)
    (scanBuffer : ActivationScanBuffer) : ActivationProgram ActivationFragmentMatches :=
  scanBuffer.fragments.foldlM (matchFragment externals storyId index macroDigest) ∅

/-- What `run_with_index` matches for its session. -/
def runWithIndex (spec : ActivationRunSpec) (index : ActivationIndexSnapshot) :
    ActivationProgram (Except ActivationError ActivationFragmentMatches) := do
  if !index.matchesSnapshot spec.snapshot matcherVersion then return .error .snapshotMismatch
  return .ok (← matchFragments externals spec.storyId index (macroDigest externals spec.macros)
    spec.scanBuffer)

end

/-- `run` up to its session, with the index. -/
def run (externals : Externals) (engine : RegexEngine) (self : KnowledgeActivationCoordinator)
    (spec : ActivationRunSpec) :
    ActivationProgram (Except ActivationError ActivationFound) := do
  match ← self.prepareIndex externals engine spec.snapshot spec.macros with
  | .error error => return .error error
  | .ok index =>
    match ← runWithIndex externals spec index with
    | .error error => return .error error
    | .ok found => return .ok (index, found)

/-! ### Without the caches -/

section
variable (externals : Externals) (engine : RegexEngine) (self : KnowledgeActivationCoordinator)

/-- A pack is compiled anew. One that no cache would hold is still an error. -/
def plainPack (key : FrozenPackIndexKey) (macros : ActivationMacroValues)
    (metadata : ActivationIndexMetadata) : Except ActivationError FrozenPackIndex := do
  let built ← self.compilePack externals engine key macros metadata
  Result.failIf (PackIndexCacheState.tooLarge self.packCache built)
    (.workLimitExceeded "max_compiled_bytes")
  return built

def plainIndex (loaded : Except ActivationStoreError ActivationIndexMetadata)
    (snapshot : KnowledgeSnapshotRef) (macros : ActivationMacroValues) :
    Except ActivationError ActivationIndexSnapshot := do
  Result.failIf (self.macrosTooLong macros) (.invalidRule "macro_value_too_long")
  let metadata ← loaded.mapError mapStoreError
  let packIndex ← self.plainPack externals engine (packKey externals snapshot macros) macros metadata
  self.layerIndex externals engine macros metadata packIndex

def plainMatches (index : ActivationIndexSnapshot) (scanBuffer : ActivationScanBuffer) :
    ActivationFragmentMatches :=
  scanBuffer.fragments.foldl
    (fun found fragment => found.insert (fragment.id externals) (index.matchFragment externals fragment)) ∅

def plainRun (loaded : Except ActivationStoreError ActivationIndexMetadata) (spec : ActivationRunSpec) :
    Except ActivationError ActivationFound := do
  let index ← self.plainIndex externals engine loaded spec.snapshot spec.macros
  Result.failIf (!index.matchesSnapshot spec.snapshot matcherVersion) .snapshotMismatch
  return (index, plainMatches externals index spec.scanBuffer)

end

end KnowledgeActivationCoordinator

/-! ### What the keys name -/

theorem utf8_append (front back : String) :
    Activation.utf8 (front ++ back) = Activation.utf8 front ++ Activation.utf8 back := by
  simp [Activation.utf8, String.toUTF8_eq_toByteArray, String.toByteArray_append]

theorem length_utf8 (text : String) : (Activation.utf8 text).length = len text := rfl

/-- What the digest of macros is taken of. -/
def macroBytes (macros : ActivationMacroValues) : List UInt8 :=
  Activation.utf8 "aise.activation.macros.v1" ++
    Activation.beBytes (UInt64.ofNat (len macros.playerName)) ++ Activation.utf8 macros.playerName ++
    Activation.beBytes (UInt64.ofNat (len macros.playerRoleLabel)) ++
    Activation.utf8 macros.playerRoleLabel

/-- Both values are no longer than the machine can address. -/
structure ActivationMacroValues.Addressable (macros : ActivationMacroValues) : Prop where
  playerName : Domain.Addressable (Activation.utf8 macros.playerName)
  playerRoleLabel : Domain.Addressable (Activation.utf8 macros.playerRoleLabel)

theorem macroBytes_inj {macros other : ActivationMacroValues} (addressable : macros.Addressable)
    (also : other.Addressable) (same : macroBytes macros = macroBytes other) : macros = other := by
  simp only [macroBytes, List.append_assoc, ← length_utf8] at same
  obtain ⟨names, same⟩ := List.append_inj (List.append_cancel_left same) rfl
  obtain ⟨named, same⟩ :=
    List.append_inj same (count_injective addressable.playerName also.playerName names)
  obtain ⟨_, labelled⟩ := List.append_inj same rfl
  cases macros
  cases other
  cases utf8_injective named
  cases utf8_injective labelled
  rfl

/-- What the identifier of a fragment is taken of. -/
def fragmentBytes (fragment : ScanFragment) : List UInt8 :=
  Activation.utf8 s!"{fragment.kind.name}:{fragment.recencyDepth}:{fragment.stableOrder}:" ++
    Activation.utf8 fragment.text.value

theorem fragmentBytes_eq (fragment : ScanFragment) : fragmentBytes fragment = Activation.utf8
    (fragment.kind.name ++ ":" ++ (Nat.repr fragment.recencyDepth.toNat ++ ":" ++
      (Nat.repr fragment.stableOrder.toNat ++ ":" ++ fragment.text.value))) := by
  rw [fragmentBytes, ← utf8_append]
  apply congrArg Activation.utf8
  simp [toString, String.append_assoc]

theorem ScanFragmentKind.name_plain (kind : ScanFragmentKind) : Label.Plain kind.name := by
  cases kind <;> decide

theorem fragmentBytes_injective : Function.Injective fragmentBytes := by
  rintro ⟨kind, depth, order, ⟨text, bounded⟩⟩ ⟨kind', depth', order', ⟨text', bounded'⟩⟩ same
  rw [fragmentBytes_eq, fragmentBytes_eq] at same
  obtain ⟨kinds, same⟩ := Label.first_inj kind.name_plain kind'.name_plain (utf8_injective same)
  obtain ⟨depths, same⟩ := Label.first_inj (Label.plain_repr _) (Label.plain_repr _) same
  obtain ⟨orders, texts⟩ := Label.first_inj (Label.plain_repr _) (Label.plain_repr _) same
  cases ScanFragmentKind.name_injective kinds
  cases UInt16.toNat_inj.mp (Nat.repr_injective depths)
  cases UInt32.toNat_inj.mp (Nat.repr_injective orders)
  cases texts
  rfl

/-- The hash tells apart the texts that a run has it taken of. -/
structure ActivationRunSpec.Hashes (texts : Set (List UInt8)) (spec : ActivationRunSpec) : Prop where
  addressable : spec.macros.Addressable
  macros : macroBytes spec.macros ∈ texts
  fragments : ∀ fragment ∈ spec.scanBuffer.fragments, fragmentBytes fragment ∈ texts

/-- What is loaded. The pack of a snapshot names the entries of the pack, and a story with the version of
its overlay names all entries. -/
structure Loads
    (reads : KnowledgeSnapshotRef → Except ActivationStoreError ActivationIndexMetadata → Prop) : Prop where
  answers : ∀ snapshot, ∃ loaded, reads snapshot loaded
  reference : ∀ {snapshot metadata}, reads snapshot (.ok metadata) →
    ∃ version, metadata.reference = .fromKnowledge snapshot version matcherVersion
  packEntries : ∀ {snapshot other metadata more}, reads snapshot (.ok metadata) → reads other (.ok more) →
    snapshot.packDigest = other.packDigest → metadata.packEntries = more.packEntries
  entries : ∀ {snapshot other metadata more}, reads snapshot (.ok metadata) → reads other (.ok more) →
    snapshot.storyId = other.storyId → snapshot.packDigest = other.packDigest →
      metadata.reference.overlayVersion = more.reference.overlayVersion → metadata.entries = more.entries

namespace KnowledgeActivationCoordinator

section
variable {externals : Externals} {engine : RegexEngine} {self : KnowledgeActivationCoordinator}
  {snapshot other : KnowledgeSnapshotRef} {macros : ActivationMacroValues}
  {metadata more : ActivationIndexMetadata} {index : ActivationIndexSnapshot}

theorem compilePack_key {key : FrozenPackIndexKey} {index : FrozenPackIndex}
    (made : self.compilePack externals engine key macros metadata = .ok index) : index.key = key := by
  obtain ⟨_, _, made⟩ := Result.bind_eq_ok made
  obtain ⟨_, _, made⟩ := Result.bind_eq_ok made
  cases made
  rfl

/-- An index has been made of layers. -/
structure Layering (externals : Externals) (engine : RegexEngine)
    (coordinator : KnowledgeActivationCoordinator) (snapshot : KnowledgeSnapshotRef)
    (macros : ActivationMacroValues) (metadata : ActivationIndexMetadata) (index : ActivationIndexSnapshot)
    (packIndex : FrozenPackIndex) (overlay : ActivationOverlayIndex) : Prop where
  short : coordinator.macrosTooLong macros = false
  compiled : coordinator.compilePack externals engine (packKey externals snapshot macros) macros metadata =
    .ok packIndex
  small : PackIndexCacheState.tooLarge coordinator.packCache packIndex = false
  overlaid : buildOverlayIndex externals engine macros coordinator.indexLimits
    (activationRuleLimits coordinator.ruleLimits coordinator.runtimeLimits.maxScanDepth)
    metadata.reference.overlayVersion metadata.entries packIndex = .ok overlay
  composed : composeIndexSnapshot metadata.reference packIndex overlay coordinator.indexLimits = .ok index

theorem plainIndex_eq_ok {loaded : Except ActivationStoreError ActivationIndexMetadata}
    (made : self.plainIndex externals engine loaded snapshot macros = .ok index) :
    ∃ metadata packIndex overlay, loaded = .ok metadata ∧
      Layering externals engine self snapshot macros metadata index packIndex overlay := by
  obtain ⟨_, short, made⟩ := Result.bind_eq_ok made
  obtain ⟨metadata, read, made⟩ := Result.bind_eq_ok made
  obtain ⟨packIndex, packed, made⟩ := Result.bind_eq_ok made
  obtain ⟨overlay, overlaid, composed⟩ := Result.bind_eq_ok made
  obtain ⟨built, compiled, packed⟩ := Result.bind_eq_ok packed
  obtain ⟨_, small, packed⟩ := Result.bind_eq_ok packed
  cases packed
  exact ⟨metadata, packIndex, overlay, Result.mapError_eq_ok.mp read,
    Bool.eq_false_iff.mpr (Result.failIf_eq_ok.mp short), compiled,
    Bool.eq_false_iff.mpr (Result.failIf_eq_ok.mp small), overlaid, composed⟩

theorem composeIndexSnapshot_reference {reference : ActivationIndexSnapshotRef}
    {packIndex : FrozenPackIndex} {overlay : ActivationOverlayIndex} {limits : ActivationIndexLimits}
    (composed : composeIndexSnapshot reference packIndex overlay limits = .ok index) :
    index.reference = reference := by
  unfold composeIndexSnapshot at composed
  dsimp only at composed
  split at composed
  · cases composed
  · split at composed
    · cases composed
    · split at composed
      · cases composed
      · split at composed
        · cases composed
        · cases composed
          rfl

/-- What an index matches does not depend on what it was made for. -/
theorem Layering.matches_eq {packIndex : FrozenPackIndex} {overlay : ActivationOverlayIndex}
    (made : Layering externals engine self snapshot macros metadata index packIndex overlay)
    {index' : ActivationIndexSnapshot} {packIndex' : FrozenPackIndex} {overlay' : ActivationOverlayIndex}
    (also : Layering externals engine self other macros more index' packIndex' overlay')
    (packs : snapshot.packDigest = other.packDigest) (packEntries : metadata.packEntries = more.packEntries)
    (versions : metadata.reference.overlayVersion = more.reference.overlayVersion)
    (entries : metadata.entries = more.entries) (fragment : ScanFragment) :
    index.matchFragment externals fragment = index'.matchFragment externals fragment := by
  have compiled := made.compiled
  have key : packKey externals snapshot macros = packKey externals other macros := by
    rw [packKey, packKey, packs]
  rw [compilePack, key, packEntries] at compiled
  cases compiled.symm.trans also.compiled
  have overlaid := made.overlaid
  rw [versions, entries] at overlaid
  cases overlaid.symm.trans also.overlaid
  have parts := composeIndexSnapshot_ok made.composed
  have same := composeIndexSnapshot_ok also.composed
  simp only [ActivationIndexSnapshot.matchFragment, parts.literalIndex, parts.regexSet, parts.metadata,
    parts.overlayLiteralIndex, parts.overlayRegexSet, same.literalIndex, same.regexSet, same.metadata,
    same.overlayLiteralIndex, same.overlayRegexSet]

end

/-! ### What the caches hold -/

section
variable (externals : Externals) (engine : RegexEngine) (self : KnowledgeActivationCoordinator)
  (reads : KnowledgeSnapshotRef → Except ActivationStoreError ActivationIndexMetadata → Prop)
  (texts : Set (List UInt8))

/-- A run of a story, on texts that can be told apart. -/
structure Regular (spec : ActivationRunSpec) : Prop extends spec.Hashes texts where
  owned : spec.storyId = spec.snapshot.storyId

/-- A pack was compiled for what the store had. -/
def Compiled (index : FrozenPackIndex) : Prop :=
  ∃ spec metadata, Regular texts spec ∧ reads spec.snapshot (.ok metadata) ∧
    self.compilePack externals engine (packKey externals spec.snapshot spec.macros) spec.macros metadata =
      .ok index

/-- A fragment was matched against an index of what the store had. -/
def Matched (key : FragmentMatchCacheKey) (value : List FragmentPatternMatch) : Prop :=
  ∃ spec metadata index fragment, Regular texts spec ∧ reads spec.snapshot (.ok metadata) ∧
    self.plainIndex externals engine (.ok metadata) spec.snapshot spec.macros = .ok index ∧
    fragment ∈ spec.scanBuffer.fragments ∧
    key = fragmentCacheKey externals spec.storyId index.reference (macroDigest externals spec.macros)
      fragment ∧
    value = index.matchFragment externals fragment

def Allowed : ActivationCall → Prop
  | .loadSnapshot _ limits => limits = self.indexLimits
  | .getPack _ | .getMatches _ => True
  | .insertPack index => Compiled externals engine self reads texts index
  | .insertMatches key value => Matched externals engine self reads texts key value

def Expected : (call : ActivationCall) → call.Answer → Prop
  | .loadSnapshot snapshot _, loaded => reads snapshot loaded
  | .getPack key, cached => ∀ index, cached = some index → index.key = key ∧
    Compiled externals engine self reads texts index ∧
      PackIndexCacheState.tooLarge self.packCache index = false
  | .insertPack index, inserted => inserted = Result.failIf
    (PackIndexCacheState.tooLarge self.packCache index) (.workLimitExceeded "max_compiled_bytes")
  | .getMatches key, cached => ∀ value, cached = some value →
    Matched externals engine self reads texts key value
  | .insertMatches _ _, _ => True

end

section
variable {externals : Externals} {engine : RegexEngine} {self : KnowledgeActivationCoordinator}
  {reads : KnowledgeSnapshotRef → Except ActivationStoreError ActivationIndexMetadata → Prop}
  {texts : Set (List UInt8)} {spec : ActivationRunSpec} {metadata : ActivationIndexMetadata}

theorem macros_eq (injective : Set.InjOn externals.digest texts) (regular : Regular texts spec)
    {other : ActivationRunSpec} (also : Regular texts other)
    (same : macroDigest externals spec.macros = macroDigest externals other.macros) :
    spec.macros = other.macros :=
  macroBytes_inj regular.addressable also.addressable (injective regular.macros also.macros same)

/-- What is cached for a pack is what compiling it gives. -/
theorem Compiled.compilePack (loads : Loads reads) (injective : Set.InjOn externals.digest texts)
    (regular : Regular texts spec) (read : reads spec.snapshot (.ok metadata)) {index : FrozenPackIndex}
    (compiled : Compiled externals engine self reads texts index)
    (named : index.key = packKey externals spec.snapshot spec.macros) :
    self.compilePack externals engine (packKey externals spec.snapshot spec.macros) spec.macros metadata =
      .ok index := by
  obtain ⟨other, more, also, readToo, made⟩ := compiled
  rw [compilePack_key made] at named
  have packs := congrArg FrozenPackIndexKey.packDigest named
  have macros := macros_eq injective also regular (congrArg FrozenPackIndexKey.macroDigest named)
  rw [named, macros, KnowledgeActivationCoordinator.compilePack,
    loads.packEntries readToo read packs] at made
  exact made

/-- What is cached for a fragment is what the index matches. -/
theorem Matched.matchFragment (loads : Loads reads) (injective : Set.InjOn externals.digest texts)
    (regular : Regular texts spec) (read : reads spec.snapshot (.ok metadata))
    {index : ActivationIndexSnapshot}
    (made : self.plainIndex externals engine (.ok metadata) spec.snapshot spec.macros = .ok index)
    {fragment : ScanFragment} (member : fragment ∈ spec.scanBuffer.fragments)
    {value : List FragmentPatternMatch}
    (cached : Matched externals engine self reads texts (fragmentCacheKey externals spec.storyId
      index.reference (macroDigest externals spec.macros) fragment) value) :
    value = index.matchFragment externals fragment := by
  obtain ⟨other, more, index', fragment', also, readToo, madeToo, memberToo, named, rfl⟩ := cached
  obtain ⟨_, packIndex, overlay, same, layering⟩ := plainIndex_eq_ok made
  cases same
  obtain ⟨_, packIndex', overlay', same, layeringToo⟩ := plainIndex_eq_ok madeToo
  cases same
  rw [composeIndexSnapshot_reference layering.composed,
    composeIndexSnapshot_reference layeringToo.composed] at named
  have stories := congrArg FragmentMatchCacheKey.storyId named
  have packs := congrArg FragmentMatchCacheKey.packDigest named
  have versions := congrArg FragmentMatchCacheKey.overlayVersion named
  have macros := macros_eq injective regular also (congrArg FragmentMatchCacheKey.macroDigest named)
  have fragments : fragment = fragment' := fragmentBytes_injective <|
    injective (regular.fragments fragment member) (also.fragments fragment' memberToo)
      (congrArg FragmentMatchCacheKey.fragmentId named)
  obtain ⟨version, reference⟩ := loads.reference read
  obtain ⟨version', referenceToo⟩ := loads.reference readToo
  rw [fragmentCacheKey, fragmentCacheKey] at stories packs versions
  dsimp only at stories packs versions
  rw [regular.owned, also.owned] at stories
  rw [reference, referenceToo] at packs
  rw [← macros] at layeringToo
  rw [← fragments]
  exact (layering.matches_eq layeringToo packs (loads.packEntries read readToo packs) versions
    (loads.entries read readToo stories packs versions) fragment).symm

/-! ### One task -/

variable (loads : Loads reads) (injective : Set.InjOn externals.digest texts)
  (regular : Regular texts spec)
include loads injective regular

theorem packIndex_meets (read : reads spec.snapshot (.ok metadata)) :
    (self.packIndex externals engine (packKey externals spec.snapshot spec.macros) spec.macros
        metadata).Meets (Allowed externals engine self reads texts)
      (Expected externals engine self reads texts)
      (· = self.plainPack externals engine (packKey externals spec.snapshot spec.macros) spec.macros
        metadata) := by
  refine Program.Meets.bind (Program.meets_single (ActivationCall.getPack _) trivial)
    fun cached fits => ?_
  cases cached with
  | some index =>
    obtain ⟨named, compiled, small⟩ := fits index rfl
    refine Program.meets_pure ?_
    rw [plainPack, compiled.compilePack loads injective regular read named]
    simp [Result.failIf, small, bind, Except.bind, pure, Except.pure]
  | none =>
    dsimp only
    cases made : self.compilePack externals engine (packKey externals spec.snapshot spec.macros) spec.macros
        metadata with
    | error error =>
      refine Program.meets_pure ?_
      rw [plainPack, made]
      rfl
    | ok built =>
      refine Program.Meets.bind (Program.meets_single (ActivationCall.insertPack built)
        ⟨spec, metadata, regular, read, made⟩) fun inserted fits => ?_
      rw [show inserted = _ from fits, plainPack, made]
      cases large : PackIndexCacheState.tooLarge self.packCache built with
      | true => exact Program.meets_pure (by simp [Result.failIf, large, bind, Except.bind])
      | false => exact Program.meets_pure (by simp [Result.failIf, large, bind, Except.bind, pure, Except.pure])

theorem prepareIndex_meets : (self.prepareIndex externals engine spec.snapshot spec.macros).Meets
    (Allowed externals engine self reads texts) (Expected externals engine self reads texts)
      fun result => ∃ loaded, reads spec.snapshot loaded ∧
        result = self.plainIndex externals engine loaded spec.snapshot spec.macros := by
  unfold prepareIndex plainIndex
  split
  · rename_i long
    obtain ⟨loaded, read⟩ := loads.answers spec.snapshot
    refine Program.meets_pure ⟨loaded, read, ?_⟩
    rw [Result.failIf, if_pos long]
    rfl
  · rename_i short
    refine Program.Meets.bind (Program.meets_single (ActivationCall.loadSnapshot _ _) rfl)
      fun loaded read => ?_
    simp only [Result.failIf, if_neg short, bind, Except.bind]
    cases loaded with
    | error error => exact Program.meets_pure ⟨.error error, read, rfl⟩
    | ok metadata =>
      refine (packIndex_meets loads injective regular read).bind ?_
      rintro _ rfl
      cases made : self.plainPack externals engine (packKey externals spec.snapshot spec.macros) spec.macros
          metadata with
      | error error => exact Program.meets_pure ⟨.ok metadata, read, by simp [Except.mapError, made]⟩
      | ok packIndex => exact Program.meets_pure ⟨.ok metadata, read, by simp [Except.mapError, made]⟩

theorem matchFragments_meets (read : reads spec.snapshot (.ok metadata)) {index : ActivationIndexSnapshot}
    (made : self.plainIndex externals engine (.ok metadata) spec.snapshot spec.macros = .ok index) :
    (matchFragments externals spec.storyId index (macroDigest externals spec.macros) spec.scanBuffer).Meets
      (Allowed externals engine self reads texts) (Expected externals engine self reads texts)
      (· = plainMatches externals index spec.scanBuffer) := by
  refine Program.meets_foldlM (fun found fragment member => ?_) ∅
  refine Program.Meets.bind (Program.meets_single (ActivationCall.getMatches _) trivial)
    fun cached fits => ?_
  cases cached with
  | some value =>
    refine Program.meets_pure ?_
    rw [(fits value rfl).matchFragment loads injective regular read made member]
  | none =>
    refine Program.Meets.bind (Program.meets_single (ActivationCall.insertMatches _ _)
      ⟨spec, metadata, index, fragment, regular, read, made, member, rfl, rfl⟩) fun _ _ => ?_
    exact Program.meets_pure rfl

theorem runWithIndex_meets (read : reads spec.snapshot (.ok metadata)) {index : ActivationIndexSnapshot}
    (made : self.plainIndex externals engine (.ok metadata) spec.snapshot spec.macros = .ok index) :
    (runWithIndex externals spec index).Meets (Allowed externals engine self reads texts)
      (Expected externals engine self reads texts)
      (· = do
        Result.failIf (!index.matchesSnapshot spec.snapshot matcherVersion) .snapshotMismatch
        return plainMatches externals index spec.scanBuffer) := by
  unfold runWithIndex
  split
  · rename_i apart
    refine Program.meets_pure ?_
    rw [Result.failIf, if_pos apart]
    rfl
  · rename_i matching
    refine (matchFragments_meets loads injective regular read made).bind ?_
    rintro _ rfl
    refine Program.meets_pure ?_
    rw [Result.failIf, if_neg matching]
    rfl

/-- A task gets what it would get without the caches, of something that the store has. -/
theorem run_meets : (self.run externals engine spec).Meets (Allowed externals engine self reads texts)
    (Expected externals engine self reads texts) fun result => ∃ loaded, reads spec.snapshot loaded ∧
      result = self.plainRun externals engine loaded spec := by
  refine (prepareIndex_meets loads injective regular).bind ?_
  rintro _ ⟨loaded, read, rfl⟩
  unfold plainRun
  cases made : self.plainIndex externals engine loaded spec.snapshot spec.macros with
  | error error => exact Program.meets_pure ⟨loaded, read, by rw [made]; rfl⟩
  | ok index =>
    obtain ⟨metadata, _, _, rfl, _⟩ := plainIndex_eq_ok made
    refine (runWithIndex_meets loads injective regular read made).bind ?_
    rintro _ rfl
    cases mismatch : index.matchesSnapshot spec.snapshot matcherVersion with
    | false =>
      exact Program.meets_pure ⟨.ok metadata, read, by
        simp [made, mismatch, Result.failIf, bind, Except.bind]⟩
    | true =>
      exact Program.meets_pure ⟨.ok metadata, read, by
        simp [made, mismatch, Result.failIf, bind, Except.bind, pure, Except.pure]⟩

end

end KnowledgeActivationCoordinator

end Aise.Domain
