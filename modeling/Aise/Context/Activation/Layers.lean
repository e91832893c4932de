import Aise.Domain.Activation.Compile
import Aise.Domain.Activation.Session

/-! The layered index. What a pack brings is compiled once; what a story has added or changed
is compiled on top of it, and what it has deleted is left out. -/
namespace Aise.Domain
open Saturating OrdMap

abbrev IndexEntries := BTreeMap KnowledgeSourceId ActivationEntryMetadata

structure ActivationOverlayIndex where
  overlayVersion : UInt64
  upserts : List ActivationEntryMetadata
  tombstones : BTreeSet KnowledgeSourceId
  literalIndex : FrozenLiteralIndex
  regexSet : FrozenRegexSet

section
variable (externals : Externals) (engine : RegexEngine) (macros : ActivationMacroValues)
  (limits : ActivationIndexLimits) (ruleLimits : ActivationRuleLimits)

def zeroDigest : Sha256Digest := ⟨List.ofFn fun _ : Fin 32 => 0, List.length_ofFn⟩

def buildOverlayIndex (overlayVersion : UInt64) (entries : IndexEntries)
    (packIndex : FrozenPackIndex) : Except ActivationError ActivationOverlayIndex :=
  let upserts := (valuesOf entries).filter fun entry => !entry.fromPack
  let tombstones : BTreeSet KnowledgeSourceId :=
    (packIndex.metadata.keys.filter fun sourceId => !entries.contains sourceId).foldl
      (fun set sourceId => set.insert sourceId) ∅
  if upserts.length > limits.maxOverlayEntries.toNat then
    .error (.workLimitExceeded "max_overlay_entries")
  else if tombstones.size > limits.maxTombstones.toNat then
    .error (.workLimitExceeded "max_tombstones")
  else do
    let index ← buildFrozenPackIndex externals engine macros
      { limits with maxEntries := limits.maxOverlayEntries } ruleLimits
      ⟨zeroDigest, macroDigest externals macros, matcherVersion⟩ upserts
    .ok {
      overlayVersion := overlayVersion
      upserts := upserts
      tombstones := tombstones
      literalIndex := index.literalIndex
      regexSet := index.regexSet }

end

def composeIndexSnapshot (reference : ActivationIndexSnapshotRef) (packIndex : FrozenPackIndex)
    (overlay : ActivationOverlayIndex) (limits : ActivationIndexLimits) :
    Except ActivationError ActivationIndexSnapshot :=
  let literalPatterns := add (clamp64 packIndex.literalIndex.patterns.length)
    (clamp64 overlay.literalIndex.patterns.length)
  let regexPatterns := add (clamp64 packIndex.regexSet.patterns.length)
    (clamp64 overlay.regexSet.patterns.length)
  let compiledBytes := add (add packIndex.estimatedBytes overlay.literalIndex.compiledBytes)
    overlay.regexSet.compiledBytes
  let metadata := overlay.upserts.foldl (fun metadata entry => metadata.insert entry.sourceId entry)
    (overlay.tombstones.toList.foldl (fun metadata sourceId => metadata.erase sourceId)
      packIndex.metadata)
  if literalPatterns > limits.maxLiteralPatterns then
    .error (.workLimitExceeded "max_literal_patterns")
  else if regexPatterns > limits.maxRegexPatterns then
    .error (.workLimitExceeded "max_regex_patterns")
  else if compiledBytes > limits.maxCompiledBytes then
    .error (.workLimitExceeded "max_compiled_bytes")
  else if metadata.size > limits.maxEntries.toNat then .error (.workLimitExceeded "max_entries")
  else .ok (.new reference metadata packIndex.literalIndex packIndex.regexSet
    overlay.literalIndex overlay.regexSet)

/-- The entries of a story over those of its pack: each is stored under its own source, and
one that is said to come from the pack is as the pack has it. -/
structure Layered (packEntries entries : IndexEntries) : Prop where
  packKeyed : ∀ (sourceId : KnowledgeSourceId) (entry : ActivationEntryMetadata),
    packEntries[sourceId]? = some entry → entry.sourceId = sourceId
  keyed : ∀ (sourceId : KnowledgeSourceId) (entry : ActivationEntryMetadata),
    entries[sourceId]? = some entry → entry.sourceId = sourceId
  aligned : ∀ (sourceId : KnowledgeSourceId) (entry : ActivationEntryMetadata),
    entries[sourceId]? = some entry → entry.fromPack = true → packEntries[sourceId]? = some entry

section
variable {externals : Externals} {engine : RegexEngine} {macros : ActivationMacroValues}
  {limits : ActivationIndexLimits} {ruleLimits : ActivationRuleLimits}
  {packEntries entries : IndexEntries} {reference : ActivationIndexSnapshotRef}
  {packIndex : FrozenPackIndex} {overlay : ActivationOverlayIndex}
  {snapshot : ActivationIndexSnapshot} {overlayVersion : UInt64} {key : FrozenPackIndexKey}

/-- What an overlay is made of. -/
structure Overlaid (externals : Externals) (engine : RegexEngine) (macros : ActivationMacroValues)
    (limits : ActivationIndexLimits) (packIndex : FrozenPackIndex) (entries : IndexEntries)
    (overlay : ActivationOverlayIndex) : Prop where
  upserts : overlay.upserts = (valuesOf entries).filter fun entry => !entry.fromPack
  tombstones : ∀ sourceId, sourceId ∈ overlay.tombstones ↔
    sourceId ∈ packIndex.metadata ∧ sourceId ∉ entries
  matched : ∀ fragment, (overlay.literalIndex.matchFragment externals fragment ++
      overlay.regexSet.matchFragment fragment).Perm
    (overlay.upserts.flatMap (entryMatches externals engine macros limits fragment))

/-- Compiling an entry does not look at how many there may be. -/
theorem compilePatterns_maxEntries (maxEntries : UInt64) (spec : PatternCompileSpec)
    (patterns : List ActivationPattern) (compiled : CompiledActivationEntry) :
    compilePatterns externals engine macros { limits with maxEntries } spec patterns compiled =
      compilePatterns externals engine macros limits spec patterns compiled := by
  have each : compilePattern externals engine macros { limits with maxEntries } =
      compilePattern externals engine macros limits := by
    funext spec compiled numbered
    simp only [compilePattern]
  rw [compilePatterns, each, compilePatterns]

theorem entryMatches_maxEntries (maxEntries : UInt64) (fragment : ScanFragment) :
    entryMatches externals engine macros { limits with maxEntries } fragment =
      entryMatches externals engine macros limits fragment := by
  funext metadata
  simp only [entryMatches, compiledEntry, compileEntry, compilePatterns_maxEntries]

theorem buildOverlayIndex_ok (built : buildOverlayIndex externals engine macros limits ruleLimits
      overlayVersion entries packIndex = .ok overlay) :
    Overlaid externals engine macros limits packIndex entries overlay := by
  unfold buildOverlayIndex at built
  dsimp only at built
  split at built
  · cases built
  · split at built
    · cases built
    · obtain ⟨index, made, built⟩ := Result.bind_eq_ok built
      cases built
      refine ⟨rfl, fun sourceId => ?_, fun fragment => ?_⟩
      · dsimp only
        rw [set_mem_insertAll (fun sourceId => sourceId)]
        simp [contains_eq_false_iff]
      · have matched := buildFrozenPackIndex_matches made fragment
        rwa [entryMatches_maxEntries] at matched

/-- What a snapshot is made of. -/
structure Composed (packIndex : FrozenPackIndex) (overlay : ActivationOverlayIndex)
    (snapshot : ActivationIndexSnapshot) : Prop where
  literalIndex : snapshot.literalIndex = packIndex.literalIndex
  regexSet : snapshot.regexSet = packIndex.regexSet
  overlayLiteralIndex : snapshot.overlayLiteralIndex = overlay.literalIndex
  overlayRegexSet : snapshot.overlayRegexSet = overlay.regexSet
  metadata : snapshot.metadata =
    overlay.upserts.foldl (fun metadata entry => metadata.insert entry.sourceId entry)
      (overlay.tombstones.toList.foldl (fun metadata sourceId => metadata.erase sourceId)
        packIndex.metadata)

theorem composeIndexSnapshot_ok
    (composed : composeIndexSnapshot reference packIndex overlay limits = .ok snapshot) :
    Composed packIndex overlay snapshot := by
  unfold composeIndexSnapshot at composed
  dsimp only at composed
  split at composed
  · cases composed
  · split at composed
    · cases composed
    · split at composed
      · cases composed
      · split at composed
        · cases composed
        · cases composed
          exact ⟨rfl, rfl, rfl, rfl, rfl⟩

/-- The snapshot is as fresh as the entries it was composed for. -/
theorem composed_metadata (layered : Layered packEntries entries)
    (packed : packIndex.metadata = packEntries)
    (overlaid : Overlaid externals engine macros limits packIndex entries overlay)
    (composed : Composed packIndex overlay snapshot) : snapshot.metadata = entries := by
  have listed {entry : ActivationEntryMetadata} (member : entry ∈ overlay.upserts) :
      entries[entry.sourceId]? = some entry ∧ entry.fromPack = false := by
    rw [overlaid.upserts] at member
    obtain ⟨stored, own⟩ := List.mem_filter.mp member
    obtain ⟨sourceId, found⟩ := mem_valuesOf.mp stored
    refine ⟨?_, by simpa using own⟩
    rw [layered.keyed sourceId entry found]
    exact found
  have kept (sourceId : KnowledgeSourceId) :
      (overlay.tombstones.toList.foldl (fun metadata sourceId => metadata.erase sourceId)
        packIndex.metadata)[sourceId]? =
          if sourceId ∈ packEntries ∧ sourceId ∉ entries then none else packEntries[sourceId]? := by
    rw [get_eraseAll (fun sourceId => sourceId)]
    simp only [List.map_id', Std.ExtTreeSet.mem_toList, overlaid.tombstones, packed]
  apply Std.ExtTreeMap.ext_getElem?
  intro sourceId
  rw [composed.metadata]
  by_cases upserted : sourceId ∈ overlay.upserts.map (·.sourceId)
  · obtain ⟨entry, member, rfl⟩ := List.mem_map.mp upserted
    rw [(listed member).1]
    have written : entry.sourceId ∈ snapshot.metadata := by
      rw [composed.metadata]
      exact (mem_insertAll (·.sourceId) overlay.upserts entry.sourceId).mpr (.inl upserted)
    obtain ⟨stored, found⟩ := mem_iff_exists.mp written
    rw [composed.metadata] at found
    rw [found]
    rcases get_insertAll (·.sourceId) overlay.upserts found with ⟨among, same⟩ | ⟨absent, _⟩
    · have current := (listed among).1
      rw [same, (listed member).1] at current
      exact current.symm
    · exact absurd upserted absent
  · rw [get_insertAll_of_not_mem (·.sourceId) overlay.upserts upserted, kept]
    cases found : entries[sourceId]? with
    | none =>
      have gone : sourceId ∉ entries := by
        rw [Std.ExtTreeMap.mem_iff_isSome_getElem?, found]
        simp
      split
      · rfl
      · rename_i unpacked
        have never : sourceId ∉ packEntries := fun member => unpacked ⟨member, gone⟩
        exact Std.ExtTreeMap.getElem?_eq_none never
    | some entry =>
      have present : sourceId ∈ entries := mem_iff_exists.mpr ⟨entry, found⟩
      have fromPack : entry.fromPack = true := by
        by_contra own
        refine upserted (List.mem_map.mpr ⟨entry, ?_, layered.keyed sourceId entry found⟩)
        rw [overlaid.upserts]
        exact List.mem_filter.mpr ⟨mem_valuesOf.mpr ⟨sourceId, found⟩, by simpa using own⟩
      rw [if_neg fun tombstone => tombstone.2 present]
      exact layered.aligned sourceId entry found fromPack

/-- Filtering the matches of several entries by their source leaves those of some entries. -/
theorem flatMap_filter_source (keep : KnowledgeSourceId → Bool) (fragment : ScanFragment)
    (list : List ActivationEntryMetadata) :
    (list.flatMap (entryMatches externals engine macros limits fragment)).filter
        (fun item => keep item.sourceId) =
      (list.filter fun entry => keep entry.sourceId).flatMap
        (entryMatches externals engine macros limits fragment) := by
  induction list with
  | nil => rfl
  | cons entry rest ih =>
    rw [List.flatMap_cons, List.filter_append, ih, List.filter_cons]
    have own {item : FragmentPatternMatch}
        (member : item ∈ entryMatches externals engine macros limits fragment entry) :
        keep item.sourceId = keep entry.sourceId := by rw [entryMatches_source member]
    split
    · rename_i kept
      rw [List.flatMap_cons, List.filter_eq_self.mpr fun item member => (own member).trans kept]
    · rename_i dropped
      have none : (entryMatches externals engine macros limits fragment entry).filter
          (fun item => keep item.sourceId) = [] :=
        List.filter_eq_nil_iff.mpr fun item member => by rwa [own member]
      rw [none, List.nil_append]

/-- The entries of the pack that a story still has are those it says come from the pack. -/
theorem packed_perm (layered : Layered packEntries entries) :
    ((valuesOf packEntries).filter fun entry => entries[entry.sourceId]?.any (·.fromPack)).Perm
      ((valuesOf entries).filter (·.fromPack)) := by
  have distinctPack : (valuesOf packEntries).Nodup := (nodup_valuesOf layered.packKeyed).of_map
  have distinct : (valuesOf entries).Nodup := (nodup_valuesOf layered.keyed).of_map
  refine (List.perm_ext_iff_of_nodup (distinctPack.filter _) (distinct.filter _)).mpr fun entry => ?_
  simp only [List.mem_filter, mem_valuesOf, Option.any_eq_true]
  constructor
  · rintro ⟨⟨sourceId, packed⟩, current, found, fromPack⟩
    have own := layered.packKeyed sourceId entry packed
    have same := layered.aligned entry.sourceId current found fromPack
    rw [own, packed] at same
    cases same
    exact ⟨⟨entry.sourceId, found⟩, fromPack⟩
  · rintro ⟨⟨sourceId, found⟩, fromPack⟩
    have own := layered.keyed sourceId entry found
    refine ⟨⟨sourceId, layered.aligned sourceId entry found fromPack⟩, entry, ?_, fromPack⟩
    rw [own]
    exact found

/-- A layered snapshot matches what the current entries match, each once and by its own
patterns. -/
theorem snapshot_matches (layered : Layered packEntries entries)
    (packed : packIndex.metadata = packEntries)
    (packMatches : ∀ fragment, (packIndex.matchFragment externals fragment).Perm
      ((valuesOf packEntries).flatMap (entryMatches externals engine macros limits fragment)))
    (overlaid : Overlaid externals engine macros limits packIndex entries overlay)
    (composed : Composed packIndex overlay snapshot) (fragment : ScanFragment) :
    (snapshot.matchFragment externals fragment).Perm
      ((valuesOf entries).flatMap (entryMatches externals engine macros limits fragment)) := by
  have metadata := composed_metadata layered packed overlaid composed
  have lower : ((packIndex.matchFragment externals fragment).filter fun item =>
      entries[item.sourceId]?.any (·.fromPack)).Perm
      (((valuesOf entries).filter (·.fromPack)).flatMap
        (entryMatches externals engine macros limits fragment)) := by
    refine ((packMatches fragment).filter _).trans ?_
    rw [flatMap_filter_source fun sourceId => entries[sourceId]?.any (·.fromPack)]
    exact (packed_perm layered).flatMap_right _
  have upper := overlaid.matched fragment
  rw [overlaid.upserts] at upper
  have both := lower.append upper
  rw [← List.flatMap_append] at both
  refine List.Perm.trans (List.Perm.of_eq ?_)
    (both.trans ((List.filter_append_perm _ _).flatMap_right _))
  simp only [ActivationIndexSnapshot.matchFragment, FrozenPackIndex.matchFragment, metadata,
    composed.literalIndex, composed.regexSet, composed.overlayLiteralIndex,
    composed.overlayRegexSet, List.append_assoc]

/-- Of one source the snapshot matches what its current entry matches, and nothing of a source
that has none. -/
theorem matches_of_source (keyed : ∀ (sourceId : KnowledgeSourceId)
      (entry : ActivationEntryMetadata), entries[sourceId]? = some entry → entry.sourceId = sourceId)
    {found : List FragmentPatternMatch} {fragment : ScanFragment}
    (flat : found.Perm
      ((valuesOf entries).flatMap (entryMatches externals engine macros limits fragment)))
    (sourceId : KnowledgeSourceId) :
    (found.filter fun item => item.sourceId = sourceId).Perm
      (entries[sourceId]?.elim [] (entryMatches externals engine macros limits fragment)) := by
  refine (flat.filter _).trans ?_
  rw [flatMap_filter_source fun other => other = sourceId]
  have only : ((valuesOf entries).filter fun entry => decide (entry.sourceId = sourceId)).Perm
      entries[sourceId]?.toList := by
    have distinct : (valuesOf entries).Nodup := (nodup_valuesOf keyed).of_map
    refine (List.perm_ext_iff_of_nodup (distinct.filter _) ?_).mpr fun entry => ?_
    · cases entries[sourceId]? <;> simp
    · simp only [List.mem_filter, mem_valuesOf, decide_eq_true_eq, Option.mem_toList]
      constructor
      · rintro ⟨⟨other, stored⟩, rfl⟩
        rw [keyed other entry stored]
        exact stored
      · intro stored
        exact ⟨⟨sourceId, stored⟩, keyed sourceId entry stored⟩
  refine (only.flatMap_right _).trans (List.Perm.of_eq ?_)
  cases entries[sourceId]? <;> simp

end

end Aise.Domain
