import Aise.Context.Activation.Coordinator
import Aise.Story.LayeredIndex

/-! Many stories and many tasks. Stories are created and go on while tasks load them, and all tasks share
the caches of one coordinator. Whatever the order, a task gets what it would get without the caches. -/
namespace Aise.Domain
open Shared OrdMap

/-! ### What the caches keep -/

namespace PackIndexCacheState
variable {P : FrozenPackIndex → Prop} {state next : PackIndexCacheState} {cache : FrozenPackIndexCache}

/-- Every index is stored under its own key, and has the property. -/
def Only (P : FrozenPackIndex → Prop) (state : PackIndexCacheState) : Prop :=
  ∀ (key : FrozenPackIndexKey) (tick : Nat) (index : FrozenPackIndex),
    state.entries[key]? = some (tick, index) → index.key = key ∧ P index

theorem Only.empty : Only P {} := by
  intro key tick index known
  rw [Std.ExtTreeMap.getElem?_empty] at known
  cases known

theorem Only.get (only : Only P state) (key : FrozenPackIndexKey) :
    Only P (state.get key).1 ∧ ∀ index, (state.get key).2 = some index → index.key = key ∧ P index := by
  unfold PackIndexCacheState.get
  dsimp only
  split
  · exact ⟨only, nofun⟩
  · rename_i previous index found
    refine ⟨fun other tick stored => ?_, fun _ same => ?_⟩
    · intro known
      rw [get_insert] at known
      split at known
      · rename_i same
        cases known
        exact same ▸ only key previous index found
      · exact only other tick stored known
    · cases same
      exact only key previous index found

theorem Only.remove (only : Only P state) (key : FrozenPackIndexKey) : Only P (state.remove key) := by
  unfold PackIndexCacheState.remove
  split
  · exact only
  · intro other tick index known
    rw [get_erase] at known
    split at known
    · cases known
    · exact only other tick index known

theorem Only.store (only : Only P state) {index : FrozenPackIndex} (has : P index) :
    Only P (state.store index) := by
  intro key tick stored known
  unfold PackIndexCacheState.store at known
  dsimp only at known
  rw [get_insert] at known
  split at known
  · rename_i same
    cases known
    exact ⟨same, has⟩
  · have before : Only P { state with tick := nextTick state.tick } := only
    exact before.remove index.key key tick stored known

theorem Only.insert (only : Only P state) {index : FrozenPackIndex} (has : P index)
    (inserted : state.insert cache index = some (.ok next)) : Only P next := by
  unfold PackIndexCacheState.insert at inserted
  split at inserted
  · cases inserted
  · obtain ⟨left, looped, same⟩ := Option.map_eq_some_iff.mp inserted
    cases same
    refine Loop.within_invariant (P := Only P) (fun state only => ?_) looped (only.store has)
    unfold round
    split
    · split
      · exact only
      · exact only.remove _
    · exact only

end PackIndexCacheState

namespace LruFragmentMatchState
variable {P : FragmentMatchCacheKey → List FragmentPatternMatch → Prop}
  {state next : LruFragmentMatchState} {limits : FragmentMatchCacheLimits} {matchSize : UInt64}

/-- Every value has the property, under its key. -/
def Only (P : FragmentMatchCacheKey → List FragmentPatternMatch → Prop) (state : LruFragmentMatchState) :
    Prop :=
  ∀ (key : FragmentMatchCacheKey) (entry : FragmentMatchCacheEntry),
    state.entries[key]? = some entry → P key entry.value

theorem Only.empty : Only P {} := by
  intro key entry known
  rw [Std.ExtTreeMap.getElem?_empty] at known
  cases known

theorem Only.get (only : Only P state) (key : FragmentMatchCacheKey) :
    Only P (state.get key).1 ∧ ∀ value, (state.get key).2 = some value → P key value := by
  unfold LruFragmentMatchState.get
  dsimp only
  split
  · exact ⟨only, nofun⟩
  · rename_i entry found
    refine ⟨fun other stored known => ?_, fun _ same => ?_⟩
    · rw [get_insert] at known
      split at known
      · rename_i same
        cases known
        exact same ▸ only key entry found
      · exact only other stored known
    · cases same
      exact only key entry found

theorem Only.removeKey (only : Only P state) (key : FragmentMatchCacheKey) (eviction : Bool) :
    Only P (state.removeKey key eviction) := by
  unfold LruFragmentMatchState.removeKey
  split
  · exact only
  · intro other entry known
    rw [get_erase] at known
    split at known
    · cases known
    · exact only other entry known

theorem Only.evict (only : Only P state) (found : Option FragmentMatchCacheKey) :
    Only P (state.evict found).state := by
  cases found with
  | none => exact only
  | some key => exact only.removeKey key true

theorem Only.store (only : Only P state) {key : FragmentMatchCacheKey} {value : List FragmentPatternMatch}
    (has : P key value) (estimatedBytes : UInt64) : Only P (state.store key value estimatedBytes) := by
  intro other entry known
  unfold LruFragmentMatchState.store at known
  dsimp only at known
  rw [get_insert] at known
  split at known
  · rename_i same
    cases known
    exact same ▸ has
  · exact only.removeKey key false other entry known

theorem Only.insert (only : Only P state) {key : FragmentMatchCacheKey} {value : List FragmentPatternMatch}
    (has : P key value) (inserted : state.insert limits matchSize key value = some next) :
    Only P next := by
  unfold LruFragmentMatchState.insert at inserted
  split at inserted
  · cases inserted
    exact only
  · obtain ⟨parted, partition, inserted⟩ := Option.bind_eq_some_iff.mp inserted
    refine Loop.within_invariant (P := Only P) (fun state only => ?_) inserted
      (Loop.within_invariant (P := Only P) (fun state only => ?_) partition (only.store has _))
    · unfold globalRound
      split
      · exact only.evict _
      · exact only
    · unfold partitionRound
      split
      · exact only.evict _
      · exact only

end LruFragmentMatchState

end Aise.Domain

namespace Aise.Domain.Persistence
open Shared

/-! ### All stories -/

/-- A story from its creation on, with all of its turns. -/
structure Chronicle (around : Surroundings) where
  foundation : Foundation
  start : StoredStory
  created : foundation.create around = .ok start
  readable : foundation.stored.Readable
  history : History around start

/-- What the store has of a story after as many turns. -/
def Chronicle.rowsAfter {around : Surroundings} (chronicle : Chronicle around) (turns : Nat) :
    Option (ActivationRow × List KnowledgeRow) :=
  if inside : turns ≤ chronicle.history.length then
    match chronicle.foundation.columnsAfter around (chronicle.history.changes turns inside) with
    | .ok columns =>
      some ((chronicle.history.story turns).activationRow chronicle.foundation.stored columns, columns.rows)
    | .error _ => none
  else none

/-- The stories that there will be. -/
structure Chronicles (around : Surroundings) where
  story : StoryId → Option (Chronicle around)
  named : ∀ id chronicle, story id = some chronicle → chronicle.start.storyId = id
  -- The table has one pack of a digest.
  packed : ∀ id other chronicle more, story id = some chronicle → story other = some more →
    chronicle.foundation.stored.row.digest = more.foundation.stored.row.digest →
      chronicle.foundation.stored.resolvedWorldBook = more.foundation.stored.resolvedWorldBook

section
variable {around : Surroundings} (chronicles : Chronicles around)

/-- How many turns each story has committed, if it is there. -/
def Chronicles.Reached (committed : StoryId → Option Nat) : Prop :=
  ∀ id turns, committed id = some turns → ∃ chronicle, chronicles.story id = some chronicle ∧
    turns ≤ chronicle.history.length

/-- `load_snapshot` on the stories as they are. -/
def Chronicles.load (committed : StoryId → Option Nat) (snapshot : KnowledgeSnapshotRef)
    (limits : ActivationIndexLimits) : Except ActivationStoreError ActivationIndexMetadata :=
  let found := do
    let turns ← committed snapshot.storyId
    let chronicle ← chronicles.story snapshot.storyId
    chronicle.rowsAfter turns
  loadSnapshot around.externals (found.map Prod.fst) (found.elim [] Prod.snd) snapshot limits

/-- What is loaded at some time. -/
def Chronicles.Reads (limits : ActivationIndexLimits) (snapshot : KnowledgeSnapshotRef)
    (loaded : Except ActivationStoreError ActivationIndexMetadata) : Prop :=
  ∃ committed, chronicles.Reached committed ∧ loaded = chronicles.load committed snapshot limits

end

/-! ### What is loaded -/

section
variable {externals : Externals} {story : ActivationRow} {rows : List KnowledgeRow}
  {knowledge : KnowledgeSnapshotRef} {limits : ActivationIndexLimits}
  {metadata : ActivationIndexMetadata}

theorem loadSnapshot_congr (row : Option ActivationRow) (other : KnowledgeSnapshotRef)
    (stories : knowledge.storyId = other.storyId) (packs : knowledge.packDigest = other.packDigest)
    (revisions : knowledge.baseRevision = other.baseRevision) :
    loadSnapshot externals row rows knowledge limits = loadSnapshot externals row rows other limits := by
  unfold loadSnapshot ActivationIndexSnapshotRef.fromKnowledge
  rw [stories, packs, revisions]

/-- A snapshot that is loaded is the one that was asked for. -/
structure Asked (externals : Externals) (story : ActivationRow) (knowledge : KnowledgeSnapshotRef)
    (limits : ActivationIndexLimits) (metadata : ActivationIndexMetadata) : Prop where
  revision : story.revision.toUInt64 = knowledge.baseRevision
  digest : story.digest = knowledge.packDigest
  packEntries : canonicalPackEntries externals story.worldBook limits.maxEntries = .ok metadata.packEntries
  reference : metadata.reference = .fromKnowledge knowledge story.overlayVersion.get matcherVersion

theorem loadSnapshot_ok (read : loadSnapshot externals (some story) rows knowledge limits = .ok metadata) :
    Asked externals story knowledge limits metadata := by
  obtain ⟨_, found, read⟩ := Result.bind_eq_ok read
  cases found
  obtain ⟨_, _, read⟩ := Result.bind_eq_ok read
  obtain ⟨_, current, read⟩ := Result.bind_eq_ok read
  obtain ⟨packEntries, packed, read⟩ := Result.bind_eq_ok read
  obtain ⟨_, _, read⟩ := Result.bind_eq_ok read
  obtain ⟨load, _, read⟩ := Result.bind_eq_ok read
  cases read
  have matching := Result.failIf_eq_ok.mp current
  rw [not_or, not_not, not_not] at matching
  exact ⟨matching.1, matching.2, packed, rfl⟩

end

theorem StoredCount.get_injective : Function.Injective StoredCount.get := by
  rintro ⟨first, _⟩ ⟨second, _⟩ same
  cases same
  rfl

/-- A story keeps its name. -/
theorem Runs.storyId_eq {around : Surroundings} {start story : StoredStory}
    {changes : List ValidatedChangeSet} (run : Runs around start changes story) :
    story.storyId = start.storyId :=
  run.invariant (P := fun _ story => story.storyId = start.storyId) rfl
    fun turn same => turn.commits.identity.trans same

section
variable {around : Surroundings} {chronicle : Chronicle around} {limits : ActivationIndexLimits}
  {snapshot : KnowledgeSnapshotRef} {metadata : ActivationIndexMetadata}

/-- A snapshot is of a story as it is after as many turns. -/
structure Snapped (chronicle : Chronicle around) (snapshot : KnowledgeSnapshotRef) (turns : Nat)
    (columns : ActivationColumns) : Prop where
  inside : turns ≤ chronicle.history.length
  reached : chronicle.foundation.columnsAfter around (chronicle.history.changes turns inside) = .ok columns
  storyId : snapshot.storyId = (chronicle.history.story turns).storyId
  packDigest : snapshot.packDigest = chronicle.foundation.stored.row.digest
  baseRevision : snapshot.baseRevision = (chronicle.history.story turns).revision.toUInt64

theorem Chronicle.rowsAfter_eq_some {turns : Nat} {row : ActivationRow} {rows : List KnowledgeRow}
    (found : chronicle.rowsAfter turns = some (row, rows)) : ∃ inside columns,
      chronicle.foundation.columnsAfter around (chronicle.history.changes turns inside) = .ok columns ∧
      row = (chronicle.history.story turns).activationRow chronicle.foundation.stored columns ∧
      rows = columns.rows := by
  unfold Chronicle.rowsAfter at found
  split at found
  · rename_i inside
    split at found
    · rename_i columns reached
      cases found
      exact ⟨inside, columns, reached, rfl, rfl⟩
    · cases found
  · cases found

/-- What is loaded of a story is what it is at that time. -/
theorem Chronicle.loaded {turns : Nat} {row : ActivationRow} {rows : List KnowledgeRow}
    (found : chronicle.rowsAfter turns = some (row, rows))
    (named : chronicle.start.storyId = snapshot.storyId)
    (read : loadSnapshot around.externals (some row) rows snapshot limits = .ok metadata) :
    ∃ columns, Snapped chronicle snapshot turns columns ∧
      metadata.reference = .fromKnowledge snapshot columns.overlayVersion.get matcherVersion ∧
      Loaded chronicle.foundation chronicle.start (chronicle.history.story turns) columns metadata := by
  obtain ⟨inside, columns, reached, rfl, rfl⟩ := Chronicle.rowsAfter_eq_some found
  have asked := loadSnapshot_ok read
  have run := chronicle.history.runs turns inside
  have begun := chronicle.history.begins
  have held := chronicle.history.indexes chronicle.created chronicle.readable inside reached
  obtain ⟨entries, begins⟩ := Foundation.begins chronicle.created
  have pack : (chronicle.history.story turns).pack = chronicle.foundation.stored.row :=
    run.pack_eq.trans begins.pack
  have snapped : Snapped chronicle snapshot turns columns := {
    inside
    reached
    storyId := (run.storyId_eq.trans named).symm
    packDigest := by
      rw [← asked.digest, StoredStory.activationRow, pack]
    baseRevision := asked.revision.symm }
  refine ⟨columns, snapped, asked.reference, ?_⟩
  have same := read
  rw [loadSnapshot_congr _ (chronicle.history.story turns).knowledgeRef snapped.storyId
    (snapped.packDigest.trans (congrArg StoredPack.digest pack).symm) snapped.baseRevision] at same
  obtain ⟨fitting, failing⟩ := run.loads chronicle.created held limits
  by_cases fits : Fits chronicle.foundation.stored.row.digest chronicle.start.knowledge
      (chronicle.history.story turns).knowledge limits
  · obtain ⟨other, also, loaded⟩ := fitting fits
    cases same.symm.trans also
    exact loaded
  · obtain ⟨limit, failed⟩ := failing fits
    cases same.symm.trans failed

end

section
variable {around : Surroundings} {chronicles : Chronicles around} {limits : ActivationIndexLimits}
  {snapshot : KnowledgeSnapshotRef} {metadata : ActivationIndexMetadata}

theorem Chronicles.Reads.loaded (read : chronicles.Reads limits snapshot (.ok metadata)) :
    ∃ chronicle turns row rows, chronicles.story snapshot.storyId = some chronicle ∧
      chronicle.rowsAfter turns = some (row, rows) ∧
      loadSnapshot around.externals (some row) rows snapshot limits = .ok metadata := by
  obtain ⟨committed, _, same⟩ := read
  unfold Chronicles.load at same
  dsimp only at same
  cases found : (do
      let turns ← committed snapshot.storyId
      let chronicle ← chronicles.story snapshot.storyId
      chronicle.rowsAfter turns) with
  | none =>
    rw [found] at same
    cases same
  | some both =>
    rw [found] at same
    obtain ⟨turns, _, found⟩ := Option.bind_eq_some_iff.mp found
    obtain ⟨chronicle, known, found⟩ := Option.bind_eq_some_iff.mp found
    exact ⟨chronicle, turns, both.1, both.2, known, found, same.symm⟩

/-- A pack is named by its digest, and a state of a story by the version of its overlay. -/
theorem Chronicles.loads (chronicles : Chronicles around) (limits : ActivationIndexLimits) :
    Loads (chronicles.Reads limits) where
  answers snapshot := ⟨_, fun _ => none, nofun, rfl⟩
  reference read := by
    obtain ⟨chronicle, turns, row, rows, known, found, read⟩ := read.loaded
    exact ⟨_, (loadSnapshot_ok read).reference⟩
  packEntries := by
    intro snapshot other metadata more read also same
    obtain ⟨chronicle, turns, row, rows, known, found, read⟩ := read.loaded
    obtain ⟨chronicle', turns', row', rows', known', found', also⟩ := also.loaded
    obtain ⟨columns, snapped, -⟩ := Chronicle.loaded found (chronicles.named _ _ known) read
    obtain ⟨columns', snapped', -⟩ := Chronicle.loaded found' (chronicles.named _ _ known') also
    have asked := (loadSnapshot_ok read).packEntries
    have askedToo := (loadSnapshot_ok also).packEntries
    obtain ⟨_, _, _, rfl, _⟩ := Chronicle.rowsAfter_eq_some found
    obtain ⟨_, _, _, rfl, _⟩ := Chronicle.rowsAfter_eq_some found'
    have books := chronicles.packed _ _ chronicle chronicle' known known'
      (snapped.packDigest.symm.trans (same.trans snapped'.packDigest))
    rw [StoredStory.activationRow, books] at asked
    exact Except.ok.inj (asked.symm.trans askedToo)
  entries := by
    intro snapshot other metadata more read also stories _ versions
    obtain ⟨chronicle, turns, row, rows, known, found, read⟩ := read.loaded
    obtain ⟨chronicle', turns', row', rows', known', found', also⟩ := also.loaded
    rw [stories] at known
    cases Option.some.inj (known.symm.trans known')
    rw [← stories] at known
    obtain ⟨columns, snapped, reference, loaded⟩ :=
      Chronicle.loaded found (chronicles.named _ _ known) read
    obtain ⟨columns', snapped', reference', loaded'⟩ :=
      Chronicle.loaded found' (chronicles.named _ _ known') also
    rw [reference, reference'] at versions
    rw [loaded.entries, loaded'.entries]
    exact chronicle.history.same_version chronicle.created chronicle.readable snapped.inside snapped'.inside
      snapped.reached snapped'.reached (StoredCount.get_injective versions) _

end

/-! ### All tasks -/

/-- What the tasks share: the stories with the turns they have committed, and the caches. -/
structure ActivationShared where
  committed : StoryId → Option Nat
  packs : PackIndexCacheState := {}
  fragments : LruFragmentMatchState := {}

section
variable {around : Surroundings} (chronicles : Chronicles around)
  (coordinator : KnowledgeActivationCoordinator) (matchSize : UInt64)

/-- What a call is answered, and what it leaves. -/
def ActivationShared.answer (state : ActivationShared) :
    (call : ActivationCall) → Option (call.Answer × ActivationShared)
  | .loadSnapshot snapshot limits => some (chronicles.load state.committed snapshot limits, state)
  | .getPack key =>
    let (packs, cached) := state.packs.get key
    some (cached, { state with packs })
  | .insertPack index =>
    (state.packs.insert coordinator.packCache index).map fun
      | .ok packs => (.ok (), { state with packs })
      | .error error => (.error error, state)
  | .getMatches key =>
    let (fragments, cached) := state.fragments.get key
    some (cached, { state with fragments })
  | .insertMatches key value =>
    (state.fragments.insert coordinator.fragmentCache matchSize key value).map fun fragments =>
      ((), { state with fragments })

/-- A story is created, or commits its next turn. -/
inductive ActivationShared.Changes : ActivationShared → ActivationShared → Prop
  | created {state : ActivationShared} {id : StoryId} {chronicle : Chronicle around}
      (known : chronicles.story id = some chronicle) (absent : state.committed id = none) :
      Changes state { state with committed := Function.update state.committed id (some 0) }
  | turned {state : ActivationShared} {id : StoryId} {chronicle : Chronicle around} {turns : Nat}
      (known : chronicles.story id = some chronicle) (present : state.committed id = some turns)
      (further : turns < chronicle.history.length) :
      Changes state { state with committed := Function.update state.committed id (some (turns + 1)) }

def ActivationShared.object : Object ActivationCall ActivationCall.Answer ActivationShared where
  answers state call answer next := state.answer chronicles coordinator matchSize call = some (answer, next)
  changes := Changes chronicles

end

section
variable {around : Surroundings} {chronicles : Chronicles around}
  {coordinator : KnowledgeActivationCoordinator} {matchSize : UInt64} {texts : Set (List UInt8)}
open KnowledgeActivationCoordinator

/-- The stories are where they can be, and the caches hold what would be computed. -/
structure ActivationShared.Holds (chronicles : Chronicles around)
    (coordinator : KnowledgeActivationCoordinator) (texts : Set (List UInt8)) (state : ActivationShared) :
    Prop where
  reached : chronicles.Reached state.committed
  packs : state.packs.Only fun index =>
    Compiled around.externals around.engine coordinator (chronicles.Reads coordinator.indexLimits) texts
        index ∧
      PackIndexCacheState.tooLarge coordinator.packCache index = false
  fragments : state.fragments.Only (Matched around.externals around.engine coordinator
    (chronicles.Reads coordinator.indexLimits) texts)

theorem Chronicles.Reached.changed {committed : StoryId → Option Nat} (reached : chronicles.Reached committed)
    {id : StoryId} {chronicle : Chronicle around} (known : chronicles.story id = some chronicle) {turns : Nat}
    (inside : turns ≤ chronicle.history.length) :
    chronicles.Reached (Function.update committed id (some turns)) := by
  intro other count found
  by_cases same : other = id
  · rw [same, Function.update_self] at found
    cases found
    exact ⟨chronicle, same ▸ known, inside⟩
  · rw [Function.update_of_ne same] at found
    exact reached other count found

theorem ActivationShared.guards (chronicles : Chronicles around)
    (coordinator : KnowledgeActivationCoordinator) (matchSize : UInt64) (texts : Set (List UInt8)) :
    Guards (ActivationShared.object chronicles coordinator matchSize) (Holds chronicles coordinator texts)
      (Allowed around.externals around.engine coordinator (chronicles.Reads coordinator.indexLimits) texts)
      (Expected around.externals around.engine coordinator (chronicles.Reads coordinator.indexLimits)
        texts) where
  call := by
    intro state next call answer holds allowed answered
    cases call with
    | loadSnapshot snapshot limits =>
      cases answered
      cases show limits = coordinator.indexLimits from allowed
      exact ⟨holds, state.committed, holds.reached, rfl⟩
    | getPack key =>
      cases answered
      obtain ⟨kept, cached⟩ := holds.packs.get key
      exact ⟨{ holds with packs := kept }, cached⟩
    | insertPack index =>
      obtain ⟨inserted, called, same⟩ := Option.map_eq_some_iff.mp answered
      cases large : PackIndexCacheState.tooLarge coordinator.packCache index with
      | true =>
        cases called.symm.trans (PackIndexCacheState.insert_large large)
        cases same
        refine ⟨holds, ?_⟩
        simp [Expected, Result.failIf, large]
      | false =>
        have small : state.packs.insert coordinator.packCache index = _ :=
          PackIndexCacheState.insert_small large
        rw [called] at small
        obtain ⟨packs, _, rfl⟩ := Option.map_eq_some_iff.mp small.symm
        cases same
        refine ⟨{ holds with packs := holds.packs.insert ⟨allowed, large⟩ called }, ?_⟩
        simp [Expected, Result.failIf, large]
    | getMatches key =>
      cases answered
      obtain ⟨kept, cached⟩ := holds.fragments.get key
      exact ⟨{ holds with fragments := kept }, cached⟩
    | insertMatches key value =>
      obtain ⟨fragments, inserted, same⟩ := Option.map_eq_some_iff.mp answered
      cases same
      exact ⟨{ holds with fragments := holds.fragments.insert allowed inserted }, trivial⟩
  change := by
    intro state next holds changed
    cases changed with
    | created known absent =>
      exact { holds with reached := holds.reached.changed known (Nat.zero_le _) }
    | turned known present further =>
      exact { holds with reached := holds.reached.changed known further }

variable {ι : Type} [DecidableEq ι] {specs : ι → ActivationRunSpec} {committed : StoryId → Option Nat}
  {state : ActivationShared}
  {tasks : ι → ActivationProgram (Except ActivationError ActivationFound)}

/-- At first nothing is in the caches, which is as good as anything. -/
theorem ActivationShared.Holds.start (reached : chronicles.Reached committed) :
    ActivationShared.Holds chronicles coordinator texts { committed } where
  reached := reached
  packs := .empty
  fragments := .empty

/-- A task that has ended has what the plain run makes of something that was loaded. -/
theorem ActivationShared.ended_plain (injective : Set.InjOn around.externals.digest texts)
    (regular : ∀ task, Regular texts (specs task)) (reached : chronicles.Reached committed)
    (run : Transition.Reaches (Step (ActivationShared.object chronicles coordinator matchSize))
      ({ committed }, fun task => coordinator.run around.externals around.engine (specs task)) (state, tasks))
    {task : ι} {result : Except ActivationError ActivationFound} (ended : tasks task = .done result) :
    ∃ loaded, chronicles.Reads coordinator.indexLimits (specs task).snapshot loaded ∧
      result = coordinator.plainRun around.externals around.engine loaded (specs task) := by
  have meets (task : ι) : (coordinator.run around.externals around.engine (specs task)).Meets _ _ _ :=
    run_meets (chronicles.loads coordinator.indexLimits) injective (regular task)
  exact (ActivationShared.guards chronicles coordinator matchSize texts).result run (.start reached) meets
    ended

/-- The caches cannot be noticed. Whatever tasks run at the same time, in whatever order their calls are
made and stories go on between them, each gets what it would get by compiling and matching everything
anew from something that the store could load for it. -/
theorem activation_caches_transparent (injective : Set.InjOn around.externals.digest texts)
    (regular : ∀ task, Regular texts (specs task)) (reached : chronicles.Reached committed)
    (run : Transition.Reaches (Step (ActivationShared.object chronicles coordinator matchSize))
      ({ committed }, fun task => coordinator.run around.externals around.engine (specs task)) (state, tasks))
    {task : ι} {result : Except ActivationError ActivationFound}
    (ended : tasks task = .done result) :
    ∃ committed, chronicles.Reached committed ∧
      result = coordinator.plainRun around.externals around.engine
        (chronicles.load committed (specs task).snapshot coordinator.indexLimits) (specs task) := by
  obtain ⟨_, ⟨committed, reached, rfl⟩, same⟩ :=
    ActivationShared.ended_plain injective regular reached run ended
  exact ⟨committed, reached, same⟩

/-- What a fragment has matched is found under its identifier. -/
theorem plainMatches_get (injective : Set.InjOn around.externals.digest texts) {spec : ActivationRunSpec}
    (regular : Regular texts spec) (index : ActivationIndexSnapshot) {fragment : ScanFragment}
    (member : fragment ∈ spec.scanBuffer.fragments) :
    (plainMatches around.externals index spec.scanBuffer)[fragment.id around.externals]? =
      some (index.matchFragment around.externals fragment) :=
  OrdMap.get_insertEach (ScanFragment.id around.externals) (index.matchFragment around.externals)
    (fun first one second two same => fragmentBytes_injective
      (injective (regular.fragments first one) (regular.fragments second two) same)) member

/-- What a task has been given is of the story as it is at the revision that was asked for: its entries,
and of every source the matches of its entry, as a session looks them up. -/
structure Current (chronicle : Chronicle around) (coordinator : KnowledgeActivationCoordinator)
    (spec : ActivationRunSpec) (index : ActivationIndexSnapshot) (found : ActivationFragmentMatches)
    (story : StoredStory) : Prop where
  storyId : spec.storyId = story.storyId
  baseRevision : spec.snapshot.baseRevision = story.revision.toUInt64
  packDigest : spec.snapshot.packDigest = story.pack.digest
  metadata : index.metadata = indexOf spec.snapshot.packDigest story.knowledge
  ofSource : ∀ fragment ∈ spec.scanBuffer.fragments, ∃ items,
    found[fragment.id around.externals]? = some items ∧ ∀ id : KnowledgeSourceId,
      (items.filter fun item => item.sourceId = id).Perm
        ((heldAt spec.snapshot.packDigest story.knowledge id).elim []
          (entryMatches around.externals around.engine spec.macros coordinator.indexLimits fragment))

/-- Caches and layers together: however tasks and stories go on, a task that has not failed has matched
the entries of its story at the revision it was asked for, all of them and no others. -/
theorem activation_matches_current (injective : Set.InjOn around.externals.digest texts)
    (regular : ∀ task, Regular texts (specs task)) (reached : chronicles.Reached committed)
    (run : Transition.Reaches (Step (ActivationShared.object chronicles coordinator matchSize))
      ({ committed }, fun task => coordinator.run around.externals around.engine (specs task)) (state, tasks))
    {task : ι} {index : ActivationIndexSnapshot} {found : ActivationFragmentMatches}
    (ended : tasks task = .done (.ok (index, found))) :
    ∃ chronicle, chronicles.story (specs task).storyId = some chronicle ∧
      ∃ turns ≤ chronicle.history.length,
        Current chronicle coordinator (specs task) index found (chronicle.history.story turns) := by
  obtain ⟨loaded, reads, same⟩ := ActivationShared.ended_plain injective regular reached run ended
  obtain ⟨made, made', same⟩ := Result.bind_eq_ok same.symm
  obtain ⟨_, _, same⟩ := Result.bind_eq_ok same
  cases same
  obtain ⟨metadata, packIndex, overlay, rfl, layering⟩ := plainIndex_eq_ok made'
  obtain ⟨chronicle, turns, row, rows, known, found, read⟩ := reads.loaded
  obtain ⟨columns, snapped, reference, loaded⟩ :=
    Chronicle.loaded found (chronicles.named _ _ known) read
  have owned := (regular task).owned
  have held := chronicle.history.indexes chronicle.created chronicle.readable snapped.inside snapped.reached
  have composes : Composes around.externals around.engine (specs task).macros coordinator.indexLimits
      (activationRuleLimits coordinator.ruleLimits coordinator.runtimeLimits.maxScanDepth) metadata index :=
    ⟨_, packIndex, overlay, layering.compiled, layering.overlaid, layering.composed⟩
  have layered := held.layered
  rw [← loaded.packEntries, ← loaded.entries] at layered
  have serves := composes.serves layered
  obtain ⟨entries, begins⟩ := Foundation.begins chronicle.created
  have pack := ((chronicle.history.runs turns snapped.inside).pack_eq.trans begins.pack)
  refine ⟨chronicle, owned ▸ known, turns, snapped.inside, owned.trans snapped.storyId,
    snapped.baseRevision, snapped.packDigest.trans (congrArg StoredPack.digest pack).symm, ?_, ?_⟩
  · rw [serves.metadata, loaded.entries, snapped.packDigest]
  · intro fragment member
    refine ⟨_, plainMatches_get injective (regular task) index member, fun id => ?_⟩
    have matched := serves.ofSource fragment id
    rw [loaded.entries, indexOf_get (chronicle.history.story turns).knowledgeKeyed] at matched
    rw [snapped.packDigest]
    exact matched

end

namespace SharedIndex.Sample
open Run.Sample FactValues.Sample KnowledgeActivationCoordinator

/-- The surroundings of the mill, with a hash that keeps the end of what it is taken of. -/
def hearing : Surroundings :=
  { Run.Sample.around with
    externals := { Reserve.Sample.externals with sha256 := fun fed position => fed.reverse.getD position 0 } }

/-- The river is spoken of. -/
def heard : FactSeed :=
  { weather none with
    activation := { matchRule := { keys := [⟨"river"⟩] }, mode := {}, budgetClass := .normal } }

def banks : Foundation :=
  foundation quiet quiet_storable ((∅ : BTreeMap AssetKey FactSeed).insert ⟨"river"⟩ heard)

theorem banks_readable : banks.stored.Readable where
  packId := by decide +kernel
  facts := by decide +kernel
  rumors := by decide +kernel
  memories := by decide +kernel

def coordinator : KnowledgeActivationCoordinator :=
  .new ⟨9, 9, 9, 9, 9, 99, 99, 9⟩ ⟨4, 4, 64, 1024, 2, 32, 64⟩ { maxScanDepth := 4 }
    ⟨2, 4, 8, 4096, 65536⟩

def rising : ScanFragment := ⟨.playerContribution, 0, 0, ⟨"The river rises."⟩⟩

def ada : ActivationMacroValues := ⟨"Ada", "Miller"⟩

def spec (story : StoredStory) : ActivationRunSpec where
  snapshot := story.knowledgeRef
  scanBuffer := ⟨[rising], List.pairwise_singleton _ _⟩
  macros := ada
  storyId := story.storyId
  turnNumber := ⟨1, first_turn_accepted⟩

/-- The mill with its first turn, which tells of nothing new. -/
def mill : Option (Chronicle hearing) :=
  match created : banks.create hearing with
  | .error _ => none
  | .ok start =>
    match loaded : loadStorySnapshot limits hearing.uuids start.storyId start with
    | .error _ => none
    | .ok snapshot =>
      match projected : (snapshot.projectionInput 1).project projecting with
      | .error _ => none
      | .ok projection =>
        match built : buildChangeSet hearing.externals hearing.engine
          (Run.Sample.candidate {} {} snapshot projection) with
        | .error _ => none
        | .ok changes =>
          match committed : commitTurn hearing.uuids (committing snapshot changes) start with
          | .error _ => none
          | .ok (_, _) =>
            some ⟨banks, start, created, banks_readable,
              .single (firstTurn created loaded projected built committed)⟩

def chronicles : Chronicles hearing where
  story id := mill.filter fun chronicle => chronicle.start.storyId = id
  named id chronicle known := by simpa using (Option.filter_eq_some_iff.mp known).2
  packed id other chronicle more known also _ := by
    have first := (Option.filter_eq_some_iff.mp known).1
    have second := (Option.filter_eq_some_iff.mp also).1
    cases first.symm.trans second
    rfl

def created (id : StoryId) : Option Nat := if (chronicles.story id).isSome then some 0 else none

/-- What is loaded of the story after so many turns. -/
def metadata (chronicle : Chronicle hearing) (turns : Nat) : ActivationIndexMetadata where
  reference := .fromKnowledge (chronicle.history.story turns).knowledgeRef 0 matcherVersion
  packEntries := indexOf chronicle.foundation.stored.row.digest chronicle.start.knowledge
  entries := indexOf chronicle.foundation.stored.row.digest (chronicle.history.story turns).knowledge

/-- There is room for the river, which nothing has changed. -/
def roomFor (chronicle : Chronicle hearing) (turns : Nat) : Bool :=
  let packDigest := chronicle.foundation.stored.row.digest
  ((chronicle.rowsAfter turns).any fun (row, _) => row.overlayVersion.get = 0) &&
    (indexed packDigest chronicle.start.knowledge).length = 1 &&
    (indexed packDigest (chronicle.history.story turns).knowledge).map (·.fromPack) = [true]

/-- A task that has been answered its first call. -/
def answered {α : Type} (loaded : Except ActivationStoreError ActivationIndexMetadata) :
    ActivationProgram α → ActivationProgram α
  | .ask (.loadSnapshot _ _) next => next loaded
  | program => program

def answer := ActivationShared.answer chronicles coordinator 48

/-- One task asks for the story as it is created, the other for the story after its turn. -/
def task (chronicle : Chronicle hearing) (later : Bool) :
    ActivationProgram (Except ActivationError ActivationFound) :=
  coordinator.run hearing.externals hearing.engine (spec (chronicle.history.story later.toNat))

def played (chronicle : Chronicle hearing) (later : Bool) (state : ActivationShared) :=
  (answered (.ok (metadata chronicle later.toNat)) (task chronicle later)).play answer state

/-- The story has committed its turn. -/
def further (chronicle : Chronicle hearing) (state : ActivationShared) : ActivationShared :=
  { state with committed := Function.update state.committed chronicle.start.storyId (some 1) }

def hearsOnce : Except ActivationError ActivationFound → Bool
  | .ok (_, found) => (valuesOf found).map List.length = [1]
  | .error _ => false

/-- The river is heard of by both tasks, and matched once. -/
def hears (chronicle : Chronicle hearing) : Bool :=
  chronicle.history.length = 1 && roomFor chronicle 0 && roomFor chronicle 1 &&
    decide ((chronicle.history.story 0).revision.toUInt64 ≠
      (chronicle.history.story 1).revision.toUInt64) &&
    (played chronicle false { committed := created }).any fun (_, warmed) =>
      decide (warmed.committed chronicle.start.storyId = some 0) &&
        (played chronicle true (further chronicle warmed)).any fun (result, state) =>
          hearsOnce result && state.fragments.stats.hits = 1

theorem mill_hears : mill.any hears = true := by decide +kernel

section
variable {chronicle : Chronicle hearing} (known : mill = some chronicle)
include known

theorem story_mill : chronicles.story chronicle.start.storyId = some chronicle := by
  simp [chronicles, known]

/-- What a story without new knowledge loads. -/
theorem load_mill {committed : StoryId → Option Nat} {turns : Nat}
    (here : committed chronicle.start.storyId = some turns) (room : roomFor chronicle turns = true) :
    chronicles.load committed (chronicle.history.story turns).knowledgeRef coordinator.indexLimits =
      .ok (metadata chronicle turns) := by
  simp only [roomFor, Bool.and_eq_true, decide_eq_true_eq] at room
  obtain ⟨⟨stored, packed⟩, counted⟩ := room
  obtain ⟨⟨row, rows⟩, found, unversioned⟩ := (Option.any_eq_true _ _).mp stored
  obtain ⟨inside, columns, reached, rfl, rfl⟩ := Chronicle.rowsAfter_eq_some found
  have held := chronicle.history.indexes chronicle.created chronicle.readable inside reached
  have run := chronicle.history.runs turns inside
  have one := congrArg List.length counted
  have none := congrArg (List.countP fun fromPack => !fromPack) counted
  rw [List.length_map] at one
  rw [List.countP_map] at none
  obtain ⟨loaded, read, shown⟩ := (run.loads chronicle.created held coordinator.indexLimits).1 {
    few := by decide
    packEntries := packed.le.trans (by decide)
    entries := one.le.trans (by decide)
    overlay := none.le.trans (by decide) }
  have version : columns.overlayVersion.get = 0 := of_decide_eq_true unversioned
  have same : loaded = metadata chronicle turns := by
    cases loaded
    rw [metadata]
    congr
    · rw [← version]
      exact shown.reference
    · exact shown.packEntries
    · exact shown.entries
  unfold Chronicles.load
  have named : (chronicle.history.story turns).knowledgeRef.storyId = chronicle.start.storyId :=
    run.storyId_eq
  rw [named, here, story_mill known]
  dsimp only [bind, Option.bind]
  rw [found]
  exact same ▸ read

end

theorem task_asks (chronicle : Chronicle hearing) (later : Bool) : ∃ next, task chronicle later =
    .ask (.loadSnapshot (chronicle.history.story later.toNat).knowledgeRef coordinator.indexLimits)
      next := by
  have short : coordinator.macrosTooLong ada = false := by decide
  rw [task, KnowledgeActivationCoordinator.run, prepareIndex, spec, short]
  exact ⟨_, rfl⟩

/-- A task that is answered what the store has of the story. -/
theorem task_played {chronicle : Chronicle hearing} (known : mill = some chronicle) {later : Bool}
    {state next : ActivationShared} {result : Except ActivationError ActivationFound}
    (here : state.committed chronicle.start.storyId = some later.toNat)
    (room : roomFor chronicle later.toNat = true)
    (plays : played chronicle later state = some (result, next)) :
    (task chronicle later).play answer state = some (result, next) := by
  obtain ⟨rest, asks⟩ := task_asks chronicle later
  rw [← plays, played, asks, Program.play, answer, ActivationShared.answer, load_mill known here room]
  rfl

def texts : Set (List UInt8) := {macroBytes ada, fragmentBytes rising}

theorem digest_injective : Set.InjOn hearing.externals.digest texts := by
  have apart : hearing.externals.digest (macroBytes ada) ≠
      hearing.externals.digest (fragmentBytes rising) := by decide +kernel
  rintro first (rfl | rfl) second (rfl | rfl) same
  · rfl
  · exact absurd same apart
  · exact absurd same.symm apart
  · rfl

theorem ada_addressable : ada.Addressable :=
  ⟨addressable_of_le (by decide), addressable_of_le (by decide)⟩

theorem spec_regular (story : StoredStory) : Regular texts (spec story) where
  addressable := ada_addressable
  macros := .inl rfl
  fragments fragment member := by
    cases List.mem_singleton.mp member
    exact .inr rfl
  owned := rfl

theorem created_reached : chronicles.Reached created := by
  intro id turns found
  unfold created at found
  split at found
  · rename_i some
    obtain ⟨chronicle, known⟩ := Option.isSome_iff_exists.mp some
    cases found
    exact ⟨chronicle, known, Nat.zero_le _⟩
  · cases found

/-- The first task has ended before the story commits its turn, and the second is given from the
caches what the first has left there. -/
structure Heard (chronicle : Chronicle hearing) (state : ActivationShared)
    (tasks : Bool → ActivationProgram (Except ActivationError ActivationFound))
    (index : ActivationIndexSnapshot) (found : ActivationFragmentMatches) : Prop where
  known : mill = some chronicle
  turn : chronicle.history.length = 1
  moved : (chronicle.history.story 0).revision.toUInt64 ≠ (chronicle.history.story 1).revision.toUInt64
  run : Transition.Reaches (Step (ActivationShared.object chronicles coordinator 48))
    ({ committed := created }, task chronicle) (state, tasks)
  ended : tasks true = .done (.ok (index, found))
  once : (valuesOf found).map List.length = [1]
  cached : state.fragments.stats.hits = 1

theorem mill_runs : ∃ chronicle state tasks index found, Heard chronicle state tasks index found := by
  obtain ⟨chronicle, known, hears⟩ := (Option.any_eq_true _ _).mp mill_hears
  simp only [SharedIndex.Sample.hears, Bool.and_eq_true, decide_eq_true_eq, Option.any_eq_true] at hears
  obtain ⟨⟨⟨⟨turn, first⟩, second⟩, moved⟩, ⟨early, warmed⟩, plays, begun, ⟨result, state⟩, plays', checked,
    cached⟩ := hears
  have here : ({ committed := created } : ActivationShared).committed chronicle.start.storyId = some 0 := by
    change created _ = _
    unfold created
    rw [story_mill known]
    rfl
  have there : (further chronicle warmed).committed chronicle.start.storyId = some 1 :=
    Function.update_self ..
  have one : Transition.Reaches (Step (ActivationShared.object chronicles coordinator 48))
      ({ committed := created }, task chronicle)
      (warmed, Function.update (task chronicle) false (.done early)) :=
    Step.play (fun called => called) rfl (task_played known here first plays)
  have between : Step (ActivationShared.object chronicles coordinator 48)
      (warmed, Function.update (task chronicle) false (.done early))
      (further chronicle warmed, Function.update (task chronicle) false (.done early)) :=
    .change (.turned (story_mill known) begun (turn ▸ Nat.one_pos))
  have waits : Function.update (task chronicle) false (.done early) true = task chronicle true :=
    Function.update_of_ne (by decide) ..
  have two : Transition.Reaches (Step (ActivationShared.object chronicles coordinator 48))
      (further chronicle warmed, Function.update (task chronicle) false (.done early))
      (state, Function.update (Function.update (task chronicle) false (.done early)) true (.done result)) :=
    Step.play (fun called => called) waits (task_played known there second plays')
  cases result with
  | error error => cases checked
  | ok both =>
    exact ⟨chronicle, state, _, both.1, both.2, {
      known
      turn
      moved
      run := (one.tail between).trans two
      ended := Function.update_self ..
      once := of_decide_eq_true checked
      cached }⟩

/-- What was matched through the caches is what matching it anew gives. -/
theorem mill_transparent : ∃ chronicle state tasks index found,
    Heard chronicle state tasks index found ∧ ∃ committed, chronicles.Reached committed ∧
      .ok (index, found) = coordinator.plainRun hearing.externals hearing.engine
        (chronicles.load committed (spec (chronicle.history.story 1)).snapshot coordinator.indexLimits)
        (spec (chronicle.history.story 1)) := by
  obtain ⟨chronicle, state, tasks, index, found, heard⟩ := mill_runs
  have regular (later : Bool) : Regular texts (spec (chronicle.history.story later.toNat)) :=
    spec_regular _
  obtain ⟨committed, reached, same⟩ :=
    activation_caches_transparent digest_injective regular created_reached heard.run heard.ended
  exact ⟨chronicle, state, tasks, index, found, heard, committed, reached, same⟩

/-- And it is what the story knows of the river after its turn. -/
theorem mill_current : ∃ chronicle state tasks index found,
    Heard chronicle state tasks index found ∧
      Current chronicle coordinator (spec (chronicle.history.story 1)) index found
        (chronicle.history.story 1) := by
  obtain ⟨chronicle, state, tasks, index, found, heard⟩ := mill_runs
  refine ⟨chronicle, state, tasks, index, found, heard, ?_⟩
  have regular (later : Bool) : Regular texts (spec (chronicle.history.story later.toNat)) :=
    spec_regular _
  obtain ⟨other, also, turns, inside, current⟩ :=
    activation_matches_current digest_injective regular created_reached heard.run heard.ended
  have named : (chronicle.history.story 1).storyId = chronicle.start.storyId :=
    (chronicle.history.runs 1 heard.turn.ge).storyId_eq
  change chronicles.story (chronicle.history.story 1).storyId = _ at also
  rw [named, story_mill heard.known] at also
  cases also
  rw [heard.turn] at inside
  have last : turns = 1 := by
    refine le_antisymm inside (Nat.one_le_iff_ne_zero.mpr fun none => heard.moved ?_)
    rw [none] at current
    exact current.baseRevision.symm
  rw [last] at current
  exact current

end SharedIndex.Sample

end Aise.Domain.Persistence
