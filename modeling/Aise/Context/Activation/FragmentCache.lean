import Aise.Domain.Activation.Compile
import Aise.Lib.Recency

/-! The cache of fragment matches that all stories share. Its state keeps the entries by key, the keys
by the tick of their last use, the number of entries of each story and the bytes of all. A hash map is
read and written by key only, so it is taken for an ordered one. -/
namespace Aise.Domain
open Saturating OrdMap Recency

structure FragmentMatchCacheLimits where
  maxCachedStories : UInt64
  maxFragmentsPerStory : UInt64
  maxMatchesPerFragment : UInt64
  maxEvidenceBytesPerFragment : UInt64
  maxTotalEstimatedBytes : UInt64
  deriving DecidableEq

structure FragmentMatchCacheKey where
  storyId : StoryId
  fragmentId : ScanFragmentId
  fragmentKind : ScanFragmentKind
  contentHash : Sha256Digest
  packDigest : Sha256Digest
  overlayVersion : UInt64
  matcherVersion : UInt32
  macroDigest : Sha256Digest
  deriving DecidableEq

theorem ScanFragmentKind.name_injective : Function.Injective ScanFragmentKind.name := by
  intro first second same
  cases first <;> cases second <;> first | rfl | exact absurd same (by decide)

namespace FragmentMatchCacheKey

def rank (key : FragmentMatchCacheKey) :
    StoryId ×ₗ Sha256Digest ×ₗ String ×ₗ Sha256Digest ×ₗ Sha256Digest ×ₗ Nat ×ₗ Nat ×ₗ Sha256Digest :=
  toLex (key.storyId, toLex (key.fragmentId, toLex (key.fragmentKind.name, toLex (key.contentHash,
    toLex (key.packDigest, toLex (key.overlayVersion.toNat, toLex (key.matcherVersion.toNat,
      key.macroDigest)))))))

theorem rank_injective : Function.Injective rank := by
  rintro ⟨story, id, kind, hash, pack, overlay, matcher, macros⟩
    ⟨story', id', kind', hash', pack', overlay', matcher', macros'⟩ same
  simp only [rank, EmbeddingLike.apply_eq_iff_eq, Prod.mk.injEq] at same
  obtain ⟨rfl, rfl, kinds, rfl, rfl, overlays, matchers, rfl⟩ := same
  cases ScanFragmentKind.name_injective kinds
  cases UInt64.toNat_inj.mp overlays
  cases UInt32.toNat_inj.mp matchers
  rfl

instance : LinearOrder FragmentMatchCacheKey := LinearOrder.lift' rank rank_injective

instance : Std.TransOrd FragmentMatchCacheKey := inferInstance

instance : Std.LawfulEqOrd FragmentMatchCacheKey := ⟨compare_eq_iff_eq.mp⟩

end FragmentMatchCacheKey

structure FragmentMatchCacheStats where
  hits : UInt64 := 0
  misses : UInt64 := 0
  insertRejections : UInt64 := 0
  evictions : UInt64 := 0
  deriving DecidableEq

structure FragmentMatchCacheEntry where
  tick : Nat
  value : List FragmentPatternMatch
  estimatedBytes : UInt64
  deriving DecidableEq

structure LruFragmentMatchState where
  entries : BTreeMap FragmentMatchCacheKey FragmentMatchCacheEntry := ∅
  order : BTreeMap Nat FragmentMatchCacheKey := ∅
  perPartition : BTreeMap StoryId Nat := ∅
  totalEstimatedBytes : UInt64 := 0
  tick : Nat := 0
  stats : FragmentMatchCacheStats := {}

/-- `tick.saturating_add(1)`. -/
def nextTick (tick : Nat) : Nat := min (tick + 1) max64

/-- The matches times `size_of` one, which the layout decides. -/
def estimateMatchBytes (matchSize : UInt64) (found : List FragmentPatternMatch) : UInt64 :=
  mul (clamp64 found.length) matchSize

def partitionKey (key : FragmentMatchCacheKey) : StoryId := key.storyId

def decrementPartition (perPartition : BTreeMap StoryId Nat) (partition : StoryId) :
    BTreeMap StoryId Nat :=
  match perPartition[partition]? with
  | none => perPartition
  | some count =>
    if count - 1 = 0 then perPartition.erase partition else perPartition.insert partition (count - 1)

namespace LruFragmentMatchState

def get (state : LruFragmentMatchState) (key : FragmentMatchCacheKey) :
    LruFragmentMatchState × Option (List FragmentPatternMatch) :=
  let tick := nextTick state.tick
  match state.entries[key]? with
  | none =>
    ({ state with tick, stats := { state.stats with misses := add state.stats.misses 1 } }, none)
  | some entry =>
    ({ state with
        tick
        entries := state.entries.insert key { entry with tick }
        order := (state.order.erase entry.tick).insert tick key
        stats := { state.stats with hits := add state.stats.hits 1 } },
      some entry.value)

def removeKey (state : LruFragmentMatchState) (key : FragmentMatchCacheKey) (eviction : Bool) :
    LruFragmentMatchState :=
  match state.entries[key]? with
  | none => state
  | some entry =>
    { state with
      entries := state.entries.erase key
      order := state.order.erase entry.tick
      totalEstimatedBytes := sub state.totalEstimatedBytes entry.estimatedBytes
      perPartition := decrementPartition state.perPartition (partitionKey key)
      stats :=
        if eviction then { state.stats with evictions := add state.stats.evictions 1 } else state.stats }

/-- The rest of a round of either loop, with the key that it has found. -/
def evict (state : LruFragmentMatchState) :
    Option FragmentMatchCacheKey → Loop.Flow LruFragmentMatchState
  | none => .leave state
  | some key => .again (state.removeKey key true)

/-- A round of the loop of `enforce_partition_limit`. -/
def partitionRound (partition : StoryId) (maxFragments : UInt64) (state : LruFragmentMatchState) :
    Loop.Flow LruFragmentMatchState :=
  if state.perPartition[partition]?.getD 0 > maxFragments.toNat then
    state.evict ((valuesOf state.order).find? fun key => partitionKey key = partition)
  else .leave state

/-- A round of the loop of `enforce_global_limits`. -/
def globalRound (maxPartitions maxBytes : UInt64) (state : LruFragmentMatchState) :
    Loop.Flow LruFragmentMatchState :=
  if state.perPartition.size > maxPartitions.toNat ∨ state.totalEstimatedBytes > maxBytes then
    state.evict (valuesOf state.order).head?
  else .leave state

/-- The loop, which takes an entry off in every round. One that is not left by the time there are
none is not left at all. -/
def enforce (round : LruFragmentMatchState → Loop.Flow LruFragmentMatchState)
    (state : LruFragmentMatchState) : Option LruFragmentMatchState :=
  Loop.within round (state.order.size + 1) state

def enforcePartitionLimit (state : LruFragmentMatchState) (partition : StoryId)
    (maxFragments : UInt64) : Option LruFragmentMatchState :=
  enforce (partitionRound partition maxFragments) state

def enforceGlobalLimits (state : LruFragmentMatchState) (maxPartitions maxBytes : UInt64) :
    Option LruFragmentMatchState :=
  enforce (globalRound maxPartitions maxBytes) state

/-- `or_default() += 1`. -/
def incrementPartition (perPartition : BTreeMap StoryId Nat) (partition : StoryId) :
    BTreeMap StoryId Nat :=
  perPartition.insert partition (perPartition[partition]?.getD 0 + 1)

/-- What `insert` writes before it enforces the limits. -/
def store (state : LruFragmentMatchState) (key : FragmentMatchCacheKey)
    (value : List FragmentPatternMatch) (estimatedBytes : UInt64) : LruFragmentMatchState :=
  let state := state.removeKey key false
  let tick := nextTick state.tick
  { state with
    tick
    totalEstimatedBytes := add state.totalEstimatedBytes estimatedBytes
    perPartition := incrementPartition state.perPartition (partitionKey key)
    order := state.order.insert tick key
    entries := state.entries.insert key { tick, value, estimatedBytes } }

section
variable (limits : FragmentMatchCacheLimits) (matchSize : UInt64)

/-- What `insert` turns away. -/
def rejects (value : List FragmentPatternMatch) : Bool :=
  value.length > limits.maxMatchesPerFragment.toNat ||
    estimateMatchBytes matchSize value > limits.maxEvidenceBytesPerFragment ||
    estimateMatchBytes matchSize value > limits.maxTotalEstimatedBytes

/-- `none` is a loop that does not end. -/
def insert (state : LruFragmentMatchState) (key : FragmentMatchCacheKey)
    (value : List FragmentPatternMatch) : Option LruFragmentMatchState :=
  if rejects limits matchSize value then
    some { state with
      stats := { state.stats with insertRejections := add state.stats.insertRejections 1 } }
  else do
    let state := state.store key value (estimateMatchBytes matchSize value)
    let state ← state.enforcePartitionLimit (partitionKey key) limits.maxFragmentsPerStory
    state.enforceGlobalLimits limits.maxCachedStories limits.maxTotalEstimatedBytes

/-- What a call leaves. -/
def call (state : LruFragmentMatchState) :
    Call FragmentMatchCacheKey (List FragmentPatternMatch) → Option LruFragmentMatchState
  | .get key => some (state.get key).1
  | .insert key value => state.insert limits matchSize key value

/-- The state after the calls, in the order in which they take the lock. -/
def run (calls : List (Call FragmentMatchCacheKey (List FragmentPatternMatch))) :
    Option LruFragmentMatchState :=
  calls.foldlM (call limits matchSize) {}

end

end LruFragmentMatchState

/-! ### What the cache is for -/

abbrev FragmentShelf := Shelf FragmentMatchCacheKey (List FragmentPatternMatch)

def inPartition {V : Type} (story : StoryId) (item : FragmentMatchCacheKey × V) : Bool :=
  partitionKey item.1 = story

def storiesOf {V : Type} (shelf : Shelf FragmentMatchCacheKey V) : List StoryId :=
  (shelf.map fun item => partitionKey item.1).dedup

def bytesOf (matchSize : UInt64) (shelf : FragmentShelf) : Nat :=
  (shelf.map fun item => (estimateMatchBytes matchSize item.2).toNat).sum

section
variable (limits : FragmentMatchCacheLimits) (matchSize : UInt64)

/-- A story has so many fragments at most. -/
def partitionBound (story : StoryId) : Bound FragmentMatchCacheKey (List FragmentPatternMatch) where
  exceeded shelf := shelf.countP (inPartition story) > limits.maxFragmentsPerStory.toNat
  concerns := inPartition story

/-- So many stories at most are cached, and so many bytes. -/
def globalBound : Bound FragmentMatchCacheKey (List FragmentPatternMatch) where
  exceeded shelf := (storiesOf shelf).length > limits.maxCachedStories.toNat ||
    bytesOf matchSize shelf > limits.maxTotalEstimatedBytes.toNat
  concerns _ := true

/-- Least recently used goes first: among the fragments of the story where there are too many of
these, and then among all. -/
def fragmentPolicy : Policy FragmentMatchCacheKey (List FragmentPatternMatch) where
  admits _ value := !LruFragmentMatchState.rejects limits matchSize value
  bounds key := [partitionBound limits (partitionKey key), globalBound limits matchSize]

end

/-! ### How the state keeps a shelf -/

namespace LruFragmentMatchState
variable {limits : FragmentMatchCacheLimits} {matchSize : UInt64} {state : LruFragmentMatchState}
  {shelf : Shelf FragmentMatchCacheKey FragmentMatchCacheEntry} {key : FragmentMatchCacheKey}
  {entry : FragmentMatchCacheEntry}

/-- The entries with their values only. -/
def plain (shelf : Shelf FragmentMatchCacheKey FragmentMatchCacheEntry) : FragmentShelf :=
  mapped FragmentMatchCacheEntry.value shelf

/-- A count that is stored where it is not zero. -/
def stored (count : Nat) : Option Nat := if count = 0 then none else some count

structure Keeps (matchSize : UInt64) (state : LruFragmentMatchState)
    (shelf : Shelf FragmentMatchCacheKey FragmentMatchCacheEntry) : Prop where
  weighs : Weighs FragmentMatchCacheEntry.tick (fun entry => entry.estimatedBytes.toNat)
    state.entries state.order state.tick state.totalEstimatedBytes.toNat shelf
  partitions : ∀ story, state.perPartition[story]? = stored (shelf.countP (inPartition story))
  sized : ∀ item ∈ shelf, item.2.estimatedBytes = estimateMatchBytes matchSize item.2.value

theorem Keeps.empty (matchSize : UInt64) : Keeps matchSize {} [] where
  weighs := .nil _ _ 0
  partitions _ := rfl
  sized := nofun

theorem decrement_get {perPartition : BTreeMap StoryId Nat} {partition story : StoryId} {count : Nat}
    (counted : perPartition[partition]? = stored (count + 1)) :
    (decrementPartition perPartition partition)[story]? =
      if partition = story then stored count else perPartition[story]? := by
  have known : perPartition[partition]? = some (count + 1) := counted
  unfold decrementPartition
  rw [known]
  dsimp only
  rw [Nat.add_sub_cancel]
  split
  · rename_i last
    rw [get_erase, last]
    rfl
  · rename_i more
    rw [get_insert, stored, if_neg more]

/-- An entry is taken off if there is one, with all that is counted of it. -/
theorem Keeps.removed (keeps : Keeps matchSize state shelf) (key : FragmentMatchCacheKey)
    (eviction : Bool) : Keeps matchSize (state.removeKey key eviction) (discard shelf key) := by
  unfold removeKey
  cases found : state.entries[key]? with
  | none =>
    rw [keeps.weighs.discard_absent found]
    exact keeps
  | some entry =>
    have parts := perm_discard keeps.weighs.distinct ((keeps.weighs.entries key entry).mp found)
    exact {
      weighs := by
        have removed := keeps.weighs.discard found
        rwa [← toNat_sub] at removed
      partitions := fun story => by
        have total := parts.countP_eq (inPartition (partitionKey key))
        rw [List.countP_cons_of_pos (by simp [inPartition])] at total
        rw [decrement_get ((keeps.partitions _).trans (congrArg stored total))]
        split
        · rename_i same
          rw [same]
        · rename_i apart
          rw [keeps.partitions, parts.countP_eq, List.countP_cons_of_neg (by simp [inPartition, apart])]
      sized := fun item inside => keeps.sized item ((discard_sublist shelf key).subset inside) }

theorem removeKey_tick (key : FragmentMatchCacheKey) (eviction : Bool) :
    (state.removeKey key eviction).tick = state.tick := by
  unfold removeKey
  split
  · rfl
  · rfl

theorem nextTick_of_lt {tick : Nat} (room : tick < max64) : nextTick tick = tick + 1 :=
  Nat.min_eq_left room

theorem lt_nextTick {tick : Nat} (room : tick < max64) : tick < nextTick tick := by
  rw [nextTick_of_lt room]
  exact Nat.lt_succ_self tick

/-- An entry is put up that the state did not have, and is counted. -/
theorem Keeps.stores (keeps : Keeps matchSize state shelf) (ticks : state.tick < max64)
    (key : FragmentMatchCacheKey) {value : List FragmentPatternMatch}
    (bytes : state.totalEstimatedBytes.toNat + (estimateMatchBytes matchSize value).toNat ≤ max64) :
    Keeps matchSize (state.store key value (estimateMatchBytes matchSize value))
      (put shelf key ⟨nextTick state.tick, value, estimateMatchBytes matchSize value⟩) := by
  have removed := keeps.removed key false
  have later : (state.removeKey key false).tick < nextTick state.tick := by
    rw [removeKey_tick]
    exact lt_nextTick ticks
  have smaller : (state.removeKey key false).totalEstimatedBytes.toNat ≤
      state.totalEstimatedBytes.toNat := by
    unfold removeKey
    split
    · exact le_refl _
    · rw [toNat_sub]
      exact Nat.sub_le _ _
  have fits : (add (state.removeKey key false).totalEstimatedBytes
      (estimateMatchBytes matchSize value)).toNat =
        (state.removeKey key false).totalEstimatedBytes.toNat +
          (estimateMatchBytes matchSize value).toNat := by
    rw [toNat_add]
    omega
  unfold store
  dsimp only
  rw [removeKey_tick]
  exact {
    weighs := by
      have stored := removed.weighs.append
        ⟨nextTick state.tick, value, estimateMatchBytes matchSize value⟩ (not_mem_discard shelf key) later
      rwa [← fits] at stored
    partitions := fun story => by
      unfold incrementPartition
      rw [get_insert, removed.partitions, removed.partitions, put, List.countP_append,
        List.countP_singleton]
      split
      · rename_i same
        subst same
        rw [if_pos (by simp [inPartition]), stored, stored]
        split
        · rename_i none
          simp [none]
        · simp
      · rename_i apart
        rw [if_neg (by simp [inPartition, apart]), Nat.add_zero]
    sized := fun item member => by
      rcases List.mem_append.mp member with before | last
      · exact removed.sized item before
      · rw [List.mem_singleton.mp last] }

theorem Keeps.find_plain (keeps : Keeps matchSize state shelf) (key : FragmentMatchCacheKey) :
    find (plain shelf) key = state.entries[key]?.map FragmentMatchCacheEntry.value := by
  rw [plain, find_mapped, keeps.weighs.find_eq]

theorem Keeps.answers (keeps : Keeps matchSize state shelf) (key : FragmentMatchCacheKey) :
    (state.get key).2 = find (plain shelf) key := by
  rw [keeps.find_plain, get]
  cases state.entries[key]? <;> rfl

/-- Reading an entry makes it the one used last. -/
theorem Keeps.gets (keeps : Keeps matchSize state shelf) (ticks : state.tick < max64)
    (key : FragmentMatchCacheKey) :
    ∃ next, Keeps matchSize (state.get key).1 next ∧ plain next = touch (plain shelf) key := by
  unfold get touch
  rw [keeps.find_plain]
  cases known : state.entries[key]? with
  | none =>
    refine ⟨shelf, ?_, rfl⟩
    exact {
      weighs := {
        toTracks := keeps.weighs.toTracks
        ticked := fun item member => (keeps.weighs.ticked item member).trans (lt_nextTick ticks).le
        total := keeps.weighs.total }
      partitions := keeps.partitions
      sized := keeps.sized }
  | some entry =>
    have member := (keeps.weighs.entries key entry).mp known
    have parts := perm_discard keeps.weighs.distinct member
    refine ⟨put shelf key { entry with tick := nextTick state.tick }, ?_, ?_⟩
    · exact {
        weighs := keeps.weighs.move known (lt_nextTick ticks) rfl
        partitions := fun story => by
          dsimp only
          rw [keeps.partitions, parts.countP_eq, put, List.countP_append, List.countP_cons,
            List.countP_singleton]
          rfl
        sized := fun item inside => by
          rcases List.mem_append.mp inside with before | last
          · exact keeps.sized item ((discard_sublist shelf key).subset before)
          · rw [List.mem_singleton.mp last]
            exact keeps.sized (key, entry) member }
    · exact (put_mapped FragmentMatchCacheEntry.value shelf key _).symm

/-! ### The loops -/

/-- The state keeps a shelf with these values. -/
def Shows (matchSize : UInt64) (state : LruFragmentMatchState) (values : FragmentShelf) : Prop :=
  ∃ shelf, Keeps matchSize state shelf ∧ plain shelf = values

/-- Both loops take off the first key that is concerned, as long as there are too many. -/
theorem evict_follows (keeps : Keeps matchSize state shelf)
    {bound : Bound FragmentMatchCacheKey (List FragmentPatternMatch)} {p : FragmentMatchCacheKey → Bool}
    (concerns : ∀ item, bound.concerns item = p item.1) (exceeded : bound.exceeded (plain shelf) = true) :
    (state.evict ((valuesOf state.order).find? p)).Related (Shows matchSize)
      (bound.round (plain shelf)) := by
  have first : (valuesOf state.order).find? p = (shelf.find? (p ·.1)).map Prod.fst :=
    keeps.weighs.find?_order p
  have values : bound.concerns ∘ Prod.map id FragmentMatchCacheEntry.value =
      fun item : FragmentMatchCacheKey × FragmentMatchCacheEntry => p item.1 :=
    funext fun item => concerns _
  rw [first, Bound.round, exceeded, Bool.true_and]
  cases found : shelf.find? (p ·.1) with
  | none =>
    have spared : (plain shelf).any bound.concerns = false := by
      rw [plain, mapped, List.any_map, values, List.any_eq_false]
      exact List.find?_eq_none.mp found
    rw [spared]
    exact ⟨shelf, keeps, rfl⟩
  | some item =>
    have concerned : (plain shelf).any bound.concerns = true := by
      rw [plain, mapped, List.any_map, values, List.any_eq_true]
      refine ⟨item, List.mem_of_find?_eq_some found, ?_⟩
      have chosen := List.find?_some found
      exact chosen
    rw [concerned]
    refine ⟨discard shelf item.1, keeps.removed item.1 true, ?_⟩
    rw [plain, mapped, plain, mapped, List.eraseP_map, values,
      eraseP_eq_discard keeps.weighs.distinct found]

theorem countP_plain (story : StoryId) (shelf : Shelf FragmentMatchCacheKey FragmentMatchCacheEntry) :
    (plain shelf).countP (inPartition story) = shelf.countP (inPartition story) := by
  rw [plain, mapped, List.countP_map]
  rfl

theorem Keeps.counted (keeps : Keeps matchSize state shelf) (story : StoryId) :
    state.perPartition[story]?.getD 0 = (plain shelf).countP (inPartition story) := by
  rw [keeps.partitions, countP_plain, stored]
  split
  · rename_i none
    rw [none]
    rfl
  · rfl

/-- The stories that are counted are those of the shelf. -/
theorem Keeps.size_partitions (keeps : Keeps matchSize state shelf) :
    state.perPartition.size = (storiesOf (plain shelf)).length := by
  rw [← Std.ExtTreeMap.length_keys]
  refine List.Perm.length_eq
    ((List.perm_ext_iff_of_nodup Std.ExtTreeMap.nodup_keys (List.nodup_dedup _)).mpr fun story => ?_)
  rw [Std.ExtTreeMap.mem_keys, Std.ExtTreeMap.mem_iff_isSome_getElem?, keeps.partitions,
    List.mem_dedup, ← countP_plain, List.mem_map]
  unfold stored
  split
  · rename_i none
    rw [List.countP_eq_zero] at none
    simp only [Option.isSome_none, Bool.false_eq_true, false_iff, not_exists, not_and]
    exact fun item member same => none item member (decide_eq_true same)
  · rename_i some
    obtain ⟨item, member, same⟩ := List.countP_pos_iff.mp (Nat.pos_of_ne_zero some)
    exact iff_of_true rfl ⟨item, member, of_decide_eq_true same⟩

theorem Keeps.bytes_plain (keeps : Keeps matchSize state shelf) :
    state.totalEstimatedBytes.toNat = bytesOf matchSize (plain shelf) := by
  rw [keeps.weighs.total, bytesOf, plain, mapped, List.map_map]
  refine congrArg List.sum (List.map_congr_left fun item member => ?_)
  exact congrArg UInt64.toNat (keeps.sized item member)

theorem partitionRound_follows {values : FragmentShelf} (limits : FragmentMatchCacheLimits)
    (story : StoryId)
    (shows : Shows matchSize state values) :
    (partitionRound story limits.maxFragmentsPerStory state).Related (Shows matchSize)
      ((partitionBound limits story).round values) := by
  obtain ⟨shelf, keeps, rfl⟩ := shows
  unfold partitionRound
  rw [keeps.counted]
  split
  · rename_i many
    exact evict_follows keeps (fun _ => rfl) (decide_eq_true many)
  · rename_i few
    have within : (partitionBound limits story).exceeded (plain shelf) = false := decide_eq_false few
    rw [Bound.round, within]
    exact ⟨shelf, keeps, rfl⟩

theorem globalRound_follows {values : FragmentShelf} (limits : FragmentMatchCacheLimits)
    (shows : Shows matchSize state values) :
    (globalRound limits.maxCachedStories limits.maxTotalEstimatedBytes state).Related
      (Shows matchSize) ((globalBound limits matchSize).round values) := by
  obtain ⟨shelf, keeps, rfl⟩ := shows
  unfold globalRound
  have same : state.perPartition.size > limits.maxCachedStories.toNat ∨
      state.totalEstimatedBytes > limits.maxTotalEstimatedBytes ↔
        (globalBound limits matchSize).exceeded (plain shelf) = true := by
    rw [keeps.size_partitions]
    change _ ∨ limits.maxTotalEstimatedBytes < state.totalEstimatedBytes ↔ _
    rw [UInt64.lt_iff_toNat_lt, keeps.bytes_plain]
    simp [globalBound]
  have head : (valuesOf state.order).head? = (valuesOf state.order).find? fun _ => true := by
    cases valuesOf state.order <;> rfl
  split
  · rename_i many
    rw [head]
    exact evict_follows keeps (fun _ => rfl) (same.mp many)
  · rename_i few
    have within : (globalBound limits matchSize).exceeded (plain shelf) = false :=
      Bool.eq_false_iff.mpr fun exceeded => few (same.mpr exceeded)
    rw [Bound.round, within]
    exact ⟨shelf, keeps, rfl⟩

theorem evict_tick (state : LruFragmentMatchState) (found : Option FragmentMatchCacheKey) :
    (state.evict found).state.tick = state.tick := by
  cases found with
  | none => rfl
  | some key => exact removeKey_tick key true

theorem partitionRound_tick (story : StoryId) (maxFragments : UInt64) (state : LruFragmentMatchState) :
    (partitionRound story maxFragments state).state.tick = state.tick := by
  unfold partitionRound
  split
  · exact evict_tick state _
  · rfl

theorem globalRound_tick (maxPartitions maxBytes : UInt64) (state : LruFragmentMatchState) :
    (globalRound maxPartitions maxBytes state).state.tick = state.tick := by
  unfold globalRound
  split
  · exact evict_tick state _
  · rfl

/-- A loop that follows the enforcement of a bound ends where it does. -/
theorem enforce_follows {round : LruFragmentMatchState → Loop.Flow LruFragmentMatchState}
    {bound : Bound FragmentMatchCacheKey (List FragmentPatternMatch)} {values : FragmentShelf}
    (agree : ∀ {state values}, Shows matchSize state values →
      (round state).Related (Shows matchSize) (bound.round values))
    (still : ∀ state, (round state).state.tick = state.tick) (shows : Shows matchSize state values) :
    ∃ next, enforce round state = some next ∧ next.tick = state.tick ∧
      Shows matchSize next (bound.enforce values) := by
  obtain ⟨rounds, few, ends⟩ := bound.enforce_ends values
  obtain ⟨next, left, held⟩ := ends.follows agree shows
  obtain ⟨shelf, keeps, rfl⟩ := shows
  refine ⟨next, left.within ?_, ?_, held⟩
  · rw [keeps.weighs.size_order]
    rwa [plain, mapped, List.length_map] at few
  · have kept {s t : LruFragmentMatchState} (same : s.tick = state.tick) (ended : (round s).state = t) :
        t.tick = state.tick := by
      rw [← ended, still, same]
    refine left.invariant (P := fun s : LruFragmentMatchState => s.tick = state.tick)
      (Q := fun s => s.tick = state.tick) ?_ ?_ rfl
    · intro s t same again
      exact kept same (by rw [again]; rfl)
    · intro s t same left
      exact kept same (by rw [left]; rfl)

/-! ### Runs -/

/-- The totals of two fragments and all that is cached are within `usize`. -/
def Roomy (limits : FragmentMatchCacheLimits) : Prop :=
  limits.maxTotalEstimatedBytes.toNat + limits.maxEvidenceBytesPerFragment.toNat ≤ max64

/-- All limits hold of the shelf. -/
structure Within (limits : FragmentMatchCacheLimits) (matchSize : UInt64) (values : FragmentShelf) :
    Prop where
  fragments : ∀ story, values.countP (inPartition story) ≤ limits.maxFragmentsPerStory.toNat
  stories : (storiesOf values).length ≤ limits.maxCachedStories.toNat
  bytes : bytesOf matchSize values ≤ limits.maxTotalEstimatedBytes.toNat

section
variable {values : FragmentShelf}

theorem countP_put {story : StoryId} (apart : partitionKey key ≠ story)
    (value : List FragmentPatternMatch) :
    (put values key value).countP (inPartition story) ≤ values.countP (inPartition story) := by
  rw [put, List.countP_append, List.countP_singleton, if_neg (by simp [inPartition, apart])]
  exact (discard_sublist values key).countP_le

theorem partitionBound_holds (story : StoryId) (values : FragmentShelf) :
    ((partitionBound limits story).enforce values).countP (inPartition story) ≤
      limits.maxFragmentsPerStory.toNat := by
  by_contra many
  have exceeded : (partitionBound limits story).exceeded
      ((partitionBound limits story).enforce values) = true := decide_eq_true (Nat.lt_of_not_le many)
  have none : ((partitionBound limits story).enforce values).countP (inPartition story) = 0 := by
    rw [List.countP_eq_zero]
    intro item member chosen
    have spared := (partitionBound limits story).enforce_within values exceeded item member
    exact Bool.false_ne_true (spared.symm.trans chosen)
  exact many (none ▸ Nat.zero_le _)

theorem globalBound_holds (limits : FragmentMatchCacheLimits) (matchSize : UInt64)
    (values : FragmentShelf) :
    (storiesOf ((globalBound limits matchSize).enforce values)).length ≤ limits.maxCachedStories.toNat ∧
      bytesOf matchSize ((globalBound limits matchSize).enforce values) ≤
        limits.maxTotalEstimatedBytes.toNat := by
  by_cases exceeded : (globalBound limits matchSize).exceeded
      ((globalBound limits matchSize).enforce values) = true
  · have spared := (globalBound limits matchSize).enforce_within values exceeded
    have none : (globalBound limits matchSize).enforce values = [] :=
      List.eq_nil_iff_forall_not_mem.mpr fun item member =>
        Bool.true_eq_false_eq_False (spared item member)
    rw [none]
    exact ⟨Nat.zero_le _, Nat.zero_le _⟩
  · simpa [globalBound] using exceeded

/-- The limits hold after every call. -/
theorem Within.step (within : Within limits matchSize values) (distinct : Distinct values)
    (call : Call FragmentMatchCacheKey (List FragmentPatternMatch)) :
    Within limits matchSize ((fragmentPolicy limits matchSize).step values call) := by
  cases call with
  | get key =>
    rw [Policy.step_get]
    rcases Policy.touch_cases key distinct with ⟨same, _⟩ | ⟨value, member, _, moved⟩
    · rwa [same]
    · have parts : (put values key value).Perm values :=
        (List.perm_append_singleton _ _).trans (perm_discard distinct member).symm
      rw [moved]
      exact {
        fragments := fun story => (parts.countP_eq _).trans_le (within.fragments story)
        stories := (parts.map _).dedup.length_eq.trans_le within.stories
        bytes := (parts.map _).sum_nat.trans_le within.bytes }
  | insert key value =>
    cases admitted : (fragmentPolicy limits matchSize).admits key value with
    | false => rwa [Policy.step_refused admitted]
    | true =>
      rw [Policy.step_admitted admitted]
      obtain ⟨stories, bytes⟩ := globalBound_holds limits matchSize
        ((partitionBound limits (partitionKey key)).enforce (put values key value))
      refine ⟨fun story => ?_, stories, bytes⟩
      have later := ((globalBound limits matchSize).enforce_sublist
        ((partitionBound limits (partitionKey key)).enforce (put values key value))).countP_le
          (p := inPartition story)
      refine later.trans ?_
      by_cases same : partitionKey key = story
      · subst same
        exact partitionBound_holds _ _
      · exact ((Bound.enforce_sublist _ _).countP_le.trans (countP_put same value)).trans
          (within.fragments story)

/-- `insert` ends, and leaves what least recently used first leaves. -/
theorem insert_follows (roomy : Roomy limits) (ticks : state.tick < max64)
    (within : Within limits matchSize values) (shows : Shows matchSize state values)
    (key : FragmentMatchCacheKey) (value : List FragmentPatternMatch) :
    ∃ next, state.insert limits matchSize key value = some next ∧ next.tick ≤ state.tick + 1 ∧
      Shows matchSize next ((fragmentPolicy limits matchSize).step values (.insert key value)) := by
  have admits : (fragmentPolicy limits matchSize).admits key value = !rejects limits matchSize value :=
    rfl
  obtain ⟨shelf, keeps, rfl⟩ := shows
  unfold insert
  cases rejected : rejects limits matchSize value with
  | true =>
    rw [rejected] at admits
    rw [Policy.step_refused admits, if_pos rfl]
    refine ⟨_, rfl, Nat.le_succ _, shelf, ?_, rfl⟩
    exact ⟨keeps.weighs, keeps.partitions, keeps.sized⟩
  | false =>
    rw [rejected] at admits
    rw [Policy.step_admitted admits, if_neg Bool.false_ne_true]
    have small : (estimateMatchBytes matchSize value).toNat ≤
        limits.maxEvidenceBytesPerFragment.toNat := by
      simp only [rejects, Bool.or_eq_false_iff, decide_eq_false_iff_not, not_lt, gt_iff_lt] at rejected
      exact UInt64.le_iff_toNat_le.mp (UInt64.not_lt.mp rejected.1.2)
    have bytes : state.totalEstimatedBytes.toNat + (estimateMatchBytes matchSize value).toNat ≤
        max64 := by
      rw [keeps.bytes_plain]
      exact (Nat.add_le_add within.bytes small).trans roomy
    have stores := keeps.stores ticks key bytes
    have shown : Shows matchSize (state.store key value (estimateMatchBytes matchSize value))
        (put (plain shelf) key value) :=
      ⟨_, stores, (put_mapped FragmentMatchCacheEntry.value shelf key _).symm⟩
    obtain ⟨parted, first, early, held⟩ := enforce_follows
      (partitionRound_follows limits (partitionKey key)) (partitionRound_tick _ _) shown
    obtain ⟨next, second, late, last⟩ := enforce_follows
      (globalRound_follows limits) (globalRound_tick _ _) held
    refine ⟨next, ?_, ?_, last⟩
    · simp only [enforcePartitionLimit, enforceGlobalLimits, first, second, bind, Option.bind]
    · rw [late, early]
      dsimp only [store]
      rw [removeKey_tick, nextTick_of_lt ticks]

/-- The calls end, and the state shows what least recently used first leaves. -/
theorem run_follows (matchSize : UInt64) (roomy : Roomy limits)
    {calls : List (Call FragmentMatchCacheKey (List FragmentPatternMatch))}
    (few : calls.length < 2 ^ 64) :
    ∃ state, run limits matchSize calls = some state ∧ state.tick ≤ calls.length ∧
      Shows matchSize state ((fragmentPolicy limits matchSize).run calls) ∧
      Within limits matchSize ((fragmentPolicy limits matchSize).run calls) := by
  induction calls using List.reverseRecOn with
  | nil =>
    exact ⟨{}, rfl, le_refl _, ⟨[], .empty matchSize, rfl⟩, fun _ => Nat.zero_le _, Nat.zero_le _,
      Nat.zero_le _⟩
  | append_singleton before last ih =>
    rw [List.length_append, List.length_singleton] at few ⊢
    obtain ⟨state, ran, ticked, shows, within⟩ := ih (Nat.lt_of_succ_lt few)
    have room : max64 = 2 ^ 64 - 1 := rfl
    have ticks : state.tick < max64 := by omega
    have later := within.step (Policy.run_distinct _ before) last
    rw [Policy.run_concat]
    have step : ∃ next, call limits matchSize state last = some next ∧ next.tick ≤ state.tick + 1 ∧
        Shows matchSize next ((fragmentPolicy limits matchSize).step
          ((fragmentPolicy limits matchSize).run before) last) := by
      cases last with
      | get key =>
        obtain ⟨shelf, keeps, same⟩ := shows
        obtain ⟨next, kept, touched⟩ := keeps.gets ticks key
        refine ⟨_, rfl, ?_, next, kept, by rw [touched, same, Policy.step_get]⟩
        unfold get
        split
        · exact Nat.min_le_left _ _
        · exact Nat.min_le_left _ _
      | insert key value => exact insert_follows roomy ticks within shows key value
    obtain ⟨next, called, tick, shown⟩ := step
    refine ⟨next, ?_, by omega, shown, later⟩
    unfold run at ran ⊢
    rw [List.foldlM_append, ran]
    simp only [Option.bind_eq_bind, Option.bind_some, List.foldlM_cons, List.foldlM_nil, called]
    rfl

end

theorem Keeps.order_keys (keeps : Keeps matchSize state shelf) :
    valuesOf state.order = (plain shelf).map Prod.fst := by
  rw [valuesOf, keeps.weighs.toList_order, plain, keys_mapped, List.map_map]
  rfl

/-- The four parts of the state agree, and all limits hold. -/
structure Consistent (limits : FragmentMatchCacheLimits) (state : LruFragmentMatchState) : Prop where
  inverse : ∀ tick key, state.order[tick]? = some key ↔
    ∃ entry : FragmentMatchCacheEntry, state.entries[key]? = some entry ∧ entry.tick = tick
  partitions : ∀ story, state.perPartition[story]? =
    stored (state.entries.keys.countP fun key => partitionKey key = story)
  bytes : state.totalEstimatedBytes.toNat =
    ((valuesOf state.entries).map fun entry => entry.estimatedBytes.toNat).sum
  fragments : ∀ story, (state.entries.keys.countP fun key => partitionKey key = story) ≤
    limits.maxFragmentsPerStory.toNat
  stories : state.perPartition.size ≤ limits.maxCachedStories.toNat
  within : state.totalEstimatedBytes ≤ limits.maxTotalEstimatedBytes

theorem Keeps.consistent (keeps : Keeps matchSize state shelf)
    (within : Within limits matchSize (plain shelf)) : Consistent limits state := by
  have counted (story : StoryId) : (state.entries.keys.countP fun key => partitionKey key = story) =
      shelf.countP (inPartition story) := by
    rw [← Std.ExtTreeMap.map_fst_toList_eq_keys, List.countP_map]
    exact keeps.weighs.perm_entries.countP_eq _
  exact {
    inverse := fun tick key => by
      rw [keeps.weighs.order]
      simp only [keeps.weighs.entries]
    partitions := fun story => by rw [counted, keeps.partitions]
    bytes := by
      rw [keeps.weighs.total_entries, valuesOf, List.map_map]
      rfl
    fragments := fun story => by
      rw [counted, ← countP_plain]
      exact within.fragments story
    stories := by
      rw [keeps.size_partitions]
      exact within.stories
    within := by
      rw [UInt64.le_iff_toNat_le, keeps.bytes_plain]
      exact within.bytes }

end LruFragmentMatchState

open LruFragmentMatchState

namespace FragmentCache.Sample

/-- One story with one fragment at a time. -/
def limits : FragmentMatchCacheLimits where
  maxCachedStories := 1
  maxFragmentsPerStory := 1
  maxMatchesPerFragment := 4
  maxEvidenceBytesPerFragment := 4096
  maxTotalEstimatedBytes := 65536

theorem roomy : Roomy limits := by
  unfold Roomy
  decide

def digest (byte : UInt8) : Sha256Digest := ⟨List.replicate 32 byte, List.length_replicate⟩

def key (byte : UInt8) : FragmentMatchCacheKey where
  storyId := ⟨"mill", by decide⟩
  fragmentId := digest byte
  fragmentKind := .recentStory
  contentHash := digest byte
  packDigest := digest 0
  overlayVersion := 0
  matcherVersion := 1
  macroDigest := digest 0

def calls : List (Call FragmentMatchCacheKey (List FragmentPatternMatch)) :=
  [.insert (key 1) [], .get (key 1), .insert (key 2) [], .get (key 1)]

end FragmentCache.Sample

section
variable {limits : FragmentMatchCacheLimits} {matchSize : UInt64}
  {calls : List (Call FragmentMatchCacheKey (List FragmentPatternMatch))}
open FragmentCache

/-- No call of the cache hangs, and after any calls its parts agree and its limits hold. -/
theorem fragment_cache_consistent (roomy : Roomy limits) (few : calls.length < 2 ^ 64) :
    ∃ state, run limits matchSize calls = some state ∧ Consistent limits state := by
  obtain ⟨state, ran, _, ⟨shelf, keeps, same⟩, within⟩ := run_follows matchSize roomy few
  exact ⟨state, ran, keeps.consistent (same ▸ within)⟩

theorem FragmentCache.Sample.calls_consistent :
    ∃ state, run Sample.limits 48 Sample.calls = some state ∧ Consistent Sample.limits state :=
  fragment_cache_consistent Sample.roomy (by decide)

/-- After any calls the cache answers as the list of the values that were used last does. It holds
the keys in the order of their last use, and under each the value that was let in last. -/
theorem fragment_cache_recent (roomy : Roomy limits) (few : calls.length < 2 ^ 64) :
    ∃ state, run limits matchSize calls = some state ∧
      (∀ key, (state.get key).2 = find ((fragmentPolicy limits matchSize).run calls) key) ∧
      (valuesOf state.order).Sublist
        ((calls.filter (fragmentPolicy limits matchSize).uses).map Call.key).dedup ∧
      ∀ key value, (state.get key).2 = some value →
        (fragmentPolicy limits matchSize).latest key calls = some value := by
  obtain ⟨state, ran, _, ⟨shelf, keeps, same⟩, _⟩ := run_follows matchSize roomy few
  refine ⟨state, ran, fun key => same ▸ keeps.answers key, ?_, fun key value answered => ?_⟩
  · rw [keeps.order_keys, same]
    exact Policy.run_recent _ calls
  · rw [keeps.answers, same, find_eq_some (Policy.run_distinct _ calls)] at answered
    exact Policy.run_latest answered

theorem FragmentCache.Sample.calls_recent :
    ∃ state, run Sample.limits 48 Sample.calls = some state ∧
      (∀ key, (state.get key).2 = find ((fragmentPolicy Sample.limits 48).run Sample.calls) key) ∧
      (valuesOf state.order).Sublist
        ((Sample.calls.filter (fragmentPolicy Sample.limits 48).uses).map Call.key).dedup ∧
      ∀ key value, (state.get key).2 = some value →
        (fragmentPolicy Sample.limits 48).latest key Sample.calls = some value :=
  fragment_cache_recent Sample.roomy (by decide)

/-- An insert that is let in evicts the oldest fragments of the story where there are too many of
them, then the oldest of all, and none where the limits hold with the new entry. -/
theorem fragment_cache_evicts_oldest (roomy : Roomy limits) (few : calls.length + 1 < 2 ^ 64)
    {state : LruFragmentMatchState} (ran : run limits matchSize calls = some state)
    (key : FragmentMatchCacheKey) {value : List FragmentPatternMatch}
    (accepted : rejects limits matchSize value = false) :
    ∃ next parted, state.insert limits matchSize key value = some next ∧
      (valuesOf next.order).IsSuffix parted ∧
      (parted.filter (partitionKey · = partitionKey key)).IsSuffix
        (((valuesOf state.order).filter (· ≠ key) ++ [key]).filter (partitionKey · = partitionKey key)) ∧
      parted.filter (partitionKey · ≠ partitionKey key) =
        ((valuesOf state.order).filter (· ≠ key) ++ [key]).filter (partitionKey · ≠ partitionKey key) ∧
      (Within limits matchSize (put ((fragmentPolicy limits matchSize).run calls) key value) →
        valuesOf next.order = (valuesOf state.order).filter (· ≠ key) ++ [key]) := by
  obtain ⟨found, same, ticked, ⟨shelf, keeps, shown⟩, within⟩ :=
    run_follows matchSize roomy (Nat.lt_of_succ_lt few)
  cases same.symm.trans ran
  have room : max64 = 2 ^ 64 - 1 := rfl
  obtain ⟨next, inserted, _, ⟨later, kept, follows⟩⟩ :=
    insert_follows roomy (by omega) within ⟨shelf, keeps, shown⟩ key value
  rw [Policy.step_admitted (congrArg (!·) accepted)] at follows
  have before : ((put ((fragmentPolicy limits matchSize).run calls) key value).map Prod.fst) =
      (valuesOf state.order).filter (· ≠ key) ++ [key] := by
    rw [keeps.order_keys, shown, put, List.map_append, keys_discard]
    rfl
  obtain ⟨own, others⟩ := (partitionBound limits (partitionKey key)).enforce_oldest
    (put ((fragmentPolicy limits matchSize).run calls) key value)
  obtain ⟨all, _⟩ := (globalBound limits matchSize).enforce_oldest
    ((partitionBound limits (partitionKey key)).enforce
      (put ((fragmentPolicy limits matchSize).run calls) key value))
  refine ⟨next, ((partitionBound limits (partitionKey key)).enforce
    (put ((fragmentPolicy limits matchSize).run calls) key value)).map Prod.fst, inserted, ?_, ?_, ?_, ?_⟩
  · rw [kept.order_keys, follows]
    have whole (values : FragmentShelf) :
        values.filter (globalBound limits matchSize).concerns = values :=
      List.filter_eq_self.mpr fun _ _ => rfl
    rw [whole, whole] at all
    exact all.map Prod.fst
  · rw [← before, List.filter_map, List.filter_map]
    exact own.map Prod.fst
  · rw [← before, List.filter_map, List.filter_map]
    have apart : (fun name : FragmentMatchCacheKey => decide (partitionKey name ≠ partitionKey key)) ∘
        Prod.fst = fun item : FragmentMatchCacheKey × List FragmentPatternMatch =>
          !inPartition (partitionKey key) item := by
      funext item
      simp [inPartition]
    rw [apart]
    exact congrArg (List.map Prod.fst) others
  · intro holds
    rw [kept.order_keys, follows, ← before]
    have spared : (partitionBound limits (partitionKey key)).exceeded
        (put ((fragmentPolicy limits matchSize).run calls) key value) = false :=
      decide_eq_false (Nat.not_lt.mpr (holds.fragments _))
    have sparedAll : (globalBound limits matchSize).exceeded
        (put ((fragmentPolicy limits matchSize).run calls) key value) = false := by
      simpa [globalBound] using ⟨holds.stories, holds.bytes⟩
    rw [Policy.settle]
    change ((globalBound limits matchSize).enforce ((partitionBound limits (partitionKey key)).enforce
      (put ((fragmentPolicy limits matchSize).run calls) key value))).map Prod.fst = _
    rw [Bound.enforce_eq_self spared, Bound.enforce_eq_self sparedAll]

theorem FragmentCache.Sample.evicts : ∃ state, run Sample.limits 48 Sample.calls = some state ∧
    ∃ next parted, state.insert Sample.limits 48 (Sample.key 3) [] = some next ∧
      (valuesOf next.order).IsSuffix parted ∧
      (parted.filter (partitionKey · = partitionKey (Sample.key 3))).IsSuffix
        (((valuesOf state.order).filter (· ≠ Sample.key 3) ++ [Sample.key 3]).filter
          (partitionKey · = partitionKey (Sample.key 3))) ∧
      parted.filter (partitionKey · ≠ partitionKey (Sample.key 3)) =
        ((valuesOf state.order).filter (· ≠ Sample.key 3) ++ [Sample.key 3]).filter
          (partitionKey · ≠ partitionKey (Sample.key 3)) ∧
      (Within Sample.limits 48
          (put ((fragmentPolicy Sample.limits 48).run Sample.calls) (Sample.key 3) []) →
        valuesOf next.order =
          (valuesOf state.order).filter (· ≠ Sample.key 3) ++ [Sample.key 3]) := by
  have few : Sample.calls.length + 1 < 2 ^ 64 := by decide
  obtain ⟨state, ran, _⟩ := run_follows 48 Sample.roomy (Nat.lt_of_succ_lt few)
  have accepted : rejects Sample.limits 48 [] = false := by decide
  exact ⟨state, ran, fragment_cache_evicts_oldest Sample.roomy few ran (Sample.key 3) accepted⟩

end

end Aise.Domain
