import Aise.Context.Activation.FragmentCache

/-! The cache of compiled pack indexes. It is bounded by the number of packs and by their bytes, and an
index that is too large for it alone is an error. -/
namespace Aise.Domain
open Saturating OrdMap Recency
open LruFragmentMatchState (lt_nextTick)

namespace FrozenPackIndexKey

def rank (key : FrozenPackIndexKey) : Sha256Digest ×ₗ Sha256Digest ×ₗ Nat :=
  toLex (key.packDigest, toLex (key.macroDigest, key.matcherVersion.toNat))

theorem rank_injective : Function.Injective rank := by
  rintro ⟨pack, macros, matcher⟩ ⟨pack', macros', matcher'⟩ same
  simp only [rank, EmbeddingLike.apply_eq_iff_eq, Prod.mk.injEq] at same
  obtain ⟨rfl, rfl, matchers⟩ := same
  cases UInt32.toNat_inj.mp matchers
  rfl

instance : LinearOrder FrozenPackIndexKey := LinearOrder.lift' rank rank_injective

instance : Std.TransOrd FrozenPackIndexKey := inferInstance

instance : Std.LawfulEqOrd FrozenPackIndexKey := ⟨compare_eq_iff_eq.mp⟩

end FrozenPackIndexKey

structure PackIndexCacheState where
  entries : BTreeMap FrozenPackIndexKey (Nat × FrozenPackIndex) := ∅
  order : BTreeMap Nat FrozenPackIndexKey := ∅
  totalEstimatedBytes : UInt64 := 0
  tick : Nat := 0

structure FrozenPackIndexCache where
  maxPacks : UInt64
  maxTotalEstimatedBytes : UInt64
  positive : 0 < maxPacks.toNat ∧ 0 < maxTotalEstimatedBytes.toNat

/-- `max(1)` of both limits. -/
def FrozenPackIndexCache.new (maxPacks maxTotalEstimatedBytes : UInt64) : FrozenPackIndexCache where
  maxPacks := if maxPacks = 0 then 1 else maxPacks
  maxTotalEstimatedBytes := if maxTotalEstimatedBytes = 0 then 1 else maxTotalEstimatedBytes
  positive := by
    have larger (value : UInt64) : 0 < (if value = 0 then 1 else value).toNat := by
      split
      · exact Nat.one_pos
      · rename_i positive
        exact Nat.pos_of_ne_zero fun zero => positive (UInt64.toNat_inj.mp zero)
    exact ⟨larger _, larger _⟩

namespace PackIndexCacheState

def get (state : PackIndexCacheState) (key : FrozenPackIndexKey) :
    PackIndexCacheState × Option FrozenPackIndex :=
  let tick := nextTick state.tick
  match state.entries[key]? with
  | none => ({ state with tick }, none)
  | some (previous, index) =>
    ({ state with
        tick
        entries := state.entries.insert key (tick, index)
        order := (state.order.erase previous).insert tick key },
      some index)

/-- An index is taken off, if there is one. -/
def remove (state : PackIndexCacheState) (key : FrozenPackIndexKey) : PackIndexCacheState :=
  match state.entries[key]? with
  | none => state
  | some (previous, removed) =>
    { state with
      entries := state.entries.erase key
      order := state.order.erase previous
      totalEstimatedBytes := sub state.totalEstimatedBytes removed.estimatedBytes }

/-- What `insert` writes before its loop. -/
def store (state : PackIndexCacheState) (index : FrozenPackIndex) : PackIndexCacheState :=
  let tick := nextTick state.tick
  let state := { state with tick }.remove index.key
  { state with
    totalEstimatedBytes := add state.totalEstimatedBytes index.estimatedBytes
    order := state.order.insert tick index.key
    entries := state.entries.insert index.key (tick, index) }

section
variable (cache : FrozenPackIndexCache)

def round (state : PackIndexCacheState) : Loop.Flow PackIndexCacheState :=
  if state.entries.size > cache.maxPacks.toNat ∨
      state.totalEstimatedBytes > cache.maxTotalEstimatedBytes then
    match (valuesOf state.order).head? with
    | none => .leave state
    | some oldest => .again (state.remove oldest)
  else .leave state

def tooLarge (index : FrozenPackIndex) : Bool := index.estimatedBytes > cache.maxTotalEstimatedBytes

/-- `none` is a loop that does not end. -/
def insert (state : PackIndexCacheState) (index : FrozenPackIndex) :
    Option (Except ActivationError PackIndexCacheState) :=
  if tooLarge cache index then some (.error (.workLimitExceeded "max_compiled_bytes"))
  else
    let stored := state.store index
    (Loop.within (round cache) (stored.order.size + 1) stored).map .ok

/-- The calls of the cache. -/
inductive PackCall where
  | get (key : FrozenPackIndexKey)
  | insert (index : FrozenPackIndex)

/-- An index is stored under its own key. -/
def PackCall.keyed : PackCall → Call FrozenPackIndexKey FrozenPackIndex
  | .get key => .get key
  | .insert index => .insert index.key index

/-- What a call leaves. An index that is turned away leaves the state as it is. -/
def call (state : PackIndexCacheState) : PackCall → Option PackIndexCacheState
  | .get key => some (state.get key).1
  | .insert index =>
    (state.insert cache index).map fun
      | .ok next => next
      | .error _ => state

def run (calls : List PackCall) : Option PackIndexCacheState := calls.foldlM (call cache) {}

end

end PackIndexCacheState

/-! ### What the cache is for -/

abbrev PackShelf := Shelf FrozenPackIndexKey FrozenPackIndex

section
variable (cache : FrozenPackIndexCache)

def packBytes (shelf : PackShelf) : Nat := (shelf.map (·.2.estimatedBytes.toNat)).sum

def packBound : Bound FrozenPackIndexKey FrozenPackIndex where
  exceeded shelf := shelf.length > cache.maxPacks.toNat ||
    packBytes shelf > cache.maxTotalEstimatedBytes.toNat
  concerns _ := true

/-- Least recently used goes first. -/
def packPolicy : Policy FrozenPackIndexKey FrozenPackIndex where
  admits _ index := !PackIndexCacheState.tooLarge cache index
  bounds _ := [packBound cache]

end

namespace PackIndexCacheState
variable {cache : FrozenPackIndexCache} {state : PackIndexCacheState}
  {shelf : Shelf FrozenPackIndexKey (Nat × FrozenPackIndex)} {values : PackShelf}

abbrev Holds (state : PackIndexCacheState) (shelf : Shelf FrozenPackIndexKey (Nat × FrozenPackIndex)) :
    Prop :=
  Weighs Prod.fst (fun entry => entry.2.estimatedBytes.toNat) state.entries state.order state.tick
    state.totalEstimatedBytes.toNat shelf

/-- The state keeps a shelf with these indexes. -/
def Lists (state : PackIndexCacheState) (values : PackShelf) : Prop :=
  ∃ shelf, Holds state shelf ∧ mapped Prod.snd shelf = values

theorem Holds.removed (holds : Holds state shelf) (key : FrozenPackIndexKey) :
    Holds (state.remove key) (discard shelf key) := by
  unfold remove
  cases found : state.entries[key]? with
  | none =>
    rw [Weighs.discard_absent holds found]
    exact holds
  | some entry =>
    have removed := Weighs.discard holds found
    rwa [← toNat_sub] at removed

theorem remove_tick (key : FrozenPackIndexKey) : (state.remove key).tick = state.tick := by
  unfold remove
  split
  · rfl
  · rfl

theorem remove_bytes (state : PackIndexCacheState) (key : FrozenPackIndexKey) :
    (state.remove key).totalEstimatedBytes.toNat ≤ state.totalEstimatedBytes.toNat := by
  unfold remove
  split
  · exact le_refl _
  · rw [toNat_sub]
    exact Nat.sub_le _ _

theorem Holds.ticks (holds : Holds state shelf) {tick : Nat} (later : state.tick ≤ tick) :
    Holds { state with tick } shelf where
  toTracks := holds.toTracks
  ticked := fun item member => (holds.ticked item member).trans later
  total := holds.total

theorem Holds.stores (holds : Holds state shelf) (ticks : state.tick < max64) {index : FrozenPackIndex}
    (bytes : state.totalEstimatedBytes.toNat + index.estimatedBytes.toNat ≤ max64) :
    Holds (state.store index) (put shelf index.key (nextTick state.tick, index)) := by
  have later := lt_nextTick ticks
  have removed : Holds (state.remove index.key) (discard shelf index.key) := Holds.removed holds index.key
  have same : ({ state with tick := nextTick state.tick } : PackIndexCacheState).remove index.key =
      { state.remove index.key with tick := nextTick state.tick } := by
    unfold remove
    dsimp only
    split
    · rfl
    · rfl
  have smaller := remove_bytes state index.key
  have fits : (add (state.remove index.key).totalEstimatedBytes index.estimatedBytes).toNat =
      (state.remove index.key).totalEstimatedBytes.toNat + index.estimatedBytes.toNat := by
    rw [toNat_add]
    omega
  have early : (state.remove index.key).tick < nextTick state.tick := by rwa [remove_tick]
  have stored := Weighs.append removed (nextTick state.tick, index) (not_mem_discard shelf index.key) early
  unfold store
  dsimp only
  rw [same]
  rwa [← fits] at stored

theorem Holds.find_mapped (holds : Holds state shelf) (key : FrozenPackIndexKey) :
    find (mapped Prod.snd shelf) key = state.entries[key]?.map Prod.snd := by
  rw [Recency.find_mapped, Tracks.find_eq holds.toTracks]

theorem Lists.answers (lists : Lists state values) (key : FrozenPackIndexKey) :
    (state.get key).2 = find values key := by
  obtain ⟨shelf, holds, rfl⟩ := lists
  rw [Holds.find_mapped holds, get]
  cases state.entries[key]? <;> rfl

theorem Lists.gets (lists : Lists state values) (ticks : state.tick < max64) (key : FrozenPackIndexKey) :
    Lists (state.get key).1 (touch values key) := by
  obtain ⟨shelf, holds, rfl⟩ := lists
  unfold get touch
  rw [Holds.find_mapped holds]
  cases known : state.entries[key]? with
  | none => exact ⟨shelf, Holds.ticks holds (lt_nextTick ticks).le, rfl⟩
  | some entry =>
    exact ⟨put shelf key (nextTick state.tick, entry.2),
      Weighs.move holds known (lt_nextTick ticks) rfl, (put_mapped Prod.snd shelf key _).symm⟩

theorem round_follows (lists : Lists state values) :
    (round cache state).Related Lists ((packBound cache).round values) := by
  obtain ⟨shelf, holds, rfl⟩ := lists
  have count : state.entries.size = (mapped Prod.snd shelf).length := by
    rw [← Std.ExtTreeMap.length_toList, (Tracks.perm_entries holds.toTracks).length_eq, mapped,
      List.length_map]
  have bytes : state.totalEstimatedBytes.toNat = packBytes (mapped Prod.snd shelf) := by
    rw [holds.total, packBytes, mapped, List.map_map]
    rfl
  have same : state.entries.size > cache.maxPacks.toNat ∨
      state.totalEstimatedBytes > cache.maxTotalEstimatedBytes ↔
        (packBound cache).exceeded (mapped Prod.snd shelf) = true := by
    rw [count]
    change _ ∨ cache.maxTotalEstimatedBytes < state.totalEstimatedBytes ↔ _
    rw [UInt64.lt_iff_toNat_lt, bytes]
    simp [packBound]
  unfold round Bound.round
  split
  · rename_i many
    rw [same.mp many, Bool.true_and]
    have listed : valuesOf state.order = shelf.map Prod.fst := by
      rw [valuesOf, Tracks.toList_order holds.toTracks, List.map_map]
      rfl
    rw [listed]
    cases shelf with
    | nil => exact ⟨[], holds, rfl⟩
    | cons first rest =>
      refine ⟨discard (first :: rest) first.1, Holds.removed holds first.1, ?_⟩
      have fresh := (List.nodup_cons.mp (Tracks.distinct holds.toTracks)).1
      rw [Recency.discard, List.filter_cons_of_neg (by simp)]
      exact congrArg (mapped Prod.snd) (discard_eq_self fresh)
  · rename_i few
    rw [Bool.eq_false_iff.mpr fun exceeded => few (same.mpr exceeded)]
    exact ⟨shelf, holds, rfl⟩

theorem round_tick (cache : FrozenPackIndexCache) (state : PackIndexCacheState) :
    (round cache state).state.tick = state.tick := by
  unfold round
  split
  · split
    · rfl
    · exact remove_tick _
  · rfl

/-! ### Runs -/

/-- Twice the bytes of the cache are within `usize`. -/
def PackRoomy (cache : FrozenPackIndexCache) : Prop := 2 * cache.maxTotalEstimatedBytes.toNat ≤ max64

/-- The limits hold of the shelf. -/
structure PackWithin (cache : FrozenPackIndexCache) (values : PackShelf) : Prop where
  packs : values.length ≤ cache.maxPacks.toNat
  bytes : packBytes values ≤ cache.maxTotalEstimatedBytes.toNat

theorem packBound_holds (values : PackShelf) : PackWithin cache ((packBound cache).enforce values) := by
  by_cases exceeded : (packBound cache).exceeded ((packBound cache).enforce values) = true
  · have none : (packBound cache).enforce values = [] :=
      List.eq_nil_iff_forall_not_mem.mpr fun item member =>
        Bool.true_eq_false_eq_False ((packBound cache).enforce_within values exceeded item member)
    rw [none]
    exact ⟨Nat.zero_le _, Nat.zero_le _⟩
  · have within : ((packBound cache).enforce values).length ≤ cache.maxPacks.toNat ∧
        packBytes ((packBound cache).enforce values) ≤ cache.maxTotalEstimatedBytes.toNat := by
      simpa [packBound] using exceeded
    exact ⟨within.1, within.2⟩

theorem PackWithin.step (within : PackWithin cache values) (distinct : Distinct values)
    (call : Call FrozenPackIndexKey FrozenPackIndex) :
    PackWithin cache ((packPolicy cache).step values call) := by
  cases call with
  | get key =>
    rw [Policy.step_get]
    rcases Policy.touch_cases key distinct with ⟨same, _⟩ | ⟨value, member, _, moved⟩
    · rwa [same]
    · have parts : (put values key value).Perm values :=
        (List.perm_append_singleton _ _).trans (perm_discard distinct member).symm
      rw [moved]
      exact ⟨parts.length_eq.trans_le within.packs, (parts.map _).sum_nat.trans_le within.bytes⟩
  | insert key value =>
    cases admitted : (packPolicy cache).admits key value with
    | false => rwa [Policy.step_refused admitted]
    | true =>
      rw [Policy.step_admitted admitted]
      exact packBound_holds (put values key value)

theorem insert_large {index : FrozenPackIndex} (large : tooLarge cache index = true) :
    state.insert cache index = some (.error (.workLimitExceeded "max_compiled_bytes")) := if_pos large

theorem insert_small {index : FrozenPackIndex} (small : tooLarge cache index = false) :
    state.insert cache index =
      (Loop.within (round cache) ((state.store index).order.size + 1) (state.store index)).map .ok :=
  if_neg (Bool.eq_false_iff.mp small)

/-- `insert` ends, and leaves what least recently used first leaves. -/
theorem insert_follows (roomy : PackRoomy cache) (ticks : state.tick < max64)
    (within : PackWithin cache values) (lists : Lists state values) (index : FrozenPackIndex) :
    ∃ next, state.call cache (.insert index) = some next ∧ next.tick ≤ state.tick + 1 ∧
      Lists next ((packPolicy cache).step values (.insert index.key index)) := by
  have admits : (packPolicy cache).admits index.key index = !tooLarge cache index := rfl
  unfold call
  dsimp only
  cases large : tooLarge cache index with
  | true =>
    rw [large] at admits
    rw [Policy.step_refused admits, insert_large large]
    exact ⟨state, rfl, Nat.le_succ _, lists⟩
  | false =>
    rw [large] at admits
    rw [Policy.step_admitted admits]
    obtain ⟨shelf, holds, rfl⟩ := lists
    have small : index.estimatedBytes.toNat ≤ cache.maxTotalEstimatedBytes.toNat :=
      UInt64.le_iff_toNat_le.mp (UInt64.not_lt.mp (of_decide_eq_false large))
    have bytes : state.totalEstimatedBytes.toNat + index.estimatedBytes.toNat ≤ max64 := by
      have total := within.bytes
      have counted : state.totalEstimatedBytes.toNat = packBytes (mapped Prod.snd shelf) := by
        rw [holds.total, packBytes, mapped, List.map_map]
        rfl
      unfold PackRoomy at roomy
      omega
    have stored := Holds.stores holds ticks bytes
    have shown : Lists (state.store index) (put (mapped Prod.snd shelf) index.key index) :=
      ⟨_, stored, (put_mapped Prod.snd shelf index.key (nextTick state.tick, index)).symm⟩
    obtain ⟨rounds, few, ends⟩ :=
      (packBound cache).enforce_ends (put (mapped Prod.snd shelf) index.key index)
    have agree : ∀ {state values}, Lists state values →
        (round cache state).Related Lists ((packBound cache).round values) := round_follows
    obtain ⟨next, left, held⟩ := ends.follows agree shown
    have count : (state.store index).order.size =
        (put (mapped Prod.snd shelf) index.key index).length := by
      rw [Tracks.size_order stored.toTracks,
        put_mapped Prod.snd shelf index.key (nextTick state.tick, index), mapped, List.length_map]
    have tick : next.tick = (state.store index).tick := by
      refine left.invariant (P := fun s : PackIndexCacheState => s.tick = (state.store index).tick)
        (Q := fun s => s.tick = (state.store index).tick) ?_ ?_ rfl
      · intro s t same again
        rw [← same, ← round_tick cache s, again]
        rfl
      · intro s t same left
        rw [← same, ← round_tick cache s, left]
        rfl
    refine ⟨next, ?_, ?_, held⟩
    · rw [insert_small large, left.within (count ▸ few)]
      rfl
    · rw [tick]
      have stamped : (state.store index).tick = nextTick state.tick := remove_tick _
      rw [stamped]
      exact Nat.min_le_left _ _

/-- The calls end, and the state lists what least recently used first leaves. -/
theorem run_follows (roomy : PackRoomy cache) {calls : List PackCall} (few : calls.length < 2 ^ 64) :
    ∃ state, run cache calls = some state ∧ state.tick ≤ calls.length ∧
      Lists state ((packPolicy cache).run (calls.map PackCall.keyed)) ∧
      PackWithin cache ((packPolicy cache).run (calls.map PackCall.keyed)) := by
  induction calls using List.reverseRecOn with
  | nil => exact ⟨{}, rfl, le_refl _, ⟨[], .nil _ _ 0, rfl⟩, Nat.zero_le _, Nat.zero_le _⟩
  | append_singleton before last ih =>
    rw [List.length_append, List.length_singleton] at few ⊢
    obtain ⟨state, ran, ticked, lists, within⟩ := ih (Nat.lt_of_succ_lt few)
    have room : max64 = 2 ^ 64 - 1 := rfl
    have ticks : state.tick < max64 := by omega
    rw [List.map_append, List.map_singleton, Policy.run_concat]
    have later := within.step (Policy.run_distinct _ _) last.keyed
    have step : ∃ next, call cache state last = some next ∧ next.tick ≤ state.tick + 1 ∧
        Lists next ((packPolicy cache).step
          ((packPolicy cache).run (before.map PackCall.keyed)) last.keyed) := by
      cases last with
      | get key =>
        refine ⟨_, rfl, ?_, lists.gets ticks key⟩
        unfold get
        split
        · exact Nat.min_le_left _ _
        · exact Nat.min_le_left _ _
      | insert index => exact insert_follows roomy ticks within lists index
    obtain ⟨next, called, tick, listed⟩ := step
    refine ⟨next, ?_, by omega, listed, later⟩
    unfold run at ran ⊢
    rw [List.foldlM_append, ran]
    simp only [Option.bind_eq_bind, Option.bind_some, List.foldlM_cons, List.foldlM_nil, called]
    rfl

/-- The order is the inverse of the ticks, the total is that of all indexes, and both limits hold. -/
structure Consistent (cache : FrozenPackIndexCache) (state : PackIndexCacheState) : Prop where
  inverse : ∀ (tick : Nat) (key : FrozenPackIndexKey), state.order[tick]? = some key ↔
    ∃ index, state.entries[key]? = some (tick, index)
  bytes : state.totalEstimatedBytes.toNat =
    ((valuesOf state.entries).map (·.2.estimatedBytes.toNat)).sum
  packs : state.entries.size ≤ cache.maxPacks.toNat
  within : state.totalEstimatedBytes ≤ cache.maxTotalEstimatedBytes

theorem Lists.consistent (lists : Lists state values) (within : PackWithin cache values) :
    Consistent cache state := by
  obtain ⟨shelf, holds, rfl⟩ := lists
  exact {
    inverse := fun tick key => by
      rw [holds.order]
      constructor
      · rintro ⟨⟨_, index⟩, member, rfl⟩
        exact ⟨index, (holds.entries _ _).mpr member⟩
      · rintro ⟨index, stored⟩
        exact ⟨(tick, index), (holds.entries _ _).mp stored, rfl⟩
    bytes := by
      rw [holds.total_entries, valuesOf, List.map_map]
      rfl
    packs := by
      rw [← Std.ExtTreeMap.length_toList, (Tracks.perm_entries holds.toTracks).length_eq]
      have packs := within.packs
      rwa [mapped, List.length_map] at packs
    within := by
      rw [UInt64.le_iff_toNat_le, holds.total]
      have bytes := within.bytes
      rwa [packBytes, mapped, List.map_map] at bytes }

end PackIndexCacheState

namespace PackCache.Sample

/-- Two packs at a time. -/
def cache : FrozenPackIndexCache := .new 2 65536

theorem roomy : PackIndexCacheState.PackRoomy cache := by
  unfold PackIndexCacheState.PackRoomy
  decide

def index (byte : UInt8) : FrozenPackIndex where
  key := ⟨FragmentCache.Sample.digest byte, FragmentCache.Sample.digest 0, 1⟩
  literalIndex := {}
  regexSet := {}
  constantEntries := []
  metadata := ∅
  entryCount := 0

def calls : List PackIndexCacheState.PackCall :=
  [.insert (index 1), .insert (index 2), .get (index 1).key, .insert (index 3)]

end PackCache.Sample

open PackIndexCacheState

/-- No call of the cache of packs hangs. After any calls its parts agree, and it answers with the
index that was inserted last under the key where that is among those it has kept, which are listed in
the order of their last use. -/
theorem pack_cache_recent {cache : FrozenPackIndexCache} (calls : List PackCall)
    (roomy : PackRoomy cache) (few : calls.length < 2 ^ 64) :
    ∃ state, run cache calls = some state ∧ Consistent cache state ∧
      (∀ key, (state.get key).2 = find ((packPolicy cache).run (calls.map PackCall.keyed)) key) ∧
      (valuesOf state.order).Sublist
        (((calls.map PackCall.keyed).filter (packPolicy cache).uses).map Call.key).dedup ∧
      ∀ key index, (state.get key).2 = some index → index.key = key ∧
        (packPolicy cache).latest key (calls.map PackCall.keyed) = some index := by
  obtain ⟨state, ran, _, lists, within⟩ := run_follows roomy few
  refine ⟨state, ran, lists.consistent within, lists.answers, ?_, fun key index answered => ?_⟩
  · have recent := Policy.run_recent (packPolicy cache) (calls.map PackCall.keyed)
    obtain ⟨shelf, holds, same⟩ := lists
    have listed : valuesOf state.order =
        ((packPolicy cache).run (calls.map PackCall.keyed)).map Prod.fst := by
      rw [valuesOf, Tracks.toList_order holds.toTracks, ← same, keys_mapped, List.map_map]
      rfl
    rwa [listed]
  · rw [lists.answers, find_eq_some (Policy.run_distinct _ _)] at answered
    have latest := Policy.run_latest answered
    refine ⟨?_, latest⟩
    obtain ⟨call, member, same⟩ := List.mem_map.mp (Policy.mem_of_latest latest)
    cases call with
    | get other => cases same
    | insert other =>
      cases same
      rfl

theorem PackCache.Sample.packs_recent :
    ∃ state, run Sample.cache Sample.calls = some state ∧ Consistent Sample.cache state := by
  obtain ⟨state, ran, consistent, _⟩ := pack_cache_recent Sample.calls Sample.roomy (by decide)
  exact ⟨state, ran, consistent⟩

end Aise.Domain
