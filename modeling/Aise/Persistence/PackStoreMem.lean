import Aise.Persistence.Error
import Aise.Lib.OrdMap
import Aise.Lib.Transition
import Aise.Lib.Lease

/-! The in-memory pack store: one snapshot per digest, shared by the stories that
hold it. The two maps and the holder sets are compared with a ledger of leases,
which knows nothing of digests, sets or capacity. -/
namespace Aise

structure Snapshot where
  packRef : PackRef
  value : StoryPack
  holders : Std.ExtTreeSet StoryId

structure StorySnapshots where
  packs : BTreeMap .digest Snapshot := ∅
  holders : BTreeMap .story Sha256Digest := ∅

structure PackStoreMem where
  snapshots : StorySnapshots := {}
  config : PackStoreConfig := {}

namespace StorySnapshots

/-- `packs.entry(digest).or_insert_with(..)`. -/
def entry (state : StorySnapshots) (snapshot : StoryPackSnapshot) : Snapshot :=
  match state.packs[snapshot.packRef.digest]? with
  | some existing => existing
  | none => { packRef := snapshot.packRef, value := snapshot.pack, holders := ∅ }

def retain (storyId : StoryId) (snapshot : StoryPackSnapshot) (config : PackStoreConfig) :
    StoreM StorySnapshots Unit := do
  let state ← get
  if state.holders.contains storyId then throw (.storyHolderAlreadyExists storyId)
  let digest := snapshot.packRef.digest
  if !state.packs.contains digest && state.packs.size ≥ config.maxPacks then
    throw (.packCapacityExceeded (saturatingAdd state.packs.size 1) config.maxPacks)
  if state.packs[digest]?.any (·.packRef ≠ snapshot.packRef) then
    throw (.invalidPackReference snapshot.packRef)
  let entry := state.entry snapshot
  let entry := { entry with holders := entry.holders.insert storyId }
  modify fun state => { state with packs := state.packs.insert digest entry }
  modify fun state => { state with holders := state.holders.insert storyId digest }

def release (storyId : StoryId) : StoreM StorySnapshots Unit := do
  let state ← get
  let some digest := state.holders[storyId]? | return
  modify fun state => { state with holders := state.holders.erase storyId }
  let some snapshot := state.packs[digest]? | return
  let snapshot := { snapshot with holders := snapshot.holders.erase storyId }
  modify fun state => { state with packs := state.packs.insert digest snapshot }
  if snapshot.holders.isEmpty then
    modify fun state => { state with packs := state.packs.erase digest }

def get (state : StorySnapshots) (packRef : PackRef) : Except PersistenceError StoryPack :=
  match state.packs[packRef.digest]? with
  | none => .error .notFound
  | some snapshot =>
    if snapshot.packRef ≠ packRef then .error (.invalidPackReference packRef)
    else .ok snapshot.value

/-- The state a successful `retain` leaves. -/
def retained (state : StorySnapshots) (storyId : StoryId) (snapshot : StoryPackSnapshot) :
    StorySnapshots where
  packs := state.packs.insert snapshot.packRef.digest
    { state.entry snapshot with holders := (state.entry snapshot).holders.insert storyId }
  holders := state.holders.insert storyId snapshot.packRef.digest

/-- What `retain` asks before it writes. -/
structure Admits (state : StorySnapshots) (config : PackStoreConfig) (storyId : StoryId)
    (snapshot : StoryPackSnapshot) : Prop where
  fresh : state.holders[storyId]? = none
  room : state.packs[snapshot.packRef.digest]? = none → state.packs.size < config.maxPacks
  same : ∀ existing, state.packs[snapshot.packRef.digest]? = some existing →
    existing.packRef = snapshot.packRef

/-- `retain` writes everything or nothing. -/
theorem retain_cases (storyId : StoryId) (snapshot : StoryPackSnapshot) (config : PackStoreConfig)
    (state : StorySnapshots) :
    (∃ error, (retain storyId snapshot config).call state = (.error error, state)) ∨
    (state.Admits config storyId snapshot ∧
      (retain storyId snapshot config).call state = (.ok (), state.retained storyId snapshot)) := by
  by_cases held : state.holders.contains storyId
  · refine .inl ⟨.storyHolderAlreadyExists storyId, ?_⟩
    simp only [retain, StoreM.call_bind, StoreM.call_get, held, if_true, StoreM.call_throw]
  by_cases full : (!state.packs.contains snapshot.packRef.digest &&
      decide (state.packs.size ≥ config.maxPacks)) = true
  · refine .inl ⟨.packCapacityExceeded (saturatingAdd state.packs.size 1) config.maxPacks, ?_⟩
    simp only [retain, StoreM.call_bind, StoreM.call_get, held, full, if_true]
    rfl
  by_cases other : state.packs[snapshot.packRef.digest]?.any (·.packRef ≠ snapshot.packRef) = true
  · refine .inl ⟨.invalidPackReference snapshot.packRef, ?_⟩
    simp only [retain, StoreM.call_bind, StoreM.call_get, held, full, other, if_true]
    rfl
  refine .inr ⟨⟨?_, ?_, ?_⟩, ?_⟩
  · simpa using held
  · intro absent
    simpa [Std.ExtTreeMap.contains_eq_isSome_getElem?, absent] using full
  · intro existing found
    simpa [found] using other
  · simp only [retain, StoreM.call_bind, StoreM.call_get, held, full, other]
    rfl

/-- The state `release` leaves when it finds the story and its snapshot. -/
def released (state : StorySnapshots) (storyId : StoryId) (digest : Sha256Digest)
    (snapshot : Snapshot) : StorySnapshots where
  packs :=
    let packs := state.packs.insert digest
      { snapshot with holders := snapshot.holders.erase storyId }
    if (snapshot.holders.erase storyId).isEmpty then packs.erase digest else packs
  holders := state.holders.erase storyId

theorem release_absent {state : StorySnapshots} (absent : state.holders[storyId]? = none) :
    (release storyId).call state = (.ok (), state) := by
  simp only [release, StoreM.call_bind, StoreM.call_get, absent, StoreM.call_pure]

theorem release_found {state : StorySnapshots} (held : state.holders[storyId]? = some digest)
    (found : state.packs[digest]? = some snapshot) :
    (release storyId).call state = (.ok (), state.released storyId digest snapshot) := by
  simp only [release, StoreM.call_bind, StoreM.call_get, held, StoreM.call_modify, found, released]
  split <;> rfl

theorem released_packs (state : StorySnapshots) (storyId : StoryId) (digest other : Sha256Digest)
    (snapshot : Snapshot) : (state.released storyId digest snapshot).packs[other]? =
      if digest = other then
        if (snapshot.holders.erase storyId).isEmpty then none
        else some { snapshot with holders := snapshot.holders.erase storyId }
      else state.packs[other]? := by
  unfold released
  dsimp only
  by_cases same : digest = other
  · split <;> simp [same]
  · split <;> simp [OrdMap.get_erase, OrdMap.get_insert, same]

/-- The state shows the ledger: digests for references, holder sets for leases. -/
structure Counted (maximum : Nat) (ledger : Lease.Ledger StoryId PackRef StoryPack)
    (state : StorySnapshots) : Prop where
  held : ∀ storyId : StoryId, state.holders[storyId]? = (ledger.held storyId).map (·.digest)
  digest : ∀ (digest : Sha256Digest) (snapshot : Snapshot), state.packs[digest]? = some snapshot →
    snapshot.packRef.digest = digest
  shared : ∀ (digest : Sha256Digest) (snapshot : Snapshot), state.packs[digest]? = some snapshot →
    ∀ storyId, storyId ∈ snapshot.holders ↔ ledger.held storyId = some snapshot.packRef
  live : ∀ (digest : Sha256Digest) (snapshot : Snapshot), state.packs[digest]? = some snapshot →
    ledger.Live snapshot.packRef
  original : ∀ (digest : Sha256Digest) (snapshot : Snapshot),
    state.packs[digest]? = some snapshot →
    ledger.original snapshot.packRef = some snapshot.value
  kept : ∀ storyId packRef, ledger.held storyId = some packRef →
    ∃ snapshot, state.packs[packRef.digest]? = some snapshot ∧ snapshot.packRef = packRef
  capacity : state.packs.size ≤ maximum

theorem Counted.empty (maximum : Nat) : Counted maximum .empty {} where
  held := by simp [Lease.Ledger.empty]
  digest := by simp
  shared := by simp
  live := by simp
  original := by simp
  kept := by simp [Lease.Ledger.empty]
  capacity := by simp

section Retain
variable {ledger : Lease.Ledger StoryId PackRef StoryPack} {state : StorySnapshots}
  {config : PackStoreConfig} {storyId : StoryId} {snapshot : StoryPackSnapshot}

/-- The snapshot a retained pack joins or opens: what `Counted` says of it. -/
theorem Counted.entry (counted : Counted config.maxPacks ledger state)
    (admits : state.Admits config storyId snapshot) :
    (state.entry snapshot).packRef = snapshot.packRef ∧
    (∀ other, other ∈ (state.entry snapshot).holders ↔
      ledger.held other = some snapshot.packRef) ∧
    (ledger.retain storyId snapshot.packRef snapshot.pack).original snapshot.packRef =
      some (state.entry snapshot).value := by
  unfold StorySnapshots.entry
  cases found : state.packs[snapshot.packRef.digest]? with
  | some existing =>
    have same := admits.same existing found
    have live := counted.live _ existing found
    have shared := counted.shared _ existing found
    have original := counted.original _ existing found
    rw [same] at live shared original
    exact ⟨same, shared, (congrFun (Lease.Ledger.original_retain_live live _ _) _).trans original⟩
  | none =>
    have unheld : ∀ other, ledger.held other ≠ some snapshot.packRef := by
      intro other held
      obtain ⟨_, stored, _⟩ := counted.kept other _ held
      simp [found] at stored
    refine ⟨rfl, ?_, ?_⟩
    · intro other
      simp [unheld other]
    · rw [Lease.Ledger.original_retain_new (fun ⟨other, held⟩ => unheld other held), if_pos rfl]

/-- A snapshot stored after retaining is the one retained, with the story among its
holders, or one that stood before under another reference. -/
theorem Counted.retained_stored {digest : Sha256Digest} {after : Snapshot}
    (counted : Counted config.maxPacks ledger state)
    (stored : (state.retained storyId snapshot).packs[digest]? = some after) :
    (snapshot.packRef.digest = digest ∧ after = { state.entry snapshot with
      holders := (state.entry snapshot).holders.insert storyId }) ∨
    (snapshot.packRef ≠ after.packRef ∧ state.packs[digest]? = some after) := by
  simp only [StorySnapshots.retained, OrdMap.get_insert] at stored
  split at stored
  · rename_i same
    exact .inl ⟨same, (Option.some.inj stored).symm⟩
  · rename_i different
    refine .inr ⟨fun same => ?_, stored⟩
    exact different ((congrArg PackRef.digest same).trans (counted.digest digest after stored))

theorem Counted.retained_capacity (counted : Counted config.maxPacks ledger state)
    (admits : state.Admits config storyId snapshot) :
    (state.retained storyId snapshot).packs.size ≤ config.maxPacks := by
  rw [StorySnapshots.retained]
  cases found : state.packs[snapshot.packRef.digest]? with
  | none =>
    have room := admits.room found
    rw [OrdMap.size_insert_fresh found]
    exact room
  | some existing =>
    rw [OrdMap.size_insert_known found]
    exact counted.capacity

theorem Counted.retained (counted : Counted config.maxPacks ledger state)
    (admits : state.Admits config storyId snapshot) :
    Counted config.maxPacks (ledger.retain storyId snapshot.packRef snapshot.pack)
      (state.retained storyId snapshot) := by
  obtain ⟨entryRef, entryHolders, entryValue⟩ := counted.entry admits
  have fresh : ledger.held storyId = none := by
    simpa [counted.held storyId] using admits.fresh
  refine ⟨?_, ?_, ?_, ?_, ?_, ?_, counted.retained_capacity admits⟩
  · intro other
    simp only [StorySnapshots.retained, OrdMap.get_insert, Lease.Ledger.held_retain]
    split
    · rfl
    · exact counted.held other
  · intro digest existing stored
    rcases counted.retained_stored stored with ⟨same, rfl⟩ | ⟨_, stood⟩
    · exact (congrArg PackRef.digest entryRef).trans same
    · exact counted.digest digest existing stood
  · intro digest existing stored other
    rw [Lease.Ledger.held_retain]
    rcases counted.retained_stored stored with ⟨_, rfl⟩ | ⟨apart, stood⟩
    · simp only [entryRef, OrdMap.set_mem_insert, entryHolders]
      by_cases own : storyId = other
      · simp [own]
      · simp [own]
    · rw [counted.shared digest existing stood]
      by_cases own : storyId = other
      · subst own
        simp [fresh, apart]
      · simp [own]
  · intro digest existing stored
    rcases counted.retained_stored stored with ⟨_, rfl⟩ | ⟨_, stood⟩
    · exact ⟨storyId, by rw [Lease.Ledger.held_retain, if_pos rfl, entryRef]⟩
    · obtain ⟨other, held⟩ := counted.live digest existing stood
      refine ⟨other, ?_⟩
      rw [Lease.Ledger.held_retain, if_neg, held]
      rintro rfl
      simp [fresh] at held
  · intro digest existing stored
    rcases counted.retained_stored stored with ⟨_, rfl⟩ | ⟨apart, stood⟩
    · simp only [entryRef, entryValue]
    · rw [Lease.Ledger.original_retain_other apart]
      exact counted.original digest existing stood
  · intro other packRef held
    simp only [StorySnapshots.retained, OrdMap.get_insert]
    rw [Lease.Ledger.held_retain] at held
    split at held
    · cases held
      exact ⟨_, if_pos rfl, entryRef⟩
    · obtain ⟨existing, stood, same⟩ := counted.kept other packRef held
      by_cases shares : snapshot.packRef.digest = packRef.digest
      · refine ⟨_, if_pos shares, ?_⟩
        rw [← shares] at stood
        exact entryRef.trans ((admits.same existing stood).symm.trans same)
      · exact ⟨existing, (if_neg shares).trans stood, same⟩

end Retain

section Release
variable {ledger : Lease.Ledger StoryId PackRef StoryPack} {state : StorySnapshots}
  {storyId : StoryId} {snapshot : Snapshot} {digest : Sha256Digest} {left : Snapshot}

/-- A snapshot that survives a release is one that was stored, with one holder less. -/
theorem Counted.released_stored (counted : Counted maximum ledger state)
    (found : state.packs[snapshot.packRef.digest]? = some snapshot)
    (held : ledger.held storyId = some snapshot.packRef)
    (stored : (state.released storyId snapshot.packRef.digest snapshot).packs[digest]? =
      some left) :
    ∃ old : Snapshot, state.packs[digest]? = some old ∧ left.packRef = old.packRef ∧
      left.value = old.value ∧
      (∀ other, other ∈ left.holders ↔ storyId ≠ other ∧ other ∈ old.holders) ∧
      ∃ other, other ∈ left.holders := by
  rw [released_packs] at stored
  split at stored
  · rename_i same
    split at stored
    · contradiction
    · rename_i occupied
      cases stored
      refine ⟨snapshot, same ▸ found, rfl, rfl, fun other => OrdMap.set_mem_erase _ _, ?_⟩
      rw [Std.ExtTreeSet.isEmpty_iff, Std.ExtTreeSet.eq_empty_iff_forall_not_mem] at occupied
      simpa using occupied
  · rename_i different
    refine ⟨left, stored, rfl, rfl, ?_, ?_⟩
    · intro other
      refine ⟨fun member => ⟨?_, member⟩, And.right⟩
      rintro rfl
      have same := (counted.shared digest left stored storyId).mp member
      rw [held] at same
      exact different ((congrArg PackRef.digest (Option.some.inj same)).trans
        (counted.digest digest left stored))
    · obtain ⟨other, holds⟩ := counted.live digest left stored
      exact ⟨other, (counted.shared digest left stored other).mpr holds⟩

theorem Counted.released (counted : Counted maximum ledger state)
    (found : state.packs[snapshot.packRef.digest]? = some snapshot)
    (held : ledger.held storyId = some snapshot.packRef) :
    Counted maximum (ledger.release storyId)
      (state.released storyId snapshot.packRef.digest snapshot) := by
  have shared : ∀ (digest : Sha256Digest) (left : Snapshot),
      (state.released storyId snapshot.packRef.digest snapshot).packs[digest]? = some left →
      ∀ other, other ∈ left.holders ↔ (ledger.release storyId).held other = some left.packRef := by
    intro digest left stored other
    obtain ⟨old, stood, sameRef, _, holders, _⟩ := counted.released_stored found held stored
    rw [holders, Lease.Ledger.held_release, sameRef, counted.shared digest old stood]
    by_cases own : storyId = other
    · simp [own]
    · simp [own]
  refine ⟨?_, ?_, shared, ?_, ?_, ?_, ?_⟩
  · intro other
    simp only [StorySnapshots.released, OrdMap.get_erase, Lease.Ledger.held_release]
    split
    · rfl
    · exact counted.held other
  · intro digest left stored
    obtain ⟨old, stood, sameRef, _⟩ := counted.released_stored found held stored
    rw [sameRef]
    exact counted.digest digest old stood
  · intro digest left stored
    obtain ⟨_, _, _, _, _, other, member⟩ := counted.released_stored found held stored
    exact ⟨other, (shared digest left stored other).mp member⟩
  · intro digest left stored
    obtain ⟨old, stood, sameRef, sameValue, _⟩ := counted.released_stored found held stored
    rw [sameRef, sameValue]
    exact counted.original digest old stood
  · intro other packRef holds
    rw [Lease.Ledger.held_release] at holds
    split at holds
    · contradiction
    · rename_i different
      obtain ⟨old, stood, same⟩ := counted.kept other packRef holds
      rw [released_packs]
      by_cases shares : snapshot.packRef.digest = packRef.digest
      · rw [if_pos shares]
        have equal : old = snapshot := Option.some.inj (stood.symm.trans (shares ▸ found))
        subst equal
        have member : other ∈ old.holders.erase storyId :=
          (OrdMap.set_mem_erase _ _).mpr
            ⟨different, (counted.shared _ old found other).mpr (same ▸ holds)⟩
        rw [if_neg]
        · exact ⟨_, rfl, same⟩
        · rw [Std.ExtTreeSet.isEmpty_iff]
          intro empty
          rw [empty] at member
          exact Std.ExtTreeSet.not_mem_empty member
      · exact ⟨old, (if_neg shares).trans stood, same⟩
  · have inserted := OrdMap.size_insert_known found
      { snapshot with holders := snapshot.holders.erase storyId }
    unfold StorySnapshots.released
    dsimp only
    split
    · exact (Std.ExtTreeMap.size_erase_le.trans_eq inserted).trans counted.capacity
    · exact inserted.trans_le counted.capacity

/-- Releasing follows the ledger, whether or not the story held anything. -/
theorem Counted.release (counted : Counted maximum ledger state) (storyId : StoryId) :
    ∃ after, (release storyId).call state = (.ok (), after) ∧
      Counted maximum (ledger.release storyId) after := by
  cases holds : ledger.held storyId with
  | none =>
    have absent : state.holders[storyId]? = none := by rw [counted.held, holds, Option.map_none]
    refine ⟨state, release_absent absent, ?_⟩
    have same : ledger.release storyId = ledger := by
      simp only [Lease.Ledger.release, ← holds, Function.update_eq_self]
    rwa [same]
  | some packRef =>
    obtain ⟨snapshot, found, rfl⟩ := counted.kept storyId packRef holds
    have digest : state.holders[storyId]? = some snapshot.packRef.digest := by
      rw [counted.held, holds, Option.map_some]
    exact ⟨_, release_found digest found, counted.released found holds⟩

end Release

section Read
variable {ledger : Lease.Ledger StoryId PackRef StoryPack} {state : StorySnapshots}

theorem Counted.inverse (counted : Counted maximum ledger state) (storyId : StoryId)
    (digest : Sha256Digest) : state.holders[storyId]? = some digest ↔
      ∃ snapshot, state.packs[digest]? = some snapshot ∧ storyId ∈ snapshot.holders := by
  rw [counted.held, Option.map_eq_some_iff]
  constructor
  · rintro ⟨packRef, holds, rfl⟩
    obtain ⟨snapshot, found, rfl⟩ := counted.kept storyId packRef holds
    exact ⟨snapshot, found, (counted.shared _ snapshot found storyId).mpr holds⟩
  · rintro ⟨snapshot, found, member⟩
    exact ⟨snapshot.packRef, (counted.shared digest snapshot found storyId).mp member,
      counted.digest digest snapshot found⟩

theorem Counted.get_ok_iff (counted : Counted maximum ledger state) (packRef : PackRef)
    (pack : StoryPack) : state.get packRef = .ok pack ↔
      ledger.Live packRef ∧ ledger.original packRef = some pack := by
  unfold StorySnapshots.get
  constructor
  · intro got
    cases found : state.packs[packRef.digest]? with
    | none => simp [found] at got
    | some snapshot =>
      simp only [found] at got
      split at got
      · contradiction
      · rename_i same
        obtain rfl := not_not.mp same
        cases got
        exact ⟨counted.live _ snapshot found, counted.original _ snapshot found⟩
  · rintro ⟨⟨storyId, holds⟩, original⟩
    obtain ⟨snapshot, found, rfl⟩ := counted.kept storyId packRef holds
    have value := (counted.original _ snapshot found).symm.trans original
    simp only [found, ne_eq, not_true_eq_false, if_false, Option.some.inj value]

end Read
end StorySnapshots

namespace PackStoreMem

def withConfig (config : PackStoreConfig) : PackStoreMem := { config }

/-- `snapshots.write().await.retain(..)`. -/
def retain (storyId : StoryId) (snapshot : StoryPackSnapshot) : StoreM PackStoreMem Unit := do
  let store ← get
  let (result, snapshots) :=
    (StorySnapshots.retain storyId snapshot store.config).call store.snapshots
  set { store with snapshots }
  MonadExcept.ofExcept result

def release (storyId : StoryId) : StoreM PackStoreMem Unit := do
  let store ← get
  let (_, snapshots) := (StorySnapshots.release storyId).call store.snapshots
  set { store with snapshots }

def getPack (store : PackStoreMem) (packRef : PackRef) : Except PersistenceError StoryPack :=
  store.snapshots.get packRef

theorem retain_call (storyId : StoryId) (snapshot : StoryPackSnapshot) (store : PackStoreMem) :
    (retain storyId snapshot).call store =
      (((StorySnapshots.retain storyId snapshot store.config).call store.snapshots).1,
        { store with snapshots :=
          ((StorySnapshots.retain storyId snapshot store.config).call store.snapshots).2 }) := by
  simp only [retain, StoreM.call_bind, StoreM.call_get, StoreM.call_set, StoreM.call_ofExcept]

theorem release_call (storyId : StoryId) (store : PackStoreMem) :
    (release storyId).call store =
      (.ok (), { store with snapshots :=
        ((StorySnapshots.release storyId).call store.snapshots).2 }) := rfl

abbrev PackLedger := Lease.Ledger StoryId PackRef StoryPack

/-- One call, and what it means for the leases: a successful `retain` grants one, a
`release` ends the story's lease, everything else grants and ends nothing. -/
inductive Step : PackStoreMem × PackLedger → PackStoreMem × PackLedger → Prop where
  | retained (granted : (retain storyId snapshot).call store = (.ok (), after)) :
      Step (store, ledger) (after, ledger.retain storyId snapshot.packRef snapshot.pack)
  | refused (failed : (retain storyId snapshot).call store = (.error error, after)) :
      Step (store, ledger) (after, ledger)
  | released (storyId : StoryId) :
      Step (store, ledger) (((release storyId).call store).2, ledger.release storyId)
  | got (packRef : PackRef) : Step (store, ledger) (store, ledger)

/-- The stores some sequence of calls leads to, with the leases it granted and ended. -/
def Reachable (config : PackStoreConfig) (store : PackStoreMem) (ledger : PackLedger) : Prop :=
  Transition.Reaches Step (withConfig config, .empty) (store, ledger)

section Sound
variable {config : PackStoreConfig} {store after : PackStoreMem} {ledger : PackLedger}

def Sound (config : PackStoreConfig) (state : PackStoreMem × PackLedger) : Prop :=
  state.1.config = config ∧ state.1.snapshots.Counted config.maxPacks state.2

theorem retain_error (failed : (retain storyId snapshot).call store = (.error error, after)) :
    after = store := by
  rw [retain_call] at failed
  rcases StorySnapshots.retain_cases storyId snapshot store.config store.snapshots with
    ⟨_, refused⟩ | ⟨_, granted⟩
  · rw [refused] at failed
    exact (Prod.mk.inj failed).2.symm
  · rw [granted] at failed
    cases (Prod.mk.inj failed).1

theorem Sound.retained (sound : Sound config (store, ledger))
    (granted : (retain storyId snapshot).call store = (.ok (), after)) :
    Sound config (after, ledger.retain storyId snapshot.packRef snapshot.pack) := by
  obtain ⟨rfl, counted⟩ := sound
  rw [retain_call] at granted
  rcases StorySnapshots.retain_cases storyId snapshot store.config store.snapshots with
    ⟨_, refused⟩ | ⟨admits, call⟩
  · rw [refused] at granted
    cases (Prod.mk.inj granted).1
  · rw [call] at granted
    cases (Prod.mk.inj granted).2
    exact ⟨rfl, counted.retained admits⟩

theorem Sound.released (sound : Sound config (store, ledger)) (storyId : StoryId) :
    Sound config (((release storyId).call store).2, ledger.release storyId) := by
  obtain ⟨configured, counted⟩ := sound
  obtain ⟨after, call, counted⟩ := counted.release storyId
  rw [release_call, call]
  exact ⟨configured, counted⟩

theorem Sound.step {state next : PackStoreMem × PackLedger} (sound : Sound config state)
    (step : Step state next) : Sound config next := by
  cases step with
  | retained granted => exact sound.retained granted
  | refused failed => rwa [retain_error failed]
  | released storyId => exact sound.released storyId
  | got => exact sound

theorem Reachable.sound (reachable : Reachable config store ledger) :
    Sound config (store, ledger) :=
  Transition.invariant Sound.step reachable ⟨rfl, .empty _⟩

/-- Snapshots are counted correctly after any calls: the maps are inverse, nothing is
kept without a holder or beyond the capacity, and a reference answers with the pack
it was first retained with exactly while someone holds it. -/
theorem snapshots_reference_counted (reachable : Reachable config store ledger) :
    (∀ (storyId : StoryId) (digest : Sha256Digest),
      store.snapshots.holders[storyId]? = some digest ↔
      ∃ snapshot, store.snapshots.packs[digest]? = some snapshot ∧ storyId ∈ snapshot.holders) ∧
    (∀ (digest : Sha256Digest) (snapshot : Snapshot),
      store.snapshots.packs[digest]? = some snapshot → snapshot.holders.isEmpty = false) ∧
    store.snapshots.packs.size ≤ config.maxPacks ∧
    (∀ (storyId : StoryId) (snapshot : StoryPackSnapshot) (error : PersistenceError)
      (after : PackStoreMem),
      (retain storyId snapshot).call store = (.error error, after) → after = store) ∧
    (∀ (packRef : PackRef) (pack : StoryPack), store.getPack packRef = .ok pack ↔
      (∃ storyId, ledger.held storyId = some packRef) ∧ ledger.original packRef = some pack) := by
  obtain ⟨_, counted⟩ := reachable.sound
  refine ⟨counted.inverse, ?_, counted.capacity, ?_, counted.get_ok_iff⟩
  · intro digest snapshot found
    obtain ⟨storyId, holds⟩ := counted.live digest snapshot found
    have member := (counted.shared digest snapshot found storyId).mpr holds
    rw [Std.ExtTreeSet.isEmpty_eq_false_iff]
    intro empty
    rw [empty] at member
    exact Std.ExtTreeSet.not_mem_empty member
  · intro storyId snapshot error after failed
    exact retain_error failed

theorem Reachable.retained (reachable : Reachable config store ledger)
    (granted : ((retain storyId snapshot).call store).1 = .ok ()) :
    Reachable config ((retain storyId snapshot).call store).2
      (ledger.retain storyId snapshot.packRef snapshot.pack) :=
  reachable.tail (.retained (Prod.ext granted rfl))

end Sound
end PackStoreMem

namespace Sample

def otherStoryId : StoryId := ⟨"story-2", by decide⟩

def lent : PackStoreMem := ((PackStoreMem.retain storyId ⟨packRef, pack⟩).call {}).2
def shared : PackStoreMem := ((PackStoreMem.retain otherStoryId ⟨packRef, pack⟩).call lent).2
def returned : PackStoreMem := ((PackStoreMem.release storyId).call shared).2

end Sample

namespace PackStoreMem

theorem snapshots_reference_counted_sample :
    Sample.returned.getPack Sample.packRef = .ok Sample.pack := by
  let first : PackLedger := Lease.Ledger.empty.retain Sample.storyId Sample.packRef Sample.pack
  let second : PackLedger := first.retain Sample.otherStoryId Sample.packRef Sample.pack
  have lent : Reachable {} Sample.lent first :=
    Reachable.retained (.refl : Reachable {} {} .empty) (by decide)
  have shared : Reachable {} Sample.shared second := lent.retained (by decide)
  have returned : Reachable {} Sample.returned (second.release Sample.storyId) :=
    shared.tail (.released Sample.storyId)
  have live : first.Live Sample.packRef :=
    ⟨Sample.storyId, by rw [Lease.Ledger.held_retain, if_pos rfl]⟩
  have new : ¬ Lease.Ledger.Live (.empty : PackLedger) Sample.packRef := by
    rintro ⟨_, held⟩
    contradiction
  refine ((snapshots_reference_counted returned).2.2.2.2 Sample.packRef Sample.pack).mpr ⟨?_, ?_⟩
  · refine ⟨Sample.otherStoryId, ?_⟩
    rw [Lease.Ledger.held_release, if_neg (by decide), Lease.Ledger.held_retain, if_pos rfl]
  · change second.original Sample.packRef = some Sample.pack
    rw [Lease.Ledger.original_retain_live live, Lease.Ledger.original_retain_new new, if_pos rfl]

end PackStoreMem
end Aise
