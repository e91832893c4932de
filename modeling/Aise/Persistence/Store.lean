import Aise.Persistence.History
import Aise.Persistence.PackStoreMem
import Mathlib.Data.Set.Insert

/-! The two stores together. `create_story` and `remove_story` make several store
calls, each under its own lock; any number of them may be interleaved call by call.
A call in flight is the rest of its code, and a world is the stores, the calls in
flight and the ids spent so far. -/
namespace Aise

structure Store where
  storyStore : StoryStoreMem := {}
  packStore : PackStoreMem := {}

namespace Store

/-- A call on one of the two stores. -/
def onStories (action : StoreM StoryStoreMem α) : StoreM Store α := do
  let store ← get
  let (result, storyStore) := action.call store.storyStore
  set { store with storyStore }
  MonadExcept.ofExcept result

def onPacks (action : StoreM PackStoreMem α) : StoreM Store α := do
  let store ← get
  let (result, packStore) := action.call store.packStore
  set { store with packStore }
  MonadExcept.ofExcept result

def createStory (now : DateTime) (bundle : StoryCreateBundle) : StoreM Store StoryInstanceInfo := do
  let storyId := bundle.instanceSpec.storyId
  onPacks (PackStoreMem.retain storyId bundle.snapshot)
  try
    onStories (StoryStoreMem.create now bundle.instanceSpec)
  catch createSource =>
    try
      onPacks (PackStoreMem.release storyId)
    catch cleanupSource =>
      throw (.createCompensationFailed storyId createSource cleanupSource)
    throw createSource

def removeStory (storyId : StoryId) : StoreM Store Unit := do
  try
    onStories (StoryStoreMem.remove storyId)
  catch error =>
    if error ≠ .notFound then throw error
  onPacks (PackStoreMem.release storyId)

end Store

/-- What is left to do of a call in flight, from one store call to the next. -/
inductive StoreCall where
  | retaining (bundle : StoryCreateBundle)
  | creating (bundle : StoryCreateBundle)
  | compensating (storyId : StoryId) (createSource : PersistenceError)
  | removing (storyId : StoryId)
  | releasing (storyId : StoryId)

inductive CallResult where
  | created (result : Except PersistenceError StoryInstanceInfo)
  | removed (result : Except PersistenceError Unit)

inductive Progress where
  | running (next : StoreCall)
  | finished (result : CallResult)

/-- The next store call of a call in flight. -/
def StoreCall.advance (now : DateTime) : StoreCall → Store → Progress × Store
  | .retaining bundle, store =>
    match (PackStoreMem.retain bundle.instanceSpec.storyId bundle.snapshot).call store.packStore with
    | (.ok _, packStore) => (.running (.creating bundle), { store with packStore })
    | (.error error, packStore) => (.finished (.created (.error error)), { store with packStore })
  | .creating bundle, store =>
    match (StoryStoreMem.create now bundle.instanceSpec).call store.storyStore with
    | (.ok info, storyStore) => (.finished (.created (.ok info)), { store with storyStore })
    | (.error createSource, storyStore) =>
      (.running (.compensating bundle.instanceSpec.storyId createSource), { store with storyStore })
  | .compensating storyId createSource, store =>
    match (PackStoreMem.release storyId).call store.packStore with
    | (.ok _, packStore) => (.finished (.created (.error createSource)), { store with packStore })
    | (.error cleanupSource, packStore) =>
      (.finished (.created (.error
        (.createCompensationFailed storyId createSource cleanupSource))), { store with packStore })
  | .removing storyId, store =>
    match (StoryStoreMem.remove storyId).call store.storyStore with
    | (.ok _, storyStore) => (.running (.releasing storyId), { store with storyStore })
    | (.error .notFound, storyStore) => (.running (.releasing storyId), { store with storyStore })
    | (.error error, storyStore) => (.finished (.removed (.error error)), { store with storyStore })
  | .releasing storyId, store =>
    match (PackStoreMem.release storyId).call store.packStore with
    | (.ok _, packStore) => (.finished (.removed (.ok ())), { store with packStore })
    | (.error error, packStore) => (.finished (.removed (.error error)), { store with packStore })

/-- Running a call to its end with nothing in between. -/
def StoreCall.drive (now : DateTime) : Nat → StoreCall → Store → Option (CallResult × Store)
  | 0, _, _ => none
  | fuel + 1, call, store =>
    match call.advance now store with
    | (.finished result, store) => some (result, store)
    | (.running next, store) => next.drive now fuel store

theorem onStories_call (action : StoreM StoryStoreMem α) (store : Store) :
    (Store.onStories action).call store = ((action.call store.storyStore).1,
      { store with storyStore := (action.call store.storyStore).2 }) := by
  simp only [Store.onStories, StoreM.call_bind, StoreM.call_get, StoreM.call_set,
    StoreM.call_ofExcept]

theorem onPacks_call (action : StoreM PackStoreMem α) (store : Store) :
    (Store.onPacks action).call store = ((action.call store.packStore).1,
      { store with packStore := (action.call store.packStore).2 }) := by
  simp only [Store.onPacks, StoreM.call_bind, StoreM.call_get, StoreM.call_set,
    StoreM.call_ofExcept]

/-- The code of `create_story` is its calls in flight, run without interruption. -/
theorem drive_createStory (now : DateTime) (bundle : StoryCreateBundle) (store : Store) :
    (StoreCall.retaining bundle).drive now 3 store =
      some (.created ((Store.createStory now bundle).call store).1,
        ((Store.createStory now bundle).call store).2) := by
  simp only [Store.createStory, StoreM.call_bind, onPacks_call, StoreM.call_tryCatch,
    onStories_call, StoreCall.drive, StoreCall.advance]
  rcases (PackStoreMem.retain bundle.instanceSpec.storyId bundle.snapshot).call store.packStore with
    ⟨_ | _, packs⟩
  · rfl
  · dsimp only
    rcases (StoryStoreMem.create now bundle.instanceSpec).call store.storyStore with
      ⟨_ | _, stories⟩
    · rfl
    · rfl

theorem drive_removeStory (now : DateTime) (storyId : StoryId) (store : Store) :
    (StoreCall.removing storyId).drive now 2 store =
      some (.removed ((Store.removeStory storyId).call store).1,
        ((Store.removeStory storyId).call store).2) := by
  simp only [Store.removeStory, StoreM.call_bind, onPacks_call, StoreM.call_tryCatch,
    onStories_call, StoreCall.drive, StoreCall.advance, StoryStoreMem.remove_call]
  by_cases present : store.storyStore.stories.contains storyId
  · simp only [present, if_true]
    rfl
  · simp only [present]
    rfl

end Aise
