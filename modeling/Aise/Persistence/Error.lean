import Aise.Core.Story
import Aise.Lib.Result

/-! Errors, configuration and the effect monad of the in-memory stores. -/
namespace Aise

inductive PersistenceError where
  | notFound
  | createStoryInstanceFailed (storyId : StoryId) (message : String)
  | constraintViolation (constraint : String)
  | packCapacityExceeded (actual maximum : Nat)
  | storyHolderAlreadyExists (storyId : StoryId)
  | invalidPackReference (packRef : PackRef)
  | atomicityFailure (operation : String)
  | unavailable (message : String)
  | invalidData (error : CoreError)
  | invalidStory (error : StoryError)
  | createCompensationFailed (storyId : StoryId) (createSource cleanupSource : PersistenceError)
  deriving DecidableEq

structure StoryStoreConfig where
  maxRecentTurns : Nat := 4096
  deriving DecidableEq

structure PackStoreConfig where
  maxPacks : Nat := 128
  deriving DecidableEq

/-- A call on a locked value: an early `return Err` keeps the writes made before it. -/
abbrev StoreM (σ α : Type) := ExceptT PersistenceError (StateM σ) α

/-- The result of a call together with the value it leaves behind the lock. -/
def StoreM.call (action : StoreM σ α) (state : σ) : Except PersistenceError α × σ :=
  StateT.run (ExceptT.run action) state

namespace StoreM

@[simp] theorem call_pure (value : α) (state : σ) :
    call (pure value : StoreM σ α) state = (.ok value, state) := rfl

@[simp] theorem call_get (state : σ) : call (get : StoreM σ σ) state = (.ok state, state) := rfl

@[simp] theorem call_set (next state : σ) :
    call (set next : StoreM σ PUnit) state = (.ok ⟨⟩, next) := rfl

@[simp] theorem call_modify (change : σ → σ) (state : σ) :
    call (modify change : StoreM σ PUnit) state = (.ok ⟨⟩, change state) := rfl

@[simp] theorem call_throw (error : PersistenceError) (state : σ) :
    call (throw error : StoreM σ α) state = (.error error, state) := rfl

@[simp] theorem call_ofExcept (result : Except PersistenceError α) (state : σ) :
    call (MonadExcept.ofExcept result : StoreM σ α) state = (result, state) := by
  cases result <;> rfl

@[simp] theorem call_bind (first : StoreM σ α) (next : α → StoreM σ β) (state : σ) :
    call (first >>= next) state =
      match call first state with
      | (.ok value, middle) => call (next value) middle
      | (.error error, middle) => (.error error, middle) := by
  change ExceptT.bindCont next (call first state).1 (call first state).2 = _
  rcases call first state with ⟨_ | _, middle⟩ <;> rfl

@[simp] theorem call_tryCatch (action : StoreM σ α) (handler : PersistenceError → StoreM σ α)
    (state : σ) : call (tryCatch action handler) state =
      match call action state with
      | (.ok value, middle) => (.ok value, middle)
      | (.error error, middle) => call (handler error) middle := by
  simp only [call, tryCatch, tryCatchThe, MonadExceptOf.tryCatch, ExceptT.tryCatch, ExceptT.run,
    ExceptT.mk, bind, StateT.bind, StateT.run]
  rcases action state with ⟨_ | _, middle⟩ <;> rfl

end StoreM

/-- `StoryError` enters through `#[from]`. -/
def invalidStory : Except StoryError α → Except PersistenceError α
  | .ok value => .ok value
  | .error error => .error (.invalidStory error)

end Aise
