import Aise.Persistence.KnowledgeChange
import Aise.Lib.Transition

/-! The in-memory story store. Every call runs under the write lock, so a call is
one step of the store. A commit is a replay, a refusal that writes nothing, or an
accepted turn; `commit_call` says which, and every later result starts from it. -/
namespace Aise

structure StoredStory where
  context : StoryContext
  info : StoryInstanceInfo
  committed : BTreeMap .idempotencyKey StoryCommit
  deriving DecidableEq

structure StoryStoreMem where
  stories : BTreeMap .story StoredStory := ∅
  config : StoryStoreConfig := {}
  deriving DecidableEq

/-- `while recent_turns.len() > max_rencent_turns`. -/
def popWhileLonger (maximum : Nat) : List Turn → List Turn
  | [] => []
  | front :: rest =>
    if (front :: rest).length > maximum then popWhileLonger maximum rest else front :: rest

/-- `while recent_turns.front().is_some_and(..)`. -/
def popWhileCovered (coveredThrough : Nat) : List Turn → List Turn
  | [] => []
  | front :: rest =>
    if front.turnNumber.value ≤ coveredThrough then popWhileCovered coveredThrough rest
    else front :: rest

def adjustRencentTurns (context : StoryContext) (maximum : Nat) : StoryContext :=
  let recent := popWhileLonger maximum context.recentTurns
  match context.summary with
  | none => { context with recentTurns := recent }
  | some summary =>
    { context with recentTurns := popWhileCovered summary.coveredThrough.value recent }

theorem popWhileLonger_eq (maximum : Nat) (turns : List Turn) :
    popWhileLonger maximum turns = turns.drop (turns.length - maximum) := by
  induction turns with
  | nil => simp [popWhileLonger]
  | cons front rest ih =>
    unfold popWhileLonger
    split
    · rename_i longer
      rw [ih, List.length_cons, Nat.succ_sub (by simpa [Nat.lt_succ_iff] using longer),
        List.drop_succ_cons]
    · rename_i fits
      rw [Nat.sub_eq_zero_of_le (Nat.le_of_not_lt fits), List.drop_zero]

theorem popWhileCovered_eq (coveredThrough : Nat) (turns : List Turn) :
    popWhileCovered coveredThrough turns =
      turns.dropWhile (fun turn => turn.turnNumber.value ≤ coveredThrough) := by
  induction turns with
  | nil => rfl
  | cons front rest ih =>
    unfold popWhileCovered
    split
    · rename_i covered
      rw [ih, List.dropWhile_cons_of_pos (by simpa using covered)]
    · rename_i uncovered
      rw [List.dropWhile_cons_of_neg (by simpa using uncovered)]

/-- One `if .. { return Err(ConstraintViolation) }` of `commit`. -/
def refuseIf (condition : Bool) (constraint : String) : Except PersistenceError Unit :=
  if condition then .error (.constraintViolation constraint) else .ok ()

theorem refuseIf_ok_iff : refuseIf condition constraint = .ok () ↔ condition = false := by
  cases condition <;> simp [refuseIf]

def admitSummary (context : StoryContext) (commit : StoryCommit) : Except PersistenceError Unit :=
  match commit.summary with
  | .unchanged => .ok ()
  | .replaced summary => do
    refuseIf (summary.coveredThrough.value > commit.turn.turnNumber.value)
      "summary covers a future turn"
    refuseIf (context.summary.any (summary.coveredThrough.value < ·.coveredThrough.value))
      "summary coverage cannot move backwards"

/-- The checks of `commit` that read the stored context only. -/
def admitCommit (context : StoryContext) (commit : StoryCommit) : Except PersistenceError Unit := do
  refuseIf (context.lifeCycle ≠ .active) "story is not active"
  refuseIf (commit.turn.turnNumber.value ≠ context.turnNumber.increment.value)
    "turn number does not follow the current story context"
  admitSummary context commit
  validateKnowledgeChange context commit.turn.knowledgeChange

/-- The clone of the context with the turn applied, before its roles are checked. -/
def nextContext (context : StoryContext) (commit : StoryCommit) : StoryContext :=
  let next := { context with turnNumber := commit.turn.turnNumber }
  let next := applyKnowledgeChange next commit.turn.turnNumber commit.turn.knowledgeChange
  { next with
    recentTurns := next.recentTurns ++ [commit.turn]
    summary := match commit.summary with
      | .unchanged => next.summary
      | .replaced summary => some summary
    narrative := commit.narrative.over next.narrative }

/-- `StoryStoreMem::commit` from the entry `get_mut` found. -/
def StoredStory.commit (config : StoryStoreConfig) (now : DateTime) (commit : StoryCommit) :
    StoreM StoredStory StoryCommit := do
  let story ← get
  if let some existing := story.committed[commit.turn.idempotencyKey]? then
    return existing
  MonadExcept.ofExcept (admitCommit story.context commit)
  let next := nextContext story.context commit
  MonadExcept.ofExcept (invalidStory (validateRuntimeRoles next.roles))
  -- From here on nothing can fail, but the writes to `info` and `context` are separate.
  modify fun story =>
    { story with info := { story.info with lifeCycle := commit.lifeCycle.over story.info.lifeCycle } }
  let next := { next with lifeCycle := commit.lifeCycle.over next.lifeCycle }
  modify ({ · with context := adjustRencentTurns next config.maxRecentTurns })
  modify fun story => { story with info := { story.info with updatedAt := now } }
  modify fun story =>
    { story with committed := story.committed.insert commit.turn.idempotencyKey commit }
  return commit

/-- The entry `create` writes. -/
def StoredStory.created (now : DateTime) (spec : StoryInstanceSpec) : StoredStory where
  context :=
    { storyId := spec.storyId
      packRef := spec.packRef
      opening := spec.opening
      roles := spec.roles
      facts := spec.facts
      rumors := spec.rumors
      player := spec.playerRole
      turnNumber := ⟨0⟩
      summary := none
      recentTurns := []
      lifeCycle := .active
      narrative := spec.narrative }
  info :=
    { storyId := spec.storyId
      playerId := spec.playerId
      description := ""
      createdAt := now
      updatedAt := now
      lifeCycle := .active }
  committed := ∅

namespace StoryStoreMem

def withConfig (config : StoryStoreConfig) : StoryStoreMem := { config }

def create (now : DateTime) (spec : StoryInstanceSpec) : StoreM StoryStoreMem StoryInstanceInfo := do
  MonadExcept.ofExcept (invalidStory (validateRuntimeRoles spec.roles))
  let stored := StoredStory.created now spec
  let store ← get
  if store.stories.contains stored.info.storyId then
    throw (.constraintViolation "story_id already exists")
  set { store with stories := store.stories.insert stored.info.storyId stored }
  return stored.info

def remove (storyId : StoryId) : StoreM StoryStoreMem Unit := do
  let store ← get
  if store.stories.contains storyId then
    set { store with stories := store.stories.erase storyId }
  else throw .notFound

def load (store : StoryStoreMem) (storyId : StoryId) : Except PersistenceError StoryContext :=
  match store.stories[storyId]? with
  | some story => .ok story.context
  | none => .error .notFound

def findCommitted (store : StoryStoreMem) (storyId : StoryId) (idempotencyKey : IdempotencyKey) :
    Except PersistenceError (Option StoryCommit) :=
  match store.stories[storyId]? with
  | some story => .ok story.committed[idempotencyKey]?
  | none => .error .notFound

/-- `get_mut`: the entry is edited in place, so it keeps what a failing call wrote. -/
def commit (now : DateTime) (commit : StoryCommit) : StoreM StoryStoreMem StoryCommit := do
  let store ← get
  match store.stories[commit.storyId]? with
  | none => throw .notFound
  | some story =>
    let (result, story) := (StoredStory.commit store.config now commit).call story
    set { store with stories := store.stories.insert commit.storyId story }
    MonadExcept.ofExcept result

end StoryStoreMem

/-- Everything `commit` asks of a turn with a new key. -/
def admitTurn (context : StoryContext) (commit : StoryCommit) : Except PersistenceError Unit := do
  admitCommit context commit
  invalidStory (validateRuntimeRoles (nextContext context commit).roles)

/-- The entry an accepted turn leaves. -/
def StoredStory.record (config : StoryStoreConfig) (now : DateTime) (commit : StoryCommit)
    (story : StoredStory) : StoredStory where
  context :=
    adjustRencentTurns
      { nextContext story.context commit with
        lifeCycle := commit.lifeCycle.over story.context.lifeCycle }
      config.maxRecentTurns
  info :=
    { story.info with lifeCycle := commit.lifeCycle.over story.info.lifeCycle, updatedAt := now }
  committed := story.committed.insert commit.turn.idempotencyKey commit

theorem StoredStory.commit_call (config : StoryStoreConfig) (now : DateTime) (commit : StoryCommit)
    (story : StoredStory) :
    (StoredStory.commit config now commit).call story =
      match story.committed[commit.turn.idempotencyKey]? with
      | some existing => (.ok existing, story)
      | none =>
        match admitTurn story.context commit with
        | .error error => (.error error, story)
        | .ok _ => (.ok commit, story.record config now commit) := by
  unfold StoredStory.commit admitTurn
  simp only [StoreM.call_bind, StoreM.call_get]
  cases story.committed[commit.turn.idempotencyKey]? with
  | some existing => rfl
  | none =>
    simp only [StoreM.call_bind, StoreM.call_ofExcept]
    cases admitCommit story.context commit with
    | error error => rfl
    | ok _ =>
      simp only [bind, Except.bind]
      cases invalidStory (validateRuntimeRoles (nextContext story.context commit).roles) with
      | error error => rfl
      | ok _ => rfl

namespace StoryStoreMem

def insertStory (store : StoryStoreMem) (storyId : StoryId) (story : StoredStory) : StoryStoreMem :=
  { store with stories := store.stories.insert storyId story }

theorem insertStory_get (found : store.stories[storyId]? = some story) :
    insertStory store storyId story = store := by
  rw [insertStory, OrdMap.insert_get found]

theorem create_call (now : DateTime) (spec : StoryInstanceSpec) (store : StoryStoreMem) :
    (create now spec).call store =
      match validateRuntimeRoles spec.roles with
      | .error error => (.error (.invalidStory error), store)
      | .ok _ =>
        if store.stories.contains spec.storyId then
          (.error (.constraintViolation "story_id already exists"), store)
        else (.ok (StoredStory.created now spec).info,
          store.insertStory spec.storyId (StoredStory.created now spec)) := by
  unfold create
  simp only [StoreM.call_bind, StoreM.call_ofExcept]
  cases validateRuntimeRoles spec.roles with
  | error error => rfl
  | ok _ =>
    simp only [invalidStory, StoreM.call_get]
    change StoreM.call (if store.stories.contains spec.storyId = true then _ else _) store = _
    split <;> rfl

theorem remove_call (storyId : StoryId) (store : StoryStoreMem) :
    (remove storyId).call store =
      if store.stories.contains storyId then
        (.ok (), { store with stories := store.stories.erase storyId })
      else (.error .notFound, store) := by
  unfold remove
  simp only [StoreM.call_bind, StoreM.call_get]
  split <;> rfl

theorem commit_call (now : DateTime) (turn : StoryCommit) (store : StoryStoreMem) :
    (commit now turn).call store =
      match store.stories[turn.storyId]? with
      | none => (.error .notFound, store)
      | some story =>
        match story.committed[turn.turn.idempotencyKey]? with
        | some existing => (.ok existing, store)
        | none =>
          match admitTurn story.context turn with
          | .error error => (.error error, store)
          | .ok _ =>
            (.ok turn, store.insertStory turn.storyId (story.record store.config now turn)) := by
  unfold commit
  simp only [StoreM.call_bind, StoreM.call_get]
  cases found : store.stories[turn.storyId]? with
  | none => rfl
  | some story =>
    simp only [StoredStory.commit_call]
    cases story.committed[turn.turn.idempotencyKey]? with
    | some existing =>
      simp only [StoreM.call_bind, StoreM.call_set, StoreM.call_ofExcept]
      exact congrArg _ (insertStory_get found)
    | none =>
      cases admitTurn story.context turn with
      | error error =>
        simp only [StoreM.call_bind, StoreM.call_set, StoreM.call_ofExcept]
        exact congrArg _ (insertStory_get found)
      | ok _ => rfl

end StoryStoreMem

/-- What an admitted turn satisfies, check by check. -/
structure Admitted (context : StoryContext) (turn : StoryCommit) : Prop where
  active : context.lifeCycle = .active
  follows : turn.turn.turnNumber.value = context.turnNumber.value + 1
  notFuture : ∀ summary, turn.summary = .replaced summary →
    summary.coveredThrough.value ≤ turn.turn.turnNumber.value
  notBackwards : ∀ summary, turn.summary = .replaced summary →
    context.coveredThrough ≤ summary.coveredThrough.value
  knowledge : Admissible context turn.turn.knowledgeChange
  roles : validateRuntimeRoles (nextContext context turn).roles = .ok ()

theorem invalidStory_ok_iff {result : Except StoryError Unit} :
    invalidStory result = .ok () ↔ result = .ok () := by
  cases result <;> simp [invalidStory]

theorem admitSummary_ok_iff : admitSummary context turn = .ok () ↔
    ∀ summary, turn.summary = .replaced summary →
      summary.coveredThrough.value ≤ turn.turn.turnNumber.value ∧
      context.coveredThrough ≤ summary.coveredThrough.value := by
  unfold admitSummary StoryContext.coveredThrough
  cases turn.summary with
  | unchanged => simp
  | replaced summary =>
    cases context.summary <;> simp [bind_ok_unit_iff, refuseIf_ok_iff]

theorem admitTurn_ok_iff : admitTurn context turn = .ok () ↔ Admitted context turn := by
  simp only [admitTurn, admitCommit, bind_ok_unit_iff, refuseIf_ok_iff, decide_eq_false_iff_not,
    not_not, admitSummary_ok_iff, validateKnowledgeChange_ok_iff, invalidStory_ok_iff]
  constructor
  · rintro ⟨⟨active, follows, summary, knowledge⟩, roles⟩
    exact ⟨active, follows, fun s r => (summary s r).1, fun s r => (summary s r).2, knowledge, roles⟩
  · rintro ⟨active, follows, notFuture, notBackwards, knowledge, roles⟩
    exact ⟨⟨active, follows, fun s r => ⟨notFuture s r, notBackwards s r⟩, knowledge⟩, roles⟩

theorem refuseIf_error (failed : refuseIf condition constraint = .error error) :
    error = .constraintViolation constraint := by
  cases condition <;> cases failed
  rfl

/-- A turn with an admissible change is only refused for the constraints `commit`
names itself, or for its roles. -/
theorem admitCommit_error (admissible : Admissible context turn.turn.knowledgeChange)
    (failed : admitCommit context turn = .error error) :
    ∃ constraint, error = .constraintViolation constraint := by
  rcases Result.bind_eq_error failed with inactive | ⟨_, _, failed⟩
  · exact ⟨_, refuseIf_error inactive⟩
  rcases Result.bind_eq_error failed with misnumbered | ⟨_, _, failed⟩
  · exact ⟨_, refuseIf_error misnumbered⟩
  rcases Result.bind_eq_error failed with uncovered | ⟨_, _, failed⟩
  · unfold admitSummary at uncovered
    split at uncovered
    · contradiction
    · rcases Result.bind_eq_error uncovered with future | ⟨_, _, backwards⟩
      · exact ⟨_, refuseIf_error future⟩
      · exact ⟨_, refuseIf_error backwards⟩
  · rw [validateKnowledgeChange_ok_iff.mpr admissible] at failed
    contradiction

theorem admitTurn_inactive {context : StoryContext} (inactive : context.lifeCycle ≠ .active)
    (turn : StoryCommit) :
    admitTurn context turn = .error (.constraintViolation "story is not active") := by
  simp [admitTurn, admitCommit, refuseIf, inactive, bind, Except.bind]

/-- A turn the story takes: its key is new and every check passes. -/
structure StoredStory.Accepts (story : StoredStory) (turn : StoryCommit) : Prop where
  fresh : story.committed[turn.turn.idempotencyKey]? = none
  admitted : admitTurn story.context turn = .ok ()

namespace StoryStoreMem
variable {store : StoryStoreMem} {story : StoredStory} {turn : StoryCommit}

theorem commit_unknown (now : DateTime) (absent : store.stories[turn.storyId]? = none) :
    (commit now turn).call store = (.error .notFound, store) := by
  rw [commit_call, absent]

theorem commit_replays (now : DateTime) (found : store.stories[turn.storyId]? = some story)
    (recorded : story.committed[turn.turn.idempotencyKey]? = some existing) :
    (commit now turn).call store = (.ok existing, store) := by
  rw [commit_call, found]
  simp only [recorded]

theorem commit_accepts (now : DateTime) (found : store.stories[turn.storyId]? = some story)
    (accepts : story.Accepts turn) : (commit now turn).call store =
      (.ok turn, store.insertStory turn.storyId (story.record store.config now turn)) := by
  rw [commit_call, found]
  simp only [accepts.fresh, accepts.admitted]

theorem commit_refuses (now : DateTime) (found : store.stories[turn.storyId]? = some story)
    (fresh : story.committed[turn.turn.idempotencyKey]? = none) (refused : ¬ story.Accepts turn) :
    ∃ error, admitTurn story.context turn = .error error ∧
      (commit now turn).call store = (.error error, store) := by
  cases admitted : admitTurn story.context turn with
  | ok _ => exact absurd ⟨fresh, admitted⟩ refused
  | error error =>
    refine ⟨error, rfl, ?_⟩
    rw [commit_call, found]
    simp only [fresh, admitted]

/-- A call that returns an error has written nothing, to this story or to another. -/
theorem commit_error (failed : (commit now turn).call store = (.error error, after)) :
    after = store := by
  cases found : store.stories[turn.storyId]? with
  | none =>
    rw [commit_unknown now found] at failed
    exact (Prod.mk.inj failed).2.symm
  | some story =>
    cases fresh : story.committed[turn.turn.idempotencyKey]? with
    | some existing =>
      rw [commit_replays now found fresh] at failed
      exact (Prod.mk.inj failed).2.symm
    | none =>
      by_cases accepts : story.Accepts turn
      · rw [commit_accepts now found accepts] at failed
        cases (Prod.mk.inj failed).1
      · obtain ⟨_, _, refused⟩ := commit_refuses now found fresh accepts
        exact (Prod.mk.inj (refused.symm.trans failed)).2.symm

end StoryStoreMem

/-- The calls that can write to the story store. -/
inductive StoreOp where
  | create (now : DateTime) (spec : StoryInstanceSpec)
  | remove (storyId : StoryId)
  | commit (now : DateTime) (turn : StoryCommit)

/-- The store a call leaves behind, whatever it returns. -/
def StoreOp.perform : StoreOp → StoryStoreMem → StoryStoreMem
  | .create now spec, store => ((StoryStoreMem.create now spec).call store).2
  | .remove storyId, store => ((StoryStoreMem.remove storyId).call store).2
  | .commit now turn, store => ((StoryStoreMem.commit now turn).call store).2

/-- The writes a call can make. -/
inductive StoreOp.Writes (store : StoryStoreMem) : StoreOp → StoryStoreMem → Prop where
  | nothing (op) : Writes store op store
  | created (now) (checked : validateRuntimeRoles spec.roles = .ok ())
      (absent : store.stories[spec.storyId]? = none) :
      Writes store (.create now spec)
        (store.insertStory spec.storyId (StoredStory.created now spec))
  | removed (storyId) :
      Writes store (.remove storyId) { store with stories := store.stories.erase storyId }
  | committed (now) (found : store.stories[turn.storyId]? = some story)
      (accepts : story.Accepts turn) :
      Writes store (.commit now turn)
        (store.insertStory turn.storyId (story.record store.config now turn))

theorem StoreOp.perform_writes (op : StoreOp) (store : StoryStoreMem) :
    Writes store op (op.perform store) := by
  cases op with
  | create now spec =>
    simp only [perform, StoryStoreMem.create_call]
    cases checked : validateRuntimeRoles spec.roles with
    | error error => exact .nothing _
    | ok _ =>
      simp only
      split
      · exact .nothing _
      · rename_i absent
        refine .created now checked ?_
        simpa using absent
  | remove storyId =>
    simp only [perform, StoryStoreMem.remove_call]
    split
    · exact .removed storyId
    · exact .nothing _
  | commit now turn =>
    simp only [perform]
    cases found : store.stories[turn.storyId]? with
    | none =>
      rw [StoryStoreMem.commit_unknown now found]
      exact .nothing _
    | some story =>
      cases fresh : story.committed[turn.turn.idempotencyKey]? with
      | some existing =>
        rw [StoryStoreMem.commit_replays now found fresh]
        exact .nothing _
      | none =>
        by_cases accepts : story.Accepts turn
        · rw [StoryStoreMem.commit_accepts now found accepts]
          exact .committed now found accepts
        · obtain ⟨_, _, refused⟩ := StoryStoreMem.commit_refuses now found fresh accepts
          rw [refused]
          exact .nothing _

theorem StoreOp.perform_config (op : StoreOp) (store : StoryStoreMem) :
    (op.perform store).config = store.config := by
  have writes := op.perform_writes store
  generalize op.perform store = after at writes ⊢
  cases writes <;> rfl

end Aise
