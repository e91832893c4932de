import Aise.Persistence.StoryStoreMem
import Aise.Lib.Journal

/-! The history behind a stored story. The store keeps the index of the commits and
a window of recent turns; the whole log is a ghost. A story's lineage is its
creation followed by the turns it accepted, and every run of the store gives every
story in it a lineage. -/
namespace Aise

/-- The part of the recent turns `adjust_rencent_turns` keeps. -/
def keptTurns (summary : Option StorySummary) (maximum : Nat) (recent : List Turn) : List Turn :=
  match summary with
  | none => popWhileLonger maximum recent
  | some summary => popWhileCovered summary.coveredThrough.value (popWhileLonger maximum recent)

theorem adjustRencentTurns_eq (context : StoryContext) (maximum : Nat) :
    adjustRencentTurns context maximum =
      { context with recentTurns := keptTurns context.summary maximum context.recentTurns } := by
  unfold adjustRencentTurns keptTurns
  cases context.summary <;> rfl

/-- A story's creation, then the turns it accepted, each satisfying `Q` when it was
committed. -/
inductive StoredStory.Lineage (config : StoryStoreConfig) (Q : StoryContext → StoryCommit → Prop)
    (spec : StoryInstanceSpec) : List StoryCommit → StoredStory → Prop where
  | created (now : DateTime) (checked : validateRuntimeRoles spec.roles = .ok ()) :
      Lineage config Q spec [] (StoredStory.created now spec)
  | committed (now : DateTime) (before : Lineage config Q spec log story) (accepts : story.Accepts turn)
      (own : turn.storyId = spec.storyId) (allowed : Q story.context turn) :
      Lineage config Q spec (log ++ [turn]) (story.record config now turn)

namespace StoredStory
variable {config : StoryStoreConfig} {now : DateTime} {turn : StoryCommit} {story : StoredStory}

theorem record_context : (story.record config now turn).context =
    { nextContext story.context turn with
      lifeCycle := turn.lifeCycle.over story.context.lifeCycle
      recentTurns := keptTurns (nextContext story.context turn).summary config.maxRecentTurns
        (story.context.recentTurns ++ [turn.turn]) } := by
  rw [record, adjustRencentTurns_eq]
  rfl

@[simp] theorem record_storyId :
    (story.record config now turn).context.storyId = story.context.storyId := by
  rw [record_context]
  rfl

@[simp] theorem record_packRef :
    (story.record config now turn).context.packRef = story.context.packRef := by
  rw [record_context]
  rfl

@[simp] theorem record_turnNumber :
    (story.record config now turn).context.turnNumber = turn.turn.turnNumber := by
  rw [record_context]
  rfl

@[simp] theorem record_lifeCycle : (story.record config now turn).context.lifeCycle =
    turn.lifeCycle.over story.context.lifeCycle := by
  rw [record_context]

@[simp] theorem record_narrative : (story.record config now turn).context.narrative =
    turn.narrative.over story.context.narrative := by
  rw [record_context]
  rfl

theorem record_committed (key : IdempotencyKey) : (story.record config now turn).committed[key]? =
    if turn.turn.idempotencyKey = key then some turn else story.committed[key]? :=
  OrdMap.get_insert _ _ _

theorem record_coveredThrough : (story.record config now turn).context.coveredThrough =
    match turn.summary with
    | .unchanged => story.context.coveredThrough
    | .replaced summary => summary.coveredThrough.value := by
  rw [record_context]
  unfold StoryContext.coveredThrough
  cases summary : turn.summary <;> simp [nextContext, summary, applyKnowledgeChange]

theorem Accepts.admission (accepts : story.Accepts turn) : Admitted story.context turn :=
  admitTurn_ok_iff.mp accepts.admitted

/-- Coverage moves forward, and never past the turn that moves it. -/
theorem Accepts.coverage (accepts : story.Accepts turn) (config : StoryStoreConfig)
    (now : DateTime) :
    story.context.coveredThrough ≤ (story.record config now turn).context.coveredThrough ∧
    ((story.record config now turn).context.coveredThrough ≤ story.context.coveredThrough ∨
      (story.record config now turn).context.coveredThrough ≤ turn.turn.turnNumber.value) := by
  have admitted := accepts.admission
  rw [record_coveredThrough]
  cases replaced : turn.summary with
  | unchanged => exact ⟨le_rfl, .inl le_rfl⟩
  | replaced summary =>
    exact ⟨admitted.notBackwards summary replaced, .inr (admitted.notFuture summary replaced)⟩

end StoredStory

namespace StoryStoreMem
variable {config : StoryStoreConfig}

/-- Calls whose effect on one story is restricted: it is created from a spec that
satisfies `P` and takes turns that satisfy `Q`. Calls on other stories are free. -/
def Allowed (storyId : StoryId) (P : StoryInstanceSpec → Prop)
    (Q : StoryContext → StoryCommit → Prop) (store : StoryStoreMem) : StoreOp → Prop
  | .create _ spec => spec.storyId = storyId → P spec
  | .remove _ => True
  | .commit _ turn => turn.storyId = storyId →
    ∀ story, store.stories[storyId]? = some story → Q story.context turn

def StepAllowed (storyId : StoryId) (P : StoryInstanceSpec → Prop)
    (Q : StoryContext → StoryCommit → Prop) (before after : StoryStoreMem) : Prop :=
  ∃ op, Allowed storyId P Q before op ∧ after = StoreOp.perform op before

/-- Runs of a fresh store under such calls. -/
def Run (config : StoryStoreConfig) (storyId : StoryId) (P : StoryInstanceSpec → Prop)
    (Q : StoryContext → StoryCommit → Prop) (store : StoryStoreMem) : Prop :=
  Transition.Reaches (StepAllowed storyId P Q) (withConfig config) store

def Step (before after : StoryStoreMem) : Prop := ∃ op, after = StoreOp.perform op before

/-- What some sequence of calls makes of a fresh store. -/
def Reachable (config : StoryStoreConfig) (store : StoryStoreMem) : Prop :=
  Transition.Reaches Step (withConfig config) store

theorem Reachable.run (reachable : Reachable config store) (storyId : StoryId) :
    Run config storyId (fun _ => True) (fun _ _ => True) store := by
  refine Relation.ReflTransGen.mono ?_ _ _ reachable
  rintro before after ⟨op, performed⟩
  refine ⟨op, ?_, performed⟩
  cases op <;> simp [Allowed]

theorem insertStory_get? (store : StoryStoreMem) (storyId other : StoryId) (story : StoredStory) :
    (store.insertStory storyId story).stories[other]? =
      if storyId = other then some story else store.stories[other]? :=
  OrdMap.get_insert _ _ _

/-- Every story a run leaves in the store has a lineage under the run's own terms. -/
theorem Run.lineage (run : Run config storyId P Q store) :
    store.config = config ∧ ∀ story, store.stories[storyId]? = some story →
      ∃ spec log, spec.storyId = storyId ∧ P spec ∧ StoredStory.Lineage config Q spec log story := by
  refine Transition.invariant (P := fun store => store.config = config ∧ ∀ story,
    store.stories[storyId]? = some story → ∃ spec log, spec.storyId = storyId ∧ P spec ∧
      StoredStory.Lineage config Q spec log story) ?_ run ?_
  · rintro before after ⟨configured, lineages⟩ ⟨op, allowed, rfl⟩
    refine ⟨(op.perform_config before).trans configured, ?_⟩
    have writes := op.perform_writes before
    generalize op.perform before = after at writes
    intro story found
    cases writes with
    | nothing => exact lineages story found
    | @created spec now checked absent =>
      rw [insertStory_get?] at found
      split at found
      · rename_i same
        cases found
        exact ⟨spec, [], same, allowed same, .created now checked⟩
      · exact lineages story found
    | removed removed =>
      rw [OrdMap.get_erase] at found
      split at found
      · contradiction
      · exact lineages story found
    | @committed earlier turn now stored accepts =>
      rw [insertStory_get?] at found
      split at found
      · rename_i same
        cases found
        rw [same] at stored
        obtain ⟨spec, log, own, initial, lineage⟩ := lineages earlier stored
        refine ⟨spec, log ++ [turn], own, initial, ?_⟩
        rw [configured]
        exact .committed now lineage accepts (same.trans own.symm) (allowed same earlier stored)
      · exact lineages story found
  · exact ⟨rfl, fun story found => by simp [withConfig] at found⟩

end StoryStoreMem

/-- The stored entry as a view of its log: the index and the counters agree with it,
and the recent turns are its end, cut at the front only. -/
structure StoredStory.Recorded (maximum : Nat) (log : List StoryCommit) (story : StoredStory) :
    Prop where
  journal : Journal.WellFormed (·.turn.idempotencyKey) (·.turn.turnNumber.value) log
  turnNumber : story.context.turnNumber.value = log.length
  index : Journal.Indexes (·.turn.idempotencyKey) (fun key => story.committed[key]?) log
  covered : story.context.coveredThrough ≤ log.length
  window : ∃ front, story.context.coveredThrough ≤ front ∧ front ≤ log.length ∧
    log.length - front ≤ maximum ∧ story.context.recentTurns = (log.map (·.turn)).drop front
  lifeCycle : story.context.lifeCycle = story.info.lifeCycle

namespace StoredStory
variable {config : StoryStoreConfig} {now : DateTime} {turn : StoryCommit} {story : StoredStory}

/-- Both cuts together: the window starts after the summary, and not earlier than
the configured length allows. -/
theorem keptTurns_drop {turns : List Turn}
    (formed : Journal.WellFormed Turn.idempotencyKey (·.turnNumber.value) turns)
    (front : Nat) (summary : Option StorySummary) (maximum : Nat) :
    keptTurns summary maximum (turns.drop front) =
      turns.drop (max (max front (turns.length - maximum))
        ((summary.map (·.coveredThrough.value)).getD 0)) := by
  have first : popWhileLonger maximum (turns.drop front) =
      turns.drop (max front (turns.length - maximum)) := by
    rw [popWhileLonger_eq, List.drop_drop, List.length_drop]
    congr 1
    omega
  cases summary with
  | none => simp [keptTurns, first]
  | some summary =>
    simp only [keptTurns, first, popWhileCovered_eq, formed.dropWhile_covered, Option.map_some,
      Option.getD_some]

theorem Recorded.created (now : DateTime) (spec : StoryInstanceSpec) (maximum : Nat) :
    Recorded maximum [] (StoredStory.created now spec) where
  journal := .nil
  turnNumber := rfl
  index := by
    intro key turn
    simp [StoredStory.created]
  covered := le_rfl
  window := ⟨0, le_rfl, le_rfl, by simp, rfl⟩
  lifeCycle := rfl

theorem Recorded.journal_snoc (recorded : Recorded maximum log story) (accepts : story.Accepts turn) :
    Journal.WellFormed (·.turn.idempotencyKey) (·.turn.turnNumber.value) (log ++ [turn]) := by
  refine recorded.journal.snoc (recorded.index.none_iff.mp accepts.fresh) ?_
  rw [accepts.admission.follows, recorded.turnNumber]

/-- Where the window of an accepted turn starts. -/
theorem Recorded.window_snoc (recorded : Recorded maximum log story) (accepts : story.Accepts turn)
    (window : story.context.recentTurns = (log.map (·.turn)).drop front)
    (bound : front ≤ log.length) :
    (story.record config now turn).context.recentTurns =
      ((log ++ [turn]).map (·.turn)).drop
        (max (max front (log.length + 1 - config.maxRecentTurns))
          (story.record config now turn).context.coveredThrough) := by
  have formed : Journal.WellFormed Turn.idempotencyKey (·.turnNumber.value)
      ((log ++ [turn]).map (·.turn)) :=
    Journal.WellFormed.map_iff.mpr (recorded.journal_snoc accepts)
  have pushed : story.context.recentTurns ++ [turn.turn] =
      ((log ++ [turn]).map (·.turn)).drop front := by
    rw [List.map_append, List.drop_append_of_le_length (by simpa using bound), window]
    rfl
  rw [record_context]
  change keptTurns _ _ (story.context.recentTurns ++ [turn.turn]) = _
  rw [pushed, keptTurns_drop formed, List.length_map, List.length_append]
  rfl

theorem Recorded.step (recorded : Recorded config.maxRecentTurns log story)
    (accepts : story.Accepts turn) :
    Recorded config.maxRecentTurns (log ++ [turn]) (story.record config now turn) where
  journal := recorded.journal_snoc accepts
  turnNumber := by
    rw [record_turnNumber, accepts.admission.follows, recorded.turnNumber]
    simp
  index := by
    simpa only [record_committed] using recorded.index.snoc accepts.fresh
  covered := by
    have coverage := accepts.coverage config now
    have follows := accepts.admission.follows
    have number := recorded.turnNumber
    have covered := recorded.covered
    rw [List.length_append, List.length_singleton]
    omega
  window := by
    obtain ⟨front, _, bound, _, window⟩ := recorded.window
    have coverage := accepts.coverage config now
    have follows := accepts.admission.follows
    have number := recorded.turnNumber
    have covered := recorded.covered
    have length : (log ++ [turn]).length = log.length + 1 := by simp
    refine ⟨_, ?_, ?_, ?_, recorded.window_snoc accepts window bound⟩
    · exact le_max_right _ _
    · omega
    · omega
  lifeCycle := by
    rw [record_lifeCycle, recorded.lifeCycle]
    rfl

theorem Lineage.recorded (lineage : Lineage config Q spec log story) :
    Recorded config.maxRecentTurns log story := by
  induction lineage with
  | created now _ => exact .created now spec _
  | committed now _ accepts _ _ ih => exact ih.step accepts

/-- One recorded commit for each turn so far, all under their own, distinct keys. -/
structure ExactlyOnce (story : StoredStory) : Prop where
  keyed : ∀ (key : IdempotencyKey) (turn : StoryCommit),
    story.committed[key]? = some turn → turn.turn.idempotencyKey = key
  numbered : ∀ (key : IdempotencyKey) (turn : StoryCommit), story.committed[key]? = some turn →
    1 ≤ turn.turn.turnNumber.value ∧ turn.turn.turnNumber.value ≤ story.context.turnNumber.value
  unique : ∀ number, 1 ≤ number → number ≤ story.context.turnNumber.value →
    ∃! turn : StoryCommit, (∃ key : IdempotencyKey, story.committed[key]? = some turn) ∧
      turn.turn.turnNumber.value = number
  distinct : ∀ (key key' : IdempotencyKey) (turn turn' : StoryCommit),
    story.committed[key]? = some turn → story.committed[key']? = some turn' →
    turn.turn.turnNumber.value ≠ turn'.turn.turnNumber.value → key ≠ key'

/-- The window over the recent turns, and the life cycle kept in two places. -/
structure Windowed (maximum : Nat) (story : StoredStory) : Prop where
  consecutive : ∃ first, first + story.context.recentTurns.length =
      story.context.turnNumber.value + 1 ∧
    story.context.recentTurns.map (·.turnNumber.value) =
      List.range' first story.context.recentTurns.length
  uncovered : ∀ turn ∈ story.context.recentTurns,
    story.context.coveredThrough < turn.turnNumber.value
  bounded : story.context.recentTurns.length ≤ maximum
  covered : story.context.coveredThrough ≤ story.context.turnNumber.value
  lifeCycle : story.context.lifeCycle = story.info.lifeCycle

theorem Recorded.committed_iff (recorded : Recorded maximum log story) :
    (∃ key : IdempotencyKey, story.committed[key]? = some turn) ↔ turn ∈ log := by
  constructor
  · rintro ⟨key, found⟩
    exact ((recorded.index key turn).mp found).1
  · intro logged
    exact ⟨turn.turn.idempotencyKey, (recorded.index _ _).mpr ⟨logged, rfl⟩⟩

/-- The turn number counts the commits that are kept. -/
theorem Recorded.size_committed (recorded : story.Recorded maximum log) :
    story.committed.size = story.context.turnNumber.value := by
  have keyed : (story.committed.toList.map (·.2)).map (·.turn.idempotencyKey) =
      story.committed.keys := by
    rw [List.map_map, ← Std.ExtTreeMap.map_fst_toList_eq_keys]
    refine List.map_congr_left fun entry member => ?_
    have found := Std.ExtTreeMap.mem_toList_iff_getElem?_eq_some.mp member
    exact ((recorded.index entry.1 entry.2).mp found).2
  have listed : (story.committed.toList.map (·.2)).Perm log := by
    refine (List.perm_ext_iff_of_nodup ?_ (.of_map _ recorded.journal.keys)).mpr fun turn => ?_
    · exact .of_map (·.turn.idempotencyKey) (keyed ▸ Std.ExtTreeMap.nodup_keys)
    · rw [← recorded.committed_iff]
      simp only [List.mem_map, Prod.exists, exists_eq_right,
        Std.ExtTreeMap.mem_toList_iff_getElem?_eq_some]
  rw [recorded.turnNumber, ← listed.length_eq, List.length_map, Std.ExtTreeMap.length_toList]
theorem Recorded.exactlyOnce (recorded : Recorded maximum log story) : story.ExactlyOnce where
  keyed key turn found := ((recorded.index key turn).mp found).2
  numbered key turn found := by
    rw [recorded.turnNumber]
    exact recorded.journal.number_bounds ((recorded.index key turn).mp found).1
  unique number positive bound := by
    simp only [recorded.committed_iff]
    rw [recorded.turnNumber] at bound
    exact recorded.journal.existsUnique_number positive bound
  distinct key key' turn turn' found found' different same := by
    subst same
    cases Option.some.inj (found.symm.trans found')
    exact different rfl

theorem Recorded.windowed (recorded : Recorded maximum log story) : story.Windowed maximum := by
  obtain ⟨front, after, bound, length, window⟩ := recorded.window
  have formed : Journal.WellFormed Turn.idempotencyKey (·.turnNumber.value)
      (log.map (·.turn)) := Journal.WellFormed.map_iff.mpr recorded.journal
  have recent : story.context.recentTurns.length = log.length - front := by simp [window]
  have numbers := formed.window_numbers (List.drop_suffix front _)
  rw [← window, List.length_map, recent] at numbers
  have number := recorded.turnNumber
  refine ⟨⟨_, ?_, recent ▸ numbers⟩, ?_, recent ▸ length, number ▸ recorded.covered,
    recorded.lifeCycle⟩
  · omega
  · intro turn member
    have listed := List.mem_map_of_mem (f := (·.turnNumber.value)) member
    rw [numbers, List.mem_range'_1] at listed
    omega

end StoredStory

namespace StoryStoreMem
variable {config : StoryStoreConfig} {store : StoryStoreMem} {storyId : StoryId}
  {story : StoredStory}

theorem Reachable.recorded (reachable : Reachable config store)
    (found : store.stories[storyId]? = some story) :
    ∃ log, story.Recorded config.maxRecentTurns log := by
  obtain ⟨spec, log, _, _, lineage⟩ := (reachable.run storyId).lineage.2 story found
  exact ⟨log, lineage.recorded⟩

/-- Every turn of a story is kept, so its number is at most the size of a map in memory. -/
theorem Reachable.size_committed (reachable : Reachable config store)
    (found : store.stories[storyId]? = some story) :
    story.committed.size = story.context.turnNumber.value := by
  obtain ⟨log, recorded⟩ := reachable.recorded found
  exact recorded.size_committed

/-- Whatever the clients send: each turn so far is recorded exactly once, a known
key is answered from the record, and a refused call has changed nothing at all. -/
theorem commits_recorded_exactly_once (reachable : Reachable config store) :
    (∀ (storyId : StoryId) (story : StoredStory), store.stories[storyId]? = some story →
      story.ExactlyOnce) ∧
    (∀ (now : DateTime) (turn : StoryCommit) (story : StoredStory) (existing : StoryCommit),
      store.stories[turn.storyId]? = some story →
      story.committed[turn.turn.idempotencyKey]? = some existing →
      (commit now turn).call store = (.ok existing, store)) ∧
    (∀ (now : DateTime) (turn : StoryCommit) (error : PersistenceError) (after : StoryStoreMem),
      (commit now turn).call store = (.error error, after) → after = store) := by
  refine ⟨?_, ?_, ?_⟩
  · intro storyId story found
    obtain ⟨log, recorded⟩ := reachable.recorded found
    exact recorded.exactlyOnce
  · intro now turn story existing found recorded
    exact commit_replays now found recorded
  · intro now turn error after failed
    exact commit_error failed

/-- The store after a list of calls. -/
def performAll (calls : List StoreOp) (store : StoryStoreMem) : StoryStoreMem :=
  calls.foldl (fun store op => op.perform store) store

theorem reachable_performAll (config : StoryStoreConfig) (calls : List StoreOp) :
    Reachable config (performAll calls (withConfig config)) := by
  suffices general : ∀ store, Reachable config store → Reachable config (performAll calls store)
    from general _ .refl
  induction calls with
  | nil => exact fun _ reachable => reachable
  | cons op calls ih => exact fun store reachable => ih _ (reachable.tail ⟨op, rfl⟩)

/-- Each call is allowed in the store the calls before it leave. -/
def AllowedAll (storyId : StoryId) (P : StoryInstanceSpec → Prop)
    (Q : StoryContext → StoryCommit → Prop) : List StoreOp → StoryStoreMem → Prop
  | [], _ => True
  | op :: calls, store =>
    Allowed storyId P Q store op ∧ AllowedAll storyId P Q calls (op.perform store)

theorem run_performAll (config : StoryStoreConfig) {calls : List StoreOp}
    (allowed : AllowedAll storyId P Q calls (withConfig config)) :
    Run config storyId P Q (performAll calls (withConfig config)) := by
  suffices general : ∀ store, Run config storyId P Q store → AllowedAll storyId P Q calls store →
      Run config storyId P Q (performAll calls store) from general _ .refl allowed
  clear allowed
  induction calls with
  | nil => exact fun _ run _ => run
  | cons op calls ih =>
    intro store run allowed
    exact ih _ (run.tail ⟨op, allowed.1, rfl⟩) allowed.2

end StoryStoreMem

/-! The smallest story the store takes, played for two turns. -/
namespace Sample

def spec : StoryInstanceSpec where
  storyId := storyId
  packRef := packRef
  opening := ⟨"It begins."⟩
  roles := ∅
  facts := ∅
  rumors := ∅
  playerId := playerId
  playerRole := hero
  narrative := {}

def turn (number : Nat) (idempotencyKey : IdempotencyKey) : Turn where
  turnNumber := ⟨number⟩
  idempotencyKey := idempotencyKey
  playerContribution := ⟨"go north", "The hero goes north."⟩
  turnSegment := ⟨"The road is long."⟩
  knowledgeChange := {}
  turnEvaluation := ⟨1, 0, [], [], none⟩
  turnStatus := .pass

def commit (number : Nat) (idempotencyKey : IdempotencyKey) : StoryCommit where
  storyId := storyId
  turn := turn number idempotencyKey
  summary := .unchanged
  narrative := .unchanged
  lifeCycle := .unchanged

def keyA : IdempotencyKey := ⟨"a", by decide⟩
def keyB : IdempotencyKey := ⟨"b", by decide⟩
def keyC : IdempotencyKey := ⟨"c", by decide⟩

/-- Two turns, one of them sent twice and one competing commit for the second. -/
def calls : List StoreOp :=
  [.create now spec, .commit now (commit 1 keyA), .commit now (commit 1 keyA),
    .commit now (commit 2 keyB), .commit now (commit 2 keyC)]

def store : StoryStoreMem := StoryStoreMem.performAll calls (StoryStoreMem.withConfig {})

theorem played : ∃ story, store.stories[storyId]? = some story ∧
    story.context.turnNumber.value = 2 := by
  have turns : store.stories[storyId]?.map (·.context.turnNumber.value) = some 2 := by decide
  exact Option.map_eq_some_iff.mp turns

end Sample

namespace StoryStoreMem

theorem commits_recorded_exactly_once_sample :
    ∃ story, Sample.store.stories[Sample.storyId]? = some story ∧
      story.context.turnNumber.value = 2 ∧ story.ExactlyOnce := by
  obtain ⟨story, found, turns⟩ := Sample.played
  have once := commits_recorded_exactly_once (reachable_performAll {} Sample.calls)
  exact ⟨story, found, turns, once.1 Sample.storyId story found⟩

end StoryStoreMem

/-- The call is a commit to this story that returned `Ok` for a key not seen before. -/
def StoreOp.AcceptedBy (store : StoryStoreMem) (storyId : StoryId) (story : StoredStory) :
    StoreOp → Prop
  | .create _ _ | .remove _ => False
  | .commit now turn => turn.storyId = storyId ∧
    story.committed[turn.turn.idempotencyKey]? = none ∧
    ∃ result, ((StoryStoreMem.commit now turn).call store).1 = .ok result

/-- `create` and `commit`, the calls that keep every story. -/
def StoreOp.keeps : StoreOp → Bool
  | .create _ _ | .commit _ _ => true
  | .remove _ => false

namespace StoryStoreMem
variable {config : StoryStoreConfig} {store : StoryStoreMem} {storyId : StoryId}
  {story : StoredStory}

def KeepStep (before after : StoryStoreMem) : Prop :=
  ∃ op : StoreOp, op.keeps = true ∧ after = op.perform before

/-- How a story moves under one call. -/
structure Moves (store : StoryStoreMem) (storyId : StoryId) (op : StoreOp)
    (story next : StoredStory) : Prop where
  covered : story.context.coveredThrough ≤ next.context.coveredThrough
  accepted : op.AcceptedBy store storyId story →
    next.context.turnNumber.value = story.context.turnNumber.value + 1
  otherwise : ¬ op.AcceptedBy store storyId story → next = story

theorem Moves.still (idle : ¬ op.AcceptedBy store storyId story) :
    Moves store storyId op story story where
  covered := le_rfl
  accepted acts := absurd acts idle
  otherwise _ := rfl

theorem commit_moves (now : DateTime) (turn : StoryCommit)
    (found : store.stories[storyId]? = some story) :
    ∃ next, (StoreOp.perform (.commit now turn) store).stories[storyId]? = some next ∧
      Moves store storyId (.commit now turn) story next := by
  by_cases own : turn.storyId = storyId
  · subst own
    cases fresh : story.committed[turn.turn.idempotencyKey]? with
    | some existing =>
      refine ⟨story, ?_, Moves.still ?_⟩
      · rw [StoreOp.perform, commit_replays now found fresh, found]
      · simp [StoreOp.AcceptedBy, fresh]
    | none =>
      by_cases accepts : story.Accepts turn
      · have call := commit_accepts now found accepts
        refine ⟨story.record store.config now turn, ?_, ?_, ?_, ?_⟩
        · rw [StoreOp.perform, call, insertStory_get?, if_pos rfl]
        · exact (accepts.coverage store.config now).1
        · intro _
          rw [StoredStory.record_turnNumber, accepts.admission.follows]
        · intro idle
          exact absurd ⟨rfl, fresh, turn, by rw [call]⟩ idle
      · obtain ⟨error, _, call⟩ := commit_refuses now found fresh accepts
        refine ⟨story, ?_, Moves.still ?_⟩
        · rw [StoreOp.perform, call, found]
        · simp [StoreOp.AcceptedBy, call]
  · refine ⟨story, ?_, Moves.still ?_⟩
    · have writes := (StoreOp.commit now turn).perform_writes store
      generalize StoreOp.perform (.commit now turn) store = after at writes
      cases writes with
      | nothing => exact found
      | committed => rw [insertStory_get?, if_neg own, found]
    · simp [StoreOp.AcceptedBy, own]

/-- A commit call leaves a story as it was, or with an accepted turn recorded. -/
theorem commit_next (now : DateTime) (turn : StoryCommit)
    (found : store.stories[storyId]? = some story)
    (next : ((commit now turn).call store).2.stories[storyId]? = some after) :
    after = story ∨ turn.storyId = storyId ∧ story.Accepts turn ∧
      after = story.record store.config now turn := by
  change (StoreOp.perform (.commit now turn) store).stories[storyId]? = some after at next
  have writes := (StoreOp.commit now turn).perform_writes store
  generalize StoreOp.perform (.commit now turn) store = left at writes next
  cases writes with
  | nothing => exact .inl (Option.some.inj (next.symm.trans found))
  | @committed earlier _ _ stored accepts =>
    rw [insertStory_get?] at next
    split at next
    · rename_i own
      rw [own, found] at stored
      cases stored
      exact .inr ⟨own, accepts, (Option.some.inj next).symm⟩
    · exact .inl (Option.some.inj (next.symm.trans found))

/-- A commit call neither adds nor drops a story, and keeps every pack reference. -/
theorem commit_packRefs (now : DateTime) (turn : StoryCommit) (store : StoryStoreMem)
    (storyId : StoryId) :
    ((commit now turn).call store).2.stories[storyId]?.map (·.context.packRef) =
      store.stories[storyId]?.map (·.context.packRef) := by
  change (StoreOp.perform (.commit now turn) store).stories[storyId]?.map _ = _
  have writes := (StoreOp.commit now turn).perform_writes store
  generalize StoreOp.perform (.commit now turn) store = after at writes
  cases writes with
  | nothing => rfl
  | committed _ found _ =>
    rw [insertStory_get?]
    split
    · rename_i own
      rw [← own, found, Option.map_some, Option.map_some, StoredStory.record_packRef]
    · rfl

theorem keep_moves {op : StoreOp} (keeps : op.keeps = true)
    (found : store.stories[storyId]? = some story) :
    ∃ next, (op.perform store).stories[storyId]? = some next ∧
      Moves store storyId op story next := by
  cases op with
  | create now spec =>
    refine ⟨story, ?_, Moves.still (by simp [StoreOp.AcceptedBy])⟩
    have writes := (StoreOp.create now spec).perform_writes store
    generalize StoreOp.perform (.create now spec) store = after at writes
    cases writes with
    | nothing => exact found
    | created _ _ absent =>
      rw [insertStory_get?, if_neg, found]
      rintro rfl
      simp [found] at absent
  | commit now turn => exact commit_moves now turn found
  | remove _ => contradiction

/-- One call that keeps the stories, as seen by a story: it stays, or takes a turn. -/
theorem keep_next {op : StoreOp} (keeps : op.keeps = true)
    (found : store.stories[storyId]? = some story) :
    (op.perform store).stories[storyId]? = some story ∨
    ∃ now turn, op = .commit now turn ∧ turn.storyId = storyId ∧ story.Accepts turn ∧
      (op.perform store).stories[storyId]? = some (story.record store.config now turn) := by
  obtain ⟨next, foundNext, moves⟩ := keep_moves keeps found
  cases op with
  | create now spec =>
    rw [moves.otherwise (by simp [StoreOp.AcceptedBy])] at foundNext
    exact .inl foundNext
  | remove _ => contradiction
  | commit now turn =>
    rcases commit_next now turn found foundNext with rfl | ⟨own, accepts, rfl⟩
    · exact .inl foundNext
    · exact .inr ⟨now, turn, rfl, own, accepts, foundNext⟩

/-- A story that is not active never changes again. -/
theorem keep_run_inactive (run : Transition.Reaches KeepStep store later)
    (found : store.stories[storyId]? = some story) (inactive : story.context.lifeCycle ≠ .active) :
    later.stories[storyId]? = some story := by
  refine Transition.invariant (P := fun store => store.stories[storyId]? = some story) ?_ run found
  rintro before _ found ⟨op, keeps, rfl⟩
  rcases keep_next keeps found with same | ⟨_, _, _, _, accepts, _⟩
  · exact same
  · exact absurd accepts.admission.active inactive

theorem keep_run (run : Transition.Reaches KeepStep store later)
    (found : store.stories[storyId]? = some story) :
    ∃ next, later.stories[storyId]? = some next ∧
      story.context.coveredThrough ≤ next.context.coveredThrough := by
  refine Transition.follow (·.stories[storyId]?)
    (R := fun before after => before.context.coveredThrough ≤ after.context.coveredThrough)
    (fun _ => le_rfl) Nat.le_trans ?_ run found
  rintro store _ story ⟨op, keeps, rfl⟩ found
  obtain ⟨next, foundNext, moves⟩ := keep_moves keeps found
  exact ⟨next, foundNext, moves.covered⟩

theorem recent_window_invariant (reachable : Reachable config store) :
    (∀ (storyId : StoryId) (story : StoredStory), store.stories[storyId]? = some story →
      story.Windowed config.maxRecentTurns) ∧
    (∀ (op : StoreOp) (storyId : StoryId) (story : StoredStory), op.keeps = true →
      store.stories[storyId]? = some story →
      ∃ next, (op.perform store).stories[storyId]? = some next ∧
        Moves store storyId op story next) ∧
    (∀ (later : StoryStoreMem), Transition.Reaches KeepStep store later →
      ∀ (storyId : StoryId) (story : StoredStory), store.stories[storyId]? = some story →
      ∃ next, later.stories[storyId]? = some next ∧
        story.context.coveredThrough ≤ next.context.coveredThrough) := by
  refine ⟨?_, ?_, ?_⟩
  · intro storyId story found
    obtain ⟨log, recorded⟩ := reachable.recorded found
    exact recorded.windowed
  · intro op storyId story keeps found
    exact keep_moves keeps found
  · intro later run storyId story found
    exact keep_run run found

theorem recent_window_invariant_sample :
    ∃ story, Sample.store.stories[Sample.storyId]? = some story ∧
      story.context.turnNumber.value = 2 ∧ story.Windowed 4096 := by
  obtain ⟨story, found, turns⟩ := Sample.played
  have window := recent_window_invariant (reachable_performAll {} Sample.calls)
  exact ⟨story, found, turns, window.1 Sample.storyId story found⟩

end StoryStoreMem
end Aise
