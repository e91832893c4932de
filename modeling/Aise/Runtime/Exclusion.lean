import Aise.Lib.Tally
import Aise.Runtime.StoryTurnCoordinator

/-! One turn of a story at a time. A semaphore has one holder, so it is enough that all calls
about a story share the semaphore of its entry; they do as long as no entry is reclaimed that a
call is still about. -/
namespace Aise.Domain
open OrdMap Transition

/-- With the permit of its semaphore. -/
def CallPhase.inner : CallPhase → Bool
  | .granted | .admitted | .holding => true
  | .waiting | .failed | .dropping | .releasing _ => false

/-- With the permit of its semaphore, or waiting for it. -/
def CallPhase.shares : CallPhase → Bool
  | .waiting | .granted | .admitted | .holding => true
  | .failed | .dropping | .releasing _ => false

namespace StoryTurnCoordinator

/-- The semaphore that the entry of a story has. -/
def semaphoreOf (stories : BTreeMap StoryId StoryEntry) (storyId : StoryId) : Option Nat :=
  stories[storyId]?.map StoryEntry.semaphore

/-- Whether a call has the permit of the semaphore, as a count. -/
def innerOf (semaphore : Nat) (_ : Nat) (call : Call) : Nat :=
  if call.semaphore = semaphore ∧ call.phase.inner = true then 1 else 0

/-- What `tokio` guarantees of its semaphores: the one permit of each is free or with one
call. -/
structure Sound (state : StoryTurnCoordinator) : Prop where
  calls : ∀ (call : Nat) (found : Call), state.calls[call]? = some found →
    found.semaphore < state.nextSemaphore
  entries : ∀ (storyId : StoryId) (semaphore : Nat),
    semaphoreOf state.stories storyId = some semaphore → semaphore < state.nextSemaphore
  single : ∀ semaphore < state.nextSemaphore,
    total (innerOf semaphore) state.calls + state.permits semaphore = 1

/-- The calls about a story share the semaphore of its entry. -/
def Shared (state : StoryTurnCoordinator) : Prop :=
  ∀ (call : Nat) (found : Call), state.calls[call]? = some found → found.phase.shares = true →
    semaphoreOf state.stories found.storyId = some found.semaphore

/-- At most one permit of a story holds its inner permit. -/
def Exclusive (state : StoryTurnCoordinator) : Prop :=
  ∀ (first second : Nat) (one other : Call), state.calls[first]? = some one →
    state.calls[second]? = some other → one.phase = .holding → other.phase = .holding →
    one.storyId = other.storyId → first = second

theorem Sound.exclusive {state : StoryTurnCoordinator} (sound : state.Sound)
    (shared : state.Shared) : state.Exclusive := by
  intro first second one other known also holds holdsToo same
  by_contra apart
  have own := shared first one known (by rw [holds]; rfl)
  have ownToo := shared second other also (by rw [holdsToo]; rfl)
  rw [← same, own] at ownToo
  have equal : one.semaphore = other.semaphore := Option.some.inj ownToo
  have both := add_le_total (innerOf one.semaphore) apart known also
  have single := sound.single one.semaphore (sound.calls first one known)
  have one_inner : innerOf one.semaphore first one = 1 := if_pos ⟨rfl, by rw [holds]; rfl⟩
  have other_inner : innerOf one.semaphore second other = 1 :=
    if_pos ⟨equal.symm, by rw [holdsToo]; rfl⟩
  omega

/-! ### Writes -/

section
variable {config : CoordinatorConfig} {state next : StoryTurnCoordinator} {call : Nat}
  {found : Call}

theorem get_reclaim {stories : BTreeMap StoryId StoryEntry} {now : Nat} {storyId : StoryId}
    {entry : StoryEntry} : (reclaim config stories now)[storyId]? = some entry ↔
      stories[storyId]? = some entry ∧ keeps config now entry = true := by
  rw [reclaim, Std.ExtTreeMap.getElem?_filter', Option.filter_eq_some_iff]

/-- A call moves on to a phase, and the permit of its semaphore with it. -/
theorem total_setPhase (measure : Nat → Call → Nat) (known : state.calls[call]? = some found)
    (phase : CallPhase) :
    total measure (state.setPhase call found phase).calls + measure call found =
      measure call { found with phase := phase } + total measure state.calls := by
  have written := total_insert measure state.calls call { found with phase := phase }
  rwa [part, known, Option.elim_some] at written

theorem total_gone (measure : Nat → Call → Nat) (known : state.calls[call]? = some found) :
    total measure (state.calls.erase call) + measure call found = total measure state.calls := by
  have erased := total_erase measure state.calls call
  rwa [part, known, Option.elim_some] at erased

/-- A write to the entry of a story that leaves its semaphore alone. -/
theorem get_modify_semaphore {stories : BTreeMap StoryId StoryEntry} {storyId other : StoryId}
    {change : StoryEntry → StoryEntry} (same : ∀ entry, (change entry).semaphore = entry.semaphore) :
    (stories.modify storyId change)[other]?.map StoryEntry.semaphore =
      stories[other]?.map StoryEntry.semaphore := by
  rw [get_modify]
  split
  · rw [Option.map_map]
    exact congrArg (fun f => stories[other]?.map f) (funext same)
  · rfl

@[simp] theorem semaphoreOf_unwait (stories : BTreeMap StoryId StoryEntry)
    (storyId other : StoryId) :
    semaphoreOf (unwait stories storyId) other = semaphoreOf stories other :=
  get_modify_semaphore fun _ => rfl

@[simp] theorem semaphoreOf_markIdle (stories : BTreeMap StoryId StoryEntry)
    (storyId other : StoryId) (now : Nat) :
    semaphoreOf (markIdle stories storyId now) other = semaphoreOf stories other :=
  get_modify_semaphore fun entry => by split <;> rfl

theorem semaphoreOf_reclaim {stories : BTreeMap StoryId StoryEntry} {now semaphore : Nat}
    {storyId : StoryId} (found : semaphoreOf (reclaim config stories now) storyId = some semaphore) :
    semaphoreOf stories storyId = some semaphore := by
  obtain ⟨entry, kept, rfl⟩ := Option.map_eq_some_iff.mp found
  exact Option.map_eq_some_iff.mpr ⟨entry, (get_reclaim.mp kept).1, rfl⟩

/-! ### The semaphores -/

/-- A call moves on to a phase and takes or gives back the permit of its semaphore. -/
theorem Sound.moved (sound : state.Sound) (known : state.calls[call]? = some found)
    {phase : CallPhase} (calls : next.calls = (state.setPhase call found phase).calls)
    (entries : ∀ storyId semaphore, semaphoreOf next.stories storyId = some semaphore →
      semaphoreOf state.stories storyId = some semaphore)
    (numbered : next.nextSemaphore = state.nextSemaphore)
    (balance : ∀ semaphore, innerOf semaphore call { found with phase := phase } +
      next.permits semaphore = innerOf semaphore call found + state.permits semaphore) :
    next.Sound := by
  refine ⟨fun other stored also => ?_, fun storyId semaphore own => ?_, fun semaphore below => ?_⟩
  · rw [numbered]
    rw [calls, setPhase, get_insert] at also
    split at also
    · cases also
      exact sound.calls call found known
    · exact sound.calls other stored also
  · rw [numbered]
    exact sound.entries storyId semaphore (entries storyId semaphore own)
  · rw [numbered] at below
    have single := sound.single semaphore below
    have counted := total_setPhase (innerOf semaphore) known phase
    have balanced := balance semaphore
    rw [calls]
    omega

/-- A call without the permit of its semaphore ends. -/
theorem Sound.ended (sound : state.Sound) (known : state.calls[call]? = some found)
    (outside : found.phase.inner = false) (calls : next.calls = state.calls.erase call)
    (entries : ∀ storyId semaphore, semaphoreOf next.stories storyId = some semaphore →
      semaphoreOf state.stories storyId = some semaphore)
    (numbered : next.nextSemaphore = state.nextSemaphore) (permits : next.permits = state.permits) :
    next.Sound := by
  refine ⟨fun other stored also => ?_, fun storyId semaphore own => ?_, fun semaphore below => ?_⟩
  · rw [numbered]
    rw [calls, get_erase] at also
    split at also
    · cases also
    · exact sound.calls other stored also
  · rw [numbered]
    exact sound.entries storyId semaphore (entries storyId semaphore own)
  · rw [numbered] at below
    have single := sound.single semaphore below
    have counted := total_gone (innerOf semaphore) known
    have nothing : innerOf semaphore call found = 0 := if_neg (by simp [outside])
    rw [calls, permits]
    omega

/-- The entry that `or_insert_with` finds or makes, and no other that was not there. -/
theorem semaphoreOf_orInsert (state : StoryTurnCoordinator) (stories : BTreeMap StoryId StoryEntry)
    (storyId other : StoryId) :
    semaphoreOf (state.orInsert stories storyId).stories other =
      if storyId = other then some (state.entryOf stories storyId).semaphore
      else semaphoreOf stories other := by
  unfold orInsert entryOf semaphoreOf
  cases known : stories[storyId]? with
  | some entry =>
    dsimp only
    split
    · rename_i same
      rw [← same, known]
      rfl
    · rfl
  | none =>
    dsimp only
    rw [get_insert]
    split <;> rfl

theorem Sound.opened (sound : state.Sound) {stories : BTreeMap StoryId StoryEntry}
    (within : ∀ storyId semaphore, semaphoreOf stories storyId = some semaphore →
      semaphoreOf state.stories storyId = some semaphore) (storyId : StoryId) :
    (state.orInsert stories storyId).Sound := by
  have bounded : ∀ other semaphore, semaphoreOf stories other = some semaphore →
      semaphore < state.nextSemaphore :=
    fun other semaphore own => sound.entries other semaphore (within other semaphore own)
  unfold orInsert
  split
  · exact ⟨sound.calls, bounded, sound.single⟩
  · refine ⟨fun call found known => ?_, fun other semaphore own => ?_, fun semaphore below => ?_⟩
    · exact Nat.lt_succ_of_lt (sound.calls call found known)
    · dsimp only [semaphoreOf] at own
      rw [get_insert] at own
      split at own
      · cases own
        exact Nat.lt_succ_self _
      · exact Nat.lt_succ_of_lt (bounded other semaphore own)
    · dsimp only
      by_cases new : semaphore = state.nextSemaphore
      · have none : total (innerOf semaphore) state.calls = 0 := by
          rw [total_eq_zero_iff]
          intro call found known
          have old := sound.calls call found known
          exact if_neg fun own => by omega
        rw [none, new, Function.update_self]
      · rw [Function.update_of_ne new]
        have bound : semaphore < state.nextSemaphore + 1 := below
        exact sound.single semaphore (by omega)

/-- A call that joins those waiting has no permit yet. -/
theorem Sound.joined (sound : state.Sound) {storyId : StoryId} {semaphore : Nat}
    (fresh : state.calls[call]? = none) (bounded : semaphore < state.nextSemaphore)
    (calls : next.calls = state.calls.insert call ⟨storyId, semaphore, .waiting⟩)
    (entries : ∀ other number, semaphoreOf next.stories other = some number →
      number < state.nextSemaphore)
    (numbered : next.nextSemaphore = state.nextSemaphore) (permits : next.permits = state.permits) :
    next.Sound := by
  refine ⟨fun other stored also => ?_, fun other number own => ?_, fun number below => ?_⟩
  · rw [numbered]
    rw [calls, get_insert] at also
    split at also
    · cases also
      exact bounded
    · exact sound.calls other stored also
  · rw [numbered]
    exact entries other number own
  · rw [numbered] at below
    have single := sound.single number below
    have counted := total_insert_fresh (innerOf number) fresh ⟨storyId, semaphore, .waiting⟩
    have nothing : innerOf number call ⟨storyId, semaphore, .waiting⟩ = 0 :=
      if_neg fun own => by cases own.2
    rw [calls, permits]
    omega

variable (config state call) in
/-- The ends of the first locked section: full, refused by the story, or waiting. -/
theorem enter_cases (storyId : StoryId) (now : Nat) {P : StoryTurnCoordinator → Prop}
    (full : P { state with stories := reclaim config state.stories now, clock := now })
    (refused : config.maxWaitersPerStory ≤
        (state.entryOf (reclaim config state.stories now) storyId).waiters →
      P { state.orInsert (reclaim config state.stories now) storyId with clock := now })
    (joined : P { state.orInsert (reclaim config state.stories now) storyId with
      stories := (state.orInsert (reclaim config state.stories now) storyId).stories.insert storyId
        { state.entryOf (reclaim config state.stories now) storyId with
          waiters := (state.entryOf (reclaim config state.stories now) storyId).waiters + 1 }
      totalWaiters := state.totalWaiters + 1
      calls := state.calls.insert call
        ⟨storyId, (state.entryOf (reclaim config state.stories now) storyId).semaphore, .waiting⟩
      clock := now }) : P (state.enter config call storyId now) := by
  unfold enter
  dsimp only
  split
  · exact full
  · split
    · rename_i crowded
      exact refused crowded
    · exact joined

theorem semaphoreOf_insert {stories : BTreeMap StoryId StoryEntry} (storyId other : StoryId)
    (entry : StoryEntry) : semaphoreOf (stories.insert storyId entry) other =
      if storyId = other then some entry.semaphore else semaphoreOf stories other := by
  rw [semaphoreOf, get_insert]
  split <;> rfl

/-- Joining an entry leaves its semaphore as it was opened. -/
theorem semaphoreOf_joined (state : StoryTurnCoordinator) (stories : BTreeMap StoryId StoryEntry)
    (storyId other : StoryId) (waiters : Nat) :
    semaphoreOf ((state.orInsert stories storyId).stories.insert storyId
      { state.entryOf stories storyId with waiters := waiters }) other =
      semaphoreOf (state.orInsert stories storyId).stories other := by
  rw [semaphoreOf_insert, semaphoreOf_orInsert]
  split <;> rfl

@[simp] theorem orInsert_calls (state : StoryTurnCoordinator)
    (stories : BTreeMap StoryId StoryEntry) (storyId : StoryId) :
    (state.orInsert stories storyId).calls = state.calls := by
  unfold orInsert
  split <;> rfl

theorem innerOf_inner {semaphore : Nat} (own : found.semaphore = semaphore)
    (inner : found.phase.inner = true) : innerOf semaphore call found = 1 := if_pos ⟨own, inner⟩

theorem innerOf_outer {semaphore : Nat} (outer : found.phase.inner = false) :
    innerOf semaphore call found = 0 := if_neg (by simp [outer])

theorem innerOf_other {semaphore : Nat} (other : found.semaphore ≠ semaphore) :
    innerOf semaphore call found = 0 := if_neg fun own => other own.1

theorem innerOf_same {semaphore : Nat} {phase : CallPhase} (same : phase.inner = found.phase.inner) :
    innerOf semaphore call { found with phase := phase } = innerOf semaphore call found := by
  rw [innerOf, innerOf, same]

/-- Semaphores stay sound whatever happens. -/
theorem Moves.sound {event : CoordinatorEvent} (moves : Moves config state event next)
    (sound : state.Sound) : next.Sound := by
  cases moves with
  | @enter call storyId now fresh later =>
    have opened : (state.orInsert (reclaim config state.stories now) storyId).Sound :=
      sound.opened (fun _ _ => semaphoreOf_reclaim) storyId
    refine enter_cases config state call storyId now ?_ (fun _ => ?_) ?_
    · exact ⟨sound.calls, fun other semaphore own =>
        sound.entries other semaphore (semaphoreOf_reclaim own), sound.single⟩
    · exact ⟨opened.calls, opened.entries, opened.single⟩
    · have own := semaphoreOf_orInsert state (reclaim config state.stories now) storyId storyId
      rw [if_pos rfl] at own
      refine opened.joined (by rw [orInsert_calls]; exact fresh) (opened.entries storyId _ own)
        (by rw [orInsert_calls]) (fun other semaphore stored => ?_) rfl rfl
      rw [semaphoreOf_joined] at stored
      exact opened.entries other semaphore stored
  | @grant call found known phase free =>
    refine sound.moved known rfl (fun _ _ own => own) rfl fun semaphore => ?_
    dsimp only
    by_cases own : semaphore = found.semaphore
    · subst own
      have after : innerOf found.semaphore call { found with phase := .granted } = 1 :=
        innerOf_inner rfl rfl
      rw [Function.update_self, after, innerOf_outer (by rw [phase]; rfl)]
      omega
    · have after : innerOf semaphore call { found with phase := .granted } = 0 :=
        innerOf_other (Ne.symm own)
      rw [Function.update_of_ne own, after, innerOf_other (Ne.symm own)]
  | fail known phase =>
    exact sound.moved known rfl (fun _ _ own => own) rfl fun _ => by
      rw [innerOf_outer rfl, innerOf_outer (by rw [phase]; rfl)]
      rfl
  | abandon known phase =>
    exact sound.ended known (by rw [phase]; rfl) rfl (fun _ _ own => own) rfl rfl
  | accept known phase =>
    refine sound.moved known rfl (fun _ _ own => ?_) rfl fun _ => ?_
    · exact semaphoreOf_unwait _ _ _ ▸ own
    · rw [innerOf_same (by rw [phase]; rfl)]
      rfl
  | leave known phase =>
    refine sound.ended known (by rw [phase]; rfl) rfl (fun _ _ own => ?_) rfl rfl
    exact semaphoreOf_unwait _ _ _ ▸ own
  | issue known phase =>
    exact sound.moved known rfl (fun _ _ own => own) rfl fun _ => by
      rw [innerOf_same (by rw [phase]; rfl)]
      rfl
  | @dropInner call found known phase =>
    refine sound.moved known rfl (fun _ _ own => own) rfl fun semaphore => ?_
    dsimp only
    by_cases own : semaphore = found.semaphore
    · subst own
      rw [Function.update_self, innerOf_outer rfl, innerOf_inner rfl (by rw [phase]; rfl)]
      omega
    · have after : innerOf semaphore call { found with phase := .dropping } = 0 := innerOf_outer rfl
      rw [Function.update_of_ne own, after, innerOf_other (Ne.symm own)]
  | beginRelease known phase later =>
    exact sound.moved known rfl (fun _ _ own => own) rfl fun _ => by
      rw [innerOf_outer rfl, innerOf_outer (by rw [phase]; rfl)]
      rfl
  | finishRelease known phase =>
    refine sound.ended known (by rw [phase]; rfl) rfl (fun _ _ own => ?_) rfl rfl
    exact semaphoreOf_markIdle _ _ _ _ ▸ semaphoreOf_reclaim own
  | reclaimIdle later =>
    exact ⟨sound.calls, fun other semaphore own =>
      sound.entries other semaphore (semaphoreOf_reclaim own), sound.single⟩

/-! ### Sharing the semaphore of a story -/

/-- What reclaiming leaves is shared as before, if it spares what is shared. -/
theorem Shared.reclaimed (shared : state.Shared) {stories : BTreeMap StoryId StoryEntry} {now : Nat}
    (same : ∀ storyId, semaphoreOf stories storyId = semaphoreOf state.stories storyId)
    (spared : ∀ (call : Nat) (found : Call), state.calls[call]? = some found →
      found.phase.shares = true → ∀ entry, stories[found.storyId]? = some entry →
        keeps config now entry = true)
    (known : state.calls[call]? = some found) (shares : found.phase.shares = true) :
    semaphoreOf (reclaim config stories now) found.storyId = some found.semaphore := by
  have before := shared call found known shares
  rw [← same] at before
  obtain ⟨entry, stored, own⟩ := Option.map_eq_some_iff.mp before
  exact Option.map_eq_some_iff.mpr
    ⟨entry, get_reclaim.mpr ⟨stored, spared call found known shares entry stored⟩, own⟩

/-- A call that moves on without waiting anew keeps the semaphore it had. -/
theorem Shared.moved (shared : state.Shared) (known : state.calls[call]? = some found)
    {phase : CallPhase} (onward : phase.shares = true → found.phase.shares = true)
    (calls : next.calls = (state.setPhase call found phase).calls)
    (same : ∀ storyId, semaphoreOf next.stories storyId = semaphoreOf state.stories storyId) :
    next.Shared := by
  intro other stored also shares
  rw [same]
  rw [calls, setPhase, get_insert] at also
  split at also
  · cases also
    exact shared call found known (onward shares)
  · exact shared other stored also shares

theorem Shared.ended (shared : state.Shared) (calls : next.calls = state.calls.erase call)
    (kept : ∀ (other : Nat) (stored : Call), state.calls[other]? = some stored →
      stored.phase.shares = true → semaphoreOf state.stories stored.storyId = some stored.semaphore →
        semaphoreOf next.stories stored.storyId = some stored.semaphore) : next.Shared := by
  intro other stored also shares
  rw [calls, get_erase] at also
  split at also
  · cases also
  · exact kept other stored also shares (shared other stored also shares)

/-- The calls about a story go on sharing its semaphore when no entry they are about is
reclaimed. -/
theorem Moves.shared {event : CoordinatorEvent} (moves : Moves config state event next)
    (spares : state.Spares config CallPhase.shares event) (shared : state.Shared) :
    next.Shared := by
  cases moves with
  | @enter call storyId now fresh later =>
    have kept (other : Nat) (stored : Call) (also : state.calls[other]? = some stored)
        (shares : stored.phase.shares = true) :
        semaphoreOf (reclaim config state.stories now) stored.storyId = some stored.semaphore :=
      shared.reclaimed (fun _ => rfl) (spares state.stories now rfl) also shares
    have opened (other : Nat) (stored : Call) (also : state.calls[other]? = some stored)
        (shares : stored.phase.shares = true) :
        semaphoreOf (state.orInsert (reclaim config state.stories now) storyId).stories
          stored.storyId = some stored.semaphore := by
      have before := kept other stored also shares
      rw [semaphoreOf_orInsert]
      split
      · rename_i same
        rw [← same] at before
        obtain ⟨entry, found, own⟩ := Option.map_eq_some_iff.mp before
        rw [entryOf, found, Option.getD_some, own]
      · exact before
    refine enter_cases config state call storyId now kept (fun _ => ?_) ?_
    · intro other stored also shares
      have before : state.calls[other]? = some stored := by
        rw [← orInsert_calls state (reclaim config state.stories now) storyId]
        exact also
      exact opened other stored before shares
    · intro other stored also shares
      rw [semaphoreOf_joined]
      dsimp only at also
      rw [get_insert] at also
      split at also
      · cases also
        rw [semaphoreOf_orInsert, if_pos rfl]
      · exact opened other stored also shares
  | grant known phase free =>
    exact shared.moved known (fun _ => by rw [phase]; rfl) rfl fun _ => rfl
  | fail known phase =>
    exact shared.moved known (fun shares => by cases shares) rfl fun _ => rfl
  | abandon known phase => exact shared.ended rfl fun _ _ _ _ own => own
  | accept known phase =>
    exact shared.moved known (fun _ => by rw [phase]; rfl) rfl fun _ => semaphoreOf_unwait _ _ _
  | leave known phase =>
    exact shared.ended rfl fun _ _ _ _ own => (semaphoreOf_unwait _ _ _).trans own
  | issue known phase =>
    exact shared.moved known (fun _ => by rw [phase]; rfl) rfl fun _ => rfl
  | dropInner known phase =>
    exact shared.moved known (fun shares => by cases shares) rfl fun _ => rfl
  | beginRelease known phase later =>
    exact shared.moved known (fun shares => by cases shares) rfl fun _ => rfl
  | @finishRelease call now found known phase =>
    refine shared.ended rfl fun other stored also shares _ => ?_
    refine shared.reclaimed (fun _ => semaphoreOf_markIdle _ _ _ _) (spares _ now ?_) also shares
    simp [reclaiming, known, phase]
  | @reclaimIdle now later =>
    exact fun other stored also shares =>
      shared.reclaimed (fun _ => rfl) (spares state.stories now rfl) also shares

/-- In a run that reclaims no entry while a call waits for its semaphore or has the permit of
it, at most one permit of a story holds its inner permit. -/
theorem one_turn_per_story {clock : Nat}
    (run : Reaches (StepBy config fun state event => state.Spares config CallPhase.shares event)
      { clock := clock } state) : state.Exclusive := by
  have initial : ({ clock := clock } : StoryTurnCoordinator).Sound ∧
      ({ clock := clock } : StoryTurnCoordinator).Shared := by
    refine ⟨⟨?_, ?_, fun _ below => absurd below (Nat.not_lt_zero _)⟩, ?_⟩
    · intro call found known
      simp at known
    · intro storyId semaphore own
      simp [semaphoreOf] at own
    · intro call found known
      simp at known
  have holds : state.Sound ∧ state.Shared := by
    refine invariant (P := fun state => state.Sound ∧ state.Shared) (fun before step => ?_) run
      initial
    obtain ⟨event, spares, stepped⟩ := step
    exact ⟨(step_moves stepped).sound before.1, (step_moves stepped).shared spares before.2⟩
  exact holds.1.exclusive holds.2

end

namespace Exclusion.Sample

def config : CoordinatorConfig := ⟨16, 64, 300⟩

def tale : StoryId := ⟨"tide", by decide⟩

/-- One call of `acquire` from its start to its permit. -/
def acquires (call now : Nat) : List CoordinatorEvent :=
  [.enter call tale now, .grant call, .settle call, .issue call]

/-- The second call has its permit before the drop of the first one marks the entry idle, and
still has it when the third call reclaims the entry. -/
def overtaken : List CoordinatorEvent :=
  acquires 0 0 ++ [.dropInner 0] ++ acquires 1 1 ++ [.beginRelease 0 2, .finishRelease 0] ++
    acquires 2 400

theorem two_turns_of_one_story :
    ¬∀ (config : CoordinatorConfig) (clock : Nat) (state : StoryTurnCoordinator),
      Reaches (Step config) { clock := clock } state → state.Exclusive := by
  intro exclusive
  have ends : (run config (fun _ _ => True) { clock := 0 } overtaken).any (fun state =>
      state.calls[1]? = some ⟨tale, 0, .holding⟩ ∧
        state.calls[2]? = some ⟨tale, 1, .holding⟩) = true := by decide +kernel
  obtain ⟨state, ran, both⟩ := (Option.any_eq_true _ _).mp ends
  obtain ⟨first, second⟩ := of_decide_eq_true both
  exact absurd (exclusive config 0 state (run_reaches ran) 1 2 _ _ first second rfl rfl rfl)
    (by decide)

/-- With time between a turn and the next, the turns take turns. -/
def spaced : List CoordinatorEvent :=
  acquires 0 0 ++ [.enter 1 tale 1, .dropInner 0, .grant 1, .beginRelease 0 2, .finishRelease 0,
    .settle 1, .issue 1]

theorem spaced_turns_exclusive :
    ∃ state, run config (fun state event => state.Spares config CallPhase.shares event) {} spaced =
      some state ∧ state.calls[1]? = some ⟨tale, 0, .holding⟩ ∧ state.Exclusive := by
  have ends : (run config (fun state event => state.Spares config CallPhase.shares event) {}
      spaced).any (fun state => state.calls[1]? = some ⟨tale, 0, .holding⟩) = true := by
    decide +kernel
  obtain ⟨state, ran, held⟩ := (Option.any_eq_true _ _).mp ends
  exact ⟨state, ran, of_decide_eq_true held, one_turn_per_story (run_reaches ran)⟩

end Exclusion.Sample

end StoryTurnCoordinator

end Aise.Domain
