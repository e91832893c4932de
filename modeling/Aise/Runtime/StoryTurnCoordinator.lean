import Aise.Domain.Knowledge
import Aise.Lib.Transition
import Aise.Lib.OrdMap

/-! The coordinator that lets one turn of a story run at a time. Each call of `acquire` goes
through the phases below; between two of its steps any other call may take steps of its own. -/
namespace Aise.Domain
open OrdMap

structure CoordinatorConfig where
  maxWaitersPerStory : Nat
  maxTotalWaiters : Nat
  idleTimeout : Nat
  deriving DecidableEq

/-- The `Arc<Semaphore>` of an entry is one of the semaphores made so far. -/
structure StoryEntry where
  semaphore : Nat
  waiters : Nat := 0
  idleSince : Option Nat := none
  deriving DecidableEq

/-- How far a call of `acquire`, or the permit it returned, has come. -/
inductive CallPhase where
  /-- Past the first locked section, the future of `wait_for_permit` pending. -/
  | waiting
  /-- The semaphore has handed out its permit, the second locked section is to come. -/
  | granted
  /-- Cancelled, past its deadline or shut down, the second locked section is to come. -/
  | failed
  /-- Past the second locked section with the permit of the semaphore. -/
  | admitted
  /-- A `StoryPermit` with its inner permit. -/
  | holding
  /-- The drop of the `StoryPermit` has let go of the inner permit. -/
  | dropping
  /-- In `release`, with the clock reading it took. -/
  | releasing (now : Nat)
  deriving DecidableEq

structure Call where
  storyId : StoryId
  semaphore : Nat
  phase : CallPhase
  deriving DecidableEq

/-- The coordinator with the semaphores it has made, the calls that are under way and the last
clock reading. -/
structure StoryTurnCoordinator where
  stories : BTreeMap StoryId StoryEntry := ∅
  totalWaiters : Nat := 0
  activePermits : Nat := 0
  nextSemaphore : Nat := 0
  permits : Nat → Nat := fun _ => 0
  calls : BTreeMap Nat Call := ∅
  clock : Nat := 0

/-- What may happen next, each in one step. -/
inductive CoordinatorEvent where
  | enter (call : Nat) (storyId : StoryId) (now : Nat)
  | grant (call : Nat)
  | fail (call : Nat)
  /-- The future of `acquire` is dropped while it waits. -/
  | abandon (call : Nat)
  | settle (call : Nat)
  | issue (call : Nat)
  | dropInner (call : Nat)
  | beginRelease (call now : Nat)
  | finishRelease (call : Nat)
  | reclaimIdle (now : Nat)
  deriving DecidableEq

namespace StoryTurnCoordinator

/-- What `retain` keeps. -/
def keeps (config : CoordinatorConfig) (now : Nat) (entry : StoryEntry) : Bool :=
  match entry.idleSince with
  | some since => now - since < config.idleTimeout
  | none => true

def reclaim (config : CoordinatorConfig) (stories : BTreeMap StoryId StoryEntry) (now : Nat) :
    BTreeMap StoryId StoryEntry :=
  stories.filter fun _ entry => keeps config now entry

/-- The entry of a story, a new one with its own semaphore where there is none. -/
def entryOf (state : StoryTurnCoordinator) (stories : BTreeMap StoryId StoryEntry)
    (storyId : StoryId) : StoryEntry :=
  stories[storyId]?.getD { semaphore := state.nextSemaphore }

/-- `or_insert_with`. -/
def orInsert (state : StoryTurnCoordinator) (stories : BTreeMap StoryId StoryEntry)
    (storyId : StoryId) : StoryTurnCoordinator :=
  match stories[storyId]? with
  | some _ => { state with stories := stories }
  | none => { state with
      stories := stories.insert storyId { semaphore := state.nextSemaphore }
      nextSemaphore := state.nextSemaphore + 1
      permits := Function.update state.permits state.nextSemaphore 1 }

/-- The first locked section of `acquire`. A call that is refused leaves no trace of itself. -/
def enter (config : CoordinatorConfig) (state : StoryTurnCoordinator) (call : Nat)
    (storyId : StoryId) (now : Nat) : StoryTurnCoordinator :=
  let stories := reclaim config state.stories now
  if state.totalWaiters ≥ config.maxTotalWaiters then { state with stories := stories, clock := now }
  else
    let entry := entryOf state stories storyId
    let inserted := orInsert state stories storyId
    if entry.waiters ≥ config.maxWaitersPerStory then { inserted with clock := now }
    else { inserted with
      stories := inserted.stories.insert storyId { entry with waiters := entry.waiters + 1 }
      totalWaiters := state.totalWaiters + 1
      calls := state.calls.insert call ⟨storyId, entry.semaphore, .waiting⟩
      clock := now }

def setPhase (state : StoryTurnCoordinator) (call : Nat) (found : Call) (phase : CallPhase) :
    StoryTurnCoordinator :=
  { state with calls := state.calls.insert call { found with phase := phase } }

/-- What the second locked section of `acquire` writes to the entry of the story. -/
def unwait (stories : BTreeMap StoryId StoryEntry) (storyId : StoryId) :
    BTreeMap StoryId StoryEntry :=
  stories.modify storyId fun entry =>
    { entry with waiters := entry.waiters - 1, idleSince := none }

/-- The second locked section of `acquire`. -/
def settle (state : StoryTurnCoordinator) (found : Call) : StoryTurnCoordinator :=
  { state with
    stories := unwait state.stories found.storyId
    totalWaiters := state.totalWaiters - 1 }

/-- What the locked section of `release` writes to the entry of the story. -/
def markIdle (stories : BTreeMap StoryId StoryEntry) (storyId : StoryId) (now : Nat) :
    BTreeMap StoryId StoryEntry :=
  stories.modify storyId fun entry =>
    if entry.waiters = 0 then { entry with idleSince := some now } else entry

/-- One step, none where the event cannot happen. The clock never goes back. -/
def step (config : CoordinatorConfig) (state : StoryTurnCoordinator) :
    CoordinatorEvent → Option StoryTurnCoordinator
  | .enter call storyId now =>
    if state.calls[call]? = none ∧ state.clock ≤ now then some (state.enter config call storyId now)
    else none
  | .grant call => do
    let found ← state.calls[call]?
    if found.phase = .waiting ∧ 0 < state.permits found.semaphore then
      some { state.setPhase call found .granted with
        permits := Function.update state.permits found.semaphore
          (state.permits found.semaphore - 1) }
    else none
  | .fail call => do
    let found ← state.calls[call]?
    if found.phase = .waiting then some (state.setPhase call found .failed) else none
  | .abandon call => do
    let found ← state.calls[call]?
    if found.phase = .waiting then some { state with calls := state.calls.erase call } else none
  | .settle call => do
    let found ← state.calls[call]?
    if found.phase = .granted then some ((state.settle found).setPhase call found .admitted)
    else if found.phase = .failed then
      some { state.settle found with calls := state.calls.erase call }
    else none
  | .issue call => do
    let found ← state.calls[call]?
    if found.phase = .admitted then
      some { state.setPhase call found .holding with activePermits := state.activePermits + 1 }
    else none
  | .dropInner call => do
    let found ← state.calls[call]?
    if found.phase = .holding then
      some { state.setPhase call found .dropping with
        permits := Function.update state.permits found.semaphore
          (state.permits found.semaphore + 1) }
    else none
  | .beginRelease call now => do
    let found ← state.calls[call]?
    if found.phase = .dropping ∧ state.clock ≤ now then
      some { state.setPhase call found (.releasing now) with
        activePermits := state.activePermits - 1
        clock := now }
    else none
  | .finishRelease call => do
    let found ← state.calls[call]?
    match found.phase with
    | .releasing now => some { state with
        stories := reclaim config (markIdle state.stories found.storyId now) now
        calls := state.calls.erase call }
    | _ => none
  | .reclaimIdle now =>
    if state.clock ≤ now then
      some { state with stories := reclaim config state.stories now, clock := now }
    else none

/-- The entries that an event is about to reclaim from, and the clock reading it does so at. -/
def reclaiming (state : StoryTurnCoordinator) :
    CoordinatorEvent → Option (BTreeMap StoryId StoryEntry × Nat)
  | .enter _ _ now | .reclaimIdle now => some (state.stories, now)
  | .finishRelease call => do
    let found ← state.calls[call]?
    match found.phase with
    | .releasing now => some (markIdle state.stories found.storyId now, now)
    | _ => none
  | _ => none

/-- No entry is reclaimed that a call in one of the phases is still about. -/
def Spares (config : CoordinatorConfig) (busy : CallPhase → Bool) (state : StoryTurnCoordinator)
    (event : CoordinatorEvent) : Prop :=
  ∀ stories now, state.reclaiming event = some (stories, now) →
    ∀ (call : Nat) (found : Call), state.calls[call]? = some found → busy found.phase = true →
      ∀ entry, stories[found.storyId]? = some entry → keeps config now entry = true

theorem spares_iff {config : CoordinatorConfig} {busy : CallPhase → Bool}
    {state : StoryTurnCoordinator} {event : CoordinatorEvent} :
    state.Spares config busy event ↔ ((state.reclaiming event).all fun (stories, now) =>
      state.calls.toList.all fun (_, found) =>
        !busy found.phase || stories[found.storyId]?.all (keeps config now)) = true := by
  simp only [Spares, Option.all_eq_true, Prod.forall, List.all_eq_true,
    Std.ExtTreeMap.mem_toList_iff_getElem?_eq_some, Bool.or_eq_true, Bool.not_eq_true']
  refine forall_congr' fun stories => forall_congr' fun now => imp_congr_right fun _ =>
    forall_congr' fun call => forall_congr' fun found => imp_congr_right fun _ => ?_
  cases busy found.phase <;> simp

instance {config : CoordinatorConfig} {busy : CallPhase → Bool} {state : StoryTurnCoordinator}
    {event : CoordinatorEvent} : Decidable (state.Spares config busy event) :=
  decidable_of_iff _ spares_iff.symm

/-- A step by an event that is allowed. -/
def StepBy (config : CoordinatorConfig)
    (allowed : StoryTurnCoordinator → CoordinatorEvent → Prop) (state next : StoryTurnCoordinator) :
    Prop :=
  ∃ event, allowed state event ∧ state.step config event = some next

/-- A step of any kind. -/
def Step (config : CoordinatorConfig) : StoryTurnCoordinator → StoryTurnCoordinator → Prop :=
  StepBy config fun _ _ => True

/-- Events one after the other, as long as each is allowed and can happen. -/
def run (config : CoordinatorConfig)
    (allowed : StoryTurnCoordinator → CoordinatorEvent → Prop) [∀ s e, Decidable (allowed s e)] :
    StoryTurnCoordinator → List CoordinatorEvent → Option StoryTurnCoordinator
  | state, [] => some state
  | state, event :: events =>
    if allowed state event then (state.step config event).bind (run config allowed · events)
    else none

theorem run_reaches {config : CoordinatorConfig}
    {allowed : StoryTurnCoordinator → CoordinatorEvent → Prop} [∀ s e, Decidable (allowed s e)]
    {state last : StoryTurnCoordinator} {events : List CoordinatorEvent}
    (ran : run config allowed state events = some last) :
    Transition.Reaches (StepBy config allowed) state last := by
  induction events generalizing state with
  | nil =>
    cases ran
    exact .refl
  | cons event events ih =>
    rw [run, Option.ite_none_right_eq_some] at ran
    obtain ⟨fine, ran⟩ := ran
    obtain ⟨next, stepped, rest⟩ := Option.bind_eq_some_iff.mp ran
    exact .head ⟨event, fine, stepped⟩ (ih rest)

/-! ### What a step can do -/

/-- Every step, with what it takes and what it leaves. -/
inductive Moves (config : CoordinatorConfig) (state : StoryTurnCoordinator) :
    CoordinatorEvent → StoryTurnCoordinator → Prop where
  | enter {call : Nat} {storyId : StoryId} {now : Nat} (fresh : state.calls[call]? = none)
      (later : state.clock ≤ now) :
      Moves config state (.enter call storyId now) (state.enter config call storyId now)
  | grant {call : Nat} {found : Call} (known : state.calls[call]? = some found)
      (phase : found.phase = .waiting) (free : 0 < state.permits found.semaphore) :
      Moves config state (.grant call) { state.setPhase call found .granted with
        permits := Function.update state.permits found.semaphore
          (state.permits found.semaphore - 1) }
  | fail {call : Nat} {found : Call} (known : state.calls[call]? = some found)
      (phase : found.phase = .waiting) :
      Moves config state (.fail call) (state.setPhase call found .failed)
  | abandon {call : Nat} {found : Call} (known : state.calls[call]? = some found)
      (phase : found.phase = .waiting) :
      Moves config state (.abandon call) { state with calls := state.calls.erase call }
  | accept {call : Nat} {found : Call} (known : state.calls[call]? = some found)
      (phase : found.phase = .granted) :
      Moves config state (.settle call) ((state.settle found).setPhase call found .admitted)
  | leave {call : Nat} {found : Call} (known : state.calls[call]? = some found)
      (phase : found.phase = .failed) :
      Moves config state (.settle call) { state.settle found with calls := state.calls.erase call }
  | issue {call : Nat} {found : Call} (known : state.calls[call]? = some found)
      (phase : found.phase = .admitted) :
      Moves config state (.issue call)
        { state.setPhase call found .holding with activePermits := state.activePermits + 1 }
  | dropInner {call : Nat} {found : Call} (known : state.calls[call]? = some found)
      (phase : found.phase = .holding) :
      Moves config state (.dropInner call) { state.setPhase call found .dropping with
        permits := Function.update state.permits found.semaphore
          (state.permits found.semaphore + 1) }
  | beginRelease {call now : Nat} {found : Call} (known : state.calls[call]? = some found)
      (phase : found.phase = .dropping) (later : state.clock ≤ now) :
      Moves config state (.beginRelease call now)
        { state.setPhase call found (.releasing now) with
          activePermits := state.activePermits - 1
          clock := now }
  | finishRelease {call now : Nat} {found : Call} (known : state.calls[call]? = some found)
      (phase : found.phase = .releasing now) :
      Moves config state (.finishRelease call) { state with
        stories := reclaim config (markIdle state.stories found.storyId now) now
        calls := state.calls.erase call }
  | reclaimIdle {now : Nat} (later : state.clock ≤ now) :
      Moves config state (.reclaimIdle now)
        { state with stories := reclaim config state.stories now, clock := now }

theorem step_moves {config : CoordinatorConfig} {state next : StoryTurnCoordinator}
    {event : CoordinatorEvent} (stepped : state.step config event = some next) :
    Moves config state event next := by
  cases event with
  | enter call storyId now =>
    simp only [step, Option.ite_none_right_eq_some, Option.some.injEq] at stepped
    obtain ⟨⟨fresh, later⟩, rfl⟩ := stepped
    exact .enter fresh later
  | grant call =>
    obtain ⟨found, known, stepped⟩ := Option.bind_eq_some_iff.mp stepped
    simp only [Option.ite_none_right_eq_some, Option.some.injEq] at stepped
    obtain ⟨⟨phase, free⟩, rfl⟩ := stepped
    exact .grant known phase free
  | fail call =>
    obtain ⟨found, known, stepped⟩ := Option.bind_eq_some_iff.mp stepped
    simp only [Option.ite_none_right_eq_some, Option.some.injEq] at stepped
    obtain ⟨phase, rfl⟩ := stepped
    exact .fail known phase
  | abandon call =>
    obtain ⟨found, known, stepped⟩ := Option.bind_eq_some_iff.mp stepped
    simp only [Option.ite_none_right_eq_some, Option.some.injEq] at stepped
    obtain ⟨phase, rfl⟩ := stepped
    exact .abandon known phase
  | settle call =>
    obtain ⟨found, known, stepped⟩ := Option.bind_eq_some_iff.mp stepped
    split at stepped
    · rename_i phase
      cases stepped
      exact .accept known phase
    · simp only [Option.ite_none_right_eq_some, Option.some.injEq] at stepped
      obtain ⟨phase, rfl⟩ := stepped
      exact .leave known phase
  | issue call =>
    obtain ⟨found, known, stepped⟩ := Option.bind_eq_some_iff.mp stepped
    simp only [Option.ite_none_right_eq_some, Option.some.injEq] at stepped
    obtain ⟨phase, rfl⟩ := stepped
    exact .issue known phase
  | dropInner call =>
    obtain ⟨found, known, stepped⟩ := Option.bind_eq_some_iff.mp stepped
    simp only [Option.ite_none_right_eq_some, Option.some.injEq] at stepped
    obtain ⟨phase, rfl⟩ := stepped
    exact .dropInner known phase
  | beginRelease call now =>
    obtain ⟨found, known, stepped⟩ := Option.bind_eq_some_iff.mp stepped
    simp only [Option.ite_none_right_eq_some, Option.some.injEq] at stepped
    obtain ⟨⟨phase, later⟩, rfl⟩ := stepped
    exact .beginRelease known phase later
  | finishRelease call =>
    obtain ⟨found, known, stepped⟩ := Option.bind_eq_some_iff.mp stepped
    split at stepped
    · rename_i now phase
      cases stepped
      exact .finishRelease known phase
    · cases stepped
  | reclaimIdle now =>
    simp only [step, Option.ite_none_right_eq_some, Option.some.injEq] at stepped
    obtain ⟨later, rfl⟩ := stepped
    exact .reclaimIdle later

end StoryTurnCoordinator

end Aise.Domain
