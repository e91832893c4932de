import Aise.Lib.Channel
import Aise.Lib.Transition

/-! The supervisor of the turn tasks. A turn is admitted by two messages to it, a reservation that
is answered with a permit and then the task that has the permit; both go through one bounded queue,
and the supervisor handles one message after the other. -/
namespace Aise.Domain.Server
open Transition

/-- A configuration that `validate` accepts. -/
structure TurnTaskSupervisorConfig where
  maxActiveTurns : Nat := 8
  admissionCapacity : Nat := 64
  turns : 0 < maxActiveTurns := by decide
  capacity : 0 < admissionCapacity := by decide

inductive TurnTaskCommand where
  | reserve (call : Nat)
  | spawnReserved (task : Nat)
  | active
  deriving DecidableEq

/-- The command holds a permit. -/
def TurnTaskCommand.isSpawn : TurnTaskCommand → Bool
  | spawnReserved _ => true
  | reserve _ | active => false

/-- The supervisor, its queue and its semaphore, with the calls of `reserve` by how far they have
come. Calls and tasks are numbered in the order in which they are made. -/
structure TurnTaskSupervisor where
  commands : Channel TurnTaskCommand
  available : Nat
  /-- The reservation for which the supervisor waits for a permit. -/
  acquiring : Option Nat := none
  running : List Nat := []
  started : List Nat := []
  rejected : Nat := 0
  calls : Nat := 0
  /-- Calls that wait for room in the queue. -/
  sending : List Nat := []
  /-- Calls that wait for the answer to their message. -/
  awaiting : List Nat := []
  /-- Calls whose answer, with a permit, has not been looked at. -/
  granted : List Nat := []
  /-- Calls that have returned a permit with which no task was handed over yet. -/
  holding : List Nat := []
  handed : Nat := 0

inductive SupervisorEvent where
  | call
  | send (call : Nat)
  /-- One of the two timeouts in `reserve`. -/
  | expire (call : Nat)
  /-- The future of the call, or the permit that it returned, is dropped. -/
  | abandon (call : Nat)
  | accept (call : Nat)
  /-- `spawn_reserved`, with the next task. -/
  | handOver (call : Nat)
  /-- `active_turns` has found room for its message. -/
  | askActive
  | receive
  | grant
  /-- The admission timeout of the supervisor. -/
  | refuse
  | finish (task : Nat)
  deriving DecidableEq

namespace TurnTaskSupervisor

def new (config : TurnTaskSupervisorConfig) : TurnTaskSupervisor where
  commands := { capacity := config.admissionCapacity }
  available := config.maxActiveTurns

/-- `spawn_reserved`. A task that finds no room is dropped with its permit. -/
def spawnReserved (state : TurnTaskSupervisor) (call : Nat) : TurnTaskSupervisor :=
  match state.commands.trySend (.spawnReserved state.handed) with
  | some commands => { state with
      commands
      holding := state.holding.erase call
      handed := state.handed + 1 }
  | none => { state with
      available := state.available + 1
      rejected := state.rejected + 1
      holding := state.holding.erase call
      handed := state.handed + 1 }

/-- The branch of `run_supervisor` for a message. -/
def handle (state : TurnTaskSupervisor) : TurnTaskCommand → TurnTaskSupervisor
  | .reserve call => { state with commands := state.commands.rest, acquiring := some call }
  | .spawnReserved task => { state with
      commands := state.commands.rest
      running := task :: state.running
      started := task :: state.started }
  | .active => { state with commands := state.commands.rest }

/-- The answer to a call that is not there any more is dropped, and its permit with it. -/
def reply (state : TurnTaskSupervisor) (call : Nat) : TurnTaskSupervisor :=
  if call ∈ state.awaiting then { state with
    available := state.available - 1
    acquiring := none
    awaiting := state.awaiting.erase call
    granted := call :: state.granted }
  else { state with acquiring := none }

def next (state : TurnTaskSupervisor) : SupervisorEvent → Option TurnTaskSupervisor
  | .call => some { state with
      calls := state.calls + 1
      sending := state.calls :: state.sending }
  | .send call =>
    if call ∈ state.sending then
      (state.commands.trySend (.reserve call)).map fun commands => { state with
        commands
        sending := state.sending.erase call
        awaiting := call :: state.awaiting }
    else none
  | .expire call =>
    if call ∈ state.sending then some { state with
      rejected := state.rejected + 1
      sending := state.sending.erase call }
    else if call ∈ state.awaiting then some { state with
      rejected := state.rejected + 1
      awaiting := state.awaiting.erase call }
    else none
  | .abandon call =>
    if call ∈ state.sending then some { state with sending := state.sending.erase call }
    else if call ∈ state.awaiting then some { state with awaiting := state.awaiting.erase call }
    else if call ∈ state.granted then some { state with
      available := state.available + 1
      granted := state.granted.erase call }
    else if call ∈ state.holding then some { state with
      available := state.available + 1
      holding := state.holding.erase call }
    else none
  | .accept call =>
    if call ∈ state.granted then some { state with
      granted := state.granted.erase call
      holding := call :: state.holding }
    else none
  | .handOver call => if call ∈ state.holding then some (state.spawnReserved call) else none
  | .askActive =>
    (state.commands.trySend .active).map fun commands => { state with commands }
  | .receive =>
    match state.acquiring, state.commands.tryRecv with
    | none, .item command => some (state.handle command)
    | _, _ => none
  | .grant =>
    match state.acquiring with
    | some call => if state.available = 0 then none else some (state.reply call)
    | none => none
  | .refuse =>
    match state.acquiring with
    | some call => some { state with
        acquiring := none
        rejected := state.rejected + 1
        awaiting := state.awaiting.erase call }
    | none => none
  | .finish task =>
    if task ∈ state.running then some { state with
      available := state.available + 1
      running := state.running.erase task }
    else none

/-! ### What a step can do -/

/-- The permits of tasks that wait in the queue. -/
def queued (state : TurnTaskSupervisor) : Nat := state.commands.queue.countP (·.isSpawn)

/-- The permits of clients, of queued tasks and of running ones. -/
def held (state : TurnTaskSupervisor) : Nat :=
  state.granted.length + state.holding.length + state.queued + state.running.length

section
variable {state after : TurnTaskSupervisor} {event : SupervisorEvent}

theorem length_erase {items : List Nat} {item : Nat} (member : item ∈ items) :
    (items.erase item).length + 1 = items.length := by
  rw [List.length_erase_of_mem member]
  have positive := List.length_pos_of_mem member
  omega

theorem queued_send {command : TurnTaskCommand} {commands : Channel TurnTaskCommand}
    (sent : state.commands.trySend command = some commands) :
    commands.queue.countP (·.isSpawn) = state.queued + if command.isSpawn then 1 else 0 := by
  rw [(Channel.trySend_eq_some sent).1, List.countP_append, List.countP_singleton]
  rfl

theorem queued_rest {command : TurnTaskCommand} (found : state.commands.tryRecv = .item command) :
    state.queued = state.commands.rest.queue.countP (·.isSpawn) + if command.isSpawn then 1 else 0 := by
  rw [queued, Channel.tryRecv_eq_item.mp found, List.countP_cons]

/-- No step makes a permit or loses one. -/
theorem next_permits (stepped : state.next event = some after) :
    after.available + after.held = state.available + state.held := by
  cases event with
  | call =>
    cases stepped
    rfl
  | send call =>
    simp only [next] at stepped
    split at stepped
    · obtain ⟨commands, sent, rfl⟩ := Option.map_eq_some_iff.mp stepped
      have count := queued_send sent
      simp only [held, queued, TurnTaskCommand.isSpawn] at count ⊢
      simp only [count, Bool.false_eq_true, if_false, Nat.add_zero]
    · cases stepped
  | expire call =>
    simp only [next] at stepped
    split at stepped
    · cases stepped
      rfl
    · split at stepped
      · cases stepped
        rfl
      · cases stepped
  | abandon call =>
    simp only [next] at stepped
    split at stepped
    · cases stepped
      rfl
    · split at stepped
      · cases stepped
        rfl
      · split at stepped
        · rename_i granted
          cases stepped
          have fewer := length_erase granted
          simp only [held, queued]
          omega
        · split at stepped
          · rename_i holding
            cases stepped
            have fewer := length_erase holding
            simp only [held, queued]
            omega
          · cases stepped
  | accept call =>
    simp only [next] at stepped
    split at stepped
    · rename_i granted
      cases stepped
      have fewer := length_erase granted
      simp only [held, queued, List.length_cons]
      omega
    · cases stepped
  | handOver call =>
    simp only [next] at stepped
    split at stepped
    · rename_i holding
      cases stepped
      have fewer := length_erase holding
      unfold spawnReserved
      split
      · rename_i commands sent
        have count := queued_send sent
        simp only [held, queued, TurnTaskCommand.isSpawn, if_true] at count ⊢
        omega
      · simp only [held, queued]
        omega
    · cases stepped
  | askActive =>
    obtain ⟨commands, sent, rfl⟩ := Option.map_eq_some_iff.mp stepped
    have count := queued_send sent
    simp only [held, queued, TurnTaskCommand.isSpawn] at count ⊢
    simp only [count, Bool.false_eq_true, if_false, Nat.add_zero]
  | receive =>
    simp only [next] at stepped
    split at stepped
    · rename_i command _ found
      cases stepped
      have count := queued_rest found
      cases command with
      | reserve call =>
        simp only [handle, held, queued, TurnTaskCommand.isSpawn] at count ⊢
        simp only [count, Bool.false_eq_true, if_false, Nat.add_zero]
      | spawnReserved task =>
        simp only [handle, held, queued, TurnTaskCommand.isSpawn, if_true, List.length_cons] at count ⊢
        omega
      | active =>
        simp only [handle, held, queued, TurnTaskCommand.isSpawn] at count ⊢
        simp only [count, Bool.false_eq_true, if_false, Nat.add_zero]
    · cases stepped
  | grant =>
    simp only [next] at stepped
    split at stepped
    · split at stepped
      · cases stepped
      · rename_i free
        cases stepped
        unfold reply
        split
        · simp only [held, queued, List.length_cons]
          omega
        · rfl
    · cases stepped
  | refuse =>
    simp only [next] at stepped
    split at stepped
    · cases stepped
      rfl
    · cases stepped
  | finish task =>
    simp only [next] at stepped
    split at stepped
    · rename_i running
      cases stepped
      have fewer := length_erase running
      simp only [held, queued]
      omega
    · cases stepped

/-- The task waits in the queue, or was started. -/
def Has (state : TurnTaskSupervisor) (task : Nat) : Prop :=
  .spawnReserved task ∈ state.commands.queue ∨ task ∈ state.started

instance (task : Nat) : Decidable (state.Has task) := inferInstanceAs (Decidable (_ ∨ _))

/-- No task is lost that was handed over. -/
def Kept (state : TurnTaskSupervisor) : Prop := ∀ task < state.handed, state.Has task

/-- The event is not a task that is handed over to a full queue. -/
def FindsRoom (state : TurnTaskSupervisor) : SupervisorEvent → Prop
  | .handOver _ => state.commands.queue.length < state.commands.capacity
  | _ => True

/-- The step hands no task over, and loses none. -/
def SameTasks (state after : TurnTaskSupervisor) : Prop :=
  after.handed = state.handed ∧ ∀ task, after.Has task ↔ state.Has task

theorem SameTasks.send {command : TurnTaskCommand} {commands : Channel TurnTaskCommand}
    (sent : state.commands.trySend command = some commands) (plain : command.isSpawn = false) (task : Nat) :
    .spawnReserved task ∈ commands.queue ↔ .spawnReserved task ∈ state.commands.queue := by
  rw [(Channel.trySend_eq_some sent).1, List.mem_append, List.mem_singleton]
  constructor
  · rintro (before | rfl)
    · exact before
    · cases plain
  · exact Or.inl

theorem SameTasks.handle {command : TurnTaskCommand} (found : state.commands.tryRecv = .item command) :
    state.SameTasks (state.handle command) := by
  have first := Channel.tryRecv_eq_item.mp found
  cases command with
  | reserve call =>
    refine ⟨rfl, fun task => ?_⟩
    simp only [Has, first, List.mem_cons, reduceCtorEq, false_or]
    rfl
  | spawnReserved other =>
    refine ⟨rfl, fun task => ?_⟩
    simp only [Has, first, List.mem_cons, TurnTaskCommand.spawnReserved.injEq]
    simp only [TurnTaskSupervisor.handle, List.mem_cons]
    rw [or_assoc, or_left_comm]
  | active =>
    refine ⟨rfl, fun task => ?_⟩
    simp only [Has, first, List.mem_cons, reduceCtorEq, false_or]
    rfl

/-- Only `spawn_reserved` changes which tasks there are. It adds the next one if it finds room. -/
theorem next_tasks (stepped : state.next event = some after) :
    after.commands.capacity = state.commands.capacity ∧
      (state.SameTasks after ∧ state.FindsRoom event ∨
        after.handed = state.handed + 1 ∧
          ∀ task, after.Has task ↔ state.Has task ∨ task = state.handed ∧ state.FindsRoom event) := by
  cases event with
  | call =>
    cases stepped
    exact ⟨rfl, .inl ⟨⟨rfl, fun _ => .rfl⟩, trivial⟩⟩
  | send call =>
    simp only [next] at stepped
    split at stepped
    · obtain ⟨commands, sent, rfl⟩ := Option.map_eq_some_iff.mp stepped
      have same := SameTasks.send sent rfl
      exact ⟨(Channel.trySend_eq_some sent).2.2, .inl ⟨⟨rfl, fun task => or_congr_left (same task)⟩, trivial⟩⟩
    · cases stepped
  | expire call =>
    simp only [next] at stepped
    split at stepped
    · cases stepped
      exact ⟨rfl, .inl ⟨⟨rfl, fun _ => .rfl⟩, trivial⟩⟩
    · split at stepped
      · cases stepped
        exact ⟨rfl, .inl ⟨⟨rfl, fun _ => .rfl⟩, trivial⟩⟩
      · cases stepped
  | abandon call =>
    simp only [next] at stepped
    split at stepped
    · cases stepped
      exact ⟨rfl, .inl ⟨⟨rfl, fun _ => .rfl⟩, trivial⟩⟩
    · split at stepped
      · cases stepped
        exact ⟨rfl, .inl ⟨⟨rfl, fun _ => .rfl⟩, trivial⟩⟩
      · split at stepped
        · cases stepped
          exact ⟨rfl, .inl ⟨⟨rfl, fun _ => .rfl⟩, trivial⟩⟩
        · split at stepped
          · cases stepped
            exact ⟨rfl, .inl ⟨⟨rfl, fun _ => .rfl⟩, trivial⟩⟩
          · cases stepped
  | accept call =>
    simp only [next] at stepped
    split at stepped
    · cases stepped
      exact ⟨rfl, .inl ⟨⟨rfl, fun _ => .rfl⟩, trivial⟩⟩
    · cases stepped
  | handOver call =>
    simp only [next] at stepped
    split at stepped
    · cases stepped
      unfold spawnReserved
      split
      · rename_i commands sent
        have room : state.FindsRoom (.handOver call) := by
          by_contra full
          rw [Channel.trySend_eq_none.mpr (Nat.not_lt.mp full)] at sent
          cases sent
        refine ⟨(Channel.trySend_eq_some sent).2.2, .inr ⟨rfl, fun task => ?_⟩⟩
        simp only [Has, (Channel.trySend_eq_some sent).1, List.mem_append, List.mem_singleton,
          TurnTaskCommand.spawnReserved.injEq, room, and_true]
        exact or_right_comm
      · rename_i full
        have none : ¬state.FindsRoom (.handOver call) := Nat.not_lt.mpr (Channel.trySend_eq_none.mp full)
        refine ⟨rfl, .inr ⟨rfl, fun task => ?_⟩⟩
        simp only [none, and_false, or_false]
        rfl
    · cases stepped
  | askActive =>
    obtain ⟨commands, sent, rfl⟩ := Option.map_eq_some_iff.mp stepped
    have same := SameTasks.send sent rfl
    exact ⟨(Channel.trySend_eq_some sent).2.2, .inl ⟨⟨rfl, fun task => or_congr_left (same task)⟩, trivial⟩⟩
  | receive =>
    simp only [next] at stepped
    split at stepped
    · rename_i command _ found
      cases stepped
      refine ⟨?_, .inl ⟨.handle found, trivial⟩⟩
      cases command <;> rfl
    · cases stepped
  | grant =>
    simp only [next] at stepped
    split at stepped
    · split at stepped
      · cases stepped
      · cases stepped
        unfold reply
        split
        · exact ⟨rfl, .inl ⟨⟨rfl, fun _ => .rfl⟩, trivial⟩⟩
        · exact ⟨rfl, .inl ⟨⟨rfl, fun _ => .rfl⟩, trivial⟩⟩
    · cases stepped
  | refuse =>
    simp only [next] at stepped
    split at stepped
    · cases stepped
      exact ⟨rfl, .inl ⟨⟨rfl, fun _ => .rfl⟩, trivial⟩⟩
    · cases stepped
  | finish task =>
    simp only [next] at stepped
    split at stepped
    · cases stepped
      exact ⟨rfl, .inl ⟨⟨rfl, fun _ => .rfl⟩, trivial⟩⟩
    · cases stepped

/-! ### Runs -/

variable {config : TurnTaskSupervisorConfig}

/-- What holds of the supervisor in every run. -/
structure Steady (config : TurnTaskSupervisorConfig) (state : TurnTaskSupervisor) : Prop where
  permits : state.available + state.held = config.maxActiveTurns
  capacity : state.commands.capacity = config.admissionCapacity
  numbered : ∀ task, state.Has task → task < state.handed

theorem steady_new : Steady config (new config) where
  permits := rfl
  capacity := rfl
  numbered task has := by
    rcases has with queued | started
    · cases queued
    · cases started

theorem Steady.next (steady : Steady config state) (stepped : state.next event = some after) :
    Steady config after := by
  obtain ⟨capacity, tasks⟩ := next_tasks stepped
  refine ⟨(next_permits stepped).trans steady.permits, capacity.trans steady.capacity, ?_⟩
  intro task has
  rcases tasks with ⟨⟨handed, same⟩, -⟩ | ⟨handed, grown⟩
  · rw [handed]
    exact steady.numbered task ((same task).mp has)
  · rw [handed]
    rcases (grown task).mp has with before | ⟨rfl, -⟩
    · exact Nat.lt_succ_of_lt (steady.numbered task before)
    · exact Nat.lt_succ_self _

theorem Steady.run {events : List SupervisorEvent}
    (ran : replay TurnTaskSupervisor.next (new config) events = some after) : Steady config after :=
  replay_invariant (Q := fun _ => True) (fun steady stepped _ => steady.next stepped)
    (fun _ _ _ _ => trivial) ran steady_new

/-- A step loses no task exactly if it is not a task handed over to a full queue. -/
theorem Kept.next (kept : state.Kept) (steady : Steady config state)
    (stepped : state.next event = some after) : after.Kept ↔ state.FindsRoom event := by
  rcases (next_tasks stepped).2 with ⟨⟨handed, same⟩, room⟩ | ⟨handed, grown⟩
  · refine iff_of_true (fun task below => ?_) room
    rw [handed] at below
    exact (same task).mpr (kept task below)
  · constructor
    · intro all
      have last := (grown state.handed).mp (all _ (by rw [handed]; exact Nat.lt_succ_self _))
      rcases last with before | ⟨-, room⟩
      · exact absurd (steady.numbered _ before) (Nat.lt_irrefl _)
      · exact room
    · intro room task below
      rw [handed] at below
      rcases Nat.lt_succ_iff_lt_or_eq.mp below with before | rfl
      · exact (grown task).mpr (.inl (kept task before))
      · exact (grown _).mpr (.inr ⟨rfl, room⟩)

theorem kept_new : (new config).Kept := fun _ below => absurd below (Nat.not_lt_zero _)

end

end TurnTaskSupervisor

section Blocking
variable {config : TurnTaskSupervisorConfig} {state after : TurnTaskSupervisor} {event : SupervisorEvent}

namespace TurnTaskSupervisor

/-- The supervisor waits for a permit, and every permit is with a task in its own queue. -/
structure Blocked (state : TurnTaskSupervisor) : Prop where
  waiting : state.acquiring ≠ none
  taken : state.available = 0
  granted : state.granted = []
  holding : state.holding = []
  running : state.running = []

/-- A blocked supervisor has as many tasks in its queue as it may run. -/
theorem Blocked.queued (blocked : state.Blocked) (steady : Steady config state) :
    state.queued = config.maxActiveTurns := by
  have permits := steady.permits
  simp only [held, blocked.taken, blocked.granted, blocked.holding, blocked.running, List.length_nil] at permits
  omega

theorem queued_le (steady : Steady config state) : state.queued ≤ config.admissionCapacity :=
  steady.capacity ▸ Nat.le_trans List.countP_le_length state.commands.fits

/-- So many clients have a permit, the other permits are left, and the queue is empty. -/
structure Admitted (config : TurnTaskSupervisorConfig) (clients : Nat) (state : TurnTaskSupervisor) : Prop where
  queue : state.commands.queue = []
  capacity : state.commands.capacity = config.admissionCapacity
  available : state.available = config.maxActiveTurns - clients
  granted : state.granted = []
  running : state.running = []
  holding : state.holding.length = clients

/-- The supervisor waits, and so many clients have handed a task over since; the others have a
permit yet. -/
structure Handing (config : TurnTaskSupervisorConfig) (tasks : Nat) (state : TurnTaskSupervisor) : Prop where
  waiting : state.acquiring ≠ none
  queue : state.commands.queue.length = tasks
  capacity : state.commands.capacity = config.admissionCapacity
  taken : state.available = 0
  granted : state.granted = []
  running : state.running = []
  holding : state.holding.length = config.maxActiveTurns - tasks

def Reachable (config : TurnTaskSupervisorConfig) (state : TurnTaskSupervisor) : Prop :=
  ∃ events, replay next (new config) events = some state

theorem Reachable.next (reached : Reachable config state) (stepped : state.next event = some after) :
    Reachable config after := by
  obtain ⟨events, ran⟩ := reached
  refine ⟨events ++ [event], ?_⟩
  rw [replay_concat, ran]
  exact stepped

/-- A client comes, and the supervisor turns to its reservation. -/
theorem Admitted.asks {clients : Nat} (admitted : Admitted config clients state)
    (idle : state.acquiring = none) (reached : Reachable config state) :
    ∃ after call, Reachable config after ∧ Admitted config clients after ∧
      after.acquiring = some call ∧ call ∈ after.awaiting := by
  obtain ⟨queue, capacity, available, granted, running, holding⟩ := admitted
  have called : state.next .call = some { state with
      calls := state.calls + 1
      sending := state.calls :: state.sending } := rfl
  obtain ⟨commands, sent⟩ : ∃ commands, state.commands.trySend (.reserve state.calls) = some commands := by
    apply Option.ne_none_iff_exists'.mp
    intro full
    have positive := config.capacity
    have most := Channel.trySend_eq_none.mp full
    rw [queue, capacity, List.length_nil] at most
    omega
  have grown := Channel.trySend_eq_some sent
  rw [queue, List.nil_append] at grown
  have asked := reached.next called
  have queued := asked.next (show TurnTaskSupervisor.next _ (.send state.calls) = some _ by
    simp only [TurnTaskSupervisor.next, List.mem_cons_self, if_true, sent]
    rfl)
  have received := queued.next (show TurnTaskSupervisor.next _ .receive = some _ by
    simp only [TurnTaskSupervisor.next, idle, Channel.tryRecv, grown.1]
    rfl)
  refine ⟨_, state.calls, received, ⟨?_, ?_, available, granted, running, holding⟩, rfl, List.mem_cons_self⟩
  · simp only [handle, Channel.rest, grown.1, List.tail_cons]
  · exact grown.2.2.trans capacity

/-- A client that waits for its answer gets a permit that is left. -/
theorem Admitted.next {clients call : Nat} (admitted : Admitted config clients state)
    (asked : state.acquiring = some call) (awaits : call ∈ state.awaiting)
    (reached : Reachable config state) (left : clients < config.maxActiveTurns) :
    ∃ after, Reachable config after ∧ Admitted config (clients + 1) after ∧ after.acquiring = none := by
  obtain ⟨queue, capacity, available, granted, running, holding⟩ := admitted
  have answered := reached.next (show TurnTaskSupervisor.next _ .grant = some _ by
    have free : state.available ≠ 0 := by omega
    simp only [TurnTaskSupervisor.next, asked, free, if_false, reply, awaits, if_true]
    rfl)
  have accepted := answered.next (show TurnTaskSupervisor.next _ (.accept call) = some _ by
    simp only [TurnTaskSupervisor.next, List.mem_cons_self, if_true]
    rfl)
  refine ⟨_, accepted, ⟨queue, capacity, ?_, ?_, running, ?_⟩, rfl⟩
  · simp only [available]
    omega
  · simp only [List.erase_cons_head, granted]
  · simp only [List.length_cons, holding]

theorem admitted_reachable (clients : Nat) (fits : clients ≤ config.maxActiveTurns) :
    ∃ state, Reachable config state ∧ Admitted config clients state ∧ state.acquiring = none := by
  induction clients with
  | zero => exact ⟨new config, ⟨[], rfl⟩, ⟨rfl, rfl, rfl, rfl, rfl, rfl⟩, rfl⟩
  | succ clients ih =>
    obtain ⟨state, reached, admitted, idle⟩ := ih (Nat.le_of_succ_le fits)
    obtain ⟨asking, call, reached, admitted, asked, awaits⟩ := admitted.asks idle reached
    exact admitted.next asked awaits reached fits

theorem Handing.next {tasks : Nat} (handing : Handing config tasks state)
    (reached : Reachable config state) (client : tasks < config.maxActiveTurns)
    (room : tasks < config.admissionCapacity) :
    ∃ after, Reachable config after ∧ Handing config (tasks + 1) after := by
  obtain ⟨waiting, queue, capacity, taken, granted, running, holding⟩ := handing
  obtain ⟨call, others, clients⟩ : ∃ call others, state.holding = call :: others := by
    apply List.exists_cons_of_length_pos
    omega
  obtain ⟨commands, sent⟩ : ∃ commands,
      state.commands.trySend (.spawnReserved state.handed) = some commands := by
    apply Option.ne_none_iff_exists'.mp
    intro full
    have most := Channel.trySend_eq_none.mp full
    omega
  have grown := Channel.trySend_eq_some sent
  have handed := reached.next (show TurnTaskSupervisor.next _ (.handOver call) = some _ by
    simp only [TurnTaskSupervisor.next, clients, List.mem_cons_self, if_true, spawnReserved, sent]
    rfl)
  refine ⟨_, handed, ⟨waiting, ?_, grown.2.2.trans capacity, taken, granted, running, ?_⟩⟩
  · simp only [grown.1, List.length_append, List.length_singleton, queue]
  · rw [clients, List.length_cons] at holding
    simp only [List.erase_cons_head]
    omega

theorem handing_reachable (fits : config.maxActiveTurns ≤ config.admissionCapacity) (tasks : Nat)
    (most : tasks ≤ config.maxActiveTurns) :
    ∃ state, Reachable config state ∧ Handing config tasks state := by
  induction tasks with
  | zero =>
    obtain ⟨state, reached, admitted, idle⟩ := admitted_reachable config.maxActiveTurns (Nat.le_refl _)
    obtain ⟨asking, call, reached, admitted, asked, -⟩ := admitted.asks idle reached
    refine ⟨asking, reached, ⟨?_, ?_, admitted.capacity, ?_, admitted.granted, admitted.running, ?_⟩⟩
    · rw [asked]
      exact Option.some_ne_none call
    · rw [admitted.queue, List.length_nil]
    · rw [admitted.available, Nat.sub_self]
    · exact admitted.holding
  | succ tasks ih =>
    obtain ⟨state, reached, handing⟩ := ih (Nat.le_of_succ_le most)
    exact handing.next reached most (Nat.lt_of_lt_of_le most fits)

end TurnTaskSupervisor

end Blocking

open TurnTaskSupervisor

/-- In every run the permits held number at most `max_active_turns`. No task that was handed over
with a permit is lost exactly if `spawn_reserved` never meets a full queue. -/
theorem handed_tasks_kept (config : TurnTaskSupervisorConfig) (events : List SupervisorEvent)
    (final : TurnTaskSupervisor) (ran : replay next (new config) events = some final) :
    (∀ before, before <+: events → ∀ state, replay next (new config) before = some state →
      state.held ≤ config.maxActiveTurns) ∧
    ((∀ before, before <+: events → ∀ state, replay next (new config) before = some state → state.Kept) ↔
      ∀ before event, before ++ [event] <+: events →
        ∀ state, replay next (new config) before = some state → state.FindsRoom event) := by
  constructor
  · intro before _ state reached
    have permits := (Steady.run reached).permits
    omega
  · constructor
    · intro kept before event inside state reached
      obtain ⟨after, stepped⟩ := replay_step ran inside reached
      have both : replay next (new config) (before ++ [event]) = some after := by
        rw [replay_concat, reached]
        exact stepped
      have earlier := kept before (List.IsPrefix.trans (List.prefix_append _ _) inside) state reached
      exact (earlier.next (Steady.run reached) stepped).mp (kept _ inside after both)
    · intro room before
      induction before using List.reverseRecOn with
      | nil =>
        intro _ state reached
        cases reached
        exact kept_new
      | append_singleton before event ih =>
        intro inside state reached
        rw [replay_concat] at reached
        obtain ⟨between, first, last⟩ := Option.bind_eq_some_iff.mp reached
        have earlier := ih (List.IsPrefix.trans (List.prefix_append _ _) inside) between first
        exact (earlier.next (Steady.run first) last).mpr (room before event inside between first)

namespace Supervisor.Sample

def single : TurnTaskSupervisorConfig where
  maxActiveTurns := 1
  admissionCapacity := 2

def admission : List SupervisorEvent := [.call, .send 0, .receive, .grant, .accept 0]

/-- So many other clients send a reservation before the supervisor looks at its queue. -/
def crowd (clients : Nat) : List SupervisorEvent :=
  (List.range clients).flatMap fun client => [.call, .send (client + 1)]

def started : TurnTaskSupervisor :=
  (replay next (new single) (admission ++ [.handOver 0, .receive])).get (by decide +kernel)

theorem started_kept :
    started.started = [0] ∧
    (∀ before, before <+: admission ++ [.handOver 0, .receive] → ∀ state,
      replay next (new single) before = some state → state.held ≤ 1) ∧
    ((∀ before, before <+: admission ++ [.handOver 0, .receive] →
        ∀ state, replay next (new single) before = some state → state.Kept) ↔
      ∀ before event, before ++ [event] <+: admission ++ [.handOver 0, .receive] →
        ∀ state, replay next (new single) before = some state → state.FindsRoom event) :=
  ⟨by decide +kernel, handed_tasks_kept single _ started (Option.some_get _).symm⟩

/-- With the default configuration, one client has a permit, and the queue fills up before the
client hands over its task. -/
def crowded : TurnTaskSupervisor :=
  (replay next (new {}) (admission ++ crowd 64 ++ [.handOver 0])).get (by decide +kernel)

theorem crowded_task_lost :
    ¬∀ config events state, replay next (new config) events = some state →
      state.Kept ∧ state.held ≤ config.maxActiveTurns := by
  intro kept
  have all := (kept {} _ crowded (Option.some_get _).symm).1
  have lost : 0 < crowded.handed ∧ ¬crowded.Has 0 := by decide +kernel
  exact lost.2 (all 0 lost.1)

end Supervisor.Sample

/-- The supervisor is never blocked on its own queue exactly if the queue has less room than there
are permits. -/
theorem supervisor_not_blocked (config : TurnTaskSupervisorConfig) :
    (∀ events state, replay next (new config) events = some state → ¬state.Blocked) ↔
      config.admissionCapacity < config.maxActiveTurns := by
  constructor
  · intro free
    by_contra fits
    obtain ⟨state, ⟨events, ran⟩, handing⟩ :=
      handing_reachable (Nat.not_lt.mp fits) config.maxActiveTurns (Nat.le_refl _)
    refine free events state ran ⟨handing.waiting, handing.taken, handing.granted, ?_, handing.running⟩
    exact List.eq_nil_of_length_eq_zero (by rw [handing.holding, Nat.sub_self])
  · intro less events state ran blocked
    have steady := Steady.run ran
    have all := blocked.queued steady
    have fits := queued_le steady
    omega

namespace Supervisor.Sample

/-- A second client's reservation is looked at before the first client hands over its task. -/
def overtaken : TurnTaskSupervisor :=
  (replay next (new single) (admission ++ [.call, .send 1, .receive, .handOver 0])).get (by decide +kernel)

theorem overtaken_blocked :
    ¬∀ config events state, replay next (new config) events = some state → ¬state.Blocked := by
  intro free
  refine free single _ overtaken (Option.some_get _).symm ⟨?_, ?_, ?_, ?_, ?_⟩
  · decide +kernel
  · decide +kernel
  · decide +kernel
  · decide +kernel
  · decide +kernel

end Supervisor.Sample

end Aise.Domain.Server
