import Aise.Lib.Channel
import Aise.Lib.Json
import Aise.Turn.TurnEvent

/-! Turn events on their way to a connected client. The sink puts them into two lanes, one for
progress and one for the terminal event, and the stream of the response merges the lanes again. -/
namespace Aise.Domain.Server
open SerdeJson

def sseChannelCapacity : Nat := 64

structure SseEvent where
  name : String
  data : String
  deriving DecidableEq

/-- By its name, the event is about the end of the turn. -/
def SseEvent.isTerminal (event : SseEvent) : Bool :=
  event.name ∈ ["committed", "failed", "cancelled", "conflict"]

def numberJson (turnNumber : Option TurnNumber) : Json :=
  match turnNumber with
  | some number => .num number.get.toNat
  | none => .null

def sseEvent (name : String) (payload : Json) : SseEvent := ⟨name, String.join payload.pieces⟩

/-- What an event that names its turn and a code is sent as. -/
def codeEvent (name : String) (turnNumber : Option TurnNumber) (code : String) : SseEvent :=
  sseEvent name (.obj [("code", .str code), ("turn_number", numberJson turnNumber)])

/-- `to_sse`. A JSON value can always be written, so there is always something to send. -/
def toSse : TurnEvent → SseEvent
  | .stageStarted _ stage => sseEvent "stage" (.obj [("stage", .str stage.asStr)])
  | .validationCompleted _ attempt decision issueCodes => sseEvent "validation" (.obj [
      ("attempt", .num attempt.toNat),
      ("decision", .str decision.asStr),
      ("issue_codes", .arr (issueCodes.map (.str ·.asStr)))])
  | .committed result replayed => sseEvent "committed" (.obj [
      ("replayed", .bool replayed),
      ("story_revision", .num result.storyRevision.toNat),
      ("story_text", .str result.storyText),
      ("turn_number", .num result.turnNumber.get.toNat)])
  | .failed turnNumber code => codeEvent "failed" turnNumber code
  | .cancelled turnNumber code => codeEvent "cancelled" turnNumber code
  | .conflict turnNumber code => codeEvent "conflict" turnNumber code

theorem toSse_isTerminal (event : TurnEvent) : (toSse event).isTerminal = event.isTerminal := by
  cases event <;> rfl

/-! ### The sink -/

/-- A sink whose stream is there, so that nothing is ever sent to a closed lane. -/
structure SseSink where
  progress : Channel SseEvent := { capacity := sseChannelCapacity }
  terminal : Channel SseEvent := { capacity := 1 }
  terminalSent : Bool := false

/-- Neither lane has been let go of. The fields are dropped in their order. -/
def SseSink.Alive (sink : SseSink) : Prop :=
  sink.progress.connected = true ∧ sink.terminal.connected = true

def SseSink.emit (sink : SseSink) (event : TurnEvent) :
    Except TurnEventDeliveryError Unit × SseSink :=
  if event.isTerminal then
    if sink.terminalSent then (.error .terminalAlreadySent, sink)
    else match sink.terminal.trySend (toSse event) with
      | some terminal => (.ok ⟨⟩, { sink with terminal, terminalSent := true })
      | none => (.error .progressBackpressure, { sink with terminalSent := true })
  else match sink.progress.trySend (toSse event) with
    | some progress => (.ok ⟨⟩, { sink with progress })
    | none => (.error .progressBackpressure, sink)

/-! ### The stream -/

inductive StreamPhase where
  /-- At the top of the loop, where every poll begins. -/
  | polled
  /-- In `select!`. -/
  | selecting
  /-- The progress lane is closed, the terminal lane is still waited for. -/
  | draining
  | ended
  deriving DecidableEq

inductive Lane where
  | progress | terminal
  deriving DecidableEq

/-- A sink and the merged stream of its lanes. -/
structure Connection where
  sink : SseSink := {}
  terminalDone : Bool := false
  phase : StreamPhase := .polled

namespace Connection

/-- The stream returns the first event of the progress lane. -/
def takeProgress (connection : Connection) : Connection :=
  { connection with
    sink := { connection.sink with progress := connection.sink.progress.rest }
    phase := .polled }

def takeTerminal (connection : Connection) : Connection :=
  { connection with
    sink := { connection.sink with terminal := connection.sink.terminal.rest }
    terminalDone := true
    phase := .polled }

/-- What `sse_merged_stream` does next, and the event that it yields if it does. In `select!` a
lane that has something is taken, whichever it is; where there is nothing the stream waits. -/
def step (connection : Connection) (lane : Lane) : Option (Connection × Option SseEvent) :=
  match connection.phase, lane with
  | .polled, _ =>
    if connection.terminalDone then some ({ connection with phase := .selecting }, none)
    else match connection.sink.terminal.tryRecv with
      | .item event => some (connection.takeTerminal, some event)
      | .empty => some ({ connection with phase := .selecting }, none)
      | .disconnected =>
        some ({ connection with terminalDone := true, phase := .selecting }, none)
  | .selecting, .progress =>
    match connection.sink.progress.tryRecv with
    | .item event => some (connection.takeProgress, some event)
    | .empty => none
    | .disconnected =>
      some ({ connection with phase := if connection.terminalDone then .ended else .draining }, none)
  | .selecting, .terminal =>
    match connection.sink.terminal.tryRecv with
    | .item event => some (connection.takeTerminal, some event)
    | .empty => none
    | .disconnected => some ({ connection with terminalDone := true, phase := .polled }, none)
  | .draining, _ =>
    match connection.sink.terminal.tryRecv with
    | .item event => some (connection.takeTerminal, some event)
    | .empty => none
    | .disconnected => some ({ connection with phase := .ended }, none)
  | .ended, _ => none

/-- Something can be yielded within so many steps. -/
def YieldsWithin : Nat → Connection → Prop
  | 0, _ => False
  | steps + 1, connection => ∃ lane next yielded, connection.step lane = some (next, yielded) ∧
      (yielded.isSome = true ∨ YieldsWithin steps next)

end Connection

/-! ### Runs -/

abbrev Emission := TurnEvent × Except TurnEventDeliveryError Unit

/-- The events of the emissions that returned `Ok`, in their order. -/
def accepted (emits : List Emission) : List TurnEvent :=
  emits.filterMap fun (event, result) =>
    match result with
    | .ok _ => some event
    | .error _ => none

/-- What a connection can come to, with the emissions of the sink so far and what the stream has
yielded. Each step is one of the sink or one of the stream. -/
inductive Connected : List Emission → List SseEvent → Connection → Prop
  | opened : Connected [] [] {}
  | emitted {emits : List Emission} {yields : List SseEvent} {connection : Connection}
      (run : Connected emits yields connection) (alive : connection.sink.Alive) (event : TurnEvent) :
      Connected (emits ++ [(event, (connection.sink.emit event).1)]) yields
        { connection with sink := (connection.sink.emit event).2 }
  | dropProgress {emits : List Emission} {yields : List SseEvent} {connection : Connection}
      (run : Connected emits yields connection) :
      Connected emits yields { connection with
        sink := { connection.sink with progress := connection.sink.progress.disconnect } }
  | dropTerminal {emits : List Emission} {yields : List SseEvent} {connection : Connection}
      (run : Connected emits yields connection)
      (dropping : connection.sink.progress.connected = false) :
      Connected emits yields { connection with
        sink := { connection.sink with terminal := connection.sink.terminal.disconnect } }
  | streamed {emits : List Emission} {yields : List SseEvent} {connection next : Connection}
      {yielded : Option SseEvent} (run : Connected emits yields connection) (lane : Lane)
      (stepped : connection.step lane = some (next, yielded)) :
      Connected emits (yields ++ yielded.toList) next

/-! ### What every run keeps -/

section
variable (emits : List Emission) (yields : List SseEvent)

/-- The events of a lane that were accepted. -/
def sentTo (terminal : Bool) : List SseEvent :=
  ((accepted emits).filter (·.isTerminal = terminal)).map toSse

/-- The events that have come out of a lane. -/
def cameFrom (terminal : Bool) : List SseEvent := yields.filter (·.isTerminal = terminal)

/-- How emissions, lanes and stream are related. -/
structure Connection.Inv (connection : Connection) : Prop where
  progress : connection.sink.progress.Carries (sentTo emits false) (cameFrom yields false)
  terminal : connection.sink.terminal.Carries (sentTo emits true) (cameFrom yields true)
  progressLane : ∀ event ∈ connection.sink.progress.queue, event.isTerminal = false
  terminalLane : ∀ event ∈ connection.sink.terminal.queue, event.isTerminal = true
  room : connection.sink.terminal.capacity = 1
  once : (sentTo emits true).length ≤ 1
  unsent : connection.sink.terminalSent = false → sentTo emits true = []
  heard : ∀ emission ∈ emits, emission.1.isTerminal = true →
    emission.2 ≠ .error .progressBackpressure
  /-- The stream stops looking at the terminal lane only when nothing can come any more. -/
  done : connection.terminalDone = true → connection.sink.terminal.queue = [] ∧
    (connection.sink.terminalSent = true ∨ connection.sink.terminal.connected = false)
  dropped : connection.sink.terminal.connected = false →
    connection.sink.progress.connected = false
  draining : connection.phase = .draining → connection.sink.progress.queue = [] ∧
    connection.sink.progress.connected = false
  ended : connection.phase = .ended → connection.sink.progress.queue = [] ∧
    connection.sink.progress.connected = false ∧ connection.sink.terminal.queue = []

end

section
variable {emits : List Emission} {yields : List SseEvent} {connection next : Connection}

theorem accepted_append (emission : Emission) :
    accepted (emits ++ [emission]) = accepted emits ++ accepted [emission] :=
  List.filterMap_append

theorem sentTo_refused {event : TurnEvent} {error : TurnEventDeliveryError} (terminal : Bool) :
    sentTo (emits ++ [(event, .error error)]) terminal = sentTo emits terminal := by
  rw [sentTo, accepted_append, show accepted [(event, .error error)] = [] from rfl, List.append_nil]
  rfl

theorem sentTo_accepted {event : TurnEvent} (terminal : Bool) :
    sentTo (emits ++ [(event, .ok ⟨⟩)]) terminal =
      sentTo emits terminal ++ if event.isTerminal = terminal then [toSse event] else [] := by
  rw [sentTo, accepted_append, show accepted [(event, .ok ⟨⟩)] = [event] from rfl,
    List.filter_append, List.map_append]
  by_cases own : event.isTerminal = terminal
  · simp [sentTo, own]
  · simp [sentTo, own]

theorem cameFrom_append (event : SseEvent) (terminal : Bool) :
    cameFrom (yields ++ [event]) terminal =
      cameFrom yields terminal ++ if event.isTerminal = terminal then [event] else [] := by
  rw [cameFrom, List.filter_append]
  by_cases own : event.isTerminal = terminal
  · simp [cameFrom, own]
  · simp [cameFrom, own]

namespace Connection.Inv

theorem initial : Inv [] [] {} where
  progress := rfl
  terminal := rfl
  progressLane := nofun
  terminalLane := nofun
  room := rfl
  once := Nat.zero_le 1
  unsent _ := rfl
  heard := nofun
  done := nofun
  dropped := nofun
  draining := nofun
  ended := nofun

variable (inv : Inv emits yields connection)
include inv

/-- An emission that is turned away leaves the lanes as they were. -/
theorem refuse {event : TurnEvent} {error : TurnEventDeliveryError}
    (heard : event.isTerminal = true → error ≠ .progressBackpressure) :
    Inv (emits ++ [(event, .error error)]) yields connection :=
  { inv with
    progress := by
      rw [sentTo_refused]
      exact inv.progress
    terminal := by
      rw [sentTo_refused]
      exact inv.terminal
    once := by
      rw [sentTo_refused]
      exact inv.once
    unsent := by
      rw [sentTo_refused]
      exact inv.unsent
    heard := by
      intro emission member ending
      rcases List.mem_append.mp member with before | last
      · exact inv.heard emission before ending
      · rw [List.mem_singleton.mp last] at ending ⊢
        exact fun same => heard ending (Except.error.inj same) }

theorem heard_append {event : TurnEvent} : ∀ emission ∈ emits ++ [(event, .ok ⟨⟩)],
    emission.1.isTerminal = true → emission.2 ≠ .error .progressBackpressure := by
  intro emission member ending
  rcases List.mem_append.mp member with before | last
  · exact inv.heard emission before ending
  · rw [List.mem_singleton.mp last]
    nofun

theorem emitProgress {event : TurnEvent} {progress : Channel SseEvent}
    (alive : connection.sink.Alive) (going : event.isTerminal = false)
    (sent : connection.sink.progress.trySend (toSse event) = some progress) :
    Inv (emits ++ [(event, .ok ⟨⟩)]) yields
      { connection with sink := { connection.sink with progress } } := by
  obtain ⟨queue, connected, _⟩ := Channel.trySend_eq_some sent
  have closed : connection.sink.progress.connected ≠ false := by
    rw [alive.1]
    exact Bool.noConfusion
  constructor
  · rw [sentTo_accepted, if_pos going]
    exact inv.progress.send sent
  · rw [sentTo_accepted, if_neg (by rw [going]; exact Bool.noConfusion), List.append_nil]
    exact inv.terminal
  · rw [queue]
    intro other member
    rcases List.mem_append.mp member with before | last
    · exact inv.progressLane other before
    · rw [List.mem_singleton.mp last, toSse_isTerminal, going]
  · exact inv.terminalLane
  · exact inv.room
  · rw [sentTo_accepted, if_neg (by rw [going]; exact Bool.noConfusion), List.append_nil]
    exact inv.once
  · rw [sentTo_accepted, if_neg (by rw [going]; exact Bool.noConfusion), List.append_nil]
    exact inv.unsent
  · exact inv.heard_append
  · exact inv.done
  · exact fun disconnected => connected.trans (inv.dropped disconnected)
  · exact fun phase => absurd (inv.draining phase).2 closed
  · exact fun phase => absurd (inv.ended phase).2.1 closed

theorem emitTerminal {event : TurnEvent} {terminal : Channel SseEvent}
    (alive : connection.sink.Alive) (ending : event.isTerminal = true)
    (unsent : connection.sink.terminalSent = false)
    (sent : connection.sink.terminal.trySend (toSse event) = some terminal) :
    Inv (emits ++ [(event, .ok ⟨⟩)]) yields
      { connection with sink := { connection.sink with terminal, terminalSent := true } } := by
  obtain ⟨queue, connected, capacity⟩ := Channel.trySend_eq_some sent
  have closed : connection.sink.progress.connected ≠ false := by
    rw [alive.1]
    exact Bool.noConfusion
  constructor
  · rw [sentTo_accepted, if_neg (by rw [ending]; exact Bool.noConfusion), List.append_nil]
    exact inv.progress
  · rw [sentTo_accepted, if_pos ending]
    exact inv.terminal.send sent
  · exact inv.progressLane
  · rw [queue]
    intro other member
    rcases List.mem_append.mp member with before | last
    · exact inv.terminalLane other before
    · rw [List.mem_singleton.mp last, toSse_isTerminal, ending]
  · exact capacity.trans inv.room
  · rw [sentTo_accepted, if_pos ending, inv.unsent unsent]
    exact le_refl 1
  · nofun
  · exact inv.heard_append
  · intro done
    rcases (inv.done done).2 with before | disconnected
    · cases unsent.symm.trans before
    · cases alive.2.symm.trans disconnected
  · exact fun disconnected => inv.dropped (connected.symm.trans disconnected)
  · exact inv.draining
  · exact fun phase => absurd (inv.ended phase).2.1 closed

/-- Until a terminal event was accepted its lane is empty, so the first one finds room. -/
theorem terminal_room (unsent : connection.sink.terminalSent = false) (event : SseEvent) :
    connection.sink.terminal.trySend event ≠ none := by
  rw [Ne, Channel.trySend_eq_none, inv.room, Nat.not_le]
  have carried := inv.terminal
  rw [inv.unsent unsent] at carried
  rw [(List.append_eq_nil_iff.mp carried).2]
  exact Nat.zero_lt_one

theorem emit (alive : connection.sink.Alive) (event : TurnEvent) :
    Inv (emits ++ [(event, (connection.sink.emit event).1)]) yields
      { connection with sink := (connection.sink.emit event).2 } := by
  unfold SseSink.emit
  by_cases ending : event.isTerminal = true
  · rw [if_pos ending]
    by_cases before : connection.sink.terminalSent = true
    · rw [if_pos before]
      exact inv.refuse fun _ => nofun
    · have unsent := Bool.eq_false_iff.mpr before
      rw [if_neg before]
      cases sent : connection.sink.terminal.trySend (toSse event) with
      | none => exact absurd sent (inv.terminal_room unsent _)
      | some terminal => exact inv.emitTerminal alive ending unsent sent
  · rw [if_neg ending]
    have going := Bool.eq_false_iff.mpr ending
    cases sent : connection.sink.progress.trySend (toSse event) with
    | none => exact inv.refuse fun other => absurd other ending
    | some progress => exact inv.emitProgress alive going sent

theorem takeProgress {event : SseEvent}
    (found : connection.sink.progress.tryRecv = .item event) :
    Inv emits (yields ++ [event]) connection.takeProgress := by
  have first := Channel.tryRecv_eq_item.mp found
  have going := inv.progressLane event (first ▸ List.mem_cons_self)
  constructor
  · rw [cameFrom_append, if_pos going]
    exact inv.progress.receive found
  · rw [cameFrom_append, if_neg (by rw [going]; exact Bool.noConfusion), List.append_nil]
    exact inv.terminal
  · exact fun other member => inv.progressLane other (first ▸ List.mem_cons_of_mem _ member)
  · exact inv.terminalLane
  · exact inv.room
  · exact inv.once
  · exact inv.unsent
  · exact inv.heard
  · exact inv.done
  · exact inv.dropped
  · nofun
  · nofun

theorem takeTerminal {event : SseEvent}
    (found : connection.sink.terminal.tryRecv = .item event) :
    Inv emits (yields ++ [event]) connection.takeTerminal := by
  have first := Channel.tryRecv_eq_item.mp found
  have ending := inv.terminalLane event (first ▸ List.mem_cons_self)
  have only : connection.sink.terminal.rest.queue = [] := by
    have carried := congrArg List.length inv.terminal
    rw [List.length_append, first, List.length_cons] at carried
    have once := inv.once
    exact List.eq_nil_of_length_eq_zero (by omega)
  constructor
  · rw [cameFrom_append, if_neg (by rw [ending]; exact Bool.noConfusion), List.append_nil]
    exact inv.progress
  · rw [cameFrom_append, if_pos ending]
    exact inv.terminal.receive found
  · exact inv.progressLane
  · exact fun other member => inv.terminalLane other (first ▸ List.mem_cons_of_mem _ member)
  · exact inv.room
  · exact inv.once
  · exact inv.unsent
  · exact inv.heard
  · refine fun _ => ⟨only, .inl ?_⟩
    by_contra unsent
    have carried := inv.terminal
    rw [inv.unsent (Bool.eq_false_iff.mpr unsent)] at carried
    rw [(List.append_eq_nil_iff.mp carried).2] at first
    cases first
  · exact inv.dropped
  · nofun
  · nofun

/-- A step that yields nothing moves the stream on, and may have found the terminal lane closed. -/
theorem move {terminalDone : Bool} {phase : StreamPhase}
    (done : terminalDone = true → connection.terminalDone = true ∨
      connection.sink.terminal.queue = [] ∧ connection.sink.terminal.connected = false)
    (draining : phase = .draining → connection.sink.progress.queue = [] ∧
      connection.sink.progress.connected = false)
    (ended : phase = .ended → connection.sink.progress.queue = [] ∧
      connection.sink.progress.connected = false ∧ connection.sink.terminal.queue = []) :
    Inv emits (yields ++ []) { connection with terminalDone, phase } := by
  rw [List.append_nil]
  refine { inv with done := fun now => ?_, draining, ended }
  rcases done now with before | ⟨empty, disconnected⟩
  · exact inv.done before
  · exact ⟨empty, .inr disconnected⟩

theorem step {lane : Lane} {yielded : Option SseEvent}
    (stepped : connection.step lane = some (next, yielded)) :
    Inv emits (yields ++ yielded.toList) next := by
  unfold Connection.step at stepped
  split at stepped
  · split at stepped
    · rename_i done
      cases stepped
      exact inv.move .inl nofun nofun
    · split at stepped
      · rename_i found
        cases stepped
        exact inv.takeTerminal found
      · cases stepped
        exact inv.move .inl nofun nofun
      · rename_i closed
        cases stepped
        exact inv.move (fun _ => .inr (Channel.tryRecv_eq_disconnected.mp closed)) nofun nofun
  · split at stepped
    · rename_i found
      cases stepped
      exact inv.takeProgress found
    · cases stepped
    · rename_i closed
      cases stepped
      have drained := Channel.tryRecv_eq_disconnected.mp closed
      refine inv.move .inl (fun _ => drained) fun ended => ?_
      split at ended
      · rename_i done
        exact ⟨drained.1, drained.2, (inv.done done).1⟩
      · cases ended
  · split at stepped
    · rename_i found
      cases stepped
      exact inv.takeTerminal found
    · cases stepped
    · rename_i closed
      cases stepped
      exact inv.move (fun _ => .inr (Channel.tryRecv_eq_disconnected.mp closed)) nofun nofun
  · rename_i draining
    split at stepped
    · rename_i found
      cases stepped
      exact inv.takeTerminal found
    · cases stepped
    · rename_i closed
      cases stepped
      obtain ⟨empty, disconnected⟩ := inv.draining draining
      exact inv.move .inl nofun fun _ =>
        ⟨empty, disconnected, (Channel.tryRecv_eq_disconnected.mp closed).1⟩
  · cases stepped

end Connection.Inv

theorem Connected.inv (run : Connected emits yields connection) :
    connection.Inv emits yields := by
  induction run with
  | opened => exact .initial
  | emitted _ alive event ih => exact ih.emit alive event
  | dropProgress _ ih =>
    exact { ih with
      dropped := fun _ => rfl
      draining := fun phase => ⟨(ih.draining phase).1, rfl⟩
      ended := fun phase => ⟨(ih.ended phase).1, rfl, (ih.ended phase).2.2⟩ }
  | dropTerminal _ dropping ih =>
    exact { ih with
      done := fun done => ⟨(ih.done done).1, .inr rfl⟩
      dropped := fun _ => dropping }
  | streamed _ lane stepped ih => exact ih.step stepped

/-! ### Delivery -/

/-- In `select!` both lanes are looked at. -/
theorem Connection.yieldsWithin_of_selecting (selecting : connection.phase = .selecting)
    (waiting : connection.sink.progress.queue ≠ [] ∨ connection.sink.terminal.queue ≠ []) :
    connection.YieldsWithin 1 := by
  rcases waiting with going | ending
  · obtain ⟨event, _, found⟩ := Channel.tryRecv_of_ne_nil going
    refine ⟨.progress, connection.takeProgress, some event, ?_, .inl rfl⟩
    simp only [step, selecting, found]
  · obtain ⟨event, _, found⟩ := Channel.tryRecv_of_ne_nil ending
    refine ⟨.terminal, connection.takeTerminal, some event, ?_, .inl rfl⟩
    simp only [step, selecting, found]

namespace Connection.Inv
variable (inv : Inv emits yields connection)
include inv

/-- As long as something waits in a lane, the stream can yield within two steps. -/
theorem yieldsWithin
    (waiting : connection.sink.progress.queue ≠ [] ∨ connection.sink.terminal.queue ≠ []) :
    connection.YieldsWithin 2 := by
  cases phase : connection.phase with
  | polled =>
    cases done : connection.terminalDone with
    | true =>
      refine ⟨.progress, { connection with phase := .selecting }, none, ?_,
        .inr (yieldsWithin_of_selecting rfl waiting)⟩
      simp only [Connection.step, phase, done, if_true]
    | false =>
      cases found : connection.sink.terminal.tryRecv with
      | item event =>
        refine ⟨.progress, connection.takeTerminal, some event, ?_, .inl rfl⟩
        simp [Connection.step, phase, done, found]
      | empty =>
        refine ⟨.progress, { connection with phase := .selecting }, none, ?_,
          .inr (yieldsWithin_of_selecting rfl waiting)⟩
        simp [Connection.step, phase, done, found]
      | disconnected =>
        refine ⟨.progress, { connection with terminalDone := true, phase := .selecting }, none, ?_,
          .inr (yieldsWithin_of_selecting rfl waiting)⟩
        simp [Connection.step, phase, done, found]
  | selecting =>
    obtain ⟨lane, next, yielded, stepped, now | absurd⟩ := yieldsWithin_of_selecting phase waiting
    · exact ⟨lane, next, yielded, stepped, .inl now⟩
    · cases absurd
  | draining =>
    have ending := waiting.resolve_left fun going => going (inv.draining phase).1
    obtain ⟨event, _, found⟩ := Channel.tryRecv_of_ne_nil ending
    refine ⟨.terminal, connection.takeTerminal, some event, ?_, .inl rfl⟩
    simp only [Connection.step, phase, found]
  | ended =>
    obtain ⟨going, _, ending⟩ := inv.ended phase
    rcases waiting with left | right
    · exact absurd going left
    · exact absurd ending right

/-- The terminal event is not kept waiting: the next step of the stream yields it, or it is the last
one in `select!` before one that does. -/
theorem prompt (waiting : connection.sink.terminal.queue ≠ []) {lane : Lane}
    {yielded : Option SseEvent} (stepped : connection.step lane = some (next, yielded)) :
    yielded.any (·.isTerminal) = true ∨
      connection.phase = .selecting ∧ next.phase ≠ .selecting := by
  have unfinished : connection.terminalDone ≠ true := fun done => waiting (inv.done done).1
  obtain ⟨last, member, found⟩ := Channel.tryRecv_of_ne_nil waiting
  have ending := inv.terminalLane last member
  unfold Connection.step at stepped
  rw [if_neg unfinished, if_neg unfinished] at stepped
  simp only [found] at stepped
  split at stepped
  · cases stepped
    exact .inl ending
  · rename_i selecting
    split at stepped
    · cases stepped
      exact .inr ⟨selecting, nofun⟩
    · cases stepped
    · cases stepped
      exact .inr ⟨selecting, nofun⟩
  · cases stepped
    exact .inl ending
  · cases stepped
    exact .inl ending
  · cases stepped

end Connection.Inv

/-- Everything that was accepted is delivered once and in order, and nothing else is. -/
structure Delivered (emits : List Emission) (yields : List SseEvent) (connection : Connection) :
    Prop where
  progress : cameFrom yields false ++ connection.sink.progress.queue = sentTo emits false
  terminal : cameFrom yields true ++ connection.sink.terminal.queue = sentTo emits true
  once : (sentTo emits true).length ≤ 1
  heard : ∀ emission ∈ emits, emission.1.isTerminal = true →
    emission.2 ≠ .error .progressBackpressure
  /-- The stream ends after the sink, and leaves nothing behind. -/
  complete : connection.phase = .ended → ¬connection.sink.Alive ∧
    cameFrom yields false = sentTo emits false ∧ cameFrom yields true = sentTo emits true
  /-- What was accepted can be yielded as long as it is not. -/
  moving : connection.sink.progress.queue ≠ [] ∨ connection.sink.terminal.queue ≠ [] →
    connection.YieldsWithin 2
  prompt : connection.sink.terminal.queue ≠ [] → ∀ lane next yielded,
    connection.step lane = some (next, yielded) → yielded.any (·.isTerminal) = true ∨
      connection.phase = .selecting ∧ next.phase ≠ .selecting

/-- Turn events reach a connected client exactly once, however the sink and the stream take turns. -/
theorem turn_events_delivered (run : Connected emits yields connection) :
    Delivered emits yields connection := by
  have inv := run.inv
  refine ⟨inv.progress, inv.terminal, inv.once, inv.heard, fun phase => ?_, inv.yieldsWithin,
    fun waiting _ _ _ stepped => inv.prompt waiting stepped⟩
  obtain ⟨going, dropped, ending⟩ := inv.ended phase
  have progress := inv.progress
  have terminal := inv.terminal
  rw [Channel.Carries, going, List.append_nil] at progress
  rw [Channel.Carries, ending, List.append_nil] at terminal
  refine ⟨fun alive => ?_, progress, terminal⟩
  cases alive.1.symm.trans dropped

namespace Sse.Sample

def started : TurnEvent := .stageStarted none .turnInitializer
def failure : TurnEvent := .failed none "deadline_exceeded"

/-- A stage starts, the turn fails, and is said to have failed once more. The terminal event
overtakes the stage. -/
theorem failure_delivered : ∃ emits connection,
    Connected emits [toSse failure, toSse started] connection ∧ connection.phase = .ended ∧
      Delivered emits [toSse failure, toSse started] connection := by
  have fresh : Connected [] [] {} := .opened
  have first := fresh.emitted ⟨rfl, rfl⟩ started
  have second := first.emitted ⟨rfl, rfl⟩ failure
  have third := second.emitted ⟨rfl, rfl⟩ failure
  have overtaken := third.streamed .terminal rfl
  have polled := overtaken.streamed .progress rfl
  have yielded := polled.streamed .progress rfl
  have dropping := yielded.dropProgress.dropTerminal rfl
  have again := dropping.streamed .progress rfl
  have ended := again.streamed .progress rfl
  exact ⟨_, _, ended, rfl, turn_events_delivered ended⟩

end Sse.Sample

end

end Aise.Domain.Server
