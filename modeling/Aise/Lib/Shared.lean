import Aise.Lib.Transition
import Mathlib.Logic.Function.Basic

/-! Tasks that share a state. A task is a program that makes one call after the other and goes on with
the answers. Between two of its calls the other tasks make theirs, in any order, and the state may also
change by itself. What is proved of every program alone, against what calls are allowed and what they are
answered, then holds of all of them together. -/
namespace Shared
variable {Call : Type} {Answer : Call → Type} {α β γ : Type}

inductive Program (Call : Type) (Answer : Call → Type) (α : Type) where
  | done (result : α)
  | ask (call : Call) (next : Answer call → Program Call Answer α)

namespace Program

def bind (program : Program Call Answer α) (next : α → Program Call Answer β) :
    Program Call Answer β :=
  match program with
  | .done result => next result
  | .ask call later => .ask call fun answer => (later answer).bind next

instance : Monad (Program Call Answer) where
  pure := .done
  bind := .bind

theorem bind_assoc (program : Program Call Answer α) (next : α → Program Call Answer β)
    (last : β → Program Call Answer γ) :
    (program.bind next).bind last = program.bind fun result => (next result).bind last := by
  induction program with
  | done result => rfl
  | ask call later ih => exact congrArg (Program.ask call) (funext ih)

theorem bind_done (program : Program Call Answer α) : program.bind .done = program := by
  induction program with
  | done result => rfl
  | ask call next ih => exact congrArg (Program.ask call) (funext ih)

instance : LawfulMonad (Program Call Answer) :=
  LawfulMonad.mk' _ bind_done (fun _ _ => rfl) bind_assoc

/-- One call. -/
def single (call : Call) : Program Call Answer (Answer call) := .ask call .done

/-! ### One program -/

section
variable (allowed : Call → Prop) (fits : (call : Call) → Answer call → Prop)

/-- As long as it is given fitting answers, the program makes allowed calls, and it ends with a result
that has the property. -/
def Meets : Program Call Answer α → (α → Prop) → Prop
  | .done result, ends => ends result
  | .ask call next, ends => allowed call ∧ ∀ answer, fits call answer → (next answer).Meets ends

variable {allowed fits} {program : Program Call Answer α} {ends : α → Prop}

theorem Meets.bind {next : α → Program Call Answer β} {last : β → Prop}
    (first : program.Meets allowed fits ends)
    (later : ∀ result, ends result → (next result).Meets allowed fits last) :
    (program >>= next).Meets allowed fits last := by
  induction program with
  | done result => exact later result first
  | ask call rest ih => exact ⟨first.1, fun answer fitting => ih answer (first.2 answer fitting)⟩

theorem meets_pure {result : α} (holds : ends result) :
    (pure result : Program Call Answer α).Meets allowed fits ends := holds

theorem meets_single (call : Call) (may : allowed call) : (single call).Meets allowed fits (fits call) :=
  ⟨may, fun _ fitting => fitting⟩

/-- A loop whose rounds do what a function does. -/
theorem meets_foldlM {round : β → γ → Program Call Answer β} {plain : β → γ → β} {items : List γ}
    (each : ∀ total, ∀ item ∈ items, (round total item).Meets allowed fits (· = plain total item))
    (total : β) : (items.foldlM round total).Meets allowed fits (· = items.foldl plain total) := by
  induction items generalizing total with
  | nil => exact meets_pure rfl
  | cons item items ih =>
    rw [List.foldlM_cons]
    refine (each total item List.mem_cons_self).bind ?_
    rintro _ rfl
    exact ih (fun total item member => each total item (List.mem_cons_of_mem _ member)) _

end

end Program

/-! ### All programs -/

/-- What is answered in a state, and what else may happen to it. -/
structure Object (Call : Type) (Answer : Call → Type) (S : Type) where
  answers : S → (call : Call) → Answer call → S → Prop
  changes : S → S → Prop

section
variable {S ι : Type} [DecidableEq ι]

/-- One task makes its next call, or the state changes. -/
inductive Step (object : Object Call Answer S) :
    S × (ι → Program Call Answer α) → S × (ι → Program Call Answer α) → Prop
  | call {s t : S} {tasks : ι → Program Call Answer α} {task : ι} {call : Call}
      {next : Answer call → Program Call Answer α} {answer : Answer call}
      (asks : tasks task = .ask call next) (answered : object.answers s call answer t) :
      Step object (s, tasks) (t, Function.update tasks task (next answer))
  | change {s t : S} {tasks : ι → Program Call Answer α} (changed : object.changes s t) :
      Step object (s, tasks) (t, tasks)

variable {object : Object Call Answer S} {allowed : Call → Prop}
  {fits : (call : Call) → Answer call → Prop} {holds : S → Prop}

/-- Allowed calls keep what holds of the state, and are then given fitting answers. -/
structure Guards (object : Object Call Answer S) (holds : S → Prop) (allowed : Call → Prop)
    (fits : (call : Call) → Answer call → Prop) : Prop where
  call : ∀ {s t call answer}, holds s → allowed call → object.answers s call answer t →
    holds t ∧ fits call answer
  change : ∀ {s t}, holds s → object.changes s t → holds t

/-- Tasks that are right alone are right together. -/
theorem Guards.run (guards : Guards object holds allowed fits) {ends : ι → α → Prop} {s t : S}
    {tasks later : ι → Program Call Answer α}
    (run : Transition.Reaches (Step object) (s, tasks) (t, later)) (initially : holds s)
    (meets : ∀ task, (tasks task).Meets allowed fits (ends task)) :
    holds t ∧ ∀ task, (later task).Meets allowed fits (ends task) := by
  refine Transition.invariant
    (P := fun state : S × (ι → Program Call Answer α) =>
      holds state.1 ∧ ∀ task, (state.2 task).Meets allowed fits (ends task)) ?_ run ⟨initially, meets⟩
  rintro _ _ ⟨held, each⟩ step
  cases step with
  | call asks answered =>
    rename_i task call next answer
    have here := each task
    dsimp only at here
    rw [asks] at here
    obtain ⟨kept, fitting⟩ := guards.call held here.1 answered
    refine ⟨kept, fun other => ?_⟩
    dsimp only
    by_cases same : other = task
    · rw [same, Function.update_self]
      exact here.2 answer fitting
    · rw [Function.update_of_ne same]
      exact each other
  | change changed => exact ⟨guards.change held changed, each⟩

/-- What a task has ended with. -/
theorem Guards.result (guards : Guards object holds allowed fits) {ends : ι → α → Prop} {s t : S}
    {tasks later : ι → Program Call Answer α}
    (run : Transition.Reaches (Step object) (s, tasks) (t, later)) (initially : holds s)
    (meets : ∀ task, (tasks task).Meets allowed fits (ends task)) {task : ι} {result : α}
    (ended : later task = .done result) : ends task result := by
  have here := (guards.run run initially meets).2 task
  rw [ended] at here
  exact here

/-! ### A task alone -/

/-- The task goes on to its end, and all others wait. -/
def Program.play (answer : S → (call : Call) → Option (Answer call × S)) :
    Program Call Answer α → S → Option (α × S)
  | .done result, s => some (result, s)
  | .ask call next, s => (answer s call).bind fun (answered, t) => (next answered).play answer t

theorem Step.play {answer : S → (call : Call) → Option (Answer call × S)}
    (answers : ∀ {s call answered t}, answer s call = some (answered, t) → object.answers s call answered t)
    {s t : S} {tasks : ι → Program Call Answer α} {task : ι} {program : Program Call Answer α} {result : α}
    (here : tasks task = program) (played : program.play answer s = some (result, t)) :
    Transition.Reaches (Step object) (s, tasks) (t, Function.update tasks task (.done result)) := by
  induction program generalizing s tasks with
  | done last =>
    cases played
    rw [← here, Function.update_eq_self]
  | ask call next ih =>
    obtain ⟨⟨answered, u⟩, called, played⟩ := Option.bind_eq_some_iff.mp played
    have rest := ih answered (Function.update_self task (next answered) tasks) played
    rw [Function.update_idem] at rest
    exact .head (.call here (answers called)) rest

end

end Shared
