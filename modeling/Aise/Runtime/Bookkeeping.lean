import Aise.Runtime.Exclusion

/-! What the coordinator keeps count of. The waiters of the entries and in total are the calls
between their two locked sections, the active permits are those whose drop has not taken them
off yet, and an entry that no call is about is marked idle. -/
namespace Aise.Domain
open OrdMap Transition

/-- Between the two locked sections of `acquire`. -/
def CallPhase.waits : CallPhase → Bool
  | .waiting | .granted | .failed => true
  | .admitted | .holding | .dropping | .releasing _ => false

/-- A permit that was issued and that `release` has not taken off the count. -/
def CallPhase.live : CallPhase → Bool
  | .holding | .dropping => true
  | .waiting | .granted | .failed | .admitted | .releasing _ => false

namespace StoryTurnCoordinator

def waitingOne (_ : Nat) (call : Call) : Nat := if call.phase.waits = true then 1 else 0

def waitingFor (storyId : StoryId) (_ : Nat) (call : Call) : Nat :=
  if call.storyId = storyId ∧ call.phase.waits = true then 1 else 0

def liveOne (_ : Nat) (call : Call) : Nat := if call.phase.live = true then 1 else 0

/-- The number of calls of `acquire` that wait. -/
def waitingCalls (state : StoryTurnCoordinator) : Nat := total waitingOne state.calls

/-- The number of permits that are live. -/
def livePermits (state : StoryTurnCoordinator) : Nat := total liveOne state.calls

def entryWaiters (_ : StoryId) (entry : StoryEntry) : Nat := entry.waiters

structure Booked (state : StoryTurnCoordinator) : Prop where
  totalWaiters : state.totalWaiters = state.waitingCalls
  summed : total entryWaiters state.stories = state.waitingCalls
  waiters : ∀ (storyId : StoryId) (entry : StoryEntry), state.stories[storyId]? = some entry →
    entry.waiters = total (waitingFor storyId) state.calls
  present : ∀ (call : Nat) (found : Call), state.calls[call]? = some found →
    found.phase.waits = true → ∃ entry, state.stories[found.storyId]? = some entry
  activePermits : state.activePermits = state.livePermits
  noted : ∀ (storyId : StoryId) (entry : StoryEntry), state.stories[storyId]? = some entry →
    entry.idleSince = none →
      ∃ (call : Nat) (found : Call), state.calls[call]? = some found ∧ found.storyId = storyId

/-- Another call about the same story. -/
def accompanied (state : StoryTurnCoordinator) (call : Nat) (found : Call) : Bool :=
  state.calls.toList.any fun (other, stored) => other ≠ call ∧ stored.storyId = found.storyId

/-- No future is dropped while it waits, and a call that ends without a permit is not the last
one about its story. -/
def attended (state : StoryTurnCoordinator) : CoordinatorEvent → Bool
  | .abandon _ => false
  | .settle call => state.calls[call]?.all fun found =>
      found.phase ≠ .failed || state.accompanied call found
  | _ => true

/-- Besides, no entry is reclaimed that a call waits for. -/
def Tended (config : CoordinatorConfig) (state : StoryTurnCoordinator) (event : CoordinatorEvent) :
    Prop :=
  state.attended event = true ∧ state.Spares config CallPhase.waits event

instance {config : CoordinatorConfig} {state : StoryTurnCoordinator} {event : CoordinatorEvent} :
    Decidable (state.Tended config event) := inferInstanceAs (Decidable (_ ∧ _))

section
variable {config : CoordinatorConfig} {state next : StoryTurnCoordinator} {call : Nat}
  {found : Call}

/-- A call moves on and neither starts nor stops to wait. -/
theorem Booked.moved (booked : state.Booked) (known : state.calls[call]? = some found)
    {phase : CallPhase} (same : phase.waits = found.phase.waits)
    (calls : next.calls = (state.setPhase call found phase).calls)
    (stories : next.stories = state.stories) (totalWaiters : next.totalWaiters = state.totalWaiters)
    (active : next.activePermits + liveOne call found =
      liveOne call { found with phase := phase } + state.activePermits) : next.Booked := by
  have waiting : next.waitingCalls = state.waitingCalls := by
    have counted := total_setPhase waitingOne known phase
    have equal : waitingOne call { found with phase := phase } = waitingOne call found := by
      rw [waitingOne, waitingOne, same]
    rw [waitingCalls, waitingCalls, calls]
    omega
  have each (storyId : StoryId) :
      total (waitingFor storyId) next.calls = total (waitingFor storyId) state.calls := by
    have counted := total_setPhase (waitingFor storyId) known phase
    have equal : waitingFor storyId call { found with phase := phase } =
        waitingFor storyId call found := by
      rw [waitingFor, waitingFor, same]
    rw [calls]
    omega
  have listed (other : Nat) (stored : Call) (also : next.calls[other]? = some stored) :
      ∃ before, state.calls[other]? = some before ∧ before.storyId = stored.storyId ∧
        before.phase.waits = stored.phase.waits := by
    rw [calls, setPhase, get_insert] at also
    split at also
    · rename_i here
      cases also
      exact ⟨found, here ▸ known, rfl, same.symm⟩
    · exact ⟨stored, also, rfl, rfl⟩
  refine ⟨?_, ?_, ?_, ?_, ?_, ?_⟩
  · rw [totalWaiters, waiting, booked.totalWaiters]
  · rw [stories, waiting, booked.summed]
  · intro storyId entry stored
    rw [stories] at stored
    rw [each, booked.waiters storyId entry stored]
  · intro other stored also waits
    obtain ⟨before, was, own, phases⟩ := listed other stored also
    rw [stories, ← own]
    exact booked.present other before was (phases.trans waits)
  · have counted := total_setPhase liveOne known phase
    have before := booked.activePermits
    rw [livePermits] at before ⊢
    rw [calls]
    omega
  · intro storyId entry stored idle
    rw [stories] at stored
    obtain ⟨other, one, also, own⟩ := booked.noted storyId entry stored idle
    rw [calls, setPhase]
    by_cases here : call = other
    · subst here
      rw [known] at also
      cases also
      exact ⟨call, { found with phase := phase }, by rw [get_insert, if_pos rfl], own⟩
    · exact ⟨other, one, by rw [get_insert, if_neg here, also], own⟩

/-- A call stops to wait: it is taken off the entry of its story, which is not idle now, and off
the total. -/
theorem Booked.unwaited (booked : state.Booked) (known : state.calls[call]? = some found)
    (waits : found.phase.waits = true)
    (stories : next.stories = unwait state.stories found.storyId)
    (totalWaiters : next.totalWaiters = state.totalWaiters - 1)
    (activePermits : next.activePermits = state.activePermits)
    (fewer : total waitingOne next.calls + 1 = total waitingOne state.calls)
    (each : ∀ storyId, total (waitingFor storyId) next.calls + waitingFor storyId call found =
      total (waitingFor storyId) state.calls)
    (live : total liveOne next.calls = total liveOne state.calls)
    (still : ∀ (other : Nat) (stored : Call), next.calls[other]? = some stored →
      stored.phase.waits = true → state.calls[other]? = some stored)
    (others : ∀ (other : Nat) (stored : Call), state.calls[other]? = some stored →
      stored.storyId ≠ found.storyId → next.calls[other]? = some stored)
    (about : ∃ (other : Nat) (stored : Call), next.calls[other]? = some stored ∧
      stored.storyId = found.storyId) : next.Booked := by
  obtain ⟨entry, own⟩ := booked.present call found known waits
  have counted := booked.waiters found.storyId entry own
  have one : waitingFor found.storyId call found = 1 := if_pos ⟨rfl, waits⟩
  have positive := measure_le_total (waitingFor found.storyId) known
  refine ⟨?_, ?_, ?_, ?_, ?_, ?_⟩
  · rw [totalWaiters, booked.totalWaiters, waitingCalls, waitingCalls]
    omega
  · have written := total_modify entryWaiters own
      fun entry => { entry with waiters := entry.waiters - 1, idleSince := none }
    have summed := booked.summed
    dsimp only [entryWaiters] at written
    rw [stories, unwait]
    rw [waitingCalls] at summed ⊢
    omega
  · intro storyId stored read
    rw [stories, unwait, get_modify] at read
    have less := each storyId
    split at read
    · rename_i same
      subst same
      rw [own, Option.map_some, Option.some.injEq] at read
      subst read
      dsimp only
      omega
    · rename_i apart
      have nothing : waitingFor storyId call found = 0 := if_neg fun mine => apart mine.1
      rw [booked.waiters storyId stored read]
      omega
  · intro other stored also stillWaits
    obtain ⟨before, read⟩ := booked.present other stored (still other stored also stillWaits)
      stillWaits
    rw [stories, unwait, get_modify, read]
    split
    · exact ⟨_, rfl⟩
    · exact ⟨before, rfl⟩
  · rw [activePermits, livePermits, live]
    exact booked.activePermits
  · intro storyId stored read idle
    rw [stories, unwait, get_modify] at read
    split at read
    · rename_i same
      exact same ▸ about
    · rename_i apart
      obtain ⟨other, one, also, mine⟩ := booked.noted storyId stored read idle
      exact ⟨other, one, others other one also fun equal => apart (equal.symm.trans mine), mine⟩

/-- A call that is neither waiting nor live ends, and marks the entry of its story unless others
wait for it. -/
theorem Booked.released (booked : state.Booked) (known : state.calls[call]? = some found)
    (waits : found.phase.waits = false) (live : found.phase.live = false) (now : Nat)
    (stories : next.stories = markIdle state.stories found.storyId now)
    (calls : next.calls = state.calls.erase call)
    (totalWaiters : next.totalWaiters = state.totalWaiters)
    (activePermits : next.activePermits = state.activePermits) : next.Booked := by
  have waiting : next.waitingCalls = state.waitingCalls := by
    have counted := total_gone waitingOne known
    have nothing : waitingOne call found = 0 := if_neg (by simp [waits])
    rw [waitingCalls, waitingCalls, calls]
    omega
  have each (storyId : StoryId) :
      total (waitingFor storyId) next.calls = total (waitingFor storyId) state.calls := by
    have counted := total_gone (waitingFor storyId) known
    have nothing : waitingFor storyId call found = 0 := if_neg (by simp [waits])
    rw [calls]
    omega
  have marked (storyId : StoryId) (entry : StoryEntry) (read : next.stories[storyId]? = some entry) :
      ∃ before, state.stories[storyId]? = some before ∧ before.waiters = entry.waiters ∧
        (found.storyId ≠ storyId → before = entry) ∧
        (found.storyId = storyId → entry.idleSince = none → entry.waiters ≠ 0) := by
    rw [stories, markIdle, get_modify] at read
    split at read
    · rename_i same
      obtain ⟨before, was, rfl⟩ := Option.map_eq_some_iff.mp read
      refine ⟨before, was, by split <;> rfl, fun apart => absurd same apart, fun _ idle => ?_⟩
      split at idle
      · cases idle
      · rename_i busy
        rw [if_neg busy]
        exact busy
    · rename_i apart
      exact ⟨entry, read, rfl, fun _ => rfl, fun same => absurd same apart⟩
  refine ⟨?_, ?_, ?_, ?_, ?_, ?_⟩
  · rw [totalWaiters, waiting, booked.totalWaiters]
  · rw [waiting, ← booked.summed, stories, markIdle]
    exact total_modify_same fun entry => by
      simp only [entryWaiters]
      split <;> rfl
  · intro storyId entry read
    obtain ⟨before, was, same, _⟩ := marked storyId entry read
    rw [each, ← same, booked.waiters storyId before was]
  · intro other stored also stillWaits
    rw [calls, get_erase] at also
    split at also
    · cases also
    · obtain ⟨before, was⟩ := booked.present other stored also stillWaits
      rw [stories, markIdle, get_modify, was]
      split
      · exact ⟨_, rfl⟩
      · exact ⟨before, rfl⟩
  · have counted := total_gone liveOne known
    have nothing : liveOne call found = 0 := if_neg (by simp [live])
    have before := booked.activePermits
    rw [livePermits] at before ⊢
    rw [activePermits, calls]
    omega
  · intro storyId entry read idle
    obtain ⟨before, was, same, other, here⟩ := marked storyId entry read
    by_cases own : found.storyId = storyId
    · -- others wait for the entry, and the calls that do are still there
      have busy := here own idle
      rw [← same, booked.waiters storyId before was, ← each] at busy
      by_contra none
      push Not at none
      refine busy ((total_eq_zero_iff _).mpr fun key value stored => ?_)
      exact if_neg fun mine => none key value stored mine.1
    · rw [other own] at was
      obtain ⟨key, value, stored, mine⟩ := booked.noted storyId entry was idle
      refine ⟨key, value, ?_, mine⟩
      rw [calls, get_erase, if_neg, stored]
      intro gone
      subst gone
      rw [known] at stored
      cases stored
      exact own mine

/-- Reclaiming takes nothing off the books as long as it spares the entries that calls wait
for. -/
theorem Booked.reclaimed (booked : state.Booked) {now : Nat}
    (spared : ∀ (call : Nat) (found : Call), state.calls[call]? = some found →
      found.phase.waits = true → ∀ entry, state.stories[found.storyId]? = some entry →
        keeps config now entry = true)
    (stories : next.stories = reclaim config state.stories now) (calls : next.calls = state.calls)
    (totalWaiters : next.totalWaiters = state.totalWaiters)
    (activePermits : next.activePermits = state.activePermits) : next.Booked := by
  refine ⟨?_, ?_, ?_, ?_, ?_, ?_⟩
  · rw [totalWaiters, waitingCalls, calls]
    exact booked.totalWaiters
  · rw [stories, waitingCalls, calls, ← waitingCalls, ← booked.summed]
    refine total_filter _ _ fun storyId entry stored dropped => ?_
    rw [entryWaiters, booked.waiters storyId entry stored, total_eq_zero_iff]
    refine fun call found known => if_neg fun mine => ?_
    have kept := spared call found known mine.2 entry (mine.1 ▸ stored)
    rw [kept] at dropped
    cases dropped
  · intro storyId entry read
    rw [stories] at read
    rw [calls]
    exact booked.waiters storyId entry (get_reclaim.mp read).1
  · intro call found known waits
    rw [calls] at known
    obtain ⟨entry, stored⟩ := booked.present call found known waits
    rw [stories]
    exact ⟨entry, get_reclaim.mpr ⟨stored, spared call found known waits entry stored⟩⟩
  · rw [activePermits, livePermits, calls]
    exact booked.activePermits
  · intro storyId entry read idle
    rw [stories] at read
    rw [calls]
    exact booked.noted storyId entry (get_reclaim.mp read).1 idle

/-- What is found or made for a story has as many waiters as calls wait for it. -/
theorem Booked.entryOf_waiters (booked : state.Booked) (storyId : StoryId) :
    (state.entryOf state.stories storyId).waiters = part entryWaiters state.stories storyId ∧
      (state.entryOf state.stories storyId).waiters = total (waitingFor storyId) state.calls := by
  unfold entryOf part
  cases known : state.stories[storyId]? with
  | some entry => exact ⟨rfl, booked.waiters storyId entry known⟩
  | none =>
    refine ⟨rfl, ((total_eq_zero_iff _).mpr fun call found stored => if_neg fun mine => ?_).symm⟩
    obtain ⟨entry, own⟩ := booked.present call found stored mine.2
    rw [mine.1, known] at own
    cases own

/-- A call that joins those waiting is put on the books. -/
theorem Booked.joined (booked : state.Booked) (fresh : state.calls[call]? = none)
    {storyId : StoryId} {semaphore : Nat} {entry : StoryEntry}
    (more : entry.waiters = (state.entryOf state.stories storyId).waiters + 1)
    (stories : next.stories = state.stories.insert storyId entry)
    (calls : next.calls = state.calls.insert call ⟨storyId, semaphore, .waiting⟩)
    (totalWaiters : next.totalWaiters = state.totalWaiters + 1)
    (activePermits : next.activePermits = state.activePermits) : next.Booked := by
  obtain ⟨written, counted⟩ := booked.entryOf_waiters storyId
  have waiting : next.waitingCalls = state.waitingCalls + 1 := by
    rw [waitingCalls, calls, total_insert_fresh waitingOne fresh, Nat.add_comm]
    rfl
  have kept (other : Nat) (stored : Call) (also : state.calls[other]? = some stored) :
      next.calls[other]? = some stored := by
    rw [calls, get_insert, if_neg, also]
    intro same
    rw [← same, fresh] at also
    cases also
  refine ⟨?_, ?_, ?_, ?_, ?_, ?_⟩
  · rw [totalWaiters, waiting, booked.totalWaiters]
  · have sum := total_insert entryWaiters state.stories storyId entry
    have summed := booked.summed
    rw [← written, show entryWaiters storyId entry = entry.waiters from rfl, more] at sum
    rw [stories, waiting]
    omega
  · intro other stored read
    rw [stories, get_insert] at read
    rw [calls, total_insert_fresh (waitingFor other) fresh]
    split at read
    · rename_i same
      subst same
      cases read
      have one : waitingFor storyId call ⟨storyId, semaphore, .waiting⟩ = 1 := if_pos ⟨rfl, rfl⟩
      rw [more, counted, one, Nat.add_comm]
    · rename_i apart
      have nothing : waitingFor other call ⟨storyId, semaphore, .waiting⟩ = 0 :=
        if_neg fun mine => apart mine.1
      rw [nothing, Nat.zero_add]
      exact booked.waiters other stored read
  · intro other stored also waits
    rw [stories, get_insert]
    split
    · exact ⟨_, rfl⟩
    · rename_i apart
      rw [calls, get_insert] at also
      split at also
      · cases also
        exact absurd rfl apart
      · exact booked.present other stored also waits
  · rw [activePermits, livePermits, calls, total_insert_fresh liveOne fresh]
    exact booked.activePermits.trans (Nat.zero_add _).symm
  · intro other stored read idle
    rw [stories, get_insert] at read
    split at read
    · rename_i same
      exact ⟨call, _, by rw [calls, get_insert, if_pos rfl], same⟩
    · obtain ⟨key, value, also, mine⟩ := booked.noted other stored read idle
      exact ⟨key, value, kept key value also, mine⟩

/-- What is found is not made anew. -/
theorem orInsert_of_waiters {stories : BTreeMap StoryId StoryEntry} {storyId : StoryId}
    (waited : 0 < (state.entryOf stories storyId).waiters) :
    state.orInsert stories storyId = { state with stories := stories } := by
  unfold entryOf at waited
  unfold orInsert
  cases known : stories[storyId]? with
  | some entry => rfl
  | none =>
    rw [known] at waited
    cases waited

theorem orInsert_insert (stories : BTreeMap StoryId StoryEntry) (storyId : StoryId)
    (entry : StoryEntry) : (state.orInsert stories storyId).stories.insert storyId entry =
      stories.insert storyId entry := by
  unfold orInsert
  split
  · rfl
  · apply Std.ExtTreeMap.ext_getElem?
    intro other
    rw [get_insert, get_insert, get_insert]
    split <;> rfl

@[simp] theorem orInsert_activePermits (stories : BTreeMap StoryId StoryEntry) (storyId : StoryId) :
    (state.orInsert stories storyId).activePermits = state.activePermits := by
  unfold orInsert
  split <;> rfl

/-- The books stay right as long as no future is dropped while it waits, no call ends without a
permit as the last one about its story, and no entry is reclaimed that a call waits for. -/
theorem Moves.booked {event : CoordinatorEvent} (moves : Moves config state event next)
    (positive : 0 < config.maxWaitersPerStory) (tended : state.Tended config event)
    (booked : state.Booked) : next.Booked := by
  obtain ⟨attended, spares⟩ := tended
  cases moves with
  | @enter call storyId now fresh later =>
    have reclaimed : ({ state with stories := reclaim config state.stories now } :
        StoryTurnCoordinator).Booked :=
      booked.reclaimed (spares state.stories now rfl) rfl rfl rfl rfl
    refine enter_cases config state call storyId now ?_ (fun crowded => ?_) ?_
    · exact booked.reclaimed (spares state.stories now rfl) rfl rfl rfl rfl
    · rw [orInsert_of_waiters (lt_of_lt_of_le positive crowded)]
      exact booked.reclaimed (spares state.stories now rfl) rfl rfl rfl rfl
    · exact reclaimed.joined fresh rfl (orInsert_insert _ _ _) rfl rfl (orInsert_activePermits _ _)
  | grant known phase free =>
    exact booked.moved known (by rw [phase]; rfl) rfl rfl rfl (by
      simp [liveOne, phase, CallPhase.live, setPhase])
  | fail known phase =>
    exact booked.moved known (by rw [phase]; rfl) rfl rfl rfl (by
      simp [liveOne, phase, CallPhase.live, setPhase])
  | abandon known phase => cases attended
  | @accept call found known phase =>
    have waits : found.phase.waits = true := by rw [phase]; rfl
    have counted (measure : Nat → Call → Nat) := total_setPhase measure known .admitted
    refine booked.unwaited known waits rfl rfl rfl ?_ (fun storyId => ?_) ?_ ?_ ?_ ?_
    · have one : waitingOne call found = 1 := if_pos waits
      have fewer := counted waitingOne
      rw [one] at fewer
      exact fewer.trans (Nat.zero_add _)
    · have less := counted (waitingFor storyId)
      have nothing : waitingFor storyId call { found with phase := .admitted } = 0 :=
        if_neg fun mine => by cases mine.2
      rw [nothing, Nat.zero_add] at less
      exact less
    · have same := counted liveOne
      have nothing : liveOne call found = 0 := if_neg (by rw [phase]; decide)
      rw [nothing] at same
      exact same.trans (Nat.zero_add _)
    · intro other stored also stillWaits
      have read : (state.calls.insert call { found with phase := .admitted })[other]? =
        some stored := also
      rw [get_insert] at read
      split at read
      · cases read
        cases stillWaits
      · exact read
    · intro other stored also apart
      show (state.calls.insert call { found with phase := .admitted })[other]? = some stored
      rw [get_insert, if_neg, also]
      intro same
      rw [← same, known] at also
      cases also
      exact apart rfl
    · refine ⟨call, { found with phase := .admitted }, ?_, rfl⟩
      show (state.calls.insert call { found with phase := .admitted })[call]? = _
      rw [get_insert, if_pos rfl]
  | @leave call found known phase =>
    have waits : found.phase.waits = true := by rw [phase]; rfl
    refine booked.unwaited known waits rfl rfl rfl ?_ (fun storyId => ?_) ?_ ?_ ?_ ?_
    · have one : waitingOne call found = 1 := if_pos waits
      have fewer := total_gone waitingOne known
      rw [one] at fewer
      exact fewer
    · exact total_gone (waitingFor storyId) known
    · have same := total_gone liveOne known
      have nothing : liveOne call found = 0 := if_neg (by rw [phase]; decide)
      rw [nothing] at same
      exact same
    · intro other stored also _
      dsimp only at also
      rw [get_erase] at also
      split at also
      · cases also
      · exact also
    · intro other stored also apart
      dsimp only
      rw [get_erase, if_neg, also]
      intro same
      rw [← same, known] at also
      cases also
      exact apart rfl
    · -- the other call about the story that the condition asks for
      rw [StoryTurnCoordinator.attended, known, Option.all_some, phase] at attended
      have company : state.accompanied call found = true := by simpa using attended
      obtain ⟨⟨other, stored⟩, member, mine⟩ := List.any_eq_true.mp company
      obtain ⟨apart, same⟩ := of_decide_eq_true mine
      refine ⟨other, stored, ?_, same⟩
      dsimp only
      rw [get_erase, if_neg (Ne.symm apart)]
      exact Std.ExtTreeMap.mem_toList_iff_getElem?_eq_some.mp member
  | issue known phase =>
    exact booked.moved known (by rw [phase]; rfl) rfl rfl rfl (by
      simp [liveOne, phase, CallPhase.live]; omega)
  | dropInner known phase =>
    exact booked.moved known (by rw [phase]; rfl) rfl rfl rfl (by
      simp [liveOne, phase, CallPhase.live, setPhase]; omega)
  | @beginRelease call now found known phase later =>
    have one : liveOne call found = 1 := if_pos (by rw [phase]; rfl)
    have below := measure_le_total liveOne known
    have active := booked.activePermits
    rw [livePermits] at active
    refine booked.moved known (by rw [phase]; rfl) rfl rfl rfl ?_
    have nothing : liveOne call { found with phase := .releasing now } = 0 :=
      if_neg (by simp [CallPhase.live])
    dsimp only
    omega
  | @finishRelease call now found known phase =>
    have released : ({ state with
        stories := markIdle state.stories found.storyId now
        calls := state.calls.erase call } : StoryTurnCoordinator).Booked :=
      booked.released known (by rw [phase]; rfl) (by rw [phase]; rfl) now rfl rfl rfl rfl
    refine released.reclaimed (fun other stored also waits => ?_) rfl rfl rfl rfl
    dsimp only at also
    rw [get_erase] at also
    split at also
    · cases also
    · exact spares _ now (by simp [reclaiming, known, phase]) other stored also waits
  | @reclaimIdle now later =>
    exact booked.reclaimed (spares state.stories now rfl) rfl rfl rfl rfl

/-- The counters are right, and the entry of a story that no call is about is gone or idle and
goes once the timeout has passed. -/
structure NoLeak (config : CoordinatorConfig) (state : StoryTurnCoordinator) : Prop where
  totalWaiters : state.totalWaiters = state.waitingCalls
  entryWaiters : total entryWaiters state.stories = state.waitingCalls
  activePermits : state.activePermits = state.livePermits
  idle : ∀ (storyId : StoryId) (entry : StoryEntry), state.stories[storyId]? = some entry →
    (∀ (call : Nat) (found : Call), state.calls[call]? = some found → found.storyId ≠ storyId) →
      ∃ since, entry.idleSince = some since ∧ ∀ now, config.idleTimeout ≤ now - since →
        (reclaim config state.stories now)[storyId]? = none

theorem Booked.noLeak (booked : state.Booked) : state.NoLeak config := by
  refine ⟨booked.totalWaiters, booked.summed, booked.activePermits, ?_⟩
  intro storyId entry stored unused
  cases idle : entry.idleSince with
  | none =>
    obtain ⟨call, found, known, own⟩ := booked.noted storyId entry stored idle
    exact absurd own (unused call found known)
  | some since =>
    refine ⟨since, rfl, fun now expired => ?_⟩
    cases kept : (reclaim config state.stories now)[storyId]? with
    | none => rfl
    | some other =>
      obtain ⟨same, keeping⟩ := get_reclaim.mp kept
      rw [stored, Option.some.injEq] at same
      rw [← same, keeps, idle] at keeping
      have young := of_decide_eq_true keeping
      omega

/-- Bookkeeping does not leak in a run in which no future is dropped while it waits, no call
ends without a permit as the last one about its story, and no entry is reclaimed that a call
waits for. -/
theorem bookkeeping_exact {clock : Nat} (positive : 0 < config.maxWaitersPerStory)
    (run : Reaches (StepBy config (Tended config)) { clock := clock } state) :
    state.NoLeak config := by
  have initial : ({ clock := clock } : StoryTurnCoordinator).Booked := by
    constructor
    · exact (total_empty _).symm
    · exact (total_empty _).trans (total_empty _).symm
    · intro storyId entry stored
      simp at stored
    · intro call found known
      simp at known
    · exact (total_empty _).symm
    · intro storyId entry stored
      simp at stored
  have booked : state.Booked := by
    refine invariant (P := Booked) (fun before step => ?_) run initial
    obtain ⟨event, tended, stepped⟩ := step
    exact (step_moves stepped).booked positive tended before
  exact booked.noLeak

end

namespace Bookkeeping.Sample

def config : CoordinatorConfig := ⟨1, 1, 300⟩

def saga : StoryId := ⟨"reef", by decide⟩

/-- A future that is dropped while it waits stays on the books. -/
theorem dropped_future_leaks :
    ¬∀ (config : CoordinatorConfig) (clock : Nat) (state : StoryTurnCoordinator),
      0 < config.maxWaitersPerStory → Reaches (Step config) { clock := clock } state →
        state.NoLeak config := by
  intro exact
  have ends : (run config (fun _ _ => True) { clock := 0 } [.enter 0 saga 0, .abandon 0]).any
      (fun state => state.totalWaiters = 1 ∧ state.waitingCalls = 0) = true := by decide +kernel
  obtain ⟨state, ran, counts⟩ := (Option.any_eq_true _ _).mp ends
  obtain ⟨one, none⟩ := of_decide_eq_true counts
  have right := (exact config 0 state (by decide) (run_reaches ran)).totalWaiters
  omega

/-- A turn from its start to its end. -/
def turn : List CoordinatorEvent :=
  [.enter 0 saga 0, .grant 0, .settle 0, .issue 0, .dropInner 0, .beginRelease 0 5,
    .finishRelease 0]

theorem turn_leaves_idle_entry :
    ∃ state, run config (Tended config) {} turn = some state ∧
      state.stories[saga]? = some ⟨0, 0, some 5⟩ ∧ state.NoLeak config := by
  have ends : (run config (Tended config) {} turn).any (fun state =>
      state.stories[saga]? = some ⟨0, 0, some 5⟩) = true := by decide +kernel
  obtain ⟨state, ran, idle⟩ := (Option.any_eq_true _ _).mp ends
  exact ⟨state, ran, of_decide_eq_true idle,
    bookkeeping_exact (by decide) (run_reaches ran)⟩

end Bookkeeping.Sample

end StoryTurnCoordinator

end Aise.Domain
