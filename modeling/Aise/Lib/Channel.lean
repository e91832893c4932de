import Mathlib.Data.List.Basic

/-! Bounded queues with one receiver. A sender that does not wait is turned away when the queue is
full; the receiver sees the items in the order in which they were sent, and learns that the senders
are gone once nothing is left. -/

structure Channel (α : Type) where
  capacity : Nat
  queue : List α := []
  /-- A sender is left. -/
  connected : Bool := true
  fits : queue.length ≤ capacity := by exact Nat.zero_le _

namespace Channel
variable {α : Type}

/-- What a receiver that does not wait finds. -/
inductive Received (α : Type) where
  | item (value : α)
  | empty
  | disconnected

def tryRecv (channel : Channel α) : Received α :=
  match channel.queue with
  | value :: _ => .item value
  | [] => if channel.connected then .empty else .disconnected

/-- The channel without its first item. -/
def rest (channel : Channel α) : Channel α :=
  { channel with
    queue := channel.queue.tail
    fits := by
      rw [List.length_tail]
      exact Nat.le_trans (Nat.sub_le _ 1) channel.fits }

/-- The channel with one item more, if there is room for it. -/
def trySend (channel : Channel α) (value : α) : Option (Channel α) :=
  if room : channel.queue.length < channel.capacity then
    some { channel with
      queue := channel.queue ++ [value]
      fits := by
        rw [List.length_append, List.length_singleton]
        exact room }
  else none

/-- The last sender is dropped. -/
def disconnect (channel : Channel α) : Channel α := { channel with connected := false }

section
variable {channel next : Channel α} {value : α}

theorem trySend_eq_some (sent : channel.trySend value = some next) :
    next.queue = channel.queue ++ [value] ∧ next.connected = channel.connected ∧
      next.capacity = channel.capacity := by
  unfold trySend at sent
  split at sent
  · cases sent
    exact ⟨rfl, rfl, rfl⟩
  · cases sent

theorem trySend_eq_none :
    channel.trySend value = none ↔ channel.capacity ≤ channel.queue.length := by
  unfold trySend
  split
  · rename_i room
    exact iff_of_false nofun (Nat.not_le.mpr room)
  · rename_i full
    exact iff_of_true rfl (Nat.not_lt.mp full)

theorem tryRecv_eq_item :
    channel.tryRecv = .item value ↔ channel.queue = value :: channel.rest.queue := by
  obtain ⟨capacity, queue, connected, fits⟩ := channel
  cases queue with
  | nil => cases connected <;> simp [tryRecv]
  | cons first others => simp [tryRecv, rest]

theorem tryRecv_of_ne_nil (waiting : channel.queue ≠ []) :
    ∃ value ∈ channel.queue, channel.tryRecv = .item value := by
  obtain ⟨value, others, first⟩ := List.exists_cons_of_ne_nil waiting
  exact ⟨value, first ▸ List.mem_cons_self, by rw [tryRecv, first]⟩

theorem tryRecv_eq_disconnected :
    channel.tryRecv = .disconnected ↔ channel.queue = [] ∧ channel.connected = false := by
  obtain ⟨capacity, queue, connected, fits⟩ := channel
  cases queue with
  | nil => cases connected <;> simp [tryRecv]
  | cons first others => simp [tryRecv]

/-- What was received, and what is still queued, is what was sent. -/
def Carries (channel : Channel α) (sent received : List α) : Prop := received ++ channel.queue = sent

theorem Carries.send {sent received : List α} (carries : channel.Carries sent received)
    (grown : channel.trySend value = some next) : next.Carries (sent ++ [value]) received := by
  rw [Carries, (trySend_eq_some grown).1, ← List.append_assoc, carries]

theorem Carries.receive {sent received : List α} (carries : channel.Carries sent received)
    (found : channel.tryRecv = .item value) : channel.rest.Carries sent (received ++ [value]) := by
  rw [Carries, List.append_assoc, List.singleton_append, ← tryRecv_eq_item.mp found]
  exact carries

end

end Channel
