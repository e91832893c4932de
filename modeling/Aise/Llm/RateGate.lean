import Mathlib.Algebra.BigOperators.Group.List.Basic
import Mathlib.Algebra.Order.BigOperators.Group.List
import Mathlib.Algebra.Order.Group.Nat
import Mathlib.Algebra.GroupWithZero.Nat
import Mathlib.Data.List.DropRight
import Mathlib.Data.List.Induction
import Aise.Lib.Saturating

/-! The gate that limits how many tokens are granted in a minute. A call of `acquire` tries, waits
and tries again; each try is one locked section, and the tries of all calls come in any order. -/
namespace Aise.Domain
open Saturating

/-- Sixty seconds, in nanoseconds. -/
def rateWindow : Nat := 60 * 10 ^ 9

/-- An amount of tokens and the clock reading it was asked for or granted at. -/
structure TokenRequest where
  now : Nat
  tokens : UInt64
  deriving DecidableEq

structure RateGate where
  limit : UInt32
  positive : limit ≠ 0
  window : List TokenRequest := []
  deriving DecidableEq

namespace RateGate

/-- The loop that pops what is a minute old from the front. -/
def trim (now : Nat) (window : List TokenRequest) : List TokenRequest :=
  window.dropWhile fun granted => rateWindow ≤ now - granted.now

def tokensOf (window : List TokenRequest) : Nat := (window.map fun granted => granted.tokens.toNat).sum

/-- One try of `acquire`, with how long to wait for the next one. Nothing to wait for is `Ok`. -/
def attempt (gate : RateGate) (request : TokenRequest) : RateGate × Option Nat :=
  let window := trim request.now gate.window
  if min (tokensOf window + request.tokens.toNat) (UInt64.size - 1) ≤ gate.limit.toNat then
    ({ gate with window := window ++ [request] }, none)
  else ({ gate with window := window },
    window.head?.map fun front => front.now + rateWindow - request.now)

end RateGate

/-- A gate with what it has granted so far. -/
structure RateHistory where
  gate : RateGate
  granted : List TokenRequest := []
  deriving DecidableEq

namespace RateHistory

def next (history : RateHistory) (request : TokenRequest) : RateHistory :=
  let tried := history.gate.attempt request
  { gate := tried.1
    granted := if tried.2 = none then history.granted ++ [request] else history.granted }

/-- The tries of all calls, one after the other. -/
def replay (gate : RateGate) (requests : List TokenRequest) : RateHistory :=
  requests.foldl next { gate := gate }

theorem replay_concat (gate : RateGate) (requests : List TokenRequest) (request : TokenRequest) :
    replay gate (requests ++ [request]) = (replay gate requests).next request :=
  List.foldl_concat _ _ _ _

end RateHistory

open RateGate RateHistory

/-- What was granted in the minute that starts at a time. -/
def spent (start : Nat) (granted : List TokenRequest) : Nat :=
  tokensOf (granted.filter fun request =>
    start ≤ request.now && request.now < start + rateWindow)

/-- What was granted in the minute before a time. -/
def recent (now : Nat) (granted : List TokenRequest) : Nat :=
  tokensOf (granted.filter fun request => now < request.now + rateWindow)

/-- No minute sees more than the limit, and a try that finds room is granted at once. -/
structure RateKept (gate : RateGate) (requests : List TokenRequest) : Prop where
  within : ∀ start, spent start (replay gate requests).granted ≤ gate.limit.toNat
  prompt : ∀ before request after, requests = before ++ request :: after →
    recent request.now (replay gate before).granted + request.tokens.toNat ≤ gate.limit.toNat →
      ((replay gate before).gate.attempt request).2 = none

/-- No try asks for more than the limit while nothing of the last minute is in the window. -/
def Fits (gate : RateGate) (requests : List TokenRequest) : Prop :=
  ∀ before request after, requests = before ++ request :: after →
    gate.limit.toNat < request.tokens.toNat →
      trim request.now (replay gate before).gate.window ≠ []

/-! ### One try -/

section
variable {gate : RateGate} {request : TokenRequest} {history : RateHistory}

theorem tokensOf_append (first second : List TokenRequest) :
    tokensOf (first ++ second) = tokensOf first + tokensOf second := by
  rw [tokensOf, List.map_append, List.sum_append, tokensOf, tokensOf]

theorem tokensOf_filter_le (keep : TokenRequest → Bool) (window : List TokenRequest) :
    tokensOf (window.filter keep) ≤ tokensOf window := by
  induction window with
  | nil => exact Nat.le_refl _
  | cons granted window ih =>
    rw [List.filter_cons]
    split
    · exact Nat.add_le_add_left ih _
    · exact le_trans ih (Nat.le_add_left _ _)

theorem spent_append (start : Nat) (first second : List TokenRequest) :
    spent start (first ++ second) = spent start first + spent start second := by
  rw [spent, List.filter_append, tokensOf_append, spent, spent]

theorem attempt_limit : (gate.attempt request).1.limit = gate.limit := by
  unfold attempt
  dsimp only
  split <;> rfl

/-- The ends of a try: granted and kept, granted and not kept, or told to wait. -/
theorem attempt_cases (gate : RateGate) (request : TokenRequest) :
    (tokensOf (trim request.now gate.window) + request.tokens.toNat ≤ gate.limit.toNat ∧
      (gate.attempt request).1.window = trim request.now gate.window ++ [request] ∧
      (gate.attempt request).2 = none) ∨
    (gate.limit.toNat < tokensOf (trim request.now gate.window) + request.tokens.toNat ∧
      (gate.attempt request).1.window = trim request.now gate.window ∧
      ((gate.attempt request).2 = none ↔ trim request.now gate.window = [])) := by
  have below : gate.limit.toNat < UInt64.size - 1 :=
    lt_of_lt_of_le gate.limit.toNat_lt (by decide)
  unfold attempt
  dsimp only
  split
  · rename_i room
    exact .inl ⟨by omega, rfl, rfl⟩
  · rename_i full
    refine .inr ⟨by omega, rfl, ?_⟩
    rw [Option.map_eq_none_iff, List.head?_eq_none_iff]

theorem replay_limit (gate : RateGate) (requests : List TokenRequest) :
    (replay gate requests).gate.limit = gate.limit := by
  induction requests using List.reverseRecOn with
  | nil => rfl
  | append_singleton requests request ih =>
    rw [replay_concat]
    exact attempt_limit.trans ih

/-! ### What the window holds -/

theorem tokensOf_sublist {first second : List TokenRequest} (sub : first.Sublist second) :
    tokensOf first ≤ tokensOf second := by
  induction sub with
  | slnil => exact Nat.le_refl _
  | cons granted _ ih => exact le_trans ih (Nat.le_add_left _ _)
  | cons_cons granted _ ih => exact Nat.add_le_add_left ih _

/-- What is in the window was granted, and what was granted was asked for. -/
theorem replay_logged (gate : RateGate) (empty : gate.window = []) (requests : List TokenRequest) :
    (replay gate requests).gate.window.Sublist (replay gate requests).granted ∧
      (replay gate requests).granted.Sublist requests := by
  induction requests using List.reverseRecOn with
  | nil =>
    rw [show (replay gate []).gate.window = [] from empty]
    exact ⟨List.nil_sublist _, List.nil_sublist _⟩
  | append_singleton requests request ih =>
    obtain ⟨kept, asked⟩ := ih
    have trimmed := (List.dropWhile_sublist (fun granted : TokenRequest =>
      rateWindow ≤ request.now - granted.now)).trans kept
    rw [replay_concat, next]
    dsimp only
    rcases attempt_cases (replay gate requests).gate request with
      ⟨_, window, granted⟩ | ⟨_, window, _⟩
    · rw [window, if_pos granted]
      exact ⟨trimmed.append (List.Sublist.refl _), asked.append (List.Sublist.refl _)⟩
    · rw [window]
      split
      · exact ⟨trimmed.trans (List.sublist_append_left _ _),
          asked.append (List.Sublist.refl _)⟩
      · exact ⟨trimmed, asked.trans (List.sublist_append_left _ _)⟩

/-- Behind the first grant that is not a minute old there is no older one. -/
theorem trim_recent {now : Nat} {window : List TokenRequest}
    (ordered : window.Pairwise fun first second => first.now ≤ second.now)
    {granted : TokenRequest} (member : granted ∈ trim now window) :
    now < granted.now + rateWindow := by
  induction window with
  | nil => cases member
  | cons front window ih =>
    obtain ⟨later, rest⟩ := List.pairwise_cons.mp ordered
    rw [trim, List.dropWhile_cons] at member
    split at member
    · exact ih rest member
    · rename_i young
      have fresh : ¬rateWindow ≤ now - front.now := by simpa using young
      rcases List.mem_cons.mp member with rfl | behind
      · omega
      · have order := later granted behind
        omega

/-- A try that finds room in the last minute is granted at once. -/
theorem attempt_prompt (empty : gate.window = []) {before : List TokenRequest}
    (ordered : before.Pairwise fun first second => first.now ≤ second.now)
    (room : recent request.now (replay gate before).granted + request.tokens.toNat ≤
      gate.limit.toNat) : ((replay gate before).gate.attempt request).2 = none := by
  obtain ⟨kept, asked⟩ := replay_logged gate empty before
  have used : tokensOf (trim request.now (replay gate before).gate.window) ≤
      recent request.now (replay gate before).granted := by
    have young : ∀ granted ∈ trim request.now (replay gate before).gate.window,
        decide (request.now < granted.now + rateWindow) = true := fun granted member =>
      decide_eq_true (trim_recent (ordered.sublist (kept.trans asked)) member)
    rw [← List.filter_eq_self.mpr young]
    exact tokensOf_sublist (((List.dropWhile_sublist _).trans kept).filter _)
  rcases attempt_cases (replay gate before).gate request with ⟨_, _, granted⟩ | ⟨full, _, _⟩
  · exact granted
  · rw [replay_limit] at full
    omega

/-! ### The limit -/

/-- What was granted stays granted. -/
theorem granted_prefix (gate : RateGate) (before after : List TokenRequest) :
    (replay gate before).granted <+: (replay gate (before ++ after)).granted := by
  induction after using List.reverseRecOn with
  | nil => simp
  | append_singleton after request ih =>
    rw [← List.append_assoc, replay_concat, next]
    dsimp only
    split
    · exact ih.trans (List.prefix_append _ _)
    · exact ih

theorem spent_single (request : TokenRequest) :
    spent request.now [request] = request.tokens.toNat := by
  have inside : (decide (request.now ≤ request.now) &&
      decide (request.now < request.now + rateWindow)) = true := by
    have positive : 0 < rateWindow := by decide
    simp [positive]
  rw [spent, List.filter_cons, if_pos inside]
  exact Nat.add_zero _

/-- More than the limit is granted to a try that finds an empty window, and a minute then sees
too much. -/
theorem RateKept.fits {requests : List TokenRequest} (kept : RateKept gate requests) :
    Fits gate requests := by
  intro before request after split beyond empty
  have granted : (replay gate (before ++ [request])).granted =
      (replay gate before).granted ++ [request] := by
    rw [replay_concat, next]
    dsimp only
    rw [if_pos]
    rcases attempt_cases (replay gate before).gate request with ⟨_, _, done⟩ | ⟨_, _, done⟩
    · exact done
    · exact done.mpr empty
  obtain ⟨rest, all⟩ := granted_prefix gate (before ++ [request]) after
  have within := kept.within request.now
  rw [split, List.append_cons, ← all, granted, spent_append, spent_append, spent_single] at within
  omega

/-- Every grant is in the window or a minute old, and no minute has seen too much. -/
structure Windowed (gate : RateGate) (clock : Nat) (history : RateHistory) : Prop where
  kept : ∃ dropped, history.granted = dropped ++ history.gate.window ∧
    ∀ granted ∈ dropped, granted.now + rateWindow ≤ clock
  within : ∀ start, spent start history.granted ≤ gate.limit.toNat

/-- In a minute that a time is in, only what the window still holds at that time was granted. -/
theorem spent_dropped {dropped : List TokenRequest} {now start : Nat}
    (old : ∀ granted ∈ dropped, granted.now + rateWindow ≤ now) (inside : now < start + rateWindow) :
    spent start dropped = 0 := by
  have none : dropped.filter (fun granted =>
      start ≤ granted.now && granted.now < start + rateWindow) = [] := by
    refine List.filter_eq_nil_iff.mpr fun granted member => ?_
    have expired := old granted member
    simp only [Bool.and_eq_true, decide_eq_true_eq]
    omega
  rw [spent, none]
  rfl

theorem Windowed.next {clock : Nat} (windowed : Windowed gate clock history)
    (same : history.gate.limit = gate.limit) (later : clock ≤ request.now)
    (fits : gate.limit.toNat < request.tokens.toNat → trim request.now history.gate.window ≠ []) :
    Windowed gate request.now (history.next request) := by
  obtain ⟨⟨dropped, all, old⟩, within⟩ := windowed
  have cut : history.gate.window = history.gate.window.takeWhile
      (fun granted => rateWindow ≤ request.now - granted.now) ++
        trim request.now history.gate.window := List.takeWhile_append_dropWhile.symm
  have expired : ∀ granted ∈ dropped ++ history.gate.window.takeWhile
      (fun granted => rateWindow ≤ request.now - granted.now),
      granted.now + rateWindow ≤ request.now := by
    intro granted member
    rcases List.mem_append.mp member with before | now
    · exact le_trans (old granted before) later
    · have minute : rateWindow ≤ request.now - granted.now := by
        simpa using List.mem_takeWhile_imp now
      have positive : 0 < rateWindow := by decide
      omega
  have left : history.granted = (dropped ++ history.gate.window.takeWhile
      (fun granted => rateWindow ≤ request.now - granted.now)) ++
        trim request.now history.gate.window := by
    rw [List.append_assoc, ← cut, all]
  rw [RateHistory.next]
  rcases attempt_cases history.gate request with ⟨room, window, done⟩ | ⟨full, window, done⟩
  · refine ⟨⟨_, ?_, expired⟩, fun start => ?_⟩
    · dsimp only
      rw [if_pos done, window, left, List.append_assoc]
    · dsimp only
      rw [if_pos done, spent_append]
      by_cases inside : start ≤ request.now ∧ request.now < start + rateWindow
      · rw [left, spent_append, spent_dropped expired inside.2, Nat.zero_add]
        have used : spent start (trim request.now history.gate.window) ≤
          tokensOf (trim request.now history.gate.window) := tokensOf_filter_le _ _
        have one : spent start [request] ≤ request.tokens.toNat := tokensOf_filter_le _ [request]
        rw [same] at room
        omega
      · have nothing : spent start [request] = 0 := by
          rw [spent, List.filter_cons, if_neg (by simpa using inside)]
          rfl
        rw [nothing, Nat.add_zero]
        exact within start
  · have waits : ¬(history.gate.attempt request).2 = none := by
      rw [done]
      intro empty
      refine fits ?_ empty
      rw [empty, same] at full
      exact lt_of_lt_of_eq full (Nat.zero_add _)
    refine ⟨⟨_, ?_, expired⟩, fun start => ?_⟩
    · dsimp only
      rw [if_neg waits, window]
      exact left
    · dsimp only
      rw [if_neg waits]
      exact within start

theorem Windowed.later {clock after : Nat} (windowed : Windowed gate clock history)
    (later : clock ≤ after) : Windowed gate after history := by
  obtain ⟨⟨dropped, all, old⟩, within⟩ := windowed
  exact ⟨⟨dropped, all, fun granted member => le_trans (old granted member) later⟩, within⟩

/-- Tries that fit leave a window that holds all that counts. -/
theorem Fits.windowed (empty : gate.window = []) {requests : List TokenRequest}
    (ordered : requests.Pairwise fun first second => first.now ≤ second.now)
    (fits : Fits gate requests) (clock : Nat) (past : ∀ request ∈ requests, request.now ≤ clock) :
    Windowed gate clock (replay gate requests) := by
  induction requests using List.reverseRecOn generalizing clock with
  | nil => exact ⟨⟨[], by rw [show (replay gate []).gate.window = [] from empty]; rfl, by simp⟩,
      fun _ => Nat.zero_le _⟩
  | append_singleton requests request ih =>
    obtain ⟨before, _, order⟩ := List.pairwise_append.mp ordered
    have earlier : Fits gate requests := by
      intro first one rest split
      exact fits first one (rest ++ [request]) (by rw [split]; simp)
    have windowed := ih before earlier request.now fun one member =>
      order one member request List.mem_cons_self
    rw [replay_concat]
    refine (windowed.next (replay_limit gate requests) (Nat.le_refl _) ?_).later
      (past request (by simp))
    exact fits requests request [] rfl

/-- The limit is kept and room is granted at once exactly when no try asks for more than the
limit while nothing of the last minute is in the window. -/
theorem rate_kept_iff {requests : List TokenRequest} (empty : gate.window = [])
    (ordered : requests.Pairwise fun first second => first.now ≤ second.now) :
    RateKept gate requests ↔ Fits gate requests := by
  constructor
  · exact RateKept.fits
  · intro fits
    constructor
    · obtain ⟨clock, past⟩ : ∃ clock, ∀ request ∈ requests, request.now ≤ clock :=
        ⟨(requests.map (·.now)).sum, fun request member =>
          List.single_le_sum (by simp) _ (List.mem_map_of_mem member)⟩
      exact (fits.windowed empty ordered clock past).within
    · intro before request after split room
      rw [split] at ordered
      exact attempt_prompt empty (List.pairwise_append.mp ordered).1 room

end

namespace RateGate.Sample

def gate : RateGate := { limit := 10, positive := by decide }

/-- One try for more than the limit is granted, and leaves no trace in the window. -/
theorem large_request_breaks_limit :
    ¬∀ (gate : RateGate) (requests : List TokenRequest), gate.window = [] →
      requests.Pairwise (fun first second => first.now ≤ second.now) → RateKept gate requests := by
  intro kept
  have within := (kept gate [⟨0, 11⟩] rfl (List.pairwise_singleton _ _)).within 0
  exact absurd within (by decide +kernel)

/-- A full window makes the next try wait for a minute. -/
theorem full_window_kept :
    RateKept gate [⟨0, 10⟩, ⟨5, 11⟩, ⟨rateWindow, 10⟩] ∧
      (replay gate [⟨0, 10⟩, ⟨5, 11⟩, ⟨rateWindow, 10⟩]).granted = [⟨0, 10⟩, ⟨rateWindow, 10⟩] := by
  refine ⟨(rate_kept_iff rfl (by decide)).mpr ?_, by decide +kernel⟩
  intro before request after split beyond
  match before, split with
  | [], split =>
    cases split
    exact absurd beyond (by decide)
  | [one], split =>
    cases split
    decide +kernel
  | [one, two], split =>
    cases split
    exact absurd beyond (by decide)
  | one :: two :: three :: rest, split => simp at split

end RateGate.Sample

end Aise.Domain
