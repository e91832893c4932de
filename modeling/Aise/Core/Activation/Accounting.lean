import Mathlib.Data.List.Nodup
import Aise.Core.Activation.Steps

/-! What a run accounts for: every entry is activated at most once and never both
activated and rejected, the limits hold at every step, and the outcome counts every
rejected entry once. -/
namespace Aise

/-- All rejections of an outcome together. -/
def ActivationOutcome.rejected (outcome : ActivationOutcome K) : Nat :=
  let count (reason : ActivationRejection) : Nat := ((outcome.rejections reason).getD 0).toNat
  count .recursionExcluded + count .recursionLocked + count .secondaryCondition +
    count .groupLoser + count .probability + count .budget

namespace Activation
open Transition
variable {ι K : Type}

/-- The bytes of some entries' contents, without saturation. -/
def Input.contentBytes (input : Input ι K) : List ι → Nat
  | [] => 0
  | index :: rest => RustText.len (input.content index).value + input.contentBytes rest

theorem Input.contentBytes_append (input : Input ι K) (left right : List ι) :
    input.contentBytes (left ++ right) = input.contentBytes left + input.contentBytes right := by
  induction left with
  | nil => simp [contentBytes]
  | cons index rest ih =>
    simp only [List.cons_append, contentBytes, ih]
    omega

namespace Session
variable [DecidableEq ι] {input : Input ι K} {session next : Session ι K}

structure Accounted (input : Input ι K) (session : Session ι K) : Prop where
  distinct : session.activatedIndices.Nodup
  keys : session.activated.map (·.key) = session.activatedIndices.map input.key
  disjoint : ∀ index ∈ session.activatedIndices, session.terminal index = none
  entries : session.activated.length ≤ input.config.maxActivatedEntries.toNat
  bytes : session.knowledgeBytes =
    min (input.contentBytes session.activatedIndices) (UInt64.size - 1)
  fits : session.knowledgeBytes ≤ input.config.maxKnowledgeBytes.toNat

omit [DecidableEq ι] in
theorem Accounted.keep (accounted : Accounted input session)
    (indices : next.activatedIndices = session.activatedIndices)
    (activated : next.activated = session.activated)
    (terminal : ∀ index ∈ session.activatedIndices, next.terminal index = session.terminal index)
    (bytes : next.knowledgeBytes = session.knowledgeBytes) : Accounted input next where
  distinct := indices ▸ accounted.distinct
  keys := by rw [activated, indices, accounted.keys]
  disjoint index member := by
    rw [indices] at member
    rw [terminal index member, accounted.disjoint index member]
  entries := activated ▸ accounted.entries
  bytes := by rw [bytes, indices, accounted.bytes]
  fits := bytes ▸ accounted.fits

theorem Accounted.activate (accounted : Accounted input session)
    (opened : session.isOpen candidate.index = true)
    (room : session.hasRoom input candidate.index = true) :
    Accounted input (session.activate input candidate) := by
  obtain ⟨inactive, unrejected⟩ := isOpen_iff.mp opened
  simp only [hasRoom, Bool.and_eq_true, decide_eq_true_eq] at room
  refine ⟨?_, ?_, ?_, ?_, ?_, room.2⟩
  · simp only [Session.activate, ← List.concat_eq_append]
    exact accounted.distinct.concat inactive
  · simp [Session.activate, accounted.keys, entryOf]
  · intro index member
    rcases List.mem_append.mp member with old | new
    · exact accounted.disjoint index old
    · cases List.mem_singleton.mp new
      exact unrejected
  · simp only [Session.activate, List.length_append, List.length_singleton]
    exact room.1
  · simp only [Session.activate, Input.contentBytes_append, Input.contentBytes, saturatingAdd,
      accounted.bytes]
    omega

/-- No step double counts. -/
theorem Accounted.step (accounted : Accounted input session) (step : Step input session next) :
    Accounted input next := by
  cases step with
  | defer | release | trim | exhaust | win | recurse =>
    exact accounted.keep rfl rfl (fun _ _ => rfl) rfl
  | reject opened reason =>
    refine accounted.keep rfl rfl ?_ rfl
    intro index member
    apply Function.update_of_ne
    rintro rfl
    exact (isOpen_iff.mp opened).1 member
  | activate opened room => exact accounted.activate opened room

/-- The reason an entry is rejected for in the end: a terminal one, or else the last
one it was deferred for. -/
def lastReason (session : Session ι K) (index : ι) : Option ActivationRejection :=
  if index ∈ session.activatedIndices then none
  else (session.terminal index).or (session.deferred index)

/-- `finish` counts every position once, under its last reason. -/
theorem count_reasons (accounted : Accounted input session) (reason : ActivationRejection) :
    (session.reasons input).count reason =
      input.indices.countP fun index => session.lastReason index = some reason := by
  rw [reasons, List.count_append, List.count_filterMap, List.count_filterMap, List.countP_filter]
  generalize input.indices = indices
  induction indices with
  | nil => rfl
  | cons index rest ih =>
    simp only [List.countP_cons, ← ih]
    have single :
        (if session.terminal index == some reason then 1 else 0) +
          (if (session.deferred index == some reason) && session.isOpen index then 1 else 0) =
        if decide (session.lastReason index = some reason) then 1 else 0 := by
      by_cases active : index ∈ session.activatedIndices
      · simp [lastReason, active, accounted.disjoint index active, isOpen]
      · cases rejected : session.terminal index with
        | none => simp [lastReason, active, rejected, isOpen]
        | some other => simp [lastReason, active, rejected, isOpen]
    omega

/-- Positions counted as rejected are none of the activated ones. -/
theorem length_reasons (accounted : Accounted input session) :
    session.activated.length + (session.reasons input).length ≤ input.indices.length := by
  have within : session.activatedIndices.Perm
      (input.indices.filter fun index => index ∈ session.activatedIndices) := by
    refine (List.perm_ext_iff_of_nodup accounted.distinct (input.distinct.filter _)).mpr ?_
    intro index
    simp [input.complete index]
  have active := within.length_eq
  rw [← session.aligned, active, reasons, List.length_append]
  generalize input.indices = indices
  induction indices with
  | nil => simp
  | cons index rest ih =>
    by_cases here : index ∈ session.activatedIndices
    · have free := accounted.disjoint index here
      simp [here, free, isOpen] at ih ⊢
      omega
    · cases rejected : session.terminal index with
      | none =>
        cases waits : session.deferred index <;> simp [here, rejected, waits, isOpen] at ih ⊢ <;> omega
      | some reason =>
        simp [here, rejected, isOpen] at ih ⊢
        omega

end Session

/-- Counting into a map: what a fresh tally holds of a reason that occurs. -/
theorem tally_apply (reasons : List ActivationRejection)
    (tally : ActivationRejection → Option UInt32) (reason : ActivationRejection) :
    ((reasons.foldl (fun tally reason =>
      Function.update tally reason (some ((tally reason).getD 0 + 1))) tally) reason).getD 0 =
      (tally reason).getD 0 + UInt32.ofNat (reasons.count reason) := by
  induction reasons generalizing tally with
  | nil => simp
  | cons first rest ih =>
    rw [List.foldl_cons, ih]
    by_cases same : first = reason
    · subst same
      rw [Function.update_self, Option.getD_some, List.count_cons_self, UInt32.ofNat_add,
        UInt32.add_assoc, UInt32.add_comm 1]
      rfl
    · rw [Function.update_of_ne (Ne.symm same), List.count_cons_of_ne same]

theorem sum_counts (reasons : List ActivationRejection) :
    reasons.count .recursionExcluded + reasons.count .recursionLocked +
      reasons.count .secondaryCondition + reasons.count .groupLoser +
      reasons.count .probability + reasons.count .budget = reasons.length := by
  induction reasons with
  | nil => rfl
  | cons reason rest ih =>
    cases reason <;> simp <;> omega

namespace Session
variable [DecidableEq ι] {input : Input ι K} {session : Session ι K}

theorem finish_count (reason : ActivationRejection) :
    ((session.finish input).rejections reason).getD 0 =
      UInt32.ofNat ((session.reasons input).count reason) := by
  rw [finish, tally_apply]
  simp

/-- The counts of an outcome cover no more than the positions that were not activated;
a count wraps at `u32`, which only makes it smaller. -/
theorem finish_rejected : (session.finish input).rejected ≤ (session.reasons input).length := by
  have wrapped (reason : ActivationRejection) :
      (((session.finish input).rejections reason).getD 0).toNat ≤
        (session.reasons input).count reason := by
    rw [finish_count, UInt32.toNat_ofNat']
    exact Nat.mod_le _ _
  have total := sum_counts (session.reasons input)
  have excluded := wrapped .recursionExcluded
  have locked := wrapped .recursionLocked
  have secondary := wrapped .secondaryCondition
  have losers := wrapped .groupLoser
  have unlikely := wrapped .probability
  have budget := wrapped .budget
  simp only [ActivationOutcome.rejected]
  omega

end Session

section
variable [DecidableEq ι] [LinearOrder K] [ToString K] (input : Input ι K) (scan : ScanBuffer)

theorem Input.final_steps : Reaches (Session.Step input) (input.start scan) (input.final scan) :=
  Session.run_steps input (input.start scan)

theorem Input.final_accounted : Session.Accounted input (input.final scan) := by
  apply Transition.invariant (P := Session.Accounted input) Session.Accounted.step
    (input.final_steps scan)
  exact ⟨List.nodup_nil, rfl, by simp [start, Session.ingest], by simp [start, Session.ingest],
    by simp [start, Session.ingest, contentBytes], by simp [start, Session.ingest]⟩

end
end Activation

/-- A run ends in time, activates no position twice and none it has rejected, stays
within its limits, and counts every rejected position once under its last reason.
The byte limit of `usize::MAX` is no limit, and counts are `u32`. -/
theorem activate_accounting {K : Type} [LinearOrder K] [ToString K] (tables : CharTables)
    (sha256 : Sha256) (candidates : List (ActivationCandidate K)) (scan : ScanBuffer)
    (turn : ActivationTurn) (config : ActivationConfig) :
    let input := Activation.Input.ofCandidates tables sha256 candidates turn config
    let final := input.final scan
    let outcome := activate tables sha256 candidates scan turn config
    (∃ rounds, rounds ≤ config.maxRecursionSteps.toNat + 1 ∧
      Loop.Ends (Activation.Session.round input) (input.start scan) rounds final) ∧
    final.activatedIndices.Nodup ∧
    outcome.activated.map (·.key) =
      final.activatedIndices.map (fun index => (candidates.get index).key) ∧
    (∀ index ∈ final.activatedIndices, final.terminal index = none) ∧
    outcome.activated.length ≤ config.maxActivatedEntries.toNat ∧
    (config.maxKnowledgeBytes.toNat < UInt64.size - 1 →
      input.contentBytes final.activatedIndices ≤ config.maxKnowledgeBytes.toNat) ∧
    (∀ reason, (outcome.rejections reason).getD 0 =
      UInt32.ofNat (input.indices.countP fun index => final.lastReason index = some reason)) ∧
    outcome.activated.length + outcome.rejected ≤ candidates.length := by
  intro input final outcome
  have accounted : Activation.Session.Accounted input final := input.final_accounted scan
  refine ⟨(input.start scan).run_ends input, accounted.distinct, accounted.keys, accounted.disjoint,
    accounted.entries, ?_, ?_, ?_⟩
  · intro limited
    have bytes := accounted.bytes
    have fits := accounted.fits
    have config : input.config = config := rfl
    rw [config] at fits
    omega
  · intro reason
    rw [← Activation.Session.count_reasons accounted]
    exact Activation.Session.finish_count reason
  · have counted := Activation.Session.length_reasons accounted
    have rejected : outcome.rejected ≤ (final.reasons input).length :=
      Activation.Session.finish_rejected
    have positions : input.indices.length = candidates.length := List.length_finRange
    have activated : outcome.activated = final.activated := rfl
    rw [activated]
    omega

namespace Activation
section
variable {ι K : Type} [DecidableEq ι] [ToString K] {input : Input ι K} {session : Session ι K}
  {candidates : List (Candidate ι)}

/-- Without a byte limit certain entries are all admitted while there is room for them. -/
theorem Session.admitEach_unlimited (fragments : List ScanFragment)
    (unlimited : input.config.maxKnowledgeBytes.toNat = UInt64.size - 1)
    (certain : ∀ index, (input.rule index).selection.probability = .always)
    (room : session.activated.length + candidates.length ≤ input.config.maxActivatedEntries.toNat) :
    (candidates.foldl (admitCandidate input) (session, fragments)).1.activatedIndices =
      session.activatedIndices ++ candidates.map (·.index) := by
  induction candidates generalizing session fragments with
  | nil => simp
  | cons candidate rest ih =>
    simp only [List.length_cons] at room
    have likely : input.probabilityAdmits candidate.index
        (input.rule candidate.index).selection.probability = true := by
      rw [certain, Input.probabilityAdmits]
      rfl
    have fits : session.hasRoom input candidate.index = true := by
      simp only [hasRoom, Bool.and_eq_true, decide_eq_true_eq, saturatingAdd, unlimited]
      omega
    have admitted : admitCandidate input (session, fragments) candidate =
        (session.activate input candidate,
          fragments ++ session.fragmentOf input candidate.index) := by
      simp [admitCandidate, likely, fits]
    rw [List.foldl_cons, admitted, ih]
    · simp [Session.activate]
    · simp only [Session.activate, List.length_append, List.length_singleton]
      omega
variable [LinearOrder K]

/-- What a round activates is what it admits. -/
theorem Session.round_activatedIndices (collected : session.collect input = (before, candidates))
    (proposed : candidates.isEmpty = false)
    (resolved : before.resolveGroups input candidates = (after, eligible)) :
    (session.round input).state.activatedIndices =
      (after.admitCandidates input eligible).1.activatedIndices := by
  simp only [round, proceed, collected, proposed, resolved, Bool.false_eq_true, if_false]
  split
  · rfl
  · split <;> rfl

/-- Where no round may follow, a run is one round. -/
theorem Session.run_of_spent (spent : session.remaining input = 0) :
    session.run input = (session.round input).state := by
  obtain ⟨rounds, _, ends⟩ := run_ends input session
  cases ends with
  | leave left => rw [left, Loop.Flow.state]
  | again round =>
    have descends := round_descends input round
    omega

end

namespace Sample

/-- A content of so many bytes. -/
def repeated (bytes : Nat) : BoundedText := ⟨String.ofList (List.replicate bytes 'a')⟩

def constantRule : ActivationRule := { mode := { constant := true } }

def copies (bytes : Nat) : List (ActivationCandidate Nat) :=
  [⟨0, constantRule, repeated bytes⟩, ⟨1, constantRule, repeated bytes⟩,
    ⟨2, constantRule, repeated bytes⟩]

def unlimited : ActivationConfig := {
  maxRecursionSteps := 0
  maxKnowledgeBytes := 18446744073709551615 }

def copiesInput (bytes : Nat) : Input (Fin 3) Nat :=
  .ofCandidates ascii zeros (copies bytes) turn unlimited

def copiesCandidates : List (Candidate (Fin 3)) :=
  [⟨0, .constant, 0⟩, ⟨1, .constant, 0⟩, ⟨2, .constant, 0⟩]

theorem copies_activated (bytes : Nat) :
    ((copiesInput bytes).final (.new [])).activatedIndices = [0, 1, 2] := by
  have certain : ∀ index : Fin 3,
      ((copiesInput bytes).rule index).selection.probability = .always
    | 0 => rfl
    | 1 => rfl
    | 2 => rfl
  have collected : ((copiesInput bytes).start (.new [])).collect (copiesInput bytes) =
      ((copiesInput bytes).start (.new []), copiesCandidates) := rfl
  have sorted : Sorting.sort
      (((copiesInput bytes).start (.new [])).admissionRank (copiesInput bytes))
      copiesCandidates = copiesCandidates := rfl
  have room : ((copiesInput bytes).start (.new [])).activated.length + copiesCandidates.length ≤
      (copiesInput bytes).config.maxActivatedEntries.toNat := Nat.le_of_ble_eq_true rfl
  rw [Input.final, Session.run_of_spent rfl,
    Session.round_activatedIndices collected rfl rfl, Session.admitCandidates, sorted,
    Session.admitEach_unlimited [] rfl certain room]
  rfl

theorem len_repeated (bytes : Nat) : RustText.len (repeated bytes).value = bytes := by
  simp only [RustText.len, repeated]
  induction bytes with
  | zero => rfl
  | succ bytes ih =>
    have one : (String.ofList ['a']).utf8ByteSize = 1 := by decide
    rw [List.replicate_succ, ← List.singleton_append, String.ofList_append,
      String.utf8ByteSize_append, ih, one, Nat.add_comm]

theorem copies_contentBytes (bytes : Nat) :
    (copiesInput bytes).contentBytes [0, 1, 2] = 3 * bytes := by
  have each : ∀ index : Fin 3, (copiesInput bytes).content index = repeated bytes
    | 0 => rfl
    | 1 => rfl
    | 2 => rfl
  simp only [Input.contentBytes, each, len_repeated]
  omega

/-- Three candidates that share the longest text there can be: with `usize::MAX` for a
limit the saturating sum never stops them. -/
theorem shared_content_exceeds_usize :
    unlimited.maxKnowledgeBytes.toNat <
      (copiesInput 9223372036854775807).contentBytes
        ((copiesInput 9223372036854775807).final (.new [])).activatedIndices := by
  rw [copies_activated, copies_contentBytes]
  decide

theorem short_copies_within_limit :
    (4096 : Nat) < UInt64.size - 1 ∧
      (Input.ofCandidates ascii zeros (copies 5) turn { maxKnowledgeBytes := 4096 }).contentBytes
        ((Input.ofCandidates ascii zeros (copies 5) turn { maxKnowledgeBytes := 4096 }).final
          (.new [])).activatedIndices ≤ 4096 :=
  ⟨by decide, (activate_accounting ascii zeros (copies 5) (.new []) turn
    { maxKnowledgeBytes := 4096 }).2.2.2.2.2.1 (by decide)⟩

end Sample
end Activation
end Aise
