import Aise.Core.Activation.Accounting

/-! Inclusion groups over a whole run. Whoever is activated holds every group it is in,
so no two activated entries share one. A group can still be left without a live member:
`resolve_groups` keeps the record of a winner that loses another group later on. -/
namespace Aise.Activation
open Transition

/-! ### Choosing a winner -/

section
variable {ι : Type}

def weightSum (weight : ι → UInt64) : List ι → Nat
  | [] => 0
  | index :: rest => (weight index).toNat + weightSum weight rest

/-- A sample below the sum of the weights falls to one of them. -/
theorem draw_isSome {weight : ι → UInt64} {sample : UInt64}
    (below : sample.toNat < weightSum weight indices) : (draw weight sample indices).isSome := by
  induction indices generalizing sample with
  | nil => simp [weightSum] at below
  | cons index rest ih =>
    simp only [draw]
    split
    · rfl
    · rename_i above
      have bound : weight index ≤ sample := UInt64.not_lt.mp above
      apply ih
      rw [UInt64.toNat_sub_of_le _ _ bound]
      simp only [weightSum] at below
      have le : (weight index).toNat ≤ sample.toNat := bound
      omega

theorem draw_mem {weight : ι → UInt64} {sample : UInt64}
    (drawn : draw weight sample indices = some index) : index ∈ indices := by
  induction indices generalizing sample with
  | nil => cases drawn
  | cons first rest ih =>
    simp only [draw] at drawn
    split at drawn
    · cases drawn
      exact List.mem_cons_self
    · exact List.mem_cons_of_mem _ (ih drawn)

/-- The total wraps at `u64`, which only makes it smaller. -/
theorem total_le_weightSum (weight : ι → UInt64) (indices : List ι) (start : UInt64) :
    (indices.foldl (fun total index => total + weight index) start).toNat ≤
      start.toNat + weightSum weight indices := by
  induction indices generalizing start with
  | nil => simp [weightSum]
  | cons index rest ih =>
    have wrapped : (start + weight index).toNat ≤ start.toNat + (weight index).toNat := by
      rw [UInt64.toNat_add]
      exact Nat.mod_le _ _
    have later := ih (start + weight index)
    simp only [List.foldl_cons, weightSum]
    omega

end

variable {ι K : Type} [LinearOrder K] [ToString K]

namespace Input
variable {input : Input ι K} {members : List (Candidate ι)}

omit [ToString K] in
theorem mem_tied : index ∈ input.tied members best ↔
    ∃ member ∈ members, input.groupRank member = best ∧ member.index = index := by
  simp [tied, and_assoc]

omit [ToString K] in
/-- Some member has the best rank. -/
theorem best_attained (best : (members.map input.groupRank).max? = some rank) :
    input.tied members rank ≠ [] := by
  obtain ⟨member, inside, attains⟩ := List.mem_map.mp (List.max?_mem best)
  exact List.ne_nil_of_mem (mem_tied.mpr ⟨member, inside, attains, rfl⟩)

/-- Every group with a member has a winner, whatever the weights. -/
theorem groupWinner_isSome (input : Input ι K) (group : ActivationGroupKey)
    (nonempty : members ≠ []) :
    (input.groupWinner group members).isSome := by
  unfold groupWinner
  split
  · rename_i none_
    simp [nonempty] at none_
  · rename_i best found
    have tied := best_attained found
    dsimp only
    split
    · cases listed : input.tied members best with
      | nil => exact absurd listed tied
      | cons => rfl
    · rename_i positive
      apply draw_isSome
      rw [UInt64.toNat_mod]
      have total := total_le_weightSum input.weight (input.tied members best) 0
      refine Nat.lt_of_lt_of_le (Nat.mod_lt _ ?_) (Nat.le_trans total (by simp))
      exact Nat.pos_of_ne_zero fun zero => positive (UInt64.toNat_inj.mp zero)

theorem groupWinner_mem (won : input.groupWinner group members = some index) :
    ∃ member ∈ members, member.index = index := by
  unfold groupWinner at won
  split at won
  · cases won
  · rename_i best _
    dsimp only at won
    have tied : index ∈ input.tied members best := by
      split at won
      · exact List.mem_of_mem_head? won
      · exact draw_mem won
    obtain ⟨member, inside, _, same⟩ := mem_tied.mp tied
    exact ⟨member, inside, same⟩

end Input

/-! ### Exclusive groups -/

namespace Session
variable [DecidableEq ι] {input : Input ι K} {session next : Session ι K}

/-- Every activated entry is on record as the winner of each of its groups. -/
def Exclusive (input : Input ι K) (session : Session ι K) : Prop :=
  ∀ index ∈ session.activatedIndices, ∀ group ∈ input.groups index,
    session.groupWinners group = some index

omit [LinearOrder K] [ToString K] in
theorem Exclusive.step (exclusive : Exclusive input session) (step : Step input session next) :
    Exclusive input next := by
  cases step with
  | defer | release | reject | trim | exhaust | recurse => exact exclusive
  | win unwon winner =>
    intro index member group belongs
    have held := exclusive index member group belongs
    simp only [win]
    rw [Function.update_of_ne, held]
    rintro rfl
    cases unwon.symm.trans held
  | activate _ _ won =>
    intro index member group belongs
    rcases List.mem_append.mp member with old | new
    · exact exclusive index old group belongs
    · cases List.mem_singleton.mp new
      exact won group belongs

omit [LinearOrder K] [ToString K] [DecidableEq ι] in
/-- A group has one winner on record, so two entries that hold it are one. -/
theorem Exclusive.pairwise (exclusive : Exclusive input session)
    (distinct : session.activatedIndices.Nodup) :
    session.activatedIndices.Pairwise fun left right =>
      ∀ group ∈ input.groups left, group ∉ input.groups right := by
  refine List.Pairwise.imp_of_mem ?_ distinct
  intro left right leftActive rightActive different group inLeft inRight
  have leftHolds := exclusive left leftActive group inLeft
  have rightHolds := exclusive right rightActive group inRight
  exact different (Option.some.inj (leftHolds.symm.trans rightHolds))

end Session

theorem Input.final_exclusive [DecidableEq ι] (input : Input ι K) (scan : ScanBuffer) :
    Session.Exclusive input (input.final scan) := by
  apply Transition.invariant (P := Session.Exclusive input) Session.Exclusive.step
    (input.final_steps scan)
  intro index member
  simp [start, Session.ingest] at member

namespace Sample

def groupA : ActivationGroupKey := ⟨"a", by decide⟩
def groupB : ActivationGroupKey := ⟨"b", by decide⟩

/-- A constant entry that is not drawn by weight. -/
def member (key : Nat) (order : Int32) (groups : List ActivationGroupKey) :
    ActivationCandidate Nat where
  key := key
  rule := {
    mode := { constant := true }
    recursion := { preventRecursion := true }
    selection := { order := order, groups := groups, groupWeight := 0 } }
  content := ⟨"x"⟩

def rivals : List (ActivationCandidate Nat) := [member 0 1 [groupA], member 1 0 [groupA]]

def rivalsInput : Input (Fin 2) Nat := .ofCandidates ascii zeros rivals turn {}

def rivalCandidates : List (Candidate (Fin 2)) := [⟨0, .constant, 0⟩, ⟨1, .constant, 0⟩]

end Sample
end Aise.Activation

namespace Aise
open Activation

/-- No two activated entries of a run share a group, and a group with candidates always
gets a winner. The activated list follows the positions it was activated at. -/
theorem activated_groups_exclusive {K : Type} [LinearOrder K] [ToString K] (tables : CharTables)
    (sha256 : Sha256) (candidates : List (ActivationCandidate K)) (scan : ScanBuffer)
    (turn : ActivationTurn) (config : ActivationConfig) :
    let input := Input.ofCandidates tables sha256 candidates turn config
    let positions := (input.final scan).activatedIndices
    (activate tables sha256 candidates scan turn config).activated.map (·.key) =
      positions.map (fun index => (candidates.get index).key) ∧
    (positions.Pairwise fun left right =>
      ∀ group ∈ (candidates.get left).rule.selection.groups,
        group ∉ (candidates.get right).rule.selection.groups) ∧
    ∀ (group : ActivationGroupKey) (members : List (Candidate (Fin candidates.length))),
      members ≠ [] → (input.groupWinner group members).isSome := by
  intro input positions
  have accounted := input.final_accounted scan
  refine ⟨accounted.keys, ?_, ?_⟩
  · exact (input.final_exclusive scan).pairwise accounted.distinct
  · intro group members nonempty
    exact input.groupWinner_isSome group nonempty

theorem rivals_group_has_winner :
    Sample.rivalCandidates ≠ [] ∧
      (Sample.rivalsInput.groupWinner Sample.groupA Sample.rivalCandidates).isSome :=
  ⟨List.cons_ne_nil _ _, (activated_groups_exclusive Sample.ascii Sample.zeros Sample.rivals
    (.new []) Sample.turn {}).2.2 Sample.groupA Sample.rivalCandidates (List.cons_ne_nil _ _)⟩

end Aise

namespace Aise.Activation
variable {ι K : Type} [DecidableEq ι]

/-! ### Winners that lose -/

namespace Session
variable {input : Input ι K} {session next : Session ι K} {candidates : List (Candidate ι)}

/-- Whoever was rejected as a group loser is in a group whose recorded winner was not. -/
def LosersHaveLiveWinner (input : Input ι K) (session : Session ι K) : Prop :=
  ∀ index, session.terminal index = some .groupLoser →
    ∃ group ∈ input.groups index, ∃ winner, session.groupWinners group = some winner ∧
      group ∈ input.groups winner ∧ session.terminal winner ≠ some .groupLoser

/-- What has to be carried along: losers are in decided groups, and no recorded winner
has lost. -/
structure Decided (input : Input ι K) (session : Session ι K) : Prop where
  losers : ∀ index, session.terminal index = some .groupLoser →
    ∃ group ∈ input.groups index, (session.groupWinners group).isSome
  winners : ∀ group winner, session.groupWinners group = some winner →
    group ∈ input.groups winner ∧ session.terminal winner ≠ some .groupLoser

omit [DecidableEq ι] in
theorem Decided.live (decided : Decided input session) : session.LosersHaveLiveWinner input := by
  intro index loser
  obtain ⟨group, belongs, won⟩ := decided.losers index loser
  obtain ⟨winner, recorded⟩ := Option.isSome_iff_exists.mp won
  exact ⟨group, belongs, winner, recorded, decided.winners group winner recorded⟩

omit [DecidableEq ι] in
theorem Decided.keep (decided : Decided input session)
    (winners : next.groupWinners = session.groupWinners)
    (losers : ∀ index, next.terminal index = some .groupLoser ↔
      session.terminal index = some .groupLoser) : Decided input next where
  losers index loser := winners ▸ decided.losers index ((losers index).mp loser)
  winners group winner recorded := by
    obtain ⟨belongs, live⟩ := decided.winners group winner (winners ▸ recorded)
    exact ⟨belongs, fun lost => live ((losers winner).mp lost)⟩

theorem Decided.reject (decided : Decided input session) (opened : session.isOpen index = true)
    (other : reason ≠ .groupLoser) : Decided input (session.reject index reason) := by
  refine decided.keep rfl ?_
  intro position
  simp only [Session.reject, Function.update_apply]
  split
  · rename_i here
    subst here
    simp [(isOpen_iff.mp opened).2, other]
  · rfl

theorem appraise_rejected (rejected : session.appraise input index = .rejected reason) :
    reason = .recursionExcluded := by
  unfold appraise at rejected
  grind

theorem Decided.collect (decided : Decided input session) :
    Decided input (session.collect input).1 := by
  refine List.foldlRecOn (motive := fun state : Session ι K × List (Candidate ι) =>
    Decided input state.1) input.indices (collectEntry input) decided ?_
  intro state decided index _
  simp only [collectEntry]
  cases appraised : state.1.appraise input index with
  | skipped => exact decided
  | constant => exact decided
  | deferred reason => exact decided.keep rfl fun _ => .rfl
  | rejected reason =>
    have opened := appraise_open (by rw [appraised]; simp)
    exact decided.reject opened (by rw [appraise_rejected appraised]; decide)
  | matched candidateClass score => exact decided.keep rfl fun _ => .rfl

variable [ToString K]

theorem Decided.admitEach (decided : Decided input session)
    (admissible : Admissible input session candidates fragments) :
    Decided input (candidates.foldl (admitCandidate input) (session, fragments)).1 := by
  induction candidates generalizing session fragments with
  | nil => exact decided
  | cons candidate rest ih =>
    have opened := admissible.ready.opened candidate List.mem_cons_self
    have first : Decided input (admitCandidate input (session, fragments) candidate).1 := by
      simp only [admitCandidate]
      split
      · exact decided.reject opened (by decide)
      · split
        · have rejected : Decided input (session.reject candidate.index .budget) :=
            decided.reject opened (by decide)
          exact rejected.keep rfl fun _ => .rfl
        · exact decided.keep rfl fun _ => .rfl
    exact ih first (admitCandidate_steps admissible).2

variable [LinearOrder K]

/-- A member of the group that already holds another group wins this one too. -/
def SparesWinners (input : Input ι K) (state : Session ι K × List (Candidate ι))
    (group : ActivationGroupKey) : Prop :=
  ∀ member ∈ members input group state.2,
    (∃ other, state.1.groupWinners other = some member.index) →
      state.1.roundWinner input group (members input group state.2) = some member.index

omit [DecidableEq ι] [ToString K] [LinearOrder K] in
theorem record_groupWinners {winner : Option ι}
    (recorded : (session.record group winner).groupWinners other = some index) :
    (winner = some index ∧ other = group) ∨ session.groupWinners other = some index := by
  cases winner with
  | none => exact .inr recorded
  | some chosen =>
    simp only [record, win, Function.update_apply] at recorded
    split at recorded
    · exact .inl ⟨recorded, by assumption⟩
    · exact .inr recorded

omit [DecidableEq ι] [ToString K] [LinearOrder K] in
theorem record_isSome (winner : Option ι) (known : (session.groupWinners other).isSome) :
    ((session.record group winner).groupWinners other).isSome := by
  cases winner with
  | none => exact known
  | some chosen =>
    simp only [record, win, Function.update_apply]
    split
    · rfl
    · exact known

omit [DecidableEq ι] in
/-- A group with members is decided once it has been resolved. -/
theorem record_roundWinner (nonempty : candidates ≠ [])
    (same : next.groupWinners = session.groupWinners) :
    ((next.record group (session.roundWinner input group candidates)).groupWinners group).isSome := by
  unfold roundWinner
  split
  · rename_i winner known
    exact record_isSome none (by rw [same, known]; rfl)
  · obtain ⟨winner, chosen⟩ :=
      Option.isSome_iff_exists.mp (input.groupWinner_isSome group nonempty)
    rw [chosen]
    simp [record, win]

omit [DecidableEq ι] [ToString K] [LinearOrder K] in
theorem record_terminal (session : Session ι K) (group : ActivationGroupKey) (winner : Option ι) :
    (session.record group winner).terminal = session.terminal := by
  cases winner <;> rfl

omit [ToString K] [LinearOrder K] in
/-- Settling a group decides its losers, as long as none of them holds another group. -/
theorem Decided.settle {winner : Option ι} (decided : Decided input session)
    (ready : Ready input session candidates)
    (inside : ∀ index, winner = some index →
      ∃ member ∈ members input group candidates, member.index = index)
    (spared : ∀ member ∈ members input group candidates,
      (∃ other, session.groupWinners other = some member.index) → winner = some member.index)
    (settled : (((rejectLosers winner (members input group candidates) session).record group
      winner).groupWinners group).isSome) :
    Decided input
      ((rejectLosers winner (members input group candidates) session).record group winner) := by
  have same : (rejectLosers winner (members input group candidates) session).groupWinners =
      session.groupWinners := by
    rw [rejectLosers_keeps]
  have terminal := rejectLosers_terminal winner (members input group candidates) session
  constructor
  · intro index loser
    rw [record_terminal, terminal] at loser
    split at loser
    · rename_i loses
      obtain ⟨member, listed, rfl⟩ := List.mem_map.mp loses.1
      exact ⟨group, (mem_members.mp listed).2, settled⟩
    · obtain ⟨other, belongs, known⟩ := decided.losers index loser
      exact ⟨other, belongs, record_isSome winner (same ▸ known)⟩
  · intro other index recorded
    rw [record_terminal, terminal]
    rcases record_groupWinners recorded with ⟨wins, rfl⟩ | known
    · obtain ⟨member, listed, rfl⟩ := inside index wins
      obtain ⟨eligible, belongs⟩ := mem_members.mp listed
      have opened := isOpen_iff.mp (ready.opened member eligible)
      rw [if_neg fun loses => loses.2 wins.symm, opened.2]
      exact ⟨belongs, by simp⟩
    · rw [same] at known
      obtain ⟨belongs, live⟩ := decided.winners other index known
      refine ⟨belongs, ?_⟩
      rw [if_neg]
      · exact live
      · rintro ⟨listed, loses⟩
        obtain ⟨member, present, rfl⟩ := List.mem_map.mp listed
        exact loses (spared member present ⟨other, known⟩).symm

omit [DecidableEq ι] in
theorem roundWinner_mem (chosen : session.roundWinner input group candidates = some index) :
    ∃ member ∈ candidates, member.index = index := by
  unfold roundWinner at chosen
  split at chosen
  · cases chosen
  · exact Input.groupWinner_mem chosen

theorem Decided.resolveGroup (decided : Decided input session)
    (ready : Ready input session candidates)
    (spares : SparesWinners input (session, candidates) group) :
    Decided input (resolveGroup input (session, candidates) group).1 := by
  simp only [Session.resolveGroup]
  split
  · exact decided
  · rename_i nonempty
    refine decided.settle ready (fun index => roundWinner_mem) spares ?_
    apply record_roundWinner
    · exact fun none_ => nonempty (List.isEmpty_iff.mpr none_)
    · rw [rejectLosers_keeps]

/-- Every group of a round, as it is reached, spares the winners of others. -/
def SparesWinnersIn (input : Input ι K) :
    List ActivationGroupKey → Session ι K × List (Candidate ι) → Prop
  | [], _ => True
  | group :: rest, state =>
    SparesWinners input state group ∧ SparesWinnersIn input rest (resolveGroup input state group)

theorem Decided.resolveEach (groups : List ActivationGroupKey) (decided : Decided input session)
    (ready : Ready input session candidates)
    (spares : SparesWinnersIn input groups (session, candidates)) :
    Decided input (groups.foldl (Session.resolveGroup input) (session, candidates)).1 := by
  induction groups generalizing session candidates with
  | nil => exact decided
  | cons group rest ih =>
    obtain ⟨here, later⟩ := spares
    have resolved := resolveGroup_resolved ready group
    exact ih (decided.resolveGroup ready here) resolved.ready later

/-- In the round that begins here no candidate that wins a group loses a later one. -/
def RoundSparesWinners (input : Input ι K) (session : Session ι K) : Prop :=
  SparesWinnersIn input (groupsOf input (session.collect input).2) (session.collect input)

theorem Decided.round (decided : Decided input session)
    (spares : session.RoundSparesWinners input) :
    Decided input (session.round input).state := by
  obtain ⟨_, ready⟩ := collect_steps input session
  have resolved := resolveEach_resolved (groupsOf input (session.collect input).2) ready
  have settled := decided.collect.resolveEach _ ready spares
  have admitted := settled.admitEach (resolved.ready.sorted fun candidate member group belongs =>
    resolveGroups_won ready member belongs)
  simp only [Session.round, proceed]
  split
  · exact decided.collect
  · split
    · exact admitted
    · split
      · exact admitted.keep rfl fun _ => .rfl
      · exact admitted.keep rfl fun _ => .rfl

end Session

/-- Where no round of a run lets a recorded winner lose a later group, every group loser
of every state of the run is in a group whose winner has not lost. -/
theorem losers_have_live_winners {K : Type} [LinearOrder K] [ToString K] (tables : CharTables)
    (sha256 : Sha256) (candidates : List (ActivationCandidate K)) (scan : ScanBuffer)
    (turn : ActivationTurn) (config : ActivationConfig)
    (spares : ∀ session,
      Loop.Enters (Session.round (.ofCandidates tables sha256 candidates turn config))
        ((Input.ofCandidates tables sha256 candidates turn config).start scan) session →
      session.RoundSparesWinners (.ofCandidates tables sha256 candidates turn config)) :
    ∀ session,
      Loop.Visits (Session.round (.ofCandidates tables sha256 candidates turn config))
        ((Input.ofCandidates tables sha256 candidates turn config).start scan) session →
      session.LosersHaveLiveWinner (.ofCandidates tables sha256 candidates turn config) := by
  intro session visits
  refine (visits.invariant (P := Session.Decided _) (fun decided => decided.round) ?_ spares).live
  exact ⟨by simp [Input.start, Session.ingest], by simp [Input.start, Session.ingest]⟩

namespace Sample

theorem rivals_have_live_winner :
    ((Input.ofCandidates ascii zeros rivals turn { maxRecursionSteps := 0 }).final
      (.new [])).LosersHaveLiveWinner
        (.ofCandidates ascii zeros rivals turn { maxRecursionSteps := 0 }) := by
  obtain ⟨_, _, ends⟩ := Session.run_ends
    (Input.ofCandidates ascii zeros rivals turn { maxRecursionSteps := 0 }) (.ingest _ {} [] true)
  refine losers_have_live_winners ascii zeros rivals (.new []) turn { maxRecursionSteps := 0 } ?_ _
    ends.visits
  intro session enters
  rcases enters.cases_head with rfl | ⟨next, again, _⟩
  · refine ⟨?_, trivial⟩
    rintro member _ ⟨other, recorded⟩
    cases recorded
  · have descends := Session.round_descends _ again
    cases descends

/-- The first beats the second in `a` and then loses `b` to the third. -/
def chain : List (ActivationCandidate Nat) :=
  [member 0 1 [groupA, groupB], member 1 0 [groupA], member 2 2 [groupB]]

def chainInput : Input (Fin 3) Nat := .ofCandidates ascii zeros chain turn {}

/-- The second entry has lost `a` to an entry that lost as well. -/
theorem chain_blocked :
    ¬ ∀ session, Loop.Visits (Session.round chainInput) (chainInput.start (.new [])) session →
      session.LosersHaveLiveWinner chainInput := by
  intro live
  obtain ⟨_, _, ends⟩ := Session.run_ends chainInput (chainInput.start (.new []))
  have lost : (chainInput.final (.new [])).terminal 1 = some .groupLoser := by decide
  obtain ⟨group, belongs, winner, recorded, _, alive⟩ := live _ ends.visits 1 lost
  have only : group = groupA := List.mem_singleton.mp belongs
  have first : (chainInput.final (.new [])).groupWinners groupA = some 0 := by decide
  have beaten : (chainInput.final (.new [])).terminal 0 = some .groupLoser := by decide
  rw [only] at recorded
  cases first.symm.trans recorded
  exact alive beaten

end Sample
end Aise.Activation
