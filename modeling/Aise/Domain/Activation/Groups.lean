import Aise.Core.Activation.Groups
import Aise.Domain.Activation.Selection
import Aise.Lib.OrdMap

/-! Inclusion groups. A group keeps the winner it has; whoever is left after the last round
of elimination has won all of its groups, and whoever is not has lost one to another. -/
namespace Aise.Domain
open Saturating

/-- Every winner is still the winner. -/
def GroupWinners.Extends (decided winners : GroupWinners) : Prop :=
  ∀ (group : ActivationGroupKey) (winner : KnowledgeSourceId),
    decided[group]? = some winner → winners[group]? = some winner

section
variable {request : ActivationRequest} {externals : Externals} {decided winners : GroupWinners}
  {grouped eligible candidates : List Candidate}

theorem GroupWinners.Extends.trans {later : GroupWinners} (first : decided.Extends winners)
    (second : winners.Extends later) : decided.Extends later :=
  fun group winner found => second group winner (first group winner found)

theorem chooseWinner_extends (eligible : List Candidate) (winners : GroupWinners)
    (group : ActivationGroupKey) :
    winners.Extends (chooseWinner request externals eligible winners group) := by
  intro other winner found
  unfold chooseWinner
  split
  · exact found
  · rename_i undecided
    dsimp only
    split
    · exact found
    · rw [OrdMap.get_insert, if_neg, found]
      intro same
      subst same
      exact undecided (Std.ExtTreeMap.contains_iff_mem.mpr (OrdMap.mem_iff_exists.mpr ⟨winner, found⟩))

theorem chooseWinners_extends (groups : List ActivationGroupKey) (eligible : List Candidate)
    (winners : GroupWinners) :
    winners.Extends (groups.foldl (chooseWinner request externals eligible) winners) := by
  induction groups generalizing winners with
  | nil => exact fun _ _ found => found
  | cons group groups ih => exact (chooseWinner_extends eligible winners group).trans (ih _)

/-- What the elimination loop leaves behind. -/
structure Settled (request : ActivationRequest) (decided : GroupWinners)
    (candidates : List Candidate) (state : List Candidate × GroupWinners) : Prop where
  among : state.1.Sublist candidates
  holds : ∀ candidate ∈ state.1, holdsGroups request state.2 candidate = true
  keeps : decided.Extends state.2

theorem eliminate_leaves {state left : List Candidate × GroupWinners}
    (among : state.1.Sublist candidates)
    (round : eliminate request externals decided grouped state = .leave left) :
    Settled request decided candidates left := by
  simp only [eliminate] at round
  split at round
  · rename_i all
    cases round
    exact ⟨among, List.length_filter_eq_length_iff.mp all, chooseWinners_extends _ _ _⟩
  · cases round

theorem eliminate_goes_on {state next : List Candidate × GroupWinners}
    (among : state.1.Sublist candidates)
    (round : eliminate request externals decided grouped state = .again next) :
    next.1.Sublist candidates := by
  simp only [eliminate] at round
  split at round
  · cases round
  · cases round
    exact List.filter_sublist.trans among

/-! ### One winner for every group -/

/-- The total of the weights is cut down where it does not fit, which only makes it smaller. -/
theorem total_le (weight : Candidate → UInt64) (tied : List Candidate) (start : UInt64) :
    (tied.foldl (fun total candidate => add total (weight candidate)) start).toNat ≤
      start.toNat + Activation.weightSum weight tied := by
  induction tied generalizing start with
  | nil => simp [Activation.weightSum]
  | cons first rest ih =>
    have later := ih (add start (weight first))
    rw [toNat_add] at later
    simp only [List.foldl_cons, Activation.weightSum]
    omega

/-- Whatever is drawn below a positive total falls to one of the candidates. -/
theorem draw_falls (weight : Candidate → UInt64) (tied : List Candidate) (drawn : UInt64)
    (positive : tied.foldl (fun total candidate => add total (weight candidate)) 0 ≠ 0) :
    (Activation.draw weight (drawn % tied.foldl (fun total candidate =>
      add total (weight candidate)) 0) tied).isSome := by
  apply Activation.draw_isSome
  have total := total_le weight tied 0
  rw [UInt64.toNat_mod]
  refine Nat.lt_of_lt_of_le (Nat.mod_lt _ ?_) (Nat.le_trans total (by simp))
  exact Nat.pos_of_ne_zero fun zero => positive (UInt64.toNat_inj.mp zero)

/-- A choice among candidates of which one is known falls on one of them, whatever their
weights are. -/
theorem groupWinner_some (externals : Externals) (group : ActivationGroupKey)
    {choices : List Candidate} {candidate : Candidate} (member : candidate ∈ choices)
    (known : (groupKey request candidate).isSome) :
    ∃ winner ∈ choices, groupWinner request externals group choices = some winner := by
  obtain ⟨key, keyed⟩ := Option.isSome_iff_exists.mp known
  have listed : key ∈ choices.filterMap (groupKey request) :=
    List.mem_filterMap.mpr ⟨candidate, member, keyed⟩
  unfold groupWinner
  split
  · rename_i none
    rw [List.max?_eq_none_iff.mp none] at listed
    cases listed
  · rename_i best found
    obtain ⟨champion, among, has⟩ := List.mem_filterMap.mp (List.max?_mem found)
    have sorted {item : Candidate} : item ∈ Sorting.sort Candidate.sourceId
        (choices.filter fun candidate => groupKey request candidate = some best) ↔
          item ∈ choices ∧ groupKey request item = some best := by
      simp [List.mem_insertionSort]
    have tied := sorted.mpr ⟨among, has⟩
    dsimp only
    generalize Sorting.sort Candidate.sourceId
      (choices.filter fun candidate => groupKey request candidate = some best) = ties at sorted tied
    split
    · cases ties with
      | nil => cases tied
      | cons first rest => exact ⟨first, (sorted.mp List.mem_cons_self).1, rfl⟩
    · rename_i positive
      obtain ⟨winner, won⟩ := Option.isSome_iff_exists.mp
        (draw_falls (groupWeight request) ties _ positive)
      exact ⟨winner, (sorted.mp (Activation.draw_mem won)).1, won⟩

theorem mem_groupsOf {group : ActivationGroupKey} {candidate : Candidate} :
    group ∈ groupsOf request candidate ↔
      ∃ metadata, request.metadata candidate.sourceId = some metadata ∧
        group ∈ metadata.rule.selection.groups := by
  unfold groupsOf
  cases request.metadata candidate.sourceId <;> simp

/-- A candidate that belongs to a group is known. -/
theorem groupKey_isSome {group : ActivationGroupKey} {candidate : Candidate}
    (belongs : group ∈ groupsOf request candidate) : (groupKey request candidate).isSome := by
  obtain ⟨metadata, known, _⟩ := mem_groupsOf.mp belongs
  simp [groupKey, known]

/-- A candidate that is eligible, and is or was chosen for the group. -/
def Elected (request : ActivationRequest) (eligible : List Candidate) (group : ActivationGroupKey)
    (winner : KnowledgeSourceId) : Prop :=
  ∃ rival ∈ eligible, rival.sourceId = winner ∧ group ∈ groupsOf request rival

/-- A group that is gone through either had its winner or gets one that is eligible. -/
theorem chooseWinner_elects {group other : ActivationGroupKey} {winner : KnowledgeSourceId}
    (won : (chooseWinner request externals eligible winners group)[other]? = some winner) :
    winners[other]? = some winner ∨ Elected request eligible other winner := by
  unfold chooseWinner at won
  split at won
  · exact .inl won
  · dsimp only at won
    split at won
    · exact .inl won
    · rename_i chosen found
      rw [OrdMap.get_insert] at won
      split at won
      · rename_i here
        subst here
        cases won
        have nonempty : eligible.filter (fun candidate =>
            (groupsOf request candidate).contains group) ≠ [] := by
          intro empty
          rw [empty] at found
          cases found
        obtain ⟨candidate, member⟩ := List.exists_mem_of_ne_nil _ nonempty
        have belongs : group ∈ groupsOf request candidate :=
          List.contains_iff_mem.mp (List.mem_filter.mp member).2
        obtain ⟨rival, among, same⟩ := groupWinner_some externals group member
          (groupKey_isSome belongs)
        cases found.symm.trans same
        obtain ⟨eligible, has⟩ := List.mem_filter.mp among
        exact .inr ⟨chosen, eligible, rfl, List.contains_iff_mem.mp has⟩
      · exact .inl won

theorem chooseWinners_elect {group : ActivationGroupKey} {winner : KnowledgeSourceId}
    (groups : List ActivationGroupKey)
    (won : (groups.foldl (chooseWinner request externals eligible) winners)[group]? = some winner) :
    winners[group]? = some winner ∨ Elected request eligible group winner := by
  induction groups generalizing winners with
  | nil => exact .inl won
  | cons first rest ih =>
    rcases ih won with before | elected
    · exact chooseWinner_elects before
    · exact .inr elected

/-- A group that an eligible candidate belongs to has a winner once it is gone through. -/
theorem chooseWinner_decides (externals : Externals) (winners : GroupWinners)
    {group : ActivationGroupKey} {candidate : Candidate} (member : candidate ∈ eligible)
    (belongs : group ∈ groupsOf request candidate) :
    ∃ winner, (chooseWinner request externals eligible winners group)[group]? = some winner := by
  unfold chooseWinner
  split
  · rename_i decided
    exact OrdMap.mem_iff_exists.mp (Std.ExtTreeMap.contains_iff_mem.mp decided)
  · have choice : candidate ∈ eligible.filter (fun candidate =>
        (groupsOf request candidate).contains group) :=
      List.mem_filter.mpr ⟨member, List.contains_iff_mem.mpr belongs⟩
    obtain ⟨winner, _, won⟩ := groupWinner_some externals group choice (groupKey_isSome belongs)
    simp only [won]
    exact ⟨winner.sourceId, by rw [OrdMap.get_insert, if_pos rfl]⟩

theorem chooseWinners_decide (externals : Externals) (winners : GroupWinners)
    {group : ActivationGroupKey} {candidate : Candidate} (member : candidate ∈ eligible)
    (belongs : group ∈ groupsOf request candidate)
    {groups : List ActivationGroupKey} (listed : group ∈ groups) :
    ∃ winner,
      (groups.foldl (chooseWinner request externals eligible) winners)[group]? = some winner := by
  induction groups generalizing winners with
  | nil => cases listed
  | cons first rest ih =>
    cases listed with
    | head =>
      obtain ⟨winner, won⟩ := chooseWinner_decides externals winners member belongs
      exact ⟨winner, chooseWinners_extends rest eligible _ group winner won⟩
    | tail _ later => exact ih _ later

/-! ### A whole call -/

section
variable (request : ActivationRequest) (externals : Externals) (decided : GroupWinners)
  (candidates : List Candidate)

/-- A round of the elimination loop of a call. -/
def elimination : List Candidate × GroupWinners → Loop.Flow (List Candidate × GroupWinners) :=
  eliminate request externals decided
    (candidates.filter fun candidate => !(groupsOf request candidate).isEmpty)

/-- A candidate is turned out in a round of the call, since by then a group it belongs to has
another winner: one of an earlier call, or one that is eligible in this round. -/
def Ousted (candidate : Candidate) : Prop :=
  ∃ state next, Loop.Enters (elimination request externals decided candidates)
      (candidates, decided) state ∧
    elimination request externals decided candidates state = .again next ∧
    candidate ∈ state.1 ∧ candidate ∉ next.1 ∧
    ∃ group ∈ groupsOf request candidate, ∃ winner, next.2[group]? = some winner ∧
      winner ≠ candidate.sourceId ∧
      (decided[group]? = some winner ∨ Elected request state.1 group winner)

end

/-- The loop is left, at the latest in the round after the last candidate is turned out. -/
theorem survivors_end (request : ActivationRequest) (externals : Externals)
    (decided : GroupWinners) (candidates : List Candidate) :
    ∃ rounds, rounds ≤ candidates.length + 1 ∧
      Loop.Ends (elimination request externals decided candidates) (candidates, decided) rounds
        (survivors request externals decided candidates) := by
  unfold survivors elimination
  apply Loop.run_ends

/-- Those who are left are candidates that hold all their groups. -/
theorem survivors_settled (decided : GroupWinners) (candidates : List Candidate) :
    Settled request decided candidates (survivors request externals decided candidates) := by
  obtain ⟨_, _, ends⟩ := survivors_end request externals decided candidates
  exact ends.invariant (P := fun state => state.1.Sublist candidates)
    (fun among round => eliminate_goes_on among round) (fun among round => eliminate_leaves among round)
    (List.Sublist.refl _)

/-- A group without a winner that gets one in the call gets one that survives it. -/
theorem survivors_elected {group : ActivationGroupKey} {winner : KnowledgeSourceId}
    (undecided : decided[group]? = none)
    (won : (survivors request externals decided candidates).2[group]? = some winner) :
    Elected request (survivors request externals decided candidates).1 group winner := by
  obtain ⟨_, _, ends⟩ := survivors_end request externals decided candidates
  refine ends.invariant (P := fun _ => True) (Q := fun left => left.2[group]? = some winner →
    Elected request left.1 group winner) (fun _ _ => trivial) (fun _ round won => ?_) trivial won
  simp only [elimination, eliminate] at round
  split at round
  · cases round
    rcases chooseWinners_elect _ won with before | elected
    · rw [undecided] at before
      cases before
    · exact elected
  · cases round

theorem eliminate_ousts {state next : List Candidate × GroupWinners} {candidate : Candidate}
    (listed : candidate ∈ grouped)
    (round : eliminate request externals decided grouped state = .again next)
    (before : candidate ∈ state.1) (after : candidate ∉ next.1) :
    ∃ group ∈ groupsOf request candidate, ∃ winner, next.2[group]? = some winner ∧
      winner ≠ candidate.sourceId ∧
      (decided[group]? = some winner ∨ Elected request state.1 group winner) := by
  simp only [eliminate] at round
  split at round
  · cases round
  · cases round
    have fails : holdsGroups request ((openGroups request grouped state.1).foldl
        (chooseWinner request externals state.1) decided) candidate = false :=
      Bool.eq_false_iff.mpr fun holds => after (List.mem_filter.mpr ⟨before, holds⟩)
    obtain ⟨group, belongs, lost⟩ := List.all_eq_false.mp fails
    rw [decide_eq_true_eq] at lost
    have opened : group ∈ openGroups request grouped state.1 := by
      refine mem_sortDedup.mpr (List.mem_flatMap.mpr ⟨candidate, List.mem_filter.mpr ⟨listed, ?_⟩,
        belongs⟩)
      exact List.any_eq_true.mpr ⟨candidate, before, by simp⟩
    obtain ⟨winner, won⟩ := chooseWinners_decide externals decided before belongs opened
    refine ⟨group, belongs, winner, won, fun same => lost (same ▸ won), ?_⟩
    exact chooseWinners_elect _ won

/-- A candidate of a group that does not survive the call is turned out in one of its rounds. -/
theorem survivors_oust {candidate : Candidate} (member : candidate ∈ candidates)
    (belongs : groupsOf request candidate ≠ [])
    (lost : candidate ∉ (survivors request externals decided candidates).1) :
    Ousted request externals decided candidates candidate := by
  obtain ⟨_, _, ends⟩ := survivors_end request externals decided candidates
  have closes {s t : List Candidate × GroupWinners} (held : candidate ∈ s.1)
      (left : elimination request externals decided candidates s = .leave t) : candidate ∈ t.1 := by
    simp only [elimination, eliminate] at left
    split at left
    · cases left
      exact held
    · cases left
  obtain ⟨state, next, entered, round, before, after⟩ := ends.lost
    (P := fun state => candidate ∈ state.1) closes member lost
  have listed : candidate ∈ candidates.filter fun candidate =>
      !(groupsOf request candidate).isEmpty :=
    List.mem_filter.mpr ⟨member, by simpa using belongs⟩
  exact ⟨state, next, entered, round, before, after, eliminate_ousts listed round before after⟩

end

end Aise.Domain
