import Mathlib.Data.List.Dedup
import Aise.Core.Activation.Engine
import Aise.Lib.Transition

/-! The single changes a round makes to a session, each with what holds when it is
made. A round is a sequence of them, so what each of them keeps every round keeps. -/
namespace Aise.Activation
open Transition
variable {ι K : Type} [DecidableEq ι]

/-- Whether `collect` pushes a candidate. -/
def Appraisal.proposes : Appraisal → Bool
  | .skipped => false
  | .constant => true
  | .deferred _ => false
  | .rejected _ => false
  | .matched .. => true

namespace Session

theorem isOpen_iff {session : Session ι K} {index : ι} :
    session.isOpen index = true ↔
      index ∉ session.activatedIndices ∧ session.terminal index = none := by
  simp [isOpen]

/-- What `collect` has checked of an entry that may be activated. -/
structure DueByMatch (input : Input ι K) (session : Session ι K) (index : ι) : Prop where
  primary : 0 < matched (session.evidence index) .primary
  unlocked : ∀ level ∈ (input.rule index).recursion.delayUntilRecursion, level.val ≤ session.level
  included : recursionOnly (session.evidence index) = true →
    (input.rule index).recursion.excludeRecursion = false

def Due (input : Input ι K) (session : Session ι K) (index : ι) : Prop :=
  if (input.rule index).mode.constant then session.level = 0 else DueByMatch input session index

/-- The fragment is what an entry activated in the present round contributes. -/
def Contributes (input : Input ι K) (session : Session ι K) (fragment : ScanFragment) : Prop :=
  ∃ index entry, (index, entry) ∈ session.activatedIndices.zip session.activated ∧
    entry.recursionLevel = session.level ∧
    (input.rule index).recursion.preventRecursion = false ∧
    fragment = .new input.tables .recursionContent (nextLevel session.level)
      (input.content index).value

inductive Step (input : Input ι K) : Session ι K → Session ι K → Prop where
  | defer (index : ι) (reason : ActivationRejection) : Step input session (session.defer index reason)
  | release (index : ι) : Step input session (session.release index)
  | reject (open_ : session.isOpen index = true) (reason : ActivationRejection) :
      Step input session (session.reject index reason)
  | trim : Step input session { session with budgetTrimmed := true }
  | exhaust : Step input session { session with recursionExhausted := true }
  | win (unwon : session.groupWinners group = none) (index : ι) :
      Step input session (session.win group index)
  | activate (open_ : session.isOpen candidate.index = true)
      (room : session.hasRoom input candidate.index = true)
      (won : ∀ group ∈ input.groups candidate.index,
        session.groupWinners group = some candidate.index)
      (due : session.Due input candidate.index) :
      Step input session (session.activate input candidate)
  | recurse (below : session.level < input.config.maxRecursionSteps)
      (contributed : ∀ fragment ∈ fragments, session.Contributes input fragment) :
      Step input session
        ({ session with level := nextLevel session.level }.ingest input fragments false)

/-- Candidates of a round: each once, open and due. -/
structure Ready (input : Input ι K) (session : Session ι K) (candidates : List (Candidate ι)) :
    Prop where
  distinct : (candidates.map (·.index)).Nodup
  opened : ∀ candidate ∈ candidates, session.isOpen candidate.index = true
  due : ∀ candidate ∈ candidates, session.Due input candidate.index

variable {input : Input ι K} {session next : Session ι K} {candidates : List (Candidate ι)}

omit [DecidableEq ι] in
theorem Due.keep (due : session.Due input index)
    (evidence : next.evidence index = session.evidence index)
    (level : next.level = session.level) :
    next.Due input index := by
  unfold Due at due ⊢
  split
  · rename_i constant
    rw [level]
    simpa [constant] using due
  · rename_i byMatch
    rw [if_neg byMatch] at due
    exact ⟨evidence ▸ due.primary, level ▸ due.unlocked, evidence ▸ due.included⟩

theorem Ready.keep (ready : Ready input session candidates)
    (active : next.activatedIndices = session.activatedIndices)
    (terminal : ∀ candidate ∈ candidates,
      next.terminal candidate.index = session.terminal candidate.index)
    (evidence : next.evidence = session.evidence) (level : next.level = session.level) :
    Ready input next candidates where
  distinct := ready.distinct
  opened candidate member := by
    have before := isOpen_iff.mp (ready.opened candidate member)
    exact isOpen_iff.mpr ⟨active ▸ before.1, (terminal candidate member).trans before.2⟩
  due candidate member := (ready.due candidate member).keep (congrFun evidence _) level

theorem Ready.sublist (ready : Ready input session candidates) (part : chosen.Sublist candidates) :
    Ready input session chosen where
  distinct := ready.distinct.sublist (part.map _)
  opened candidate member := ready.opened candidate (part.subset member)
  due candidate member := ready.due candidate (part.subset member)

theorem Ready.perm (ready : Ready input session candidates) (same : chosen.Perm candidates) :
    Ready input session chosen where
  distinct := (same.map _).nodup_iff.mpr ready.distinct
  opened candidate member := ready.opened candidate (same.subset member)
  due candidate member := ready.due candidate (same.subset member)

/-! ### Collecting -/

/-- Every entry that `collect` does anything about is open. -/
theorem appraise_open (considered : session.appraise input index ≠ .skipped) :
    session.isOpen index = true := by
  by_contra closed
  simp [appraise, closed] at considered

/-- An entry becomes a candidate only where it is due. -/
theorem appraise_due (proposed : (session.appraise input index).proposes = true) :
    session.Due input index := by
  unfold appraise at proposed
  unfold Due
  split
  · rename_i constant
    by_contra later
    grind [Appraisal.proposes]
  · rename_i byMatch
    refine ⟨?_, ?_, ?_⟩
    · by_contra primary
      grind [Appraisal.proposes]
    · intro level found
      by_contra locked
      have any : (input.rule index).recursion.delayUntilRecursion.any
          (fun level => decide (session.level < level.val)) = true := by
        rw [Option.mem_def.mp found]
        simpa using UInt16.not_le.mp locked
      grind [Appraisal.proposes]
    · intro recursion
      by_contra excluded
      grind [Appraisal.proposes]

theorem Ready.push (ready : Ready input session candidates)
    (fresh : ∀ candidate ∈ candidates, candidate.index ≠ added.index)
    (opened : session.isOpen added.index = true) (due : session.Due input added.index) :
    Ready input session (candidates ++ [added]) where
  distinct := by
    rw [List.map_append, List.nodup_append]
    refine ⟨ready.distinct, by simp, ?_⟩
    intro index member other single same
    obtain ⟨candidate, found, rfl⟩ := List.mem_map.mp member
    simp only [List.map_cons, List.map_nil, List.mem_singleton] at single
    exact fresh candidate found (same.trans single)
  opened candidate member := by
    rcases List.mem_append.mp member with old | new
    · exact ready.opened candidate old
    · cases List.mem_singleton.mp new
      exact opened
  due candidate member := by
    rcases List.mem_append.mp member with old | new
    · exact ready.due candidate old
    · cases List.mem_singleton.mp new
      exact due

/-- One entry: at most one change, and at most that entry is a new candidate. -/
theorem collectEntry_steps (ready : Ready input session candidates) (index : ι)
    (fresh : ∀ candidate ∈ candidates, candidate.index ≠ index) :
    let result := collectEntry input (session, candidates) index
    Reaches (Step input) session result.1 ∧ Ready input result.1 result.2 ∧
      ∀ candidate ∈ result.2, candidate ∈ candidates ∨ candidate.index = index := by
  have pushed (next : Session ι K) (candidateClass : ActivationClass) (score : UInt16)
      (ready : Ready input next candidates) (opened : next.isOpen index = true)
      (due : next.Due input index) :
      Ready input next (candidates ++ [⟨index, candidateClass, score⟩]) ∧
        ∀ candidate ∈ candidates ++ [⟨index, candidateClass, score⟩],
          candidate ∈ candidates ∨ candidate.index = index := by
    refine ⟨ready.push fresh opened due, ?_⟩
    intro candidate member
    rcases List.mem_append.mp member with old | new
    · exact .inl old
    · cases List.mem_singleton.mp new
      exact .inr rfl
  simp only [collectEntry]
  cases appraised : session.appraise input index with
  | skipped => exact ⟨.refl, ready, fun _ member => .inl member⟩
  | constant =>
    have opened := appraise_open (by rw [appraised]; simp)
    have due := appraise_due (by rw [appraised]; rfl)
    exact ⟨.refl, pushed session _ _ ready opened due⟩
  | deferred reason =>
    exact ⟨.single (.defer index reason), ready.keep rfl (fun _ _ => rfl) rfl rfl,
      fun _ member => .inl member⟩
  | rejected reason =>
    have opened := appraise_open (by rw [appraised]; simp)
    refine ⟨.single (.reject opened reason), ready.keep rfl ?_ rfl rfl,
      fun _ member => .inl member⟩
    intro candidate member
    exact Function.update_of_ne (fresh candidate member) _ _
  | matched candidateClass score =>
    have opened := appraise_open (by rw [appraised]; simp)
    have due := appraise_due (by rw [appraised]; rfl)
    have released : Ready input (session.release index) candidates :=
      ready.keep rfl (fun _ _ => rfl) rfl rfl
    exact ⟨.single (.release index),
      pushed (session.release index) _ _ released opened (due.keep rfl rfl)⟩

/-- The entries of a duplicate free list of positions, after candidates from others. -/
theorem collectEntries_steps {todo : List ι} (distinct : todo.Nodup) (ready : Ready input session candidates)
    (fresh : ∀ candidate ∈ candidates, candidate.index ∉ todo) :
    let result := todo.foldl (collectEntry input) (session, candidates)
    Reaches (Step input) session result.1 ∧ Ready input result.1 result.2 := by
  induction todo generalizing session candidates with
  | nil => exact ⟨.refl, ready⟩
  | cons index rest ih =>
    obtain ⟨absent, distinct⟩ := List.nodup_cons.mp distinct
    obtain ⟨steps, ready, origin⟩ := collectEntry_steps ready index
      fun candidate member same => fresh candidate member (same ▸ List.mem_cons_self)
    obtain ⟨more, done⟩ := ih distinct ready (by
      intro candidate member later
      rcases origin candidate member with old | new
      · exact fresh candidate old (List.mem_cons_of_mem _ later)
      · exact absent (new ▸ later))
    exact ⟨steps.trans more, done⟩

theorem collect_steps (input : Input ι K) (session : Session ι K) :
    Reaches (Step input) session (session.collect input).1 ∧
      Ready input (session.collect input).1 (session.collect input).2 :=
  collectEntries_steps input.distinct ⟨List.nodup_nil, by simp, by simp⟩ (by simp)

/-! ### Resolving groups -/

/-- All losers of a group at once: what the loop over its members amounts to. -/
theorem rejectLosers_terminal (winner : Option ι) (members : List (Candidate ι))
    (session : Session ι K) (index : ι) :
    (rejectLosers winner members session).terminal index =
      if index ∈ members.map (·.index) ∧ some index ≠ winner then some .groupLoser
      else session.terminal index := by
  induction members generalizing session with
  | nil => simp [rejectLosers]
  | cons member rest ih =>
    simp only [rejectLosers, List.foldl_cons] at ih ⊢
    rw [ih]
    by_cases wins : some member.index = winner
    · rw [if_pos wins]
      grind
    · rw [if_neg wins]
      by_cases same : index = member.index
      · subst same
        simp [reject, wins]
      · simp [reject, same]

theorem rejectLosers_keeps (winner : Option ι) (members : List (Candidate ι))
    (session : Session ι K) :
    rejectLosers winner members session =
      { session with terminal := (rejectLosers winner members session).terminal } := by
  induction members generalizing session with
  | nil => rfl
  | cons member rest ih =>
    simp only [rejectLosers, List.foldl_cons] at ih ⊢
    rw [ih]
    split <;> rfl

theorem rejectLosers_steps (winner : Option ι) (ready : Ready input session candidates) :
    Reaches (Step input) session (rejectLosers winner candidates session) := by
  induction candidates generalizing session with
  | nil => exact .refl
  | cons member rest ih =>
    obtain ⟨absent, distinct⟩ := List.nodup_cons.mp ready.distinct
    have others := ready.sublist (List.sublist_cons_self member rest)
    simp only [rejectLosers, List.foldl_cons] at ih ⊢
    split
    · exact ih others
    · have opened := ready.opened member List.mem_cons_self
      refine .head (.reject opened .groupLoser) (ih (others.keep rfl ?_ rfl rfl))
      intro candidate found
      apply Function.update_of_ne
      intro same
      exact absent (List.mem_map.mpr ⟨candidate, found, same⟩)

/-- What resolving some groups has done to a session and its candidates. -/
structure Resolved (input : Input ι K) (session : Session ι K) (candidates : List (Candidate ι))
    (groups : List ActivationGroupKey) (result : Session ι K × List (Candidate ι)) : Prop where
  steps : Reaches (Step input) session result.1
  part : result.2.Sublist candidates
  ready : Ready input result.1 result.2
  kept : ∀ group winner, session.groupWinners group = some winner →
    result.1.groupWinners group = some winner
  won : ∀ candidate ∈ result.2, ∀ group ∈ groups, group ∈ input.groups candidate.index →
    result.1.groupWinners group = some candidate.index

omit [DecidableEq ι] in
theorem mem_members {eligible : List (Candidate ι)} :
    candidate ∈ members input group eligible ↔
      candidate ∈ eligible ∧ group ∈ input.groups candidate.index := by
  simp [members]

theorem mem_survivors {winner : Option ι} {members eligible : List (Candidate ι)} :
    candidate ∈ survivors winner members eligible ↔
      candidate ∈ eligible ∧
        (some candidate.index = winner ∨ candidate.index ∉ members.map (·.index)) := by
  simp [survivors]

/-- Rejecting the losers leaves the survivors as they were. -/
theorem Ready.survivors (ready : Ready input session candidates) (winner : Option ι)
    (members : List (Candidate ι)) :
    Ready input (rejectLosers winner members session) (survivors winner members candidates) := by
  have kept := rejectLosers_keeps winner members session
  refine (ready.sublist List.filter_sublist).keep (by rw [kept]) ?_ (by rw [kept]) (by rw [kept])
  intro candidate member
  rw [rejectLosers_terminal, if_neg]
  rintro ⟨inside, loses⟩
  rcases (mem_survivors.mp member).2 with wins | outside
  · exact loses wins
  · exact outside inside

/-- Of the members of a settled group only the winner is left. -/
theorem survivor_wins {winner : Option ι}
    (survives : candidate ∈ survivors winner (members input group candidates) candidates)
    (inside : group ∈ input.groups candidate.index) : some candidate.index = winner := by
  obtain ⟨member, wins | outside⟩ := mem_survivors.mp survives
  · exact wins
  · exact absurd (List.mem_map_of_mem (mem_members.mpr ⟨member, inside⟩)) outside

section
variable [LinearOrder K] [ToString K]

omit [DecidableEq ι] in
theorem roundWinner_unwon (chosen : session.roundWinner input group candidates = some index) :
    session.groupWinners group = none := by
  unfold roundWinner at chosen
  split at chosen
  · cases chosen
  · assumption

theorem resolveGroup_resolved (ready : Ready input session candidates)
    (group : ActivationGroupKey) :
    Resolved input session candidates [group]
      (resolveGroup input (session, candidates) group) := by
  simp only [resolveGroup]
  split
  · rename_i empty
    refine ⟨.refl, .refl _, ready, fun _ _ known => known, ?_⟩
    intro candidate member other single inside
    cases List.mem_singleton.mp single
    have absurdMember := mem_members.mpr ⟨member, inside⟩
    simp [List.isEmpty_iff.mp empty] at absurdMember
  · generalize chosen : session.roundWinner input group (members input group candidates) = winner
    have losers : Reaches (Step input) session
        (rejectLosers winner (members input group candidates) session) :=
      rejectLosers_steps winner (ready.sublist List.filter_sublist)
    have survivors := ready.survivors winner (members input group candidates)
    have same : (rejectLosers winner (members input group candidates) session).groupWinners =
        session.groupWinners := by
      rw [rejectLosers_keeps]
    cases winner with
    | none =>
      refine ⟨losers, List.filter_sublist, survivors, fun _ _ known => same ▸ known, ?_⟩
      intro candidate member other single inside
      cases List.mem_singleton.mp single
      cases survivor_wins member inside
    | some index =>
      have unwon := roundWinner_unwon chosen
      refine ⟨losers.tail (.win (same ▸ unwon) index), List.filter_sublist,
        survivors.keep rfl (fun _ _ => rfl) rfl rfl, ?_, ?_⟩
      · intro other winner known
        simp only [record, win, same]
        rw [Function.update_of_ne, known]
        rintro rfl
        cases unwon.symm.trans known
      · intro candidate member other single inside
        cases List.mem_singleton.mp single
        simp only [record, win, Function.update_self]
        exact (survivor_wins member inside).symm

omit [LinearOrder K] [ToString K] in
theorem Resolved.trans {rest : List ActivationGroupKey} {between result}
    (first : Resolved input session candidates [group] between)
    (second : Resolved input between.1 between.2 rest result) :
    Resolved input session candidates (group :: rest) result where
  steps := first.steps.trans second.steps
  part := second.part.trans first.part
  ready := second.ready
  kept other winner known := second.kept other winner (first.kept other winner known)
  won candidate member other inside belongs := by
    rcases List.mem_cons.mp inside with rfl | later
    · exact second.kept _ _
        (first.won candidate (second.part.subset member) _ (List.mem_singleton_self _) belongs)
    · exact second.won candidate member other later belongs

theorem resolveEach_resolved (groups : List ActivationGroupKey)
    (ready : Ready input session candidates) :
    Resolved input session candidates groups
      (groups.foldl (resolveGroup input) (session, candidates)) := by
  induction groups generalizing session candidates with
  | nil => exact ⟨.refl, .refl _, ready, fun _ _ known => known, by simp⟩
  | cons group rest ih =>
    have first := resolveGroup_resolved ready group
    exact first.trans (ih first.ready)

omit [DecidableEq ι] [LinearOrder K] [ToString K] in
theorem mem_groupsOf (candidates : List (Candidate ι)) :
    group ∈ groupsOf input candidates ↔
      ∃ candidate ∈ candidates, group ∈ input.groups candidate.index := by
  simp [groupsOf]

/-- Whoever comes through holds every group it is in. -/
theorem resolveGroups_won (ready : Ready input session candidates)
    (member : candidate ∈ (session.resolveGroups input candidates).2)
    (belongs : group ∈ input.groups candidate.index) :
    (session.resolveGroups input candidates).1.groupWinners group = some candidate.index := by
  have resolved := resolveEach_resolved (groupsOf input candidates) ready
  have listed := (mem_groupsOf candidates).mpr ⟨candidate, resolved.part.subset member, belongs⟩
  exact resolved.won candidate member group listed belongs

end

/-! ### Admitting -/

omit [DecidableEq ι] in
theorem mem_zip_append {α β : Type} {left more : List α} {right others : List β} {pair : α × β}
    (member : pair ∈ left.zip right) : pair ∈ (left ++ more).zip (right ++ others) := by
  induction left generalizing right with
  | nil => simp at member
  | cons a left ih =>
    cases right with
    | nil => simp at member
    | cons b right =>
      simp only [List.zip_cons_cons, List.mem_cons, List.cons_append] at member ⊢
      exact member.imp_right ih

omit [DecidableEq ι] in
theorem Contributes.activate (contributed : session.Contributes input fragment)
    (candidate : Candidate ι) : (session.activate input candidate).Contributes input fragment := by
  obtain ⟨index, entry, member, level, allowed, built⟩ := contributed
  exact ⟨index, entry, mem_zip_append member, level, allowed, built⟩

omit [DecidableEq ι] in
theorem zip_activate (session : Session ι K) (candidate : Candidate ι) :
    (session.activate input candidate).activatedIndices.zip
        (session.activate input candidate).activated =
      session.activatedIndices.zip session.activated ++
        [(candidate.index, session.entryOf input candidate)] :=
  List.zip_append session.aligned

omit [DecidableEq ι] in
/-- An entry's own fragment, once it is activated. -/
theorem contributes_fragmentOf {candidate : Candidate ι}
    (member : fragment ∈ session.fragmentOf input candidate.index) :
    (session.activate input candidate).Contributes input fragment := by
  unfold fragmentOf at member
  split at member
  · simp at member
  · rename_i allowed
    refine ⟨candidate.index, session.entryOf input candidate, ?_, rfl, by simpa using allowed,
      List.mem_singleton.mp member⟩
    rw [zip_activate]
    exact List.mem_append_right _ (List.mem_singleton_self _)

/-- Candidates that hold all their groups, and the fragments gathered so far. -/
structure Admissible (input : Input ι K) (session : Session ι K)
    (candidates : List (Candidate ι)) (fragments : List ScanFragment) : Prop where
  ready : Ready input session candidates
  won : ∀ candidate ∈ candidates, ∀ group ∈ input.groups candidate.index,
    session.groupWinners group = some candidate.index
  contributed : ∀ fragment ∈ fragments, session.Contributes input fragment

variable [ToString K]

theorem admitCandidate_steps
    (admissible : Admissible input session (candidate :: rest) fragments) :
    let result := admitCandidate input (session, fragments) candidate
    Reaches (Step input) session result.1 ∧ Admissible input result.1 rest result.2 := by
  have opened := admissible.ready.opened candidate List.mem_cons_self
  have others := admissible.ready.sublist (List.sublist_cons_self candidate rest)
  have won : ∀ other ∈ rest, ∀ group ∈ input.groups other.index,
      session.groupWinners group = some other.index :=
    fun other member => admissible.won other (List.mem_cons_of_mem _ member)
  have apart {other : Candidate ι} (member : other ∈ rest) : other.index ≠ candidate.index :=
    fun same => (List.nodup_cons.mp admissible.ready.distinct).1
      (List.mem_map.mpr ⟨other, member, same⟩)
  have rejected (reason : ActivationRejection) :
      Ready input (session.reject candidate.index reason) rest :=
    others.keep rfl (fun _ member => Function.update_of_ne (apart member) _ _) rfl rfl
  simp only [admitCandidate]
  split
  · exact ⟨.single (.reject opened .probability),
      rejected .probability, won, admissible.contributed⟩
  · split
    · exact ⟨.tail (.single (.reject opened .budget)) .trim,
        (rejected .budget).keep rfl (fun _ _ => rfl) rfl rfl, won, admissible.contributed⟩
    · rename_i full
      have due := admissible.ready.due candidate List.mem_cons_self
      have holds := admissible.won candidate List.mem_cons_self
      refine ⟨.single (.activate opened (by simpa using full) holds due), ?_, won, ?_⟩
      · refine ⟨others.distinct, ?_, fun other member => (others.due other member).keep rfl rfl⟩
        intro other member
        have before := isOpen_iff.mp (others.opened other member)
        rw [isOpen_iff]
        refine ⟨?_, before.2⟩
        simp only [Session.activate, List.mem_append, List.mem_singleton, not_or]
        exact ⟨before.1, apart member⟩
      · intro fragment member
        rcases List.mem_append.mp member with old | new
        · exact (admissible.contributed fragment old).activate candidate
        · exact contributes_fragmentOf new

theorem admitEach_steps (admissible : Admissible input session candidates fragments) :
    let result := candidates.foldl (admitCandidate input) (session, fragments)
    Reaches (Step input) session result.1 ∧ Admissible input result.1 [] result.2 := by
  induction candidates generalizing session fragments with
  | nil => exact ⟨.refl, admissible⟩
  | cons candidate rest ih =>
    obtain ⟨first, between⟩ := admitCandidate_steps admissible
    obtain ⟨more, done⟩ := ih between
    exact ⟨first.trans more, done⟩

variable [LinearOrder K]

omit [ToString K] in
/-- Sorting candidates leaves them admissible. -/
theorem Ready.sorted (ready : Ready input session candidates)
    (won : ∀ candidate ∈ candidates, ∀ group ∈ input.groups candidate.index,
      session.groupWinners group = some candidate.index) :
    Admissible input session (Sorting.sort (session.admissionRank input) candidates) [] := by
  have same := List.perm_insertionSort
    (fun left right => session.admissionRank input left ≤ session.admissionRank input right)
    candidates
  exact ⟨ready.perm same, fun candidate member => won candidate (same.subset member), by simp⟩

theorem admitCandidates_steps (ready : Ready input session candidates)
    (won : ∀ candidate ∈ candidates, ∀ group ∈ input.groups candidate.index,
      session.groupWinners group = some candidate.index) :
    let result := session.admitCandidates input candidates
    Reaches (Step input) session result.1 ∧
      ∀ fragment ∈ result.2, result.1.Contributes input fragment := by
  obtain ⟨steps, admissible⟩ := admitEach_steps (ready.sorted won)
  exact ⟨steps, admissible.contributed⟩

/-! ### A round -/

/-- Where a round ends that finds candidates, and the fragments it has gathered. -/
def admission (input : Input ι K) (session : Session ι K) : Session ι K × List ScanFragment :=
  let (collected, candidates) := session.collect input
  let (resolved, eligible) := collected.resolveGroups input candidates
  resolved.admitCandidates input eligible

theorem admission_steps (input : Input ι K) (session : Session ι K) :
    Reaches (Step input) session (session.admission input).1 ∧
      ∀ fragment ∈ (session.admission input).2,
        (session.admission input).1.Contributes input fragment := by
  obtain ⟨collected, ready⟩ := collect_steps input session
  have resolved := resolveEach_resolved (groupsOf input (session.collect input).2) ready
  obtain ⟨admitted, contributed⟩ := admitCandidates_steps resolved.ready
    fun candidate member group belongs => resolveGroups_won ready member belongs
  exact ⟨(collected.trans resolved.steps).trans admitted, contributed⟩

theorem round_eq (input : Input ι K) (session : Session ι K) :
    session.round input =
      if (session.collect input).2.isEmpty then .leave (session.collect input).1
      else (session.admission input).1.proceed input (session.admission input).2 := rfl

/-- A round changes a session by these steps only, however it ends. -/
theorem round_steps (input : Input ι K) (session : Session ι K) :
    Reaches (Step input) session (session.round input).state := by
  obtain ⟨collected, -⟩ := collect_steps input session
  obtain ⟨through, contributed⟩ := admission_steps input session
  rw [round_eq]
  simp only [proceed]
  split
  · exact collected
  · split
    · exact through
    · split
      · exact through.tail .exhaust
      · rename_i within
        exact through.tail (.recurse (UInt16.not_le.mp within) contributed)

/-- So does a whole run. -/
theorem run_steps (input : Input ι K) (session : Session ι K) :
    Reaches (Step input) session (session.run input) := by
  obtain ⟨rounds, _, ends⟩ := run_ends input session
  apply ends.invariant (P := fun s => Reaches (Step input) session s)
  · intro s t reached again
    have steps := round_steps input s
    rw [again] at steps
    exact reached.trans steps
  · intro s t reached left
    have steps := round_steps input s
    rw [left] at steps
    exact reached.trans steps
  · exact .refl

end Session
end Aise.Activation
