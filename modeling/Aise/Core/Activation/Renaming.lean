import Mathlib.Data.List.NodupEquivFin
import Aise.Core.Activation.Accounting

/-! Runs under another numbering of the candidates. Renumbering a session commutes with
everything a round does to it, as long as keys are distinct; candidates in a different
order are a renumbering, so the outcome of a run does not depend on their order. -/
namespace Aise.Activation
variable {ι κ K : Type}

/-- The second input is the first with its positions renamed. -/
structure Input.Renames (e : ι ≃ κ) (input : Input ι K) (other : Input κ K) : Prop where
  tables : other.tables = input.tables
  sha256 : other.sha256 = input.sha256
  turn : other.turn = input.turn
  config : other.config = input.config
  entries : ∀ index, other.entries (e index) = input.entries index

def Candidate.rename (e : ι ≃ κ) (candidate : Candidate ι) : Candidate κ where
  index := e candidate.index
  candidateClass := candidate.candidateClass
  score := candidate.score

namespace Appraisal

/-- The terminal rejection `collect` leaves an entry with. -/
def terminal (old : Option ActivationRejection) : Appraisal → Option ActivationRejection
  | .rejected reason => some reason
  | _ => old

/-- The deferral `collect` leaves an entry with. -/
def deferral (old : Option ActivationRejection) : Appraisal → Option ActivationRejection
  | .deferred reason => some reason
  | .matched .. => none
  | _ => old

/-- The candidate `collect` makes of an entry. -/
def proposal (index : ι) : Appraisal → Option (Candidate ι)
  | .constant => some ⟨index, .constant, 0⟩
  | .matched candidateClass score => some ⟨index, candidateClass, score⟩
  | _ => none

end Appraisal

namespace Session

def rename (e : ι ≃ κ) (session : Session ι K) : Session κ K where
  evidence index := session.evidence (e.symm index)
  level := session.level
  activated := session.activated
  activatedIndices := session.activatedIndices.map e
  terminal index := session.terminal (e.symm index)
  deferred index := session.deferred (e.symm index)
  groupWinners group := (session.groupWinners group).map e
  knowledgeBytes := session.knowledgeBytes
  budgetTrimmed := session.budgetTrimmed
  recursionExhausted := session.recursionExhausted
  aligned := by rw [List.length_map, session.aligned]

end Session

namespace Input.Renames
variable {e : ι ≃ κ} {input : Input ι K} {other : Input κ K}

theorem rule (renames : input.Renames e other) (index : ι) :
    other.rule (e index) = input.rule index := by
  rw [Input.rule, renames.entries]
  rfl

theorem key (renames : input.Renames e other) (index : ι) :
    other.key (e index) = input.key index := by
  rw [Input.key, renames.entries]
  rfl

theorem content (renames : input.Renames e other) (index : ι) :
    other.content (e index) = input.content index := by
  rw [Input.content, renames.entries]
  rfl

theorem groups (renames : input.Renames e other) (index : ι) :
    other.groups (e index) = input.groups index := by
  rw [Input.groups, renames.rule]
  rfl

theorem weight (renames : input.Renames e other) (index : ι) :
    other.weight (e index) = input.weight index := by
  rw [Input.weight, renames.rule]
  rfl

theorem groupRank (renames : input.Renames e other) (candidate : Candidate ι) :
    other.groupRank (candidate.rename e) = input.groupRank candidate := by
  simp only [Input.groupRank, Candidate.rename, renames.rule]

theorem hashTurn (renames : input.Renames e other) : other.hashTurn = input.hashTurn := by
  rw [Input.hashTurn, renames.turn]
  rfl

end Input.Renames

theorem Input.indices_perm (e : ι ≃ κ) (input : Input ι K) (other : Input κ K) :
    other.indices.Perm (input.indices.map e) := by
  refine (List.perm_ext_iff_of_nodup other.distinct (input.distinct.map e.injective)).mpr ?_
  intro index
  have listed : index ∈ input.indices.map e :=
    List.mem_map.mpr ⟨e.symm index, input.complete _, e.apply_symm_apply index⟩
  simp only [listed, other.complete index]

section
variable [DecidableEq ι] [DecidableEq κ] {e : ι ≃ κ} {input : Input ι K} {other : Input κ K}

theorem update_symm {A : Type} (f : ι → A) (index : ι) (value : A) :
    (fun position => Function.update f index value (e.symm position)) =
      Function.update (fun position => f (e.symm position)) (e index) value := by
  funext position
  by_cases here : position = e index
  · subst here
    simp
  · have elsewhere : e.symm position ≠ index := fun same => here (by rw [← same, e.apply_symm_apply])
    rw [Function.update_of_ne here, Function.update_of_ne elsewhere]

namespace Session

theorem rename_isOpen (e : ι ≃ κ) (session : Session ι K) (index : ι) :
    (session.rename e).isOpen (e index) = session.isOpen index := by
  simp [isOpen, rename, List.contains_eq_mem]

omit [DecidableEq ι] [DecidableEq κ] in
theorem rename_evidence (e : ι ≃ κ) (session : Session ι K) (index : ι) :
    (session.rename e).evidence (e index) = session.evidence index :=
  congrArg session.evidence (e.symm_apply_apply index)

theorem rename_reject (session : Session ι K) (index : ι) (reason : ActivationRejection) :
    (session.reject index reason).rename e = (session.rename e).reject (e index) reason := by
  simp only [rename, reject, update_symm]

theorem rename_ingest (renames : input.Renames e other) (session : Session ι K)
    (fragments : List ScanFragment) (base : Bool) :
    (session.rename e).ingest other fragments base =
      (session.ingest input fragments base).rename e := by
  ext1
  case evidence =>
    funext position
    obtain ⟨index, rfl⟩ := e.surjective position
    simp only [ingest, rename_isOpen, renames.entries, renames.tables]
    simp only [rename, e.symm_apply_apply]
  all_goals rfl

/-! ### Collecting -/

theorem rename_appraise (renames : input.Renames e other) (session : Session ι K) (index : ι) :
    (session.rename e).appraise other (e index) = session.appraise input index := by
  simp only [appraise, rename_isOpen, renames.rule, renames.entries, rename_evidence]
  rfl

/-- A session whose entries at some positions have been collected. -/
def collectedAt (input : Input ι K) (session : Session ι K) (positions : List ι) : Session ι K :=
  { session with
    terminal := fun index =>
      if index ∈ positions then (session.appraise input index).terminal (session.terminal index)
      else session.terminal index
    deferred := fun index =>
      if index ∈ positions then (session.appraise input index).deferral (session.deferred index)
      else session.deferred index }

def proposals (input : Input ι K) (session : Session ι K) (positions : List ι) :
    List (Candidate ι) :=
  positions.filterMap fun index => (session.appraise input index).proposal index

omit [DecidableEq κ] in
/-- Collecting other entries does not change how an entry is appraised. -/
theorem appraise_collectedAt (session : Session ι K) (absent : index ∉ positions) :
    (session.collectedAt input positions).appraise input index = session.appraise input index := by
  have opened : (session.collectedAt input positions).isOpen index = session.isOpen index := by
    simp [isOpen, collectedAt, absent]
  simp only [appraise, opened]
  rfl

omit [DecidableEq κ] in
theorem collectedAt_append (session : Session ι K) (absent : index ∉ positions) :
    session.collectedAt input (positions ++ [index]) =
      { session.collectedAt input positions with
        terminal := Function.update (session.collectedAt input positions).terminal index
          ((session.appraise input index).terminal
            ((session.collectedAt input positions).terminal index))
        deferred := Function.update (session.collectedAt input positions).deferred index
          ((session.appraise input index).deferral
            ((session.collectedAt input positions).deferred index)) } := by
  ext1
  case terminal =>
    funext position
    by_cases here : position = index
    · subst here
      simp [collectedAt, absent]
    · simp [collectedAt, here]
  case deferred =>
    funext position
    by_cases here : position = index
    · subst here
      simp [collectedAt, absent]
    · simp [collectedAt, here]
  all_goals rfl

omit [DecidableEq κ] in
theorem collectEntry_collectedAt (session : Session ι K) (absent : index ∉ positions) :
    collectEntry input (session.collectedAt input positions, session.proposals input positions)
        index =
      (session.collectedAt input (positions ++ [index]),
        session.proposals input (positions ++ [index])) := by
  simp only [collectEntry, appraise_collectedAt session absent, collectedAt_append session absent,
    proposals, List.filterMap_append, List.filterMap_cons, List.filterMap_nil]
  cases session.appraise input index with
  | skipped | constant | deferred | rejected | matched =>
    simp [Appraisal.terminal, Appraisal.deferral, Appraisal.proposal, reject, defer, release]

omit [DecidableEq κ] in
/-- `collect` treats every entry on its own, by what the session was at the start. -/
theorem collect_eq (input : Input ι K) (session : Session ι K) :
    session.collect input =
      (session.collectedAt input input.indices, session.proposals input input.indices) := by
  have each (done todo : List ι) (distinct : (done ++ todo).Nodup) :
      todo.foldl (collectEntry input)
          (session.collectedAt input done, session.proposals input done) =
        (session.collectedAt input (done ++ todo), session.proposals input (done ++ todo)) := by
    induction todo generalizing done with
    | nil => simp
    | cons index rest ih =>
      have absent : index ∉ done := fun present =>
        (List.nodup_append.mp distinct).2.2 index present index List.mem_cons_self rfl
      rw [List.foldl_cons, collectEntry_collectedAt session absent, ih]
      · simp
      · simpa using distinct
  exact each [] input.indices input.distinct

theorem rename_collect (renames : input.Renames e other) (session : Session ι K) :
    ((session.rename e).collect other).1 = (session.collect input).1.rename e ∧
      ((session.rename e).collect other).2.Perm ((session.collect input).2.map (·.rename e)) := by
  rw [collect_eq, collect_eq]
  constructor
  · ext1
    case terminal =>
      funext position
      obtain ⟨index, rfl⟩ := e.surjective position
      simp only [collectedAt, rename_appraise renames, other.complete, if_true]
      simp only [rename, e.symm_apply_apply, input.complete, if_true]
    case deferred =>
      funext position
      obtain ⟨index, rfl⟩ := e.surjective position
      simp only [collectedAt, rename_appraise renames, other.complete, if_true]
      simp only [rename, e.symm_apply_apply, input.complete, if_true]
    all_goals rfl
  · refine ((input.indices_perm e other).filterMap _).trans (List.Perm.of_eq ?_)
    simp only [proposals, List.filterMap_map, List.map_filterMap]
    congr 1
    funext index
    simp only [Function.comp_apply, rename_appraise renames]
    cases session.appraise input index <;> rfl

/-! ### Resolving groups -/

end Session

section
variable [LinearOrder K] [ToString K] {candidates : List (Candidate ι)}
  {others : List (Candidate κ)}

omit [DecidableEq ι] [DecidableEq κ] in
theorem draw_map {weight : ι → UInt64} {other : κ → UInt64}
    (agree : ∀ index, other (e index) = weight index) (sample : UInt64) (indices : List ι) :
    draw other sample (indices.map e) = (draw weight sample indices).map e := by
  induction indices generalizing sample with
  | nil => rfl
  | cons index rest ih =>
    simp only [List.map_cons, draw, agree, ih]
    split <;> rfl

omit [DecidableEq ι] [DecidableEq κ] [LinearOrder K] [ToString K] in
/-- The best rank does not depend on the order of the members. -/
theorem best_rename (renames : input.Renames e other)
    (same : others.Perm (candidates.map (·.rename e))) :
    (others.map other.groupRank).max? = (candidates.map input.groupRank).max? := by
  have ranks : (others.map other.groupRank).Perm (candidates.map input.groupRank) := by
    refine (same.map _).trans (List.Perm.of_eq ?_)
    simp only [List.map_map]
    exact List.map_congr_left fun candidate _ => renames.groupRank candidate
  apply Option.ext
  intro rank
  simp only [List.max?_eq_some_iff, ranks.mem_iff]

omit [DecidableEq ι] [DecidableEq κ] [ToString K] in
theorem tied_rename (renames : input.Renames e other) (apart : Function.Injective input.key)
    (same : others.Perm (candidates.map (·.rename e))) (best : Bool ×ₗ Nat ×ₗ Int) :
    other.tied others best = (input.tied candidates best).map e := by
  apply Sorting.sort_map renames.key
  · intro left _ right _ keys
    exact apart keys
  · refine ((same.filter _).map _).trans (List.Perm.of_eq ?_)
    simp only [List.filter_map, List.map_map]
    congr 1
    apply List.filter_congr
    intro candidate _
    simp only [Function.comp_apply, renames.groupRank]

omit [DecidableEq ι] [DecidableEq κ] in
theorem groupWinner_rename (renames : input.Renames e other)
    (apart : Function.Injective input.key) (same : others.Perm (candidates.map (·.rename e)))
    (group : ActivationGroupKey) :
    other.groupWinner group others = (input.groupWinner group candidates).map e := by
  simp only [Input.groupWinner, best_rename renames same]
  cases (candidates.map input.groupRank).max? with
  | none => rfl
  | some best =>
    simp only [tied_rename renames apart same, List.foldl_map, renames.weight, List.flatMap_map,
      renames.key, renames.hashTurn, renames.sha256]
    split
    · exact List.head?_map
    · exact draw_map renames.weight _ _

omit [ToString K] [LinearOrder K] [DecidableEq ι] [DecidableEq κ] in
theorem groupsOf_rename (renames : input.Renames e other)
    (same : others.Perm (candidates.map (·.rename e))) :
    Session.groupsOf other others = Session.groupsOf input candidates := by
  have groups : (others.flatMap fun candidate => other.groups candidate.index).dedup.Perm
      (candidates.flatMap fun candidate => input.groups candidate.index).dedup := by
    apply List.Perm.dedup
    refine (same.flatMap_right _).trans (List.Perm.of_eq ?_)
    simp only [List.flatMap_map, Candidate.rename, renames.groups]
  have apart (left right : ActivationGroupKey) (values : left.value = right.value) :
      left = right := by
    cases left
    cases right
    cases values
    rfl
  have sorted : Session.groupsOf other others = (Session.groupsOf input candidates).map id :=
    Sorting.sort_map (fun _ => rfl) (fun left _ right _ => apart left right)
      (by rw [List.map_id]; exact groups)
  rw [sorted, List.map_id]

namespace Session

omit [ToString K] [LinearOrder K] [DecidableEq ι] [DecidableEq κ] in
theorem members_rename (renames : input.Renames e other)
    (same : others.Perm (candidates.map (·.rename e))) (group : ActivationGroupKey) :
    (members other group others).Perm ((members input group candidates).map (·.rename e)) := by
  refine (same.filter _).trans (List.Perm.of_eq ?_)
  simp only [members, List.filter_map]
  congr 1
  apply List.filter_congr
  intro candidate _
  simp only [Function.comp_apply, Candidate.rename, renames.groups]

omit [ToString K] [LinearOrder K] [DecidableEq ι] [DecidableEq κ] in
theorem index_mem_rename (same : others.Perm (candidates.map (·.rename e))) (index : ι) :
    e index ∈ others.map (·.index) ↔ index ∈ candidates.map (·.index) := by
  rw [(same.map _).mem_iff]
  simp only [List.map_map, List.mem_map, Function.comp_apply, Candidate.rename]
  constructor
  · rintro ⟨candidate, member, named⟩
    exact ⟨candidate, member, e.injective named⟩
  · rintro ⟨candidate, member, rfl⟩
    exact ⟨candidate, member, rfl⟩

omit [ToString K] [LinearOrder K] [DecidableEq ι] [DecidableEq κ] in
theorem map_eq_some_iff {winner : Option ι} (index : ι) :
    some (e index) = winner.map e ↔ some index = winner := by
  cases winner with
  | none => simp
  | some chosen => simp

omit [ToString K] [LinearOrder K] in
theorem rejectLosers_rename (same : others.Perm (candidates.map (·.rename e)))
    (winner : Option ι) (session : Session ι K) :
    rejectLosers (winner.map e) others (session.rename e) =
      (rejectLosers winner candidates session).rename e := by
  rw [rejectLosers_keeps, rejectLosers_keeps winner]
  ext1
  case terminal =>
    funext position
    obtain ⟨index, rfl⟩ := e.surjective position
    rw [rejectLosers_terminal]
    simp only [index_mem_rename same, ne_eq, map_eq_some_iff]
    simp only [rename, e.symm_apply_apply, rejectLosers_terminal, ne_eq]
  all_goals rfl

omit [ToString K] [LinearOrder K] in
theorem survivors_rename {eligible : List (Candidate ι)} {remaining : List (Candidate κ)}
    (same : others.Perm (candidates.map (·.rename e)))
    (left : remaining.Perm (eligible.map (·.rename e))) (winner : Option ι) :
    (survivors (winner.map e) others remaining).Perm
      ((survivors winner candidates eligible).map (·.rename e)) := by
  refine (left.filter _).trans (List.Perm.of_eq ?_)
  simp only [survivors, List.filter_map]
  congr 1
  apply List.filter_congr
  intro candidate _
  have members : (others.any fun member => decide (member.index = e candidate.index)) =
      candidates.any fun member => decide (member.index = candidate.index) := by
    rw [Bool.eq_iff_iff]
    simp only [List.any_eq_true, decide_eq_true_eq]
    simpa only [List.mem_map] using index_mem_rename same candidate.index
  simp only [Function.comp_apply, Candidate.rename, members, map_eq_some_iff]

omit [DecidableEq ι] [DecidableEq κ] [ToString K] [LinearOrder K] in
theorem record_rename (session : Session ι K) (group : ActivationGroupKey) (winner : Option ι) :
    (session.rename e).record group (winner.map e) = (session.record group winner).rename e := by
  cases winner with
  | none => rfl
  | some index =>
    ext1
    case groupWinners =>
      funext other
      simp only [record, win, rename, Option.map_some, Function.update_apply]
      split <;> rfl
    all_goals rfl

/-- Two states of a round, of the same session under two numberings. -/
structure Mirrors (e : ι ≃ κ) (state : Session ι K × List (Candidate ι))
    (mirror : Session κ K × List (Candidate κ)) : Prop where
  session : mirror.1 = state.1.rename e
  candidates : mirror.2.Perm (state.2.map (·.rename e))

omit [DecidableEq ι] [DecidableEq κ] in
theorem roundWinner_rename (renames : input.Renames e other)
    (apart : Function.Injective input.key) (same : others.Perm (candidates.map (·.rename e)))
    (session : Session ι K) (group : ActivationGroupKey) :
    (session.rename e).roundWinner other group others =
      (session.roundWinner input group candidates).map e := by
  unfold roundWinner
  simp only [rename]
  cases session.groupWinners group with
  | none => exact groupWinner_rename renames apart same group
  | some winner => rfl

theorem resolveGroup_rename (renames : input.Renames e other)
    (apart : Function.Injective input.key) {state : Session ι K × List (Candidate ι)}
    {mirror : Session κ K × List (Candidate κ)} (mirrors : Mirrors e state mirror)
    (group : ActivationGroupKey) :
    Mirrors e (resolveGroup input state group) (resolveGroup other mirror group) := by
  obtain ⟨session, eligible⟩ := state
  obtain ⟨named, remaining⟩ := mirror
  obtain ⟨rfl, left⟩ := mirrors
  have same := members_rename renames left group
  have empty : (members other group remaining).isEmpty = (members input group eligible).isEmpty := by
    rw [same.isEmpty_eq, List.isEmpty_map]
  simp only [resolveGroup, empty]
  split
  · exact ⟨rfl, left⟩
  · rw [roundWinner_rename renames apart same]
    exact ⟨by rw [rejectLosers_rename same, record_rename], survivors_rename same left _⟩

theorem resolveGroups_rename (renames : input.Renames e other)
    (apart : Function.Injective input.key) {state : Session ι K × List (Candidate ι)}
    {mirror : Session κ K × List (Candidate κ)} (mirrors : Mirrors e state mirror) :
    Mirrors e (state.1.resolveGroups input state.2) (mirror.1.resolveGroups other mirror.2) := by
  unfold resolveGroups
  rw [groupsOf_rename renames mirrors.candidates]
  generalize groupsOf input state.2 = groups
  induction groups generalizing state mirror with
  | nil => exact mirrors
  | cons group rest ih => exact ih (resolveGroup_rename renames apart mirrors group)

/-! ### Admitting -/

omit [DecidableEq ι] [DecidableEq κ] [LinearOrder K] [ToString K] in
theorem activate_rename (renames : input.Renames e other) (session : Session ι K)
    (candidate : Candidate ι) :
    (session.rename e).activate other (candidate.rename e) =
      (session.activate input candidate).rename e := by
  have entry : (session.rename e).entryOf other (candidate.rename e) =
      session.entryOf input candidate := by
    simp only [entryOf, Candidate.rename, renames.key, rename_evidence]
    rfl
  ext1
  case activatedIndices => simp [activate, rename, Candidate.rename]
  case activated =>
    simp only [activate, entry]
    rfl
  case knowledgeBytes =>
    simp only [activate, Candidate.rename, renames.content]
    rfl
  all_goals rfl

omit [DecidableEq ι] [DecidableEq κ] [LinearOrder K] in
theorem probabilityAdmits_rename (renames : input.Renames e other) (index : ι)
    (probability : ActivationProbability) :
    other.probabilityAdmits (e index) probability = input.probabilityAdmits index probability := by
  simp only [Input.probabilityAdmits, renames.key, renames.hashTurn, renames.sha256]

omit [LinearOrder K] in
theorem admitCandidate_rename (renames : input.Renames e other) (session : Session ι K)
    (fragments : List ScanFragment) (candidate : Candidate ι) :
    admitCandidate other (session.rename e, fragments) (candidate.rename e) =
      ((admitCandidate input (session, fragments) candidate).1.rename e,
        (admitCandidate input (session, fragments) candidate).2) := by
  have room : (session.rename e).hasRoom other (e candidate.index) =
      session.hasRoom input candidate.index := by
    simp only [hasRoom, renames.config, renames.content]
    rfl
  have contributed : (session.rename e).fragmentOf other (e candidate.index) =
      session.fragmentOf input candidate.index := by
    simp only [fragmentOf, renames.rule, renames.tables, renames.content]
    rfl
  have named : (candidate.rename e).index = e candidate.index := rfl
  simp only [admitCandidate, named, renames.rule, probabilityAdmits_rename renames, room,
    contributed, activate_rename renames, ← rename_reject]
  split
  · rfl
  · split <;> rfl

omit [LinearOrder K] in
theorem admitEach_rename (renames : input.Renames e other) (session : Session ι K)
    (fragments : List ScanFragment) (candidates : List (Candidate ι)) :
    (candidates.map (·.rename e)).foldl (admitCandidate other) (session.rename e, fragments) =
      ((candidates.foldl (admitCandidate input) (session, fragments)).1.rename e,
        (candidates.foldl (admitCandidate input) (session, fragments)).2) := by
  induction candidates generalizing session fragments with
  | nil => rfl
  | cons candidate rest ih =>
    simp only [List.map_cons, List.foldl_cons]
    rw [admitCandidate_rename renames, ih]

omit [DecidableEq ι] [DecidableEq κ] [ToString K] in
/-- The order of admission is one of keys in the end, so it names each candidate. -/
theorem sorted_rename (renames : input.Renames e other) (apart : Function.Injective input.key)
    (distinct : (candidates.map (·.index)).Nodup)
    (same : others.Perm (candidates.map (·.rename e))) (session : Session ι K) :
    Sorting.sort ((session.rename e).admissionRank other) others =
      (Sorting.sort (session.admissionRank input) candidates).map (·.rename e) := by
  refine Sorting.sort_map ?_ ?_ same
  · intro candidate
    simp only [admissionRank, ordering, Candidate.rename, renames.rule, renames.key,
      rename_evidence]
  · intro left leftIn right rightIn ranks
    have keys : input.key left.index = input.key right.index :=
      congrArg (fun rank => (ofLex rank).2) ranks
    exact List.inj_on_of_nodup_map distinct leftIn rightIn (apart keys)

theorem admitCandidates_rename (renames : input.Renames e other)
    (apart : Function.Injective input.key) (distinct : (candidates.map (·.index)).Nodup)
    (same : others.Perm (candidates.map (·.rename e))) (session : Session ι K) :
    (session.rename e).admitCandidates other others =
      ((session.admitCandidates input candidates).1.rename e,
        (session.admitCandidates input candidates).2) := by
  unfold admitCandidates
  rw [sorted_rename renames apart distinct same]
  exact admitEach_rename renames session [] _

/-! ### The run -/

omit [LinearOrder K] [ToString K] in
theorem proceed_rename (renames : input.Renames e other) (session : Session ι K)
    (fragments : List ScanFragment) :
    (session.rename e).proceed other fragments =
      (session.proceed input fragments).map (rename e) := by
  simp only [proceed, renames.config]
  split
  · rfl
  · by_cases spent : session.level ≥ input.config.maxRecursionSteps
    · have renamed : (session.rename e).level ≥ input.config.maxRecursionSteps := spent
      rw [if_pos spent, if_pos renamed]
      rfl
    · have renamed : ¬ (session.rename e).level ≥ input.config.maxRecursionSteps := spent
      rw [if_neg spent, if_neg renamed]
      exact congrArg Loop.Flow.again
        (rename_ingest renames { session with level := nextLevel session.level } fragments false)

theorem round_rename (renames : input.Renames e other) (apart : Function.Injective input.key)
    (session : Session ι K) :
    (session.rename e).round other = (session.round input).map (rename e) := by
  obtain ⟨collectedSession, collectedCandidates⟩ := rename_collect renames session
  have collected : Mirrors e (session.collect input) ((session.rename e).collect other) :=
    ⟨collectedSession, collectedCandidates⟩
  have resolved := resolveGroups_rename renames apart collected
  have ready := resolveEach_resolved (groupsOf input (session.collect input).2)
    (collect_steps input session).2
  have admitted := admitCandidates_rename renames apart ready.ready.distinct resolved.candidates
    ((session.collect input).1.resolveGroups input (session.collect input).2).1
  have empty : ((session.rename e).collect other).2.isEmpty =
      (session.collect input).2.isEmpty := by
    rw [collectedCandidates.isEmpty_eq, List.isEmpty_map]
  simp only [round, empty, resolved.session]
  split
  · rw [collectedSession, Loop.Flow.map]
  · rw [admitted]
    exact proceed_rename renames _ _

omit [DecidableEq ι] [DecidableEq κ] [LinearOrder K] [ToString K] in
theorem tally_perm {reasons shuffled : List ActivationRejection} (same : shuffled.Perm reasons)
    (tally : ActivationRejection → Option UInt32) :
    shuffled.foldl (fun tally reason =>
        Function.update tally reason (some ((tally reason).getD 0 + 1))) tally =
      reasons.foldl (fun tally reason =>
        Function.update tally reason (some ((tally reason).getD 0 + 1))) tally := by
  apply same.foldl_eq'
  intro first _ second _ tally
  by_cases equal : first = second
  · rw [equal]
  · rw [Function.update_of_ne equal, Function.update_of_ne (Ne.symm equal),
      Function.update_comm equal]

omit [LinearOrder K] [ToString K] in
theorem finish_rename (session : Session ι K) :
    (session.rename e).finish other = session.finish input := by
  have positions := input.indices_perm e other
  have rejected : (other.indices.filterMap (session.rename e).terminal).Perm
      (input.indices.filterMap session.terminal) := by
    refine (positions.filterMap _).trans (List.Perm.of_eq ?_)
    simp [List.filterMap_map, rename]
  have waiting : ((other.indices.filter (session.rename e).isOpen).filterMap
      (session.rename e).deferred).Perm
      ((input.indices.filter session.isOpen).filterMap session.deferred) := by
    refine ((positions.filter _).filterMap _).trans (List.Perm.of_eq ?_)
    simp only [List.filter_map, List.filterMap_map, Function.comp_def, rename_isOpen]
    simp [rename]
  have reasons : ((session.rename e).reasons other).Perm (session.reasons input) :=
    rejected.append waiting
  simp only [finish, tally_perm reasons]
  rfl

end Session

theorem final_rename (renames : input.Renames e other) (apart : Function.Injective input.key)
    (scan : ScanBuffer) : other.final scan = (input.final scan).rename e := by
  obtain ⟨_, _, ends⟩ := (input.start scan).run_ends input
  obtain ⟨_, _, others⟩ := (other.start scan).run_ends other
  have start : other.start scan = (input.start scan).rename e :=
    Session.rename_ingest renames {} scan.fragments true
  have mapped := ends.map (Session.round_rename renames apart)
  rw [← start] at mapped
  exact others.unique mapped

end
end

/-- Candidates in another order are the same candidates under other positions. -/
theorem exists_renaming {candidates shuffled : List (ActivationCandidate K)}
    (distinct : candidates.Nodup) (same : shuffled.Perm candidates) :
    ∃ e : Fin candidates.length ≃ Fin shuffled.length,
      ∀ index, shuffled.get (e index) = candidates.get index := by
  classical
  have members (candidate : ActivationCandidate K) :
      candidate ∈ candidates ↔ candidate ∈ shuffled := same.mem_iff.symm
  let position := distinct.getEquiv candidates
  let carry := Equiv.subtypeEquivRight members
  let place := (same.nodup_iff.mpr distinct).getEquiv shuffled
  refine ⟨position.trans (carry.trans place.symm), fun index => ?_⟩
  exact congrArg Subtype.val (place.apply_symm_apply (carry (position index)))

end Aise.Activation

namespace Aise
open Activation

/-- The outcome of a run does not depend on the order of its candidates. -/
theorem activate_order_independent {K : Type} [LinearOrder K] [ToString K] (tables : CharTables)
    (sha256 : Sha256) (candidates shuffled : List (ActivationCandidate K)) (scan : ScanBuffer)
    (turn : ActivationTurn) (config : ActivationConfig)
    (distinct : (candidates.map (·.key)).Nodup) (same : shuffled.Perm candidates) :
    activate tables sha256 shuffled scan turn config =
      activate tables sha256 candidates scan turn config := by
  obtain ⟨e, entries⟩ := exists_renaming (distinct.of_map _) same
  have renames : Input.Renames e (Input.ofCandidates tables sha256 candidates turn config)
      (Input.ofCandidates tables sha256 shuffled turn config) :=
    ⟨rfl, rfl, rfl, rfl, fun index => congrArg (Entry.new tables config) (entries index)⟩
  have apart : Function.Injective (Input.ofCandidates tables sha256 candidates turn config).key := by
    intro left right keys
    have equal : candidates.get left = candidates.get right :=
      List.inj_on_of_nodup_map distinct (List.get_mem _ _) (List.get_mem _ _) keys
    exact (distinct.of_map _).injective_get equal
  unfold activate
  simp only [final_rename renames apart]
  exact Session.finish_rename _

theorem reversed_copies_activate_alike :
    ((Sample.copies 5).map (·.key)).Nodup ∧ (Sample.copies 5).reverse.Perm (Sample.copies 5) ∧
      activate Sample.ascii Sample.zeros (Sample.copies 5).reverse (.new []) Sample.turn {} =
        activate Sample.ascii Sample.zeros (Sample.copies 5) (.new []) Sample.turn {} :=
  ⟨by decide, List.reverse_perm _,
    activate_order_independent _ _ _ _ _ _ _ (by decide) (List.reverse_perm _)⟩

end Aise
