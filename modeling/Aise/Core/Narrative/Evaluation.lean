import Mathlib.Order.Monotone.Basic
import Aise.Core.Narrative.Plan

/-! Conditions under answers that are still to come. `Unknown` says nothing yet: what is known
stays true when more is known, and once every leaf is answered a condition has its classical
value. -/
namespace Aise

namespace Truth

/-- The order of information: an unknown value can still become any other. -/
instance : PartialOrder Truth where
  le before after := before = .unknown ∨ before = after
  le_refl _ := .inr rfl
  le_trans first second third := by
    rintro (unknown | rfl) later
    · exact .inl unknown
    · exact later
  le_antisymm first second := by
    rintro (rfl | rfl) later
    · rcases later with rfl | same
      · rfl
      · exact same.symm
    · rfl

theorem unknown_le (value : Truth) : .unknown ≤ value := .inl rfl

/-- A value that is known is final. -/
theorem eq_of_le {before after : Truth} (le : before ≤ after) (known : before ≠ .unknown) :
    after = before :=
  (le.resolve_left known).symm

theorem negate_mono : Monotone negate := by
  rintro first second (rfl | rfl)
  · exact unknown_le _
  · exact le_rfl

theorem negate_fromBool (value : Bool) : (fromBool value).negate = fromBool (!value) := by
  cases value with
  | false => rfl
  | true => rfl

/-! What the loops come to. The running result of `all` is never `Unsatisfied`. -/

theorem allFrom_eq_unsatisfied_iff {result : Truth} (open_ : result ≠ .unsatisfied)
    {values : List Truth} : allFrom result values = .unsatisfied ↔ .unsatisfied ∈ values := by
  induction values generalizing result with
  | nil => simp [allFrom, open_]
  | cons value rest ih =>
    cases value with
    | satisfied => simp [allFrom, ih open_]
    | unsatisfied => simp [allFrom]
    | unknown => simp [allFrom, ih]

theorem allFrom_eq_satisfied_iff {result : Truth} {values : List Truth} :
    allFrom result values = .satisfied ↔
      result = .satisfied ∧ ∀ value ∈ values, value = .satisfied := by
  induction values generalizing result with
  | nil => simp [allFrom]
  | cons value rest ih =>
    cases value with
    | satisfied => simp [allFrom, ih]
    | unsatisfied => simp [allFrom]
    | unknown => simp [allFrom, ih]

theorem all_eq_unsatisfied_iff {values : List Truth} :
    all values = .unsatisfied ↔ .unsatisfied ∈ values :=
  allFrom_eq_unsatisfied_iff (by decide)

theorem all_eq_satisfied_iff {values : List Truth} :
    all values = .satisfied ↔ ∀ value ∈ values, value = .satisfied := by
  rw [all, allFrom_eq_satisfied_iff]
  exact and_iff_right rfl

/-- One loop is the other with the two known values exchanged. -/
theorem anyFrom_eq (result : Truth) (values : List Truth) :
    anyFrom result values = (allFrom result.negate (values.map negate)).negate := by
  induction values generalizing result with
  | nil => cases result <;> rfl
  | cons value rest ih =>
    cases value with
    | satisfied => rfl
    | unsatisfied => exact ih result
    | unknown => exact ih .unknown

theorem any_eq (values : List Truth) : any values = (all (values.map negate)).negate :=
  anyFrom_eq .unsatisfied values

theorem all_mono {values others : List Truth} (le : List.Forall₂ (· ≤ ·) values others) :
    all values ≤ all others := by
  cases known : all values with
  | unknown => exact unknown_le _
  | satisfied =>
    rw [all_eq_satisfied_iff] at known
    refine .inr (all_eq_satisfied_iff.mpr ?_).symm
    intro other member
    obtain ⟨value, among, before⟩ := Result.exists_of_forall₂ le member
    rw [known value among] at before
    exact eq_of_le before (by decide)
  | unsatisfied =>
    rw [all_eq_unsatisfied_iff] at known
    refine .inr (all_eq_unsatisfied_iff.mpr ?_).symm
    induction le with
    | nil => exact absurd known List.not_mem_nil
    | cons first _ ih =>
      rcases List.mem_cons.mp known with here | later
      · subst here
        rw [eq_of_le first (by decide)]
        exact List.mem_cons_self
      · exact List.mem_cons_of_mem _ (ih later)

theorem any_mono {values others : List Truth} (le : List.Forall₂ (· ≤ ·) values others) :
    any values ≤ any others := by
  rw [any_eq, any_eq]
  apply negate_mono
  apply all_mono
  rw [List.forall₂_map_left_iff, List.forall₂_map_right_iff]
  exact le.imp fun _ _ before => negate_mono before

theorem all_fromBool (values : List Bool) :
    all (values.map fromBool) = fromBool (values.all id) := by
  induction values with
  | nil => rfl
  | cons value rest ih =>
    cases value with
    | false => rfl
    | true => exact ih

theorem any_fromBool (values : List Bool) :
    any (values.map fromBool) = fromBool (values.any id) := by
  induction values with
  | nil => rfl
  | cons value rest ih =>
    cases value with
    | false => exact ih
    | true => rfl

end Truth

/-- The answer to a question; one that was not asked is unknown. -/
def NarrativeEvidence.answer (input : NarrativeEvidence) (conditionId : NarrativeConditionId) :
    Truth :=
  input.semanticResults[conditionId]?.getD .unknown

/-- The second results differ from the first only where these are unknown or missing, and say
there what is so. -/
def Settles (first second : BTreeMap .narrativeCondition Truth) : Prop :=
  ∀ conditionId : NarrativeConditionId, second[conditionId]? = first[conditionId]? ∨
    first[conditionId]?.getD .unknown = .unknown ∧
      (second[conditionId]? = some .satisfied ∨ second[conditionId]? = some .unsatisfied)

theorem Settles.answer_le {first second : BTreeMap .narrativeCondition Truth}
    (settles : Settles first second) (turn : TurnNumber) (conditionId : NarrativeConditionId) :
    (⟨turn, first⟩ : NarrativeEvidence).answer conditionId ≤
      (⟨turn, second⟩ : NarrativeEvidence).answer conditionId := by
  rcases settles conditionId with same | ⟨unknown, _⟩
  · exact .inr (congrArg (·.getD .unknown) same.symm)
  · exact .inl unknown

namespace NarrativeCondition

mutual
theorem evaluate_mono (first second : NarrativeEvidence) (turn : first.turn = second.turn)
    (le : ∀ conditionId, first.answer conditionId ≤ second.answer conditionId)
    (state : NarrativeState) : (condition : NarrativeCondition) →
    condition.evaluate state first ≤ condition.evaluate state second
  | .all conditions => by
    simp only [evaluate]
    exact Truth.all_mono (evaluateEach_mono first second turn le state conditions)
  | .any conditions => by
    simp only [evaluate]
    exact Truth.any_mono (evaluateEach_mono first second turn le state conditions)
  | .not condition => by
    simp only [evaluate]
    exact Truth.negate_mono (evaluate_mono first second turn le state condition)
  | .semantic conditionId _ => by
    simp only [evaluate]
    exact le conditionId
  | .turnReaches _ => by
    simp only [evaluate, turn]
    exact le_rfl
  | .storyStarted | .nodeIs _ _ => by
    simp only [evaluate]
    exact le_rfl

theorem evaluateEach_mono (first second : NarrativeEvidence) (turn : first.turn = second.turn)
    (le : ∀ conditionId, first.answer conditionId ≤ second.answer conditionId)
    (state : NarrativeState) : (conditions : List NarrativeCondition) →
    List.Forall₂ (· ≤ ·) (evaluateEach state first conditions)
      (evaluateEach state second conditions)
  | [] => .nil
  | condition :: rest =>
    .cons (evaluate_mono first second turn le state condition)
      (evaluateEach_mono first second turn le state rest)
end

mutual
/-- The Boolean value of a condition, a leaf being true when it is satisfied. -/
def classical (state : NarrativeState) (input : NarrativeEvidence) : NarrativeCondition → Bool
  | .all conditions => (classicalEach state input conditions).all id
  | .any conditions => (classicalEach state input conditions).any id
  | .not condition => !classical state input condition
  | .storyStarted => true
  | .turnReaches turn => input.turn.value ≥ turn
  | .nodeIs nodeId status => state.status nodeId = status
  | .semantic conditionId _ => input.semanticResults[conditionId]? = some .satisfied

def classicalEach (state : NarrativeState) (input : NarrativeEvidence) :
    List NarrativeCondition → List Bool
  | [] => []
  | condition :: rest => classical state input condition :: classicalEach state input rest
end

/-- Every leaf has an answer that is not unknown. -/
def Answered (input : NarrativeEvidence) (leaves : List (NarrativeConditionId × BoundedText)) :
    Prop :=
  ∀ leaf ∈ leaves, input.semanticResults[leaf.1]? = some .satisfied ∨
    input.semanticResults[leaf.1]? = some .unsatisfied

mutual
theorem evaluate_eq_classical {input : NarrativeEvidence} (state : NarrativeState) :
    (condition : NarrativeCondition) → Answered input condition.leaves →
    condition.evaluate state input = Truth.fromBool (condition.classical state input)
  | .all conditions, answered => by
    rw [evaluate, classical, evaluateEach_eq_classical state conditions answered]
    exact Truth.all_fromBool _
  | .any conditions, answered => by
    rw [evaluate, classical, evaluateEach_eq_classical state conditions answered]
    exact Truth.any_fromBool _
  | .not condition, answered => by
    rw [evaluate, classical, evaluate_eq_classical state condition answered]
    exact Truth.negate_fromBool _
  | .semantic conditionId criterion, answered => by
    rw [evaluate, classical]
    rcases answered (conditionId, criterion) (by simp [leaves]) with yes | no
    · rw [yes]
      rfl
    · rw [no]
      rfl
  | .storyStarted, _ => by
    rw [evaluate, classical]
    rfl
  | .turnReaches _, _ | .nodeIs _ _, _ => by
    rw [evaluate, classical]

theorem evaluateEach_eq_classical {input : NarrativeEvidence} (state : NarrativeState) :
    (conditions : List NarrativeCondition) → Answered input (leavesEach conditions) →
    evaluateEach state input conditions = (classicalEach state input conditions).map Truth.fromBool
  | [], _ => rfl
  | condition :: rest, answered => by
    rw [leavesEach] at answered
    have first := evaluate_eq_classical state condition fun leaf member =>
      answered leaf (List.mem_append_left _ member)
    have others := evaluateEach_eq_classical state rest fun leaf member =>
      answered leaf (List.mem_append_right _ member)
    rw [evaluateEach, classicalEach, List.map_cons, first, others]
end

/-- More answers never take back what a condition was found to be, and when all of its leaves
are answered it is what Boolean logic makes of them. -/
theorem evaluate_informed (condition : NarrativeCondition) (state : NarrativeState)
    (turn : TurnNumber) (first second : BTreeMap .narrativeCondition Truth) :
    (Settles first second → ∀ value, value = .satisfied ∨ value = .unsatisfied →
      condition.evaluate state ⟨turn, first⟩ = value →
        condition.evaluate state ⟨turn, second⟩ = value) ∧
    (Answered ⟨turn, first⟩ condition.leaves →
      condition.evaluate state ⟨turn, first⟩ =
        Truth.fromBool (condition.classical state ⟨turn, first⟩)) := by
  refine ⟨fun settles value definite found => ?_, evaluate_eq_classical state condition⟩
  have le := evaluate_mono ⟨turn, first⟩ ⟨turn, second⟩ rfl (settles.answer_le turn) state
    condition
  subst found
  refine Truth.eq_of_le le fun unknown => ?_
  rcases definite with yes | no
  · exact absurd (unknown.symm.trans yes) (by decide)
  · exact absurd (unknown.symm.trans no) (by decide)

end NarrativeCondition

namespace Sample

/-- The lamp burns and the door is shut. -/
def quietHouse : NarrativeCondition :=
  .all [.semantic lampLit ⟨"The lamp is lit."⟩, .not (.semantic doorOpen ⟨"The door is open."⟩)]

def doorOpened : BTreeMap .narrativeCondition Truth :=
  (∅ : BTreeMap .narrativeCondition Truth).insert doorOpen .satisfied

def doorOpenedAndLit : BTreeMap .narrativeCondition Truth := doorOpened.insert lampLit .satisfied

/-- The open door settles the condition, whatever is said of the lamp. -/
theorem door_opened_informed :
    quietHouse.evaluate {} ⟨⟨1⟩, doorOpenedAndLit⟩ = .unsatisfied ∧
      quietHouse.evaluate {} ⟨⟨1⟩, doorOpenedAndLit⟩ =
        Truth.fromBool (quietHouse.classical {} ⟨⟨1⟩, doorOpenedAndLit⟩) := by
  have informed := NarrativeCondition.evaluate_informed quietHouse {} ⟨1⟩
  have settles : Settles doorOpened doorOpenedAndLit := by
    intro conditionId
    simp only [doorOpenedAndLit, Std.ExtTreeMap.getElem?_insert]
    split
    next same =>
      obtain rfl := Std.LawfulEqCmp.eq_of_compare same
      exact .inr ⟨rfl, .inl rfl⟩
    · exact .inl rfl
  refine ⟨(informed doorOpened doorOpenedAndLit).1 settles .unsatisfied (.inr rfl) rfl,
    (informed doorOpenedAndLit doorOpenedAndLit).2 ?_⟩
  intro leaf member
  simp only [quietHouse, NarrativeCondition.leaves, NarrativeCondition.leavesEach, List.cons_append,
    List.nil_append, List.mem_cons, List.not_mem_nil, or_false] at member
  rcases member with rfl | rfl
  · exact .inl rfl
  · exact .inl rfl

end Sample
end Aise
