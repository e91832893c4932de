import Mathlib.Data.List.Infix
import Mathlib.Data.List.TakeDrop
import Mathlib.Logic.Relation
import Mathlib.Tactic.Common

/-! Occurrences of one list in another, and what a search from the left finds of them when it
goes on behind each occurrence: `match_indices` of a Rust `str`. -/
namespace Occurrence
variable {α β : Type*} {needle text : List α}

/-- The needle stands behind the first `position` items. -/
def At (needle text : List α) (position : Nat) : Prop := needle <+: text.drop position

instance [DecidableEq α] (position : Nat) : Decidable (At needle text position) :=
  inferInstanceAs (Decidable (needle <+: text.drop position))

theorem At.infix {position : Nat} (here : At needle text position) : needle <:+: text :=
  here.isInfix.trans (List.drop_suffix position text).isInfix

theorem not_at_of_length_le (nonempty : needle ≠ []) {position : Nat}
    (behind : text.length ≤ position) : ¬ At needle text position := by
  intro here
  rw [At, List.drop_eq_nil_of_le behind, List.prefix_nil] at here
  exact nonempty here

theorem At.inside (nonempty : needle ≠ []) {position : Nat} (here : At needle text position) :
    position + needle.length ≤ text.length := by
  have length := here.length_le
  have := List.length_pos_of_ne_nil nonempty
  rw [List.length_drop] at length
  omega

theorem at_append {front : List α} {position : Nat} :
    At needle (front ++ text) (front.length + position) ↔ At needle text position := by
  rw [At, List.drop_append, List.drop_eq_nil_of_le (Nat.le_add_right _ _), List.nil_append,
    Nat.add_sub_cancel_left, At]

theorem At.getElem? {position place : Nat} (here : At needle text position)
    (inside : place < needle.length) : text[position + place]? = needle[place]? := by
  obtain ⟨rest, split⟩ := here
  rw [← List.getElem?_drop, ← split, List.getElem?_append_left inside]

/-! ### What a search from the left finds -/

section
variable [BEq α]

/-- The positions that `match_indices` yields; `skip` items still belong to the last one. -/
def matchIndicesFrom (needle : List α) : (skip offset : Nat) → List α → List Nat
  | _, _, [] => []
  | skip + 1, offset, _ :: rest => matchIndicesFrom needle skip (offset + 1) rest
  | 0, offset, item :: rest =>
    if needle.isPrefixOf (item :: rest) then
      offset :: matchIndicesFrom needle (needle.length - 1) (offset + 1) rest
    else matchIndicesFrom needle 0 (offset + 1) rest

def matchIndices (needle text : List α) : List Nat := matchIndicesFrom needle 0 0 text

end

/-- The search goes on behind an occurrence, and otherwise one item further. -/
def Step (needle text : List α) (position next : Nat) : Prop :=
  At needle text position ∧ next = position + needle.length ∨
    ¬ At needle text position ∧ next = position + 1

/-- An occurrence the search comes upon. -/
def Found (needle text : List α) (position : Nat) : Prop :=
  Relation.ReflTransGen (Step needle text) 0 position ∧ At needle text position

/-- An occurrence found before reaches over this position. -/
def Hidden (needle text : List α) (position : Nat) : Prop :=
  ∃ earlier, Found needle text earlier ∧ earlier < position ∧
    position < earlier + needle.length

theorem Step.unique {position next other : Nat} (step : Step needle text position next)
    (second : Step needle text position other) : next = other := by
  rcases step with ⟨here, rfl⟩ | ⟨absent, rfl⟩ <;>
    rcases second with ⟨also, rfl⟩ | ⟨not, rfl⟩
  · rfl
  · exact absurd here not
  · exact absurd also absent
  · rfl

theorem Step.le {position next : Nat} (step : Step needle text position next) :
    position ≤ next := by
  rcases step with ⟨_, rfl⟩ | ⟨_, rfl⟩ <;> omega

theorem le_of_steps {position later : Nat}
    (steps : Relation.ReflTransGen (Step needle text) position later) : position ≤ later := by
  induction steps with
  | refl => exact le_rfl
  | tail _ step ih => exact ih.trans step.le

/-- From an occurrence the search only comes to what is behind it. -/
theorem steps_from_at {position later : Nat} (here : At needle text position) :
    Relation.ReflTransGen (Step needle text) position later ↔
      position = later ∨
        Relation.ReflTransGen (Step needle text) (position + needle.length) later := by
  rw [Relation.ReflTransGen.cases_head_iff]
  constructor
  · rintro (rfl | ⟨next, step, steps⟩)
    · exact .inl rfl
    · rw [step.unique (.inl ⟨here, rfl⟩)] at steps
      exact .inr steps
  · rintro (rfl | steps)
    · exact .inl rfl
    · exact .inr ⟨_, .inl ⟨here, rfl⟩, steps⟩

theorem steps_from_absent {position later : Nat} (absent : ¬ At needle text position)
    (there : At needle text later) :
    Relation.ReflTransGen (Step needle text) position later ↔
      Relation.ReflTransGen (Step needle text) (position + 1) later := by
  constructor
  · intro steps
    rcases Relation.ReflTransGen.cases_head_iff.mp steps with rfl | ⟨next, step, rest⟩
    · exact absurd there absent
    · rwa [step.unique (.inr ⟨absent, rfl⟩)] at rest
  · exact .head (.inr ⟨absent, rfl⟩)

/-- Occurrences found do not overlap. -/
theorem Found.apart {position later : Nat} (first : Found needle text position)
    (second : Found needle text later) (before : position < later) :
    position + needle.length ≤ later := by
  have unique : Relator.RightUnique (Step needle text) := fun _ _ _ => Step.unique
  rcases Relation.ReflTransGen.total_of_right_unique unique first.1 second.1 with steps | steps
  · rcases (steps_from_at first.2).mp steps with rfl | behind
    · omega
    · exact le_of_steps behind
  · exact absurd (le_of_steps steps) (by omega)

theorem Found.not_hidden {position : Nat} (found : Found needle text position) :
    ¬ Hidden needle text position := by
  rintro ⟨earlier, first, before, within⟩
  have := first.apart found before
  omega

/-- The search comes to every position that no occurrence found before reaches over. -/
theorem reached_or_hidden (nonempty : needle ≠ []) (position : Nat) :
    Relation.ReflTransGen (Step needle text) 0 position ∨ Hidden needle text position := by
  have length := List.length_pos_of_ne_nil nonempty
  induction position with
  | zero => exact .inl .refl
  | succ position ih =>
    rcases ih with reached | ⟨earlier, found, before, within⟩
    · by_cases here : At needle text position
      · by_cases more : position + 1 < position + needle.length
        · exact .inr ⟨position, ⟨reached, here⟩, by omega, more⟩
        · exact .inl (reached.tail (.inl ⟨here, by omega⟩))
      · exact .inl (reached.tail (.inr ⟨here, rfl⟩))
    · by_cases more : position + 1 < earlier + needle.length
      · exact .inr ⟨earlier, found, by omega, more⟩
      · exact .inl (found.1.tail (.inl ⟨found.2, by omega⟩))

/-- An occurrence is found unless one found before reaches over it. -/
theorem found_iff (nonempty : needle ≠ []) {position : Nat} :
    Found needle text position ↔ At needle text position ∧ ¬ Hidden needle text position := by
  constructor
  · intro found
    exact ⟨found.2, found.not_hidden⟩
  · rintro ⟨here, seen⟩
    exact ⟨(reached_or_hidden nonempty position).resolve_right seen, here⟩

/-- Two occurrences that overlap shift the needle onto itself. -/
theorem At.overlap {earlier position : Nat} (first : At needle text earlier)
    (second : At needle text position) (before : earlier ≤ position) :
    needle.drop (position - earlier) <+: needle := by
  have shifted : needle.drop (position - earlier) <+: text.drop position := by
    have dropped := List.IsPrefix.drop first (position - earlier)
    rwa [List.drop_drop, Nat.add_sub_cancel' before] at dropped
  exact List.prefix_of_prefix_length_le shifted second (by simp)

section
variable [BEq α] [LawfulBEq α]

theorem mem_matchIndicesFrom (nonempty : needle ≠ []) (front rest : List α) (skip : Nat)
    {position : Nat} :
    position ∈ matchIndicesFrom needle skip front.length rest ↔
      Relation.ReflTransGen (Step needle (front ++ rest)) (front.length + skip) position ∧
        At needle (front ++ rest) position := by
  have length := List.length_pos_of_ne_nil nonempty
  induction rest generalizing front skip with
  | nil =>
    simp only [matchIndicesFrom, List.not_mem_nil, List.append_nil, false_iff, not_and]
    intro steps
    exact not_at_of_length_le nonempty (by have := le_of_steps steps; omega)
  | cons item rest ih =>
    have later (skip : Nat) :
        position ∈ matchIndicesFrom needle skip (front.length + 1) rest ↔
          Relation.ReflTransGen (Step needle (front ++ item :: rest)) (front.length + 1 + skip)
            position ∧ At needle (front ++ item :: rest) position := by
      simpa using ih (front ++ [item]) skip
    have standing : At needle (front ++ item :: rest) front.length ↔
        needle.isPrefixOf (item :: rest) := by
      rw [At, List.drop_append_length, List.isPrefixOf_iff_prefix]
    cases skip with
    | succ skip =>
      rw [matchIndicesFrom, later, Nat.add_assoc, Nat.add_comm 1 skip]
    | zero =>
      simp only [matchIndicesFrom, Nat.add_zero]
      split
      next here =>
        rw [List.mem_cons, later, steps_from_at (standing.mpr here),
          show front.length + 1 + (needle.length - 1) = front.length + needle.length by omega,
          or_and_right]
        constructor
        · rintro (rfl | behind)
          · exact .inl ⟨rfl, standing.mpr here⟩
          · exact .inr behind
        · rintro (⟨rfl, _⟩ | behind)
          · exact .inl rfl
          · exact .inr behind
      next absent =>
        rw [later, Nat.add_zero]
        refine and_congr_left fun there => (steps_from_absent ?_ there).symm
        exact fun here => absent (standing.mp here)

theorem mem_matchIndices_iff (nonempty : needle ≠ []) {position : Nat} :
    position ∈ matchIndices needle text ↔ Found needle text position :=
  mem_matchIndicesFrom nonempty [] text 0

end

/-- A list that starts a longer one with an item in front repeats this item. -/
theorem eq_of_prefix_cons {item : α} {rest : List α}
    (starts : needle <+: item :: (needle ++ rest)) :
    ∀ other ∈ needle, other = item := by
  induction needle with
  | nil => simp
  | cons first others ih =>
    obtain ⟨rfl, behind⟩ := List.cons_prefix_cons.mp starts
    intro other member
    rcases List.mem_cons.mp member with rfl | later
    · rfl
    · exact ih behind other later

/-! ### How many find room -/

/-- The text holds this many occurrences that do not overlap. -/
inductive Room (needle : List α) : Nat → List α → Prop
  | none (text : List α) : Room needle 0 text
  | more (front : List α) {count : Nat} {rest : List α} (room : Room needle count rest) :
      Room needle (count + 1) (front ++ (needle ++ rest))

namespace Room
variable {count : Nat}

theorem append_left (room : Room needle count text) (front : List α) :
    Room needle count (front ++ text) := by
  cases room with
  | none => exact .none _
  | more between room =>
    rw [← List.append_assoc]
    exact .more (front ++ between) room

theorem of_suffix {rest : List α} (room : Room needle count rest) (suffix_ : rest <:+ text) :
    Room needle count text := by
  obtain ⟨front, rfl⟩ := suffix_
  exact room.append_left front

theorem flatMap (f : α → List β) (room : Room needle count text) :
    Room (needle.flatMap f) count (text.flatMap f) := by
  induction room with
  | none => exact .none _
  | more front _ ih =>
    rw [List.flatMap_append, List.flatMap_append]
    exact .more _ ih

theorem one_iff : Room needle 1 text ↔ needle <:+: text := by
  constructor
  · rintro ⟨⟩
    next front rest _ => exact ⟨front, rest, List.append_assoc ..⟩
  · rintro ⟨front, rest, rfl⟩
    rw [List.append_assoc]
    exact .more front (.none rest)

theorem of_le {fewer : Nat} (room : Room needle count text) (le : fewer ≤ count) :
    Room needle fewer text := by
  induction room generalizing fewer with
  | none =>
    obtain rfl := Nat.le_zero.mp le
    exact .none _
  | more front _ ih =>
    cases fewer with
    | zero => exact .none _
    | succ fewer => exact .more front (ih (Nat.le_of_succ_le_succ le))

/-- Taking the first occurrence leaves room for the others. -/
theorem behind (room : Room needle (count + 1) text) (here : At needle text 0) :
    Room needle count (text.drop needle.length) := by
  cases room with
  | more front room =>
    refine room.of_suffix ?_
    rw [← List.append_assoc, List.drop_append_of_le_length (by simp)]
    exact List.suffix_append _ _

theorem further {item : α} (room : Room needle count (item :: text))
    (absent : ¬ At needle (item :: text) 0) : Room needle count text := by
  generalize whole : item :: text = longer at room absent
  cases room with
  | none => exact .none _
  | more front room =>
    cases front with
    | nil => exact absurd (List.prefix_append needle _) absent
    | cons first front =>
      obtain ⟨_, rfl⟩ := List.cons.inj whole
      exact .more front room

theorem eq_zero_of_nil (nonempty : needle ≠ []) (room : Room needle count []) : count = 0 := by
  generalize whole : ([] : List α) = empty at room
  cases room with
  | none => rfl
  | more front room => simp [nonempty] at whole

end Room

/-- Behind the first item the rest of an occurrence is one item shorter. -/
theorem drop_pred (nonempty : needle ≠ []) (item : α) (rest : List α) :
    rest.drop (needle.length - 1) = (item :: rest).drop needle.length := by
  obtain ⟨first, others, rfl⟩ := List.exists_cons_of_ne_nil nonempty
  rfl

section
variable [BEq α] [LawfulBEq α]

/-- No choice of occurrences that do not overlap is larger than the one from the left. -/
theorem Room.le_length (nonempty : needle ≠ []) {count : Nat} (skip offset : Nat)
    (room : Room needle count (text.drop skip)) :
    count ≤ (matchIndicesFrom needle skip offset text).length := by
  induction text generalizing count skip offset with
  | nil =>
    rw [List.drop_nil] at room
    rw [room.eq_zero_of_nil nonempty]
    exact Nat.zero_le _
  | cons item rest ih =>
    cases skip with
    | succ skip => exact ih skip (offset + 1) room
    | zero =>
      simp only [matchIndicesFrom]
      split
      next here =>
        cases count with
        | zero => exact Nat.zero_le _
        | succ count =>
          refine Nat.succ_le_succ (ih _ _ ?_)
          rw [drop_pred nonempty item]
          exact room.behind (List.isPrefixOf_iff_prefix.mp here)
      next absent =>
        refine ih 0 _ (room.further fun here => absent ?_)
        exact List.isPrefixOf_iff_prefix.mpr here

theorem room_matchIndicesFrom (nonempty : needle ≠ []) (skip offset : Nat) :
    Room needle (matchIndicesFrom needle skip offset text).length (text.drop skip) := by
  induction text generalizing skip offset with
  | nil => cases skip <;> exact .none _
  | cons item rest ih =>
    cases skip with
    | succ skip => exact ih skip (offset + 1)
    | zero =>
      simp only [matchIndicesFrom]
      split
      next here =>
        obtain ⟨behind, split⟩ := List.isPrefixOf_iff_prefix.mp here
        have others := ih (needle.length - 1) (offset + 1)
        rw [drop_pred nonempty item, ← split, List.drop_append_length] at others
        rw [List.drop_zero, ← split]
        exact .more [] others
      next absent => exact (ih 0 (offset + 1)).append_left [item]

theorem room_iff (nonempty : needle ≠ []) {count : Nat} :
    Room needle count text ↔ count ≤ (matchIndices needle text).length := by
  constructor
  · exact Room.le_length nonempty 0 0
  · exact (room_matchIndicesFrom nonempty 0 0).of_le

end

end Occurrence
