import Aise.Lib.OrdMap

/-! Sorting items into groups by a key. A group has the items with its key in their order, and all the
groups together have the items that there were. -/
namespace Grouping
open Std
variable {α K : Type*} [Ord K] [TransOrd K] [LawfulEqOrd K] [DecidableEq K] {key : α → K}

/-- An item goes to the end of its group. -/
def push (key : α → K) (groups : ExtTreeMap K (List α)) (item : α) : ExtTreeMap K (List α) :=
  groups.insert (key item) ((groups[key item]?).getD [] ++ [item])

def group (key : α → K) (items : List α) : ExtTreeMap K (List α) := items.foldl (push key) ∅

theorem getD_group (items : List α) (k : K) :
    ((group key items)[k]?).getD [] = items.filter fun item => key item = k := by
  induction items using List.reverseRecOn with
  | nil => simp [group]
  | append_singleton items last ih =>
    rw [group, List.foldl_append, List.foldl_cons, List.foldl_nil, ← group, push, OrdMap.get_insert,
      List.filter_append]
    split
    · rename_i same
      subst same
      rw [Option.getD_some, ih]
      simp
    · rename_i other
      rw [ih]
      simp [other]

omit [DecidableEq K] in
/-- There is a group for every key of an item, and for no other. -/
theorem mem_group (items : List α) (k : K) : k ∈ group key items ↔ k ∈ items.map key := by
  induction items using List.reverseRecOn with
  | nil => simp [group]
  | append_singleton items last ih =>
    rw [group, List.foldl_append, List.foldl_cons, List.foldl_nil, ← group, push, ExtTreeMap.mem_insert,
      Std.compare_eq_iff_eq, ih, List.map_append, List.mem_append, List.map_singleton, List.mem_singleton]
    constructor
    · rintro (here | before)
      · exact .inr here.symm
      · exact .inl before
    · rintro (before | here)
      · exact .inr before
      · exact .inl here.symm

theorem get_group {items : List α} {k : K} {members : List α}
    (found : (group key items)[k]? = some members) : members = items.filter fun item => key item = k := by
  rw [← getD_group, found, Option.getD_some]

omit [Ord K] [TransOrd K] [LawfulEqOrd K] in
/-- Parting items by distinct keys that cover them loses none and adds none. -/
theorem flatMap_filter_perm (keys : List K) (distinct : keys.Nodup) (items : List α)
    (covered : ∀ item ∈ items, key item ∈ keys) :
    (keys.flatMap fun k => items.filter fun item => key item = k).Perm items := by
  induction keys generalizing items with
  | nil =>
    cases items with
    | nil => exact .nil
    | cons item rest => exact absurd (covered item List.mem_cons_self) List.not_mem_nil
  | cons k keys ih =>
    obtain ⟨fresh, distinct⟩ := List.nodup_cons.mp distinct
    have rest := ih distinct (items.filter fun item => !decide (key item = k)) (by
      intro item member
      obtain ⟨inside, other⟩ := List.mem_filter.mp member
      rcases List.mem_cons.mp (covered item inside) with here | later
      · simp [here] at other
      · exact later)
    have same : (keys.flatMap fun other => (items.filter fun item => !decide (key item = k)).filter
        fun item => key item = other) =
          keys.flatMap fun other => items.filter fun item => key item = other := by
      refine List.flatMap_congr fun other member => ?_
      rw [List.filter_filter]
      refine List.filter_congr fun item _ => ?_
      by_cases here : key item = other
      · have different : key item ≠ k := fun again => fresh (again ▸ here ▸ member)
        simp [here, here ▸ different]
      · simp [here]
    rw [same] at rest
    rw [List.flatMap_cons]
    exact (rest.append_left _).trans (List.filter_append_perm _ items)

/-- The groups have the items between them. -/
theorem flatMap_group_perm (items : List α) :
    ((group key items).toList.flatMap (·.2)).Perm items := by
  have parts : (group key items).toList.flatMap (·.2) =
      (group key items).keys.flatMap fun k => items.filter fun item => key item = k := by
    rw [← ExtTreeMap.map_fst_toList_eq_keys, List.flatMap_map]
    refine List.flatMap_congr fun entry member => ?_
    exact get_group (ExtTreeMap.mem_toList_iff_getElem?_eq_some.mp member)
  rw [parts]
  refine flatMap_filter_perm _ ExtTreeMap.nodup_keys items fun item member => ?_
  exact ExtTreeMap.mem_keys.mpr ((mem_group items _).mpr (List.mem_map_of_mem member))

end Grouping
