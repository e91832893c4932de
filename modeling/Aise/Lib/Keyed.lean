import Mathlib.Data.List.Nodup

/-! Folding a list of keyed edits over a store. Every edit acts on what is stored
under one key; when no key is edited twice, the store read at a key shows the
effect of that key's own edit, whatever the other edits do. -/
namespace Keyed
variable {Op K S V : Type*} [DecidableEq K] {key : Op → K} {effect : Op → V → V}
  {apply : S → Op → S} {look : S → K → V}

/-- An edit changes what is read at its own key and nowhere else. -/
def Pointwise (key : Op → K) (effect : Op → V → V) (apply : S → Op → S) (look : S → K → V) :
    Prop :=
  ∀ s op k, look (apply s op) k = if key op = k then effect op (look s k) else look s k

theorem look_of_not_mem (pointwise : Pointwise key effect apply look) {ops : List Op}
    (absent : k ∉ ops.map key) : look (ops.foldl apply s) k = look s k := by
  induction ops generalizing s with
  | nil => rfl
  | cons op ops ih =>
    simp only [List.map_cons, List.mem_cons, not_or] at absent
    rw [List.foldl_cons, ih absent.2, pointwise, if_neg (Ne.symm absent.1)]

theorem look_of_mem (pointwise : Pointwise key effect apply look) {ops : List Op}
    (distinct : (ops.map key).Nodup) (member : op ∈ ops) :
    look (ops.foldl apply s) (key op) = effect op (look s (key op)) := by
  induction ops generalizing s with
  | nil => contradiction
  | cons first rest ih =>
    obtain ⟨fresh, distinct⟩ := List.nodup_cons.mp distinct
    rcases List.mem_cons.mp member with rfl | later
    · rw [List.foldl_cons, look_of_not_mem pointwise fresh, pointwise, if_pos rfl]
    · have different : key first ≠ key op := fun same =>
        fresh (same ▸ List.mem_map_of_mem later)
      rw [List.foldl_cons, ih distinct later, pointwise, if_neg different]

/-- What a key reads after the whole list is what one edit, or none, leaves there. -/
theorem look_cases (pointwise : Pointwise key effect apply look) {ops : List Op}
    (distinct : (ops.map key).Nodup) (s : S) (k : K) :
    (k ∉ ops.map key ∧ look (ops.foldl apply s) k = look s k) ∨
      ∃ op ∈ ops, key op = k ∧ look (ops.foldl apply s) k = effect op (look s k) := by
  by_cases member : k ∈ ops.map key
  · obtain ⟨op, inside, rfl⟩ := List.mem_map.mp member
    exact .inr ⟨op, inside, rfl, look_of_mem pointwise distinct inside⟩
  · exact .inl ⟨member, look_of_not_mem pointwise member⟩

/-- The order of the edits does not matter. -/
theorem look_perm (pointwise : Pointwise key effect apply look) {ops others : List Op}
    (distinct : (ops.map key).Nodup) (perm : others.Perm ops) (s : S) (k : K) :
    look (others.foldl apply s) k = look (ops.foldl apply s) k := by
  have keys := perm.map key
  rcases look_cases pointwise distinct s k with ⟨absent, same⟩ | ⟨op, member, rfl, edited⟩
  · rw [same]
    exact look_of_not_mem pointwise fun member => absent (keys.mem_iff.mp member)
  · rw [edited]
    exact look_of_mem pointwise (keys.nodup_iff.mpr distinct) (perm.mem_iff.mpr member)

end Keyed
