import Mathlib.Algebra.BigOperators.Group.List.Basic
import Mathlib.Algebra.Order.BigOperators.Group.List
import Mathlib.Algebra.Order.Group.Nat
import Mathlib.Algebra.GroupWithZero.Nat
import Mathlib.Data.List.Perm.Basic
import Aise.Lib.OrdMap

/-! Sums over the entries of an ordered map, and what a write adds to them. Counts are sums
of zeros and ones. -/
namespace OrdMap
open Std
variable {K V : Type*} [Ord K] [TransOrd K] {map : ExtTreeMap K V}

theorem nodup_toList : map.toList.Nodup := by
  refine List.Pairwise.imp ?_ (ExtTreeMap.distinct_keys_toList (t := map))
  intro left right apart same
  subst same
  exact apart ReflOrd.compare_self

/-- The sum of a measure over the entries of a map. -/
def total (measure : K → V → Nat) (map : ExtTreeMap K V) : Nat :=
  (map.toList.map fun entry => measure entry.1 entry.2).sum

/-- What the entry under a key adds to the sum, zero when there is none. -/
def part (measure : K → V → Nat) (map : ExtTreeMap K V) (key : K) : Nat :=
  map[key]?.elim 0 (measure key)

/-- The sum over the entries under other keys. -/
def others [DecidableEq K] (measure : K → V → Nat) (map : ExtTreeMap K V) (key : K) : Nat :=
  ((map.toList.filter fun entry => entry.1 ≠ key).map fun entry => measure entry.1 entry.2).sum

@[simp] theorem total_empty (measure : K → V → Nat) : total measure (∅ : ExtTreeMap K V) = 0 := by
  have none : (∅ : ExtTreeMap K V).toList = [] := ExtTreeMap.toList_eq_nil_iff.mpr rfl
  rw [total, none, List.map_nil, List.sum_nil]

variable [LawfulEqOrd K] [DecidableEq K] {measure : K → V → Nat}

/-- A write puts its entry in front of those under other keys, in some order. -/
theorem toList_insert_perm (key : K) (value : V) :
    (map.insert key value).toList.Perm
      ((key, value) :: map.toList.filter fun entry => entry.1 ≠ key) := by
  refine (List.perm_ext_iff_of_nodup nodup_toList ?_).mpr ?_
  · refine List.nodup_cons.mpr ⟨?_, nodup_toList.filter _⟩
    simp
  · rintro ⟨other, found⟩
    rw [ExtTreeMap.mem_toList_iff_getElem?_eq_some, get_insert]
    simp only [List.mem_cons, List.mem_filter, Prod.mk.injEq,
      ExtTreeMap.mem_toList_iff_getElem?_eq_some]
    by_cases same : key = other
    · subst same
      simp [eq_comm]
    · have apart : other ≠ key := fun equal => same equal.symm
      simp [same, apart]

theorem total_insert_others (measure : K → V → Nat) (map : ExtTreeMap K V) (key : K)
    (value : V) :
    total measure (map.insert key value) = measure key value + others measure map key := by
  rw [total, ((toList_insert_perm key value).map _).sum_eq, List.map_cons, List.sum_cons, others]

theorem others_of_not_found {key : K} (fresh : map[key]? = none) :
    others measure map key = total measure map := by
  have all : (map.toList.filter fun entry => entry.1 ≠ key) = map.toList := by
    refine List.filter_eq_self.mpr fun entry member => ?_
    have found := ExtTreeMap.mem_toList_iff_getElem?_eq_some.mp member
    have apart : entry.1 ≠ key := by
      intro same
      rw [same, fresh] at found
      cases found
    simpa using apart
  rw [others, all, total]

/-- A sum, taken apart at a key. -/
theorem total_eq (measure : K → V → Nat) (map : ExtTreeMap K V) (key : K) :
    total measure map = part measure map key + others measure map key := by
  cases found : map[key]? with
  | none => rw [part, found, Option.elim_none, Nat.zero_add, others_of_not_found found]
  | some value =>
    have split := total_insert_others measure map key value
    rwa [insert_get found, ← show part measure map key = measure key value by
      rw [part, found, Option.elim_some]] at split

theorem total_insert (measure : K → V → Nat) (map : ExtTreeMap K V) (key : K) (value : V) :
    total measure (map.insert key value) + part measure map key =
      measure key value + total measure map := by
  have before := total_eq measure map key
  rw [total_insert_others]
  omega

theorem total_insert_fresh (measure : K → V → Nat) {key : K} (fresh : map[key]? = none)
    (value : V) :
    total measure (map.insert key value) = measure key value + total measure map := by
  have written := total_insert measure map key value
  rwa [part, fresh, Option.elim_none, Nat.add_zero] at written

theorem total_erase (measure : K → V → Nat) (map : ExtTreeMap K V) (key : K) :
    total measure (map.erase key) + part measure map key = total measure map := by
  have gone : (map.erase key)[key]? = none := by rw [get_erase, if_pos rfl]
  cases found : map[key]? with
  | none =>
    have same : map.erase key = map := by
      apply ExtTreeMap.ext_getElem?
      intro other
      rw [get_erase]
      split
      · rename_i equal
        rw [← equal, found]
      · rfl
    rw [same, part, found, Option.elim_none, Nat.add_zero]
  | some value =>
    have restored : (map.erase key).insert key value = map := by
      apply ExtTreeMap.ext_getElem?
      intro other
      rw [get_insert, get_erase]
      split
      · rename_i equal
        rw [← equal, found]
      · rfl
    have written := total_insert_fresh measure gone value
    rw [restored] at written
    rw [part, found, Option.elim_some]
    omega

theorem total_modify (measure : K → V → Nat) {key : K} {value : V}
    (found : map[key]? = some value) (change : V → V) :
    total measure (map.modify key change) + measure key value =
      measure key (change value) + total measure map := by
  have same : map.modify key change = map.insert key (change value) := by
    apply ExtTreeMap.ext_getElem?
    intro other
    rw [get_modify, get_insert]
    split
    · rename_i equal
      rw [← equal, found, Option.map_some]
    · rfl
  have written := total_insert measure map key (change value)
  rwa [part, found, Option.elim_some, ← same] at written

/-- A change that a measure does not see leaves its sum alone. -/
theorem total_modify_same {key : K} {change : V → V}
    (same : ∀ value, measure key (change value) = measure key value) :
    total measure (map.modify key change) = total measure map := by
  cases found : map[key]? with
  | none =>
    have untouched : map.modify key change = map := by
      apply ExtTreeMap.ext_getElem?
      intro other
      rw [get_modify]
      split
      · rename_i equal
        rw [← equal, found, Option.map_none]
      · rfl
    rw [untouched]
  | some value =>
    have written := total_modify measure found change
    rw [same] at written
    omega

/-- A sum is at least what one of its entries adds. -/
theorem measure_le_total (measure : K → V → Nat) {key : K} {value : V}
    (found : map[key]? = some value) :
    measure key value ≤ total measure map := by
  have split := total_eq measure map key
  rw [part, found, Option.elim_some] at split
  omega

/-- Two entries under different keys add up to at most the sum. -/
theorem add_le_total (measure : K → V → Nat) {key other : K} {value found : V} (apart : key ≠ other)
    (first : map[key]? = some value) (second : map[other]? = some found) :
    measure key value + measure other found ≤ total measure map := by
  have rest : (map.erase key)[other]? = some found := by rw [get_erase, if_neg apart, second]
  have below := measure_le_total measure rest
  have split := total_erase measure map key
  rw [part, first, Option.elim_some] at split
  omega

/-- A sum in which nothing counts is zero, and only such a sum is. -/
theorem total_eq_zero_iff (measure : K → V → Nat) :
    total measure map = 0 ↔ ∀ (key : K) (value : V), map[key]? = some value → measure key value = 0 := by
  constructor
  · intro none key value found
    have below := measure_le_total measure found
    omega
  · intro zero
    rw [total, List.sum_eq_zero]
    intro counted member
    obtain ⟨entry, inside, rfl⟩ := List.mem_map.mp member
    exact zero _ _ (ExtTreeMap.mem_toList_iff_getElem?_eq_some.mp inside)

omit [DecidableEq K] in
/-- Dropping entries that count for nothing leaves the sum alone. -/
theorem total_filter (measure : K → V → Nat) (keep : K → V → Bool)
    (idle : ∀ (key : K) (value : V), map[key]? = some value → keep key value = false →
      measure key value = 0) : total measure (map.filter keep) = total measure map := by
  have listed : ∀ entry ∈ map.toList, keep entry.1 entry.2 = false → measure entry.1 entry.2 = 0 :=
    fun entry member => idle _ _ (ExtTreeMap.mem_toList_iff_getElem?_eq_some.mp member)
  rw [total, total, ExtTreeMap.toList_filter]
  generalize map.toList = entries at listed
  induction entries with
  | nil => rfl
  | cons entry entries ih =>
    obtain ⟨here, later⟩ := List.forall_mem_cons.mp listed
    rw [List.filter_cons, List.map_cons, List.sum_cons]
    split
    · rw [List.map_cons, List.sum_cons, ih later]
    · rename_i dropped
      rw [ih later, here (by simpa using dropped), Nat.zero_add]

omit [LawfulEqOrd K] [DecidableEq K] in
theorem total_mono (other : K → V → Nat)
    (below : ∀ entry ∈ map.toList, measure entry.1 entry.2 ≤ other entry.1 entry.2) :
    total measure map ≤ total other map := by
  rw [total, total]
  exact List.sum_le_sum below

omit [LawfulEqOrd K] in
theorem others_mono (other : K → V → Nat) {key : K}
    (below : ∀ entry ∈ map.toList, entry.1 ≠ key → measure entry.1 entry.2 ≤ other entry.1 entry.2) :
    others measure map key ≤ others other map key := by
  rw [others, others]
  apply List.sum_le_sum
  intro entry kept
  obtain ⟨member, apart⟩ := List.mem_filter.mp kept
  exact below entry member (of_decide_eq_true apart)

end OrdMap
