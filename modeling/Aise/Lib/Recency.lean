import Aise.Lib.Loop
import Aise.Lib.OrdMap
import Mathlib.Algebra.GroupWithZero.Nat
import Mathlib.Data.List.Dedup
import Mathlib.Data.List.Induction
import Mathlib.Order.Lattice

/-! Keeping what was used last. A shelf is a list of keyed values, the one that was used the longest
time ago first. Where a bound on the shelf is exceeded, the first of the items that the bound
concerns gives way, and so on until it holds. The second half is about the usual way to keep a shelf:
a map from keys to entries that bear the tick of their last use, and a map back from ticks to keys. -/
namespace Recency
open Std
variable {K V : Type*} [DecidableEq K]

/-! ### Shelves -/

abbrev Shelf (K V : Type*) := List (K × V)

def find (shelf : Shelf K V) (key : K) : Option V := (shelf.find? (·.1 = key)).map (·.2)

def discard (shelf : Shelf K V) (key : K) : Shelf K V := shelf.filter (·.1 ≠ key)

def put (shelf : Shelf K V) (key : K) (value : V) : Shelf K V := discard shelf key ++ [(key, value)]

def touch (shelf : Shelf K V) (key : K) : Shelf K V :=
  match find shelf key with
  | some value => put shelf key value
  | none => shelf

/-- When a shelf holds too much, and which of its items then have to give way. -/
structure Bound (K V : Type*) where
  exceeded : Shelf K V → Bool
  concerns : K × V → Bool

namespace Bound

def round (bound : Bound K V) (shelf : Shelf K V) : Loop.Flow (Shelf K V) :=
  if bound.exceeded shelf && shelf.any bound.concerns then .again (shelf.eraseP bound.concerns)
  else .leave shelf

omit [DecidableEq K] in
theorem round_descends {bound : Bound K V} {shelf next : Shelf K V}
    (again : bound.round shelf = .again next) : next.length < shelf.length := by
  unfold round at again
  split at again
  · rename_i exceeded
    cases again
    obtain ⟨item, member, concerned⟩ := List.any_eq_true.mp (Bool.and_eq_true_iff.mp exceeded).2
    have shorter := List.length_eraseP_of_mem member concerned
    have filled := List.length_pos_of_mem member
    omega
  · cases again

/-- As many items give way as have to. -/
def enforce (bound : Bound K V) (shelf : Shelf K V) : Shelf K V :=
  Loop.run bound.round List.length round_descends (shelf.length + 1) shelf (Nat.lt_succ_self _)

omit [DecidableEq K] in
theorem enforce_ends (bound : Bound K V) (shelf : Shelf K V) :
    ∃ rounds, rounds ≤ shelf.length + 1 ∧ Loop.Ends bound.round shelf rounds (bound.enforce shelf) :=
  Loop.run_ends (shelf.length + 1) shelf (Nat.lt_succ_self _)

omit [DecidableEq K] in
/-- What holds of a shelf and is not lost with one of the concerned items. -/
theorem enforce_keeps {bound : Bound K V} {P : Shelf K V → Prop}
    (keeps : ∀ {shelf}, P shelf → P (shelf.eraseP bound.concerns)) (held : P shelf) :
    P (bound.enforce shelf) := by
  obtain ⟨rounds, _, ends⟩ := bound.enforce_ends shelf
  refine ends.invariant (P := P) ?_ ?_ held
  · intro before after held again
    unfold round at again
    split at again
    · cases again
      exact keeps held
    · cases again
  · intro before after held left
    unfold round at left
    split at left
    · cases left
    · cases left
      exact held

omit [DecidableEq K] in
theorem enforce_sublist (bound : Bound K V) (shelf : Shelf K V) :
    (bound.enforce shelf).Sublist shelf :=
  enforce_keeps (P := fun kept => kept.Sublist shelf)
    (fun kept => List.eraseP_sublist.trans kept) (List.Sublist.refl shelf)

omit [DecidableEq K] in
/-- A bound that is still exceeded concerns none of the items that are left. -/
theorem enforce_within (bound : Bound K V) (shelf : Shelf K V)
    (exceeded : bound.exceeded (bound.enforce shelf) = true) :
    ∀ item ∈ bound.enforce shelf, bound.concerns item = false := by
  obtain ⟨rounds, _, ends⟩ := bound.enforce_ends shelf
  refine ends.invariant (P := fun _ => True)
    (Q := fun kept => bound.exceeded kept = true → ∀ item ∈ kept, bound.concerns item = false)
    (fun _ _ => trivial) ?_ trivial exceeded
  intro before after _ left exceeded item member
  unfold round at left
  split at left
  · cases left
  · rename_i within
    cases left
    rw [exceeded, Bool.true_and, List.any_eq_true, not_exists] at within
    have spared := within item
    rw [not_and, Bool.not_eq_true] at spared
    exact spared member

omit [DecidableEq K] in
/-- Where the bound holds nothing gives way. -/
theorem enforce_eq_self {bound : Bound K V} {shelf : Shelf K V}
    (within : bound.exceeded shelf = false) : bound.enforce shelf = shelf := by
  obtain ⟨rounds, _, ends⟩ := bound.enforce_ends shelf
  have left : bound.round shelf = .leave shelf := by
    rw [round, within, Bool.false_and]
    rfl
  exact ends.unique (.leave left)

end Bound

theorem filter_eraseP {α : Type*} (p : α → Bool) (list : List α) :
    (list.eraseP p).filter p = (list.filter p).tail ∧
      (list.eraseP p).filter (fun item => !p item) = list.filter fun item => !p item := by
  induction list with
  | nil => exact ⟨rfl, rfl⟩
  | cons item rest ih =>
    rw [List.eraseP_cons]
    cases here : p item with
    | true => simp [here]
    | false => simp [here, ih.1, ih.2]

omit [DecidableEq K] in
/-- The items that give way are, of those concerned, the ones used the longest time ago. -/
theorem Bound.enforce_oldest (bound : Bound K V) (shelf : Shelf K V) :
    ((bound.enforce shelf).filter bound.concerns).IsSuffix (shelf.filter bound.concerns) ∧
      (bound.enforce shelf).filter (fun item => !bound.concerns item) =
        shelf.filter fun item => !bound.concerns item := by
  refine enforce_keeps (P := fun kept => (kept.filter bound.concerns).IsSuffix
    (shelf.filter bound.concerns) ∧ kept.filter (fun item => !bound.concerns item) =
      shelf.filter fun item => !bound.concerns item) ?_ ⟨List.suffix_refl _, rfl⟩
  rintro kept ⟨later, others⟩
  obtain ⟨concerned, spared⟩ := filter_eraseP bound.concerns kept
  rw [concerned, spared]
  exact ⟨(List.tail_suffix _).trans later, others⟩

/-! ### Reading a shelf -/

def Distinct (shelf : Shelf K V) : Prop := (shelf.map Prod.fst).Nodup

section
variable {shelf : Shelf K V} {key other : K} {value : V}

theorem find_eq_some (distinct : Distinct shelf) : find shelf key = some value ↔ (key, value) ∈ shelf := by
  unfold find
  rw [Option.map_eq_some_iff]
  constructor
  · rintro ⟨item, found, rfl⟩
    have named := List.find?_some found
    rw [decide_eq_true_eq] at named
    exact named ▸ List.mem_of_find?_eq_some found
  · intro member
    refine ⟨(key, value), ?_, rfl⟩
    obtain ⟨item, found⟩ := Option.isSome_iff_exists.mp
      (List.find?_isSome (p := fun item : K × V => decide (item.1 = key)).mpr
        ⟨_, member, decide_eq_true rfl⟩)
    have named := List.find?_some found
    rw [decide_eq_true_eq] at named
    rw [found, Option.some.injEq]
    exact List.inj_on_of_nodup_map distinct (List.mem_of_find?_eq_some found) member named

theorem find_eq_none : find shelf key = none ↔ key ∉ shelf.map Prod.fst := by
  rw [find, Option.map_eq_none_iff, List.find?_eq_none, List.mem_map, not_exists]
  refine forall_congr' fun item => ?_
  rw [decide_eq_true_eq, not_and]

theorem discard_eq_self (absent : key ∉ shelf.map Prod.fst) : discard shelf key = shelf :=
  List.filter_eq_self.mpr fun item member => decide_eq_true fun same =>
    absent (List.mem_map.mpr ⟨item, member, same⟩)

theorem mem_discard : (other, value) ∈ discard shelf key ↔ (other, value) ∈ shelf ∧ other ≠ key := by
  rw [discard, List.mem_filter, decide_eq_true_eq]

theorem discard_sublist (shelf : Shelf K V) (key : K) : (discard shelf key).Sublist shelf :=
  List.filter_sublist

theorem mem_put : (other, value) ∈ put shelf key new ↔
    (other, value) ∈ shelf ∧ other ≠ key ∨ other = key ∧ value = new := by
  rw [put, List.mem_append, mem_discard, List.mem_singleton, Prod.mk.injEq]

theorem keys_discard (shelf : Shelf K V) (key : K) :
    (discard shelf key).map Prod.fst = (shelf.map Prod.fst).filter (· ≠ key) := by
  rw [discard, List.filter_map]
  rfl

theorem not_mem_discard (shelf : Shelf K V) (key : K) : key ∉ (discard shelf key).map Prod.fst := by
  rw [keys_discard, List.mem_filter, not_and]
  exact fun _ kept => of_decide_eq_true kept rfl

omit [DecidableEq K] in
theorem Distinct.sublist {kept : Shelf K V} (distinct : Distinct shelf) (sub : kept.Sublist shelf) :
    Distinct kept := List.Nodup.sublist (sub.map Prod.fst) distinct

theorem Distinct.put (distinct : Distinct shelf) (key : K) (value : V) :
    Distinct (put shelf key value) := by
  unfold Distinct Recency.put
  rw [List.map_append, keys_discard]
  refine List.Nodup.append (distinct.filter _) (List.nodup_singleton key) ?_
  intro name earlier last
  rw [List.map_singleton, List.mem_singleton] at last
  exact of_decide_eq_true (List.mem_filter.mp earlier).2 last

/-- A shelf is the item under a key and the rest. -/
theorem perm_discard (distinct : Distinct shelf) (member : (key, value) ∈ shelf) :
    shelf.Perm ((key, value) :: discard shelf key) := by
  have fresh : (key, value) ∉ discard shelf key := fun kept => (mem_discard.mp kept).2 rfl
  refine (List.perm_ext_iff_of_nodup distinct.of_map
    (List.nodup_cons.mpr ⟨fresh, (distinct.sublist (discard_sublist shelf key)).of_map⟩)).mpr ?_
  rintro ⟨other, stored⟩
  rw [List.mem_cons, mem_discard, Prod.mk.injEq]
  constructor
  · intro here
    by_cases same : other = key
    · subst same
      have one := ((find_eq_some distinct).mpr here).symm.trans ((find_eq_some distinct).mpr member)
      exact .inl ⟨rfl, Option.some.inj one⟩
    · exact .inr ⟨here, same⟩
  · rintro (⟨rfl, rfl⟩ | ⟨here, _⟩)
    · exact member
    · exact here

/-- What gives way first is discarded. -/
theorem eraseP_eq_discard {p : K × V → Bool} {item : K × V} (distinct : Distinct shelf)
    (found : shelf.find? p = some item) : shelf.eraseP p = discard shelf item.1 := by
  induction shelf with
  | nil => cases found
  | cons first rest ih =>
    obtain ⟨fresh, distinct⟩ := List.nodup_cons.mp distinct
    rw [List.find?_cons] at found
    rw [List.eraseP_cons]
    cases here : p first with
    | true =>
      rw [here] at found
      cases found
      rw [cond_true, discard, List.filter_cons_of_neg (by simp)]
      exact (discard_eq_self fresh).symm
    | false =>
      rw [here] at found
      have among := List.mem_map_of_mem (f := Prod.fst) (List.mem_of_find?_eq_some found)
      have apart : first.1 ≠ item.1 := fun same => fresh (same ▸ among)
      rw [cond_false, ih distinct found, discard, discard, List.filter_cons_of_pos (by simp [apart])]

end

/-! ### Values seen through a function -/

section
variable {W : Type*} (f : V → W) (shelf : Shelf K V) (key : K)

def mapped : Shelf K W := shelf.map (Prod.map id f)

theorem find_mapped : find (mapped f shelf) key = (find shelf key).map f := by
  unfold find mapped
  rw [List.find?_map, Option.map_map, Option.map_map]
  rfl

theorem discard_mapped : discard (mapped f shelf) key = mapped f (discard shelf key) := by
  unfold discard mapped
  rw [List.filter_map]
  rfl

theorem put_mapped (value : V) : put (mapped f shelf) key (f value) = mapped f (put shelf key value) := by
  rw [put, discard_mapped, put]
  unfold mapped
  rw [List.map_append]
  rfl

omit [DecidableEq K] in
theorem keys_mapped : (mapped f shelf).map Prod.fst = shelf.map Prod.fst := by
  unfold mapped
  rw [List.map_map]
  rfl

end

/-! ### Calls -/

/-- What is let in, and the bounds that are enforced once it is. -/
structure Policy (K V : Type*) where
  admits : K → V → Bool
  bounds : K → List (Bound K V)

inductive Call (K V : Type*) where
  | get (key : K)
  | insert (key : K) (value : V)

def Call.key : Call K V → K
  | .get key | .insert key _ => key

namespace Policy
variable (policy : Policy K V) {shelf : Shelf K V} {key : K}

/-- A call that is turned away does not count as a use. -/
def uses : Call K V → Bool
  | .get _ => true
  | .insert key value => policy.admits key value

def settle (key : K) (shelf : Shelf K V) : Shelf K V :=
  (policy.bounds key).foldl (fun shelf bound => bound.enforce shelf) shelf

def step (shelf : Shelf K V) : Call K V → Shelf K V
  | .get key => touch shelf key
  | .insert key value =>
    if policy.admits key value then policy.settle key (put shelf key value) else shelf

def run (calls : List (Call K V)) : Shelf K V := calls.foldl policy.step []

def overwrite (key : K) (latest : Option V) : Call K V → Option V
  | .get _ => latest
  | .insert other value => if other = key ∧ policy.admits other value then some value else latest

/-- The value that was let in last under the key. -/
def latest (key : K) (calls : List (Call K V)) : Option V := calls.foldl (policy.overwrite key) none

variable {policy}

omit [DecidableEq K] in
theorem settle_sublist (key : K) (shelf : Shelf K V) : (policy.settle key shelf).Sublist shelf := by
  unfold settle
  induction policy.bounds key generalizing shelf with
  | nil => exact List.Sublist.refl shelf
  | cons bound rest ih => exact (ih _).trans (bound.enforce_sublist shelf)

theorem touch_cases (key : K) (distinct : Distinct shelf) :
    touch shelf key = shelf ∧ find shelf key = none ∨
      ∃ value, (key, value) ∈ shelf ∧ find shelf key = some value ∧
        touch shelf key = put shelf key value := by
  unfold touch
  cases found : find shelf key with
  | none => exact .inl ⟨rfl, rfl⟩
  | some value => exact .inr ⟨value, (find_eq_some distinct).mp found, rfl, rfl⟩

theorem step_get (shelf : Shelf K V) (key : K) : policy.step shelf (.get key) = touch shelf key := rfl

theorem step_admitted {value : V} (admitted : policy.admits key value = true) :
    policy.step shelf (.insert key value) = policy.settle key (put shelf key value) := if_pos admitted

theorem step_refused {value : V} (refused : policy.admits key value = false) :
    policy.step shelf (.insert key value) = shelf := if_neg (Bool.eq_false_iff.mp refused)

theorem step_distinct (distinct : Distinct shelf) (call : Call K V) :
    Distinct (policy.step shelf call) := by
  cases call with
  | get key =>
    rw [step_get]
    rcases touch_cases key distinct with ⟨same, _⟩ | ⟨value, _, _, moved⟩
    · rwa [same]
    · rw [moved]
      exact distinct.put key value
  | insert key value =>
    cases admitted : policy.admits key value with
    | true =>
      rw [step_admitted admitted]
      exact (distinct.put key value).sublist (settle_sublist key _)
    | false => rwa [step_refused admitted]

/-- Each key is on the shelf once. -/
theorem run_distinct (policy : Policy K V) (calls : List (Call K V)) : Distinct (policy.run calls) := by
  unfold run
  induction calls using List.reverseRecOn with
  | nil => exact List.nodup_nil
  | append_singleton before call ih =>
    rw [List.foldl_append]
    exact step_distinct ih call

theorem run_concat (before : List (Call K V)) (call : Call K V) :
    policy.run (before ++ [call]) = policy.step (policy.run before) call := by
  rw [run, List.foldl_append]
  rfl

/-- What was let in last was inserted. -/
theorem mem_of_latest {calls : List (Call K V)} {key : K} {value : V}
    (latest : policy.latest key calls = some value) : .insert key value ∈ calls := by
  induction calls using List.reverseRecOn with
  | nil => cases latest
  | append_singleton before call ih =>
    rw [Policy.latest, List.foldl_append] at latest
    change policy.overwrite key (policy.latest key before) call = some value at latest
    cases call with
    | get other => exact List.mem_append_left _ (ih latest)
    | insert other new =>
      rw [overwrite] at latest
      split at latest
      · rename_i here
        cases latest
        rw [here.1]
        exact List.mem_append_right _ (List.mem_singleton_self _)
      · exact List.mem_append_left _ (ih latest)

/-- A value on the shelf is the one that was let in last. -/
theorem run_latest {calls : List (Call K V)} {key : K} {value : V}
    (member : (key, value) ∈ policy.run calls) : policy.latest key calls = some value := by
  induction calls using List.reverseRecOn generalizing value with
  | nil => cases member
  | append_singleton before call ih =>
    rw [run_concat] at member
    rw [latest, List.foldl_append]
    change policy.overwrite key (policy.latest key before) call = some value
    cases call with
    | get other =>
      refine ih ?_
      rcases touch_cases other (run_distinct policy before) with ⟨same, _⟩ | ⟨found, stored, _, moved⟩
      · rwa [step, same] at member
      · rw [step, moved, mem_put] at member
        rcases member with ⟨earlier, _⟩ | ⟨rfl, rfl⟩
        · exact earlier
        · exact stored
    | insert other new =>
      rw [overwrite]
      cases admitted : policy.admits other new with
      | true =>
        rw [step_admitted admitted] at member
        rcases mem_put.mp ((settle_sublist other _).subset member) with ⟨earlier, apart⟩ | ⟨rfl, rfl⟩
        · rw [if_neg fun new => apart new.1.symm]
          exact ih earlier
        · exact if_pos ⟨rfl, rfl⟩
      | false =>
        rw [step_refused admitted] at member
        rw [if_neg fun new => Bool.false_ne_true new.2]
        exact ih member

theorem dedup_concat (keys : List K) (key : K) :
    (keys ++ [key]).dedup = keys.dedup.filter (· ≠ key) ++ [key] := by
  induction keys with
  | nil => simp
  | cons first rest ih =>
    rw [List.cons_append]
    by_cases last : first = key
    · subst last
      rw [List.dedup_cons_of_mem (by simp), ih]
      by_cases again : first ∈ rest
      · rw [List.dedup_cons_of_mem again]
      · rw [List.dedup_cons_of_notMem again, List.filter_cons_of_neg (by simp)]
    · by_cases again : first ∈ rest
      · rw [List.dedup_cons_of_mem (by simp [again]), List.dedup_cons_of_mem again, ih]
      · rw [List.dedup_cons_of_notMem (by simp [again, last]), List.dedup_cons_of_notMem again,
          List.filter_cons_of_pos (by simp [last]), ih, List.cons_append]

theorem put_recent {keys : List K} (recent : (shelf.map Prod.fst).Sublist keys.dedup) (key : K)
    (value : V) : ((put shelf key value).map Prod.fst).Sublist (keys ++ [key]).dedup := by
  rw [put, List.map_append, keys_discard, dedup_concat]
  exact (recent.filter _).append (List.Sublist.refl [key])

/-- The shelf is in the order in which its keys were used last. -/
theorem run_recent (policy : Policy K V) (calls : List (Call K V)) :
    ((policy.run calls).map Prod.fst).Sublist ((calls.filter policy.uses).map Call.key).dedup := by
  induction calls using List.reverseRecOn with
  | nil => exact List.Sublist.refl []
  | append_singleton before call ih =>
    rw [run_concat, List.filter_append, List.map_append]
    cases call with
    | get key =>
      change ((touch (policy.run before) key).map Prod.fst).Sublist
        ((before.filter policy.uses).map Call.key ++ [key]).dedup
      rcases touch_cases key (run_distinct policy before) with ⟨same, absent⟩ | ⟨value, _, _, moved⟩
      · rw [same, dedup_concat]
        rw [find_eq_none] at absent
        have kept : ((policy.run before).map Prod.fst).filter (· ≠ key) =
            (policy.run before).map Prod.fst :=
          List.filter_eq_self.mpr fun name member => decide_eq_true fun here => absent (here ▸ member)
        rw [← kept]
        exact (ih.filter _).trans (List.sublist_append_left _ _)
      · rw [moved]
        exact put_recent ih key value
    | insert key value =>
      cases admitted : policy.admits key value with
      | true =>
        have used : policy.uses (.insert key value) = true := admitted
        rw [step_admitted admitted, List.filter_cons_of_pos used]
        exact ((settle_sublist key _).map Prod.fst).trans (put_recent ih key value)
      | false =>
        have unused : ¬policy.uses (.insert key value) = true := Bool.eq_false_iff.mp admitted
        rw [step_refused admitted, List.filter_cons_of_neg unused]
        simpa using ih

end Policy

/-! ### Ticks -/

/-- A map is listed as anything that is in order and has the same entries. -/
theorem toList_eq {A B : Type*} [LinearOrder A] [LawfulEqOrd A] {map : ExtTreeMap A B}
    {list : List (A × B)} (ordered : list.Pairwise fun first second => first.1 < second.1)
    (same : ∀ key value, map[key]? = some value ↔ (key, value) ∈ list) : map.toList = list := by
  have listed : map.toList.Pairwise fun first second => first.1 < second.1 :=
    ExtTreeMap.ordered_keys_toList.imp compare_lt_iff_lt.mp
  refine List.Perm.eq_of_pairwise
    (fun first second _ _ (less : first.1 < second.1) greater => absurd less greater.asymm)
    listed ordered ?_
  refine (List.perm_ext_iff_of_nodup (listed.imp fun less same => (same ▸ less).false)
    (ordered.imp fun less same => (same ▸ less).false)).mpr fun item => ?_
  rw [← same]
  exact ExtTreeMap.mem_toList_iff_getElem?_eq_some

section
variable {E T : Type*} [Ord K] [TransOrd K] [LawfulEqOrd K] [LinearOrder T] [LawfulEqOrd T]
  {tickOf : E → T} {entries : ExtTreeMap K E} {order : ExtTreeMap T K} {shelf : Shelf K E}
  {key : K} {entry : E}

/-- The two maps keep the shelf: what is stored under a key, and the keys by the ticks of their
entries. -/
structure Tracks (tickOf : E → T) (entries : ExtTreeMap K E) (order : ExtTreeMap T K)
    (shelf : Shelf K E) : Prop where
  entries : ∀ key entry, entries[key]? = some entry ↔ (key, entry) ∈ shelf
  order : ∀ tick key, order[tick]? = some key ↔ ∃ entry, (key, entry) ∈ shelf ∧ tickOf entry = tick
  ordered : shelf.Pairwise fun first second => tickOf first.2 < tickOf second.2

namespace Tracks

omit [DecidableEq K] [LawfulEqOrd K] [LawfulEqOrd T] in
theorem nil (tickOf : E → T) : Tracks (K := K) tickOf ∅ ∅ [] where
  entries := by simp
  order := by simp
  ordered := .nil

omit [DecidableEq K] [LawfulEqOrd K] [LawfulEqOrd T] in
theorem distinct (tracks : Tracks tickOf entries order shelf) : Distinct shelf := by
  refine List.pairwise_map.mpr (tracks.ordered.imp_of_mem ?_)
  rintro ⟨key, first⟩ ⟨other, second⟩ firstIn secondIn less same
  dsimp only at same
  subst same
  have one := ((tracks.entries _ _).mpr firstIn).symm.trans ((tracks.entries _ _).mpr secondIn)
  cases one
  exact less.false

omit [DecidableEq K] [LawfulEqOrd K] in
theorem toList_order (tracks : Tracks tickOf entries order shelf) :
    order.toList = shelf.map fun item => (tickOf item.2, item.1) := by
  refine toList_eq (List.pairwise_map.mpr tracks.ordered) fun tick key => ?_
  rw [tracks.order, List.mem_map]
  constructor
  · rintro ⟨entry, member, rfl⟩
    exact ⟨(key, entry), member, rfl⟩
  · rintro ⟨⟨name, entry⟩, member, same⟩
    cases same
    exact ⟨entry, member, rfl⟩

omit [LawfulEqOrd K] [LawfulEqOrd T] in
theorem find_eq (tracks : Tracks tickOf entries order shelf) (key : K) :
    find shelf key = entries[key]? := by
  refine Option.ext fun entry => ?_
  rw [find_eq_some tracks.distinct, tracks.entries]

omit [DecidableEq K] [LawfulEqOrd K] in
/-- The key that is found first in the order. -/
theorem find?_order (tracks : Tracks tickOf entries order shelf) (p : K → Bool) :
    (order.toList.map Prod.snd).find? p = (shelf.find? (p ·.1)).map Prod.fst := by
  rw [tracks.toList_order, List.map_map, List.find?_map]
  rfl

omit [DecidableEq K] [LawfulEqOrd K] in
theorem size_order (tracks : Tracks tickOf entries order shelf) : order.size = shelf.length := by
  rw [← ExtTreeMap.length_toList, tracks.toList_order, List.length_map]

omit [DecidableEq K] [LawfulEqOrd T] in
theorem perm_entries (tracks : Tracks tickOf entries order shelf) : entries.toList.Perm shelf := by
  have once : entries.toList.Nodup := List.Nodup.of_map Prod.fst (by
    rw [ExtTreeMap.map_fst_toList_eq_keys]
    exact ExtTreeMap.nodup_keys)
  refine (List.perm_ext_iff_of_nodup once tracks.distinct.of_map).mpr ?_
  rintro ⟨key, entry⟩
  rw [ExtTreeMap.mem_toList_iff_getElem?_eq_some]
  exact tracks.entries key entry

/-- An entry is taken off. -/
theorem discard (tracks : Tracks tickOf entries order shelf) (found : entries[key]? = some entry) :
    Tracks tickOf (entries.erase key) (order.erase (tickOf entry)) (discard shelf key) where
  entries := fun other value => by
    rw [OrdMap.get_erase, mem_discard, ← tracks.entries]
    split
    · rename_i same
      simp [same]
    · rename_i apart
      simp [Ne.symm apart]
  order := fun tick other => by
    have member := (tracks.entries _ _).mp found
    rw [OrdMap.get_erase]
    constructor
    · intro kept
      split at kept
      · cases kept
      · rename_i apart
        obtain ⟨value, stored, rfl⟩ := (tracks.order _ _).mp kept
        refine ⟨value, mem_discard.mpr ⟨stored, ?_⟩, rfl⟩
        rintro rfl
        have one := ((tracks.entries _ _).mpr stored).symm.trans found
        cases one
        exact apart rfl
    · rintro ⟨value, stored, rfl⟩
      obtain ⟨stored, apart⟩ := mem_discard.mp stored
      rw [if_neg]
      · exact (tracks.order _ _).mpr ⟨value, stored, rfl⟩
      · intro same
        have here := (tracks.order (tickOf entry) key).mpr ⟨entry, member, rfl⟩
        rw [same, (tracks.order _ _).mpr ⟨value, stored, rfl⟩] at here
        exact apart (Option.some.inj here)
  ordered := tracks.ordered.filter _

/-- An entry is put up with a tick beyond all others. -/
theorem append (tracks : Tracks tickOf entries order shelf) (entry : E)
    (absent : key ∉ shelf.map Prod.fst)
    (later : ∀ item ∈ shelf, tickOf item.2 < tickOf entry) :
    Tracks tickOf (entries.insert key entry) (order.insert (tickOf entry) key)
      (shelf ++ [(key, entry)]) where
  entries := fun other value => by
    rw [OrdMap.get_insert, List.mem_append, List.mem_singleton, Prod.mk.injEq, ← tracks.entries]
    split
    · rename_i same
      subst same
      have unknown : entries[key]? = none := by rw [← tracks.find_eq, find_eq_none.mpr absent]
      simp [unknown, eq_comm]
    · rename_i apart
      simp [Ne.symm apart]
  order := fun tick other => by
    rw [OrdMap.get_insert]
    constructor
    · intro kept
      split at kept
      · rename_i same
        cases kept
        exact ⟨entry, List.mem_append_right _ (List.mem_singleton_self _), same⟩
      · obtain ⟨value, stored, same⟩ := (tracks.order _ _).mp kept
        exact ⟨value, List.mem_append_left _ stored, same⟩
    · rintro ⟨value, stored, rfl⟩
      rcases List.mem_append.mp stored with before | last
      · rw [if_neg (later _ before).ne']
        exact (tracks.order _ _).mpr ⟨value, before, rfl⟩
      · cases List.mem_singleton.mp last
        exact if_pos rfl
  ordered := List.pairwise_append.mpr ⟨tracks.ordered, List.pairwise_singleton _ _,
    fun item member last here => List.mem_singleton.mp here ▸ later item member⟩

/-- An entry is put up again with a later tick. -/
theorem move (tracks : Tracks tickOf entries order shelf) (found : entries[key]? = some old)
    (later : ∀ item ∈ shelf, tickOf item.2 < tickOf entry) :
    Tracks tickOf (entries.insert key entry) ((order.erase (tickOf old)).insert (tickOf entry) key)
      (put shelf key entry) := by
  have moved := (tracks.discard found).append entry (not_mem_discard shelf key)
    fun item member => later item ((discard_sublist shelf key).subset member)
  have same : (entries.erase key).insert key entry = entries.insert key entry := by
    apply ExtTreeMap.ext_getElem?
    intro other
    rw [OrdMap.get_insert, OrdMap.get_insert, OrdMap.get_erase]
    split
    · rfl
    · rfl
  rwa [same] at moved

end Tracks

/-- The two maps keep the shelf, no entry bears a tick that is still to come, and the total is that of
all entries. -/
structure Weighs (tickOf : E → T) (weight : E → Nat) (entries : ExtTreeMap K E)
    (order : ExtTreeMap T K) (tick : T) (total : Nat) (shelf : Shelf K E) : Prop
    extends Tracks tickOf entries order shelf where
  ticked : ∀ item ∈ shelf, tickOf item.2 ≤ tick
  total : total = (shelf.map fun item => weight item.2).sum

namespace Weighs
variable {weight : E → Nat} {tick : T} {total : Nat}

omit [DecidableEq K] [LawfulEqOrd K] [LawfulEqOrd T] in
theorem nil (tickOf : E → T) (weight : E → Nat) (tick : T) :
    Weighs (K := K) tickOf weight ∅ ∅ tick 0 [] where
  toTracks := .nil tickOf
  ticked := nofun
  total := rfl

theorem discard (weighs : Weighs tickOf weight entries order tick total shelf)
    (found : entries[key]? = some entry) :
    Weighs tickOf weight (entries.erase key) (order.erase (tickOf entry)) tick (total - weight entry)
      (discard shelf key) where
  toTracks := weighs.toTracks.discard found
  ticked := fun item member => weighs.ticked item ((discard_sublist shelf key).subset member)
  total := by
    have parts := perm_discard weighs.distinct ((weighs.entries key entry).mp found)
    rw [weighs.total, (parts.map fun item => weight item.2).sum_nat, List.map_cons, List.sum_cons]
    exact Nat.add_sub_cancel_left _ _

omit [LawfulEqOrd K] [LawfulEqOrd T] in
theorem discard_absent (weighs : Weighs tickOf weight entries order tick total shelf)
    (absent : entries[key]? = none) : Recency.discard shelf key = shelf :=
  discard_eq_self (find_eq_none.mp (by rw [weighs.find_eq, absent]))

omit [DecidableEq K] [TransOrd K] [LawfulEqOrd K] [LawfulEqOrd T] [Ord K] in
theorem ticked_append (earlier : ∀ item ∈ shelf, tickOf item.2 ≤ tick) (later : tick < tickOf entry) :
    ∀ item ∈ shelf ++ [(key, entry)], tickOf item.2 ≤ tickOf entry := by
  intro item member
  rcases List.mem_append.mp member with before | last
  · exact (earlier item before).trans later.le
  · rw [List.mem_singleton.mp last]

theorem append (weighs : Weighs tickOf weight entries order tick total shelf) (entry : E)
    (absent : key ∉ shelf.map Prod.fst) (later : tick < tickOf entry) :
    Weighs tickOf weight (entries.insert key entry) (order.insert (tickOf entry) key) (tickOf entry)
      (total + weight entry) (shelf ++ [(key, entry)]) where
  toTracks := weighs.toTracks.append entry absent
    fun item member => (weighs.ticked item member).trans_lt later
  ticked := ticked_append weighs.ticked later
  total := by
    rw [weighs.total, List.map_append, List.sum_append]
    simp

theorem move (weighs : Weighs tickOf weight entries order tick total shelf) {old : E}
    (found : entries[key]? = some old) (later : tick < tickOf entry) (same : weight entry = weight old) :
    Weighs tickOf weight (entries.insert key entry) ((order.erase (tickOf old)).insert (tickOf entry) key)
      (tickOf entry) total (put shelf key entry) where
  toTracks := weighs.toTracks.move found fun item member => (weighs.ticked item member).trans_lt later
  ticked := ticked_append
    (fun item member => weighs.ticked item ((discard_sublist shelf key).subset member)) later
  total := by
    have parts := perm_discard weighs.distinct ((weighs.entries key old).mp found)
    rw [weighs.total, (parts.map fun item => weight item.2).sum_nat, put, List.map_append,
      List.sum_append, List.map_cons, List.sum_cons, Nat.add_comm]
    simp [same]

omit [DecidableEq K] [LawfulEqOrd T] in
/-- The total of what is listed. -/
theorem total_entries (weighs : Weighs tickOf weight entries order tick total shelf) :
    total = (entries.toList.map fun item => weight item.2).sum := by
  rw [weighs.total]
  exact (weighs.perm_entries.map _).sum_nat.symm

end Weighs

end

end Recency
