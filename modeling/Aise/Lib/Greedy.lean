import Mathlib.Algebra.BigOperators.Group.List.Basic
import Mathlib.Algebra.Order.Group.Nat
import Mathlib.Algebra.GroupWithZero.Nat
import Mathlib.Data.List.Nodup
import Mathlib.Data.Set.Insert

/-! Items that ask for something one after the other. Each is taken, is refused or fails the whole
run, on what those that were taken before it have left. -/
namespace Greedy

inductive Verdict (α : Type*) where
  | fails
  | refused
  | taken (left : α)

variable {ι α : Type*} (judge : ι → α → Verdict α)

/-- The items that are taken in turn, and what they leave. -/
def run : List ι → α → Option (List ι × α)
  | [], account => some ([], account)
  | item :: rest, account =>
    match judge item account with
    | .fails => none
    | .refused => run rest account
    | .taken left => (run rest left).map fun later => (item :: later.1, later.2)

/-- The set of the items that a run takes. -/
def takes (items : List ι) (account : α) : Option (Set ι) :=
  (run judge items account).map fun result => {item | item ∈ result.1}

variable {judge} {items others : List ι} {item : ι} {base account : α}

theorem run_subset {result : List ι × α} (ran : run judge items account = some result) :
    ∀ item ∈ result.1, item ∈ items := by
  induction items generalizing account result with
  | nil =>
    cases ran
    exact fun _ member => member
  | cons first rest ih =>
    rw [run] at ran
    split at ran
    · cases ran
    · exact fun item member => List.mem_cons_of_mem _ (ih ran item member)
    · obtain ⟨later, onward, rfl⟩ := Option.map_eq_some_iff.mp ran
      intro item member
      rcases List.mem_cons.mp member with rfl | member
      · exact List.mem_cons_self
      · exact List.mem_cons_of_mem _ (ih onward item member)

theorem takes_nil : takes judge [] account = some ∅ :=
  congrArg some (Set.eq_empty_iff_forall_notMem.mpr fun _ => List.not_mem_nil)

theorem takes_of_fails (verdict : judge item account = .fails) :
    takes judge (item :: items) account = none := by
  rw [takes, run, verdict]
  rfl

theorem takes_of_refused (verdict : judge item account = .refused) :
    takes judge (item :: items) account = takes judge items account := by
  rw [takes, run, verdict]
  rfl

theorem takes_of_taken {left : α} (verdict : judge item account = .taken left) :
    takes judge (item :: items) account = (takes judge items left).map (insert item) := by
  rw [takes, run, verdict, takes, Option.map_map, Option.map_map]
  refine congrArg (Option.map · (run judge items left)) (funext fun later => ?_)
  exact Set.ext fun other => List.mem_cons

/-- A run takes nothing where every item would be refused by itself. -/
theorem takes_eq_empty_iff :
    takes judge items account = some ∅ ↔ ∀ item ∈ items, judge item account = .refused := by
  induction items with
  | nil => exact iff_of_true takes_nil nofun
  | cons first rest ih =>
    unfold takes at ih ⊢
    rw [List.forall_mem_cons, run]
    cases judge first account with
    | fails => exact iff_of_false nofun nofun
    | refused => exact ih.trans (and_iff_right rfl).symm
    | taken left =>
      refine iff_of_false ?_ nofun
      intro empty
      obtain ⟨result, ran, same⟩ := Option.map_eq_some_iff.mp empty
      obtain ⟨later, -, rfl⟩ := Option.map_eq_some_iff.mp ran
      exact Set.notMem_empty first (same ▸ List.mem_cons_self)

/-! ### Resources -/

/-- What the items need of some resources. An item is refused for what it is barred for, or for a
resource of which it would use more than there is. Sums are kept up to a cap. -/
structure Metering (ι α ρ : Type*) where
  cap : Nat
  used : α → ρ → Nat
  cost : ι → ρ → Nat
  ceiling : ρ → Option Nat
  checks : ι → ρ → Prop
  barred : ι → Prop

namespace Metering
variable {ρ : Type*} (metering : Metering ι α ρ)

/-- The item would not be refused. -/
def HasRoom (account : α) (item : ι) : Prop :=
  ¬metering.barred item ∧ ∀ resource limit, metering.checks item resource →
    metering.ceiling resource = some limit →
      metering.used account resource + metering.cost item resource ≤ limit

def demand (items : List ι) (resource : ρ) : Nat :=
  (items.map fun item => metering.cost item resource).sum

open Classical in
/-- The items that have room, each by itself. -/
noncomputable def roomy (account : α) (items : List ι) : List ι :=
  items.filter fun item => metering.HasRoom account item

/-- There is not enough for all items that have room by themselves. -/
def Scarce (items : List ι) (account : α) (resource : ρ) : Prop :=
  ∃ limit, metering.ceiling resource = some limit ∧
    limit < metering.used account resource + metering.demand (metering.roomy account items) resource

/-- One of two items uses up what is scarce and may be missing for the other. -/
def Contend (items : List ι) (account : α) (first second : ι) : Prop :=
  ∃ resource, metering.Scarce items account resource ∧
    (metering.checks first resource ∧ 0 < metering.cost second resource ∨
      metering.checks second resource ∧ 0 < metering.cost first resource)

end Metering

/-- A judge that decides by what is used of the resources. -/
structure Metered {ρ : Type*} (judge : ι → α → Verdict α) (metering : Metering ι α ρ) : Prop where
  capped : ∀ account resource, metering.used account resource ≤ metering.cap
  refused_iff : ∀ item account, judge item account = .refused ↔ ¬metering.HasRoom account item
  spends : ∀ item account left, judge item account = .taken left → ∀ resource limit,
    metering.ceiling resource = some limit → metering.used left resource =
      min (metering.used account resource + metering.cost item resource) metering.cap
  /-- What fails once is never taken. -/
  fails : ∀ item account other left, judge item account = .fails → judge item other ≠ .taken left

section
variable {ρ : Type*} {metering : Metering ι α ρ} {other left : α} {first second : ι}

theorem Metering.demand_perm (perm : others.Perm items) (resource : ρ) :
    metering.demand others resource = metering.demand items resource :=
  (perm.map fun item => metering.cost item resource).sum_eq

theorem Metering.demand_cons (resource : ρ) : metering.demand (item :: items) resource =
    metering.cost item resource + metering.demand items resource := by
  rw [demand, List.map_cons, List.sum_cons, demand]

theorem Metering.roomy_perm (perm : others.Perm items) :
    (metering.roomy account others).Perm (metering.roomy account items) := perm.filter _

open Classical in
theorem Metering.mem_roomy_iff :
    item ∈ metering.roomy account items ↔ item ∈ items ∧ metering.HasRoom account item := by
  rw [roomy, List.mem_filter, decide_eq_true_eq]

open Classical in
theorem Metering.roomy_cons : metering.roomy account (item :: items) =
    if metering.HasRoom account item then item :: metering.roomy account items
    else metering.roomy account items := by
  rw [roomy, List.filter_cons, roomy]
  simp only [decide_eq_true_eq]

theorem Metering.roomy_sublist : (metering.roomy account items).Sublist items := List.filter_sublist

/-- The same is used of every resource that has a ceiling. -/
def Metering.Alike (metering : Metering ι α ρ) (account other : α) : Prop :=
  ∀ resource limit, metering.ceiling resource = some limit →
    metering.used account resource = metering.used other resource

/-- What the items need in addition comes to no more than some totals. -/
def Metering.Covers (metering : Metering ι α ρ) (total : ρ → Nat) (items : List ι) (account : α) :
    Prop :=
  ∀ resource limit, metering.ceiling resource = some limit →
    metering.used account resource + metering.demand items resource ≤ total resource

/-- Accounts that refuse an item alike also take it alike. -/
theorem Metered.verdicts (metered : Metered judge metering)
    (same : judge item account = .refused ↔ judge item other = .refused) :
    judge item account = .fails ∧ judge item other = .fails ∨
      judge item account = .refused ∧ judge item other = .refused ∨
      ∃ left left', judge item account = .taken left ∧ judge item other = .taken left' := by
  cases here : judge item account with
  | fails =>
    cases there : judge item other with
    | fails => exact .inl ⟨rfl, rfl⟩
    | refused => cases here.symm.trans (same.mpr there)
    | taken left => exact absurd there (metered.fails item account other left here)
  | refused => exact .inr (.inl ⟨rfl, same.mp here⟩)
  | taken left =>
    cases there : judge item other with
    | fails => exact absurd here (metered.fails item other account left there)
    | refused => cases here.symm.trans (same.mpr there)
    | taken left' => exact .inr (.inr ⟨left, left', rfl, rfl⟩)

theorem Metered.refused_of_alike (metered : Metered judge metering)
    (alike : metering.Alike account other) :
    judge item account = .refused ↔ judge item other = .refused := by
  rw [metered.refused_iff, metered.refused_iff, Metering.HasRoom, Metering.HasRoom]
  refine not_congr (and_congr_right fun _ => forall₄_congr fun resource limit _ ceiling => ?_)
  rw [alike resource limit ceiling]

/-- What was used up is not given back. -/
theorem Metered.refused_of_taken (metered : Metered judge metering)
    (taken : judge first account = .taken left) (refused : judge second account = .refused) :
    judge second left = .refused := by
  rw [metered.refused_iff] at refused ⊢
  refine fun room => refused ⟨room.1, fun resource limit checked ceiling => ?_⟩
  have spent := metered.spends first account left taken resource limit ceiling
  have bound := metered.capped account resource
  have enough := room.2 resource limit checked ceiling
  omega

/-- A run takes the same from accounts that are alike. -/
theorem Metered.takes_of_alike (metered : Metered judge metering)
    (alike : metering.Alike account other) : takes judge items account = takes judge items other := by
  induction items generalizing account other with
  | nil => rw [takes_nil, takes_nil]
  | cons item rest ih =>
    have verdicts : judge item account = .refused ↔ judge item other = .refused :=
      metered.refused_of_alike alike
    rcases metered.verdicts verdicts with ⟨here, there⟩ | ⟨here, there⟩ | ⟨left, left', here, there⟩
    · rw [takes_of_fails here, takes_of_fails there]
    · rw [takes_of_refused here, takes_of_refused there, ih alike]
    · rw [takes_of_taken here, takes_of_taken there]
      refine congrArg _ (ih fun resource limit ceiling => ?_)
      rw [metered.spends item account left here resource limit ceiling,
        metered.spends item other left' there resource limit ceiling, alike resource limit ceiling]

/-- Items that have no room at the start take no part in a run. -/
theorem Metered.takes_roomy (metered : Metered judge metering)
    (later : ∀ item, judge item base = .refused → judge item account = .refused) :
    takes judge (metering.roomy base items) account = takes judge items account := by
  induction items generalizing account with
  | nil => rfl
  | cons item rest ih =>
    by_cases room : metering.HasRoom base item
    · rw [Metering.roomy_cons, if_pos room]
      cases verdict : judge item account with
      | fails => rw [takes_of_fails verdict, takes_of_fails verdict]
      | refused => rw [takes_of_refused verdict, takes_of_refused verdict, ih later]
      | taken left =>
        rw [takes_of_taken verdict, takes_of_taken verdict, ih fun other refused =>
          metered.refused_of_taken verdict (later other refused)]
    · have verdict := later item ((metered.refused_iff item base).mpr room)
      rw [Metering.roomy_cons, if_neg room, takes_of_refused verdict, ih later]

/-! ### Order -/

variable {total : ρ → Nat}

theorem Metering.Covers.perm (covers : metering.Covers total items account)
    (perm : others.Perm items) : metering.Covers total others account := by
  intro resource limit ceiling
  rw [Metering.demand_perm perm]
  exact covers resource limit ceiling

theorem Metering.Covers.rest (covers : metering.Covers total (item :: items) account) :
    metering.Covers total items account := by
  intro resource limit ceiling
  have enough := covers resource limit ceiling
  rw [Metering.demand_cons] at enough
  omega

theorem Metered.covers (metered : Metered judge metering)
    (covers : metering.Covers total (item :: items) account)
    (taken : judge item account = .taken left) : metering.Covers total items left := by
  intro resource limit ceiling
  have enough := covers resource limit ceiling
  have spent := metered.spends item account left taken resource limit ceiling
  rw [Metering.demand_cons] at enough
  omega

/-- Two items that do not want the same scarce resource. -/
def Metering.Apart (metering : Metering ι α ρ) (total : ρ → Nat) (first second : ι) : Prop :=
  ∀ resource limit, metering.ceiling resource = some limit → limit < total resource →
    (metering.checks first resource → metering.cost second resource = 0) ∧
      (metering.checks second resource → metering.cost first resource = 0)

theorem Metering.Apart.symm (apart : metering.Apart total first second) :
    metering.Apart total second first :=
  fun resource limit ceiling scarce => (apart resource limit ceiling scarce).symm

/-- Such items are refused alike before and after one another. -/
theorem Metered.refused_of_apart (metered : Metered judge metering)
    (apart : metering.Apart total first second)
    (covers : metering.Covers total (first :: second :: items) account)
    (taken : judge first account = .taken left) :
    judge second account = .refused ↔ judge second left = .refused := by
  refine ⟨metered.refused_of_taken taken, fun refused => ?_⟩
  rw [metered.refused_iff] at refused ⊢
  refine fun room => refused ⟨room.1, fun resource limit checked ceiling => ?_⟩
  have enough := room.2 resource limit checked ceiling
  have spent := metered.spends first account left taken resource limit ceiling
  have all := covers resource limit ceiling
  rw [Metering.demand_cons, Metering.demand_cons] at all
  by_cases scarce : limit < total resource
  · have free := (apart resource limit ceiling scarce).2 checked
    omega
  · omega

theorem Metered.takes_swap (metered : Metered judge metering)
    (apart : metering.Apart total first second)
    (covers : metering.Covers total (first :: second :: items) account) :
    takes judge (first :: second :: items) account = takes judge (second :: first :: items) account := by
  have covers' : metering.Covers total (second :: first :: items) account :=
    covers.perm (List.Perm.swap ..)
  cases one : judge first account with
  | fails =>
    rw [takes_of_fails one]
    cases two : judge second account with
    | fails => rw [takes_of_fails two]
    | refused => rw [takes_of_refused two, takes_of_fails one]
    | taken left =>
      rcases metered.verdicts (metered.refused_of_apart apart.symm covers' two) with
        ⟨-, there⟩ | ⟨here, -⟩ | ⟨_, _, here, -⟩
      · rw [takes_of_taken two, takes_of_fails there]
        rfl
      · cases one.symm.trans here
      · cases one.symm.trans here
  | refused =>
    rw [takes_of_refused one]
    cases two : judge second account with
    | fails => rw [takes_of_fails two, takes_of_fails two]
    | refused => rw [takes_of_refused two, takes_of_refused two, takes_of_refused one]
    | taken left =>
      rw [takes_of_taken two, takes_of_taken two,
        takes_of_refused (metered.refused_of_taken two one)]
  | taken left =>
    rw [takes_of_taken one]
    rcases metered.verdicts (metered.refused_of_apart apart covers one) with
      ⟨two, there⟩ | ⟨two, there⟩ | ⟨left₂, later, two, there⟩
    · rw [takes_of_fails two, takes_of_fails there]
      rfl
    · rw [takes_of_refused two, takes_of_refused there, takes_of_taken one]
    · rcases metered.verdicts (metered.refused_of_apart apart.symm covers' two) with
        ⟨here, -⟩ | ⟨here, -⟩ | ⟨_, later₂, -, there₂⟩
      · cases one.symm.trans here
      · cases one.symm.trans here
      · rw [takes_of_taken two, takes_of_taken there, takes_of_taken there₂, Option.map_map,
          Option.map_map]
        have alike : metering.Alike later later₂ := by
          intro resource limit ceiling
          rw [metered.spends second left later there resource limit ceiling,
            metered.spends first account left one resource limit ceiling,
            metered.spends first left₂ later₂ there₂ resource limit ceiling,
            metered.spends second account left₂ two resource limit ceiling]
          omega
        rw [metered.takes_of_alike alike]
        refine congrArg (Option.map · (takes judge items later₂)) ?_
        funext taken
        exact Set.insert_comm first second taken

theorem Metered.takes_cons (metered : Metered judge metering)
    (covers : metering.Covers total (item :: items) account)
    (same : ∀ left, metering.Covers total items left →
      takes judge others left = takes judge items left) :
    takes judge (item :: others) account = takes judge (item :: items) account := by
  cases verdict : judge item account with
  | fails => rw [takes_of_fails verdict, takes_of_fails verdict]
  | refused => rw [takes_of_refused verdict, takes_of_refused verdict, same account covers.rest]
  | taken left =>
    rw [takes_of_taken verdict, takes_of_taken verdict, same left (metered.covers covers verdict)]

/-- An item may as well come before others that do not want the same scarce resource. -/
theorem Metered.takes_front (metered : Metered judge metering) {before : List ι}
    (apart : ∀ earlier ∈ before, metering.Apart total item earlier)
    (covers : metering.Covers total (item :: (before ++ items)) account) :
    takes judge (before ++ item :: items) account = takes judge (item :: (before ++ items)) account := by
  induction before generalizing account with
  | nil => rfl
  | cons earlier before ih =>
    obtain ⟨here, apart⟩ := List.forall_mem_cons.mp apart
    refine Eq.trans ?_ (metered.takes_swap here covers).symm
    exact metered.takes_cons (covers.perm (List.Perm.swap ..)) fun left => ih apart

/-- Two orders take the same, where no two items that want the same scarce resource stand in one
order here and in the other order there. -/
theorem Metered.takes_reordered (metered : Metered judge metering) (perm : others.Perm items)
    (covers : metering.Covers total items account)
    (apart : ∀ first second, [first, second].Sublist items → [second, first].Sublist others →
      metering.Apart total first second) :
    takes judge others account = takes judge items account := by
  induction items generalizing others account with
  | nil => rw [List.perm_nil.mp perm]
  | cons item rest ih =>
    obtain ⟨before, behind, rfl⟩ := List.append_of_mem (perm.mem_iff.mpr List.mem_cons_self)
    have shorter : (before ++ behind).Perm rest := (List.perm_middle.symm.trans perm).cons_inv
    have early : ∀ earlier ∈ before, metering.Apart total item earlier := by
      intro earlier member
      apply apart
      · exact List.cons_sublist_cons.mpr (List.singleton_sublist.mpr
          (shorter.mem_iff.mp (List.mem_append_left behind member)))
      · exact List.Sublist.append (List.singleton_sublist.mpr member)
          (List.singleton_sublist.mpr List.mem_cons_self)
    rw [metered.takes_front early (covers.perm (shorter.cons item))]
    refine metered.takes_cons covers fun left covers => ih shorter covers fun one two here there => ?_
    apply apart one two (here.cons item)
    exact there.trans ((List.Sublist.refl before).append (List.sublist_cons_self item behind))

/-- The same, with what is scarce counted over the items that have room. -/
theorem Metered.takes_perm (metered : Metered judge metering) (perm : others.Perm items)
    (peaceful : ∀ first second, [first, second].Sublist items → [second, first].Sublist others →
      metering.HasRoom base first → metering.HasRoom base second →
      ¬metering.Contend items base first second) :
    takes judge others base = takes judge items base := by
  have roomy (list : List ι) : takes judge (metering.roomy base list) base = takes judge list base :=
    metered.takes_roomy fun _ => id
  rw [← roomy others, ← roomy items]
  refine metered.takes_reordered (Metering.roomy_perm perm) (fun _ _ _ => Nat.le_refl _) ?_
  intro first second here there resource limit ceiling scarce
  have room : ∀ item ∈ [first, second], metering.HasRoom base item := fun item member =>
    (Metering.mem_roomy_iff.mp (here.subset member)).2
  have peace := peaceful first second (here.trans Metering.roomy_sublist)
    (there.trans Metering.roomy_sublist)
    (room first List.mem_cons_self) (room second (List.mem_cons_of_mem _ List.mem_cons_self))
  constructor
  · intro checked
    by_contra some
    exact peace ⟨resource, ⟨limit, ceiling, scarce⟩, .inl ⟨checked, Nat.pos_of_ne_zero some⟩⟩
  · intro checked
    by_contra some
    exact peace ⟨resource, ⟨limit, ceiling, scarce⟩, .inr ⟨checked, Nat.pos_of_ne_zero some⟩⟩

end

end Greedy
