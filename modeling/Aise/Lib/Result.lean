import Mathlib.Data.List.Forall2
import Mathlib.Data.List.Induction

/-! Peeling computations that may fail. A run that succeeds went through every
step, so its result is found by going back from the last one. -/
namespace Result

theorem bind_eq_ok {first : Except E α} {next : α → Except E β}
    (ok : (first >>= next) = .ok result) : ∃ value, first = .ok value ∧ next value = .ok result := by
  cases first with
  | error _ => contradiction
  | ok value => exact ⟨value, rfl, ok⟩

theorem bind_eq_error {first : Except E α} {next : α → Except E β}
    (failed : (first >>= next) = .error error) :
    first = .error error ∨ ∃ value, first = .ok value ∧ next value = .error error := by
  cases first with
  | error _ =>
    cases failed
    exact .inl rfl
  | ok value => exact .inr ⟨value, rfl, failed⟩

/-- A step that is known to succeed is passed. -/
theorem ok_bind {first : Except E α} (ok : first = .ok value) (next : α → Except E β) :
    (first >>= next) = next value := by
  rw [ok]
  rfl

theorem bind_total {first : Except E α} {next : α → Except E β}
    (starts : ∃ value, first = .ok value)
    (continues : ∀ value, first = .ok value → ∃ result, next value = .ok result) :
    ∃ result, (first >>= next) = .ok result := by
  obtain ⟨value, rfl⟩ := starts
  exact continues value rfl

/-- A check and what follows it succeed together. -/
theorem check_bind_eq_ok {check : Except E Unit} {next : Unit → Except E α} :
    (check >>= next) = .ok result ↔ check = .ok ⟨⟩ ∧ next ⟨⟩ = .ok result := by
  cases check with
  | error _ => simp [bind, Except.bind]
  | ok value => simp [bind, Except.bind]

theorem forM_eq_ok {check : α → Except E Unit} {items : List α} :
    items.forM check = .ok ⟨⟩ ↔ ∀ item ∈ items, check item = .ok ⟨⟩ := by
  induction items with
  | nil => simp [List.forM, pure, Except.pure]
  | cons item rest ih => rw [List.forM, check_bind_eq_ok, ih, List.forall_mem_cons]

theorem forM_eq_error {check : α → Except E Unit} {items : List α}
    (failed : items.forM check = .error error) : ∃ item ∈ items, check item = .error error := by
  induction items with
  | nil => cases failed
  | cons item rest ih =>
    rcases bind_eq_error failed with here | ⟨_, _, later⟩
    · exact ⟨item, List.mem_cons_self, here⟩
    · obtain ⟨other, member, here⟩ := ih later
      exact ⟨other, List.mem_cons_of_mem _ member, here⟩

/-- Whether a run succeeds, or how it fails. -/
def verdict (run : Except E α) : Except E Unit := run.map fun _ => ()

theorem verdict_bind {first : Except E α} {second : Except E β} {next : α → Except E γ}
    {after : β → Except E δ} (same : verdict first = verdict second)
    (later : ∀ value other, verdict (next value) = verdict (after other)) :
    verdict (first >>= next) = verdict (second >>= after) := by
  cases first with
  | error failure =>
    cases second with
    | error other =>
      cases same
      rfl
    | ok other => cases same
  | ok value =>
    cases second with
    | error other => cases same
    | ok other => exact later value other

/-- What does not use a run's value only depends on its verdict. -/
theorem bind_eq_verdict (run : Except E α) (next : Except E β) :
    (run >>= fun _ => next) = verdict run >>= fun _ => next := by
  cases run with
  | error _ => rfl
  | ok value => rfl

theorem mapError_eq_ok {run : Except E α} {change : E → F} :
    run.mapError change = .ok result ↔ run = .ok result := by
  cases run with
  | error _ => simp [Except.mapError]
  | ok value => simp [Except.mapError]

theorem mapError_eq_error {run : Except E α} {change : E → F}
    (failed : run.mapError change = .error error) :
    ∃ cause, run = .error cause ∧ change cause = error := by
  cases run with
  | error cause => exact ⟨cause, rfl, Except.error.inj failed⟩
  | ok value => cases failed

/-- `ok_or`. -/
def okOr (value : Option α) (missing : E) : Except E α :=
  match value with
  | some value => .ok value
  | none => .error missing

theorem okOr_eq_ok {value : Option α} {missing : E} {result : α} :
    okOr value missing = .ok result ↔ value = some result := by
  cases value with
  | none => simp [okOr]
  | some value => simp [okOr]

/-- A result, with the run that it comes from. -/
def attach (run : Except E α) : Except E { value // run = .ok value } :=
  match run with
  | .ok value => .ok ⟨value, rfl⟩
  | .error failure => .error failure

theorem attach_eq_error {run : Except E α} {failure : E} :
    attach run = .error failure ↔ run = .error failure := by
  cases run with
  | error other => simp [attach]
  | ok value => simp [attach]

/-- An early return with a failure. -/
def failIf (bad : Prop) [Decidable bad] (failure : E) : Except E Unit :=
  if bad then .error failure else .ok ⟨⟩

theorem failIf_eq_ok {bad : Prop} [Decidable bad] {failure : E} {result : Unit} :
    failIf bad failure = .ok result ↔ ¬bad := by
  unfold failIf
  split
  · rename_i holds
    simp [holds]
  · rename_i fine
    simp [fine]

/-- A run that is known to succeed yields its value. -/
theorem eq_ok_of_isSome {run : Except E α} (succeeds : run.toOption.isSome = true) (other : α) :
    run = .ok (run.toOption.getD other) := by
  cases run with
  | error _ => cases succeeds
  | ok value => rfl

theorem toOption_eq_some {run : Except E α} {value : α} (same : run.toOption = some value) :
    run = .ok value := by
  cases run with
  | error failure => cases same
  | ok result =>
    cases same
    rfl

/-- A loop fails only as one of its rounds does. -/
theorem foldlM_eq_error {round : β → α → Except E β} {items : List α}
    (failed : items.foldlM round total = .error error) :
    ∃ total, ∃ item ∈ items, round total item = .error error := by
  induction items generalizing total with
  | nil => cases failed
  | cons item rest ih =>
    rw [List.foldlM_cons] at failed
    rcases bind_eq_error failed with here | ⟨next, _, later⟩
    · exact ⟨total, item, List.mem_cons_self, here⟩
    · obtain ⟨total, other, member, here⟩ := ih later
      exact ⟨total, other, List.mem_cons_of_mem _ member, here⟩

/-- What every round keeps, a loop that succeeds keeps. -/
theorem foldlM_invariant {round : β → α → Except E β} {items : List α} {P : β → Prop}
    (keeps : ∀ {total item next}, P total → round total item = .ok next → P next)
    (ok : items.foldlM round total = .ok last) (initial : P total) : P last := by
  induction items generalizing total with
  | nil =>
    cases ok
    exact initial
  | cons item rest ih =>
    rw [List.foldlM_cons] at ok
    obtain ⟨next, first, later⟩ := bind_eq_ok ok
    exact ih later (keeps initial first)

theorem foldlM_singleton {round : β → α → Except E β} {total next : β} {item : α} :
    [item].foldlM round total = .ok next ↔ round total item = .ok next := by
  rw [List.foldlM_cons]
  cases round total item with
  | error _ => rfl
  | ok after => rfl

theorem foldlM_cons_ok {round : β → α → Except E β} {item : α} (ok : round total item = .ok between)
    (rest : List α) : (item :: rest).foldlM round total = rest.foldlM round between := by
  rw [List.foldlM_cons, ok]
  rfl

theorem foldlM_append_ok {round : β → α → Except E β} {items : List α}
    (ok : items.foldlM round total = .ok between) (rest : List α) :
    (items ++ rest).foldlM round total = rest.foldlM round between := by
  rw [List.foldlM_append, ok]
  rfl

/-- A loop that succeeds has taken every first part of its items. -/
theorem foldlM_prefix {round : β → α → Except E β} {before items : List α}
    (ok : items.foldlM round total = .ok last) (inside : before <+: items) :
    ∃ between, before.foldlM round total = .ok between := by
  obtain ⟨rest, rfl⟩ := inside
  rw [List.foldlM_append] at ok
  obtain ⟨between, first, _⟩ := bind_eq_ok ok
  exact ⟨between, first⟩

/-- Where a round keeps a property exactly under a condition, all totals of a loop have the property
exactly if all its rounds meet the condition. -/
theorem foldlM_always_iff {round : β → α → Except E β} {items : List α} {P : β → Prop} {K : β → α → Prop}
    (step : ∀ {total item next}, P total → round total item = .ok next → (P next ↔ K total item))
    (ok : items.foldlM round total = .ok last) (initial : P total) :
    (∀ before, before <+: items → ∀ between, before.foldlM round total = .ok between → P between) ↔
      ∀ before item, before ++ [item] <+: items → ∀ between,
        before.foldlM round total = .ok between → K between item := by
  constructor
  · intro always before item inside between reached
    have holds := always before ((List.prefix_append _ _).trans inside) between reached
    obtain ⟨next, further⟩ := foldlM_prefix ok inside
    have later := always _ inside next further
    rw [List.foldlM_append, reached] at further
    exact (step holds (foldlM_singleton.mp further)).mp later
  · intro meets before
    induction before using List.reverseRecOn with
    | nil =>
      intro _ between reached
      cases reached
      exact initial
    | append_singleton before item ih =>
      intro inside next reached
      rw [List.foldlM_append] at reached
      obtain ⟨between, first, further⟩ := bind_eq_ok reached
      have holds := ih ((List.prefix_append _ _).trans inside) between first
      exact (step holds (foldlM_singleton.mp further)).mpr (meets before item inside between first)

/-- What every round over an item of the list keeps, a loop that succeeds keeps. -/
theorem foldlM_invariant_mem {round : β → α → Except E β} {items : List α} {P : β → Prop}
    (keeps : ∀ {total item next}, P total → item ∈ items → round total item = .ok next → P next)
    (ok : items.foldlM round total = .ok last) (initial : P total) : P last := by
  induction items generalizing total with
  | nil =>
    cases ok
    exact initial
  | cons item rest ih =>
    rw [List.foldlM_cons] at ok
    obtain ⟨next, first, later⟩ := bind_eq_ok ok
    exact ih (fun holds member => keeps holds (List.mem_cons_of_mem _ member)) later
      (keeps initial List.mem_cons_self first)

/-- What a loop that succeeds has collected is what every round of it adds. -/
theorem foldlM_collects {round : β → α → Except E β} {items : List α} {P : β → Prop}
    {H : β → τ → Prop} {G : α → τ → Prop}
    (each : ∀ {total item next}, P total → item ∈ items → round total item = .ok next →
      P next ∧ ∀ thing, H next thing ↔ H total thing ∨ G item thing)
    (ok : items.foldlM round total = .ok last) (initial : P total) :
    P last ∧ ∀ thing, H last thing ↔ H total thing ∨ ∃ item ∈ items, G item thing := by
  induction items generalizing total with
  | nil =>
    cases ok
    exact ⟨initial, fun thing => by simp⟩
  | cons item rest ih =>
    rw [List.foldlM_cons] at ok
    obtain ⟨next, first, later⟩ := bind_eq_ok ok
    obtain ⟨kept, added⟩ := each initial List.mem_cons_self first
    obtain ⟨final, others⟩ :=
      ih (fun holds member => each holds (List.mem_cons_of_mem _ member)) later kept
    refine ⟨final, fun thing => ?_⟩
    rw [others, added, List.exists_mem_cons_iff, or_assoc]

/-- A loop over groups whose rounds are loops over their items is one loop over all the items. -/
theorem foldlM_flatMap_iff {round : β → τ → Except E β} {inner : β → α → Except E β} {check : τ → Prop}
    {items : τ → List α} {groups : List τ}
    (each : ∀ group ∈ groups, ∀ total next,
      round total group = .ok next ↔ check group ∧ (items group).foldlM inner total = .ok next)
    {total last : β} :
    groups.foldlM round total = .ok last ↔
      (∀ group ∈ groups, check group) ∧ (groups.flatMap items).foldlM inner total = .ok last := by
  induction groups generalizing total with
  | nil => simp
  | cons group rest ih =>
    have later := fun other member => each other (List.mem_cons_of_mem _ member)
    rw [List.foldlM_cons, List.flatMap_cons, List.foldlM_append, List.forall_mem_cons]
    constructor
    · intro ok
      obtain ⟨between, first, ok⟩ := bind_eq_ok ok
      obtain ⟨holds, first⟩ := (each group List.mem_cons_self total between).mp first
      obtain ⟨others, ok⟩ := (ih later).mp ok
      rw [first]
      exact ⟨⟨holds, others⟩, ok⟩
    · rintro ⟨⟨holds, others⟩, ok⟩
      obtain ⟨between, first, ok⟩ := bind_eq_ok ok
      rw [(each group List.mem_cons_self total between).mpr ⟨holds, first⟩]
      exact (ih later).mpr ⟨others, ok⟩

/-- A loop that adds items under new keys succeeds exactly if the items are fit and their keys are
distinct and new. -/
theorem foldlM_fresh_iff (key : α → κ) (taken : β → κ → Prop) {round : β → α → Except E β}
    {add : β → α → β} {fit : α → Prop}
    (each : ∀ total item next, round total item = .ok next ↔
      fit item ∧ ¬taken total (key item) ∧ next = add total item)
    (takes : ∀ total item other, fit item →
      (taken (add total item) other ↔ other = key item ∨ taken total other))
    {items : List α} {total last : β} :
    items.foldlM round total = .ok last ↔
      (∀ item ∈ items, fit item) ∧ (items.map key).Nodup ∧ (∀ item ∈ items, ¬taken total (key item)) ∧
        last = items.foldl add total := by
  induction items generalizing total with
  | nil => simp [pure, Except.pure, eq_comm]
  | cons item rest ih =>
    rw [List.foldlM_cons, List.forall_mem_cons, List.forall_mem_cons, List.map_cons, List.nodup_cons,
      List.foldl_cons]
    constructor
    · intro ok
      obtain ⟨between, first, ok⟩ := bind_eq_ok ok
      obtain ⟨fits, fresh, rfl⟩ := (each total item between).mp first
      obtain ⟨others, distinct, apart, rfl⟩ := ih.mp ok
      refine ⟨⟨fits, others⟩, ⟨?_, distinct⟩, ⟨fresh, ?_⟩, rfl⟩
      · intro again
        obtain ⟨other, member, same⟩ := List.mem_map.mp again
        exact apart other member ((takes total item _ fits).mpr (.inl same))
      · intro other member before
        exact apart other member ((takes total item _ fits).mpr (.inr before))
    · rintro ⟨⟨fits, others⟩, ⟨once, distinct⟩, ⟨fresh, apart⟩, rfl⟩
      rw [(each total item _).mpr ⟨fits, fresh, rfl⟩]
      refine ih.mpr ⟨others, distinct, ?_, rfl⟩
      intro other member before
      rcases (takes total item _ fits).mp before with same | earlier
      · exact once (same ▸ List.mem_map_of_mem member)
      · exact apart other member earlier

theorem mapM_eq_ok {f : α → Except E β} {items : List α}
    (ok : items.mapM f = .ok results) : List.Forall₂ (fun item result => f item = .ok result)
      items results := by
  induction items generalizing results with
  | nil =>
    cases ok
    exact .nil
  | cons item rest ih =>
    rw [List.mapM_cons] at ok
    obtain ⟨result, first, ok⟩ := bind_eq_ok ok
    obtain ⟨later, others, ok⟩ := bind_eq_ok ok
    cases ok
    exact .cons first (ih others)

/-- Whatever is on the right of a list of pairs has something on the left. -/
theorem exists_of_forall₂ {R : α → β → Prop} {items : List α} {results : List β}
    (related : List.Forall₂ R items results) (member : result ∈ results) :
    ∃ item ∈ items, R item result := by
  induction related with
  | nil => cases member
  | cons first _ ih =>
    rcases List.mem_cons.mp member with rfl | later
    · exact ⟨_, List.mem_cons_self, first⟩
    · obtain ⟨item, among, here⟩ := ih later
      exact ⟨item, List.mem_cons_of_mem _ among, here⟩

theorem forall₂_total {R : α → β → Prop} {items : List α}
    (each : ∀ item ∈ items, ∃ result, R item result) :
    ∃ results, List.Forall₂ R items results := by
  induction items with
  | nil => exact ⟨[], .nil⟩
  | cons item rest ih =>
    obtain ⟨⟨first, here⟩, later⟩ := List.forall_mem_cons.mp each
    obtain ⟨results, others⟩ := ih later
    exact ⟨first :: results, .cons here others⟩

/-- What is said on the right is what the items on the left say, in the same order. -/
theorem map_of_forall₂ {R : α → β → Prop} (said : β → τ) (view : α → τ) {items : List α}
    {results : List β} (related : List.Forall₂ R items results)
    (agree : ∀ item ∈ items, ∀ result, R item result → said result = view item) :
    results.map said = items.map view := by
  induction related with
  | nil => rfl
  | cons first _ ih =>
    obtain ⟨here, later⟩ := List.forall_mem_cons.mp agree
    rw [List.map_cons, List.map_cons, here _ first, ih later]

/-- What is collected on the right is what the items on the left say. -/
theorem filterMap_of_forall₂ {R : α → β → Prop} (collect : β → Option τ) (view : τ → σ) (said : α → σ)
    {items : List α} {results : List β} (related : List.Forall₂ R items results)
    (each : ∀ {item result}, R item result → (collect result).map view = some (said item)) :
    (results.filterMap collect).map view = items.map said := by
  induction related with
  | nil => rfl
  | cons first _ ih =>
    obtain ⟨thing, collected, viewed⟩ := Option.map_eq_some_iff.mp (each first)
    rw [List.filterMap_cons_some collected, List.map_cons, List.map_cons, viewed, ih]

/-- An order of the items on the left is one of those on the right. -/
theorem pairwise_of_forall₂ {R : α → β → Prop} {S : α → α → Prop} {T : β → β → Prop}
    {items : List α} {results : List β} (related : List.Forall₂ R items results)
    (ordered : items.Pairwise S)
    (carry : ∀ {item result other last}, R item result → R other last → S item other → T result last) :
    results.Pairwise T := by
  induction related with
  | nil => exact .nil
  | cons first others ih =>
    obtain ⟨before, later⟩ := List.pairwise_cons.mp ordered
    refine .cons (fun result member => ?_) (ih later)
    obtain ⟨item, among, here⟩ := exists_of_forall₂ others member
    exact carry first here (before item among)

theorem map_eq_ok {run : Except E α} {view : α → β} {result : β} (ok : run.map view = .ok result) :
    ∃ value, run = .ok value ∧ view value = result := by
  cases run with
  | error failure => cases ok
  | ok value => exact ⟨value, rfl, Except.ok.inj ok⟩

theorem map_eq_error {run : Except E α} {view : α → β} {failure : E}
    (failed : run.map view = .error failure) : run = .error failure := by
  cases run with
  | error other => rw [Except.error.inj failed]
  | ok value => cases failed

/-- What every item of a list of pairs gives, a map over the items gives. -/
theorem mapM_of_forall₂ {f : α → Except E β} {view : τ → β} {R : α → τ → Prop} {items : List α}
    {results : List τ} (related : List.Forall₂ R items results)
    (each : ∀ {item result}, R item result → f item = .ok (view result)) :
    items.mapM f = .ok (results.map view) := by
  induction related with
  | nil => rfl
  | cons first _ ih =>
    rw [List.mapM_cons, each first, ih]
    rfl

theorem mapM_total {f : α → Except E β} {items : List α}
    (each : ∀ item ∈ items, ∃ result, f item = .ok result) :
    ∃ results, items.mapM f = .ok results := by
  induction items with
  | nil => exact ⟨[], rfl⟩
  | cons item rest ih =>
    obtain ⟨⟨first, here⟩, later⟩ := List.forall_mem_cons.mp each
    obtain ⟨results, others⟩ := ih later
    refine ⟨first :: results, ?_⟩
    rw [List.mapM_cons, here, others]
    rfl

/-! ### How a run can fail -/

/-- A run fails, if at all, in one of the given ways. -/
def OnlyFails (P : E → Prop) (run : Except E α) : Prop := ∀ failure, run = .error failure → P failure

namespace OnlyFails
variable {P : E → Prop}

theorem ok (value : α) : OnlyFails P (.ok value) := by
  intro failure failed
  cases failed

theorem error {failure : E} (holds : P failure) : OnlyFails (α := α) P (.error failure) := by
  intro other failed
  cases failed
  exact holds

theorem failIf {bad : Prop} [Decidable bad] {failure : E} (holds : P failure) :
    OnlyFails P (failIf bad failure) := by
  unfold Result.failIf
  split
  · exact error holds
  · exact ok _

theorem bind {first : Except E α} {next : α → Except E β} (starts : OnlyFails P first)
    (continues : ∀ value, first = .ok value → OnlyFails P (next value)) : OnlyFails P (first >>= next) := by
  intro failure failed
  rcases bind_eq_error failed with here | ⟨value, succeeded, later⟩
  · exact starts failure here
  · exact continues value succeeded failure later

theorem forM {check : α → Except E Unit} {items : List α} (each : ∀ item ∈ items, OnlyFails P (check item)) :
    OnlyFails P (items.forM check) := by
  intro failure failed
  obtain ⟨item, member, here⟩ := forM_eq_error failed
  exact each item member failure here

end OnlyFails

end Result
