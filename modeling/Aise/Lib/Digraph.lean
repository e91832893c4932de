import Mathlib.Data.List.Perm.Subperm
import Mathlib.Logic.Relation
import Mathlib.Tactic.Common

/-! Walks through a directed graph that is given by what follows each node. The search for a cycle
goes depth first: the nodes on its way form a path, and the nodes that it has left behind are closed
under edges and lie on no cycle. The exploration keeps a list of the nodes it still has to visit. -/
namespace Digraph
open Relation
variable {α σ τ : Type*} {nexts : α → List α}

abbrev Edge (nexts : α → List α) (a b : α) : Prop := b ∈ nexts a

abbrev OnCycle (nexts : α → List α) (a : α) : Prop := TransGen (Edge nexts) a a

/-! ### Visiting one node after the other -/

/-- `for a in nodes { if visit(a) { return true } } false`, where a visit may run out of depth. -/
def anyOf (visit : α → σ → Option (Bool × σ)) : List α → σ → Option (Bool × σ)
  | [], state => some (false, state)
  | a :: rest, state => do
    let (found, state) ← visit a state
    if found then some (true, state) else anyOf visit rest state

section
variable {visit : α → σ → Option (Bool × σ)} {other : α → τ → Option (Bool × τ)}

theorem anyOf_cons_eq_some {a : α} {rest : List α} {state last : σ} {found : Bool} :
    anyOf visit (a :: rest) state = some (found, last) ↔
      (visit a state = some (true, last) ∧ found = true) ∨
        ∃ next, visit a state = some (false, next) ∧ anyOf visit rest next = some (found, last) := by
  rw [anyOf]
  cases visited : visit a state with
  | none => simp
  | some result =>
    obtain ⟨_ | _, next⟩ := result
    · simp
    · simp only [Option.bind_eq_bind, Option.bind_some, if_true, Option.some.injEq, Prod.mk.injEq]
      constructor
      · rintro ⟨rfl, rfl⟩
        exact .inl ⟨⟨trivial, rfl⟩, rfl⟩
      · rintro (⟨⟨-, rfl⟩, rfl⟩ | ⟨_, ⟨found, -⟩, -⟩)
        · exact ⟨rfl, rfl⟩
        · cases found

/-- What every visit keeps that finds nothing. -/
theorem anyOf_keeps {P : σ → Prop} {nodes : List α} {state last : σ}
    (keeps : ∀ a ∈ nodes, ∀ {s t}, P s → visit a s = some (false, t) → P t) (initial : P state)
    (ran : anyOf visit nodes state = some (false, last)) : P last := by
  induction nodes generalizing state with
  | nil =>
    cases ran
    exact initial
  | cons a rest ih =>
    rcases anyOf_cons_eq_some.mp ran with ⟨-, found⟩ | ⟨next, visited, ran⟩
    · cases found
    · exact ih (fun b member => keeps b (List.mem_cons_of_mem a member))
        (keeps a List.mem_cons_self initial visited) ran

/-- All visits end where every visit ends that the others led to. -/
theorem anyOf_isSome {P : σ → Prop} {nodes : List α} {state : σ}
    (ends : ∀ a ∈ nodes, ∀ {s}, P s → (visit a s).isSome)
    (keeps : ∀ a ∈ nodes, ∀ {s t}, P s → visit a s = some (false, t) → P t) (initial : P state) :
    (anyOf visit nodes state).isSome := by
  induction nodes generalizing state with
  | nil => rfl
  | cons a rest ih =>
    obtain ⟨⟨found, next⟩, visited⟩ :=
      Option.isSome_iff_exists.mp (ends a List.mem_cons_self initial)
    rw [anyOf, visited]
    cases found with
    | true => rfl
    | false =>
      exact ih (fun b member => ends b (List.mem_cons_of_mem a member))
        (fun b member => keeps b (List.mem_cons_of_mem a member))
        (keeps a List.mem_cons_self initial visited)

theorem anyOf_mono {deeper : α → σ → Option (Bool × σ)} {nodes : List α} {state : σ}
    {result : Bool × σ} (mono : ∀ {a s r}, visit a s = some r → deeper a s = some r)
    (ran : anyOf visit nodes state = some result) : anyOf deeper nodes state = some result := by
  obtain ⟨found, last⟩ := result
  induction nodes generalizing state with
  | nil => exact ran
  | cons a rest ih =>
    rcases anyOf_cons_eq_some.mp ran with ⟨visited, found⟩ | ⟨next, visited, ran⟩
    · exact anyOf_cons_eq_some.mpr (.inl ⟨mono visited, found⟩)
    · exact anyOf_cons_eq_some.mpr (.inr ⟨next, mono visited, ih ran⟩)

theorem anyOf_append {before after : List α} {state : σ} :
    anyOf visit (before ++ after) state = (anyOf visit before state).bind fun (found, next) =>
      if found then some (true, next) else anyOf visit after next := by
  induction before generalizing state with
  | nil => rfl
  | cons a rest ih =>
    rw [List.cons_append, anyOf, anyOf]
    cases visit a state with
    | none => rfl
    | some result =>
      obtain ⟨_ | _, next⟩ := result
      · exact ih
      · rfl

/-- The outcome is the same and the states stay related. -/
def Same (R : σ → τ → Prop) (one : Bool × σ) (two : Bool × τ) : Prop :=
  one.1 = two.1 ∧ R one.2 two.2

theorem anyOf_rel {R : σ → τ → Prop} {nodes : List α} {state : σ} {twin : τ}
    (agree : ∀ a ∈ nodes, ∀ {s t}, R s t → Option.Rel (Same R) (visit a s) (other a t))
    (related : R state twin) :
    Option.Rel (Same R) (anyOf visit nodes state) (anyOf other nodes twin) := by
  induction nodes generalizing state twin with
  | nil => exact .some ⟨rfl, related⟩
  | cons a rest ih =>
    rw [anyOf, anyOf]
    have first := agree a List.mem_cons_self related
    generalize visit a state = one at first
    generalize other a twin = two at first
    cases first with
    | none => exact .none
    | @some one two same =>
      obtain ⟨found, next⟩ := one
      obtain ⟨_, twin⟩ := two
      obtain ⟨rfl, related⟩ := same
      cases found with
      | true => exact .some ⟨rfl, related⟩
      | false => exact ih (fun b member => agree b (List.mem_cons_of_mem a member)) related

end

/-! ### Depth first -/

/-- The nodes on the way, the innermost first, and the nodes that were left. -/
structure Marks (α : Type*) where
  path : List α := []
  done : List α := []

section
variable [DecidableEq α]

/-- Whether a visit of the node finds a node on the way. -/
def visitDeep (nexts : α → List α) : (depth : Nat) → α → Marks α → Option (Bool × Marks α)
  | 0, _, _ => none
  | depth + 1, a, marks =>
    if a ∈ marks.path then some (true, marks)
    else if a ∈ marks.done then some (false, marks)
    else do
      let (found, inner) ← anyOf (visitDeep nexts depth) (nexts a) { marks with path := a :: marks.path }
      if found then some (true, inner)
      else some (false, { path := marks.path, done := a :: inner.done })

theorem visitDeep_mono {depth more : Nat} (le : depth ≤ more) {a : α} {marks : Marks α}
    {result : Bool × Marks α} (ran : visitDeep nexts depth a marks = some result) :
    visitDeep nexts more a marks = some result := by
  induction depth generalizing more a marks result with
  | zero => cases ran
  | succ depth ih =>
    cases more with
    | zero => cases le
    | succ more =>
      rw [visitDeep] at ran ⊢
      split at ran
      · rename_i on_path
        rwa [if_pos on_path]
      · rename_i fresh
        rw [if_neg fresh]
        split at ran
        · rename_i left
          rwa [if_pos left]
        · rename_i unmarked
          obtain ⟨inner, searched, ran⟩ := Option.bind_eq_some_iff.mp ran
          rw [if_neg unmarked, anyOf_mono (ih (Nat.le_of_succ_le_succ le)) searched]
          exact ran

/-- A visit that finds nothing ends on the same path. -/
theorem visitDeep_path {depth : Nat} {a : α} {marks last : Marks α}
    (ran : visitDeep nexts depth a marks = some (false, last)) : last.path = marks.path := by
  cases depth with
  | zero => cases ran
  | succ depth =>
    rw [visitDeep] at ran
    split at ran
    · cases ran
    · split at ran
      · cases ran
        rfl
      · obtain ⟨⟨_ | _, inner⟩, -, ran⟩ := Option.bind_eq_some_iff.mp ran
        · cases ran
          rfl
        · cases ran

theorem anyOf_visitDeep_path {depth : Nat} {nodes : List α} {marks last : Marks α}
    (ran : anyOf (visitDeep nexts depth) nodes marks = some (false, last)) :
    last.path = marks.path := by
  apply anyOf_keeps (P := fun inner => inner.path = marks.path) _ rfl ran
  intro a _ inner last same ran
  exact (visitDeep_path ran).trans same

/-- Every node on the way has one fewer left of those it may still lead to. -/
theorem visitDeep_isSome {nodes : List α} (within : ∀ a ∈ nodes, nexts a ⊆ nodes) {depth : Nat}
    {a : α} {marks : Marks α} (inside : a ∈ nodes) (path_inside : marks.path ⊆ nodes)
    (nodup : marks.path.Nodup) (deep : nodes.length < depth + marks.path.length) :
    (visitDeep nexts depth a marks).isSome := by
  induction depth generalizing a marks with
  | zero =>
    have short := (List.subperm_of_subset nodup path_inside).length_le
    omega
  | succ depth ih =>
    rw [visitDeep]
    split
    · rfl
    · rename_i fresh
      split
      · rfl
      · have searched : (anyOf (visitDeep nexts depth) (nexts a)
            { marks with path := a :: marks.path }).isSome := by
          refine anyOf_isSome (P := fun inner => inner.path = a :: marks.path) ?_ ?_ rfl
          · intro b next inner same
            apply ih (within a inside next)
            · rw [same]
              exact List.cons_subset.mpr ⟨inside, path_inside⟩
            · rw [same]
              exact List.nodup_cons.mpr ⟨fresh, nodup⟩
            · rw [same, List.length_cons]
              omega
          · intro b _ inner last same ran
            exact (visitDeep_path ran).trans same
        obtain ⟨⟨_ | _, inner⟩, searched⟩ := Option.isSome_iff_exists.mp searched
        · rw [searched]
          rfl
        · rw [searched]
          rfl

end

/-- The invariant of the search. -/
structure Searched (nexts : α → List α) (marks : Marks α) : Prop where
  leads : marks.path.Pairwise fun inner outer => TransGen (Edge nexts) outer inner
  nodup : marks.path.Nodup
  apart : ∀ a ∈ marks.path, a ∉ marks.done
  closed : ∀ a ∈ marks.done, nexts a ⊆ marks.done
  acyclic : ∀ a ∈ marks.done, ¬OnCycle nexts a

theorem searched_new : Searched nexts {} where
  leads := .nil
  nodup := List.nodup_nil
  apart := by
    intro a on_path
    cases on_path
  closed := by
    intro a left
    cases left
  acyclic := by
    intro a left
    cases left

variable {marks : Marks α} {a : α}

theorem Searched.reaches_done (searched : Searched nexts marks) {b : α} (inside : a ∈ marks.done)
    (leads : TransGen (Edge nexts) a b) : b ∈ marks.done := by
  induction leads with
  | single edge => exact searched.closed a inside edge
  | tail _ edge ih => exact searched.closed _ ih edge

theorem Searched.enter (searched : Searched nexts marks) (fresh : a ∉ marks.path)
    (unmarked : a ∉ marks.done) (reached : ∀ outer ∈ marks.path, TransGen (Edge nexts) outer a) :
    Searched nexts { marks with path := a :: marks.path } where
  leads := List.pairwise_cons.mpr ⟨reached, searched.leads⟩
  nodup := List.nodup_cons.mpr ⟨fresh, searched.nodup⟩
  apart := by
    intro b on_path
    rcases List.mem_cons.mp on_path with rfl | on_path
    · exact unmarked
    · exact searched.apart b on_path
  closed := searched.closed
  acyclic := searched.acyclic

/-- Nothing that was left leads back to the node, so the node is on no cycle either. -/
theorem Searched.leave {path : List α} (searched : Searched nexts marks)
    (way : marks.path = a :: path) (left : nexts a ⊆ marks.done) :
    Searched nexts { path, done := a :: marks.done } := by
  have leads := searched.leads
  have nodup := searched.nodup
  have apart := searched.apart
  rw [way] at leads nodup apart
  refine ⟨leads.of_cons, nodup.of_cons, fun b on_path member => ?_, fun b member => ?_,
    fun b member around => ?_⟩
  · rcases List.mem_cons.mp member with rfl | member
    · exact (List.nodup_cons.mp nodup).1 on_path
    · exact apart b (List.mem_cons_of_mem a on_path) member
  · apply List.Subset.trans _ (List.subset_cons_self a _)
    rcases List.mem_cons.mp member with rfl | member
    · exact left
    · exact searched.closed b member
  · rcases List.mem_cons.mp member with rfl | member
    · obtain ⟨next, edge, back⟩ := TransGen.head'_iff.mp around
      apply apart b List.mem_cons_self
      rcases reflTransGen_iff_eq_or_transGen.mp back with rfl | back
      · exact left edge
      · exact searched.reaches_done (left edge) back
    · exact searched.acyclic b member around

/-- All nodes on the way lead to what follows the innermost one. -/
theorem Searched.reached (searched : Searched nexts marks)
    (next : ∀ top ∈ marks.path.head?, a ∈ nexts top) :
    ∀ outer ∈ marks.path, TransGen (Edge nexts) outer a := by
  intro outer on_path
  have leads := searched.leads
  cases way : marks.path with
  | nil =>
    rw [way] at on_path
    cases on_path
  | cons top path =>
    rw [way] at leads on_path next
    have edge : Edge nexts top a := next top rfl
    rcases List.mem_cons.mp on_path with rfl | on_path
    · exact .single edge
    · exact .tail (List.rel_of_pairwise_cons leads on_path) edge

/-- A node on the way that comes up again closes a cycle through the innermost node. -/
theorem Searched.cycle (searched : Searched nexts marks) (on_path : a ∈ marks.path)
    (next : ∀ top ∈ marks.path.head?, a ∈ nexts top) :
    ∃ top, marks.path.head? = some top ∧ OnCycle nexts top := by
  have reached := searched.reached next
  have leads := searched.leads
  cases way : marks.path with
  | nil =>
    rw [way] at on_path
    cases on_path
  | cons top path =>
    rw [way] at leads on_path reached
    refine ⟨top, rfl, ?_⟩
    have forth := reached top List.mem_cons_self
    rcases List.mem_cons.mp on_path with rfl | on_path
    · exact forth
    · exact forth.trans (List.rel_of_pairwise_cons leads on_path)

/-- What a visit that ends says of the nodes it was for. -/
inductive Outcome (nexts : α → List α) (nodes : List α) (marks : Marks α) : Bool → Marks α → Prop
  | clean {last : Marks α} (searched : Searched nexts last) (path : last.path = marks.path)
      (left : nodes ⊆ last.done) (kept : marks.done ⊆ last.done) :
      Outcome nexts nodes marks false last
  | cycle {last : Marks α} {top : α} (head : last.path.head? = some top)
      (around : OnCycle nexts top) : Outcome nexts nodes marks true last

theorem anyOf_outcome {visit : α → Marks α → Option (Bool × Marks α)} {nodes : List α}
    {last : Marks α} {found : Bool} (searched : Searched nexts marks)
    (each : ∀ a ∈ nodes, ∀ {inner last found}, Searched nexts inner → inner.path = marks.path →
      visit a inner = some (found, last) → Outcome nexts [a] inner found last)
    (ran : anyOf visit nodes marks = some (found, last)) : Outcome nexts nodes marks found last := by
  induction nodes generalizing marks with
  | nil =>
    cases ran
    exact .clean searched rfl (List.nil_subset _) (List.Subset.refl _)
  | cons a rest ih =>
    rcases anyOf_cons_eq_some.mp ran with ⟨visited, rfl⟩ | ⟨next, visited, ran⟩
    · cases each a List.mem_cons_self searched rfl visited with
      | cycle head around => exact .cycle head around
    · cases each a List.mem_cons_self searched rfl visited with
      | clean searched path left kept =>
        have others := ih searched (fun b member inner last found searched same =>
          each b (List.mem_cons_of_mem a member) searched (same.trans path)) ran
        cases others with
        | clean searched same others keptToo =>
          refine .clean searched (same.trans path) ?_ (List.Subset.trans kept keptToo)
          exact List.cons_subset.mpr ⟨keptToo (left List.mem_cons_self), others⟩
        | cycle head around => exact .cycle head around

theorem visitDeep_outcome [DecidableEq α] {depth : Nat} {last : Marks α} {found : Bool}
    (searched : Searched nexts marks) (next : ∀ top ∈ marks.path.head?, a ∈ nexts top)
    (ran : visitDeep nexts depth a marks = some (found, last)) :
    Outcome nexts [a] marks found last := by
  induction depth generalizing a marks last found with
  | zero => cases ran
  | succ depth ih =>
    rw [visitDeep] at ran
    split at ran
    · rename_i on_path
      cases ran
      obtain ⟨top, way, around⟩ := searched.cycle on_path next
      exact .cycle way around
    · rename_i fresh
      split at ran
      · rename_i left
        cases ran
        exact .clean searched rfl (List.cons_subset.mpr ⟨left, List.nil_subset _⟩) (List.Subset.refl _)
      · rename_i unmarked
        obtain ⟨⟨inside, inner⟩, deeper, ran⟩ := Option.bind_eq_some_iff.mp ran
        have outcome := anyOf_outcome (searched.enter fresh unmarked (searched.reached next))
          (fun b member inner last found searched same ran => ih searched (by
            intro top head
            rw [same] at head
            cases head
            exact member) ran) deeper
        cases outcome with
        | clean searched way left kept =>
          cases ran
          refine .clean (searched.leave way left) rfl ?_ ?_
          · exact List.cons_subset.mpr ⟨List.mem_cons_self, List.nil_subset _⟩
          · exact List.Subset.trans kept (List.subset_cons_self a _)
        | cycle head around =>
          cases ran
          exact .cycle head around

/-! ### Exploring -/

/-- The nodes that can be reached. -/
def Reached (nexts : α → List α) (entries : List α) (a : α) : Prop :=
  ∃ entry ∈ entries, ReflTransGen (Edge nexts) entry a

/-- The invariant of an exploration, of the nodes that it has visited and those it still has to. -/
structure Explored (nexts : α → List α) (entries : List α) (visited : α → Prop) (queue : List α) :
    Prop where
  sound : ∀ a, visited a ∨ a ∈ queue → Reached nexts entries a
  entered : ∀ a ∈ entries, visited a ∨ a ∈ queue
  closed : ∀ a, visited a → ∀ b ∈ nexts a, visited b ∨ b ∈ queue

section
variable {entries queue rest : List α} {visited later : α → Prop}

theorem explored_new (entries : List α) : Explored nexts entries (fun _ => False) entries where
  sound := by
    intro a either
    rcases either with none | entry
    · exact none.elim
    · exact ⟨a, entry, .refl⟩
  entered a entry := .inr entry
  closed a none := none.elim

/-- A node that was visited before needs no other visit. -/
theorem Explored.skip (explored : Explored nexts entries visited queue) (known : visited a)
    (popped : ∀ b, b ∈ queue ↔ b ∈ rest ∨ b = a) : Explored nexts entries visited rest := by
  have settle : ∀ b, visited b ∨ b ∈ queue → visited b ∨ b ∈ rest := by
    rintro b (known | waits)
    · exact .inl known
    · rcases (popped b).mp waits with waits | rfl
      · exact .inr waits
      · exact .inl known
  constructor
  · rintro b (known | waits)
    · exact explored.sound b (.inl known)
    · exact explored.sound b (.inr ((popped b).mpr (.inl waits)))
  · exact fun b entry => settle b (explored.entered b entry)
  · exact fun b known c edge => settle c (explored.closed b known c edge)

/-- A visit leaves the node's successors to be visited. -/
theorem Explored.visit {queue' : List α} (explored : Explored nexts entries visited queue)
    (popped : ∀ b, b ∈ queue ↔ b ∈ rest ∨ b = a) (marked : ∀ b, later b ↔ visited b ∨ b = a)
    (pushed : ∀ b, b ∈ queue' ↔ b ∈ rest ∨ (b ∈ nexts a ∧ ¬later b)) :
    Explored nexts entries later queue' := by
  have settle : ∀ b, visited b ∨ b ∈ queue → later b ∨ b ∈ queue' := by
    rintro b (known | waits)
    · exact .inl ((marked b).mpr (.inl known))
    · rcases (popped b).mp waits with waits | same
      · exact .inr ((pushed b).mpr (.inl waits))
      · exact .inl ((marked b).mpr (.inr same))
  have reached : Reached nexts entries a := explored.sound a (.inr ((popped a).mpr (.inr rfl)))
  constructor
  · rintro b (known | waits)
    · rcases (marked b).mp known with known | rfl
      · exact explored.sound b (.inl known)
      · exact reached
    · rcases (pushed b).mp waits with waits | ⟨edge, -⟩
      · exact explored.sound b (.inr ((popped b).mpr (.inl waits)))
      · obtain ⟨entry, member, way⟩ := reached
        exact ⟨entry, member, way.tail edge⟩
  · exact fun b entry => settle b (explored.entered b entry)
  · intro b known c edge
    rcases (marked b).mp known with known | rfl
    · exact settle c (explored.closed b known c edge)
    · by_cases done : later c
      · exact .inl done
      · exact .inr ((pushed c).mpr (.inr ⟨edge, done⟩))

/-- When nothing is left to visit, the visited nodes are those that can be reached. -/
theorem Explored.exact (explored : Explored nexts entries visited []) (a : α) :
    visited a ↔ Reached nexts entries a := by
  have all : ∀ b, visited b ∨ b ∈ ([] : List α) → visited b := by
    intro b either
    rcases either with known | waits
    · exact known
    · cases waits
  constructor
  · exact fun known => explored.sound a (.inl known)
  · rintro ⟨entry, member, way⟩
    induction way with
    | refl => exact all _ (explored.entered entry member)
    | tail _ edge known => exact all _ (explored.closed _ known _ edge)

end

end Digraph
