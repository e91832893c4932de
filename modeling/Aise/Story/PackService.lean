import Aise.Lib.Digraph
import Aise.Lib.Loop
import Aise.Lib.Tally

/-! The checks that an importer makes on the narrative graph of a pack. Nodes are named by any texts:
an edge may lead to a node without edges, and an entry node need not be in the graph. -/
namespace Aise.Domain
open Std Digraph

abbrev Adjacency := ExtTreeMap String (List String)

/-- The nodes that the edges of a node lead to, none where it has no entry. -/
def Adjacency.nexts (adjacency : Adjacency) (node : String) : List String :=
  adjacency[node]?.getD []

/-! ### Cycles -/

structure CycleSearch where
  color : ExtTreeMap String UInt8 := ∅
  stack : List String := []

/-- `none` is a recursion that goes deeper than `depth` calls. -/
def dfsCycle (adjacency : Adjacency) : (depth : Nat) → String → CycleSearch →
    Option (Bool × CycleSearch)
  | 0, _, _ => none
  | depth + 1, node, search =>
    match search.color[node]? with
    | some 1 => some (true, search)
    | some 2 => some (false, search)
    | _ => do
      let search := { color := search.color.insert node 1, stack := search.stack ++ [node] }
      let (found, search) ← anyOf (dfsCycle adjacency depth) (adjacency.nexts node) search
      if found then some (true, search)
      else some (false, { color := search.color.insert node 2, stack := search.stack.dropLast })

def findCycle (adjacency : Adjacency) (entryNodes : List String) (depth : Nat) :
    Option (Option String) := do
  let (found, search) ← anyOf (dfsCycle adjacency depth) entryNodes {}
  if found then return search.stack.getLast?
  let (found, search) ← anyOf (dfsCycle adjacency depth) adjacency.keys search
  if found then return search.stack.getLast?
  return none

/-- Grey nodes are those on the way and black ones those that were left. -/
structure Shows (search : CycleSearch) (marks : Marks String) : Prop where
  stack : search.stack = marks.path.reverse
  nodup : marks.path.Nodup
  color : ∀ node, search.color[node]? =
    if node ∈ marks.path then some 1 else if node ∈ marks.done then some 2 else none

theorem shows_new : Shows {} {} where
  stack := rfl
  nodup := List.nodup_nil
  color node := by simp

section
variable {adjacency : Adjacency} {node : String} {search : CycleSearch} {marks : Marks String}

theorem Shows.enter (shown : Shows search marks) (fresh : node ∉ marks.path) :
    Shows { color := search.color.insert node 1, stack := search.stack ++ [node] }
      { marks with path := node :: marks.path } where
  stack := by rw [List.reverse_cons, shown.stack]
  nodup := List.nodup_cons.mpr ⟨fresh, shown.nodup⟩
  color other := by
    rw [OrdMap.get_insert, shown.color]
    by_cases same : node = other
    · rw [if_pos same, if_pos (same ▸ List.mem_cons_self)]
    · simp [same, Ne.symm same]

theorem Shows.leave {path : List String} (shown : Shows search marks)
    (way : marks.path = node :: path) :
    Shows { color := search.color.insert node 2, stack := search.stack.dropLast }
      { path, done := node :: marks.done } where
  stack := by rw [shown.stack, way, List.reverse_cons, List.dropLast_concat]
  nodup := (way ▸ shown.nodup).of_cons
  color other := by
    have fresh : node ∉ path := (List.nodup_cons.mp (way ▸ shown.nodup)).1
    rw [OrdMap.get_insert, shown.color, way]
    by_cases same : node = other
    · subst other
      rw [if_pos rfl, if_neg fresh, if_pos List.mem_cons_self]
    · simp [same, Ne.symm same]

/-- The search with colours and a stack goes the way of the general one. -/
theorem dfsCycle_shows {depth : Nat} (shown : Shows search marks) :
    Option.Rel (Same Shows) (dfsCycle adjacency depth node search)
      (visitDeep adjacency.nexts depth node marks) := by
  induction depth generalizing node search marks with
  | zero => exact .none
  | succ depth ih =>
    have color := shown.color node
    rw [dfsCycle, visitDeep]
    split at color
    · rename_i grey
      rw [color, if_pos grey]
      exact .some ⟨rfl, shown⟩
    · rename_i fresh
      rw [if_neg fresh]
      split at color
      · rename_i black
        rw [color, if_pos black]
        exact .some ⟨rfl, shown⟩
      · rename_i white
        rw [color, if_neg white]
        dsimp only
        have deeper : Option.Rel (Same Shows)
            (anyOf (dfsCycle adjacency depth) (adjacency.nexts node)
              { color := search.color.insert node 1, stack := search.stack ++ [node] })
            (anyOf (visitDeep adjacency.nexts depth) (adjacency.nexts node)
              { marks with path := node :: marks.path }) :=
          anyOf_rel (fun _ _ _ _ shown => ih shown) (shown.enter fresh)
        have same {last : Marks String} : anyOf (visitDeep adjacency.nexts depth)
            (adjacency.nexts node) { marks with path := node :: marks.path } = some (false, last) →
              last.path = node :: marks.path := anyOf_visitDeep_path
        generalize anyOf (dfsCycle adjacency depth) (adjacency.nexts node) _ = one at deeper
        generalize anyOf (visitDeep adjacency.nexts depth) (adjacency.nexts node) _ = two
          at deeper same
        cases deeper with
        | none => exact .none
        | @some one two related =>
          obtain ⟨found, inner⟩ := one
          obtain ⟨_, twin⟩ := two
          obtain ⟨rfl, shown⟩ := related
          cases found with
          | true => exact .some ⟨rfl, shown⟩
          | false => exact .some ⟨rfl, shown.leave (same rfl)⟩

end

/-- All that the search may come to. -/
def nodesOf (adjacency : Adjacency) (entryNodes : List String) : List String :=
  (entryNodes ++ adjacency.keys) ++ adjacency.toList.flatMap (·.2)

theorem nexts_subset_nodesOf (adjacency : Adjacency) (entryNodes : List String) (node : String) :
    adjacency.nexts node ⊆ nodesOf adjacency entryNodes := by
  intro next edge
  apply List.mem_append_right
  cases found : adjacency[node]? with
  | none =>
    rw [Adjacency.nexts, found] at edge
    cases edge
  | some nexts =>
    rw [Adjacency.nexts, found] at edge
    exact List.mem_flatMap.mpr
      ⟨(node, nexts), ExtTreeMap.mem_toList_iff_getElem?_eq_some.mpr found, edge⟩

theorem mem_keys_of_edge {adjacency : Adjacency} {node next : String}
    (edge : next ∈ adjacency.nexts node) : node ∈ adjacency.keys := by
  rw [ExtTreeMap.mem_keys, OrdMap.mem_iff_exists]
  cases found : adjacency[node]? with
  | none =>
    rw [Adjacency.nexts, found] at edge
    cases edge
  | some nexts => exact ⟨nexts, rfl⟩

/-- What the search goes through, in a depth that is enough for all nodes. -/
theorem search_ends (adjacency : Adjacency) (entryNodes : List String) :
    ∃ found marks, ∀ depth, (nodesOf adjacency entryNodes).length < depth →
      anyOf (visitDeep adjacency.nexts depth) (entryNodes ++ adjacency.keys) {} =
        some (found, marks) := by
  have ends : (anyOf (visitDeep adjacency.nexts ((nodesOf adjacency entryNodes).length + 1))
      (entryNodes ++ adjacency.keys) {}).isSome := by
    refine anyOf_isSome (P := fun inner => inner.path = []) ?_ ?_ rfl
    · intro node root inner same
      apply visitDeep_isSome (fun node _ => nexts_subset_nodesOf adjacency entryNodes node)
        (List.mem_append_left _ root)
      · rw [same]
        exact List.nil_subset _
      · rw [same]
        exact List.nodup_nil
      · rw [same]
        exact Nat.lt_succ_self _
    · intro node _ inner last same ran
      exact (visitDeep_path ran).trans same
  obtain ⟨⟨found, marks⟩, ran⟩ := Option.isSome_iff_exists.mp ends
  exact ⟨found, marks, fun depth deep => anyOf_mono (visitDeep_mono deep) ran⟩

/-- The two loops are one over the nodes of both. -/
theorem findCycle_append (adjacency : Adjacency) (entryNodes : List String) (depth : Nat) :
    findCycle adjacency entryNodes depth =
      (anyOf (dfsCycle adjacency depth) (entryNodes ++ adjacency.keys) {}).map fun result =>
        if result.1 then result.2.stack.getLast? else none := by
  rw [findCycle, anyOf_append]
  cases anyOf (dfsCycle adjacency depth) entryNodes {} with
  | none => rfl
  | some result =>
    obtain ⟨_ | _, search⟩ := result
    · simp only [Option.bind_eq_bind, Option.bind_some]
      cases anyOf (dfsCycle adjacency depth) adjacency.keys search with
      | none => rfl
      | some result =>
        obtain ⟨_ | _, last⟩ := result <;> rfl
    · rfl

/-- The node that is returned is the innermost one on the way. -/
theorem findCycle_eq {adjacency : Adjacency} {entryNodes : List String} {depth : Nat} {found : Bool}
    {marks : Marks String} (ran : anyOf (visitDeep adjacency.nexts depth)
      (entryNodes ++ adjacency.keys) {} = some (found, marks)) :
    findCycle adjacency entryNodes depth = some (if found then marks.path.head? else none) := by
  have related : Option.Rel (Same Shows)
      (anyOf (dfsCycle adjacency depth) (entryNodes ++ adjacency.keys) {})
      (anyOf (visitDeep adjacency.nexts depth) (entryNodes ++ adjacency.keys) {}) :=
    anyOf_rel (fun _ _ _ _ shown => dfsCycle_shows shown) shows_new
  rw [ran] at related
  rw [findCycle_append]
  generalize anyOf (dfsCycle adjacency depth) _ _ = searched at related
  cases related with
  | @some result _ same =>
    obtain ⟨_, search⟩ := result
    obtain ⟨rfl, shown⟩ := same
    rw [Option.map_some, shown.stack, List.getLast?_reverse]

theorem search_exact {adjacency : Adjacency} {entryNodes : List String} {depth : Nat} {found : Bool}
    {marks : Marks String} (ran : anyOf (visitDeep adjacency.nexts depth)
      (entryNodes ++ adjacency.keys) {} = some (found, marks)) :
    match (if found then marks.path.head? else none : Option String) with
    | some node => OnCycle adjacency.nexts node
    | none => ∀ node, ¬OnCycle adjacency.nexts node := by
  have outcome := anyOf_outcome searched_new (fun node _ inner last found searched same ran =>
    visitDeep_outcome searched (by
      intro top head
      rw [same] at head
      cases head) ran) ran
  cases outcome with
  | clean searched _ left _ =>
    intro node around
    obtain ⟨next, edge, _⟩ := Relation.TransGen.head'_iff.mp around
    have root : node ∈ entryNodes ++ adjacency.keys :=
      List.mem_append_right _ (mem_keys_of_edge edge)
    exact searched.acyclic node (left root) around
  | cycle head around =>
    rw [if_pos rfl, head]
    exact around

/-! ### Reachable nodes -/

structure Exploration where
  visited : ExtTreeSet String
  queue : List String

/-- One round of the loop of `reachable_set`, which takes the last node of the queue. -/
def explore (adjacency : Adjacency) (state : Exploration) : Loop.Flow Exploration :=
  match state.queue.getLast? with
  | none => .leave state
  | some node =>
    let rest := state.queue.dropLast
    if node ∈ state.visited then .again { state with queue := rest }
    else
      let visited := state.visited.insert node
      .again { visited, queue := rest ++ (adjacency.nexts node).filter (· ∉ visited) }

/-- The edges of the nodes that were not visited. -/
def edgesLeft (adjacency : Adjacency) (visited : ExtTreeSet String) : Nat :=
  OrdMap.total (fun node nexts => if node ∈ visited then 0 else nexts.length) adjacency

/-- A visit takes the edges of its node. -/
theorem edgesLeft_insert (adjacency : Adjacency) {visited : ExtTreeSet String} {node : String}
    (fresh : node ∉ visited) : (adjacency.nexts node).length + edgesLeft adjacency (visited.insert node) ≤
      edgesLeft adjacency visited := by
  have marked : node ∈ visited.insert node := (OrdMap.set_mem_insert node node).mpr (.inl rfl)
  have before : OrdMap.part (fun node nexts => if node ∈ visited then 0 else nexts.length)
      adjacency node = (adjacency.nexts node).length := by
    rw [OrdMap.part, Adjacency.nexts]
    cases adjacency[node]? with
    | none => rfl
    | some nexts => exact if_neg fresh
  have after : OrdMap.part
      (fun other nexts => if other ∈ visited.insert node then 0 else nexts.length) adjacency node =
        0 := by
    rw [OrdMap.part]
    cases adjacency[node]? with
    | none => rfl
    | some nexts => exact if_pos marked
  have others : OrdMap.others
      (fun other nexts => if other ∈ visited.insert node then 0 else nexts.length) adjacency node ≤
        OrdMap.others (fun node nexts => if node ∈ visited then 0 else nexts.length) adjacency
          node := by
    apply OrdMap.others_mono
    intro entry _ _
    by_cases known : entry.1 ∈ visited
    · rw [if_pos known, if_pos ((OrdMap.set_mem_insert node entry.1).mpr (.inr known))]
    · rw [if_neg known]
      split
      · exact Nat.zero_le _
      · exact Nat.le_refl _
  rw [edgesLeft, edgesLeft, OrdMap.total_eq _ _ node, OrdMap.total_eq _ adjacency node, before,
    after]
  omega

def Exploration.pending (adjacency : Adjacency) (state : Exploration) : Nat :=
  state.queue.length + edgesLeft adjacency state.visited

/-- A visit puts no more nodes into the queue than it takes edges. -/
theorem explore_descends {adjacency : Adjacency} {state next : Exploration}
    (round : explore adjacency state = .again next) :
    next.pending adjacency < state.pending adjacency := by
  unfold explore at round
  split at round
  · cases round
  · rename_i node last
    have some_node : state.queue ≠ [] := by
      intro empty
      rw [empty] at last
      cases last
    have popped : state.queue.dropLast.length < state.queue.length := by
      rw [List.length_dropLast]
      exact Nat.sub_lt (List.length_pos_of_ne_nil some_node) Nat.one_pos
    split at round
    · cases round
      exact Nat.add_lt_add_right popped _
    · rename_i fresh
      cases round
      have pushed := List.length_filter_le (· ∉ state.visited.insert node) (adjacency.nexts node)
      have taken := edgesLeft_insert adjacency fresh
      simp only [Exploration.pending, List.length_append]
      omega

def reachableSet (adjacency : Adjacency) (entryNodes : List String) : ExtTreeSet String :=
  (Loop.run (explore adjacency) (Exploration.pending adjacency) explore_descends _
    { visited := ∅, queue := entryNodes } (Nat.lt_succ_self _)).visited

/-- The nodes that were visited and those in the queue. -/
def Exploration.Sound (adjacency : Adjacency) (entryNodes : List String) (state : Exploration) :
    Prop :=
  Explored adjacency.nexts entryNodes (· ∈ state.visited) state.queue

theorem explore_sound {adjacency : Adjacency} {entryNodes : List String} {state next : Exploration}
    (sound : state.Sound adjacency entryNodes) (round : explore adjacency state = .again next) :
    next.Sound adjacency entryNodes := by
  unfold explore at round
  split at round
  · cases round
  · rename_i node last
    have popped : ∀ other, other ∈ state.queue ↔ other ∈ state.queue.dropLast ∨ other = node := by
      intro other
      conv_lhs => rw [← List.dropLast_append_getLast? node last]
      rw [List.mem_append, List.mem_singleton]
    split at round
    · rename_i known
      cases round
      exact sound.skip known popped
    · cases round
      apply sound.visit popped
      · intro other
        rw [OrdMap.set_mem_insert, or_comm, eq_comm]
      · intro other
        simp [List.mem_filter]

theorem reachableSet_exact (adjacency : Adjacency) (entryNodes : List String) (node : String) :
    node ∈ reachableSet adjacency entryNodes ↔ Reached adjacency.nexts entryNodes node := by
  let start : Exploration := { visited := ∅, queue := entryNodes }
  have initial : start.Sound adjacency entryNodes := by
    have none : (fun node => node ∈ start.visited) = fun _ => False :=
      funext fun node => eq_false ExtTreeSet.not_mem_empty
    rw [Exploration.Sound, none]
    exact explored_new entryNodes
  obtain ⟨rounds, -, ends⟩ := @Loop.run_ends _ (explore adjacency) (Exploration.pending adjacency)
    explore_descends _ start (Nat.lt_succ_self _)
  have final := ends.invariant (Q := fun last => last.Sound adjacency entryNodes ∧ last.queue = [])
    explore_sound (by
      intro state last sound left
      unfold explore at left
      split at left
      · rename_i empty
        cases left
        exact ⟨sound, List.getLast?_eq_none_iff.mp empty⟩
      · split at left
        · cases left
        · cases left) initial
  obtain ⟨sound, empty⟩ := final
  rw [Exploration.Sound, empty] at sound
  exact sound.exact node

/-- The search for a cycle ends with a node on a cycle, or there is no cycle; what is reachable is
found exactly. -/
theorem graph_checks_exact (adjacency : Adjacency) (entryNodes : List String) :
    (∃ enough result,
      (∀ depth ≥ enough, findCycle adjacency entryNodes depth = some result) ∧
      (∀ node, result = some node → OnCycle adjacency.nexts node) ∧
      (result.isSome ↔ ∃ node, OnCycle adjacency.nexts node)) ∧
    ∀ node, node ∈ reachableSet adjacency entryNodes ↔ Reached adjacency.nexts entryNodes node := by
  constructor
  · obtain ⟨found, marks, ran⟩ := search_ends adjacency entryNodes
    have exact := search_exact (ran _ (Nat.lt_succ_self _))
    refine ⟨_, _, fun depth deep => findCycle_eq (ran depth deep), ?_, ?_⟩
    · intro node result
      rwa [result] at exact
    · cases result : (if found then marks.path.head? else none : Option String) with
      | none =>
        rw [result] at exact
        exact ⟨nofun, fun ⟨node, around⟩ => absurd around (exact node)⟩
      | some node =>
        rw [result] at exact
        exact ⟨fun _ => ⟨node, exact⟩, fun _ => rfl⟩
  · exact reachableSet_exact adjacency entryNodes

end Aise.Domain
