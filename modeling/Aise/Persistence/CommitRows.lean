import Aise.Lib.Distinct
import Aise.Persistence.SqliteStore
import Aise.Turn.Enrichment

/-! When the changes of a turn can be made to the rows, one after the other, and what they leave. -/
namespace Aise.Domain.Persistence

/-! ### Roles -/

section
variable {roles next : BTreeMap RoleId StoryRole} {newRoles : List StoryRole}
  {changes : List RoleStateChange}

/-- After the first of the new roles, the others are fresh if they were all fresh before. -/
theorem fresh_insert_iff {role : StoryRole} {rest : List StoryRole} :
    Distinct.Fresh (·.roleId) (roles.insert role.roleId role).keys rest ↔
      Distinct.Fresh (·.roleId) (role.roleId :: roles.keys) rest := by
  refine and_congr Iff.rfl (forall₂_congr fun other _ => not_congr ?_)
  rw [Std.ExtTreeMap.mem_keys, Std.ExtTreeMap.mem_insert, compare_eq_iff_eq, List.mem_cons,
    Std.ExtTreeMap.mem_keys, eq_comm]

theorem addNewRoles_total (fresh : Distinct.Fresh (·.roleId) roles.keys newRoles) :
    ∃ next, addNewRoles roles newRoles = .ok next := by
  induction newRoles generalizing roles with
  | nil => exact ⟨roles, rfl⟩
  | cons role rest ih =>
    obtain ⟨unseen, later⟩ := Distinct.fresh_cons.mp fresh
    rw [Std.ExtTreeMap.mem_keys] at unseen
    rw [addNewRoles, List.foldlM_cons, if_neg unseen]
    exact ih (fresh_insert_iff.mpr later)

/-- New roles are fresh, and a role is found among them or where it was. -/
theorem addNewRoles_eq_ok (ok : addNewRoles roles newRoles = .ok next) :
    Distinct.Fresh (·.roleId) roles.keys newRoles ∧
      ∀ roleId : RoleId, next[roleId]? = (newRoles.find? (·.roleId = roleId)).or roles[roleId]? := by
  induction newRoles generalizing roles with
  | nil =>
    cases ok
    exact ⟨⟨List.nodup_nil, fun _ member => absurd member List.not_mem_nil⟩, fun _ => rfl⟩
  | cons role rest ih =>
    rw [addNewRoles, List.foldlM_cons] at ok
    obtain ⟨added, first, ok⟩ := Result.bind_eq_ok ok
    split at first
    · cases first
    · rename_i absent
      cases first
      obtain ⟨fresh, found⟩ := ih ok
      have later := fresh_insert_iff.mp fresh
      refine ⟨Distinct.fresh_cons.mpr ⟨by rwa [Std.ExtTreeMap.mem_keys], later⟩, fun roleId => ?_⟩
      rw [found, OrdMap.get_insert, List.find?_cons]
      by_cases same : role.roleId = roleId
      · have once : rest.find? (·.roleId = roleId) = none := by
          rw [List.find?_eq_none]
          intro other member named
          refine later.2 other member ?_
          dsimp only
          rw [of_decide_eq_true named, same]
          exact List.mem_cons_self
        simp [once, same]
      · simp [same]

theorem applyRoleChanges_total (known : ∀ change ∈ changes, change.roleId ∈ roles) :
    ∃ next, applyRoleChanges roles changes = .ok next := by
  induction changes generalizing roles with
  | nil => exact ⟨roles, rfl⟩
  | cons change rest ih =>
    obtain ⟨here, later⟩ := List.forall_mem_cons.mp known
    obtain ⟨role, found⟩ := OrdMap.mem_iff_exists.mp here
    rw [applyRoleChanges, List.foldlM_cons, found]
    refine ih fun other member => ?_
    exact Std.ExtTreeMap.mem_insert.mpr (.inr (later other member))

theorem applyRoleChanges_keys (ok : applyRoleChanges roles changes = .ok next) (roleId : RoleId) :
    roleId ∈ next ↔ roleId ∈ roles := by
  refine Result.foldlM_invariant (P := fun rows => roleId ∈ rows ↔ roleId ∈ roles) ?_ ok Iff.rfl
  intro rows change changed same step
  split at step
  · cases step
  · rename_i role found
    cases step
    rw [Std.ExtTreeMap.mem_insert, compare_eq_iff_eq, ← same, or_iff_right_iff_imp]
    rintro rfl
    exact OrdMap.mem_iff_exists.mpr ⟨role, found⟩

end

/-! ### Relationships -/

section
variable {rows next : RelationshipRows} {operations : List ValidatedRelationshipOperation}

/-- The operation can be made to the rows. -/
def RelationshipApplies (rows : RelationshipRows) : ValidatedRelationshipOperation → Prop
  | .add state => state.orderedKey ∉ rows
  | .update change => change.key = change.newState.key ∧ change.newState.orderedKey ∈ rows

theorem orderKey_key (state : RelationshipState) : orderKey state.key = state.orderedKey := rfl

theorem orderKey_inj {key other : RelationshipKey} (same : orderKey key = orderKey other) :
    key = other := by
  obtain ⟨source, target, kind⟩ := key
  obtain ⟨otherSource, otherTarget, otherKind⟩ := other
  simpa [orderKey] using same

theorem applyRelationshipOperation_iff {operation : ValidatedRelationshipOperation} :
    applyRelationshipOperation rows operation = .ok next ↔ RelationshipApplies rows operation ∧
      next = rows.insert operation.newState.orderedKey operation.newState := by
  cases operation with
  | add state =>
    by_cases known : state.orderedKey ∈ rows
    · simp [applyRelationshipOperation, RelationshipApplies, known]
    · simp [applyRelationshipOperation, RelationshipApplies, known,
        ValidatedRelationshipOperation.newState, eq_comm]
  | update change =>
    by_cases same : change.key = change.newState.key
    · by_cases known : change.newState.orderedKey ∈ rows
      · simp [applyRelationshipOperation, RelationshipApplies, known, same, orderKey_key,
          ValidatedRelationshipOperation.newState, eq_comm]
      · simp [applyRelationshipOperation, RelationshipApplies, known, same, orderKey_key]
    · simp [applyRelationshipOperation, RelationshipApplies, same]

theorem applyRelationshipOperations_total
    (distinct : (operations.map (·.newState.orderedKey)).Nodup)
    (each : ∀ operation ∈ operations, RelationshipApplies rows operation) :
    ∃ next, applyRelationshipOperations rows operations = .ok next := by
  induction operations generalizing rows with
  | nil => exact ⟨rows, rfl⟩
  | cons operation rest ih =>
    rw [List.map_cons, List.nodup_cons] at distinct
    obtain ⟨here, later⟩ := List.forall_mem_cons.mp each
    rw [applyRelationshipOperations, List.foldlM_cons, applyRelationshipOperation_iff.mpr ⟨here, rfl⟩]
    refine ih distinct.2 fun other member => ?_
    have apart : other.newState.orderedKey ≠ operation.newState.orderedKey := fun same =>
      distinct.1 (List.mem_map.mpr ⟨other, member, same⟩)
    have applies := later other member
    cases other with
    | add state =>
      intro among
      rw [Std.ExtTreeMap.mem_insert, compare_eq_iff_eq] at among
      rcases among with same | among
      · exact apart same.symm
      · exact applies among
    | update change => exact ⟨applies.1, Std.ExtTreeMap.mem_insert.mpr (.inr applies.2)⟩

end

/-! ### Knowledge -/

section
variable {rows next : KnowledgeRows} {operations : List ValidatedKnowledgeOperation}

/-- The operation can be made to the rows. -/
def KnowledgeApplies (rows : KnowledgeRows) : ValidatedKnowledgeOperation → Prop
  | .add entry => entry.sourceId ∉ rows
  | .update target value => target.kind = value.kind ∧ ∃ existing, rows[target]? = some existing ∧
      existing.kind = value.kind ∧ existing.memoryOwner = value.memoryOwner
  | .delete target => target.sourceId ∈ rows

theorem mergeKnowledgeUpdate_total {existing value : KnowledgeEntry}
    (same : existing.kind = value.kind) (owned : existing.memoryOwner = value.memoryOwner) :
    ∃ merged, mergeKnowledgeUpdate existing value = .ok merged := by
  cases existing with
  | fact old =>
    cases value with
    | fact new => exact ⟨_, rfl⟩
    | rumor new => cases same
    | memory new => cases same
  | rumor old =>
    cases value with
    | fact new => cases same
    | rumor new => exact ⟨_, rfl⟩
    | memory new => cases same
  | memory old =>
    cases value with
    | fact new => cases same
    | rumor new => cases same
    | memory new =>
      have one : old.owner = new.owner := Option.some.inj owned
      exact ⟨_, if_neg (not_not.mpr one)⟩

/-- A merged entry is of the kind and the owner of the one that was there. -/
theorem mergeKnowledgeUpdate_same {existing value merged : KnowledgeEntry}
    (ok : mergeKnowledgeUpdate existing value = .ok merged) :
    merged.kind = existing.kind ∧ merged.memoryOwner = existing.memoryOwner := by
  unfold mergeKnowledgeUpdate at ok
  split at ok
  · cases ok
    exact ⟨rfl, rfl⟩
  · cases ok
    exact ⟨rfl, rfl⟩
  · split at ok
    · cases ok
    · cases ok
      exact ⟨rfl, rfl⟩
  · cases ok

theorem applyKnowledgeOperation_total {operation : ValidatedKnowledgeOperation}
    (applies : KnowledgeApplies rows operation) :
    ∃ next, applyKnowledgeOperation rows operation = .ok next := by
  cases operation with
  | add entry => exact ⟨_, if_neg applies⟩
  | update target value =>
    obtain ⟨targeted, existing, found, same, owned⟩ := applies
    obtain ⟨merged, ok⟩ := mergeKnowledgeUpdate_total same owned
    refine ⟨rows.insert target merged, ?_⟩
    rw [applyKnowledgeOperation, if_pos targeted, found]
    simp only [Result.okOr, bind, Except.bind, ok]
    rfl
  | delete target => exact ⟨_, if_pos applies⟩

/-- What could be done before an operation can be done after it, if it is independent of it. -/
theorem KnowledgeApplies.after {operation later : ValidatedKnowledgeOperation}
    (applies : KnowledgeApplies rows later) (apart : operation.Independent later)
    (ok : applyKnowledgeOperation rows operation = .ok next) : KnowledgeApplies next later := by
  cases operation with
  | add entry =>
    rw [applyKnowledgeOperation] at ok
    split at ok
    · cases ok
    · rename_i absent
      cases ok
      cases later with
      | add other =>
        intro among
        rw [Std.ExtTreeMap.mem_insert, compare_eq_iff_eq] at among
        rcases among with same | among
        · exact apart.1 _ rfl (congrArg some same.symm)
        · exact applies among
      | update target value =>
        obtain ⟨targeted, existing, found, rest⟩ := applies
        refine ⟨targeted, existing, ?_, rest⟩
        rw [OrdMap.get_insert, if_neg ?_, found]
        rintro rfl
        exact absent (OrdMap.mem_iff_exists.mpr ⟨existing, found⟩)
      | delete target => exact Std.ExtTreeMap.mem_insert.mpr (.inr applies)
  | update updated value =>
    obtain ⟨existing, known, ok⟩ := Result.bind_eq_ok ok
    obtain ⟨merged, mergedOk, ok⟩ := Result.bind_eq_ok ok
    cases ok
    have stored : rows[updated]? = some existing := by
      have found := Result.okOr_eq_ok.mp known
      split at found
      · exact found
      · cases found
    cases later with
    | add entry =>
      intro among
      rw [Std.ExtTreeMap.mem_insert, compare_eq_iff_eq] at among
      rcases among with rfl | among
      · exact applies (OrdMap.mem_iff_exists.mpr ⟨existing, stored⟩)
      · exact applies among
    | update target other =>
      obtain ⟨targeted, before, found, same, owned⟩ := applies
      rw [KnowledgeApplies, OrdMap.get_insert]
      split
      · rename_i here
        subst here
        cases stored.symm.trans found
        obtain ⟨kind, owner⟩ := mergeKnowledgeUpdate_same mergedOk
        exact ⟨targeted, merged, rfl, kind.trans same, owner.trans owned⟩
      · exact ⟨targeted, before, found, same, owned⟩
    | delete target => exact Std.ExtTreeMap.mem_insert.mpr (.inr applies)
  | delete freed =>
    rw [applyKnowledgeOperation] at ok
    split at ok
    · cases ok
      cases later with
      | add entry => exact fun among => applies (Std.ExtTreeMap.mem_of_mem_erase among)
      | update target value =>
        obtain ⟨targeted, existing, found, rest⟩ := applies
        refine ⟨targeted, existing, ?_, rest⟩
        rw [OrdMap.get_erase, if_neg ?_, found]
        rintro rfl
        exact apart.2 _ rfl rfl
      | delete target =>
        rw [KnowledgeApplies, Std.ExtTreeMap.mem_erase]
        refine ⟨fun same => ?_, applies⟩
        rw [compare_eq_iff_eq] at same
        exact apart.2 _ rfl (congrArg some same.symm)
    · cases ok

theorem applyKnowledgeOperations_total (apart : operations.Pairwise ValidatedKnowledgeOperation.Independent)
    (each : ∀ operation ∈ operations, KnowledgeApplies rows operation) :
    ∃ next, operations.foldlM applyKnowledgeOperation rows = .ok next := by
  induction operations generalizing rows with
  | nil => exact ⟨rows, rfl⟩
  | cons operation rest ih =>
    obtain ⟨independent, others⟩ := List.pairwise_cons.mp apart
    obtain ⟨here, later⟩ := List.forall_mem_cons.mp each
    obtain ⟨next, first⟩ := applyKnowledgeOperation_total here
    rw [List.foldlM_cons, first]
    exact ih others fun other member => (later other member).after (independent other member) first

theorem applyKnowledgeMutations_eq {mutations : List ValidatedKnowledgeMutation} :
    applyKnowledgeMutations rows mutations =
      (mutations.map (·.operation)).foldlM applyKnowledgeOperation rows := by
  rw [applyKnowledgeMutations, List.foldlM_map]

/-- Identifiers are added by additions only. -/
theorem mem_of_applyKnowledgeOperations
    (ok : operations.foldlM applyKnowledgeOperation rows = .ok next) {id : KnowledgeSourceId}
    (member : id ∈ next) : id ∈ rows ∨ ∃ operation ∈ operations, operation.takes = some id := by
  induction operations generalizing rows with
  | nil =>
    cases ok
    exact .inl member
  | cons operation rest ih =>
    rw [List.foldlM_cons] at ok
    obtain ⟨between, first, ok⟩ := Result.bind_eq_ok ok
    rcases ih ok with before | ⟨other, among, taken⟩
    · cases operation with
      | add entry =>
        rw [applyKnowledgeOperation] at first
        split at first
        · cases first
        · cases first
          rw [Std.ExtTreeMap.mem_insert, compare_eq_iff_eq] at before
          rcases before with rfl | before
          · exact .inr ⟨_, List.mem_cons_self, rfl⟩
          · exact .inl before
      | update target value =>
        obtain ⟨existing, known, first⟩ := Result.bind_eq_ok first
        obtain ⟨merged, _, first⟩ := Result.bind_eq_ok first
        cases first
        rw [Std.ExtTreeMap.mem_insert, compare_eq_iff_eq] at before
        rcases before with rfl | before
        · have found := Result.okOr_eq_ok.mp known
          split at found
          · exact .inl (OrdMap.mem_iff_exists.mpr ⟨existing, found⟩)
          · cases found
        · exact .inl before
      | delete target =>
        rw [applyKnowledgeOperation] at first
        split at first
        · cases first
          exact .inl (Std.ExtTreeMap.mem_of_mem_erase before)
        · cases first
    · exact .inr ⟨other, List.mem_cons_of_mem _ among, taken⟩

end

end Aise.Domain.Persistence
