import Aise.Pipeline.Extract.Agreement

/-! Who keeps a role from remembering too much. Extraction bounds the changes of one
turn; what a role has gathered over the turns before is bounded by the commit alone,
on the roles as they would be. A role gains exactly the memories proposed for it. -/
namespace Aise

section Growth
variable {context : StoryContext} {roleId : RoleId} {memories : BTreeMap .memory MemoryEntry}

/-- An addition under a new name is one more memory, an update is none. -/
theorem remember_size (turnNumber : TurnNumber) {ops : List RoleMemoryChangeOp}
    (distinct : (ops.map (·.target.2)).Nodup)
    (free : ∀ op ∈ ops, op.isAdd = true → op.target.2 ∉ memories) :
    (ops.foldl (fun memories op => op.remember turnNumber memories) memories).size =
      memories.size + ops.countP RoleMemoryChangeOp.isAdd := by
  induction ops generalizing memories with
  | nil => rfl
  | cons op rest ih =>
    rw [List.map_cons, List.nodup_cons] at distinct
    obtain ⟨once, distinct⟩ := distinct
    obtain ⟨own, others⟩ := List.forall_mem_cons.mp free
    cases op with
    | add owner id body =>
      have absent : memories[id]? = none := Std.ExtTreeMap.getElem?_eq_none (own rfl)
      have still : ∀ op ∈ rest, op.isAdd = true →
          op.target.2 ∉ memories.insert id ⟨id, .turn turnNumber, body⟩ := by
        intro op member adds inside
        rcases Std.ExtTreeMap.mem_insert.mp inside with same | before
        · rw [Std.LawfulEqCmp.compare_eq_iff_eq] at same
          exact once (List.mem_map.mpr ⟨op, member, same.symm⟩)
        · exact others op member adds before
      rw [List.foldl_cons, List.countP_cons_of_pos rfl]
      change (rest.foldl _ (memories.insert id _)).size = _
      rw [ih distinct still, OrdMap.size_insert_fresh absent]
      omega
    | update owner id body =>
      have still : ∀ op ∈ rest, op.isAdd = true →
          op.target.2 ∉ memories.modify id ({ · with body }) := by
        intro op member adds inside
        exact others op member adds (Std.ExtTreeMap.mem_modify.mp inside)
      rw [List.foldl_cons, List.countP_cons_of_neg Bool.false_ne_true]
      change (rest.foldl _ (memories.modify id _)).size = _
      rw [ih distinct still, Std.ExtTreeMap.size_modify]

theorem RoleAdmitted.countP {proposals : List RoleMemoryProposal}
    (admitted : RoleAdmitted context roleId proposals ops) :
    ops.countP RoleMemoryChangeOp.isAdd = proposals.countP RoleMemoryProposal.isAdd := by
  have counted := congrArg (List.countP id) admitted.additions
  simpa only [List.countP_map, Function.id_comp] using counted

theorem RoleAdmitted.free {proposals : List RoleMemoryProposal} {role : RoleEntry}
    (admitted : RoleAdmitted context roleId proposals ops)
    (found : context.roles[roleId]? = some role) :
    ∀ op ∈ ops, op.isAdd = true → op.target.2 ∉ role.memories := by
  intro op member adds
  have own := admitted.role op member
  have fits := admitted.fits op member
  cases op with
  | add owner id body =>
    cases own
    obtain ⟨entry, same, absent⟩ := fits
    cases same.symm.trans found
    exact absent
  | update owner id body => contradiction

variable {memoryProposals : RoleId → List RoleMemoryProposal} {roles : List RoleId}
  {roleMemories : List (List RoleMemoryChangeOp)}

/-- Among the operations of a turn, those of one role are the list resolved for it. -/
theorem RolesAdmitted.of_role (admitted : RolesAdmitted context memoryProposals roles roleMemories)
    (distinct : roles.Nodup) (roleId : RoleId) :
    RoleAdmitted context roleId (if roleId ∈ roles then memoryProposals roleId else [])
      (roleMemories.flatten.filter (·.target.1 = roleId)) := by
  induction admitted with
  | nil => exact ⟨by simp, List.nodup_nil, by simp, rfl⟩
  | @cons selected ops rest lists first others ih =>
    obtain ⟨once, distinct⟩ := List.nodup_cons.mp distinct
    have later := ih distinct
    rw [List.flatten_cons, List.filter_append]
    by_cases same : selected = roleId
    · subst roleId
      have all : ops.filter (·.target.1 = selected) = ops := by
        rw [List.filter_eq_self]
        intro op member
        simpa using first.role op member
      have none_later : lists.flatten.filter (·.target.1 = selected) = [] := by
        rw [List.filter_eq_nil_iff]
        intro op member same
        have again := (RolesAdmitted.selected others op member).1
        rw [of_decide_eq_true same] at again
        exact once again
      rw [all, none_later, List.append_nil, if_pos List.mem_cons_self]
      exact first
    · have none_first : ops.filter (·.target.1 = roleId) = [] := by
        rw [List.filter_eq_nil_iff]
        intro op member own
        exact same ((first.role op member).symm.trans (of_decide_eq_true own))
      have selected_later : (roleId ∈ selected :: rest) = (roleId ∈ rest) := by
        simp [Ne.symm same]
      rw [none_first, List.nil_append]
      simpa only [selected_later] using later

end Growth

/-- The memories a turn adds to a role. -/
def addedMemories (rolesForMemory : List RoleId)
    (memoryProposals : RoleId → List RoleMemoryProposal) (roleId : RoleId) : Nat :=
  (if roleId ∈ rolesForMemory then memoryProposals roleId else []).countP RoleMemoryProposal.isAdd

/-- Every selected role has room for the memories proposed for it. -/
def HasRoom (context : StoryContext) (rolesForMemory : List RoleId)
    (memoryProposals : RoleId → List RoleMemoryProposal) : Prop :=
  ∀ roleId ∈ rolesForMemory, ∀ role, context.roles[roleId]? = some role →
    role.memories.size + (memoryProposals roleId).countP RoleMemoryProposal.isAdd ≤
      maxMemoriesPerRole

theorem applyMemoryOps_size (turnNumber : TurnNumber) (ops : List RoleMemoryChangeOp)
    (roles : BTreeMap .role RoleEntry) :
    (ops.foldl (applyMemoryOp turnNumber) roles).size = roles.size := by
  induction ops generalizing roles with
  | nil => rfl
  | cons op ops ih => rw [List.foldl_cons, ih, applyMemoryOp_eq, Std.ExtTreeMap.size_modify]

section Extracted
variable {context : StoryContext} {config : ExtractConfig} {factProposals : List FactProposal}
  {rumorProposals : List RumorProposal} {rolesForMemory : List RoleId}
  {memoryProposals : RoleId → List RoleMemoryProposal}

/-- A role keeps what it is and gains the memories proposed for it. -/
theorem extractKnowledge_grown (extracted : extractKnowledge context config factProposals
      rumorProposals rolesForMemory memoryProposals = .ok change)
    (turnNumber : TurnNumber) (found : context.roles[roleId]? = some role) :
    ∃ grown, (applyKnowledgeChange context turnNumber change).roles[roleId]? = some grown ∧
      grown.spec = role.spec ∧
      grown.memories.size =
        role.memories.size + addedMemories rolesForMemory memoryProposals roleId := by
  obtain ⟨world, roleMemories, _, admitted, distinct, rfl⟩ := extractKnowledge_ok extracted
  have own := admitted.of_role distinct roleId
  have after := applyMemoryOps_get turnNumber roleMemories.flatten context.roles roleId
  rw [found, Option.map_some] at after
  refine ⟨_, after, rfl, ?_⟩
  rw [addedMemories, ← own.countP]
  exact remember_size turnNumber own.memories (own.free found)

theorem extractKnowledge_roles (extracted : extractKnowledge context config factProposals
      rumorProposals rolesForMemory memoryProposals = .ok change)
    (grew : (applyKnowledgeChange context turnNumber change).roles[roleId]? = some grown) :
    ∃ role, context.roles[roleId]? = some role ∧ grown.spec = role.spec ∧
      grown.memories.size =
        role.memories.size + addedMemories rolesForMemory memoryProposals roleId := by
  have after := applyMemoryOps_get turnNumber change.memories context.roles roleId
  cases found : context.roles[roleId]? with
  | none =>
    rw [found] at after
    cases after.symm.trans grew
  | some role =>
    obtain ⟨_, same, spec, size⟩ := extractKnowledge_grown extracted turnNumber found
    cases same.symm.trans grew
    exact ⟨role, rfl, spec, size⟩

/-- No role ends with too many memories exactly when the selected ones had room. -/
theorem memories_bounded_iff (valid : validateRuntimeRoles context.roles = .ok ())
    (extracted : extractKnowledge context config factProposals rumorProposals rolesForMemory
      memoryProposals = .ok change) (turnNumber : TurnNumber) :
    (∀ (roleId : RoleId) (role : RoleEntry),
        (applyKnowledgeChange context turnNumber change).roles[roleId]? = some role →
          role.memories.size ≤ maxMemoriesPerRole) ↔
      HasRoom context rolesForMemory memoryProposals := by
  constructor
  · intro bounded roleId selected role found
    obtain ⟨grown, grew, _, size⟩ := extractKnowledge_grown extracted turnNumber found
    rw [addedMemories, if_pos selected] at size
    rw [← size]
    exact bounded roleId grown grew
  · intro room roleId grown grew
    obtain ⟨role, found, _, size⟩ := extractKnowledge_roles extracted grew
    rw [size, addedMemories]
    split
    · rename_i selected
      exact room roleId selected role found
    · exact ((validateRuntimeRoles_fits valid).2 roleId role found).2

/-- The store's own check reports the role limit exactly when there was no room. -/
theorem overfull_iff (valid : validateRuntimeRoles context.roles = .ok ())
    (extracted : extractKnowledge context config factProposals rumorProposals rolesForMemory
      memoryProposals = .ok change) (turnNumber : TurnNumber) :
    (∃ roleId actual maximum,
        validateRuntimeRoles (applyKnowledgeChange context turnNumber change).roles =
          .error (.tooManyRoleMemories roleId actual maximum)) ↔
      ¬ HasRoom context rolesForMemory memoryProposals := by
  obtain ⟨few, fits⟩ := validateRuntimeRoles_fits valid
  rw [← memories_bounded_iff valid extracted turnNumber]
  push Not
  refine validateRuntimeRoles_overfull_iff ?_ ?_
  · exact (applyMemoryOps_size turnNumber change.memories context.roles).trans_le few
  · intro roleId grown grew
    obtain ⟨role, found, spec, _⟩ := extractKnowledge_roles extracted grew
    rw [spec]
    exact (fits roleId role found).1

/-- What the store then does with the turn of an extracted change. -/
structure LimitAtCommit (room : Prop) (store : StoryStoreMem) (now : DateTime)
    (story : StoredStory) (turn : StoryCommit) : Prop where
  unrejected : room → ∀ roleId actual maximum,
    ((StoryStoreMem.commit now turn).call store).1 ≠
      .error (.invalidStory (.tooManyRoleMemories roleId actual maximum))
  rejected : ¬ room → story.committed[turn.turn.idempotencyKey]? = none →
    ∃ error, (StoryStoreMem.commit now turn).call store = (.error error, store) ∧
      (admitCommit story.context turn = .ok () → ∃ roleId actual maximum,
        error = .invalidStory (.tooManyRoleMemories roleId actual maximum))

/-- The checks before the last one never speak of memories. -/
theorem admitTurn_overfull_iff {turn : StoryCommit}
    (admissible : Admissible context turn.turn.knowledgeChange) :
    admitTurn context turn = .error (.invalidStory (.tooManyRoleMemories roleId actual maximum)) ↔
      admitCommit context turn = .ok () ∧
        validateRuntimeRoles (nextContext context turn).roles =
          .error (.tooManyRoleMemories roleId actual maximum) := by
  unfold admitTurn
  cases admitted : admitCommit context turn with
  | error error =>
    obtain ⟨constraint, rfl⟩ := admitCommit_error admissible admitted
    simp [bind, Except.bind]
  | ok _ =>
    cases checked : validateRuntimeRoles (nextContext context turn).roles <;>
      simp [bind, Except.bind, invalidStory]

theorem limitAtCommit (valid : validateRuntimeRoles context.roles = .ok ())
    (extracted : extractKnowledge context config factProposals rumorProposals rolesForMemory
      memoryProposals = .ok change) {store : StoryStoreMem} {story : StoredStory}
    {turn : StoryCommit} (now : DateTime) (found : store.stories[turn.storyId]? = some story)
    (same : story.context = context) (carries : turn.turn.knowledgeChange = change) :
    LimitAtCommit (HasRoom context rolesForMemory memoryProposals) store now story turn := by
  subst same carries
  have admissible := extractKnowledge_admissible extracted
  have overfull := overfull_iff valid extracted turn.turn.turnNumber
  have roles : (nextContext story.context turn).roles =
      (applyKnowledgeChange story.context turn.turn.turnNumber turn.turn.knowledgeChange).roles :=
    rfl
  constructor
  · intro room roleId actual maximum failed
    cases fresh : story.committed[turn.turn.idempotencyKey]? with
    | some existing =>
      rw [StoryStoreMem.commit_replays now found fresh] at failed
      contradiction
    | none =>
      by_cases accepts : story.Accepts turn
      · rw [StoryStoreMem.commit_accepts now found accepts] at failed
        contradiction
      · obtain ⟨error, refused, result⟩ := StoryStoreMem.commit_refuses now found fresh accepts
        rw [result] at failed
        cases failed
        obtain ⟨_, checked⟩ := (admitTurn_overfull_iff admissible).mp refused
        exact overfull.mp ⟨roleId, actual, maximum, roles ▸ checked⟩ room
  · intro full fresh
    obtain ⟨roleId, actual, maximum, checked⟩ := overfull.mpr full
    have refused : ¬ story.Accepts turn := by
      intro accepts
      have passed := (admitTurn_ok_iff.mp accepts.admitted).roles
      rw [roles, checked] at passed
      contradiction
    obtain ⟨error, admitted, result⟩ := StoryStoreMem.commit_refuses now found fresh refused
    refine ⟨error, result, fun earlier => ⟨roleId, actual, maximum, ?_⟩⟩
    have reported := (admitTurn_overfull_iff admissible).mpr ⟨earlier, roles ▸ checked⟩
    exact Except.error.inj (admitted.symm.trans reported)

/-- A role ends a turn with the memories it had and those proposed for it; whether that
is too many is decided at the commit, which then refuses the turn and writes nothing. -/
theorem role_memories_limited_at_commit (valid : validateRuntimeRoles context.roles = .ok ())
    (extracted : extractKnowledge context config factProposals rumorProposals rolesForMemory
      memoryProposals = .ok change) :
    (∀ (turnNumber : TurnNumber) (roleId : RoleId) (role : RoleEntry),
      context.roles[roleId]? = some role →
      ∃ grown, (applyKnowledgeChange context turnNumber change).roles[roleId]? = some grown ∧
        grown.memories.size =
          role.memories.size + addedMemories rolesForMemory memoryProposals roleId) ∧
    (∀ turnNumber : TurnNumber,
      (∀ (roleId : RoleId) (role : RoleEntry),
        (applyKnowledgeChange context turnNumber change).roles[roleId]? = some role →
          role.memories.size ≤ maxMemoriesPerRole) ↔
        HasRoom context rolesForMemory memoryProposals) ∧
    ∀ (store : StoryStoreMem) (now : DateTime) (story : StoredStory) (turn : StoryCommit),
      store.stories[turn.storyId]? = some story → story.context = context →
      turn.turn.knowledgeChange = change →
      LimitAtCommit (HasRoom context rolesForMemory memoryProposals) store now story turn := by
  refine ⟨?_, memories_bounded_iff valid extracted, ?_⟩
  · intro turnNumber roleId role found
    obtain ⟨grown, grew, _, size⟩ := extractKnowledge_grown extracted turnNumber found
    exact ⟨grown, grew, size⟩
  · intro store now story turn found same carries
    exact limitAtCommit valid extracted now found same carries

end Extracted

namespace Sample
open SerdeJson

def memoryName (n : Nat) : MemoryId := ⟨_, candidateText_visible "mem" ⟨0⟩ n⟩

def remembered (n : Nat) : MemoryEntry := ⟨memoryName n, .seed, body "a song"⟩

def memories : Nat → BTreeMap .memory MemoryEntry
  | 0 => ∅
  | n + 1 => (memories n).insert (memoryName n) (remembered n)

theorem memories_get {id : MemoryId} (found : (memories n)[id]? = some entry) :
    ∃ k < n, id = memoryName k ∧ entry = remembered k := by
  induction n with
  | zero => simp [memories] at found
  | succ n ih =>
    rw [memories, OrdMap.get_insert] at found
    split at found
    · rename_i same
      cases found
      exact ⟨n, Nat.lt_succ_self n, same.symm, rfl⟩
    · obtain ⟨k, early, named, kept⟩ := ih found
      exact ⟨k, Nat.lt_succ_of_lt early, named, kept⟩

theorem memories_size (n : Nat) : (memories n).size = n := by
  induction n with
  | zero => rfl
  | succ n ih =>
    have fresh : (memories n)[memoryName n]? = none := by
      rw [Option.eq_none_iff_forall_ne_some]
      intro entry found
      obtain ⟨k, early, named, _⟩ := memories_get found
      have same := candidateText_injective "mem" ⟨0⟩ (congrArg Ident.value named)
      exact absurd same (Nat.ne_of_gt early)
    rw [memories, OrdMap.size_insert_fresh fresh, ih]

def heroSpec : RoleSpec :=
  { name := ⟨"Hero"⟩, backstory := ⟨"Born by the road."⟩, retrieval := hint }

def heroWith (memories : BTreeMap .memory MemoryEntry) : RoleEntry :=
  ⟨hero, .seed, heroSpec, {}, memories⟩

/-- The hero remembers as much as a role may. -/
def crowdedSpec : StoryInstanceSpec :=
  { spec with roles := (∅ : BTreeMap .role RoleEntry).insert hero (heroWith (memories 32)) }

def crowded : StoryContext := (StoredStory.created now crowdedSpec).context

theorem memoryName_bytes : ∀ n < 32, RustText.len (quoted (memoryName n).value) ≤ 20 := by
  decide +kernel

theorem song_bytes : RustText.len (quoted "body") + size (body "a song").toJson.pieces ≤ 600 := by
  decide +kernel

theorem remembered_bytes (few : n < 32) :
    RustText.len (quoted (memoryName n).value) + size (remembered n).toJson.pieces ≤ 2000 := by
  have name := memoryName_bytes n few
  have each : ∀ field value, (field, value) ∈ [("id", Json.str (memoryName n).value),
      ("origin", EntryOrigin.seed.toJson), ("body", (body "a song").toJson)] →
      RustText.len (quoted field) + size value.pieces ≤ 600 := by
    intro field value member
    simp only [List.mem_cons, Prod.mk.injEq, List.not_mem_nil, or_false] at member
    rcases member with ⟨rfl, rfl⟩ | ⟨rfl, rfl⟩ | ⟨rfl, rfl⟩
    · have key : RustText.len (quoted "id") = 4 := by decide
      rw [Json.pieces, size_cons, key]
      change 4 + (_ + 0) ≤ 600
      omega
    · decide
    · exact song_bytes
  have total := size_obj_le each
  simp only [List.length_cons, List.length_nil] at total
  simp only [KnowledgeEntry.toJson, remembered]
  omega

theorem memories_bytes (few : n ≤ 32) :
    size (mapJson KnowledgeEntry.toJson (memories n)).pieces ≤ 65000 := by
  have total : size (mapJson KnowledgeEntry.toJson (memories n)).pieces ≤
      (memories n).size * (2000 + 2) + 2 := by
    refine mapJson_size_le fun id entry found => ?_
    obtain ⟨k, early, rfl, rfl⟩ := memories_get found
    exact remembered_bytes (early.trans_le few)
  rw [memories_size] at total
  omega

theorem heroWith_bytes (short : size (mapJson KnowledgeEntry.toJson kept).pieces ≤ 65000) :
    RustText.len (quoted hero.value) + size (heroWith kept).toJson.pieces ≤ 400000 := by
  have each : ∀ field value, (field, value) ∈ [("id", Json.str hero.value),
      ("origin", EntryOrigin.seed.toJson), ("spec", heroSpec.toJson),
      ("profile", CharacterProfile.toJson {}), ("memories", mapJson KnowledgeEntry.toJson kept)] →
      RustText.len (quoted field) + size value.pieces ≤ 66000 := by
    intro field value member
    simp only [List.mem_cons, Prod.mk.injEq, List.not_mem_nil, or_false] at member
    rcases member with ⟨rfl, rfl⟩ | ⟨rfl, rfl⟩ | ⟨rfl, rfl⟩ | ⟨rfl, rfl⟩ | ⟨rfl, rfl⟩
    iterate 4 decide
    have key : RustText.len (quoted "memories") = 10 := by decide
    omega
  have total := size_obj_le each
  have name : RustText.len (quoted hero.value) = 6 := by decide
  simp only [List.length_cons, List.length_nil] at total
  simp only [RoleEntry.toJson, heroWith]
  omega

theorem crowded_valid : validateRuntimeRoles crowded.roles = .ok () := by
  refine validateRuntimeRoles_ok_iff.mpr ⟨by decide, ⟨18, by decide, by decide⟩, ?_⟩
  have total : size (mapJson RoleEntry.toJson crowdedSpec.roles).pieces ≤
      crowdedSpec.roles.size * (400000 + 2) + 2 := by
    refine mapJson_size_le fun id role found => ?_
    rw [crowdedSpec, OrdMap.get_insert] at found
    split at found
    · rename_i same
      cases found
      rw [← same]
      exact heroWith_bytes (memories_bytes (Nat.le_refl 32))
    · simp at found
  have one : crowdedSpec.roles.size = 1 := by decide
  rw [one] at total
  exact total.trans (by decide)

def oneMore : KnowledgeChange where
  memories := [.add hero newMemoryId (noticed "I saw the gate.")]

def oneMoreTurn : StoryCommit :=
  { commit 1 keyA with turn := { turn 1 keyA with knowledgeChange := oneMore } }

def oneMoreProposal (_ : RoleId) : List RoleMemoryProposal := [.add (noticed "I saw the gate.")]

def crowdedStore : StoryStoreMem := StoreOp.perform (.create now crowdedSpec) {}

theorem crowdedStore_get : crowdedStore.stories[oneMoreTurn.storyId]? =
    some (StoredStory.created now crowdedSpec) := by
  have valid : validateRuntimeRoles crowdedSpec.roles = .ok () := crowded_valid
  rw [crowdedStore, StoreOp.perform, StoryStoreMem.create_call, valid]
  exact Std.ExtTreeMap.getElem?_insert_self

end Sample

/-- Extraction adds a memory to a role that is full, and the commit refuses the turn. -/
theorem role_memories_exceed_limit :
    validateRuntimeRoles Sample.crowded.roles = .ok () ∧
      extractKnowledge Sample.crowded {} [] [] [Sample.hero] Sample.oneMoreProposal =
        .ok Sample.oneMore ∧
      (∃ role, (applyKnowledgeChange Sample.crowded ⟨1⟩ Sample.oneMore).roles[Sample.hero]? =
          some role ∧ role.memories.size = maxMemoriesPerRole + 1) ∧
      ∃ roleId actual maximum,
        (StoryStoreMem.commit Sample.now Sample.oneMoreTurn).call Sample.crowdedStore =
          (.error (.invalidStory (.tooManyRoleMemories roleId actual maximum)),
            Sample.crowdedStore) := by
  have extracted : extractKnowledge Sample.crowded {} [] [] [Sample.hero] Sample.oneMoreProposal =
      .ok Sample.oneMore := by decide +kernel
  have found : Sample.crowded.roles[Sample.hero]? = some (Sample.heroWith (Sample.memories 32)) :=
    Std.ExtTreeMap.getElem?_insert_self
  obtain ⟨role, grew, _, size⟩ := extractKnowledge_grown extracted ⟨1⟩ found
  have counted : role.memories.size = maxMemoriesPerRole + 1 := by
    rw [size, Sample.heroWith, Sample.memories_size]
    rfl
  have full : ¬ HasRoom Sample.crowded [Sample.hero] Sample.oneMoreProposal := by
    intro room
    have bounded := (memories_bounded_iff Sample.crowded_valid extracted ⟨1⟩).mpr room
    have few := bounded Sample.hero role grew
    omega
  have limit := limitAtCommit Sample.crowded_valid extracted Sample.now Sample.crowdedStore_get
    rfl rfl
  obtain ⟨error, refused, reported⟩ := limit.rejected full rfl
  obtain ⟨roleId, actual, maximum, rfl⟩ := reported (by decide +kernel)
  exact ⟨Sample.crowded_valid, extracted, ⟨role, grew, counted⟩, roleId, actual, maximum, refused⟩

theorem role_memories_limited_at_commit_sample :
    validateRuntimeRoles Sample.scene.roles = .ok () ∧
      ∃ grown, (applyKnowledgeChange Sample.scene ⟨1⟩ Sample.change).roles[Sample.hero]? =
          some grown ∧ grown.memories.size = 1 + 1 := by
  have valid : validateRuntimeRoles Sample.scene.roles = .ok () := by decide +kernel
  have limited := role_memories_limited_at_commit valid Sample.extracts
  exact ⟨valid, limited.1 ⟨1⟩ Sample.hero _ Std.ExtTreeMap.getElem?_insert_self⟩

end Aise
