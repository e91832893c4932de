import Aise.Validation.Validators

/-! What is known of a turn in which the deterministic validators have found nothing. -/
namespace Aise.Domain
open RustText

/-! ### Loops that report -/

theorem forall_of_items {α : Type} {items : List α} {check : Nat → α → List ValidationIssue}
    {P : α → Prop} (clean : eachItem items check = [])
    (checks : ∀ index item, check index item = [] → P item) : ∀ item ∈ items, P item :=
  fun _ => forall_of_eachItem clean checks

section
variable {α K : Type} [DecidableEq K] {key : α → K} {seen : List K} {items : List α}
  {check : Nat → α × Bool → List ValidationIssue}

theorem fresh_of_marks (clean : eachItem (Distinct.marks key seen items) check = [])
    (marked : ∀ index entry, check index entry = [] → entry.2 = false) :
    Distinct.Fresh key seen items :=
  Distinct.marks_fresh_iff.mp fun _ member => forall_of_eachItem clean marked member

theorem forall_of_marks {P : α → Prop}
    (clean : eachItem (Distinct.marks key seen items) check = [])
    (checks : ∀ index entry, check index entry = [] → P entry.1) : ∀ item ∈ items, P item := by
  intro item member
  have same : (Distinct.marks key seen items).map Prod.fst = items := Distinct.map_fst_marks
  rw [← same] at member
  obtain ⟨entry, among, rfl⟩ := List.mem_map.mp member
  exact forall_of_eachItem clean checks among

theorem targetIssues_eq_nil {path message : String} {index : Nat} {entry : α × Bool} :
    targetIssues path message index entry = [] ↔ entry.2 = false := by
  rw [targetIssues, issueIf_eq_nil, Bool.not_eq_true]

end

/-! ### The schema -/

/-- A text that is there, and no longer than so many bytes. -/
def Filled (value : String) (maximum : Nat) : Prop := isBlank value = false ∧ len value ≤ maximum

theorem not_blank_or_long {value : String} {maximum : Nat} :
    ¬(isBlank value = true ∨ len value > maximum) ↔ Filled value maximum := by
  rw [not_or, Bool.not_eq_true, Nat.not_lt, Filled]

structure CleanProfile (limits : StoryStateExtractionLimits) (role : NewRoleDto) : Prop where
  named : Filled role.name limits.maxRoleProfileBytes
  functioning : Filled role.narrativeFunction limits.maxRoleProfileBytes
  fields : ∀ field ∈ [role.roleLabel, role.background, role.appearance, role.personality,
    role.speakingStyle], len field ≤ limits.maxRoleProfileBytes

theorem newRoleIssues_eq_nil {limits : StoryStateExtractionLimits} {index : Nat}
    {entry : NewRoleDto × Bool} (clean : newRoleIssues limits index entry = []) :
    entry.2 = false ∧ CleanProfile limits entry.1 := by
  simp only [newRoleIssues, List.append_eq_nil_iff] at clean
  obtain ⟨⟨⟨⟨⟨once, named⟩, functioning⟩, fields⟩, _⟩, _⟩ := clean
  rw [issueIf_eq_nil, Bool.not_eq_true] at once
  rw [issueIf_eq_nil, not_blank_or_long] at named functioning
  refine ⟨once, named, functioning, fun field member => ?_⟩
  have short := List.flatMap_eq_nil_iff.mp fields field member
  rwa [issueIf_eq_nil, Nat.not_lt] at short

theorem roleStateIssues_eq_nil {limits : StoryStateExtractionLimits} {index : Nat}
    {entry : RoleStateDto × Bool} (clean : roleStateIssues limits index entry = []) :
    entry.2 = false ∧ ∀ goal ∈ entry.1.goals, Filled goal limits.maxItemBytes := by
  simp only [roleStateIssues, List.append_eq_nil_iff] at clean
  obtain ⟨⟨⟨⟨once, _⟩, _⟩, _⟩, goals⟩ := clean
  rw [issueIf_eq_nil, Bool.not_eq_true] at once
  refine ⟨once, fun goal member => ?_⟩
  have filled := List.flatMap_eq_nil_iff.mp goals goal member
  rwa [issueIf_eq_nil, not_blank_or_long] at filled

theorem validateContent_eq_nil {limits : StoryStateExtractionLimits}
    {content retrievalHint path : String} {index : Nat}
    (clean : validateContent limits content retrievalHint path index = []) :
    Filled content limits.maxKnowledgeChangeBytes ∧ (retrievalHint = "" ∨ len retrievalHint ≤ 256) := by
  simp only [validateContent, List.append_eq_nil_iff] at clean
  obtain ⟨filled, hinted⟩ := clean
  rw [issueIf_eq_nil, not_blank_or_long] at filled
  rw [issueIf_eq_nil, not_and_or, not_not, Nat.not_lt] at hinted
  exact ⟨filled, hinted⟩

/-- What the schema says of an extraction. -/
structure CleanSchema (limits : StoryStateExtractionLimits) (dto : StoryStateExtractionDto) :
    Prop where
  newRoles : Distinct.Fresh (·.roleId) [] dto.newRoles
  profiles : ∀ role ∈ dto.newRoles, CleanProfile limits role
  roleStates : Distinct.Fresh (·.roleId) (dto.newRoles.map (·.roleId)).reverse dto.roleStates
  goals : ∀ state ∈ dto.roleStates, ∀ goal ∈ state.goals, Filled goal limits.maxItemBytes
  relationships : Distinct.Fresh (·.key) [] dto.relationshipStates
  addFacts : ∀ draft ∈ dto.addFacts, Filled draft.content limits.maxKnowledgeChangeBytes ∧
    (draft.retrievalHint = "" ∨ len draft.retrievalHint ≤ 256)
  factTargets : Distinct.Fresh (·.id) [] dto.updateFacts
  updateFacts : ∀ update ∈ dto.updateFacts, Filled update.content limits.maxKnowledgeChangeBytes ∧
    (update.retrievalHint = "" ∨ len update.retrievalHint ≤ 256)
  addRumors : ∀ draft ∈ dto.addRumors, Filled draft.content limits.maxKnowledgeChangeBytes ∧
    (draft.retrievalHint = "" ∨ len draft.retrievalHint ≤ 256)
  rumorTargets : Distinct.Fresh (·.id) [] dto.updateRumors
  updateRumors : ∀ update ∈ dto.updateRumors, Filled update.content limits.maxKnowledgeChangeBytes ∧
    (update.retrievalHint = "" ∨ len update.retrievalHint ≤ 256)
  deleteRumors : Distinct.Fresh id (dto.updateRumors.map (·.id)).reverse dto.deleteRumorIds
  addMemories : ∀ draft ∈ dto.addMemories, Filled draft.content limits.maxKnowledgeChangeBytes
  memoryTargets : Distinct.Fresh (·.id) [] dto.updateMemories
  updateMemories : ∀ update ∈ dto.updateMemories,
    Filled update.content limits.maxKnowledgeChangeBytes
  deleteMemories : Distinct.Fresh id (dto.updateMemories.map (·.id)).reverse dto.deleteMemoryIds

theorem extractionSchema_eq_nil {turn : CandidateTurn} {extraction : StoryStateExtractionEnvelope}
    (extracted : turn.extraction = some extraction) (clean : extractionSchema turn = []) :
    CleanSchema turn.limits.stateExtraction extraction.state := by
  unfold extractionSchema at clean
  rw [extracted] at clean
  simp only [roleSchemaIssues, factSchemaIssues, rumorSchemaIssues, memorySchemaIssues,
    List.append_eq_nil_iff] at clean
  obtain ⟨⟨⟨⟨⟨⟨_, ⟨newRoles, roleStates⟩, relationships⟩, addFacts, updateFacts⟩,
    ⟨addRumors, updateRumors⟩, deleteRumors⟩, ⟨addMemories, updateMemories⟩, deleteMemories⟩, _⟩, _⟩ :=
    clean
  constructor
  · exact fresh_of_marks newRoles fun _ _ clean => (newRoleIssues_eq_nil clean).1
  · exact forall_of_marks newRoles fun _ _ clean => (newRoleIssues_eq_nil clean).2
  · exact fresh_of_marks roleStates fun _ _ clean => (roleStateIssues_eq_nil clean).1
  · exact forall_of_marks roleStates fun _ _ clean => (roleStateIssues_eq_nil clean).2
  · exact fresh_of_marks relationships fun _ _ => targetIssues_eq_nil.mp
  · exact forall_of_items addFacts fun _ _ => validateContent_eq_nil
  · exact fresh_of_marks updateFacts fun _ _ clean =>
      targetIssues_eq_nil.mp (List.append_eq_nil_iff.mp clean).1
  · exact forall_of_marks updateFacts fun _ _ clean =>
      validateContent_eq_nil (List.append_eq_nil_iff.mp clean).2
  · exact forall_of_items addRumors fun _ _ => validateContent_eq_nil
  · exact fresh_of_marks updateRumors fun _ _ clean =>
      targetIssues_eq_nil.mp (List.append_eq_nil_iff.mp clean).1
  · exact forall_of_marks updateRumors fun _ _ clean =>
      validateContent_eq_nil (List.append_eq_nil_iff.mp clean).2
  · exact fresh_of_marks deleteRumors fun _ _ => targetIssues_eq_nil.mp
  · exact forall_of_items addMemories fun _ _ clean =>
      not_blank_or_long.mp (issueIf_eq_nil.mp clean)
  · exact fresh_of_marks updateMemories fun _ _ clean =>
      targetIssues_eq_nil.mp (List.append_eq_nil_iff.mp clean).1
  · exact forall_of_marks updateMemories fun _ _ clean =>
      not_blank_or_long.mp (issueIf_eq_nil.mp (List.append_eq_nil_iff.mp clean).2)
  · exact fresh_of_marks deleteMemories fun _ _ => targetIssues_eq_nil.mp

/-! ### References -/

/-- What the references of an extraction resolve to. -/
structure CleanReferences (turn : CandidateTurn) (dto : StoryStateExtractionDto)
    (snapshot : StorySnapshot) : Prop where
  newRoles : ∀ role ∈ dto.newRoles, ∃ roleId, RoleId.tryNew role.roleId = some roleId ∧
    roleId ∉ snapshot.roles ∧ locationKeyResolves snapshot role.location = true
  roleStates : ∀ state ∈ dto.roleStates,
    resolvesTo (knownRoles snapshot dto) state.roleId = true ∧
      locationKeyResolves snapshot state.location = true
  relationships : ∀ relationship ∈ dto.relationshipStates,
    resolvesTo (knownRoles snapshot dto) relationship.sourceRoleId = true ∧
      resolvesTo (knownRoles snapshot dto) relationship.targetRoleId = true
  addRumors : ∀ draft ∈ dto.addRumors,
    sourceRoleResolves (knownRoles snapshot dto) draft.sourceRoleId = true
  updateRumors : ∀ update ∈ dto.updateRumors,
    sourceRoleResolves (knownRoles snapshot dto) update.sourceRoleId = true ∧
      modifiableContains (modifiableKnowledgeIndex turn) .rumor update.id = true
  addMemories : ∀ draft ∈ dto.addMemories,
    resolvesTo (knownRoles snapshot dto) draft.ownerRoleId = true
  updateMemories : ∀ update ∈ dto.updateMemories,
    modifiableContains (modifiableKnowledgeIndex turn) .memory update.id = true
  updateFacts : ∀ update ∈ dto.updateFacts,
    modifiableContains (modifiableKnowledgeIndex turn) .fact update.id = true
  deleteRumors : ∀ rawId ∈ dto.deleteRumorIds,
    modifiableContains (modifiableKnowledgeIndex turn) .rumor rawId = true
  deleteMemories : ∀ rawId ∈ dto.deleteMemoryIds,
    modifiableContains (modifiableKnowledgeIndex turn) .memory rawId = true

theorem newRoleReferenceIssues_eq_nil {snapshot : StorySnapshot} {index : Nat} {role : NewRoleDto}
    (clean : newRoleReferenceIssues snapshot index role = []) :
    ∃ roleId, RoleId.tryNew role.roleId = some roleId ∧ roleId ∉ snapshot.roles ∧
      locationKeyResolves snapshot role.location = true := by
  rw [newRoleReferenceIssues, List.append_eq_nil_iff, issueIf_eq_nil, Bool.not_eq_false] at clean
  obtain ⟨fresh, located⟩ := clean
  split at fresh
  · rename_i roleId named
    exact ⟨roleId, named, issueIf_eq_nil.mp fresh, located⟩
  · cases fresh

theorem modifiableIssues_eq_nil {modifiable : BTreeMap KnowledgeSourceId KnowledgeKind}
    {kind : KnowledgeKind} {path message : String} {index : Nat} {rawId : String}
    (clean : modifiableIssues modifiable kind path message index rawId = []) :
    modifiableContains modifiable kind rawId = true := by
  rwa [modifiableIssues, issueIf_eq_nil, Bool.not_eq_false] at clean

theorem sourceRoleIssues_eq_nil {known : List RoleId} {path : String} {index : Nat} {raw : String}
    (clean : sourceRoleIssues known path index raw = []) : sourceRoleResolves known raw = true := by
  rwa [sourceRoleIssues, issueIf_eq_nil, Bool.not_eq_false] at clean

theorem reference_eq_nil {turn : CandidateTurn} {extraction : StoryStateExtractionEnvelope}
    {snapshot : StorySnapshot} (extracted : turn.extraction = some extraction)
    (held : turn.snapshot = some snapshot) (clean : reference turn = []) :
    CleanReferences turn extraction.state snapshot := by
  unfold reference at clean
  rw [extracted, held] at clean
  simp only [List.append_eq_nil_iff] at clean
  obtain ⟨⟨⟨⟨⟨⟨⟨⟨⟨newRoles, roleStates⟩, relationships⟩, addRumors⟩, updateRumors⟩, addMemories⟩,
    updateMemories⟩, updateFacts⟩, deleteRumors⟩, deleteMemories⟩ := clean
  constructor
  · exact forall_of_items newRoles fun _ _ => newRoleReferenceIssues_eq_nil
  · refine forall_of_items roleStates fun _ _ clean => ?_
    rwa [roleStateReferenceIssues, List.append_eq_nil_iff, issueIf_eq_nil, issueIf_eq_nil,
      Bool.not_eq_false, Bool.not_eq_false] at clean
  · exact forall_of_items relationships fun _ _ clean =>
      not_not.mp (issueIf_eq_nil.mp clean)
  · exact forall_of_items addRumors fun _ _ => sourceRoleIssues_eq_nil
  · refine forall_of_items updateRumors fun _ _ clean => ?_
    rw [List.append_eq_nil_iff] at clean
    exact ⟨sourceRoleIssues_eq_nil clean.1, modifiableIssues_eq_nil clean.2⟩
  · refine forall_of_items addMemories fun _ _ clean => ?_
    rwa [issueIf_eq_nil, Bool.not_eq_false] at clean
  · exact forall_of_items updateMemories fun _ _ => modifiableIssues_eq_nil
  · exact forall_of_items updateFacts fun _ _ => modifiableIssues_eq_nil
  · exact forall_of_items deleteRumors fun _ _ => modifiableIssues_eq_nil
  · exact forall_of_items deleteMemories fun _ _ => modifiableIssues_eq_nil

/-! ### Domain invariants -/

/-- New roles take the next identifiers, in order, and trusts are in their range. -/
structure CleanDomain (dto : StoryStateExtractionDto) (snapshot : StorySnapshot) : Prop where
  candidates : dto.newRoles = [] ∨ ∃ pool,
    allocateDynamicRoleCandidates snapshot.roleIdHighWater dto.newRoles.length = some pool ∧
      ∀ (index : Nat) (role : NewRoleDto), dto.newRoles[index]? = some role →
        ∃ roleId, RoleId.tryNew role.roleId = some roleId ∧ pool.idxOf? roleId.value = some index
  trusts : ∀ relationship ∈ dto.relationshipStates, trustOf relationship.trust ≠ none

theorem domainInvariant_eq_nil {turn : CandidateTurn} {extraction : StoryStateExtractionEnvelope}
    {snapshot : StorySnapshot} (extracted : turn.extraction = some extraction)
    (held : turn.snapshot = some snapshot) (clean : domainInvariant turn = []) :
    CleanDomain extraction.state snapshot := by
  unfold domainInvariant at clean
  rw [extracted, held] at clean
  simp only [List.append_eq_nil_iff] at clean
  obtain ⟨⟨_, candidates⟩, trusts⟩ := clean
  refine ⟨?_, forall_of_items trusts fun _ _ => issueIf_eq_nil.mp⟩
  split at candidates
  · rename_i none
    exact .inl none
  · rw [candidatePoolIssues] at candidates
    split at candidates
    · rename_i pool allocated
      refine .inr ⟨pool, allocated, fun index role found => ?_⟩
      have clean := eachItem_eq_nil.mp candidates index role found
      rw [candidateIssues, issueIf_eq_nil, not_not, Option.any_eq_true] at clean
      obtain ⟨roleId, named, placed⟩ := clean
      exact ⟨roleId, named, of_decide_eq_true placed⟩
    · cases candidates

/-! ### All validators -/

structure Clean (turn : CandidateTurn) (dto : StoryStateExtractionDto) (snapshot : StorySnapshot) :
    Prop where
  schema : CleanSchema turn.limits.stateExtraction dto
  references : CleanReferences turn dto snapshot
  domain : CleanDomain dto snapshot

theorem runDeterministic_eq_nil {turn : CandidateTurn} {extraction : StoryStateExtractionEnvelope}
    {snapshot : StorySnapshot} (extracted : turn.extraction = some extraction)
    (held : turn.snapshot = some snapshot) (clean : runDeterministic turn = []) :
    Clean turn extraction.state snapshot := by
  simp only [runDeterministic, List.append_eq_nil_iff] at clean
  obtain ⟨⟨⟨⟨⟨_, schema⟩, references⟩, domain⟩, _⟩, _⟩ := clean
  exact ⟨extractionSchema_eq_nil extracted schema, reference_eq_nil extracted held references,
    domainInvariant_eq_nil extracted held domain⟩

end Aise.Domain
