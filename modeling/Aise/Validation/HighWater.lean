import Aise.Validation.Validators

/-! The identifiers that a story has given out, by their numbers. Knowledge of every kind takes its
numbers from one sequence, new roles take theirs from another. -/
namespace Aise.Domain
open RustText

/-! ### Knowledge -/

/-- The number of an identifier. -/
def KnowledgeSourceId.sequence (id : KnowledgeSourceId) : Nat :=
  (parseKnowledgeSequence (id.asStr.toList.drop id.kind.idPrefix.length)).getD 0

theorem newKnowledgeSourceId_sequence {kind : KnowledgeKind} {sequence : UInt64}
    {nonzero : 0 < sequence.toNat} {id : KnowledgeSourceId}
    (made : newKnowledgeSourceId kind sequence nonzero = .ok id) : id.sequence = sequence.toNat := by
  obtain ⟨kinded, written⟩ := newKnowledgeSourceId_eq_ok made
  rw [KnowledgeSourceId.sequence, kinded, written, KnowledgeId.text, String.toList_ofList,
    List.drop_left, parseKnowledgeSequence_format nonzero sequence.toNat_lt]
  rfl

/-- The numbers that are given out follow the high water, up to the new one. -/
theorem allocateFrom_sequences {next : UInt64} {kinds : List KnowledgeKind}
    {allocation : KnowledgeIdAllocation} (allocated : allocateFrom next kinds = .ok allocation) :
    allocation.newHighWater.toNat = next.toNat + kinds.length ∧
      allocation.assigned.map (·.sequence) = List.range' (next.toNat + 1) kinds.length := by
  induction kinds generalizing next allocation with
  | nil =>
    cases allocated
    exact ⟨rfl, rfl⟩
  | cons kind kinds ih =>
    unfold allocateFrom at allocated
    split at allocated
    · rename_i room
      obtain ⟨id, made, allocated⟩ := Result.bind_eq_ok allocated
      obtain ⟨rest, later, allocated⟩ := Result.bind_eq_ok allocated
      cases allocated
      have following : (UInt64.ofNat (next.toNat + 1)).toNat = next.toNat + 1 := by
        rw [UInt64.toNat_ofNat', Nat.mod_eq_of_lt room]
      obtain ⟨highWater, sequences⟩ := ih later
      rw [following] at highWater sequences
      constructor
      · rw [highWater, List.length_cons]
        omega
      · rw [List.map_cons, sequences, newKnowledgeSourceId_sequence made, following,
          List.length_cons, List.range'_succ]
    · cases allocated

theorem allocateKnowledgeIds_fresh {base : UInt64} {kinds : List KnowledgeKind}
    {allocation : KnowledgeIdAllocation} (allocated : allocateKnowledgeIds base kinds = .ok allocation) :
    base ≤ allocation.newHighWater ∧ allocation.assigned.Nodup ∧
      ∀ id ∈ allocation.assigned, base.toNat < id.sequence ∧
        id.sequence ≤ allocation.newHighWater.toNat := by
  obtain ⟨highWater, sequences⟩ := allocateFrom_sequences allocated
  refine ⟨?_, ?_, fun id member => ?_⟩
  · rw [UInt64.le_iff_toNat_le, highWater]
    omega
  · refine List.Nodup.of_map (·.sequence) ?_
    rw [sequences]
    exact List.nodup_range'
  · have among := List.mem_map_of_mem (f := (·.sequence)) member
    rw [sequences, List.mem_range'_1] at among
    omega

/-! ### Roles -/

/-- `is_canonical_dynamic_role_id_shape`, with the number. -/
def RoleId.dynamicSequence (roleId : RoleId) : Option Nat :=
  if dynamicRoleIdPrefix.isPrefixOf roleId.value.toList then
    parseKnowledgeSequence (roleId.value.toList.drop dynamicRoleIdPrefix.length)
  else none

theorem RoleId.dynamicSequence_eq {roleId : RoleId} {sequence : Nat} (positive : 0 < sequence)
    (fits : sequence < UInt64.size) (named : roleId.value = dynamicRoleId sequence) :
    roleId.dynamicSequence = some sequence := by
  rw [RoleId.dynamicSequence, named, dynamicRoleId, String.toList_ofList, List.drop_left,
    parseKnowledgeSequence_format positive fits]
  exact if_pos (List.isPrefixOf_iff_prefix.mpr (List.prefix_append _ _))

theorem roleIdScan_digits {digits : List Char} (seen : Bool) (all : ∀ c ∈ digits, c.isDigit = true)
    (some_digit : seen = true ∨ digits ≠ []) : roleIdScan seen digits = true := by
  induction digits generalizing seen with
  | nil =>
    rw [roleIdScan]
    exact some_digit.resolve_right fun some_char => some_char rfl
  | cons c digits ih =>
    have digit := all c List.mem_cons_self
    have inside : ('0' ≤ c && c ≤ '9') = true := by
      simpa [Char.isDigit, Char.le_def] using digit
    rw [roleIdScan, inside, Bool.or_true, if_pos rfl]
    exact ih true (fun other member => all other (List.mem_cons_of_mem c member)) (.inl rfl)

theorem length_formatKnowledgeSequence {sequence : Nat} (fits : sequence < UInt64.size) :
    (formatKnowledgeSequence sequence).length ≤ 20 := by
  have digits : (Nat.toDigits 10 sequence).length ≤ 20 :=
    (Nat.length_toDigits_le_iff (by decide) (by decide)).mpr (fits.trans (by decide))
  rw [formatKnowledgeSequence, List.length_append, List.length_replicate]
  omega

/-- The grammar of role identifiers has room for every number. -/
theorem tryNew_dynamicRoleId {sequence : Nat} (fits : sequence < UInt64.size) :
    ∃ roleId, RoleId.tryNew (dynamicRoleId sequence) = some roleId := by
  have digits := formatKnowledgeSequence_digits sequence
  have scanned : roleIdScan false (dynamicRoleId sequence).toList = true := by
    have nonempty : formatKnowledgeSequence sequence ≠ [] :=
      List.append_ne_nil_of_right_ne_nil _ Nat.toDigits_ne_nil
    have rest := roleIdScan_digits false digits (.inr nonempty)
    rw [dynamicRoleId, String.toList_ofList]
    simpa [dynamicRoleIdPrefix, roleIdScan] using rest
  have short : len (dynamicRoleId sequence) ≤ roleIdMaxBytes := by
    have ascii : ∀ c ∈ dynamicRoleIdPrefix ++ formatKnowledgeSequence sequence, c.utf8Size = 1 := by
      intro c member
      rcases List.mem_append.mp member with label | digit
      · have letters : dynamicRoleIdPrefix.all (fun c => c.utf8Size = 1) = true := by decide
        exact of_decide_eq_true (List.all_eq_true.mp letters c label)
      · have digit := (Char.isDigit_iff_toNat.mp (digits c digit)).2
        apply Char.utf8Size_eq_one_iff.mpr
        rw [UInt32.le_iff_toNat_le]
        exact digit.trans (by decide)
    have length := length_formatKnowledgeSequence fits
    rw [dynamicRoleId, len_ofList ascii, List.length_append]
    exact (Nat.add_le_add_left length _).trans (by decide)
  have valid : isValidRoleId (dynamicRoleId sequence) = true := by
    have named : dynamicRoleId sequence ≠ "" := by
      intro empty
      have chars := congrArg String.toList empty
      rw [dynamicRoleId, String.toList_ofList] at chars
      cases chars
    simp [isValidRoleId, named, short, scanned]
  have free : isCanonicalKnowledgeIdShape (dynamicRoleId sequence) = false := by
    apply List.any_eq_false.mpr
    intro kind _
    have other : kind.idPrefix.isPrefixOf (dynamicRoleId sequence).toList = false := by
      rw [dynamicRoleId, String.toList_ofList]
      cases kind <;> rfl
    rw [other]
    exact Bool.false_ne_true
  exact ⟨⟨_, valid, free⟩, RoleId.tryNew_eq_some.mpr rfl⟩

/-- With a number left, neither `expect` of a round panics. -/
theorem dynamicRoleCandidatesFrom_succ {next : UInt64} (room : next.toNat + 1 < UInt64.size)
    (maximum : Nat) :
    ∃ roleId : RoleId, roleId.value = dynamicRoleId (next + 1).toNat ∧
      roleId.dynamicSequence = some (next.toNat + 1) ∧
      dynamicRoleCandidatesFrom next (maximum + 1) =
        (dynamicRoleCandidatesFrom (next + 1) maximum).map (roleId :: ·) := by
  have following : (next + 1).toNat = next.toNat + 1 := by
    rw [UInt64.toNat_add, UInt64.toNat_one, Nat.mod_eq_of_lt room]
  have positive : 0 < (next + 1).toNat := following ▸ Nat.succ_pos _
  have nonzero : NonZeroU64.new (next + 1) = some ⟨next + 1, positive⟩ := dif_pos positive
  obtain ⟨roleId, made⟩ := tryNew_dynamicRoleId (next + 1).toNat_lt
  have named := RoleId.tryNew_eq_some.mp made
  refine ⟨roleId, named, ?_, ?_⟩
  · rw [← following]
    exact RoleId.dynamicSequence_eq positive (next + 1).toNat_lt named
  · rw [dynamicRoleCandidatesFrom, if_pos room]
    simp only [bind, Except.bind, nonzero, RoleIdAllocationError.expect, made]
    cases dynamicRoleCandidatesFrom (next + 1) maximum <;> rfl

/-- The candidates are the numbers after `next`, where there are as many of them. -/
theorem dynamicRoleCandidatesFrom_cases (next : UInt64) (maximum : Nat) :
    dynamicRoleCandidatesFrom next maximum = .error .allocationOverflow ∨
      ∃ candidates, dynamicRoleCandidatesFrom next maximum = .ok candidates ∧
        (0 < maximum → next.toNat + maximum < UInt64.size) ∧
        candidates.map (·.value) = (List.range' (next.toNat + 1) maximum).map dynamicRoleId ∧
        candidates.map RoleId.dynamicSequence =
          (List.range' (next.toNat + 1) maximum).map some := by
  induction maximum generalizing next with
  | zero => exact .inr ⟨[], rfl, nofun, rfl, rfl⟩
  | succ maximum ih =>
    by_cases room : next.toNat + 1 < UInt64.size
    · have following : (next + 1).toNat = next.toNat + 1 := by
        rw [UInt64.toNat_add, UInt64.toNat_one, Nat.mod_eq_of_lt room]
      obtain ⟨roleId, named, number, round⟩ := dynamicRoleCandidatesFrom_succ room maximum
      rw [round]
      rcases ih (next + 1) with overflow | ⟨candidates, allocated, bound, texts, sequences⟩
      · rw [overflow]
        exact .inl rfl
      · rw [allocated]
        rw [following] at bound texts sequences named
        refine .inr ⟨roleId :: candidates, rfl, fun _ => by omega, ?_, ?_⟩
        · rw [List.map_cons, texts, named, List.range'_succ, List.map_cons]
        · rw [List.map_cons, sequences, number, List.range'_succ, List.map_cons]
    · rw [dynamicRoleCandidatesFrom, if_neg room]
      exact .inl rfl

theorem allocateDynamicRoleCandidates_eq_some {next : UInt64} {maximum : Nat} {pool : List String}
    (allocated : allocateDynamicRoleCandidates next maximum = some pool) :
    (0 < maximum → next.toNat + maximum < UInt64.size) ∧
      pool = (List.range' (next.toNat + 1) maximum).map dynamicRoleId := by
  obtain ⟨candidates, made, rfl⟩ := Option.map_eq_some_iff.mp allocated
  rcases dynamicRoleCandidatesFrom_cases next maximum with overflow | ⟨others, also, bound, texts, -⟩
  · rw [overflow] at made
    cases made
  · rw [also] at made
    cases made
    exact ⟨bound, texts⟩

/-- A new role takes the number at its place. -/
theorem dynamicSequence_of_candidate {next : UInt64} {maximum index : Nat} {pool : List String}
    {roleId : RoleId} (allocated : allocateDynamicRoleCandidates next maximum = some pool)
    (placed : pool.idxOf? roleId.value = some index) :
    index < maximum ∧ roleId.dynamicSequence = some (next.toNat + 1 + index) := by
  obtain ⟨bound, rfl⟩ := allocateDynamicRoleCandidates_eq_some allocated
  obtain ⟨inside, same, _⟩ := List.findIdx?_eq_some_iff_getElem.mp placed
  rw [List.length_map, List.length_range'] at inside
  have positive : 0 < maximum := Nat.zero_lt_of_lt inside
  have named := beq_iff_eq.mp same
  rw [List.getElem_map, List.getElem_range', Nat.one_mul] at named
  exact ⟨inside, RoleId.dynamicSequence_eq (by omega) (by have := bound positive; omega) named.symm⟩

end Aise.Domain
