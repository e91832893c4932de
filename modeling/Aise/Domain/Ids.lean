import Aise.Domain.StoredEntry
import Aise.Validation.HighWater

/-! The identifiers of knowledge and of new roles as texts. A text is the identifier of at most one
number, and of knowledge of at most one kind, and no role has such a text. -/
namespace Aise.Domain
open RustText

/-! ### Knowledge -/

namespace KnowledgeId
variable {kind : KnowledgeKind}

theorem exists_tryNewResult {value : String} :
    (∃ id, tryNewResult kind value = .ok id) ↔
      ∃ sequence, 0 < sequence ∧ sequence ≤ maxKnowledgeSequence ∧ value = text kind sequence := by
  rw [← isKnowledgeId_iff]
  constructor
  · rintro ⟨id, made⟩
    obtain rfl := tryNewResult_eq_ok.mp made
    exact id.accepted
  · intro accepted
    exact ⟨⟨⟨kind, value, accepted⟩, rfl⟩, tryNewResult_eq_ok.mpr rfl⟩

/-- The first letters tell the kinds apart. -/
theorem text_kind {other : KnowledgeKind} {first second : Nat}
    (same : text kind first = text other second) : kind = other := by
  have chars := congrArg List.head? (String.ofList_injective same)
  cases kind <;> cases other <;> first | rfl | cases chars

/-- No role has the text of an identifier. -/
theorem refuses_text {sequence : Nat} (positive : 0 < sequence) (fits : sequence < UInt64.size) :
    RoleId.tryNew (text kind sequence) = none := by
  have shaped : isCanonicalKnowledgeIdShape (text kind sequence) = true := by
    apply List.any_eq_true.mpr
    refine ⟨kind, by cases kind <;> decide, ?_⟩
    rw [text, String.toList_ofList, List.drop_left, parseKnowledgeSequence_format positive fits,
      Bool.and_eq_true]
    exact ⟨List.isPrefixOf_iff_prefix.mpr (List.prefix_append _ _), rfl⟩
  apply dif_neg
  rintro ⟨-, plain⟩
  rw [shaped] at plain
  cases plain

end KnowledgeId

/-! ### Roles -/

structure DynamicRoleCandidatePool where
  candidates : List RoleId
  baseHighWater : UInt64
  deriving DecidableEq

/-- The bytes of a `RoleId` itself, a pointer to its text with the length of that. -/
def roleIdBytes : Nat := 16

/-- A `Vec` takes at most `isize::MAX` bytes. -/
def maxVecBytes : Nat := 2 ^ 63 - 1

/-- `allocate_dynamic_role_candidates`, as a pool. -/
def allocateDynamicRolePool (base maximum : UInt64) :
    Except RoleIdAllocationError DynamicRoleCandidatePool := do
  if maxVecBytes < maximum.toNat * roleIdBytes then .error (.panic "capacity overflow")
  let candidates ← dynamicRoleCandidatesFrom base maximum.toNat
  .ok { candidates, baseHighWater := base }

theorem allocateDynamicRolePool_cases (base maximum : UInt64) :
    2 ^ 59 ≤ maximum.toNat ∧ allocateDynamicRolePool base maximum = .error (.panic "capacity overflow") ∨
      maximum.toNat < 2 ^ 59 ∧
        (allocateDynamicRolePool base maximum = .error .allocationOverflow ∨
          ∃ pool, allocateDynamicRolePool base maximum = .ok pool ∧
            pool.baseHighWater = base ∧
            pool.candidates.map RoleId.dynamicSequence =
              (List.range' (base.toNat + 1) maximum.toNat).map some) := by
  have capacity : maxVecBytes < maximum.toNat * roleIdBytes ↔ 2 ^ 59 ≤ maximum.toNat := by
    rw [maxVecBytes, roleIdBytes]
    omega
  unfold allocateDynamicRolePool
  by_cases large : maxVecBytes < maximum.toNat * roleIdBytes
  · rw [if_pos large]
    exact .inl ⟨capacity.mp large, rfl⟩
  · rw [if_neg large]
    refine .inr ⟨?_, ?_⟩
    · rwa [← Nat.not_le, ← capacity]
    · rcases dynamicRoleCandidatesFrom_cases base maximum.toNat with overflow |
        ⟨candidates, allocated, -, -, sequences⟩
      · rw [overflow]
        exact .inl rfl
      · rw [allocated]
        exact .inr ⟨⟨candidates, base⟩, rfl, rfl, sequences⟩

/-- Roles with the numbers after the base are distinct and have higher numbers. -/
theorem fresh_of_sequences {base maximum : Nat} {candidates : List RoleId}
    (sequences : candidates.map RoleId.dynamicSequence =
      (List.range' (base + 1) maximum).map some) :
    candidates.length = maximum ∧ candidates.Nodup ∧
      ∀ roleId ∈ candidates, ∃ sequence, roleId.dynamicSequence = some sequence ∧ base < sequence := by
  refine ⟨?_, ?_, fun roleId member => ?_⟩
  · have lengths := congrArg List.length sequences
    rwa [List.length_map, List.length_map, List.length_range'] at lengths
  · apply List.Nodup.of_map RoleId.dynamicSequence
    rw [sequences]
    exact List.Nodup.map (Option.some_injective Nat) List.nodup_range'
  · have among := List.mem_map_of_mem (f := RoleId.dynamicSequence) member
    rw [sequences] at among
    obtain ⟨sequence, above, number⟩ := List.mem_map.mp among
    exact ⟨sequence, number.symm, (List.mem_range'_1.mp above).1⟩

/-- An identifier of knowledge is the padded number behind the prefix of its kind, and no text is an
identifier of two kinds or of a role. New roles take numbers above the base, as many as are asked
for, unless the numbers run out; only a pool that no `Vec` holds panics. -/
theorem ids_disjoint_and_exact :
    (∀ kind value, ((∃ id, KnowledgeId.tryNewResult kind value = .ok id) ↔
        ∃ sequence, 1 ≤ sequence ∧ sequence ≤ 2 ^ 63 - 1 ∧
          value.toList = kind.idPrefix ++ (List.replicate
            (4 - (Nat.toDigits 10 sequence).length) '0' ++ Nat.toDigits 10 sequence)) ∧
      ∀ id, KnowledgeId.tryNewResult kind value = .ok id → id.1.asStr = value) ∧
    (∀ kind (sequence other : NonZeroU64) id, KnowledgeId.fromSequence kind sequence = .ok id →
      KnowledgeId.tryNewResult kind id.1.asStr = .ok id ∧
        (KnowledgeId.fromSequence kind other = .ok id → sequence = other)) ∧
    (∀ kind value id, KnowledgeId.tryNewResult kind value = .ok id →
      RoleId.tryNew value = none ∧
        ∀ other otherId, KnowledgeId.tryNewResult other value = .ok otherId → kind = other) ∧
    ∀ base maximum,
      2 ^ 59 ≤ maximum.toNat ∧
          allocateDynamicRolePool base maximum = .error (.panic "capacity overflow") ∨
        maximum.toNat < 2 ^ 59 ∧
          (allocateDynamicRolePool base maximum = .error .allocationOverflow ∨
            ∃ pool, allocateDynamicRolePool base maximum = .ok pool ∧
              pool.candidates.length = maximum.toNat ∧ pool.candidates.Nodup ∧
              ∀ roleId ∈ pool.candidates, ∃ sequence,
                roleId.dynamicSequence = some sequence ∧ base.toNat < sequence) := by
  refine ⟨fun kind value => ⟨?_, fun id => KnowledgeId.tryNewResult_eq_ok.mp⟩,
    fun kind sequence other id made => ⟨KnowledgeId.tryNewResult_eq_ok.mpr rfl, ?_⟩,
    fun kind value id made => ?_, fun base maximum => ?_⟩
  · rw [KnowledgeId.exists_tryNewResult]
    have small : maxKnowledgeSequence = 2 ^ 63 - 1 := rfl
    simp only [small, ← String.toList_inj, KnowledgeId.text, String.toList_ofList]
    rfl
  · intro also
    obtain ⟨-, named⟩ := KnowledgeId.fromSequence_eq_ok.mp made
    obtain ⟨-, namedToo⟩ := KnowledgeId.fromSequence_eq_ok.mp also
    have number := KnowledgeId.text_injective sequence.2 sequence.1.toNat_lt other.2
      other.1.toNat_lt (named.symm.trans namedToo)
    exact Subtype.ext (UInt64.toNat_inj.mp number)
  · obtain ⟨sequence, positive, fits, rfl⟩ := KnowledgeId.exists_tryNewResult.mp ⟨id, made⟩
    refine ⟨KnowledgeId.refuses_text positive (fits.trans_lt (by decide)), ?_⟩
    intro other otherId also
    obtain ⟨_, -, -, same⟩ := KnowledgeId.exists_tryNewResult.mp ⟨otherId, also⟩
    exact KnowledgeId.text_kind same
  · rcases allocateDynamicRolePool_cases base maximum with panics | ⟨small, runs⟩
    · exact .inl panics
    · refine .inr ⟨small, runs.imp_right ?_⟩
      rintro ⟨pool, allocated, -, sequences⟩
      exact ⟨pool, allocated, fresh_of_sequences sequences⟩

namespace Ids.Sample

/-- A pool of this size is more than a `Vec` takes, although there are numbers for it. -/
theorem large_pool_panics :
    ¬∀ base maximum, allocateDynamicRolePool base maximum = .error .allocationOverflow ∨
      ∃ pool, allocateDynamicRolePool base maximum = .ok pool := by
  intro always
  have panics : allocateDynamicRolePool 0 576460752303423488 =
      .error (.panic "capacity overflow") := by
    have large : maxVecBytes < (576460752303423488 : UInt64).toNat * roleIdBytes := by decide
    rw [allocateDynamicRolePool, if_pos large]
    rfl
  rcases always 0 576460752303423488 with overflow | ⟨pool, allocated⟩
  · rw [panics] at overflow
    cases overflow
  · rw [panics] at allocated
    cases allocated

end Ids.Sample

end Aise.Domain
