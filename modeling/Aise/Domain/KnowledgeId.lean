import Aise.Domain.Knowledge
import Aise.Lib.Result
import Mathlib.Data.Nat.Digits.Lemmas

/-! The identifiers of facts, rumors and memories as texts. An identifier is the padded number behind
the prefix of its kind. -/
namespace Aise.Domain
open RustText

/-! ### Numbers -/

theorem formatKnowledgeSequence_digits (sequence : Nat) :
    ∀ c ∈ formatKnowledgeSequence sequence, c.isDigit = true := by
  intro c member
  rcases List.mem_append.mp member with zero | digit
  · rw [(List.mem_replicate.mp zero).2]
    decide
  · exact Nat.isDigit_of_mem_toDigits (by decide) (by decide) digit

/-- The digits of a number are read as the number. -/
theorem parseKnowledgeSequence_format {sequence : Nat} (positive : 0 < sequence)
    (fits : sequence < UInt64.size) :
    parseKnowledgeSequence (formatKnowledgeSequence sequence) = some sequence := by
  have digits : (formatKnowledgeSequence sequence).all Char.isDigit :=
    List.all_eq_true.mpr (formatKnowledgeSequence_digits sequence)
  have value : (formatKnowledgeSequence sequence).foldl
      (fun value digit => value * 10 + (digit.toNat - '0'.toNat)) 0 = sequence := by
    have read : ∀ (text : List Char) (start : Nat),
        text.foldl (fun value digit => value * 10 + (digit.toNat - '0'.toNat)) start =
          Nat.ofDigitChars 10 text start := by
      intro text start
      rw [Nat.ofDigitChars_eq_foldl]
      simp only [Nat.mul_comm 10]
    rw [read, formatKnowledgeSequence, Nat.ofDigitChars_append, Nat.ofDigitChars_replicate_zero,
      Nat.mul_zero, Nat.ofDigitChars_toDigits (by decide) (by decide)]
  have nonempty : (formatKnowledgeSequence sequence).isEmpty = false := by
    simp [formatKnowledgeSequence, Nat.toDigits_ne_nil]
  have bound : ¬UInt64.size ≤ sequence := Nat.not_le.mpr fits
  have zero : ¬sequence = 0 := by omega
  have known : ((formatKnowledgeSequence sequence).isEmpty ||
      !(formatKnowledgeSequence sequence).all Char.isDigit) = false := by
    rw [nonempty, digits]
    rfl
  simp only [parseKnowledgeSequence, known, value, bound, zero]
  simp

/-- The identifier of a number is one that `try_new` accepts. -/
theorem isKnowledgeId_format (kind : KnowledgeKind) {sequence : Nat} (positive : 0 < sequence)
    (fits : sequence ≤ maxKnowledgeSequence) :
    isKnowledgeId kind (String.ofList (kind.idPrefix ++ formatKnowledgeSequence sequence)) := by
  have small : maxKnowledgeSequence < UInt64.size := by decide
  have parsed := parseKnowledgeSequence_format positive (fits.trans_lt small)
  rw [isKnowledgeId, String.toList_ofList, List.drop_left, parsed, Bool.and_eq_true]
  exact ⟨List.isPrefixOf_iff_prefix.mpr (List.prefix_append _ _), by simpa using fits⟩

/-- What stands before and after a number in `parse_knowledge_sequence`. -/
theorem parseKnowledgeSequence_eq_some {text : List Char} {sequence : Nat} :
    parseKnowledgeSequence text = some sequence ↔
      0 < sequence ∧ sequence < UInt64.size ∧ text = formatKnowledgeSequence sequence := by
  constructor
  · intro parsed
    unfold parseKnowledgeSequence at parsed
    split at parsed
    · cases parsed
    · dsimp only at parsed
      split at parsed
      · cases parsed
      · rename_i inside
        split at parsed
        · rename_i canonical
          cases parsed
          rw [Bool.or_eq_true, decide_eq_true_iff, decide_eq_true_iff] at inside
          exact ⟨by omega, by omega, canonical.symm⟩
        · cases parsed
  · rintro ⟨positive, fits, rfl⟩
    exact parseKnowledgeSequence_format positive fits

abbrev NonZeroU64 := { value : UInt64 // 0 < value.toNat }

/-- `NonZeroU64::new`. -/
def NonZeroU64.new (value : UInt64) : Option NonZeroU64 :=
  if nonzero : 0 < value.toNat then some ⟨value, nonzero⟩ else none

/-! ### Identifiers -/

/-- A `FactId`, `RumorId` or `MemoryId`. -/
abbrev KnowledgeId (kind : KnowledgeKind) := { id : KnowledgeSourceId // id.kind = kind }

inductive KnowledgeIdError where
  | invalidGrammar (value : String)
  | sequenceOverflow
  | allocationOverflow
  deriving DecidableEq

namespace KnowledgeId
variable {kind : KnowledgeKind}

theorem eq_of_asStr {id other : KnowledgeId kind} (same : id.1.asStr = other.1.asStr) :
    id = other := by
  apply Subtype.ext
  apply KnowledgeSourceId.rank_injective
  rw [KnowledgeSourceId.rank, KnowledgeSourceId.rank, id.2, other.2, same]

theorem accepted (id : KnowledgeId kind) : isKnowledgeId kind id.1.asStr = true := by
  have accepted := id.1.accepted
  rwa [id.2] at accepted

def fromSequence (kind : KnowledgeKind) (sequence : NonZeroU64) :
    Except KnowledgeIdError (KnowledgeId kind) :=
  if fits : sequence.1.toNat ≤ maxKnowledgeSequence then
    .ok ⟨⟨kind, _, isKnowledgeId_format kind sequence.2 fits⟩, rfl⟩
  else .error .sequenceOverflow

/-- `value.strip_prefix(PREFIX).and_then(parse_knowledge_sequence)`. -/
def readSequence (kind : KnowledgeKind) (value : String) : Option NonZeroU64 :=
  if kind.idPrefix.isPrefixOf value.toList then do
    NonZeroU64.new (UInt64.ofNat (← parseKnowledgeSequence
      (value.toList.drop kind.idPrefix.length)))
  else none

/-- `try_new`, with its errors. -/
def tryNewResult (kind : KnowledgeKind) (value : String) :
    Except KnowledgeIdError (KnowledgeId kind) :=
  match readSequence kind value with
  | some sequence => fromSequence kind sequence
  | none => .error (.invalidGrammar value)

/-- The identifier of a number, whatever the number. -/
def text (kind : KnowledgeKind) (sequence : Nat) : String :=
  String.ofList (kind.idPrefix ++ formatKnowledgeSequence sequence)

theorem text_injective {first second : Nat} (positive : 0 < first) (fits : first < UInt64.size)
    (positiveToo : 0 < second) (fitsToo : second < UInt64.size)
    (same : text kind first = text kind second) : first = second := by
  have chars := List.append_cancel_left (String.ofList_injective same)
  have parsed := parseKnowledgeSequence_format positiveToo fitsToo
  rw [← chars, parseKnowledgeSequence_format positive fits] at parsed
  exact Option.some.inj parsed

theorem fromSequence_eq_ok {sequence : NonZeroU64} {id : KnowledgeId kind} :
    fromSequence kind sequence = .ok id ↔
      sequence.1.toNat ≤ maxKnowledgeSequence ∧ id.1.asStr = text kind sequence.1.toNat := by
  unfold fromSequence
  split
  · rename_i fits
    constructor
    · intro made
      cases made
      exact ⟨fits, rfl⟩
    · rintro ⟨-, named⟩
      exact congrArg Except.ok (eq_of_asStr named.symm)
  · rename_i large
    simp [large]

theorem eq_text {value : String} {sequence : Nat}
    (labelled : kind.idPrefix.isPrefixOf value.toList = true)
    (digits : value.toList.drop kind.idPrefix.length = formatKnowledgeSequence sequence) :
    value = text kind sequence := by
  obtain ⟨rest, whole⟩ := List.isPrefixOf_iff_prefix.mp labelled
  rw [← whole, List.drop_left] at digits
  apply String.toList_injective
  rw [text, String.toList_ofList, ← digits, whole]

theorem readSequence_eq_some {value : String} {sequence : NonZeroU64} :
    readSequence kind value = some sequence ↔ value = text kind sequence.1.toNat := by
  obtain ⟨number, positive⟩ := sequence
  constructor
  · intro found
    unfold readSequence at found
    split at found
    · rename_i labelled
      obtain ⟨parsed, number_eq, found⟩ := Option.bind_eq_some_iff.mp found
      obtain ⟨_, fits, digits⟩ := parseKnowledgeSequence_eq_some.mp number_eq
      unfold NonZeroU64.new at found
      split at found
      · cases found
        apply eq_text labelled
        rw [digits, UInt64.toNat_ofNat', Nat.mod_eq_of_lt fits]
      · cases found
    · cases found
  · rintro rfl
    unfold readSequence
    rw [text, String.toList_ofList, List.drop_left,
      parseKnowledgeSequence_format positive number.toNat_lt,
      if_pos (List.isPrefixOf_iff_prefix.mpr (List.prefix_append _ _))]
    dsimp only [Option.bind_eq_bind, Option.bind_some]
    rw [UInt64.ofNat_toNat, NonZeroU64.new, dif_pos positive]

theorem isKnowledgeId_iff {value : String} :
    isKnowledgeId kind value = true ↔
      ∃ sequence, 0 < sequence ∧ sequence ≤ maxKnowledgeSequence ∧ value = text kind sequence := by
  constructor
  · intro accepted
    obtain ⟨labelled, small⟩ := Bool.and_eq_true_iff.mp accepted
    obtain ⟨sequence, parsed, fits⟩ := (Option.any_eq_true _ _).mp small
    obtain ⟨positive, -, digits⟩ := parseKnowledgeSequence_eq_some.mp parsed
    exact ⟨sequence, positive, of_decide_eq_true fits, eq_text labelled digits⟩
  · rintro ⟨sequence, positive, fits, rfl⟩
    exact isKnowledgeId_format kind positive fits

theorem tryNewResult_eq_ok {value : String} {id : KnowledgeId kind} :
    tryNewResult kind value = .ok id ↔ id.1.asStr = value := by
  unfold tryNewResult
  constructor
  · intro made
    split at made
    · rename_i sequence found
      obtain ⟨-, named⟩ := fromSequence_eq_ok.mp made
      exact named.trans (readSequence_eq_some.mp found).symm
    · cases made
  · rintro rfl
    obtain ⟨sequence, positive, fits, written⟩ := isKnowledgeId_iff.mp id.accepted
    have small : maxKnowledgeSequence < UInt64.size := by decide
    have number : (UInt64.ofNat sequence).toNat = sequence := by
      rw [UInt64.toNat_ofNat', Nat.mod_eq_of_lt (fits.trans_lt small)]
    let nonzero : NonZeroU64 := ⟨UInt64.ofNat sequence, number.symm ▸ positive⟩
    have named : id.1.asStr = text kind nonzero.1.toNat := by rw [written, number]
    rw [readSequence_eq_some.mpr named]
    exact fromSequence_eq_ok.mpr ⟨number.symm ▸ fits, named⟩

/-- `try_new(value).ok()` of a `knowledge_id_type!`. -/
def tryNew (kind : KnowledgeKind) (value : String) : Option (KnowledgeId kind) :=
  (tryNewResult kind value).toOption

theorem tryNew_asStr (id : KnowledgeId kind) : tryNew kind id.1.asStr = some id := by
  rw [tryNew, tryNewResult_eq_ok.mpr rfl]
  rfl

end KnowledgeId

end Aise.Domain
