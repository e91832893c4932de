import Mathlib.Order.Bounds.Basic
import Mathlib.Tactic.Common
import Aise.Pipeline.Generate.Roles

/-! The byte budget of a role. A backstory that does not fit is cut behind a character, and the
search for the place relies on a longer beginning never being shorter as JSON text. -/
namespace Aise
open SerdeJson RustText

namespace GenerateRoles

/-! ### The search -/

/-- Everything before the result fits, and the result does not unless it is the end. -/
theorem truncateSearch_spec {fits : Nat → Bool} (shorter : ∀ i j, i ≤ j → fits j → fits i)
    (low high : Nat) (ordered : low ≤ high) :
    low ≤ truncateSearch fits low high ∧ truncateSearch fits low high ≤ high ∧
      (∀ i, low ≤ i → i < truncateSearch fits low high → fits i = true) ∧
      (truncateSearch fits low high < high → fits (truncateSearch fits low high) = false) := by
  induction low, high using truncateSearch.induct fits with
  | case1 low high open_ middle fitting ih =>
    have half : middle = low + (high - low) / 2 := rfl
    obtain ⟨least, most, before, after⟩ := ih (by omega)
    have right : truncateSearch fits low high = truncateSearch fits (middle + 1) high := by
      rw [truncateSearch, if_pos open_]
      exact if_pos fitting
    rw [right]
    refine ⟨by omega, most, fun i _ inside => ?_, after⟩
    rcases Nat.lt_or_ge i (middle + 1) with early | late
    · exact shorter i middle (Nat.le_of_lt_succ early) fitting
    · exact before i late inside
  | case2 low high open_ middle long ih =>
    have half : middle = low + (high - low) / 2 := rfl
    obtain ⟨least, most, before, after⟩ := ih (by omega)
    have left : truncateSearch fits low high = truncateSearch fits low middle := by
      rw [truncateSearch, if_pos open_]
      exact if_neg long
    rw [left]
    refine ⟨least, by omega, before, fun _ => ?_⟩
    rcases Nat.lt_or_eq_of_le most with inside | same
    · exact after inside
    · rw [same]
      simpa using long
  | case3 low high closed =>
    rw [truncateSearch, if_neg closed]
    exact ⟨le_rfl, ordered, fun i least inside => absurd inside (by omega), fun inside =>
      absurd inside closed⟩

/-! ### Lengths -/

theorem len_append (first second : String) : len (first ++ second) = len first + len second :=
  String.utf8ByteSize_append

theorem jsonString_eq (value : String) : jsonString value = quoted value := by
  simp [jsonString, jsonText, Json.pieces, String.join]

/-- Bytes of the characters of a JSON string between its quotes. -/
def escapedLen (text : List Char) : Nat := len (String.ofList (text.flatMap escape))

theorem escapedLen_append (first second : List Char) :
    escapedLen (first ++ second) = escapedLen first + escapedLen second := by
  rw [escapedLen, List.flatMap_append, String.ofList_append, len_append]
  rfl

theorem len_jsonString (value : String) : len (jsonString value) = escapedLen value.toList + 2 := by
  have quote : len (String.ofList ['"']) = 1 := by decide
  rw [jsonString_eq, quoted, ← List.singleton_append, String.ofList_append,
    String.ofList_append, len_append, len_append, quote, escapedLen]
  omega

theorem len_truncatedAt (value : String) (count : Nat) :
    len (truncatedAt value count) =
      escapedLen (value.toList.take count) + len (jsonString truncationMarker) := by
  rw [truncatedAt, len_jsonString, len_jsonString, String.toList_append, String.toList_ofList,
    escapedLen_append, Nat.add_assoc]

/-- A longer beginning of a text is not shorter, whatever has to be escaped in it. -/
theorem len_truncatedAt_mono (value : String) {count more : Nat} (le : count ≤ more) :
    len (truncatedAt value count) ≤ len (truncatedAt value more) := by
  obtain ⟨rest, split⟩ := @List.take_prefix_take_left _ value.toList _ _ le
  rw [len_truncatedAt, len_truncatedAt, ← split, escapedLen_append]
  omega

/-- The beginnings of a text that fit with the marker behind them, by their lengths. -/
def Fitting (value : String) (maximumBytes : Nat) : Set Nat :=
  { count | count ≤ value.toList.length ∧ len (truncatedAt value count) ≤ maximumBytes }

/-- The text is cut at the last place that leaves room for the marker. -/
theorem truncatedJsonString_greatest (value : String) {maximumBytes : Nat}
    (room : len (jsonString truncationMarker) ≤ maximumBytes) :
    ∃ count, truncatedJsonString value maximumBytes = some (truncatedAt value count) ∧
      IsGreatest (Fitting value maximumBytes) count := by
  let fits (count : Nat) : Bool := len (truncatedAt value count) ≤ maximumBytes
  have fits_iff (count : Nat) : fits count = true ↔
      len (truncatedAt value count) ≤ maximumBytes := decide_eq_true_iff
  have shorter (i j : Nat) (le : i ≤ j) (fitting : fits j = true) : fits i = true :=
    (fits_iff i).mpr ((len_truncatedAt_mono value le).trans ((fits_iff j).mp fitting))
  have alone : fits 0 = true := by
    rw [fits_iff, len_truncatedAt]
    simpa [escapedLen, len] using room
  obtain ⟨_, most, before, after⟩ := truncateSearch_spec shorter 0 (value.toList.length + 1)
    (Nat.zero_le _)
  have cut : truncatedJsonString value maximumBytes = some (truncatedAt value
      (truncateSearch fits 0 (value.toList.length + 1) - 1)) := by
    rw [truncatedJsonString, if_neg (by omega)]
  generalize truncateSearch fits 0 (value.toList.length + 1) = low at most before after cut
  have positive : 0 < low := by
    by_contra none
    obtain rfl : low = 0 := by omega
    rw [after (Nat.succ_pos _)] at alone
    exact Bool.false_ne_true alone
  refine ⟨low - 1, cut, ⟨by omega, ?_⟩, ?_⟩
  · exact (fits_iff _).mp (before _ (Nat.zero_le _) (by omega))
  · rintro count ⟨inside, fitting⟩
    by_contra past
    have end_ : fits low = true := shorter low count (by omega) ((fits_iff count).mpr fitting)
    rw [after (by omega)] at end_
    exact Bool.false_ne_true end_

/-! ### The projection of a role -/

/-- The text of a role up to its backstory, and a backstory. -/
def roleText (role : RoleEntry) (backstory : String) : String :=
  roleIdentity role ++ backstoryPrefix ++ backstory

theorem len_roleText (role : RoleEntry) (backstory : String) :
    len (roleText role backstory) =
      len (roleIdentity role) + len backstoryPrefix + len backstory := by
  rw [roleText, len_append, len_append]

theorem saturatingAdd_eq {a b c : Nat} (small : a + b + c < UInt64.size) :
    saturatingAdd (saturatingAdd a b) c = a + b + c := by
  simp only [saturatingAdd]
  omega

theorem saturatingAdd_le (a b c : Nat) : saturatingAdd (saturatingAdd a b) c ≤ a + b + c := by
  simp only [saturatingAdd]
  omega

/-- The last branch of `render_role`: the backstory is cut to the bytes that are left. -/
theorem renderBackstory_truncated {rendered backstory text : String} {config : GenerateConfig}
    (long : config.maxRoleBytesPerRole < saturatingAdd (saturatingAdd (len rendered)
      (len backstoryPrefix)) (len (jsonString backstory)))
    (made : renderBackstory rendered backstory config = .ok text) :
    len rendered + len backstoryPrefix + len (jsonString truncationMarker) ≤
        config.maxRoleBytesPerRole ∧
      ∃ count, text = truncatedAt backstory count ∧
        IsGreatest (Fitting backstory
          (config.maxRoleBytesPerRole - len rendered - len backstoryPrefix)) count := by
  simp only [renderBackstory] at made
  rw [if_neg (by omega)] at made
  split at made
  next => exact absurd made (by simp)
  next fits =>
    -- The sum with the marker is exact: it is not larger than one that the budget is below.
    have room : len rendered + len backstoryPrefix + len (jsonString truncationMarker) ≤
        config.maxRoleBytesPerRole := by
      simp only [saturatingAdd] at long fits
      omega
    obtain ⟨count, cut, greatest⟩ := truncatedJsonString_greatest backstory
      (show len (jsonString truncationMarker) ≤
        config.maxRoleBytesPerRole - len rendered - len backstoryPrefix by omega)
    rw [cut] at made
    exact ⟨room, count, (Except.ok.inj made).symm, greatest⟩

theorem renderRole_ok {role : RoleEntry} {config : GenerateConfig} {text : String}
    (rendered : renderRole role config = .ok text) :
    ∃ backstory, renderBackstory (roleIdentity role) role.spec.backstory.value config =
        .ok backstory ∧ text = roleText role backstory := by
  rw [renderRole] at rendered
  obtain ⟨_, rendered⟩ := Result.check_bind_eq_ok.mp rendered
  obtain ⟨backstory, made, rendered⟩ := Result.bind_eq_ok rendered
  exact ⟨backstory, made, (Except.ok.inj rendered).symm⟩

theorem renderRole_full {role : RoleEntry} {config : GenerateConfig}
    (fits : len (roleText role (jsonString role.spec.backstory.value)) ≤
      config.maxRoleBytesPerRole) :
    renderRole role config = .ok (roleText role (jsonString role.spec.backstory.value)) := by
  rw [len_roleText] at fits
  have total := saturatingAdd_le (len (roleIdentity role)) (len backstoryPrefix)
    (len (jsonString role.spec.backstory.value))
  have made : renderBackstory (roleIdentity role) role.spec.backstory.value config =
      .ok (jsonString role.spec.backstory.value) := by
    simp only [renderBackstory]
    rw [if_pos (by omega)]
  rw [renderRole, Result.check_bind_eq_ok]
  refine ⟨rejectIf_ok_iff.mpr (decide_eq_false (by omega)), ?_⟩
  rw [made]
  rfl

/-- A role stays within its budget and loses no more of its backstory than it must. A text is
shorter than the machine can count. -/
theorem role_projection_fits (role : RoleEntry) (config : GenerateConfig) :
    (∀ text, renderRole role config = .ok text → len text < UInt64.size →
      len text ≤ config.maxRoleBytesPerRole ∧
      (config.maxRoleBytesPerRole < len (roleText role (jsonString role.spec.backstory.value)) →
        ∃ count, text = roleText role (truncatedAt role.spec.backstory.value count) ∧
          IsGreatest (Fitting role.spec.backstory.value
            (config.maxRoleBytesPerRole - len (roleText role ""))) count)) ∧
    (len (roleText role (jsonString role.spec.backstory.value)) ≤ config.maxRoleBytesPerRole →
      renderRole role config = .ok (roleText role (jsonString role.spec.backstory.value))) ∧
    ∀ value maximumBytes, len (jsonString truncationMarker) ≤ maximumBytes →
      ∃ count, truncatedJsonString value maximumBytes = some (truncatedAt value count) ∧
        IsGreatest (Fitting value maximumBytes) count := by
  refine ⟨?_, renderRole_full, fun value _ => truncatedJsonString_greatest value⟩
  intro text rendered countable
  obtain ⟨backstory, made, rfl⟩ := renderRole_ok rendered
  by_cases full : saturatingAdd (saturatingAdd (len (roleIdentity role)) (len backstoryPrefix))
      (len (jsonString role.spec.backstory.value)) ≤ config.maxRoleBytesPerRole
  · simp only [renderBackstory] at made
    rw [if_pos full] at made
    obtain rfl := Except.ok.inj made
    rw [len_roleText] at countable ⊢
    rw [saturatingAdd_eq countable] at full
    exact ⟨full, fun long => absurd full (by omega)⟩
  · obtain ⟨room, count, rfl, greatest⟩ := renderBackstory_truncated (Nat.lt_of_not_le full) made
    have empty : len "" = 0 := rfl
    have left : config.maxRoleBytesPerRole - len (roleText role "") =
        config.maxRoleBytesPerRole - len (roleIdentity role) - len backstoryPrefix := by
      rw [len_roleText, empty]
      omega
    have fits := greatest.1.2
    refine ⟨?_, fun _ => ⟨count, rfl, ?_⟩⟩
    · rw [len_roleText]
      omega
    · rw [left]
      exact greatest

end GenerateRoles
end Aise
