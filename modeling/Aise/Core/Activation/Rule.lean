import Aise.Core.Ids
import Aise.Lib.Json

/-! Activation rules as stored with every knowledge entry, with the JSON shape the
serde derives give them. Field widths are the source's own. -/
namespace Aise
open SerdeJson

inductive SecondaryLogic where
  | andAny | andAll | notAny | notAll
  deriving DecidableEq

def SecondaryLogic.holds (logic : SecondaryLogic) (matched total : Nat) : Bool :=
  if total = 0 then true
  else match logic with
    | .andAny => matched > 0
    | .andAll => matched = total
    | .notAny => matched = 0
    | .notAll => matched < total

def SecondaryLogic.scoresMatches : SecondaryLogic → Bool
  | .andAny => true
  | .andAll => true
  | .notAny => false
  | .notAll => false

def SecondaryLogic.toJson : SecondaryLogic → Json
  | .andAny => .str "and_any"
  | .andAll => .str "and_all"
  | .notAny => .str "not_any"
  | .notAll => .str "not_all"

structure ActivationMatchRule where
  keys : List ActivationKey := []
  secondaryKeys : List ActivationKey := []
  secondaryLogic : SecondaryLogic := .andAny
  caseSensitive : Bool := false
  matchWholeWords : Bool := false
  scanDepth : Option UInt16 := none
  deriving DecidableEq

structure ActivationMode where
  enabled : Bool := true
  constant : Bool := false
  deriving DecidableEq

structure ActivationRecursionRule where
  excludeRecursion : Bool := false
  preventRecursion : Bool := false
  delayUntilRecursion : Option { depth : UInt16 // depth ≠ 0 } := none
  deriving DecidableEq

/-- The scan of `is_group_key`, with `previous_separator` as its accumulator. -/
def groupKeyScan (previousSeparator : Bool) : List Char → Bool
  | [] => !previousSeparator
  | c :: rest =>
    if ('a' ≤ c && c ≤ 'z') || ('0' ≤ c && c ≤ '9') then groupKeyScan false rest
    else if (c == '.' || c == '_' || c == '-') && !previousSeparator then groupKeyScan true rest
    else false

def isGroupKey (value : String) : Bool := groupKeyScan true value.toList

def activationGroupKeyMaxBytes : Nat := 128

structure ActivationGroupKey where
  value : String
  accepted : value ≠ "" ∧ RustText.len value ≤ activationGroupKeyMaxBytes ∧ isGroupKey value = true
  deriving DecidableEq

structure ActivationProbability where
  percent : UInt8
  accepted : percent ≤ 100
  deriving DecidableEq

def ActivationProbability.always : ActivationProbability := ⟨100, by decide⟩

structure ActivationSelectionRule where
  order : Int32 := 0
  probability : ActivationProbability := .always
  groups : List ActivationGroupKey := []
  groupOverride : Bool := false
  groupWeight : UInt32 := 100
  useGroupScoring : Bool := false
  deriving DecidableEq

structure ActivationRule where
  matchRule : ActivationMatchRule := {}
  mode : ActivationMode := {}
  recursion : ActivationRecursionRule := {}
  selection : ActivationSelectionRule := {}
  deriving DecidableEq

/-- `Option<T>` serializes its absence as `null`. -/
def optionJson (toJson : α → Json) : Option α → Json
  | none => .null
  | some value => toJson value

def BoundedText.toJson (text : BoundedText) : Json := .str text.value

def ActivationMatchRule.toJson (rule : ActivationMatchRule) : Json := .obj [
  ("keys", .arr (rule.keys.map (·.text.toJson))),
  ("secondary_keys", .arr (rule.secondaryKeys.map (·.text.toJson))),
  ("secondary_logic", rule.secondaryLogic.toJson),
  ("case_sensitive", .bool rule.caseSensitive),
  ("match_whole_words", .bool rule.matchWholeWords),
  ("scan_depth", optionJson (fun depth => .num depth.toNat) rule.scanDepth)]

def ActivationMode.toJson (mode : ActivationMode) : Json :=
  .obj [("enabled", .bool mode.enabled), ("constant", .bool mode.constant)]

def ActivationRecursionRule.toJson (rule : ActivationRecursionRule) : Json := .obj [
  ("exclude_recursion", .bool rule.excludeRecursion),
  ("prevent_recursion", .bool rule.preventRecursion),
  ("delay_until_recursion",
    optionJson (fun depth => .num depth.val.toNat) rule.delayUntilRecursion)]

def ActivationSelectionRule.toJson (rule : ActivationSelectionRule) : Json := .obj [
  ("order", .num rule.order.toInt),
  ("probability", .num rule.probability.percent.toNat),
  ("groups", .arr (rule.groups.map (fun group => .str group.value))),
  ("group_override", .bool rule.groupOverride),
  ("group_weight", .num rule.groupWeight.toNat),
  ("use_group_scoring", .bool rule.useGroupScoring)]

def ActivationRule.toJson (rule : ActivationRule) : Json := .obj [
  ("match", rule.matchRule.toJson),
  ("mode", rule.mode.toJson),
  ("recursion", rule.recursion.toJson),
  ("selection", rule.selection.toJson)]

end Aise
