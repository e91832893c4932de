import Aise.Core.Activation.Rule
import Aise.Domain.Knowledge

/-! Activation rules of the `aise` crate. Nothing is checked when a rule is read, so a key,
a group or a probability may be any value of its type. -/
namespace Aise.Domain

/-- `ActivationPattern::Literal`, the only pattern there is. -/
structure ActivationPattern where
  literal : String
  deriving DecidableEq

structure ActivationMatchRule where
  keys : List ActivationPattern := []
  secondaryKeys : List ActivationPattern := []
  secondaryLogic : SecondaryLogic := .andAny
  caseSensitive : Bool := false
  matchWholeWords : Bool := false
  scanDepth : Option UInt16 := none
  deriving DecidableEq

structure ActivationMode where
  enabled : Bool := true
  constant : Bool := false
  exactTargetOnly : Bool := false
  deriving DecidableEq

structure ActivationRecursionRule where
  excludeRecursion : Bool := false
  preventRecursion : Bool := false
  delayUntilRecursion : Option UInt16 := none
  deriving DecidableEq

structure ActivationGroupKey where
  asStr : String
  deriving DecidableEq

namespace ActivationGroupKey

theorem asStr_injective : Function.Injective asStr := by
  intro a b same
  cases a
  cases b
  cases same
  rfl

instance : LinearOrder ActivationGroupKey := LinearOrder.lift' asStr asStr_injective

instance : Std.TransOrd ActivationGroupKey := inferInstance

instance : Std.LawfulEqOrd ActivationGroupKey := ⟨compare_eq_iff_eq.mp⟩

end ActivationGroupKey

structure ActivationSelectionRule where
  order : Int32 := 0
  probability : UInt8 := 100
  groups : List ActivationGroupKey := []
  groupOverride : Bool := false
  groupWeight : UInt32 := 100
  useGroupScoring : Bool := false
  deriving DecidableEq

structure ActivationTimingRule where
  stickyTurns : UInt16 := 0
  cooldownTurns : UInt16 := 0
  delayTurns : UInt16 := 0
  deriving DecidableEq

inductive GenerationTrigger where
  | normal | «continue» | regenerate | repair | dryRunPreview
  deriving DecidableEq

structure ActivationScopeRule where
  generationTriggers : List GenerationTrigger := []
  deriving DecidableEq

inductive ActivationBudgetClass where
  | normal | reserved | mandatory
  deriving DecidableEq

structure KnowledgeActivationRule where
  matchRule : ActivationMatchRule
  mode : ActivationMode
  recursion : ActivationRecursionRule := {}
  selection : ActivationSelectionRule := {}
  timing : ActivationTimingRule := {}
  scope : ActivationScopeRule := {}
  budgetClass : ActivationBudgetClass
  deriving DecidableEq

/-- The digest of a rule. -/
structure ActivationRuleVersion where
  asDigest : Sha256Digest
  deriving DecidableEq

end Aise.Domain
