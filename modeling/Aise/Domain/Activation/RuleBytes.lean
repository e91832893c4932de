import Aise.Lib.PrefixCode
import Aise.Domain.Activation.Compile

/-! What the version of a rule is the digest of. Every value stands behind its label and its
length, and every list behind its number of items, so that the bytes of a rule tell the rule. -/
namespace Aise.Domain
open PrefixCode

/-! ### Numbers and fields -/

theorem toNat_byte (value shift : UInt64) :
    (value >>> shift).toUInt8.toNat = value.toNat / 2 ^ (shift.toNat % 64) % 256 := by
  simp [UInt64.toNat_shiftRight, Nat.shiftRight_eq_div_pow]

theorem beBytes_injective : Function.Injective Activation.beBytes := by
  intro first second same
  simp only [Activation.beBytes, List.map_cons, List.map_nil, List.cons.injEq, and_true,
    ← UInt8.toNat_inj, toNat_byte] at same
  have bound := first.toNat_lt
  have also := second.toNat_lt
  apply UInt64.toNat_inj.mp
  simp at same
  omega

theorem be16_injective : Function.Injective be16 := by
  intro first second same
  simp only [be16, Activation.beBytes, List.map_cons, List.map_nil, List.drop_succ_cons,
    List.drop_zero, List.cons.injEq, and_true, ← UInt8.toNat_inj, toNat_byte,
    UInt16.toNat_toUInt64] at same
  have bound := first.toNat_lt
  have also := second.toNat_lt
  apply UInt16.toNat_inj.mp
  simp at same
  omega

theorem be32_injective : Function.Injective be32 := by
  intro first second same
  simp only [be32, Activation.beBytes, List.map_cons, List.map_nil, List.drop_succ_cons,
    List.drop_zero, List.cons.injEq, and_true, ← UInt8.toNat_inj, toNat_byte,
    UInt32.toNat_toUInt64] at same
  have bound := first.toNat_lt
  have also := second.toNat_lt
  apply UInt32.toNat_inj.mp
  simp at same
  omega

theorem utf8_injective : Function.Injective Activation.utf8 := by
  intro first second same
  have bytes : first.toByteArray = second.toByteArray :=
    ByteArray.ext (Array.toList_inj.mp same)
  exact String.toByteArray_inj.mp bytes

/-- No longer than a machine can address, as a `Vec` or a `String` is. -/
def Addressable (items : List α) : Prop := items.length < UInt64.size

theorem count_injective {items : List α} {others : List β} (addressable : Addressable items)
    (also : Addressable others)
    (same : Activation.beBytes (UInt64.ofNat items.length) =
      Activation.beBytes (UInt64.ofNat others.length)) : items.length = others.length := by
  have numbers := congrArg UInt64.toNat (beBytes_injective same)
  rwa [UInt64.toNat_ofNat_of_lt' addressable, UInt64.toNat_ofNat_of_lt' also] at numbers

theorem hashField_reads (label : String) : Reads Addressable (hashField label) id := by
  intro first second rest other addressable also same
  simp only [hashField, List.append_assoc] at same
  have same := List.append_cancel_left (List.append_cancel_left same)
  obtain ⟨lengths, same⟩ := List.append_inj same rfl
  obtain ⟨here, same⟩ := List.append_inj same (count_injective addressable also lengths)
  exact ⟨here, List.append_cancel_left same⟩

theorem addressable_of_le {items : List α} (short : items.length ≤ 8) : Addressable items :=
  Nat.lt_of_le_of_lt short (by decide)

section
variable {α β : Type} {valid : α → Prop}

theorem field_reads (label : String) {value : α → List UInt8} {view : α → β}
    (addressable : ∀ record, valid record → Addressable (value record))
    (tells : ∀ first second, valid first → valid second → value first = value second →
      view first = view second) :
    Reads valid (fun record => hashField label (value record)) view :=
  ((hashField_reads label).comp addressable).weaken tells

theorem text_reads (label : String) (view : α → String)
    (addressable : ∀ record, valid record → Addressable (Activation.utf8 (view record))) :
    Reads valid (fun record => hashField label (Activation.utf8 (view record))) view :=
  field_reads label addressable fun _ _ _ _ same => utf8_injective same

theorem bool_reads (label : String) (view : α → Bool) :
    Reads valid (fun record => hashBool label (view record)) view := by
  refine field_reads label (fun _ _ => addressable_of_le (Nat.le_of_ble_eq_true rfl)) ?_
  intro first second _ _ same
  cases here : view first <;> cases there : view second <;> simp_all

/-- Two bytes or none. -/
theorem optionalU16_injective : Function.Injective fun value : Option UInt16 =>
    value.elim [] be16 := by
  intro first second same
  cases first with
  | none =>
    cases second with
    | none => rfl
    | some other => exact absurd (congrArg List.length same) (Nat.zero_ne_add_one 1)
  | some value =>
    cases second with
    | none => exact absurd (congrArg List.length same) (Nat.succ_ne_zero 1)
    | some other => exact congrArg some (be16_injective same)

theorem optionalU16_reads (label : String) (view : α → Option UInt16) :
    Reads valid (fun record => hashOptionalU16 label (view record)) view := by
  have encoded (record : α) : hashOptionalU16 label (view record) =
      hashField label ((view record).elim [] be16) := by
    cases view record <;> rfl
  simp only [encoded]
  refine field_reads label (fun record _ => ?_) fun _ _ _ _ same => optionalU16_injective same
  cases view record <;> exact addressable_of_le (Nat.le_of_ble_eq_true rfl)

theorem count_reads (label : String) (items : α → List β)
    (addressable : ∀ record, valid record → Addressable (items record)) :
    Reads valid (fun record =>
      hashField label (Activation.beBytes (UInt64.ofNat (items record).length)))
      (fun record => (items record).length) :=
  field_reads label (fun _ _ => addressable_of_le (Nat.le_of_ble_eq_true rfl))
    fun first second good fine same =>
      count_injective (addressable first good) (addressable second fine) same

def AddressablePatterns (patterns : List ActivationPattern) : Prop :=
  Addressable patterns ∧ ∀ pattern ∈ patterns, Addressable (Activation.utf8 pattern.literal)

theorem patterns_reads (label : String) (view : α → List ActivationPattern)
    (addressable : ∀ record, valid record → AddressablePatterns (view record)) :
    Reads valid (fun record => hashPatterns label (view record)) view := by
  have one : Reads (fun pattern : ActivationPattern => Addressable (Activation.utf8 pattern.literal))
      (fun pattern => hashField label (Activation.utf8 pattern.literal)) id :=
    (text_reads label ActivationPattern.literal fun _ good => good).weaken
      fun first second _ _ same => by
        cases first
        cases second
        exact congrArg ActivationPattern.mk same
  exact (count_reads label view fun record good => (addressable record good).1).counted one
    fun record good => (addressable record good).2

end

/-! ### The parts of a rule -/

def matchBytes (rule : ActivationMatchRule) : List UInt8 :=
  hashPatterns "keys" rule.keys ++ hashPatterns "secondary_keys" rule.secondaryKeys ++
    hashField "secondary_logic" (Activation.utf8 (secondaryLogicTag rule.secondaryLogic)) ++
    hashBool "case_sensitive" rule.caseSensitive ++
    hashBool "match_whole_words" rule.matchWholeWords ++
    hashOptionalU16 "scan_depth" rule.scanDepth

def modeBytes (mode : ActivationMode) : List UInt8 :=
  hashBool "enabled" mode.enabled ++ hashBool "constant" mode.constant ++
    hashBool "exact_target_only" mode.exactTargetOnly

def recursionBytes (rule : ActivationRecursionRule) : List UInt8 :=
  hashBool "exclude_recursion" rule.excludeRecursion ++
    hashBool "prevent_recursion" rule.preventRecursion ++
    hashOptionalU16 "delay_until_recursion" rule.delayUntilRecursion

def selectionBytes (rule : ActivationSelectionRule) : List UInt8 :=
  hashField "order" (be32 rule.order.toUInt32) ++ hashField "probability" [rule.probability] ++
    (hashField "group_count" (Activation.beBytes (UInt64.ofNat rule.groups.length)) ++
      rule.groups.flatMap fun group => hashField "group" (Activation.utf8 group.asStr)) ++
    hashBool "group_override" rule.groupOverride ++
    hashField "group_weight" (be32 rule.groupWeight) ++
    hashBool "use_group_scoring" rule.useGroupScoring

def timingBytes (rule : ActivationTimingRule) : List UInt8 :=
  hashField "sticky_turns" (be16 rule.stickyTurns) ++
    hashField "cooldown_turns" (be16 rule.cooldownTurns) ++
    hashField "delay_turns" (be16 rule.delayTurns)

def scopeBytes (rule : ActivationScopeRule) : List UInt8 :=
  hashField "trigger_count" (Activation.beBytes (UInt64.ofNat rule.generationTriggers.length)) ++
    rule.generationTriggers.flatMap fun trigger =>
      hashField "trigger" [generationTriggerTag trigger]

/-- What `from_rule` feeds to the hash. -/
def ruleBytes (rule : KnowledgeActivationRule) : List UInt8 :=
  Activation.utf8 "aise.activation.rule.v1\x00" ++ matchBytes rule.matchRule ++
    modeBytes rule.mode ++ recursionBytes rule.recursion ++ selectionBytes rule.selection ++
    timingBytes rule.timing ++ scopeBytes rule.scope ++
    hashField "budget_class" [budgetClassTag rule.budgetClass]

theorem fromRule_eq (externals : Externals) (rule : KnowledgeActivationRule) :
    ActivationRuleVersion.fromRule externals rule = ⟨externals.digest (ruleBytes rule)⟩ := by
  simp only [ActivationRuleVersion.fromRule, ruleBytes, matchBytes, modeBytes, recursionBytes,
    selectionBytes, timingBytes, scopeBytes, List.append_assoc]

structure MatchAddressable (rule : ActivationMatchRule) : Prop where
  keys : AddressablePatterns rule.keys
  secondaryKeys : AddressablePatterns rule.secondaryKeys

structure SelectionAddressable (rule : ActivationSelectionRule) : Prop where
  groups : Addressable rule.groups
  texts : ∀ group ∈ rule.groups, Addressable (Activation.utf8 group.asStr)

/-- The lists and texts of a rule are no longer than the machine can address. -/
structure KnowledgeActivationRule.Addressable (rule : KnowledgeActivationRule) : Prop where
  matchRule : MatchAddressable rule.matchRule
  selection : SelectionAddressable rule.selection
  triggers : Domain.Addressable rule.scope.generationTriggers

theorem secondaryLogicTag_injective : Function.Injective secondaryLogicTag := by
  intro first second same
  cases first <;> cases second <;> simp_all [secondaryLogicTag]

theorem secondaryLogicTag_short (logic : SecondaryLogic) :
    (Activation.utf8 (secondaryLogicTag logic)).length ≤ 8 := by
  cases logic <;> decide

theorem generationTriggerTag_injective : Function.Injective generationTriggerTag := by
  intro first second same
  cases first <;> cases second <;> simp_all [generationTriggerTag]

theorem budgetClassTag_injective : Function.Injective budgetClassTag := by
  intro first second same
  cases first <;> cases second <;> simp_all [budgetClassTag]

theorem matchBytes_reads : Reads MatchAddressable matchBytes id := by
  have logic : Reads MatchAddressable (fun rule => hashField "secondary_logic"
      (Activation.utf8 (secondaryLogicTag rule.secondaryLogic))) (·.secondaryLogic) :=
    field_reads "secondary_logic"
      (fun rule _ => addressable_of_le (secondaryLogicTag_short rule.secondaryLogic))
      fun _ _ _ _ same => secondaryLogicTag_injective (utf8_injective same)
  have told : Reads MatchAddressable matchBytes fun rule => (((((rule.keys, rule.secondaryKeys),
      rule.secondaryLogic), rule.caseSensitive), rule.matchWholeWords), rule.scanDepth) :=
    (((((patterns_reads "keys" _ fun _ good => good.keys).append
      (patterns_reads "secondary_keys" _ fun _ good => good.secondaryKeys)).append
      logic).append
      (bool_reads "case_sensitive" _)).append
      (bool_reads "match_whole_words" _)).append
      (optionalU16_reads "scan_depth" _)
  refine told.weaken fun first second _ _ same => ?_
  cases first
  cases second
  simp_all

theorem modeBytes_reads : Reads (fun _ => True) modeBytes id := by
  have told : Reads (fun _ => True) modeBytes fun mode =>
      ((mode.enabled, mode.constant), mode.exactTargetOnly) :=
    ((bool_reads "enabled" _).append (bool_reads "constant" _)).append
      (bool_reads "exact_target_only" _)
  refine told.weaken fun first second _ _ same => ?_
  cases first
  cases second
  simp_all

theorem recursionBytes_reads : Reads (fun _ => True) recursionBytes id := by
  have told : Reads (fun _ => True) recursionBytes fun rule =>
      ((rule.excludeRecursion, rule.preventRecursion), rule.delayUntilRecursion) :=
    ((bool_reads "exclude_recursion" _).append (bool_reads "prevent_recursion" _)).append
      (optionalU16_reads "delay_until_recursion" _)
  refine told.weaken fun first second _ _ same => ?_
  cases first
  cases second
  simp_all

theorem timingBytes_reads : Reads (fun _ => True) timingBytes id := by
  have number (label : String) (view : ActivationTimingRule → UInt16) :
      Reads (fun _ => True) (fun rule => hashField label (be16 (view rule))) view :=
    field_reads label (fun _ _ => addressable_of_le (Nat.le_of_ble_eq_true rfl))
      fun _ _ _ _ same => be16_injective same
  have told : Reads (fun _ => True) timingBytes fun rule =>
      ((rule.stickyTurns, rule.cooldownTurns), rule.delayTurns) :=
    ((number "sticky_turns" _).append (number "cooldown_turns" _)).append (number "delay_turns" _)
  refine told.weaken fun first second _ _ same => ?_
  cases first
  cases second
  simp_all

theorem selectionBytes_reads : Reads SelectionAddressable selectionBytes id := by
  have order : Reads SelectionAddressable
      (fun rule => hashField "order" (be32 rule.order.toUInt32)) (·.order) :=
    field_reads "order" (fun _ _ => addressable_of_le (Nat.le_of_ble_eq_true rfl))
      fun _ _ _ _ same => Int32.toBitVec_inj.mp (congrArg UInt32.toBitVec (be32_injective same))
  have weight : Reads SelectionAddressable
      (fun rule => hashField "group_weight" (be32 rule.groupWeight)) (·.groupWeight) :=
    field_reads "group_weight" (fun _ _ => addressable_of_le (Nat.le_of_ble_eq_true rfl))
      fun _ _ _ _ same => be32_injective same
  have probability : Reads SelectionAddressable
      (fun rule => hashField "probability" [rule.probability]) (·.probability) :=
    field_reads "probability" (fun _ _ => addressable_of_le (Nat.le_of_ble_eq_true rfl))
      fun _ _ _ _ same => List.singleton_injective same
  have group : Reads (fun group : ActivationGroupKey => Addressable (Activation.utf8 group.asStr))
      (fun group => hashField "group" (Activation.utf8 group.asStr)) id :=
    (text_reads "group" ActivationGroupKey.asStr fun _ good => good).weaken
      fun _ _ _ _ same => ActivationGroupKey.asStr_injective same
  have groups := (count_reads "group_count" ActivationSelectionRule.groups
    fun _ (good : SelectionAddressable _) => good.groups).counted group fun _ good => good.texts
  have told : Reads SelectionAddressable selectionBytes fun rule => (((((rule.order,
      rule.probability), rule.groups), rule.groupOverride), rule.groupWeight),
      rule.useGroupScoring) :=
    ((((order.append probability).append groups).append (bool_reads "group_override" _)).append
      weight).append (bool_reads "use_group_scoring" _)
  refine told.weaken fun first second _ _ same => ?_
  cases first
  cases second
  simp_all

theorem scopeBytes_reads :
    Reads (fun rule : ActivationScopeRule => Addressable rule.generationTriggers) scopeBytes
      id := by
  have trigger : Reads (fun _ => True)
      (fun trigger => hashField "trigger" [generationTriggerTag trigger]) id :=
    field_reads "trigger" (fun _ _ => addressable_of_le (Nat.le_of_ble_eq_true rfl))
      fun _ _ _ _ same => generationTriggerTag_injective (List.singleton_injective same)
  have told := (count_reads "trigger_count" ActivationScopeRule.generationTriggers
    fun _ good => good).counted trigger fun _ _ _ _ => trivial
  refine told.weaken fun first second _ _ same => ?_
  cases first
  cases second
  exact congrArg ActivationScopeRule.mk same

theorem ruleBytes_reads : Reads KnowledgeActivationRule.Addressable ruleBytes id := by
  have budget : Reads KnowledgeActivationRule.Addressable
      (fun rule => hashField "budget_class" [budgetClassTag rule.budgetClass]) (·.budgetClass) :=
    field_reads "budget_class" (fun _ _ => addressable_of_le (Nat.le_of_ble_eq_true rfl))
      fun _ _ _ _ same => budgetClassTag_injective (List.singleton_injective same)
  have told : Reads KnowledgeActivationRule.Addressable ruleBytes fun rule => ((((((((),
      rule.matchRule), rule.mode), rule.recursion), rule.selection), rule.timing), rule.scope),
      rule.budgetClass) :=
    (((((((reads_constant _).append
      (matchBytes_reads.comp fun _ good => good.matchRule)).append
      (modeBytes_reads.comp fun _ _ => trivial)).append
      (recursionBytes_reads.comp fun _ _ => trivial)).append
      (selectionBytes_reads.comp fun _ good => good.selection)).append
      (timingBytes_reads.comp fun _ _ => trivial)).append
      (scopeBytes_reads.comp fun _ good => good.triggers)).append
      budget
  refine told.weaken fun first second _ _ same => ?_
  cases first
  cases second
  simp_all

/-- Rules that differ have different bytes, so that only the hash can confuse their versions. -/
theorem rule_versions_identify :
    (∀ externals rule, ActivationRuleVersion.fromRule externals rule =
      ⟨externals.digest (ruleBytes rule)⟩) ∧
    ∀ rule other : KnowledgeActivationRule, rule.Addressable → other.Addressable →
      ruleBytes rule = ruleBytes other → rule = other :=
  ⟨fromRule_eq, fun _ _ good fine same => ruleBytes_reads.eq good fine same⟩

namespace RuleBytes.Sample

/-- Keys that read the same one after the other. -/
def rule (keys : List ActivationPattern) : KnowledgeActivationRule where
  matchRule := { keys }
  mode := {}
  selection := { groups := [⟨"weather"⟩] }
  budgetClass := .normal

theorem rule_addressable {keys : List ActivationPattern} (few : keys.length ≤ 8)
    (short : ∀ key ∈ keys, (Activation.utf8 key.literal).length ≤ 8) : (rule keys).Addressable where
  matchRule := {
    keys := ⟨addressable_of_le few, fun key member => addressable_of_le (short key member)⟩
    secondaryKeys := ⟨addressable_of_le (Nat.zero_le 8), List.forall_mem_nil _⟩ }
  selection := {
    groups := addressable_of_le (Nat.le_of_ble_eq_true rfl)
    texts := List.forall_mem_singleton.mpr (addressable_of_le (by decide)) }
  triggers := addressable_of_le (Nat.zero_le 8)

theorem divided_keys_differ :
    ruleBytes (rule [⟨"river"⟩, ⟨"mill"⟩]) ≠ ruleBytes (rule [⟨"ri"⟩, ⟨"vermill"⟩]) := by
  intro same
  have equal := rule_versions_identify.2 _ _ (rule_addressable (by decide) (by decide))
    (rule_addressable (by decide) (by decide)) same
  exact absurd equal (by decide)

end RuleBytes.Sample

end Aise.Domain
