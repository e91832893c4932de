import Aise.Domain.Activation.Contracts
import Aise.Lib.OrdMap
import Aise.Lib.Result

/-! Compiling activation rules. A rule is checked against its limits, its keys are compiled one
by one, and the patterns of all entries make an index. The rule itself is known by its digest. -/
namespace Aise.Domain
open RustText Saturating

/-! ### Rules and their versions -/

section
variable (externals : Externals)

/-- The length of a value in front of it, between its label and a semicolon. -/
def hashField (label : String) (value : List UInt8) : List UInt8 :=
  Activation.utf8 label ++ Activation.utf8 "=" ++
    Activation.beBytes (UInt64.ofNat value.length) ++ value ++ Activation.utf8 ";"

def hashBool (label : String) (value : Bool) : List UInt8 :=
  hashField label [if value then 1 else 0]

/-- The last bytes of the eight, as `to_be_bytes` of a smaller integer gives them. -/
def be16 (value : UInt16) : List UInt8 := (Activation.beBytes value.toUInt64).drop 6

def be32 (value : UInt32) : List UInt8 := (Activation.beBytes value.toUInt64).drop 4

def hashOptionalU16 (label : String) : Option UInt16 → List UInt8
  | some value => hashField label (be16 value)
  | none => hashField label []

def hashPatterns (label : String) (patterns : List ActivationPattern) : List UInt8 :=
  hashField label (Activation.beBytes (UInt64.ofNat patterns.length)) ++
    patterns.flatMap fun pattern => hashField label (Activation.utf8 pattern.literal)

def secondaryLogicTag : SecondaryLogic → String
  | .andAny => "and_any"
  | .andAll => "and_all"
  | .notAny => "not_any"
  | .notAll => "not_all"

def generationTriggerTag : GenerationTrigger → UInt8
  | .normal => 0
  | .continue => 1
  | .regenerate => 2
  | .repair => 3
  | .dryRunPreview => 4

def budgetClassTag : ActivationBudgetClass → UInt8
  | .normal => 0
  | .reserved => 1
  | .mandatory => 2

def ActivationRuleVersion.fromRule (rule : KnowledgeActivationRule) : ActivationRuleVersion :=
  ⟨externals.digest (
    Activation.utf8 "aise.activation.rule.v1\x00" ++
    hashPatterns "keys" rule.matchRule.keys ++
    hashPatterns "secondary_keys" rule.matchRule.secondaryKeys ++
    hashField "secondary_logic"
      (Activation.utf8 (secondaryLogicTag rule.matchRule.secondaryLogic)) ++
    hashBool "case_sensitive" rule.matchRule.caseSensitive ++
    hashBool "match_whole_words" rule.matchRule.matchWholeWords ++
    hashOptionalU16 "scan_depth" rule.matchRule.scanDepth ++
    hashBool "enabled" rule.mode.enabled ++
    hashBool "constant" rule.mode.constant ++
    hashBool "exact_target_only" rule.mode.exactTargetOnly ++
    hashBool "exclude_recursion" rule.recursion.excludeRecursion ++
    hashBool "prevent_recursion" rule.recursion.preventRecursion ++
    hashOptionalU16 "delay_until_recursion" rule.recursion.delayUntilRecursion ++
    hashField "order" (be32 rule.selection.order.toUInt32) ++
    hashField "probability" [rule.selection.probability] ++
    hashField "group_count" (Activation.beBytes (UInt64.ofNat rule.selection.groups.length)) ++
    (rule.selection.groups.flatMap fun group => hashField "group" (Activation.utf8 group.asStr)) ++
    hashBool "group_override" rule.selection.groupOverride ++
    hashField "group_weight" (be32 rule.selection.groupWeight) ++
    hashBool "use_group_scoring" rule.selection.useGroupScoring ++
    hashField "sticky_turns" (be16 rule.timing.stickyTurns) ++
    hashField "cooldown_turns" (be16 rule.timing.cooldownTurns) ++
    hashField "delay_turns" (be16 rule.timing.delayTurns) ++
    hashField "trigger_count"
      (Activation.beBytes (UInt64.ofNat rule.scope.generationTriggers.length)) ++
    (rule.scope.generationTriggers.flatMap fun trigger =>
      hashField "trigger" [generationTriggerTag trigger]) ++
    hashField "budget_class" [budgetClassTag rule.budgetClass])⟩

end

structure ActivationRuleLimits where
  maxPrimaryPatternsPerEntry : UInt64
  maxSecondaryPatternsPerEntry : UInt64
  maxPatternBytes : UInt64
  maxRegexProgramBytes : UInt64
  maxGroupsPerEntry : UInt64
  maxGroupKeyBytes : UInt64
  maxScanDepth : UInt16
  deriving DecidableEq

inductive ActivationRuleValidationError where
  | missingActivationSource | conflictingModes | invalidProbability | invalidGroupKey
  | tooManyGroups | emptyPattern | invalidPattern | invalidRegex | invalidMacro | invalidLimit
  | tooManyPrimaryPatterns | tooManySecondaryPatterns | patternTooLong | regexProgramTooLarge
  | groupKeyTooLong | scanDepthTooLarge
  deriving DecidableEq

inductive RegexFailure where
  | compiledTooBig | other
  deriving DecidableEq

/-- Code outside the repository: `RegexBuilder` with the flags `i`, `m` and `s` and a limit on
the size of the program. What it builds is known by how many matches `find_iter` yields. -/
structure RegexEngine where
  build : (expression : String) → (caseInsensitive multiLine dotMatchesNewLine : Bool) →
    (sizeLimit : UInt64) → Except RegexFailure (String → Nat)

/-- The expression between the first and the last slash, and the flags behind it. -/
def regexParts (value : String) : Option (String × String) :=
  match value.toList with
  | '/' :: rest =>
    if rest.contains '/' then
      some (String.ofList (rest.reverse.dropWhile (· ≠ '/')).tail.reverse,
        String.ofList (rest.reverse.takeWhile (· ≠ '/')).reverse)
    else none
  | _ => none

def macroNames : List String := ["player_name", "player_role_label"]

def openBraces : List Char := ['\x7b', '\x7b']

def closeBraces : List Char := ['\x7d', '\x7d']

/-- The loop of `validate_macro_pattern`. Once no macro opens any more, none may close;
`skip` characters still belong to the last macro. -/
def macrosFrom : (skip : Nat) → List Char → Bool
  | _, [] => true
  | skip + 1, _ :: rest => macrosFrom skip rest
  | 0, c :: rest =>
    if !contains openBraces (c :: rest) then !contains closeBraces (c :: rest)
    else if openBraces.isPrefixOf (c :: rest) then
      match find closeBraces (c :: rest) with
      | none => false
      | some (inside, _) =>
        macroNames.contains (String.ofList (inside.drop 2)) && macrosFrom (inside.length + 1) rest
    else macrosFrom 0 rest

def validateMacroPattern (value : String) : Except ActivationRuleValidationError Unit :=
  if macrosFrom 0 value.toList then .ok () else .error .invalidMacro

section
variable (engine : RegexEngine)

def compileActivationRegex (expression flags : String) (maxProgramBytes : UInt64) :
    Except ActivationRuleValidationError (String → Nat) :=
  if maxProgramBytes = 0 then .error .invalidLimit
  else if flags.toList.any (fun flag => !(['i', 'm', 's', 'u'].contains flag)) ||
      !flags.toList.Nodup then .error .invalidRegex
  else match engine.build expression (flags.toList.contains 'i') (flags.toList.contains 'm')
      (flags.toList.contains 's') maxProgramBytes with
    | .ok findIter => .ok findIter
    | .error .compiledTooBig => .error .regexProgramTooLarge
    | .error .other => .error .invalidRegex

def validatePattern (limits : ActivationRuleLimits) (compileRegex : Bool)
    (pattern : ActivationPattern) : Except ActivationRuleValidationError Unit :=
  let value := trim pattern.literal
  if len pattern.literal > limits.maxPatternBytes.toNat then .error .patternTooLong
  else if value = "" then .error .emptyPattern
  else do
    if contains openBraces value.toList || contains closeBraces value.toList then
      validateMacroPattern value
    match regexParts value with
    | none => .ok ()
    | some (expression, flags) =>
      if contains openBraces value.toList then .error .invalidMacro
      else if compileRegex then do
        let _ ← compileActivationRegex engine expression flags limits.maxRegexProgramBytes
        .ok ()
      else .ok ()

/-- The limits that must not be zero. -/
def ActivationRuleLimits.positive (limits : ActivationRuleLimits) : Bool :=
  [limits.maxPrimaryPatternsPerEntry, limits.maxSecondaryPatternsPerEntry, limits.maxPatternBytes,
    limits.maxRegexProgramBytes, limits.maxGroupsPerEntry, limits.maxGroupKeyBytes].all (· ≠ 0) &&
    limits.maxScanDepth ≠ 0

/-- The scan of `ActivationGroupKey::try_new` is that of the core crate's group keys. -/
def validateGroup (limits : ActivationRuleLimits) (group : ActivationGroupKey) :
    Except ActivationRuleValidationError Unit :=
  if len group.asStr > limits.maxGroupKeyBytes.toNat then .error .groupKeyTooLong
  else if group.asStr = "" || len group.asStr > activationGroupKeyMaxBytes ||
      !isGroupKey group.asStr then .error .invalidGroupKey
  else .ok ()

def KnowledgeActivationRule.validateInner (limits : ActivationRuleLimits) (compileRegex : Bool)
    (rule : KnowledgeActivationRule) : Except ActivationRuleValidationError Unit :=
  let keys := rule.matchRule.keys
  let secondaryKeys := rule.matchRule.secondaryKeys
  if !limits.positive then .error .invalidLimit
  else if rule.mode.constant && rule.mode.exactTargetOnly then .error .conflictingModes
  else if rule.mode.enabled && keys.isEmpty && !rule.mode.constant && !rule.mode.exactTargetOnly then
    .error .missingActivationSource
  else if rule.selection.probability > 100 then .error .invalidProbability
  else if rule.matchRule.scanDepth.any (· > limits.maxScanDepth) then .error .scanDepthTooLarge
  else if keys.length > limits.maxPrimaryPatternsPerEntry.toNat then
    .error .tooManyPrimaryPatterns
  else if secondaryKeys.length > limits.maxSecondaryPatternsPerEntry.toNat then
    .error .tooManySecondaryPatterns
  else if rule.selection.groups.length > limits.maxGroupsPerEntry.toNat then .error .tooManyGroups
  else do
    (keys ++ secondaryKeys).forM (validatePattern engine limits compileRegex)
    rule.selection.groups.forM (validateGroup limits)
    if rule.recursion.delayUntilRecursion = some 0 then .error .invalidPattern else .ok ()

def KnowledgeActivationRule.validate (limits : ActivationRuleLimits)
    (rule : KnowledgeActivationRule) : Except ActivationRuleValidationError Unit :=
  rule.validateInner engine limits true

def KnowledgeActivationRule.validateForIndex (limits : ActivationRuleLimits)
    (rule : KnowledgeActivationRule) : Except ActivationRuleValidationError Unit :=
  rule.validateInner engine limits false

end

/-! ### Compiling an index -/

structure ActivationIndexLimits where
  maxEntries : UInt64
  maxOverlayEntries : UInt64
  maxTombstones : UInt64
  maxLiteralPatterns : UInt64
  maxRegexPatterns : UInt64
  maxCompiledBytes : UInt64
  maxRegexProgramBytes : UInt64
  maxMacroExpansionBytes : UInt64
  deriving DecidableEq

/-- Each limit with the name an error gives it. -/
def ActivationIndexLimits.named (limits : ActivationIndexLimits) : List (UInt64 × String) := [
  (limits.maxEntries, "max_entries"),
  (limits.maxOverlayEntries, "max_overlay_entries"),
  (limits.maxTombstones, "max_tombstones"),
  (limits.maxLiteralPatterns, "max_literal_patterns"),
  (limits.maxRegexPatterns, "max_regex_patterns"),
  (limits.maxCompiledBytes, "max_compiled_bytes"),
  (limits.maxRegexProgramBytes, "max_regex_program_bytes"),
  (limits.maxMacroExpansionBytes, "max_macro_expansion_bytes")]

def validateIndexLimits (limits : ActivationIndexLimits) : Except ActivationError Unit :=
  limits.named.forM fun (value, limit) =>
    if value = 0 then .error (.workLimitExceeded limit) else .ok ()

structure FrozenPackIndexKey where
  packDigest : Sha256Digest
  macroDigest : Sha256Digest
  matcherVersion : UInt32
  deriving DecidableEq

structure FrozenPackIndex where
  key : FrozenPackIndexKey
  literalIndex : FrozenLiteralIndex
  regexSet : FrozenRegexSet
  constantEntries : List KnowledgeSourceId
  metadata : BTreeMap KnowledgeSourceId ActivationEntryMetadata
  entryCount : UInt64

def FrozenPackIndex.estimatedBytes (index : FrozenPackIndex) : UInt64 :=
  add index.literalIndex.compiledBytes index.regexSet.compiledBytes

structure ActivationMacroValues where
  playerName : String
  playerRoleLabel : String
  deriving DecidableEq

def macroDigest (externals : Externals) (macros : ActivationMacroValues) : Sha256Digest :=
  externals.digest (Activation.utf8 "aise.activation.macros.v1" ++
    Activation.beBytes (UInt64.ofNat (len macros.playerName)) ++
    Activation.utf8 macros.playerName ++
    Activation.beBytes (UInt64.ofNat (len macros.playerRoleLabel)) ++
    Activation.utf8 macros.playerRoleLabel)

/-- The text of a macro between its braces. -/
def macroText (name : String) : List Char := openBraces ++ name.toList ++ closeBraces

def expandMacros (macros : ActivationMacroValues) (maxBytes : UInt64) (value : String) :
    Except ActivationError String :=
  let named := replace (macroText "player_name") macros.playerName.toList value.toList
  let expanded := String.ofList
    (replace (macroText "player_role_label") macros.playerRoleLabel.toList named)
  if len expanded > maxBytes.toNat then .error (.workLimitExceeded "macro_expansion_bytes")
  else .ok expanded

structure CompiledActivationEntry where
  literal : List IndexedActivationPattern := []
  regex : List IndexedActivationPattern := []
  compiledBytes : UInt64 := 0

structure PatternCompileSpec where
  metadata : ActivationEntryMetadata
  literalKind : ActivationPatternKind
  regexKind : ActivationPatternKind
  positiveScore : Bool

def patternBytes : CompiledMatcher → UInt64
  | .literal needle _ _ => clamp64 (len needle)
  | .regex asStr _ => mul (clamp64 (len asStr)) 64

section
variable (externals : Externals) (engine : RegexEngine) (macros : ActivationMacroValues)
  (limits : ActivationIndexLimits)

/-- One round of the loop of `compile_patterns`. -/
def compilePattern (spec : PatternCompileSpec) (compiled : CompiledActivationEntry)
    (numbered : ActivationPattern × Nat) : Except ActivationError CompiledActivationEntry :=
  let raw := trim numbered.1.literal
  let rule := spec.metadata.rule.matchRule
  let pattern (kind : ActivationPatternKind) (matcher : CompiledMatcher) :
      IndexedActivationPattern := {
    sourceId := spec.metadata.sourceId
    ordinal := clamp16 numbered.2
    kind := kind
    groupScoreContribution := if spec.positiveScore then 1 else 0
    matcher := matcher }
  match regexParts raw with
  | some (expression, flags) =>
    match compileActivationRegex engine expression flags limits.maxRegexProgramBytes with
    | .error _ => .error .invalidRegex
    | .ok findIter => .ok { compiled with
        compiledBytes := add compiled.compiledBytes (mul (clamp64 (len expression)) 64)
        regex := compiled.regex ++ [pattern spec.regexKind (.regex expression findIter)] }
  | none => do
    let expanded ← expandMacros macros limits.maxMacroExpansionBytes raw
    let needle := normalizeText externals.tables expanded rule.caseSensitive
    if needle = "" then .error (.invalidRule "empty_activation_pattern")
    else .ok { compiled with
      compiledBytes := add compiled.compiledBytes (clamp64 (len needle))
      literal := compiled.literal ++
        [pattern spec.literalKind (.literal needle rule.caseSensitive rule.matchWholeWords)] }

def compilePatterns (spec : PatternCompileSpec) (patterns : List ActivationPattern)
    (compiled : CompiledActivationEntry) : Except ActivationError CompiledActivationEntry :=
  patterns.zipIdx.foldlM (compilePattern externals engine macros limits spec) compiled

def compileEntry (metadata : ActivationEntryMetadata) :
    Except ActivationError CompiledActivationEntry := do
  let rule := metadata.rule.matchRule
  let compiled ← compilePatterns externals engine macros limits
    ⟨metadata, .primaryLiteral, .primaryRegex, true⟩ rule.keys {}
  compilePatterns externals engine macros limits
    ⟨metadata, .secondaryLiteral, .secondaryRegex,
      rule.secondaryLogic = .andAny || rule.secondaryLogic = .andAll⟩ rule.secondaryKeys compiled

/-- The variables of the loop of `build_frozen_pack_index`. -/
structure IndexBuild where
  literal : List IndexedActivationPattern := []
  regex : List IndexedActivationPattern := []
  compiledBytes : UInt64 := 0
  entryCount : UInt64 := 0
  constantEntries : List KnowledgeSourceId := []
  metadata : BTreeMap KnowledgeSourceId ActivationEntryMetadata := ∅

variable (ruleLimits : ActivationRuleLimits)

def indexEntry (build : IndexBuild) (metadata : ActivationEntryMetadata) :
    Except ActivationError IndexBuild :=
  let entryCount := add build.entryCount 1
  if entryCount > limits.maxEntries then .error (.workLimitExceeded "max_entries")
  else match metadata.rule.validateForIndex engine ruleLimits with
    | .error .invalidRegex | .error .regexProgramTooLarge => .error .invalidRegex
    | .error _ => .error (.invalidRule "activation_rule_rejected")
    | .ok _ => do
      let compiled ← compileEntry externals engine macros limits metadata
      let compiledBytes := add build.compiledBytes compiled.compiledBytes
      let literal := build.literal ++ compiled.literal
      let regex := build.regex ++ compiled.regex
      if compiledBytes > limits.maxCompiledBytes then
        .error (.workLimitExceeded "max_compiled_bytes")
      else if literal.length > limits.maxLiteralPatterns.toNat then
        .error (.workLimitExceeded "max_literal_patterns")
      else if regex.length > limits.maxRegexPatterns.toNat then
        .error (.workLimitExceeded "max_regex_patterns")
      else .ok {
        literal := literal
        regex := regex
        compiledBytes := compiledBytes
        entryCount := entryCount
        constantEntries :=
          if metadata.rule.mode.constant then build.constantEntries ++ [metadata.sourceId]
          else build.constantEntries
        metadata := build.metadata.insert metadata.sourceId metadata }

def totalPatternBytes (patterns : List IndexedActivationPattern) : UInt64 :=
  patterns.foldl (fun total pattern => add total (patternBytes pattern.matcher)) 0

def buildFrozenPackIndex (key : FrozenPackIndexKey) (entries : List ActivationEntryMetadata) :
    Except ActivationError FrozenPackIndex := do
  validateIndexLimits limits
  let build ← entries.foldlM (indexEntry externals engine macros limits ruleLimits) {}
  .ok {
    key := key
    literalIndex := ⟨build.literal, totalPatternBytes build.literal⟩
    regexSet := ⟨build.regex, totalPatternBytes build.regex⟩
    constantEntries := build.constantEntries
    metadata := build.metadata
    entryCount := build.entryCount }

end

/-! ### What an index matches -/

/-- The matches of both parts of an index, as `match_fragment` of a snapshot collects them. -/
def FrozenPackIndex.matchFragment (externals : Externals) (index : FrozenPackIndex)
    (fragment : ScanFragment) : List FragmentPatternMatch :=
  index.literalIndex.matchFragment externals fragment ++ index.regexSet.matchFragment fragment

section
variable {externals : Externals} {engine : RegexEngine} {macros : ActivationMacroValues}
  {limits : ActivationIndexLimits} {ruleLimits : ActivationRuleLimits}

/-- The patterns of an entry, none if it does not compile. -/
def compiledEntry (externals : Externals) (engine : RegexEngine) (macros : ActivationMacroValues)
    (limits : ActivationIndexLimits) (metadata : ActivationEntryMetadata) :
    CompiledActivationEntry :=
  (compileEntry externals engine macros limits metadata).toOption.getD {}

/-- The matches of one entry, by its own patterns. -/
def entryMatches (externals : Externals) (engine : RegexEngine) (macros : ActivationMacroValues)
    (limits : ActivationIndexLimits) (fragment : ScanFragment)
    (metadata : ActivationEntryMetadata) : List FragmentPatternMatch :=
  let compiled := compiledEntry externals engine macros limits metadata
  FrozenLiteralIndex.matchFragment externals ⟨compiled.literal, 0⟩ fragment ++
    FrozenRegexSet.matchFragment ⟨compiled.regex, 0⟩ fragment

/-- Every pattern belongs to the source. -/
def CompiledActivationEntry.Owned (compiled : CompiledActivationEntry)
    (sourceId : KnowledgeSourceId) : Prop :=
  ∀ pattern ∈ compiled.literal ++ compiled.regex, pattern.sourceId = sourceId

theorem compilePattern_owned {spec : PatternCompileSpec} {compiled next : CompiledActivationEntry}
    {numbered : ActivationPattern × Nat} (owned : compiled.Owned spec.metadata.sourceId)
    (ok : compilePattern externals engine macros limits spec compiled numbered = .ok next) :
    next.Owned spec.metadata.sourceId := by
  unfold compilePattern at ok
  intro pattern member
  have before (inside : pattern ∈ compiled.literal ∨ pattern ∈ compiled.regex) :
      pattern.sourceId = spec.metadata.sourceId := owned pattern (List.mem_append.mpr inside)
  dsimp only at ok
  split at ok
  · split at ok
    · cases ok
    · cases ok
      simp only [List.mem_append, List.mem_singleton] at member
      rcases member with literal | regex | rfl
      · exact before (.inl literal)
      · exact before (.inr regex)
      · rfl
  · obtain ⟨expanded, _, ok⟩ := Result.bind_eq_ok ok
    split at ok
    · cases ok
    · cases ok
      simp only [List.mem_append, List.mem_singleton] at member
      rcases member with (literal | rfl) | regex
      · exact before (.inl literal)
      · rfl
      · exact before (.inr regex)

theorem compilePatterns_owned (spec : PatternCompileSpec) {patterns : List ActivationPattern}
    {compiled next : CompiledActivationEntry} (owned : compiled.Owned spec.metadata.sourceId)
    (ok : compilePatterns externals engine macros limits spec patterns compiled = .ok next) :
    next.Owned spec.metadata.sourceId :=
  Result.foldlM_invariant (P := fun compiled => compiled.Owned spec.metadata.sourceId)
    (fun held round => compilePattern_owned held round) ok owned

theorem compiledEntry_owned (metadata : ActivationEntryMetadata) :
    (compiledEntry externals engine macros limits metadata).Owned metadata.sourceId := by
  unfold compiledEntry
  cases compiled : compileEntry externals engine macros limits metadata with
  | error _ => simp [Except.toOption, CompiledActivationEntry.Owned]
  | ok entry =>
    unfold compileEntry at compiled
    obtain ⟨primary, first, second⟩ := Result.bind_eq_ok compiled
    have none : CompiledActivationEntry.Owned {} metadata.sourceId := by
      simp [CompiledActivationEntry.Owned]
    have half := compilePatterns_owned ⟨metadata, .primaryLiteral, .primaryRegex, true⟩ none first
    exact compilePatterns_owned ⟨metadata, .secondaryLiteral, .secondaryRegex, _⟩ half second

theorem entryMatches_source {fragment : ScanFragment} {metadata : ActivationEntryMetadata}
    {item : FragmentPatternMatch}
    (member : item ∈ entryMatches externals engine macros limits fragment metadata) :
    item.sourceId = metadata.sourceId := by
  have owned : (compiledEntry externals engine macros limits metadata).Owned metadata.sourceId :=
    compiledEntry_owned metadata
  unfold entryMatches FrozenLiteralIndex.matchFragment FrozenRegexSet.matchFragment at member
  rcases List.mem_append.mp member with literal | regex
  · obtain ⟨pattern, among, _, rfl⟩ := mem_matchPatterns literal
    exact owned pattern (List.mem_append_left _ among)
  · obtain ⟨pattern, among, _, rfl⟩ := mem_matchPatterns regex
    exact owned pattern (List.mem_append_right _ among)

/-- What the loop of `build_frozen_pack_index` has gathered from the entries it has seen. -/
theorem indexEntries_ok {entries : List ActivationEntryMetadata} {build last : IndexBuild}
    (ok : entries.foldlM (indexEntry externals engine macros limits ruleLimits) build = .ok last) :
    last.literal = build.literal ++
        entries.flatMap (fun entry => (compiledEntry externals engine macros limits entry).literal) ∧
      last.regex = build.regex ++
        entries.flatMap (fun entry => (compiledEntry externals engine macros limits entry).regex) ∧
      last.metadata =
        entries.foldl (fun map entry => map.insert entry.sourceId entry) build.metadata := by
  induction entries generalizing build with
  | nil =>
    cases ok
    simp
  | cons entry rest ih =>
    rw [List.foldlM_cons] at ok
    obtain ⟨next, first, later⟩ := Result.bind_eq_ok ok
    unfold indexEntry at first
    dsimp only at first
    split at first
    · cases first
    · split at first
      · cases first
      · cases first
      · cases first
      · obtain ⟨compiled, made, first⟩ := Result.bind_eq_ok first
        have same : compiledEntry externals engine macros limits entry = compiled := by
          rw [compiledEntry, made]
          rfl
        split at first
        · cases first
        · split at first
          · cases first
          · split at first
            · cases first
            · cases first
              obtain ⟨literal, regex, metadata⟩ := ih later
              rw [literal, regex, metadata]
              simp [same, List.append_assoc]

/-- An index matches what its entries match, each by its own patterns. -/
theorem buildFrozenPackIndex_matches {key : FrozenPackIndexKey}
    {entries : List ActivationEntryMetadata} {index : FrozenPackIndex}
    (built : buildFrozenPackIndex externals engine macros limits ruleLimits key entries = .ok index)
    (fragment : ScanFragment) :
    (index.matchFragment externals fragment).Perm
      (entries.flatMap (entryMatches externals engine macros limits fragment)) := by
  unfold buildFrozenPackIndex at built
  obtain ⟨_, _, built⟩ := Result.bind_eq_ok built
  obtain ⟨build, looped, built⟩ := Result.bind_eq_ok built
  cases built
  obtain ⟨literal, regex, _⟩ := indexEntries_ok looped
  have parts : FrozenPackIndex.matchFragment externals {
      key := key
      literalIndex := ⟨build.literal, totalPatternBytes build.literal⟩
      regexSet := ⟨build.regex, totalPatternBytes build.regex⟩
      constantEntries := build.constantEntries
      metadata := build.metadata
      entryCount := build.entryCount } fragment =
      entries.flatMap (fun entry => FrozenLiteralIndex.matchFragment externals
        ⟨(compiledEntry externals engine macros limits entry).literal, 0⟩ fragment) ++
      entries.flatMap (fun entry => FrozenRegexSet.matchFragment
        ⟨(compiledEntry externals engine macros limits entry).regex, 0⟩ fragment) := by
    simp only [FrozenPackIndex.matchFragment, FrozenLiteralIndex.matchFragment,
      FrozenRegexSet.matchFragment, matchPatterns, literal, regex, List.nil_append,
      List.filterMap_flatMap]
  rw [parts]
  exact List.flatMap_append_perm _ _ _

theorem buildFrozenPackIndex_metadata {key : FrozenPackIndexKey}
    {entries : List ActivationEntryMetadata} {index : FrozenPackIndex}
    (built : buildFrozenPackIndex externals engine macros limits ruleLimits key entries = .ok index) :
    index.metadata = entries.foldl (fun map entry => map.insert entry.sourceId entry) ∅ := by
  unfold buildFrozenPackIndex at built
  obtain ⟨_, _, built⟩ := Result.bind_eq_ok built
  obtain ⟨build, looped, built⟩ := Result.bind_eq_ok built
  cases built
  exact (indexEntries_ok looped).2.2

end

end Aise.Domain
