import Mathlib.Data.String.Basic
import Mathlib.Data.List.FinRange
import Mathlib.Order.WithBot
import Aise.Core.Role
import Aise.Core.Activation.Scan
import Aise.Lib.Loop

/-! The activation run of a turn. Candidates are known by their position; the positions
are a type of their own here, so that a run can be compared with the run on a reordered
list. What a run only reads is its `Input`, what it changes is its `Session`. -/
namespace Aise

structure ActivationConfig where
  scanDepth : UInt16 := 2
  maxScanDepth : UInt16 := 8
  maxRecursionSteps : UInt16 := 3
  maxActivatedEntries : UInt64 := 16
  maxKnowledgeBytes : UInt64 := 16 * 1024

structure ActivationCandidate (K : Type) where
  key : K
  rule : ActivationRule
  content : BoundedText

structure ActivationTurn where
  storyId : StoryId
  turnNumber : TurnNumber

inductive ActivationClass where
  | constant | textMatch | recursion
  deriving DecidableEq

def ActivationClass.rank : ActivationClass → Nat
  | .constant => 0
  | .textMatch => 1
  | .recursion => 2

inductive ActivationPatternKind where
  | primary | secondary
  deriving DecidableEq

inductive ActivationRejection where
  | recursionExcluded | recursionLocked | secondaryCondition | groupLoser | probability | budget
  deriving DecidableEq

inductive ActivationStopReason where
  | complete | recursionExhausted | budgetTrimmed
  deriving DecidableEq

structure ActivationEvidence where
  patternKind : ActivationPatternKind
  patternOrdinal : UInt16
  fragmentKind : ScanFragmentKind
  depth : UInt16
  matchCount : UInt16
  deriving DecidableEq

structure ActivatedEntry (K : Type) where
  key : K
  activationClass : ActivationClass
  recursionLevel : UInt16
  evidence : List ActivationEvidence
  deriving DecidableEq

structure ActivationOutcome (K : Type) where
  activated : List (ActivatedEntry K)
  rejections : ActivationRejection → Option UInt32
  recursionLevel : UInt16
  stopReason : ActivationStopReason

/-- `sha2::Sha256` over the bytes fed to it. -/
abbrev Sha256 := List UInt8 → Fin 32 → UInt8

namespace Activation

/-- `u16::try_from(value).unwrap_or(u16::MAX)`. -/
def clampU16 (value : Nat) : UInt16 := UInt16.ofNat (min value (UInt16.size - 1))

/-- `level.saturating_add(1)`. -/
def nextLevel (level : UInt16) : UInt16 := clampU16 (level.toNat + 1)

/-- `to_be_bytes` of a `u64`. -/
def beBytes (value : UInt64) : List UInt8 :=
  ([56, 48, 40, 32, 24, 16, 8, 0] : List UInt64).map fun shift => (value >>> shift).toUInt8

def utf8 (text : String) : List UInt8 := text.toUTF8.data.toList

def hashField (value : List UInt8) : List UInt8 :=
  beBytes (UInt64.ofNat value.length) ++ value

/-- `u64::from_be_bytes` of the first eight bytes of the digest. -/
def digestU64 (sha256 : Sha256) (fed : List UInt8) : UInt64 :=
  ([0, 1, 2, 3, 4, 5, 6, 7].map (sha256 fed)).foldl
    (fun value byte => (value <<< 8) ||| byte.toUInt64) 0

/-- The part of an `Entry` that is fixed when it is built; its evidence is in the
session. -/
structure Entry (K : Type) where
  candidate : ActivationCandidate K
  primary : List String
  secondary : List String
  scanDepth : UInt16

def Entry.new (tables : CharTables) (config : ActivationConfig)
    (candidate : ActivationCandidate K) : Entry K :=
  let matchRule := candidate.rule.matchRule
  let needles (keys : List ActivationKey) : List String :=
    keys.map fun key => normalizeText tables key.text.value matchRule.caseSensitive
  { candidate := candidate
    primary := needles matchRule.keys
    secondary := needles matchRule.secondaryKeys
    scanDepth := min (matchRule.scanDepth.getD config.scanDepth) config.maxScanDepth }

/-- One needle of `record_matches`. Every pattern is recorded from the first fragment
that matches it and not again. -/
def recordMatch (tables : CharTables) (patternKind : ActivationPatternKind)
    (fragment : ScanFragment) (caseSensitive wholeWords : Bool)
    (evidence : List ActivationEvidence) (pattern : String × Nat) : List ActivationEvidence :=
  let patternOrdinal := clampU16 pattern.2
  if evidence.any fun item =>
      item.patternKind = patternKind && item.patternOrdinal = patternOrdinal then evidence
  else
    let count := fragment.count tables pattern.1 caseSensitive wholeWords
    if count = 0 then evidence
    else evidence ++ [{
      patternKind := patternKind
      patternOrdinal := patternOrdinal
      fragmentKind := fragment.kind
      depth := fragment.depth
      matchCount := clampU16 count }]

def recordMatches (tables : CharTables) (evidence : List ActivationEvidence)
    (needles : List String) (patternKind : ActivationPatternKind) (fragment : ScanFragment)
    (caseSensitive wholeWords : Bool) : List ActivationEvidence :=
  needles.zipIdx.foldl (recordMatch tables patternKind fragment caseSensitive wholeWords) evidence

def Entry.ingest (tables : CharTables) (entry : Entry K) (base : Bool)
    (evidence : List ActivationEvidence) (fragment : ScanFragment) : List ActivationEvidence :=
  if base && fragment.depth > entry.scanDepth then evidence
  else
    let matchRule := entry.candidate.rule.matchRule
    let record (needles : List String) (patternKind : ActivationPatternKind)
        (evidence : List ActivationEvidence) : List ActivationEvidence :=
      recordMatches tables evidence needles patternKind fragment matchRule.caseSensitive
        matchRule.matchWholeWords
    record entry.secondary .secondary (record entry.primary .primary evidence)

def matched (evidence : List ActivationEvidence) (kind : ActivationPatternKind) : Nat :=
  (evidence.filter fun item => item.patternKind = kind).length

def recursionOnly (evidence : List ActivationEvidence) : Bool :=
  (evidence.filter fun item => item.patternKind = .primary).all fun item =>
    item.fragmentKind = .recursionContent

/-- `Option` orders `None` before every `Some`. -/
def bestEvidence (evidence : List ActivationEvidence) : WithBot (Nat ×ₗ Nat) :=
  match (evidence.map fun item => toLex (item.fragmentKind.rank, item.depth.toNat)).min? with
  | none => ⊥
  | some best => (best : WithBot (Nat ×ₗ Nat))

structure Candidate (ι : Type) where
  index : ι
  candidateClass : ActivationClass
  score : UInt16

structure Input (ι K : Type) where
  tables : CharTables
  sha256 : Sha256
  indices : List ι
  entries : ι → Entry K
  turn : ActivationTurn
  config : ActivationConfig
  distinct : indices.Nodup
  complete : ∀ index, index ∈ indices

/-- `activated_indices` is kept in the order of insertion, which is the order of
`activated`. -/
@[ext]
structure Session (ι K : Type) where
  evidence : ι → List ActivationEvidence := fun _ => []
  level : UInt16 := 0
  activated : List (ActivatedEntry K) := []
  activatedIndices : List ι := []
  terminal : ι → Option ActivationRejection := fun _ => none
  deferred : ι → Option ActivationRejection := fun _ => none
  groupWinners : ActivationGroupKey → Option ι := fun _ => none
  knowledgeBytes : Nat := 0
  budgetTrimmed : Bool := false
  recursionExhausted : Bool := false
  aligned : activatedIndices.length = activated.length := by rfl

namespace Input
variable {ι K : Type} (input : Input ι K)

def rule (index : ι) : ActivationRule := (input.entries index).candidate.rule

def key (index : ι) : K := (input.entries index).candidate.key

def content (index : ι) : BoundedText := (input.entries index).candidate.content

def groups (index : ι) : List ActivationGroupKey := (input.rule index).selection.groups

def hashTurn : List UInt8 :=
  hashField (utf8 input.turn.storyId.value) ++
    hashField (beBytes (UInt64.ofNat input.turn.turnNumber.value))

def probabilityAdmits [ToString K] (index : ι) (probability : ActivationProbability) : Bool :=
  if probability.percent = 0 then false
  else if 100 ≤ probability.percent then true
  else
    let fed := hashField (utf8 "aise.activation.probability.v1") ++ input.hashTurn ++
      hashField (utf8 (toString (input.key index)))
    digestU64 input.sha256 fed % 100 < probability.percent.toUInt64

/-- What `group_winner` compares first: `(group_override, score, order)`. -/
def groupRank (candidate : Candidate ι) : Bool ×ₗ Nat ×ₗ Int :=
  let selection := (input.rule candidate.index).selection
  let score := if selection.useGroupScoring then candidate.score.toNat else 0
  toLex (selection.groupOverride, toLex (score, selection.order.toInt))

def weight (index : ι) : UInt64 := (input.rule index).selection.groupWeight.toUInt64

end Input

/-- The walk of `group_winner` down the tied weights. -/
def draw (weight : ι → UInt64) : UInt64 → List ι → Option ι
  | _, [] => none
  | sample, index :: rest =>
    if sample < weight index then some index else draw weight (sample - weight index) rest

namespace Input
variable {ι K : Type} [LinearOrder K] [ToString K] (input : Input ι K)

def tied (members : List (Candidate ι)) (best : Bool ×ₗ Nat ×ₗ Int) : List ι :=
  Sorting.sort input.key
    ((members.filter fun candidate => input.groupRank candidate = best).map (·.index))

def groupWinner (group : ActivationGroupKey) (members : List (Candidate ι)) : Option ι :=
  match (members.map input.groupRank).max? with
  | none => none
  | some best =>
    let tied := input.tied members best
    let total := tied.foldl (fun total index => total + input.weight index) 0
    if total = 0 then tied.head?
    else
      let fed := hashField (utf8 "aise.activation.group.v1") ++ input.hashTurn ++
        hashField (utf8 group.value) ++
        tied.flatMap fun index =>
          hashField (utf8 (toString (input.key index))) ++ hashField (beBytes (input.weight index))
      draw input.weight (digestU64 input.sha256 fed % total) tied

end Input

abbrev CandidateOrdering := Nat ×ₗ Intᵒᵈ ×ₗ Natᵒᵈ ×ₗ WithBot (Nat ×ₗ Nat)

/-- What `collect` finds out about one entry. -/
inductive Appraisal where
  | skipped
  | constant
  | deferred (reason : ActivationRejection)
  | rejected (reason : ActivationRejection)
  | matched (candidateClass : ActivationClass) (score : UInt16)

namespace Session
variable {ι K : Type} [DecidableEq ι]

/-- Neither activated nor terminally rejected. -/
def isOpen (session : Session ι K) (index : ι) : Bool :=
  !session.activatedIndices.contains index && (session.terminal index).isNone

def reject (session : Session ι K) (index : ι) (reason : ActivationRejection) : Session ι K :=
  { session with terminal := Function.update session.terminal index (some reason) }

def defer (session : Session ι K) (index : ι) (reason : ActivationRejection) : Session ι K :=
  { session with deferred := Function.update session.deferred index (some reason) }

def release (session : Session ι K) (index : ι) : Session ι K :=
  { session with deferred := Function.update session.deferred index none }

def win (session : Session ι K) (group : ActivationGroupKey) (index : ι) : Session ι K :=
  { session with groupWinners := Function.update session.groupWinners group (some index) }

def record (session : Session ι K) (group : ActivationGroupKey) : Option ι → Session ι K
  | some index => session.win group index
  | none => session

variable (input : Input ι K)

def ingest (session : Session ι K) (fragments : List ScanFragment) (base : Bool) : Session ι K :=
  { session with
    evidence := fun index =>
      if session.isOpen index then
        fragments.foldl ((input.entries index).ingest input.tables base) (session.evidence index)
      else session.evidence index }

def appraise (session : Session ι K) (index : ι) : Appraisal :=
  let entry := input.entries index
  let rule := input.rule index
  let evidence := session.evidence index
  let primary := matched evidence .primary
  let secondary := matched evidence .secondary
  let logic := rule.matchRule.secondaryLogic
  if !session.isOpen index then .skipped
  else if !rule.mode.enabled then .skipped
  else if rule.mode.constant then
    if session.level = 0 then .constant else .skipped
  else if primary = 0 then .skipped
  else if rule.recursion.delayUntilRecursion.any fun level => session.level < level.val then
    .deferred .recursionLocked
  else if recursionOnly evidence && rule.recursion.excludeRecursion then
    .rejected .recursionExcluded
  else if !logic.holds secondary entry.secondary.length then .deferred .secondaryCondition
  else .matched (if recursionOnly evidence then .recursion else .textMatch)
    (clampU16 (saturatingAdd primary (if logic.scoresMatches then secondary else 0)))

/-- One entry of `collect`. -/
def collectEntry (state : Session ι K × List (Candidate ι)) (index : ι) :
    Session ι K × List (Candidate ι) :=
  let (session, candidates) := state
  match session.appraise input index with
  | .skipped => (session, candidates)
  | .constant => (session, candidates ++ [⟨index, .constant, 0⟩])
  | .deferred reason => (session.defer index reason, candidates)
  | .rejected reason => (session.reject index reason, candidates)
  | .matched candidateClass score =>
    (session.release index, candidates ++ [⟨index, candidateClass, score⟩])

def collect (session : Session ι K) : Session ι K × List (Candidate ι) :=
  input.indices.foldl (collectEntry input) (session, [])

/-- The groups of a round, as a `BTreeSet` orders them. -/
def groupsOf (candidates : List (Candidate ι)) : List ActivationGroupKey :=
  Sorting.sort ActivationGroupKey.value
    (candidates.flatMap fun candidate => input.groups candidate.index).dedup

section
variable [ToString K] [LinearOrder K]

def members (group : ActivationGroupKey) (eligible : List (Candidate ι)) : List (Candidate ι) :=
  eligible.filter fun candidate => (input.groups candidate.index).contains group

/-- A group that was won in an earlier round has no winner in this one. -/
def roundWinner (session : Session ι K) (group : ActivationGroupKey)
    (members : List (Candidate ι)) : Option ι :=
  match session.groupWinners group with
  | some _ => none
  | none => input.groupWinner group members

def rejectLosers (winner : Option ι) (members : List (Candidate ι)) (session : Session ι K) :
    Session ι K :=
  members.foldl (fun session member =>
    if some member.index = winner then session else session.reject member.index .groupLoser) session

/-- Who is still eligible once a group is settled. -/
def survivors (winner : Option ι) (members eligible : List (Candidate ι)) : List (Candidate ι) :=
  eligible.filter fun candidate =>
    some candidate.index = winner || !members.any fun member => member.index = candidate.index

/-- One group of `resolve_groups`. -/
def resolveGroup (state : Session ι K × List (Candidate ι)) (group : ActivationGroupKey) :
    Session ι K × List (Candidate ι) :=
  let (session, eligible) := state
  let members := members input group eligible
  if members.isEmpty then (session, eligible)
  else
    let winner := session.roundWinner input group members
    ((rejectLosers winner members session).record group winner, survivors winner members eligible)

def resolveGroups (session : Session ι K) (candidates : List (Candidate ι)) :
    Session ι K × List (Candidate ι) :=
  (groupsOf input candidates).foldl (resolveGroup input) (session, candidates)

def ordering (session : Session ι K) (candidate : Candidate ι) : CandidateOrdering :=
  toLex (candidate.candidateClass.rank,
    toLex (OrderDual.toDual (input.rule candidate.index).selection.order.toInt,
      toLex (OrderDual.toDual candidate.score.toNat,
        bestEvidence (session.evidence candidate.index))))

/-- The order of admission: `ordering`, then the key. -/
def admissionRank (session : Session ι K) (candidate : Candidate ι) : CandidateOrdering ×ₗ K :=
  toLex (session.ordering input candidate, input.key candidate.index)

def entryOf (session : Session ι K) (candidate : Candidate ι) : ActivatedEntry K where
  key := input.key candidate.index
  activationClass := candidate.candidateClass
  recursionLevel := session.level
  evidence := session.evidence candidate.index

def activate (session : Session ι K) (candidate : Candidate ι) : Session ι K :=
  { session with
    knowledgeBytes :=
      saturatingAdd session.knowledgeBytes (RustText.len (input.content candidate.index).value)
    activatedIndices := session.activatedIndices ++ [candidate.index]
    activated := session.activated ++ [session.entryOf input candidate]
    aligned := by simp [session.aligned] }

def hasRoom (session : Session ι K) (index : ι) : Bool :=
  session.activated.length < input.config.maxActivatedEntries.toNat &&
    saturatingAdd session.knowledgeBytes (RustText.len (input.content index).value) ≤
      input.config.maxKnowledgeBytes.toNat

/-- The fragment an activated entry contributes to the next round. -/
def fragmentOf (session : Session ι K) (index : ι) : List ScanFragment :=
  if (input.rule index).recursion.preventRecursion then []
  else [.new input.tables .recursionContent (nextLevel session.level) (input.content index).value]

/-- One candidate of the admission loop. -/
def admitCandidate (state : Session ι K × List ScanFragment) (candidate : Candidate ι) :
    Session ι K × List ScanFragment :=
  let (session, fragments) := state
  if !input.probabilityAdmits candidate.index
      (input.rule candidate.index).selection.probability then
    (session.reject candidate.index .probability, fragments)
  else if !session.hasRoom input candidate.index then
    ({ session.reject candidate.index .budget with budgetTrimmed := true }, fragments)
  else (session.activate input candidate, fragments ++ session.fragmentOf input candidate.index)

/-- `Session::admit`. -/
def admitCandidates (session : Session ι K) (candidates : List (Candidate ι)) :
    Session ι K × List ScanFragment :=
  (Sorting.sort (session.admissionRank input) candidates).foldl (admitCandidate input) (session, [])

end

@[simp] theorem collectEntry_level (state : Session ι K × List (Candidate ι)) (index : ι) :
    (collectEntry input state index).1.level = state.1.level := by
  simp only [collectEntry]
  split <;> rfl

@[simp] theorem collect_level (session : Session ι K) :
    (session.collect input).1.level = session.level :=
  Loop.foldl_keeps (fun state : Session ι K × List (Candidate ι) => state.1.level)
    (collectEntry_level input) _ _

@[simp] theorem rejectLosers_level (winner : Option ι) (members : List (Candidate ι))
    (session : Session ι K) : (rejectLosers winner members session).level = session.level := by
  apply Loop.foldl_keeps Session.level
  intro session member
  split <;> rfl

omit [DecidableEq ι] in
@[simp] theorem record_level (session : Session ι K) (group : ActivationGroupKey)
    (winner : Option ι) : (session.record group winner).level = session.level := by
  cases winner <;> rfl

variable [ToString K]

@[simp] theorem admitCandidate_level (state : Session ι K × List ScanFragment)
    (candidate : Candidate ι) :
    (admitCandidate input state candidate).1.level = state.1.level := by
  simp only [admitCandidate]
  split
  · rfl
  · split <;> rfl

variable [LinearOrder K]

@[simp] theorem resolveGroup_level (state : Session ι K × List (Candidate ι))
    (group : ActivationGroupKey) :
    (resolveGroup input state group).1.level = state.1.level := by
  simp only [resolveGroup]
  split
  · rfl
  · rw [record_level, rejectLosers_level]

@[simp] theorem resolveGroups_level (session : Session ι K) (candidates : List (Candidate ι)) :
    (session.resolveGroups input candidates).1.level = session.level :=
  Loop.foldl_keeps (fun state : Session ι K × List (Candidate ι) => state.1.level)
    (resolveGroup_level input) _ _

@[simp] theorem admitCandidates_level (session : Session ι K) (candidates : List (Candidate ι)) :
    (session.admitCandidates input candidates).1.level = session.level :=
  Loop.foldl_keeps (fun state : Session ι K × List ScanFragment => state.1.level)
    (admitCandidate_level input) _ _

/-- How a round ends, with the fragments it has gathered. -/
def proceed (session : Session ι K) (fragments : List ScanFragment) : Loop.Flow (Session ι K) :=
  if fragments.isEmpty then .leave session
  else if session.level ≥ input.config.maxRecursionSteps then
    .leave { session with recursionExhausted := true }
  else .again ({ session with level := nextLevel session.level }.ingest input fragments false)

/-- One round of `Session::run`. -/
def round (session : Session ι K) : Loop.Flow (Session ι K) :=
  let (session, candidates) := session.collect input
  if candidates.isEmpty then .leave session
  else
    let (session, candidates) := session.resolveGroups input candidates
    let (session, fragments) := session.admitCandidates input candidates
    session.proceed input fragments

/-- The rounds that may still follow. -/
def remaining (session : Session ι K) : Nat :=
  input.config.maxRecursionSteps.toNat - session.level.toNat

omit [DecidableEq ι] [ToString K] [LinearOrder K] in
theorem nextLevel_toNat {level limit : UInt16} (below : level < limit) :
    (nextLevel level).toNat = level.toNat + 1 := by
  have bound : level.toNat < limit.toNat := below
  have size : limit.toNat < UInt16.size := limit.toNat_lt
  have fits : min (level.toNat + 1) (UInt16.size - 1) = level.toNat + 1 := by omega
  rw [nextLevel, clampU16, fits, UInt16.toNat_ofNat_of_lt']
  omega

theorem round_descends {session next : Session ι K} (round : session.round input = .again next) :
    next.remaining input < session.remaining input := by
  simp only [Session.round, proceed] at round
  split at round
  · cases round
  · split at round
    · cases round
    · split at round
      · cases round
      · rename_i within
        cases round
        simp only [admitCandidates_level, resolveGroups_level, collect_level, ge_iff_le] at within
        have below : session.level < input.config.maxRecursionSteps := UInt16.not_le.mp within
        have step := nextLevel_toNat below
        have bound : session.level.toNat < input.config.maxRecursionSteps.toNat := below
        simp only [remaining, ingest, admitCandidates_level, resolveGroups_level, collect_level,
          step]
        omega

def run (session : Session ι K) : Session ι K :=
  Loop.run (round input) (remaining input) (round_descends input)
    (session.remaining input + 1) session (Nat.lt_succ_self _)

theorem run_ends (session : Session ι K) :
    ∃ rounds, rounds ≤ session.remaining input + 1 ∧
      Loop.Ends (round input) session rounds (session.run input) :=
  Loop.run_ends _ _ _

/-- What `finish` counts an entry under: its terminal rejection, or else the reason it
is still deferred for. -/
def reasons (session : Session ι K) : List ActivationRejection :=
  input.indices.filterMap session.terminal ++
    (input.indices.filter fun index => session.isOpen index).filterMap session.deferred

def stopReason (session : Session ι K) : ActivationStopReason :=
  if session.recursionExhausted then .recursionExhausted
  else if session.budgetTrimmed then .budgetTrimmed
  else .complete

def finish (session : Session ι K) : ActivationOutcome K where
  activated := session.activated
  rejections := (session.reasons input).foldl (fun rejections reason =>
    Function.update rejections reason (some ((rejections reason).getD 0 + 1))) fun _ => none
  recursionLevel := session.level
  stopReason := session.stopReason

end Session

namespace Input
variable {K : Type}

/-- The entries at their positions in the candidate list. -/
def ofCandidates (tables : CharTables) (sha256 : Sha256) (candidates : List (ActivationCandidate K))
    (turn : ActivationTurn) (config : ActivationConfig) : Input (Fin candidates.length) K where
  tables := tables
  sha256 := sha256
  indices := List.finRange candidates.length
  entries index := Entry.new tables config (candidates.get index)
  turn := turn
  config := config
  distinct := List.nodup_finRange _
  complete := List.mem_finRange

variable {ι : Type} [DecidableEq ι] [LinearOrder K] [ToString K]

/-- The session after the base text was ingested, where the rounds start. -/
def start (input : Input ι K) (scan : ScanBuffer) : Session ι K :=
  ({} : Session ι K).ingest input scan.fragments true

def final (input : Input ι K) (scan : ScanBuffer) : Session ι K := (input.start scan).run input

end Input
end Activation

def activate {K : Type} [LinearOrder K] [ToString K] (tables : CharTables) (sha256 : Sha256)
    (candidates : List (ActivationCandidate K)) (scan : ScanBuffer) (turn : ActivationTurn)
    (config : ActivationConfig) : ActivationOutcome K :=
  let input := Activation.Input.ofCandidates tables sha256 candidates turn config
  (input.final scan).finish input

namespace Activation.Sample

/-- The Unicode tables on ASCII text. -/
def ascii : CharTables := ⟨fun c => [c.toLower], Char.isAlphanum⟩

def zeros : Sha256 := fun _ _ => 0

def turn : ActivationTurn := ⟨⟨"tale", by decide⟩, ⟨1⟩⟩

end Activation.Sample
end Aise
