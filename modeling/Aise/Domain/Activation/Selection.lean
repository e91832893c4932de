import Mathlib.Data.List.Dedup
import Mathlib.Data.List.MinMax
import Aise.Domain.Activation.Budget

/-! Candidates of a round: how seeds for one source are merged, how candidates are ordered,
and how inclusion groups and probability thin them out. -/
namespace Aise.Domain
open Saturating

/-- `sort` followed by `dedup`. -/
def sortDedup {α : Type} [LinearOrder α] (items : List α) : List α :=
  (items.insertionSort (· ≤ ·)).dedup

theorem sortDedup_nodup {α : Type} [LinearOrder α] (items : List α) : (sortDedup items).Nodup :=
  List.nodup_dedup _

theorem mem_sortDedup {α : Type} [LinearOrder α] {items : List α} {item : α} :
    item ∈ sortDedup items ↔ item ∈ items := by
  rw [sortDedup, List.mem_dedup, List.mem_insertionSort]

structure Candidate where
  sourceId : KnowledgeSourceId
  candidateClass : ActivationSeedKind
  evidence : List ActivationEvidence := []
  score : UInt16 := 0
  providerRank : Option UInt32 := none
  mandatory : Bool := false
  sticky : Bool := false
  recursionOnly : Bool := false
  deliveries : List KnowledgeDelivery := []
  deriving DecidableEq

def classRank (candidate : Candidate) : UInt8 :=
  if candidate.sticky then 0
  else if candidate.mandatory && (candidate.candidateClass = .plannerExactTarget ||
      candidate.candidateClass = .previewOverride) then 1
  else if candidate.mandatory && candidate.candidateClass = .constant then 2
  else match candidate.candidateClass with
    | .constant => 3
    | .textMatch | .recursion => 4
    | .provider => 5
    | .plannerExactTarget | .previewOverride => 4
    | .sticky => 0

/-- The smaller of two ranks, where a missing one does not count. -/
def mergeProviderRank : Option UInt32 → Option UInt32 → Option UInt32
  | some left, some right => some (min left right)
  | some value, none | none, some value => some value
  | none, none => none

/-- What `merge_candidate` makes of a source that is a candidate already. -/
def Candidate.merge (current incoming : Candidate) : Candidate where
  sourceId := current.sourceId
  candidateClass :=
    if classRank incoming < classRank current then incoming.candidateClass
    else current.candidateClass
  evidence := current.evidence ++ incoming.evidence
  score := max current.score incoming.score
  providerRank := mergeProviderRank current.providerRank incoming.providerRank
  mandatory := current.mandatory || incoming.mandatory
  sticky := current.sticky || incoming.sticky
  recursionOnly := current.recursionOnly && incoming.recursionOnly
  deliveries := sortDedup (current.deliveries ++ incoming.deliveries)

abbrev Candidates := BTreeMap KnowledgeSourceId Candidate

def mergeCandidate (candidates : Candidates) (incoming : Candidate) : Candidates :=
  match candidates[incoming.sourceId]? with
  | none => candidates.insert incoming.sourceId incoming
  | some current => candidates.insert incoming.sourceId (current.merge incoming)

def defaultDeliveries : KnowledgeKind → List KnowledgeDelivery
  | .fact | .rumor => [.writer]
  | .memory => []

/-- Whether a kind of knowledge may be delivered to an audience. -/
def deliverable (kind : KnowledgeKind) : KnowledgeDelivery → Bool
  | .writer => kind = .fact || kind = .rumor
  | .character _ => kind = .rumor

def secondaryLogic (logic : SecondaryLogic) (matched patternCount : Nat) : Bool :=
  logic.holds matched patternCount

/-- `i32::saturating_neg`. -/
def saturatingNeg (value : Int32) : Int32 :=
  if value = Int32.minValue then Int32.maxValue else -value

def ActivationEvidence.strength (evidence : ActivationEvidence) : Nat ×ₗ Nat ×ₗ Nat :=
  toLex ((sourcePriority evidence.fragmentKind).toNat,
    toLex (evidence.recencyDepth.toNat, evidence.stableFragmentOrder.toNat))

/-- The key `admit_body` sorts evidence by before it is truncated. -/
def ActivationEvidence.sortKey (evidence : ActivationEvidence) :
    Nat ×ₗ Nat ×ₗ Nat ×ₗ Nat ×ₗ Nat ×ₗ Nat ×ₗ Nat :=
  toLex (evidence.round.toNat, toLex (evidence.recursionLevel.toNat,
    toLex ((sourcePriority evidence.fragmentKind).toNat, toLex (evidence.recencyDepth.toNat,
      toLex (evidence.stableFragmentOrder.toNat, toLex (evidence.patternKind.rank,
        evidence.patternOrdinal.toNat))))))

section
variable (request : ActivationRequest)

def activationOrdering (candidate : Candidate) : ActivationOrdering :=
  let metadata := request.metadata candidate.sourceId
  let best := candidate.evidence.argmin ActivationEvidence.strength
  { classRank := classRank candidate
    orderRank := saturatingNeg ((metadata.map (·.rule.selection.order)).getD 0)
    scoreRank := 0xFFFF - candidate.score
    sourcePriority := (best.map fun item => sourcePriority item.fragmentKind).getD 0xFF
    recencyDepth := (best.map (·.recencyDepth)).getD 0xFFFF
    salienceRank := 0xFF - (metadata.map (·.salience)).getD 0
    providerRank := candidate.providerRank.getD 0xFFFFFFFF }

/-- `candidate_order`: the ordering decides, and equal ones go by source. -/
def candidateOrder (candidate : Candidate) :
    (Nat ×ₗ Int ×ₗ Nat ×ₗ Nat ×ₗ Nat ×ₗ Nat ×ₗ Nat) ×ₗ KnowledgeSourceId :=
  toLex ((activationOrdering request candidate).rank, candidate.sourceId)

def candidateIsMandatory (candidate : Candidate) : Bool :=
  (request.metadata candidate.sourceId).any fun metadata =>
    isMandatory metadata.rule.budgetClass candidate.mandatory

def groupsOf (candidate : Candidate) : List ActivationGroupKey :=
  ((request.metadata candidate.sourceId).map (·.rule.selection.groups)).getD []

/-- `(sticky, score, group_override, order)`, which decides a group before any draw. -/
def groupKey (candidate : Candidate) : Option (Bool ×ₗ Nat ×ₗ Bool ×ₗ Int) :=
  (request.metadata candidate.sourceId).map fun metadata =>
    let selection := metadata.rule.selection
    toLex (candidate.sticky, toLex (if selection.useGroupScoring then candidate.score.toNat else 0,
      toLex (selection.groupOverride, selection.order.toInt)))

def groupWeight (candidate : Candidate) : UInt64 :=
  ((request.metadata candidate.sourceId).map (·.rule.selection.groupWeight.toUInt64)).getD 0

/-- What the tied candidates of a group add to the hash of its draw. -/
def hashTied (candidate : Candidate) : List UInt8 :=
  match request.metadata candidate.sourceId with
  | none => []
  | some metadata =>
    Activation.utf8 candidate.sourceId.asStr ++ metadata.ruleVersion.asDigest.bytes ++
      (Activation.beBytes metadata.rule.selection.groupWeight.toUInt64).drop 4

variable (externals : Externals)

def groupWinner (group : ActivationGroupKey) (choices : List Candidate) : Option Candidate :=
  match (choices.filterMap (groupKey request)).max? with
  | none => none
  | some best =>
    let tied := Sorting.sort Candidate.sourceId
      (choices.filter fun candidate => groupKey request candidate = some best)
    let totalWeight := tied.foldl (fun total candidate => add total (groupWeight request candidate)) 0
    if totalWeight = 0 then tied.head?
    else
      let fed := Activation.utf8 "aise.knowledge.activation.group.v1" ++
        Activation.utf8 request.storyId.value ++ Activation.beBytes request.turnNumber.get ++
        Activation.utf8 group.asStr ++ tied.flatMap (hashTied request)
      Activation.draw (groupWeight request)
        (Activation.digestU64 externals.sha256 fed % totalWeight) tied

abbrev GroupWinners := BTreeMap ActivationGroupKey KnowledgeSourceId

/-- One group of an elimination round; a group that has a winner keeps it. -/
def chooseWinner (eligible : List Candidate) (winners : GroupWinners) (group : ActivationGroupKey) :
    GroupWinners :=
  if winners.contains group then winners
  else
    let choices := eligible.filter fun candidate => (groupsOf request candidate).contains group
    match groupWinner request externals group choices with
    | none => winners
    | some winner => winners.insert group winner.sourceId

/-- The groups of the grouped candidates that are still eligible, each once and in order. -/
def openGroups (grouped eligible : List Candidate) : List ActivationGroupKey :=
  sortDedup ((grouped.filter fun candidate =>
    eligible.any fun item => item.sourceId = candidate.sourceId).flatMap (groupsOf request))

def holdsGroups (winners : GroupWinners) (candidate : Candidate) : Bool :=
  (groupsOf request candidate).all fun group => winners[group]? = some candidate.sourceId

/-- One round of `resolve_groups`. The winners are drawn anew from those of earlier calls. -/
def eliminate (decided : GroupWinners) (grouped : List Candidate)
    (state : List Candidate × GroupWinners) : Loop.Flow (List Candidate × GroupWinners) :=
  let eligible := state.1
  let winners := (openGroups request grouped eligible).foldl
    (chooseWinner request externals eligible) decided
  let retained := eligible.filter (holdsGroups request winners)
  if retained.length = eligible.length then .leave (eligible, winners)
  else .again (retained, winners)

theorem eliminate_descends {decided : GroupWinners} {grouped : List Candidate}
    {s t : List Candidate × GroupWinners}
    (round : eliminate request externals decided grouped s = .again t) :
    t.1.length < s.1.length := by
  simp only [eliminate] at round
  split at round
  · cases round
  · rename_i fewer
    cases round
    exact lt_of_le_of_ne (List.length_filter_le _ _) fewer

/-- The elimination loop of `resolve_groups`: who is left, and who won which group. -/
def survivors (decided : GroupWinners) (candidates : List Candidate) :
    List Candidate × GroupWinners :=
  let grouped := candidates.filter fun candidate => !(groupsOf request candidate).isEmpty
  Loop.run (eliminate request externals decided grouped) (fun state => state.1.length)
    (eliminate_descends request externals) (candidates.length + 1) (candidates, decided)
    (Nat.lt_succ_self _)

def probabilityAdmits (sourceId : KnowledgeSourceId) (metadata : ActivationEntryMetadata) : Bool :=
  let probability := metadata.rule.selection.probability
  if probability = 0 then false
  else if probability = 100 then true
  else
    let fed := Activation.utf8 "aise.knowledge.activation.probability.v1" ++
      Activation.utf8 request.storyId.value ++ Activation.beBytes request.turnNumber.get ++
      Activation.utf8 sourceId.asStr ++ metadata.ruleVersion.asDigest.bytes
    let sample := ((externals.digest fed).bytes.take 2).foldl
      (fun value byte => value * 256 + byte.toNat) 0
    sample % 100 < probability.toNat

def visibleBaseFragments (depth : UInt16) : List ScanFragment :=
  (request.scanBuffer.visibleAtDepth depth).filter fun fragment =>
    fragment.kind ≠ .recursionContent &&
      summaryVisible fragment.kind depth request.limits.includeSummaryAtMaxDepth
        request.limits.maxScanDepth

end

end Aise.Domain
