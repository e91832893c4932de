import Aise.Core.Activation.Recursion
import Aise.Lib.Sighting

/-! The evidence an entry gathers fragment by fragment, against what scanning all the fragments it
can see at once would find. An entry that is open when a round collects was open all along, so it
has been shown every fragment. -/
namespace Aise
open Activation

namespace ActivationCandidate
variable {K : Type} (tables : CharTables) (candidate : ActivationCandidate K)

def keysOf : ActivationPatternKind → List ActivationKey
  | .primary => candidate.rule.matchRule.keys
  | .secondary => candidate.rule.matchRule.secondaryKeys

def countIn (key : ActivationKey) (fragment : ScanFragment) : Nat :=
  let matchRule := candidate.rule.matchRule
  fragment.count tables (normalizeText tables key.text.value matchRule.caseSensitive)
    matchRule.caseSensitive matchRule.matchWholeWords

def sees (key : ActivationKey) (fragment : ScanFragment) : Bool :=
  0 < candidate.countIn tables key fragment

/-- The base text as deep as the entry looks, and all of the recursion. -/
def visible (config : ActivationConfig) (base recursion : List ScanFragment) :
    List ScanFragment :=
  let scanDepth := min (candidate.rule.matchRule.scanDepth.getD config.scanDepth) config.maxScanDepth
  base.filter (fun fragment => fragment.depth ≤ scanDepth) ++ recursion

/-- The keys of an entry with their kind and their place in its rule. -/
def numbered : List (ActivationPatternKind × ActivationKey × Nat) :=
  [.primary, .secondary].flatMap fun kind => (candidate.keysOf kind).zipIdx.map (kind, ·)

def evidenceOf (pattern : ActivationPatternKind × ActivationKey × Nat) (fragment : ScanFragment) :
    ActivationEvidence where
  patternKind := pattern.1
  patternOrdinal := clampU16 pattern.2.2
  fragmentKind := fragment.kind
  depth := fragment.depth
  matchCount := clampU16 (candidate.countIn tables pattern.2.1 fragment)

/-- One item for each key that is in some fragment, from the first such fragment. -/
def rescan (fragments : List ScanFragment) : List ActivationEvidence :=
  Sighting.rescan (fun pattern => candidate.sees tables pattern.2.1)
    (candidate.evidenceOf tables) candidate.numbered fragments

/-- The evidence is that of a rescan: of each kind as many items as keys are to be seen. -/
structure Rescanned (fragments : List ScanFragment) (evidence : List ActivationEvidence) :
    Prop where
  matched : ∀ kind, matched evidence kind = (candidate.keysOf kind).countP fun key =>
    fragments.any (candidate.sees tables key)
  evidence : evidence.Perm (candidate.rescan tables fragments)

def patternId (pattern : ActivationPatternKind × ActivationKey × Nat) :
    ActivationPatternKind × UInt16 := (pattern.1, clampU16 pattern.2.2)

def evidenceId (item : ActivationEvidence) : ActivationPatternKind × UInt16 :=
  (item.patternKind, item.patternOrdinal)

/-- Every key of the entry against one fragment. -/
def look : List ActivationEvidence → ScanFragment → List ActivationEvidence :=
  Sighting.look patternId evidenceId (fun pattern => candidate.sees tables pattern.2.1)
    (candidate.evidenceOf tables) candidate.numbered

variable {tables candidate}

/-- The places of up to 65536 keys are numbers of sixteen bits. -/
theorem clampU16_inj {left right : Nat} (first : left < UInt16.size) (second : right < UInt16.size)
    (same : clampU16 left = clampU16 right) : left = right := by
  have kept {value : Nat} (bound : value < UInt16.size) : (clampU16 value).toNat = value := by
    have least : min value (UInt16.size - 1) = value := by omega
    rw [clampU16, least, UInt16.toNat_ofNat_of_lt' bound]
  rw [← kept first, ← kept second, same]

theorem patternIds_distinct
    (bounded : ∀ kind, (candidate.keysOf kind).length ≤ UInt16.size) :
    (candidate.numbered.map patternId).Nodup := by
  have each (kind : ActivationPatternKind) :
      (((candidate.keysOf kind).zipIdx.map (kind, ·)).map patternId).Nodup := by
    have places : ((candidate.keysOf kind).zipIdx.map Prod.snd).Nodup := by
      rw [List.zipIdx_map_snd]
      exact List.nodup_range'
    rw [List.map_map]
    refine (places.of_map _).map_on fun left first right second same => ?_
    have bound := bounded kind
    have within {entry : ActivationKey × Nat} (member : entry ∈ (candidate.keysOf kind).zipIdx) :
        entry.2 < UInt16.size := by
      have := List.snd_lt_of_mem_zipIdx member
      omega
    refine List.inj_on_of_nodup_map places first second ?_
    exact clampU16_inj (within first) (within second) (Prod.mk.inj same).2
  simp only [numbered, List.flatMap_cons, List.flatMap_nil, List.append_nil, List.map_append]
  refine List.nodup_append.mpr ⟨each _, each _, ?_⟩
  intro left one right other same
  simp only [List.mem_map] at one other
  obtain ⟨_, ⟨_, _, rfl⟩, rfl⟩ := one
  obtain ⟨_, ⟨_, _, rfl⟩, rfl⟩ := other
  cases (Prod.mk.inj same).1

/-- Keys of one kind count where they are listed. -/
theorem countP_numbered (kind : ActivationPatternKind) (seen : ActivationKey → Bool) :
    candidate.numbered.countP (fun pattern => decide (pattern.1 = kind) && seen pattern.2.1) =
      (candidate.keysOf kind).countP seen := by
  have own : (((candidate.keysOf kind).zipIdx.map (kind, ·)).countP fun pattern =>
      decide (pattern.1 = kind) && seen pattern.2.1) = (candidate.keysOf kind).countP seen := by
    conv_rhs => rw [← List.zipIdx_map_fst 0 (candidate.keysOf kind)]
    rw [List.countP_map, List.countP_map]
    exact List.countP_congr fun entry _ => by simp
  have other {third : ActivationPatternKind} (differs : third ≠ kind) :
      (((candidate.keysOf third).zipIdx.map (third, ·)).countP fun pattern =>
        decide (pattern.1 = kind) && seen pattern.2.1) = 0 := by
    rw [List.countP_map]
    exact List.countP_eq_zero.mpr fun entry _ => by simp [differs]
  simp only [numbered, List.flatMap_cons, List.flatMap_nil, List.append_nil, List.countP_append]
  cases kind with
  | primary => rw [own, other (by decide), Nat.add_zero]
  | secondary => rw [own, other (by decide), Nat.zero_add]

theorem evidenceOf_id (pattern : ActivationPatternKind × ActivationKey × Nat)
    (fragment : ScanFragment) :
    evidenceId (candidate.evidenceOf tables pattern fragment) = patternId pattern := rfl

/-- What was recorded fragment by fragment is what a rescan finds. -/
theorem looks_rescanned (bounded : ∀ kind, (candidate.keysOf kind).length ≤ UInt16.size)
    (fragments : List ScanFragment) :
    candidate.Rescanned tables fragments (fragments.foldl (candidate.look tables) []) := by
  have distinct := patternIds_distinct bounded
  have perm : (fragments.foldl (candidate.look tables) []).Perm
      (candidate.rescan tables fragments) :=
    Sighting.looks_perm_rescan evidenceOf_id distinct fragments
  refine ⟨fun kind => ?_, perm⟩
  have found : (candidate.rescan tables fragments).countP
        (fun item => decide ((evidenceId item).1 = kind)) =
      candidate.numbered.countP fun pattern => decide ((patternId pattern).1 = kind) &&
        fragments.any (candidate.sees tables pattern.2.1) :=
    Sighting.countP_rescan evidenceOf_id (fun id => decide (id.1 = kind)) fragments
  rw [Activation.matched, ← List.countP_eq_length_filter, perm.countP_eq]
  exact found.trans (countP_numbered kind fun key => fragments.any (candidate.sees tables key))

/-! ### Ingesting -/

theorem recordMatch_eq (kind : ActivationPatternKind) (fragment : ScanFragment)
    (evidence : List ActivationEvidence) (entry : ActivationKey × Nat) :
    recordMatch tables kind fragment candidate.rule.matchRule.caseSensitive
        candidate.rule.matchRule.matchWholeWords evidence
        (normalizeText tables entry.1.text.value candidate.rule.matchRule.caseSensitive, entry.2) =
      Sighting.record patternId evidenceId (fun pattern => candidate.sees tables pattern.2.1)
        (candidate.evidenceOf tables) fragment evidence (kind, entry) := by
  have known : (evidence.any fun item =>
        decide (item.patternKind = kind) && decide (item.patternOrdinal = clampU16 entry.2)) =
      evidence.any fun item => decide (evidenceId item = patternId (kind, entry)) := by
    congr 1
    funext item
    simp [evidenceId, patternId]
  simp only [recordMatch, Sighting.record, known]
  split
  · rfl
  · by_cases absent : candidate.countIn tables entry.1 fragment = 0
    · have unseen : ¬ candidate.sees tables entry.1 fragment = true := by simp [sees, absent]
      exact (if_pos absent).trans (if_neg unseen).symm
    · have seen : candidate.sees tables entry.1 fragment = true := by
        simpa [sees, Nat.pos_iff_ne_zero] using absent
      exact (if_neg absent).trans (if_pos seen).symm

theorem recordMatches_eq (kind : ActivationPatternKind) (fragment : ScanFragment)
    (evidence : List ActivationEvidence) :
    recordMatches tables evidence ((candidate.keysOf kind).map fun key =>
        normalizeText tables key.text.value candidate.rule.matchRule.caseSensitive) kind fragment
        candidate.rule.matchRule.caseSensitive candidate.rule.matchRule.matchWholeWords =
      ((candidate.keysOf kind).zipIdx.map (kind, ·)).foldl (Sighting.record patternId evidenceId
        (fun pattern => candidate.sees tables pattern.2.1) (candidate.evidenceOf tables) fragment)
        evidence := by
  rw [recordMatches, List.zipIdx_map, List.foldl_map, List.foldl_map]
  exact List.foldl_ext _ _ _ fun evidence entry _ => recordMatch_eq kind fragment evidence entry

variable {config : ActivationConfig}

theorem ingest_recursion (evidence : List ActivationEvidence) (fragment : ScanFragment) :
    (Entry.new tables config candidate).ingest tables false evidence fragment =
      candidate.look tables evidence fragment := by
  rw [look, Sighting.look, numbered, List.flatMap_cons, List.flatMap_cons, List.flatMap_nil,
    List.append_nil, List.foldl_append, ← recordMatches_eq, ← recordMatches_eq]
  rfl

theorem ingest_base (evidence : List ActivationEvidence) (fragment : ScanFragment) :
    (Entry.new tables config candidate).ingest tables true evidence fragment =
      if fragment.depth ≤ (Entry.new tables config candidate).scanDepth then
        candidate.look tables evidence fragment
      else evidence := by
  by_cases within : fragment.depth ≤ (Entry.new tables config candidate).scanDepth
  · have looked : (Entry.new tables config candidate).ingest tables false evidence fragment =
        candidate.look tables evidence fragment := ingest_recursion evidence fragment
    rw [if_pos within, ← looked]
    have shallow : ¬ fragment.depth > (Entry.new tables config candidate).scanDepth :=
      UInt16.not_lt.mpr within
    simp only [Entry.ingest, shallow]
    rfl
  · rw [if_neg within]
    have deep : fragment.depth > (Entry.new tables config candidate).scanDepth :=
      UInt16.not_le.mp within
    simp only [Entry.ingest, deep]
    rfl

/-- All that was ingested is what the entry has looked at. -/
theorem ingested (base recursion : List ScanFragment) :
    recursion.foldl ((Entry.new tables config candidate).ingest tables false)
        (base.foldl ((Entry.new tables config candidate).ingest tables true) []) =
      (candidate.visible config base recursion).foldl (candidate.look tables) [] := by
  rw [visible, List.foldl_append, List.foldl_filter]
  have deep : base.foldl ((Entry.new tables config candidate).ingest tables true) [] =
      base.foldl (fun evidence fragment =>
        if decide (fragment.depth ≤ (Entry.new tables config candidate).scanDepth) = true then
          candidate.look tables evidence fragment
        else evidence) [] :=
    List.foldl_ext _ _ _ fun evidence fragment _ => by rw [ingest_base]; simp
  rw [deep]
  exact List.foldl_ext _ _ _ fun evidence fragment _ => ingest_recursion evidence fragment

end ActivationCandidate

namespace Activation.Session
variable {ι K : Type} [DecidableEq ι] {input : Input ι K} {session next : Session ι K}

/-- Whoever is open was open before. -/
theorem Step.opened (step : Step input session next) (opened : next.isOpen index = true) :
    session.isOpen index = true := by
  cases step with
  | defer | release | trim | exhaust | win | recurse => exact opened
  | reject =>
    obtain ⟨inactive, pending⟩ := isOpen_iff.mp opened
    refine isOpen_iff.mpr ⟨inactive, ?_⟩
    change Function.update session.terminal _ _ index = none at pending
    rw [Function.update_apply] at pending
    split at pending
    · contradiction
    · exact pending
  | activate =>
    obtain ⟨inactive, pending⟩ := isOpen_iff.mp opened
    exact isOpen_iff.mpr ⟨fun active => inactive (List.mem_append_left _ active), pending⟩

/-- As long as the level stays, so does the evidence. -/
theorem Step.quiet (step : Step input session next) :
    next.level = session.level ∧ next.evidence = session.evidence ∨
      session.level < next.level := by
  cases step with
  | defer | release | reject | trim | exhaust | win | activate => exact .inl ⟨rfl, rfl⟩
  | recurse below =>
    refine .inr ?_
    show session.level < nextLevel session.level
    rw [UInt16.lt_iff_toNat_lt, nextLevel_toNat below]
    exact Nat.lt_succ_self _

theorem opened_of_steps (steps : Transition.Reaches (Step input) session next)
    (opened : next.isOpen index = true) : session.isOpen index = true := by
  induction steps with
  | refl => exact opened
  | tail _ step ih => exact ih (step.opened opened)

theorem quiet_of_steps (steps : Transition.Reaches (Step input) session next) :
    next.level = session.level ∧ next.evidence = session.evidence ∨
      session.level < next.level := by
  induction steps with
  | refl => exact .inl ⟨rfl, rfl⟩
  | tail _ step ih =>
    rcases ih with ⟨level, evidence⟩ | higher
    · rcases step.quiet with ⟨same, kept⟩ | higher
      · exact .inl ⟨same.trans level, kept.trans evidence⟩
      · exact .inr (level ▸ higher)
    · rcases step.quiet with ⟨same, _⟩ | further
      · exact .inr (same ▸ higher)
      · exact .inr (UInt16.lt_trans higher further)

section
variable [LinearOrder K] [ToString K]

theorem admission_evidence (session : Session ι K) :
    (session.admission input).1.evidence = session.evidence := by
  have level : (session.admission input).1.level = session.level := by
    simp only [admission, admitCandidates_level, resolveGroups_level, collect_level]
  rcases quiet_of_steps (admission_steps input session).1 with ⟨_, evidence⟩ | higher
  · exact evidence
  · rw [level] at higher
    exact absurd higher (UInt16.lt_irrefl _)

/-- Another round starts from what the admitted entries were ingested into. -/
theorem round_again (round : session.round input = .again next) :
    next = { (session.admission input).1 with
      level := nextLevel (session.admission input).1.level }.ingest input
        (session.admission input).2 false := by
  rw [round_eq] at round
  simp only [proceed] at round
  split at round
  · cases round
  · split at round
    · cases round
    · split at round
      · cases round
      · exact (Loop.Flow.again.inj round).symm

/-- The session a call of `collect` finds, with the recursion fragments ingested so far. -/
inductive Collects (input : Input ι K) (scan : ScanBuffer) :
    Session ι K → List ScanFragment → Prop where
  | first : Collects input scan (input.start scan) []
  | again {session next : Session ι K} {recursion : List ScanFragment}
      (collects : Collects input scan session recursion) (round : session.round input = .again next) :
      Collects input scan next (recursion ++ (session.admission input).2)

/-- These are the sessions in which a round of the run begins. -/
theorem collects_iff {scan : ScanBuffer} : (∃ recursion, Collects input scan session recursion) ↔
    Loop.Enters (round input) (input.start scan) session := by
  constructor
  · rintro ⟨recursion, collects⟩
    induction collects with
    | first => exact .refl
    | again _ round ih => exact .tail ih round
  · intro entered
    induction entered with
    | refl => exact ⟨[], .first⟩
    | tail _ round ih =>
      obtain ⟨recursion, collects⟩ := ih
      exact ⟨_, .again collects round⟩

/-- An open entry has ingested all there was to ingest. -/
theorem Collects.evidence {scan : ScanBuffer} (collects : Collects input scan session recursion)
    (opened : session.isOpen index = true) : session.evidence index =
      recursion.foldl ((input.entries index).ingest input.tables false)
        (scan.fragments.foldl ((input.entries index).ingest input.tables true) []) := by
  induction collects with
  | first => rfl
  | @again session recursion next _ round ih =>
    rw [round_again round] at opened ⊢
    have admitted : (session.admission input).1.isOpen index = true := opened
    have kept : (session.admission input).1.evidence = session.evidence :=
      admission_evidence session
    rw [List.foldl_append, ← ih (opened_of_steps (admission_steps input session).1 admitted),
      ← kept]
    exact if_pos opened

end

end Activation.Session

/-- Whenever a round collects, the evidence of an entry that is still open is that of scanning
again all it can see of the turn's text and of the recursion. -/
theorem evidence_rescanned {K : Type} [LinearOrder K] [ToString K] {tables : CharTables}
    {sha256 : Sha256} {candidates : List (ActivationCandidate K)} {scan : ScanBuffer}
    {turn : ActivationTurn} {config : ActivationConfig}
    {session : Session (Fin candidates.length) K} {recursion : List ScanFragment}
    {index : Fin candidates.length}
    (collects : session.Collects (Input.ofCandidates tables sha256 candidates turn config) scan
      recursion)
    (opened : session.isOpen index = true)
    (bounded : ∀ kind, ((candidates.get index).keysOf kind).length ≤ UInt16.size) :
    (candidates.get index).Rescanned tables
      ((candidates.get index).visible config scan.fragments recursion) (session.evidence index) := by
  rw [collects.evidence opened]
  have looked : (candidates.get index).Rescanned tables
      ((candidates.get index).visible config scan.fragments recursion) _ :=
    ActivationCandidate.looks_rescanned bounded _
  rwa [← ActivationCandidate.ingested] at looked

namespace Activation.Sample

/-- The cellar of the turn's text activates an entry whose content names the lantern. -/
def cellarCandidates : List (ActivationCandidate Nat) :=
  [keyed 0 lanternKey "It is lit.", keyed 1 cellarKey "A lantern."]

def cellarInput : Input (Fin cellarCandidates.length) Nat :=
  .ofCandidates ascii zeros cellarCandidates turn {}

def lantern : Fin cellarCandidates.length := ⟨0, by decide⟩

theorem cellar_again : (cellarInput.start cellarScan).round cellarInput =
    .again (((cellarInput.start cellarScan).round cellarInput).state) := by
  rw [Session.round_eq, if_neg (by decide +kernel), Session.proceed, if_neg (by decide +kernel),
    if_neg (by decide +kernel)]
  rfl

end Activation.Sample

theorem lantern_rescanned :
    ∃ (session : Session (Fin Sample.cellarCandidates.length) Nat) (recursion : List ScanFragment),
      session.Collects Sample.cellarInput Sample.cellarScan recursion ∧ recursion.length = 1 ∧
      session.isOpen Sample.lantern = true ∧
      (Sample.cellarCandidates.get Sample.lantern).Rescanned Sample.ascii
        ((Sample.cellarCandidates.get Sample.lantern).visible {} Sample.cellarScan.fragments
          recursion)
        (session.evidence Sample.lantern) := by
  have collects := Session.Collects.again .first Sample.cellar_again
  have gathered : ((Sample.cellarInput.start Sample.cellarScan).admission
      Sample.cellarInput).2.length = 1 := by decide +kernel
  have opened : ((Sample.cellarInput.start Sample.cellarScan).round
      Sample.cellarInput).state.isOpen Sample.lantern = true := by decide +kernel
  have bounded : ∀ kind,
      ((Sample.cellarCandidates.get Sample.lantern).keysOf kind).length ≤ UInt16.size := by
    intro kind
    cases kind <;> decide
  exact ⟨_, _, collects, gathered, opened, evidence_rescanned collects opened bounded⟩

end Aise
