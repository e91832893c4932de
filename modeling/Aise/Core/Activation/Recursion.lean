import Aise.Core.Activation.Accounting

/-! Where the evidence of a run comes from. Recursion evidence is always a match in the
content of an entry activated one level earlier, so the levels along a chain of
activations descend. -/
namespace Aise.Activation
open Transition
variable {ι K : Type}

def Entry.needles (entry : Entry K) : ActivationPatternKind → List String
  | .primary => entry.primary
  | .secondary => entry.secondary

/-- The item records a match of one of the entry's keys in the fragment. -/
structure Records (tables : CharTables) (entry : Entry K) (fragment : ScanFragment)
    (item : ActivationEvidence) : Prop where
  kind : item.fragmentKind = fragment.kind
  depth : item.depth = fragment.depth
  found : ∃ needle ∈ entry.needles item.patternKind,
    needle.toList ≠ [] ∧
      needle.toList <:+: (fragment.haystack entry.candidate.rule.matchRule.caseSensitive).toList

theorem mem_recordMatches {tables : CharTables} {entry : Entry K} {fragment : ScanFragment}
    {wholeWords : Bool} {evidence : List ActivationEvidence} (patternKind : ActivationPatternKind)
    (member : item ∈ recordMatches tables evidence (entry.needles patternKind) patternKind fragment
      entry.candidate.rule.matchRule.caseSensitive wholeWords) :
    item ∈ evidence ∨ Records tables entry fragment item := by
  unfold recordMatches at member
  revert member
  refine List.foldlRecOn (motive := fun result => item ∈ result →
    item ∈ evidence ∨ Records tables entry fragment item) _ _ .inl ?_
  intro result ih pattern listed member
  simp only [recordMatch] at member
  split at member
  · exact ih member
  · split at member
    · exact ih member
    · rename_i counted
      rcases List.mem_append.mp member with old | new
      · exact ih old
      · cases List.mem_singleton.mp new
        have needle : pattern.1 ∈ entry.needles patternKind := List.fst_mem_of_mem_zipIdx listed
        have infix_ := literalCount_infix (Nat.pos_of_ne_zero counted)
        exact .inr ⟨rfl, rfl, pattern.1, needle, infix_⟩

theorem mem_ingest {tables : CharTables} {entry : Entry K}
    (member : item ∈ entry.ingest tables base evidence fragment) :
    item ∈ evidence ∨ Records tables entry fragment item := by
  unfold Entry.ingest at member
  split at member
  · exact .inl member
  · rcases mem_recordMatches .secondary member with first | new
    · exact mem_recordMatches .primary first
    · exact .inr new

theorem mem_ingestEach {tables : CharTables} {entry : Entry K} {fragments : List ScanFragment}
    (member : item ∈ fragments.foldl (entry.ingest tables base) evidence) :
    item ∈ evidence ∨ ∃ fragment ∈ fragments, Records tables entry fragment item := by
  revert member
  refine List.foldlRecOn (motive := fun result => item ∈ result →
    item ∈ evidence ∨ ∃ fragment ∈ fragments, Records tables entry fragment item) _ _ .inl ?_
  intro result ih fragment listed member
  rcases mem_ingest member with old | new
  · exact ih old
  · exact .inr ⟨fragment, listed, new⟩

theorem exists_of_matched (some_ : 0 < matched evidence kind) :
    ∃ item ∈ evidence, item.patternKind = kind := by
  obtain ⟨item, member⟩ := List.exists_mem_of_length_pos some_
  simp only [List.mem_filter, decide_eq_true_eq] at member
  exact ⟨item, member⟩

theorem exists_of_not_recursionOnly (mixed : recursionOnly evidence = false) :
    ∃ item ∈ evidence, item.patternKind = .primary ∧ item.fragmentKind ≠ .recursionContent := by
  simpa [recursionOnly, and_assoc] using mixed

namespace Session
variable [DecidableEq ι] {input : Input ι K} {session next : Session ι K}

/-- The entries activated so far, with their positions. -/
def activations (session : Session ι K) : List (ι × ActivatedEntry K) :=
  session.activatedIndices.zip session.activated

/-- The item is a match in the content of an entry activated a level earlier. -/
def Sourced (input : Input ι K) (session : Session ι K) (index : ι)
    (item : ActivationEvidence) : Prop :=
  ∃ source ∈ session.activations,
    source.2.recursionLevel.toNat + 1 = item.depth.toNat ∧
    (input.rule source.1).recursion.preventRecursion = false ∧
    ∃ needle ∈ (input.entries index).needles item.patternKind,
      needle.toList ≠ [] ∧
        needle.toList <:+: (normalizeText input.tables (input.content source.1).value
          (input.rule index).matchRule.caseSensitive).toList

def EvidenceSourced (input : Input ι K) (session : Session ι K) (index : ι) (level : UInt16)
    (evidence : List ActivationEvidence) : Prop :=
  ∀ item ∈ evidence, item.fragmentKind = .recursionContent →
    session.Sourced input index item ∧ item.depth ≤ level

/-- What an activated entry was activated on. -/
structure Grounded (input : Input ι K) (session : Session ι K)
    (activation : ι × ActivatedEntry K) : Prop where
  key : activation.2.key = input.key activation.1
  sourced : EvidenceSourced input session activation.1 activation.2.recursionLevel
    activation.2.evidence
  constant : (input.rule activation.1).mode.constant = true → activation.2.recursionLevel = 0
  primary : (input.rule activation.1).mode.constant = false →
    0 < matched activation.2.evidence .primary
  unlocked : (input.rule activation.1).mode.constant = false →
    ∀ level ∈ (input.rule activation.1).recursion.delayUntilRecursion,
      level.val ≤ activation.2.recursionLevel
  included : (input.rule activation.1).mode.constant = false →
    recursionOnly activation.2.evidence = true →
      (input.rule activation.1).recursion.excludeRecursion = false

structure Traced (input : Input ι K) (session : Session ι K) : Prop where
  evidence : ∀ index, EvidenceSourced input session index session.level (session.evidence index)
  activated : ∀ activation ∈ session.activations, Grounded input session activation

omit [DecidableEq ι] in
theorem EvidenceSourced.keep {level : UInt16} {evidence : List ActivationEvidence}
    (sourced : EvidenceSourced input session index level evidence)
    (grows : session.activations ⊆ next.activations) :
    EvidenceSourced input next index level evidence := by
  intro item member recursion
  obtain ⟨⟨source, active, rest⟩, depth⟩ := sourced item member recursion
  exact ⟨⟨source, grows active, rest⟩, depth⟩

omit [DecidableEq ι] in
theorem Grounded.keep (grounded : Grounded input session activation)
    (grows : session.activations ⊆ next.activations) : Grounded input next activation :=
  { grounded with sourced := grounded.sourced.keep grows }

omit [DecidableEq ι] in
/-- Recursion evidence lies strictly below the level of activation. -/
theorem EvidenceSourced.below {level : UInt16} {evidence : List ActivationEvidence}
    (sourced : EvidenceSourced input session index level evidence) (member : item ∈ evidence)
    (recursion : item.fragmentKind = .recursionContent) :
    ∃ source ∈ session.activations,
      source.2.recursionLevel.toNat + 1 = item.depth.toNat ∧ source.2.recursionLevel < level ∧
      (input.rule source.1).recursion.preventRecursion = false ∧
      ∃ needle ∈ (input.entries index).needles item.patternKind,
        needle.toList ≠ [] ∧
          needle.toList <:+: (normalizeText input.tables (input.content source.1).value
            (input.rule index).matchRule.caseSensitive).toList := by
  obtain ⟨⟨source, active, depth, allowed, found⟩, bound⟩ := sourced item member recursion
  refine ⟨source, active, depth, ?_, allowed, found⟩
  rw [UInt16.lt_iff_toNat_lt]
  rw [UInt16.le_iff_toNat_le] at bound
  omega

omit [DecidableEq ι] in
/-- Whoever excludes recursion and has primary evidence has some from the base text. -/
theorem Grounded.base (grounded : Grounded input session activation)
    (excludes : (input.rule activation.1).recursion.excludeRecursion = true)
    (primary : ∃ item ∈ activation.2.evidence, item.patternKind = .primary) :
    ∃ item ∈ activation.2.evidence,
      item.patternKind = .primary ∧ item.fragmentKind ≠ .recursionContent := by
  cases constant : (input.rule activation.1).mode.constant with
  | true =>
    obtain ⟨item, member, isPrimary⟩ := primary
    refine ⟨item, member, isPrimary, ?_⟩
    intro recursion
    obtain ⟨source, _, _, below, _⟩ := grounded.sourced.below member recursion
    rw [grounded.constant constant, UInt16.lt_iff_toNat_lt] at below
    exact absurd below (Nat.not_lt_zero _)
  | false =>
    apply exists_of_not_recursionOnly
    by_contra only
    have included := grounded.included constant (by simpa using only)
    cases included.symm.trans excludes

omit [DecidableEq ι] in
theorem Traced.keep (traced : Traced input session)
    (activations : next.activations = session.activations)
    (evidence : next.evidence = session.evidence) (level : next.level = session.level) :
    Traced input next where
  evidence index := by
    rw [evidence, level]
    exact (traced.evidence index).keep (by rw [activations]; exact List.Subset.refl _)
  activated activation member := by
    rw [activations] at member
    exact (traced.activated activation member).keep (by rw [activations]; exact List.Subset.refl _)

omit [DecidableEq ι] in
theorem Traced.activate (traced : Traced input session) (candidate : Candidate ι)
    (due : session.Due input candidate.index) :
    Traced input (session.activate input candidate) := by
  have grown : (session.activate input candidate).activations =
      session.activations ++ [(candidate.index, session.entryOf input candidate)] :=
    zip_activate session candidate
  have grows : session.activations ⊆ (session.activate input candidate).activations := by
    rw [grown]
    exact List.subset_append_left _ _
  refine ⟨fun index => (traced.evidence index).keep grows, ?_⟩
  intro activation member
  rw [grown] at member
  rcases List.mem_append.mp member with old | new
  · exact (traced.activated activation old).keep grows
  · cases List.mem_singleton.mp new
    have byMatch (varies : (input.rule candidate.index).mode.constant = false) :
        DueByMatch input session candidate.index := by
      simpa [Due, varies] using due
    exact {
      key := rfl
      sourced := (traced.evidence candidate.index).keep grows
      constant := fun constant => by
        rw [Due, if_pos constant] at due
        exact due
      primary := fun varies => (byMatch varies).primary
      unlocked := fun varies => (byMatch varies).unlocked
      included := fun varies => (byMatch varies).included }

omit [DecidableEq ι] in
/-- A match in a contributed fragment is a match in the content behind it. -/
theorem Records.sourced (contributes : session.Contributes input fragment)
    (below : session.level < input.config.maxRecursionSteps)
    (records : Records input.tables (input.entries index) fragment item) :
    session.Sourced input index item ∧ item.depth = nextLevel session.level := by
  obtain ⟨source, entry, active, level, allowed, rfl⟩ := contributes
  obtain ⟨needle, listed, visible, inside⟩ := records.found
  rw [ScanFragment.new_haystack] at inside
  refine ⟨⟨(source, entry), active, ?_, allowed, needle, listed, visible, inside⟩, records.depth⟩
  rw [records.depth, level]
  exact (nextLevel_toNat below).symm

theorem Traced.recurse (traced : Traced input session)
    (below : session.level < input.config.maxRecursionSteps)
    (contributed : ∀ fragment ∈ fragments, session.Contributes input fragment) :
    Traced input
      ({ session with level := nextLevel session.level }.ingest input fragments false) := by
  have deeper : session.level ≤ nextLevel session.level := by
    rw [UInt16.le_iff_toNat_le, nextLevel_toNat below]
    omega
  refine ⟨?_, fun activation member =>
    (traced.activated activation member).keep (List.Subset.refl _)⟩
  intro index item member recursion
  have origin : item ∈ session.evidence index ∨
      ∃ fragment ∈ fragments, Records input.tables (input.entries index) fragment item := by
    simp only [ingest] at member
    split at member
    · exact mem_ingestEach member
    · exact .inl member
  rcases origin with old | ⟨fragment, listed, records⟩
  · obtain ⟨sourced, depth⟩ := traced.evidence index item old recursion
    exact ⟨sourced, UInt16.le_trans depth deeper⟩
  · obtain ⟨sourced, depth⟩ := Records.sourced (contributed fragment listed) below records
    exact ⟨sourced, UInt16.le_of_eq depth⟩

theorem Traced.step (traced : Traced input session) (step : Step input session next) :
    Traced input next := by
  cases step with
  | defer | release | reject | trim | exhaust | win => exact traced.keep rfl rfl rfl
  | activate _ _ _ due => exact traced.activate _ due
  | recurse below contributed => exact traced.recurse below contributed

end Session

variable [DecidableEq ι] [LinearOrder K] [ToString K]

theorem Input.final_traced (input : Input ι K) (scan : ScanBuffer) :
    Session.Traced input (input.final scan) := by
  apply Transition.invariant (P := Session.Traced input) Session.Traced.step
    (input.final_steps scan)
  refine ⟨?_, by simp [start, Session.ingest, Session.activations]⟩
  intro index item member recursion
  -- the base text holds no recursion content
  have scanned : item ∈ scan.fragments.foldl ((input.entries index).ingest input.tables true) [] :=
    member
  rcases mem_ingestEach scanned with old | ⟨fragment, listed, records⟩
  · cases old
  · exact absurd (records.kind.symm.trans recursion) (scan.base fragment listed)

end Aise.Activation

namespace Aise
open Activation

/-- Every activated entry is constant and of level zero or rests on a primary match; its
recursion evidence is found in contents activated one level earlier and below its own;
an entry that excludes recursion does not rest on recursion alone; and one that waits
for a level, constant entries apart, is not activated before it. -/
theorem recursion_well_founded {K : Type} [LinearOrder K] [ToString K] (tables : CharTables)
    (sha256 : Sha256) (candidates : List (ActivationCandidate K)) (scan : ScanBuffer)
    (turn : ActivationTurn) (config : ActivationConfig) :
    let input := Input.ofCandidates tables sha256 candidates turn config
    let activations := (input.final scan).activations
    (activate tables sha256 candidates scan turn config).activated = activations.map (·.2) ∧
    ∀ activation ∈ activations,
      let candidate := candidates.get activation.1
      let entry := activation.2
      entry.key = candidate.key ∧
      ((candidate.rule.mode.constant = true ∧ entry.recursionLevel = 0) ∨
        ∃ item ∈ entry.evidence, item.patternKind = .primary) ∧
      (∀ item ∈ entry.evidence, item.fragmentKind = .recursionContent →
        ∃ source ∈ activations,
          source.2.recursionLevel.toNat + 1 = item.depth.toNat ∧
          source.2.recursionLevel < entry.recursionLevel ∧
          (candidates.get source.1).rule.recursion.preventRecursion = false ∧
          ∃ needle ∈ (input.entries activation.1).needles item.patternKind,
            needle.toList ≠ [] ∧
              needle.toList <:+: (normalizeText tables (candidates.get source.1).content.value
                candidate.rule.matchRule.caseSensitive).toList) ∧
      (candidate.rule.recursion.excludeRecursion = true →
        (∃ item ∈ entry.evidence, item.patternKind = .primary) →
        ∃ item ∈ entry.evidence,
          item.patternKind = .primary ∧ item.fragmentKind ≠ .recursionContent) ∧
      (candidate.rule.mode.constant = false →
        ∀ level ∈ candidate.rule.recursion.delayUntilRecursion,
          level.val ≤ entry.recursionLevel) := by
  intro input activations
  have traced := input.final_traced scan
  refine ⟨?_, ?_⟩
  · exact (List.map_snd_zip (Nat.le_of_eq (input.final scan).aligned.symm)).symm
  · intro activation member candidate entry
    have grounded := traced.activated activation member
    refine ⟨grounded.key, ?_, ?_, grounded.base, grounded.unlocked⟩
    · cases constant : candidate.rule.mode.constant with
      | true => exact .inl ⟨rfl, grounded.constant constant⟩
      | false => exact .inr (exists_of_matched (grounded.primary constant))
    · intro item recorded recursion
      exact grounded.sourced.below recorded recursion

namespace Activation.Sample

def keyed (key : Nat) (pattern : ActivationKey) (content : String) : ActivationCandidate Nat where
  key := key
  rule := { matchRule := { keys := [pattern] } }
  content := ⟨content⟩

def lanternKey : ActivationKey := ⟨⟨"lantern"⟩, "lantern", by decide⟩
def cellarKey : ActivationKey := ⟨⟨"cellar"⟩, "cellar", by decide⟩

/-- The text of the turn names the cellar, whose entry names the lantern. -/
def cellarScan : ScanBuffer := .new [.new ascii .playerContribution 0 "Down to the Cellar"]

example : (activate ascii zeros [keyed 0 lanternKey "It is lit.", keyed 1 cellarKey "A lantern."]
    cellarScan turn {}).activated.map (fun entry => (entry.key, entry.recursionLevel)) =
      [(1, 0), (0, 1)] := by decide

/-- A constant entry that is to wait for the first level. -/
def waiting : ActivationCandidate Nat where
  key := 0
  rule := {
    mode := { constant := true }
    recursion := { delayUntilRecursion := some ⟨1, by decide⟩ } }
  content := ⟨"x"⟩

/-- It is activated on level zero all the same. -/
theorem constant_ignores_delay :
    ∃ entry ∈ (activate ascii zeros [waiting] (.new []) turn {}).activated,
      entry.key = waiting.key ∧
      ∃ level ∈ waiting.rule.recursion.delayUntilRecursion, entry.recursionLevel < level.val :=
  ⟨⟨0, .constant, 0, []⟩, by decide, rfl, ⟨1, by decide⟩, rfl, by decide⟩

end Activation.Sample
end Aise
