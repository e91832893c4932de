import Aise.Story.ExactlyOnce

/-! Which windows of a story its continuity accepts, and that the sequence which follows the window
is the one that the next turn is stored under. -/
namespace Aise.Domain.Persistence

/-! ### Segments that are read -/

section
variable {limits : SnapshotLimits} {uuids : UuidReader} {story : StoredStory} {snapshot : StorySnapshot}
  {storyId : StoryId}

theorem loadStorySnapshot_continuity
    (loaded : loadStorySnapshot limits uuids storyId story = .ok snapshot) :
    loadContinuity limits story = .ok snapshot.storyContinuity := by
  unfold loadStorySnapshot at loaded
  split at loaded
  · cases loaded
  · obtain ⟨parts, partsLoaded, loaded⟩ := Result.bind_eq_ok loaded
    have same := StorySnapshotParts.tryFromParts_eq_ok (Result.mapError_eq_ok.mp loaded)
    unfold loadParts at partsLoaded
    obtain ⟨_, _, partsLoaded⟩ := Result.bind_eq_ok partsLoaded
    obtain ⟨_, _, partsLoaded⟩ := Result.bind_eq_ok partsLoaded
    obtain ⟨_, _, partsLoaded⟩ := Result.bind_eq_ok partsLoaded
    obtain ⟨_, _, partsLoaded⟩ := Result.bind_eq_ok partsLoaded
    obtain ⟨_, _, partsLoaded⟩ := Result.bind_eq_ok partsLoaded
    obtain ⟨_, _, partsLoaded⟩ := Result.bind_eq_ok partsLoaded
    obtain ⟨_, _, partsLoaded⟩ := Result.bind_eq_ok partsLoaded
    obtain ⟨_, _, partsLoaded⟩ := Result.bind_eq_ok partsLoaded
    obtain ⟨_, _, partsLoaded⟩ := Result.bind_eq_ok partsLoaded
    obtain ⟨continuity, read, partsLoaded⟩ := Result.bind_eq_ok partsLoaded
    cases partsLoaded
    rw [same]
    exact read

theorem SequencedContinuity.tryNew_eq_ok {summary : StorySummary} {segments : List StorySegment}
    {limits : StoryContinuityLimits} {continuity : SequencedContinuity}
    (ok : SequencedContinuity.tryNew summary segments limits = .ok continuity) :
    continuity = ⟨summary, segments⟩ := by
  unfold SequencedContinuity.tryNew at ok
  split at ok
  · cases ok
  · split at ok
    · cases ok
    · split at ok
      · cases ok
      · split at ok
        · cases ok
        · obtain ⟨_, _, ok⟩ := Result.bind_eq_ok ok
          obtain ⟨_, _, ok⟩ := Result.bind_eq_ok ok
          obtain ⟨_, _, ok⟩ := Result.bind_eq_ok ok
          split at ok
          · cases ok
          · cases ok
            rfl

theorem keys_eq_range' {segments : BTreeMap Nat StoredSegment} {count : Nat}
    (gapless : ∀ sequence, sequence ∈ segments ↔ 1 ≤ sequence ∧ sequence ≤ count) :
    segments.keys = List.range' 1 count := by
  have ordered := Std.ExtTreeMap.ordered_keys (t := segments)
  refine List.Pairwise.eq_of_mem_iff (r := (· < ·)) (ordered.imp ?_) List.pairwise_lt_range' ?_
  · exact fun less => Nat.compare_eq_lt.mp less
  · intro sequence
    rw [Std.ExtTreeMap.mem_keys, gapless, List.mem_range'_1]
    omega

theorem loadSegment_sequence {entry : Nat × StoredSegment} {segment : StorySegment}
    (loaded : loadSegment limits entry = .ok segment) (fits : entry.1 < 2 ^ 63) :
    segment.sequence.get.toNat = entry.1 := by
  obtain ⟨sequence, numbered, loaded⟩ := Result.bind_eq_ok loaded
  obtain ⟨text, _, loaded⟩ := Result.bind_eq_ok loaded
  cases loaded
  have same := Result.okOr_eq_ok.mp numbered
  unfold StorySequence.tryNew at same
  split at same
  · cases same
    rw [UInt64.toNat_ofNat', Nat.mod_eq_of_lt (by omega)]
  · cases same

theorem segmentsBehind_eq {maximum : Nat}
    (few : ¬(segmentsBehind story.segments 0 (maximum + 1)).length > maximum) :
    segmentsBehind story.segments 0 (maximum + 1) = story.segments.toList := by
  have all : story.segments.toList.filter (fun entry => 0 < entry.1) = story.segments.toList := by
    rw [List.filter_eq_self]
    intro entry member
    have stored := Std.ExtTreeMap.mem_toList_iff_getElem?_eq_some.mp member
    exact decide_eq_true (story.sequenced entry.1 (OrdMap.mem_iff_exists.mpr ⟨_, stored⟩)).1
  rw [segmentsBehind, all, List.length_take] at few
  rw [segmentsBehind, all, List.take_of_length_le (by omega)]

/-- A sequence has a next one where that is a `u64`. -/
theorem StorySequence.next_eq_ok {sequence after : StorySequence} :
    sequence.next = .ok after ↔ after.get.toNat = sequence.get.toNat + 1 := by
  have sum : sequence.get.toNat + 1 < UInt64.size →
      (sequence.get + 1).toNat = sequence.get.toNat + 1 := by
    intro fits
    rw [UInt64.toNat_add, UInt64.toNat_one, Nat.mod_eq_of_lt fits]
  unfold StorySequence.next
  constructor
  · intro next
    split at next
    · rename_i fits
      have same := Result.okOr_eq_ok.mp next
      unfold StorySequence.tryNew at same
      split at same
      · cases same
        exact sum fits
      · cases same
    · cases next
  · intro follows
    have fits : sequence.get.toNat + 1 < UInt64.size := follows ▸ after.get.toNat_lt
    have same : after.get = sequence.get + 1 :=
      UInt64.toNat_inj.mp (follows.trans (sum fits).symm)
    have positive : sequence.get + 1 ≠ 0 := by
      intro zero
      rw [same, zero] at follows
      cases follows
    rw [if_pos fits, StorySequence.tryNew, if_pos positive, ← same]
    rfl

/-- Without a summary all segments are read, so the latest sequence is that of the last. -/
theorem loadContinuity_latest {continuity : SequencedContinuity} {count : Nat}
    (loaded : loadContinuity limits story = .ok continuity)
    (summary : story.storySummaryJson = emptySummaryJson)
    (gapless : ∀ other, other ∈ story.segments ↔ 1 ≤ other ∧ other ≤ count) (positive : 0 < count) :
    ∃ latest, continuity.latestSequence = some latest ∧ latest.get.toNat = count := by
  have bare : readStorySummary emptySummaryJson = some ⟨⟨""⟩, none⟩ := by decide +kernel
  unfold loadContinuity at loaded
  rw [summary, bare] at loaded
  obtain ⟨read, same, loaded⟩ := Result.bind_eq_ok loaded
  cases same
  obtain ⟨_, _, loaded⟩ := Result.bind_eq_ok loaded
  obtain ⟨_, _, loaded⟩ := Result.bind_eq_ok loaded
  obtain ⟨_, _, loaded⟩ := Result.bind_eq_ok loaded
  obtain ⟨_, few, loaded⟩ := Result.bind_eq_ok loaded
  obtain ⟨recent, each, loaded⟩ := Result.bind_eq_ok loaded
  cases SequencedContinuity.tryNew_eq_ok (Result.mapError_eq_ok.mp loaded)
  have all := segmentsBehind_eq (Result.failIf_eq_ok.mp few)
  have numbers : recent.map (·.sequence.get.toNat) = List.range' 1 count := by
    rw [← keys_eq_range' gapless, ← Std.ExtTreeMap.map_fst_toList_eq_keys]
    have read := Result.mapM_eq_ok each
    rw [summaryThrough, Option.map_none, Option.getD_none, all] at read
    refine Result.map_of_forall₂ _ _ read fun entry member segment here => ?_
    have stored := Std.ExtTreeMap.mem_toList_iff_getElem?_eq_some.mp member
    exact loadSegment_sequence here
      (story.sequenced entry.1 (OrdMap.mem_iff_exists.mpr ⟨_, stored⟩)).2
  have ending := congrArg List.getLast? numbers
  rw [List.getLast?_map, List.getLast?_range', if_neg (Nat.ne_of_gt positive)] at ending
  obtain ⟨latest, last, same⟩ := Option.map_eq_some_iff.mp ending
  refine ⟨latest.sequence, ?_, by omega⟩
  rw [SequencedContinuity.latestSequence, last, Option.map_some, Option.some_or]

theorem loadContinuity_nextSequence {continuity : SequencedContinuity} {sequence : StorySequence}
    {count : Nat} (loaded : loadContinuity limits story = .ok continuity)
    (summary : story.storySummaryJson = emptySummaryJson)
    (gapless : ∀ other, other ∈ story.segments ↔ 1 ≤ other ∧ other ≤ count) (positive : 0 < count) :
    continuity.nextSequence = .ok sequence ↔ sequence.get.toNat = count + 1 := by
  obtain ⟨latest, last, newest⟩ := loadContinuity_latest loaded summary gapless positive
  unfold SequencedContinuity.nextSequence
  rw [last, ← newest]
  exact StorySequence.next_eq_ok

end

end Aise.Domain.Persistence

namespace Aise.Domain
open RustText

/-- What the limits say of a window, added up without a bound. -/
structure StoryContinuityLimits.Hold (limits : StoryContinuityLimits) (summary : StorySummary)
    (segments : List StorySegment) : Prop where
  summary : len summary.text.value ≤ limits.maxSummaryBytes
  count : segments.length ≤ limits.maxRecentSegments
  each : ∀ segment ∈ segments, len segment.text.value ≤ limits.maxRecentSegmentBytes
  tokens : (segments.map fun segment => (estimateTextTokens segment.text.value).toNat).sum ≤
    limits.maxRecentSegmentTokens.toNat

/-- The segments are numbered from that after the summary on. -/
def Contiguous (summary : StorySummary) (segments : List StorySegment) : Prop :=
  segments.map (·.sequence.get.toNat) =
    List.range' (Persistence.summaryThrough summary + 1) segments.length

/-- An addition of the source that is not checked. `none` is an overflow. -/
def plus (a b : UInt64) : Option UInt64 :=
  if a.toNat + b.toNat < UInt64.size then some (a + b) else none

/-- `checkWindows`, with its one addition that could overflow. -/
def tracedWindows : List StorySegment → Option (Except StoryContinuityError Unit)
  | first :: second :: rest =>
    if second.sequence.get ≤ first.sequence.get then some (.error .outOfOrder)
    else do
      let following ← plus first.sequence.get 1
      if second.sequence.get ≠ following then some (.error .gap)
      else tracedWindows (second :: rest)
  | _ => some (.ok ⟨⟩)

/-! ### Sequences -/

/-- Below another number there is room for one more. -/
theorem succ_fits {first second : UInt64} (less : first < second) :
    first.toNat + (1 : UInt64).toNat < UInt64.size := by
  rw [UInt64.lt_iff_toNat_lt] at less
  exact Nat.lt_of_le_of_lt less second.toNat_lt

theorem toNat_succ_of_lt {first second : UInt64} (less : first < second) :
    (first + 1).toNat = first.toNat + 1 := by
  rw [UInt64.toNat_add, Nat.mod_eq_of_lt (succ_fits less)]
  rfl

theorem tracedWindows_eq (segments : List StorySegment) :
    tracedWindows segments = some (checkWindows segments) := by
  fun_induction checkWindows segments with
  | case1 first second rest unordered => rw [tracedWindows, if_pos unordered]
  | case2 first second rest ordered apart =>
    rw [tracedWindows, if_neg ordered, plus, if_pos (succ_fits (UInt64.not_le.mp ordered))]
    exact if_pos apart
  | case3 first second rest ordered follows ih =>
    rw [tracedWindows, if_neg ordered, plus, if_pos (succ_fits (UInt64.not_le.mp ordered))]
    exact (if_neg follows).trans ih
  | case4 segments short =>
    unfold tracedWindows
    split
    · exact absurd rfl (short _ _ _)
    · rfl

/-- A segment after another passes where it has the next number. -/
theorem follows_iff {first second : UInt64} :
    (first < second ∧ second = first + 1) ↔ second.toNat = first.toNat + 1 := by
  constructor
  · rintro ⟨less, rfl⟩
    exact toNat_succ_of_lt less
  · intro follows
    have less : first < second := by
      rw [UInt64.lt_iff_toNat_lt]
      omega
    exact ⟨less, UInt64.toNat_inj.mp (follows.trans (toNat_succ_of_lt less).symm)⟩

theorem checkWindows_eq_ok {first : StorySegment} {rest : List StorySegment} :
    checkWindows (first :: rest) = .ok ⟨⟩ ↔
      rest.map (·.sequence.get.toNat) =
        List.range' (first.sequence.get.toNat + 1) rest.length := by
  induction rest generalizing first with
  | nil => exact iff_of_true rfl rfl
  | cons second rest ih =>
    have step : checkWindows (first :: second :: rest) = .ok ⟨⟩ ↔
        second.sequence.get.toNat = first.sequence.get.toNat + 1 ∧
          checkWindows (second :: rest) = .ok ⟨⟩ := by
      rw [checkWindows, ← follows_iff]
      split
      · rename_i unordered
        exact iff_of_false nofun fun passes => UInt64.not_lt.mpr unordered passes.1.1
      · rename_i ordered
        split
        · rename_i apart
          exact iff_of_false nofun fun passes => apart passes.1.2
        · rename_i follows
          rw [not_not] at follows
          rw [and_iff_right ⟨UInt64.not_le.mp ordered, follows⟩]
    rw [step, ih, List.map_cons, List.length_cons, List.range'_succ, List.cons.injEq]
    constructor
    · rintro ⟨follows, later⟩
      exact ⟨follows, follows ▸ later⟩
    · rintro ⟨follows, later⟩
      exact ⟨follows, follows ▸ later⟩

theorem checkFirstSegment_eq_ok {summary : StorySummary} {first : StorySegment} :
    checkFirstSegment summary first = .ok ⟨⟩ ↔
      first.sequence.get.toNat = Persistence.summaryThrough summary + 1 := by
  unfold checkFirstSegment Persistence.summaryThrough
  cases summary.summarizedThrough with
  | none =>
    dsimp only
    rw [Option.map_none, Option.getD_none]
    split
    · rename_i apart
      exact iff_of_false nofun fun one => apart (UInt64.toNat_inj.mp one)
    · rename_i one
      rw [not_not] at one
      exact iff_of_true rfl (congrArg UInt64.toNat one)
  | some boundary =>
    dsimp only
    rw [Option.map_some, Option.getD_some]
    constructor
    · intro passes
      obtain ⟨expected, next, passes⟩ := Result.bind_eq_ok passes
      have after := Persistence.StorySequence.next_eq_ok.mp (Result.mapError_eq_ok.mp next)
      split at passes
      · cases passes
      · rename_i least
        split at passes
        · cases passes
        · rename_i most
          rw [← after]
          exact congrArg UInt64.toNat (UInt64.le_antisymm (UInt64.not_lt.mp most)
            (UInt64.not_lt.mp least))
    · intro follows
      rw [Persistence.StorySequence.next_eq_ok.mpr follows]
      simp only [Except.mapError, bind, Except.bind, UInt64.lt_irrefl, gt_iff_lt, if_false]

theorem contiguous_iff {summary : StorySummary} {segments : List StorySegment} :
    Contiguous summary segments ↔
      segments.head?.toList.forM (checkFirstSegment summary) = .ok ⟨⟩ ∧
        checkWindows segments = .ok ⟨⟩ := by
  cases segments with
  | nil => exact iff_of_true rfl ⟨rfl, rfl⟩
  | cons first rest =>
    rw [Contiguous, List.map_cons, List.length_cons, List.range'_succ, List.cons.injEq,
      List.head?_cons, Option.toList_some, Result.forM_eq_ok, List.forall_mem_singleton,
      checkFirstSegment_eq_ok, checkWindows_eq_ok]
    constructor
    · rintro ⟨begins, continues⟩
      exact ⟨begins, begins ▸ continues⟩
    · rintro ⟨begins, continues⟩
      exact ⟨begins, begins ▸ continues⟩

/-! ### Tokens -/

/-- The sum is known as long as it is a `u64`. -/
theorem segmentTokens_eq_ok {segments : List StorySegment} {total : UInt64} :
    segmentTokens segments = .ok total ↔ total.toNat =
      (segments.map fun segment => (estimateTextTokens segment.text.value).toNat).sum := by
  have added : ∀ (segments : List StorySegment) (start : UInt64),
      segments.foldlM (fun total segment =>
          let tokens := estimateTextTokens segment.text.value
          if total.toNat + tokens.toNat < UInt64.size then .ok (total + tokens)
          else .error (.limitExceeded "max_recent_segment_tokens")) start =
            (.ok total : Except StoryContinuityError UInt64) ↔
        total.toNat = start.toNat +
          (segments.map fun segment => (estimateTextTokens segment.text.value).toNat).sum := by
    intro segments
    induction segments with
    | nil =>
      intro start
      rw [List.foldlM_nil, List.map_nil, List.sum_nil, Nat.add_zero, UInt64.toNat_inj]
      constructor
      · rintro ⟨⟩
        rfl
      · rintro rfl
        rfl
    | cons segment rest ih =>
      intro start
      rw [List.foldlM_cons, List.map_cons, List.sum_cons, ← Nat.add_assoc]
      dsimp only
      split
      · rename_i fits
        have sum : (start + estimateTextTokens segment.text.value).toNat =
            start.toNat + (estimateTextTokens segment.text.value).toNat := by
          rw [UInt64.toNat_add, Nat.mod_eq_of_lt fits]
        rw [← sum]
        exact ih _
      · rename_i large
        have below := total.toNat_lt
        refine iff_of_false nofun fun same => large ?_
        rw [UInt64.size]
        omega
  rw [segmentTokens, added, UInt64.toNat_zero, Nat.zero_add]

/-! ### The window -/

theorem SequencedContinuity.tryNew_eq_ok_iff {summary : StorySummary}
    {segments : List StorySegment} {limits : StoryContinuityLimits} :
    (∃ continuity, SequencedContinuity.tryNew summary segments limits = .ok continuity) ↔
      limits.Hold summary segments ∧
        (isBlank summary.text.value ↔ summary.summarizedThrough = none) ∧
        Contiguous summary segments := by
  rw [contiguous_iff]
  constructor
  · rintro ⟨continuity, ok⟩
    unfold SequencedContinuity.tryNew at ok
    split at ok
    · cases ok
    · rename_i short
      split at ok
      · cases ok
      · rename_i few
        split at ok
        · cases ok
        · rename_i small
          split at ok
          · cases ok
          · rename_i bounded
            obtain ⟨⟨⟩, begins, ok⟩ := Result.bind_eq_ok ok
            obtain ⟨⟨⟩, continues, ok⟩ := Result.bind_eq_ok ok
            obtain ⟨tokens, counted, ok⟩ := Result.bind_eq_ok ok
            split at ok
            · cases ok
            · rename_i cheap
              refine ⟨⟨not_lt.mp short, not_lt.mp few, ?_, ?_⟩, ?_, begins, continues⟩
              · exact fun segment member => not_lt.mp fun long => small ⟨segment, member, long⟩
              · rw [← segmentTokens_eq_ok.mp counted]
                exact UInt64.le_iff_toNat_le.mp (UInt64.not_lt.mp cheap)
              · rw [not_not] at bounded
                rw [bounded, Option.isNone_iff_eq_none]
  · rintro ⟨hold, bounded, begins, continues⟩
    have below := limits.maxRecentSegmentTokens.toNat_lt
    have least := hold.tokens
    let total := (segments.map fun segment => (estimateTextTokens segment.text.value).toNat).sum
    have same : (UInt64.ofNat total).toNat = total := by
      rw [UInt64.toNat_ofNat']
      exact Nat.mod_eq_of_lt (Nat.lt_of_le_of_lt least below)
    have counted : segmentTokens segments = .ok (UInt64.ofNat total) := segmentTokens_eq_ok.mpr same
    have cheap : ¬UInt64.ofNat total > limits.maxRecentSegmentTokens := by
      rw [gt_iff_lt, UInt64.not_lt, UInt64.le_iff_toNat_le, same]
      exact least
    have small : ¬∃ segment ∈ segments, len segment.text.value > limits.maxRecentSegmentBytes := by
      rintro ⟨segment, member, long⟩
      exact Nat.not_lt.mpr (hold.each segment member) long
    have boundary : isBlank summary.text.value = summary.summarizedThrough.isNone := by
      rw [Bool.eq_iff_iff, bounded, Option.isNone_iff_eq_none]
    refine ⟨⟨summary, segments⟩, ?_⟩
    unfold SequencedContinuity.tryNew
    rw [if_neg (not_lt.mpr hold.summary), if_neg (not_lt.mpr hold.count), if_neg small,
      if_neg (not_not.mpr boundary), begins, continues, counted]
    exact if_neg cheap

end Aise.Domain

namespace Aise.Domain.Persistence
open RustText

/-! ### The next turn -/

section
variable {around : Surroundings} {foundation : Foundation} {start story : StoredStory}

theorem afterCommits_summary (specs : List TurnCommitSpec) :
    (afterCommits around story specs).storySummaryJson = story.storySummaryJson := by
  induction specs generalizing story with
  | nil => rfl
  | cons spec rest ih =>
    rw [afterCommits, List.foldl_cons]
    refine ih.trans ?_
    unfold afterCommit
    split
    · rename_i committed
      rcases commitTurn_cases committed with rfl | ⟨_, commits, _⟩
      · rfl
      · exact commits.summary
    · rfl

/-- Of a story without gaps and without a summary, the window ends where the segments do. -/
theorem OnceEach.nextSequence (once : OnceEach start story)
    (summary : story.storySummaryJson = emptySummaryJson) {limits : SnapshotLimits}
    {continuity : SequencedContinuity} (loaded : loadContinuity limits story = .ok continuity) :
    ∃ sequence, continuity.nextSequence = .ok sequence ∧
      sequence.get.toNat = story.turns.length + 2 := by
  have positive : 0 < story.turns.length + 1 := Nat.succ_pos _
  have last := (once.segments (story.turns.length + 1)).mpr ⟨positive, le_refl _⟩
  have fits : story.turns.length + 2 < 2 ^ 64 := by
    have below := (story.sequenced _ last).2
    omega
  have same : (UInt64.ofNat (story.turns.length + 2)).toNat = story.turns.length + 2 := by
    rw [UInt64.toNat_ofNat']
    exact Nat.mod_eq_of_lt fits
  refine ⟨⟨UInt64.ofNat (story.turns.length + 2)⟩, ?_, same⟩
  exact (loadContinuity_nextSequence loaded summary once.segments positive).mpr same

end

/-- A window is accepted exactly where its limits hold, its summary is there as the boundary says
and its segments follow that without a gap, and no addition overflows. After any commits to a new
story, what follows the loaded window is the sequence that the next turn is stored under. -/
theorem continuity_exact :
    (∀ (summary : StorySummary) (segments : List StorySegment) (limits : StoryContinuityLimits),
      ((∃ continuity, SequencedContinuity.tryNew summary segments limits = .ok continuity) ↔
        limits.Hold summary segments ∧
          (isBlank summary.text.value ↔ summary.summarizedThrough = none) ∧
          Contiguous summary segments) ∧
      tracedWindows segments = some (checkWindows segments)) ∧
    ∀ (around : Surroundings) (foundation : Foundation) (start : StoredStory)
      (specs : List TurnCommitSpec) (limits : SnapshotLimits) (continuity : SequencedContinuity),
      foundation.create around = .ok start →
      loadContinuity limits (afterCommits around start specs) = .ok continuity →
      ∃ sequence, continuity.nextSequence = .ok sequence ∧
        ∀ spec result next,
          (∀ turn ∈ (afterCommits around start specs).turns,
            turn.idempotencyKey ≠ spec.idempotencyKey) →
          commitTurn around.uuids spec (afterCommits around start specs) =
              .ok (result, next) →
            next.segments = (afterCommits around start specs).segments.insert sequence.get.toNat
              ⟨.turn spec.turnNumber, spec.changes.storyText.value⟩ := by
  constructor
  · intro summary segments limits
    exact ⟨SequencedContinuity.tryNew_eq_ok_iff, tracedWindows_eq segments⟩
  · intro around foundation start specs limits continuity created loaded
    have once : OnceEach start (afterCommits around start specs) :=
      (Foundation.onceEach created).afterCommits specs
    have summary : (afterCommits around start specs).storySummaryJson = emptySummaryJson := by
      rw [afterCommits_summary]
      unfold Foundation.create createStory at created
      obtain ⟨_, _, created⟩ := Result.bind_eq_ok created
      exact (createStoryInstance_columns (Result.mapError_eq_ok.mp created)).2.1
    obtain ⟨sequence, next, position⟩ := once.nextSequence summary loaded
    refine ⟨sequence, next, ?_⟩
    intro spec result after new committed
    have commits := commitTurn_eq_ok (find_key_eq_none.mpr new) committed
    obtain ⟨assigned, sequenced, inserted⟩ := commits.segments
    have same : assigned.1 = sequence.get.toNat := by
      rw [position]
      exact nextSequenceOf_eq_ok once.segments (Nat.succ_pos _) sequenced
    rw [inserted, same]

namespace Continuity.Sample
open Run.Sample

/-- The first turn of the mill is stored under the sequence that follows its opening. -/
theorem first_turn_continues : ∃ (start next : StoredStory) (turn : StoryTurn around start next)
    (sequence : StorySequence), turn.snapshot.storyContinuity.nextSequence = .ok sequence ∧
      next.segments = start.segments.insert sequence.get.toNat
        ⟨.turn turn.spec.turnNumber, turn.spec.changes.storyText.value⟩ := by
  obtain ⟨start, next, created, turn, -, -⟩ :=
    played_eq (foundation FactValues.Sample.quiet FactValues.Sample.quiet_storable ∅) {} {}
      (fun _ => true) (by decide +kernel)
  obtain ⟨sequence, follows, stored⟩ := continuity_exact.2 around _ start [] turn.snapshotLimits _ created
    (loadStorySnapshot_continuity turn.loaded)
  refine ⟨start, next, turn, sequence, follows, ?_⟩
  exact stored turn.spec _ next (find_key_eq_none.mp turn.fresh) turn.committed

end Continuity.Sample

end Aise.Domain.Persistence
