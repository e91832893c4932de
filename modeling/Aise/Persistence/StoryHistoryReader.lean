import Aise.Story.ExactlyOnce

/-! The history of a story is read page by page, while turns go on being committed to it. A reader who
follows the sequence that each page ends with gets every turn once and in order, and when the last page
says so there is none that it has missed. -/
namespace Aise.Domain.Persistence
open RustText

/-! ### Rows and pages -/

abbrev RowSequence := { sequence : Nat // 0 < sequence ∧ sequence < 2 ^ 63 }

/-- A row of `story_turns`, as far as its history is read. -/
structure TurnRow where
  turnNumber : TurnNumber
  sequence : RowSequence
  playerContribution : String
  storyText : String
  createdAt : Int64
  deriving DecidableEq

/-- The rows that a history is read from. The opening is a segment of the story. -/
structure HistoryRows where
  story : StoredStory
  turns : List TurnRow := []
  openedAt : Int64

structure StoryHistoryConfig where
  maxPageSize : UInt64
  maxPlayerContributionBytes : UInt64
  maxStoryTextBytes : UInt64

structure StoryHistoryQuery where
  afterSequence : Option StorySequence
  limit : UInt64

structure StoryTurnView where
  turnNumber : TurnNumber
  sequence : StorySequence
  playerContribution : String
  storyText : String
  createdAt : Int64
  deriving DecidableEq

structure StoryOpeningView where
  sequence : StorySequence
  storyText : String
  createdAt : Int64
  deriving DecidableEq

structure StoryHistoryPage where
  opening : Option StoryOpeningView
  turns : List StoryTurnView
  nextAfterSequence : Option StorySequence
  deriving DecidableEq

/-! ### Loading a page -/

def RowSequence.view (sequence : RowSequence) : StorySequence := ⟨UInt64.ofNat sequence.1⟩

def TurnRow.view (row : TurnRow) : StoryTurnView where
  turnNumber := row.turnNumber
  sequence := RowSequence.view row.sequence
  playerContribution := row.playerContribution
  storyText := row.storyText
  createdAt := row.createdAt

def checkBytes (limit : String) (text : String) (maximum : UInt64) : Except StoreError Unit :=
  Result.failIf (len text > maximum.toNat) (.limitExceeded limit)

def viewTurn (config : StoryHistoryConfig) (row : TurnRow) : Except StoreError StoryTurnView := do
  checkBytes "max_player_contribution_bytes" row.playerContribution config.maxPlayerContributionBytes
  checkBytes "max_story_text_bytes" row.storyText config.maxStoryTextBytes
  return row.view

/-- The segment that a story opens with. -/
def openingOf (segments : BTreeMap Nat StoredSegment) : Option (Nat × String) :=
  segments.toList.findSome? fun (sequence, segment) =>
    if segment.origin = .opening then some (sequence, segment.storyText) else none

def viewOpening (config : StoryHistoryConfig) (rows : HistoryRows) :
    Except StoreError (Option StoryOpeningView) :=
  match openingOf rows.story.segments with
  | none => .ok none
  | some (sequence, storyText) => do
    checkBytes "max_story_text_bytes" storyText config.maxStoryTextBytes
    return some { sequence := ⟨UInt64.ofNat sequence⟩, storyText, createdAt := rows.openedAt }

/-- `WHERE sequence > ? ORDER BY sequence ASC LIMIT ?`. -/
def selectTurns (turns : List TurnRow) (after limit : Nat) : List TurnRow :=
  ((turns.filter fun row => after < row.sequence.1).mergeSort fun first second =>
    first.sequence.1 ≤ second.sequence.1).take limit

/-- The sequence that rows have to be after. -/
def startAfter (afterSequence : Option StorySequence) : UInt64 :=
  match afterSequence with
  | some sequence => sequence.get
  | none => 0

def loadStoryHistory (config : StoryHistoryConfig) (rows : HistoryRows) (query : StoryHistoryQuery) :
    Except StoreError StoryHistoryPage := do
  Result.failIf (query.limit = 0 ∨ query.limit > config.maxPageSize)
    (.limitExceeded "story_history_page_size")
  let fetchLimit ← following "story_history_page_size" query.limit
  let opening ← viewOpening config rows
  let after := startAfter query.afterSequence
  Result.failIf (2 ^ 63 ≤ after.toNat) (.serialization .invalidTurnResult)
  Result.failIf (2 ^ 63 ≤ fetchLimit.toNat) (.limitExceeded "story_history_page_size")
  let selected := selectTurns rows.turns after.toNat fetchLimit.toNat
  let turns ← (selected.take query.limit.toNat).mapM (viewTurn config)
  return {
    opening
    turns
    nextAfterSequence :=
      if selected.length > query.limit.toNat then turns.getLast?.map (·.sequence) else none }

/-! ### Commits -/

/-- A call of `commit_turn`, with what it also writes into the row of the turn. -/
structure TurnWrite where
  spec : TurnCommitSpec
  playerContribution : String
  createdAt : Int64

/-- The rows after a call of `commit_turn`. A turn that is new gets its row. -/
def HistoryRows.afterWrite (around : Surroundings) (rows : HistoryRows) (write : TurnWrite) : HistoryRows :=
  match commitTurn around.uuids write.spec rows.story,
      rows.story.turns.find? (·.idempotencyKey = write.spec.idempotencyKey),
      nextSequenceOf rows.story.segments with
  | .ok (_, next), none, .ok sequence =>
    { rows with
      story := next
      turns := rows.turns ++ [{
        turnNumber := write.spec.turnNumber
        sequence
        playerContribution := write.playerContribution
        storyText := write.spec.changes.storyText.value
        createdAt := write.createdAt }] }
  | _, _, _ => rows

/-- The rows of turns are in the order of their sequences, and those of the turns of the story. -/
structure HistoryRows.Recorded (rows : HistoryRows) : Prop where
  ordered : rows.turns.Pairwise fun first second => first.sequence.1 < second.sequence.1
  segmented : ∀ row ∈ rows.turns, row.sequence.1 ∈ rows.story.segments
  kept : rows.turns.map (fun row => (row.turnNumber, row.storyText)) =
    rows.story.turns.map fun turn => (turn.turnNumber, turn.result.storyText)

section
variable {around : Surroundings} {config : StoryHistoryConfig} {rows : HistoryRows} {write : TurnWrite}

theorem nextSequenceOf_gt {segments : BTreeMap Nat StoredSegment} {sequence : RowSequence}
    (ok : nextSequenceOf segments = .ok sequence) {other : Nat} (member : other ∈ segments) :
    other < sequence.1 := by
  unfold nextSequenceOf at ok
  split at ok
  · cases ok
    exact Nat.lt_succ_of_le (le_lastSequence member)
  · cases ok

/-- Without a new turn the rows stay as they are. -/
theorem HistoryRows.afterWrite_cases (around : Surroundings) (rows : HistoryRows) (write : TurnWrite) :
    rows.afterWrite around write = rows ∨ ∃ result next sequence row,
      commitTurn around.uuids write.spec rows.story = .ok (result, next) ∧
        rows.story.turns.find? (·.idempotencyKey = write.spec.idempotencyKey) = none ∧
        nextSequenceOf rows.story.segments = .ok sequence ∧ row.sequence = sequence ∧
        row.turnNumber = write.spec.turnNumber ∧ row.storyText = write.spec.changes.storyText.value ∧
        rows.afterWrite around write = { rows with story := next, turns := rows.turns ++ [row] } := by
  unfold HistoryRows.afterWrite
  split
  · rename_i result next sequence committed fresh numbered
    exact .inr ⟨result, next, sequence, _, committed, fresh, numbered, rfl, rfl, rfl, rfl⟩
  · exact .inl rfl

theorem HistoryRows.Recorded.afterWrite (around : Surroundings) (recorded : rows.Recorded)
    (write : TurnWrite) :
    (rows.afterWrite around write).Recorded := by
  rcases rows.afterWrite_cases around write with same |
    ⟨result, next, sequence, row, committed, fresh, numbered, own, number, text, written⟩
  · rw [same]
    exact recorded
  · have commits := commitTurn_eq_ok fresh committed
    obtain ⟨turns, said⟩ := commitTurn_adds fresh committed
    obtain ⟨other, same, segments⟩ := commits.segments
    cases numbered.symm.trans same
    rw [written]
    constructor
    · refine List.pairwise_append.mpr ⟨recorded.ordered, List.pairwise_singleton _ _, ?_⟩
      intro earlier member last here
      rw [List.mem_singleton.mp here, own]
      exact nextSequenceOf_gt numbered (recorded.segmented earlier member)
    · intro other member
      rw [segments, Std.ExtTreeMap.mem_insert, Std.compare_eq_iff_eq]
      rcases List.mem_append.mp member with before | last
      · exact .inr (recorded.segmented other before)
      · rw [List.mem_singleton.mp last, own]
        exact .inl rfl
    · rw [turns, List.map_append, List.map_append, recorded.kept]
      simp [number, text, said]

/-! ### Reading on -/

/-- A reader with the pages that it has got so far. -/
structure HistoryReading where
  rows : HistoryRows
  afterSequence : Option StorySequence := none
  finished : Bool := false
  read : List StoryTurnView := []

inductive HistoryEvent where
  | write (write : TurnWrite)
  | page (limit : UInt64)

/-- A turn is committed by anyone, or the reader asks for the page after the last one. A page that is
refused is asked for again. -/
def HistoryReading.step (around : Surroundings) (config : StoryHistoryConfig) (reading : HistoryReading) :
    HistoryEvent → HistoryReading
  | .write write => { reading with rows := reading.rows.afterWrite around write }
  | .page limit =>
    if reading.finished then reading
    else
      match loadStoryHistory config reading.rows ⟨reading.afterSequence, limit⟩ with
      | .error _ => reading
      | .ok page => { reading with
          afterSequence := page.nextAfterSequence
          finished := page.nextAfterSequence.isNone
          read := reading.read ++ page.turns }

def HistoryReading.run (around : Surroundings) (config : StoryHistoryConfig) (reading : HistoryReading)
    (events : List HistoryEvent) : HistoryReading :=
  events.foldl (HistoryReading.step around config) reading

/-- The sequence to read on after. -/
def cursorAfter (seen : List TurnRow) : Option StorySequence :=
  seen.getLast?.map fun row => RowSequence.view row.sequence

/-- Where a reader is: the turns read come first, and the sequence to read on after is that of the last. -/
structure HistoryReading.Follows (reading : HistoryReading) (seen unread : List TurnRow) : Prop where
  recorded : reading.rows.Recorded
  parted : reading.rows.turns = seen ++ unread
  got : reading.read = seen.map TurnRow.view
  after : reading.finished = false → reading.afterSequence = cursorAfter seen

section
variable {reading : HistoryReading} {seen unread : List TurnRow} {limit : UInt64}

theorem view_toNat (sequence : RowSequence) : (RowSequence.view sequence).get.toNat = sequence.1 := by
  have below : sequence.1 < UInt64.size := sequence.2.2.trans (by decide)
  exact UInt64.toNat_ofNat_of_lt' below

/-- Rows are after the cursor exactly if they were not read. -/
theorem cursor_between
    (ordered : (seen ++ unread).Pairwise fun first second => first.sequence.1 < second.sequence.1) :
    (∀ row ∈ seen, row.sequence.1 ≤ (startAfter (cursorAfter seen)).toNat) ∧
      ∀ row ∈ unread, (startAfter (cursorAfter seen)).toNat < row.sequence.1 := by
  obtain ⟨inside, _, across⟩ := List.pairwise_append.mp ordered
  rcases List.eq_nil_or_concat seen with rfl | ⟨front, last, rfl⟩
  · exact ⟨fun _ member => absurd member List.not_mem_nil, fun row _ => row.sequence.2.1⟩
  · rw [List.concat_eq_append] at inside across ⊢
    have cursor : (startAfter (cursorAfter (front ++ [last]))).toNat = last.sequence.1 := by
      simp [cursorAfter, startAfter, view_toNat]
    rw [cursor]
    refine ⟨fun row member => ?_, fun row member => across last (by simp) row member⟩
    rcases List.mem_append.mp member with before | here
    · exact Nat.le_of_lt ((List.pairwise_append.mp inside).2.2 row before last (by simp))
    · rw [List.mem_singleton.mp here]

theorem selectTurns_cursor
    (ordered : (seen ++ unread).Pairwise fun first second => first.sequence.1 < second.sequence.1)
    (count : Nat) :
    selectTurns (seen ++ unread) (startAfter (cursorAfter seen)).toNat count = unread.take count := by
  obtain ⟨before, later⟩ := cursor_between ordered
  have none : (seen.filter fun row =>
      (startAfter (cursorAfter seen)).toNat < row.sequence.1) = [] := by
    refine List.filter_eq_nil_iff.mpr fun row member => ?_
    simpa using before row member
  have all : (unread.filter fun row =>
      (startAfter (cursorAfter seen)).toNat < row.sequence.1) = unread := by
    refine List.filter_eq_self.mpr fun row member => ?_
    simpa using later row member
  have sorted : unread.Pairwise fun first second => decide (first.sequence.1 ≤ second.sequence.1) = true :=
    (List.pairwise_append.mp ordered).2.1.imp fun less => decide_eq_true (Nat.le_of_lt less)
  rw [selectTurns, List.filter_append, none, all, List.nil_append, List.mergeSort_of_pairwise sorted]

theorem viewTurn_eq_ok {row : TurnRow} {view : StoryTurnView} (ok : viewTurn config row = .ok view) :
    view = row.view := by
  obtain ⟨_, ok⟩ := Result.check_bind_eq_ok.mp ok
  obtain ⟨_, ok⟩ := Result.check_bind_eq_ok.mp ok
  cases ok
  rfl

/-- A page has the first turns that were not read, as many as were asked for, and says whether there are
more. -/
theorem loadStoryHistory_cursor {page : StoryHistoryPage} (recorded : rows.Recorded)
    (parted : rows.turns = seen ++ unread)
    (ok : loadStoryHistory config rows ⟨cursorAfter seen, limit⟩ = .ok page) :
    0 < limit.toNat ∧ page.turns = (unread.take limit.toNat).map TurnRow.view ∧
      page.nextAfterSequence =
        if limit.toNat < unread.length then cursorAfter (seen ++ unread.take limit.toNat) else none := by
  have ordered := recorded.ordered
  rw [parted] at ordered
  obtain ⟨asked, ok⟩ := Result.check_bind_eq_ok.mp ok
  obtain ⟨fetchLimit, fetched, ok⟩ := Result.bind_eq_ok ok
  obtain ⟨opening, _, ok⟩ := Result.bind_eq_ok ok
  obtain ⟨_, ok⟩ := Result.check_bind_eq_ok.mp ok
  obtain ⟨_, ok⟩ := Result.check_bind_eq_ok.mp ok
  obtain ⟨turns, viewed, ok⟩ := Result.bind_eq_ok ok
  cases ok
  dsimp only at asked fetched viewed ⊢
  have more := following_toNat fetched
  have positive : 0 < limit.toNat := by
    have some := (not_or.mp (Result.failIf_eq_ok.mp asked)).1
    rw [← UInt64.toNat_inj, UInt64.toNat_zero] at some
    omega
  have page := Result.map_of_forall₂ id TurnRow.view (Result.mapM_eq_ok viewed) fun _ _ _ => viewTurn_eq_ok
  rw [List.map_id, parted, selectTurns_cursor ordered, more, List.take_take,
    Nat.min_eq_left (Nat.le_succ _)] at page
  refine ⟨positive, page, ?_⟩
  rw [parted, selectTurns_cursor ordered, more, List.length_take, page]
  by_cases further : limit.toNat < unread.length
  · have some : unread.take limit.toNat ≠ [] := by
      intro none
      have short := congrArg List.length none
      rw [List.length_take, List.length_nil] at short
      omega
    rw [if_pos (by omega), if_pos further, cursorAfter, List.getLast?_append_of_ne_nil _ some,
      List.getLast?_map, Option.map_map]
    rfl
  · rw [if_neg (by omega), if_neg further]

theorem HistoryReading.Follows.step (follows : reading.Follows seen unread) (event : HistoryEvent) :
    ∃ seen unread, (reading.step around config event).Follows seen unread := by
  cases event with
  | write write =>
    have recorded := follows.recorded.afterWrite around write
    rcases reading.rows.afterWrite_cases around write with same |
      ⟨_, next, _, row, _, _, _, _, _, _, written⟩
    · refine ⟨seen, unread, recorded, ?_, follows.got, follows.after⟩
      exact (congrArg HistoryRows.turns same).trans follows.parted
    · refine ⟨seen, unread ++ [row], recorded, ?_, follows.got, follows.after⟩
      rw [← List.append_assoc, ← follows.parted]
      exact congrArg HistoryRows.turns written
  | page limit =>
    unfold HistoryReading.step
    dsimp only
    split
    · exact ⟨seen, unread, follows⟩
    · rename_i going
      split
      · exact ⟨seen, unread, follows⟩
      · rename_i page ok
        rw [follows.after (Bool.eq_false_iff.mpr going)] at ok
        obtain ⟨_, turns, next⟩ := loadStoryHistory_cursor follows.recorded follows.parted ok
        refine ⟨seen ++ unread.take limit.toNat, unread.drop limit.toNat, follows.recorded, ?_, ?_, ?_⟩
        · rw [List.append_assoc, List.take_append_drop]
          exact follows.parted
        · rw [follows.got, turns, List.map_append]
        · intro unfinished
          rw [next] at unfinished ⊢
          split at unfinished
          · rename_i further
            rw [if_pos further]
          · cases unfinished

theorem HistoryReading.Follows.run (around : Surroundings) (follows : reading.Follows seen unread)
    (events : List HistoryEvent) :
    ∃ seen unread, (reading.run around config events).Follows seen unread := by
  induction events generalizing reading seen unread with
  | nil => exact ⟨seen, unread, follows⟩
  | cons event rest ih =>
    obtain ⟨_, _, next⟩ := follows.step event
    exact ih next

/-- A reader who has read nothing yet. -/
def HistoryReading.begin (start : StoredStory) (openedAt : Int64) : HistoryReading where
  rows := { story := start, openedAt }

/-- The number and the text of a turn, as a reader knows them. -/
def StoryTurnView.told (view : StoryTurnView) : TurnNumber × String := (view.turnNumber, view.storyText)

/-- The number and the text of a turn, as they were committed. -/
def StoredTurn.told (turn : StoredTurn) : TurnNumber × String := (turn.turnNumber, turn.result.storyText)

theorem follows_begin {start : StoredStory} (none : start.turns = []) (openedAt : Int64) :
    (HistoryReading.begin start openedAt).Follows [] [] where
  recorded := ⟨.nil, fun _ member => absurd member List.not_mem_nil, by rw [HistoryReading.begin, none]; rfl⟩
  parted := rfl
  got := rfl
  after := fun _ => rfl

theorem told_rows (recorded : rows.Recorded) :
    rows.turns.map (fun row => row.view.told) = rows.story.turns.map StoredTurn.told := recorded.kept

/-- A reader after some events, since the story was created. -/
def HistoryReading.since (around : Surroundings) (config : StoryHistoryConfig) (start : StoredStory)
    (openedAt : Int64) (events : List HistoryEvent) : HistoryReading :=
  (HistoryReading.begin start openedAt).run around config events

/-- What a reader has got is the beginning of the story, each turn once and in order. A page that is not
the last one is full, and the last one leaves no turn out. -/
structure HistoryReading.Faithful (config : StoryHistoryConfig) (reading : HistoryReading) : Prop where
  first : reading.read.map StoryTurnView.told <+: reading.rows.story.turns.map StoredTurn.told
  full : ∀ limit page, reading.finished = false →
    loadStoryHistory config reading.rows ⟨reading.afterSequence, limit⟩ = .ok page →
    page.nextAfterSequence.isSome = true → page.turns.length = limit.toNat
  whole : ∀ limit page, reading.finished = false →
    loadStoryHistory config reading.rows ⟨reading.afterSequence, limit⟩ = .ok page →
    page.nextAfterSequence = none →
    (reading.read ++ page.turns).map StoryTurnView.told = reading.rows.story.turns.map StoredTurn.told

theorem HistoryReading.Follows.faithful (follows : reading.Follows seen unread) : reading.Faithful config := by
  have told := told_rows follows.recorded
  rw [follows.parted] at told
  constructor
  · rw [← told, follows.got, List.map_map, List.map_append]
    exact List.prefix_append _ _
  · intro limit page going ok more
    rw [follows.after going] at ok
    obtain ⟨_, turns, next⟩ := loadStoryHistory_cursor follows.recorded follows.parted ok
    rw [next] at more
    split at more
    · rename_i further
      rw [turns, List.length_map, List.length_take]
      omega
    · cases more
  · intro limit page going ok last
    rw [follows.after going] at ok
    obtain ⟨positive, turns, next⟩ := loadStoryHistory_cursor follows.recorded follows.parted ok
    rw [next] at last
    split at last
    · rename_i further
      have short : (seen ++ unread.take limit.toNat).length = 0 := by
        rw [cursorAfter, Option.map_eq_none_iff, List.getLast?_eq_none_iff] at last
        exact congrArg List.length last
      rw [List.length_append, List.length_take] at short
      omega
    · rename_i all
      rw [turns, ← told, follows.got, ← List.map_append, List.take_of_length_le (by omega), List.map_map]
      rfl

/-- Whatever is committed to a story while it is read, and whatever pages are asked for, its history is
read faithfully. -/
theorem story_history_read_once {foundation : Foundation} {start : StoredStory}
    (created : foundation.create around = .ok start) (openedAt : Int64) (config : StoryHistoryConfig)
    (events : List HistoryEvent) :
    (HistoryReading.since around config start openedAt events).Faithful config := by
  obtain ⟨_, _, starts⟩ := Foundation.create_eq_ok created
  obtain ⟨_, _, follows⟩ := (follows_begin starts.turns openedAt).run around events
  exact follows.faithful

end

end

namespace StoryHistoryReader.Sample
open Run.Sample

def config : StoryHistoryConfig := ⟨100, 16384, 65536⟩

/-- A turn is committed before the first page is read. -/
theorem turn_read_once : ∃ (start next : StoredStory) (turn : StoryTurn around start next),
    (HistoryReading.since around config start 0
      [.write ⟨turn.spec, "on we go", 1⟩, .page 20]).Faithful config := by
  obtain ⟨start, next, created, turn, -, -⟩ :=
    played_eq (foundation FactValues.Sample.quiet FactValues.Sample.quiet_storable ∅) {} {}
      (fun _ => true) (by decide +kernel)
  exact ⟨start, next, turn, story_history_read_once created 0 config _⟩

end StoryHistoryReader.Sample

end Aise.Domain.Persistence
