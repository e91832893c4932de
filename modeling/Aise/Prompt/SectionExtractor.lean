import Aise.Lib.Lines
import Aise.Lib.OrdMap
import Aise.Lib.Result
import Aise.Lib.Text
import Aise.Prompt.Model

/-! A template file is made of sections between markers, each of which is the body of one asset. The
extractor goes through the lines once and keeps offsets into the file. What it accepts is exactly what
is laid out as sections with blank lines between them, and the bodies that it returns are the lines
between the markers. -/
namespace Aise.Domain.Prompt
open RustText

structure PromptAssetSection where
  assetId : AssetRef
  slotIds : List SlotId
  body : String
  sourceAnchor : String
  deriving DecidableEq

structure SectionMetadata where
  assetId : AssetRef
  slotIds : List SlotId
  deriving DecidableEq

inductive SectionMarker where
  | start (metadata : SectionMetadata)
  | finish
  deriving DecidableEq

abbrev Line := List Char

/-- A line without what ends it. -/
def trimLineEnd (line : Line) : String :=
  String.ofList (line.rdropWhile fun c => c == '\r' || c == '\n')

def trimStructuralPadding (body : List Char) : List Char :=
  let body :=
    match body.dropPrefix? "\r\n".toList with
    | some stripped => stripped
    | none =>
      match body.dropPrefix? "\n".toList with
      | some stripped => stripped
      | none => body
  if "\r\n\r\n".toList.isSuffixOf body then body.take (body.length - 2)
  else if "\n\n".toList.isSuffixOf body then body.take (body.length - 1)
  else body

section
variable (readMetadata : String → Except String SectionMetadata) (sourcePath : String)

/-- What a line marks, where `readMetadata` reads the JSON in it. -/
def parseMarker (line : String) : Except PromptError (Option SectionMarker) :=
  match (trim line).toList.dropPrefix? "\x7b#".toList with
  | none => .ok none
  | some rest =>
    match rest.dropSuffix? "#\x7d".toList with
    | none => .ok none
    | some inner =>
      let payload := trim (String.ofList inner)
      if payload = "@endasset" then .ok (some .finish)
      else
        match payload.toList.dropPrefix? "@asset".toList with
        | none => .ok none
        | some metadataJson =>
          let metadataJson := trim (String.ofList metadataJson)
          if metadataJson = "" then .error (.catalogLoad "`@asset` marker is missing metadata JSON")
          else
            match readMetadata metadataJson with
            | .error error => .error (.catalogLoad s!"invalid @asset metadata JSON: {error}")
            | .ok metadata => .ok (some (.start metadata))

structure Extraction where
  sections : BTreeMap AssetRef PromptAssetSection
  currentMetadata : Option SectionMetadata
  currentBodyStart : Nat
  currentStartLine : Nat
  sawSection : Bool
  lineStart : Nat
  lineIndex : Nat

def Extraction.initial : Extraction := ⟨∅, none, 0, 0, false, 0, 0⟩

/-- A start marker, on the line that ends at `lineEnd`. -/
def startSection (state : Extraction) (lineEnd : Nat) (metadata : SectionMetadata) :
    Except PromptError Extraction :=
  let lineNumber := state.lineIndex + 1
  match state.currentMetadata with
  | some openSection =>
    .error (.catalogLoad (s!"nested @asset block in `{sourcePath}` at line {lineNumber} " ++
      s!"while `{openSection.assetId}` is still open"))
  | none =>
    if isBlank metadata.assetId then
      .error (.catalogLoad s!"empty asset_id in `{sourcePath}` at line {lineNumber}")
    else if metadata.slotIds = [] then .error (.catalogLoad
      s!"section `{metadata.assetId}` in `{sourcePath}` must declare a non-empty slot_ids array")
    else if metadata.slotIds.any isBlank then .error (.catalogLoad
      s!"section `{metadata.assetId}` in `{sourcePath}` contains an empty slot id")
    else .ok { state with
      currentStartLine := lineNumber
      currentBodyStart := lineEnd
      currentMetadata := some metadata
      sawSection := true }

def finishSection (content : List Char) (state : Extraction) : Except PromptError Extraction :=
  let lineNumber := state.lineIndex + 1
  match state.currentMetadata with
  | none => .error (.catalogLoad s!"unexpected @endasset in `{sourcePath}` at line {lineNumber}")
  | some metadata =>
    let body := String.ofList
      (trimStructuralPadding ((content.take state.lineStart).drop state.currentBodyStart))
    if state.sections.contains metadata.assetId then .error (.catalogLoad
      s!"duplicate asset section `{metadata.assetId}` in `{sourcePath}`")
    else .ok { state with
      currentMetadata := none
      sections := state.sections.insert metadata.assetId
        { assetId := metadata.assetId
          slotIds := metadata.slotIds
          body := body
          sourceAnchor := s!"{sourcePath}#{metadata.assetId}" } }

/-- A line that is no marker. -/
def plainLine (state : Extraction) (line : String) : Except PromptError Extraction :=
  let lineNumber := state.lineIndex + 1
  if state.currentMetadata = none ∧ isBlank line = false then .error (.catalogLoad
    s!"unexpected content outside @asset block in `{sourcePath}` at line {lineNumber}")
  else .ok state

/-- What the marker of a line, if it has one, asks for. -/
def followMarker (content : List Char) (state : Extraction) (lineEnd : Nat) (line : String) :
    Option SectionMarker → Except PromptError Extraction
  | some (.start metadata) => startSection sourcePath state lineEnd metadata
  | some .finish => finishSection sourcePath content state
  | none => plainLine sourcePath state line

def extractLine (content : List Char) (state : Extraction) (rawLine : Line) :
    Except PromptError Extraction := do
  let lineEnd := state.lineStart + rawLine.length
  let line := trimLineEnd rawLine
  let marker ← parseMarker readMetadata line
  let next ← followMarker sourcePath content state lineEnd line marker
  return { next with lineStart := lineEnd, lineIndex := state.lineIndex + 1 }

/-- What is left to check after the last line. -/
def endTemplate (final : Extraction) : Except PromptError (BTreeMap AssetRef PromptAssetSection) :=
  match final.currentMetadata with
  | some metadata => .error (.catalogLoad
      (s!"unclosed @asset block for `{metadata.assetId}` in `{sourcePath}` " ++
        s!"starting at line {final.currentStartLine}"))
  | none =>
    if final.sawSection then .ok final.sections
    else .error (.catalogLoad s!"template `{sourcePath}` must use @asset / @endasset sections")

def extractAssetSections (content : String) :
    Except PromptError (BTreeMap AssetRef PromptAssetSection) := do
  let final ← (Lines.splitInclusive '\n' content.toList).foldlM
    (extractLine readMetadata sourcePath content.toList) .initial
  endTemplate sourcePath final

end

/-! ### What a file of sections looks like -/

section
variable {readMetadata : String → Except String SectionMetadata} {sourcePath : String} {content : List Char}
  {state next : Extraction} {line : Line}

/-- The lines of a section, with the blank lines before it. -/
structure SectionBlock where
  gap : List Line
  opening : Line
  metadata : SectionMetadata
  body : List Line
  closing : Line

def SectionBlock.lines (block : SectionBlock) : List Line :=
  block.gap ++ block.opening :: block.body ++ [block.closing]

structure SectionMetadata.Valid (metadata : SectionMetadata) : Prop where
  named : isBlank metadata.assetId = false
  bound : metadata.slotIds ≠ []
  slots : ∀ slot ∈ metadata.slotIds, isBlank slot = false

structure SectionBlock.WellFormed (readMetadata : String → Except String SectionMetadata)
    (block : SectionBlock) : Prop where
  blank : ∀ line ∈ block.gap, isBlank (trimLineEnd line) = true
  opens : parseMarker readMetadata (trimLineEnd block.opening) = .ok (some (.start block.metadata))
  valid : block.metadata.Valid
  plain : ∀ line ∈ block.body, parseMarker readMetadata (trimLineEnd line) = .ok none
  closes : parseMarker readMetadata (trimLineEnd block.closing) = .ok (some .finish)

/-- The section that a block stands for. -/
def SectionBlock.extracted (sourcePath : String) (block : SectionBlock) : PromptAssetSection where
  assetId := block.metadata.assetId
  slotIds := block.metadata.slotIds
  body := String.ofList (trimStructuralPadding block.body.flatten)
  sourceAnchor := s!"{sourcePath}#{block.metadata.assetId}"

/-- The sections of blocks, by their assets. -/
def collectSections (sourcePath : String) (blocks : List SectionBlock) :
    BTreeMap AssetRef PromptAssetSection :=
  (blocks.map (SectionBlock.extracted sourcePath)).foldl
    (fun sections part => sections.insert part.assetId part) ∅

/-- A file as blocks, with blank lines at the end. -/
structure Sectioned (readMetadata : String → Except String SectionMetadata) (lines : List Line)
    (blocks : List SectionBlock) (gap : List Line) : Prop where
  laid : lines = blocks.flatMap SectionBlock.lines ++ gap
  formed : ∀ block ∈ blocks, block.WellFormed readMetadata
  blank : ∀ line ∈ gap, isBlank (trimLineEnd line) = true
  distinct : (blocks.map fun block => block.metadata.assetId).Nodup

/-! ### One line -/

theorem parseMarker_of_blank {line : String} (blank : isBlank line = true) :
    parseMarker readMetadata line = .ok none := by
  have empty : trim line = "" := by simpa [isBlank] using blank
  rw [parseMarker, empty]
  rfl

/-- The state after lines that only move it on. -/
def Extraction.advance (state : Extraction) (lines : List Line) : Extraction :=
  { state with
    lineStart := state.lineStart + lines.flatten.length
    lineIndex := state.lineIndex + lines.length }

/-- What a line does to the state. -/
inductive LineStep (readMetadata : String → Except String SectionMetadata) (sourcePath : String)
    (content : List Char) (state : Extraction) (line : Line) : Extraction → Prop
  | start {metadata : SectionMetadata}
      (marked : parseMarker readMetadata (trimLineEnd line) = .ok (some (.start metadata)))
      (free : state.currentMetadata = none) (valid : metadata.Valid) :
      LineStep readMetadata sourcePath content state line
        { state.advance [line] with
          currentMetadata := some metadata
          currentBodyStart := state.lineStart + line.length
          currentStartLine := state.lineIndex + 1
          sawSection := true }
  | finish {metadata : SectionMetadata}
      (marked : parseMarker readMetadata (trimLineEnd line) = .ok (some .finish))
      (current : state.currentMetadata = some metadata) (fresh : metadata.assetId ∉ state.sections) :
      LineStep readMetadata sourcePath content state line
        { state.advance [line] with
          currentMetadata := none
          sections := state.sections.insert metadata.assetId
            { assetId := metadata.assetId
              slotIds := metadata.slotIds
              body := String.ofList
                (trimStructuralPadding ((content.take state.lineStart).drop state.currentBodyStart))
              sourceAnchor := s!"{sourcePath}#{metadata.assetId}" } }
  | plain (unmarked : parseMarker readMetadata (trimLineEnd line) = .ok none)
      (inside : state.currentMetadata = none → isBlank (trimLineEnd line) = true) :
      LineStep readMetadata sourcePath content state line (state.advance [line])

theorem startSection_eq_ok {metadata : SectionMetadata} {lineEnd : Nat} :
    startSection sourcePath state lineEnd metadata = .ok next ↔
      state.currentMetadata = none ∧ metadata.Valid ∧ next = { state with
        currentStartLine := state.lineIndex + 1
        currentBodyStart := lineEnd
        currentMetadata := some metadata
        sawSection := true } := by
  unfold startSection
  cases current : state.currentMetadata with
  | some openSection => simp
  | none =>
    dsimp only
    constructor
    · intro ok
      split at ok
      · cases ok
      · rename_i named
        split at ok
        · cases ok
        · rename_i bound
          split at ok
          · cases ok
          · rename_i slots
            cases ok
            rw [Bool.not_eq_true, List.any_eq_false] at slots
            refine ⟨rfl, ⟨Bool.eq_false_iff.mpr named, bound, fun slot member => ?_⟩, rfl⟩
            exact Bool.eq_false_iff.mpr (slots slot member)
    · rintro ⟨_, valid, rfl⟩
      have slots : metadata.slotIds.any isBlank = false :=
        List.any_eq_false.mpr fun slot member => Bool.eq_false_iff.mp (valid.slots slot member)
      rw [if_neg (Bool.eq_false_iff.mp valid.named), if_neg valid.bound, if_neg (Bool.eq_false_iff.mp slots)]

theorem finishSection_eq_ok :
    finishSection sourcePath content state = .ok next ↔
      ∃ metadata, state.currentMetadata = some metadata ∧ metadata.assetId ∉ state.sections ∧
        next = { state with
          currentMetadata := none
          sections := state.sections.insert metadata.assetId
            { assetId := metadata.assetId
              slotIds := metadata.slotIds
              body := String.ofList
                (trimStructuralPadding ((content.take state.lineStart).drop state.currentBodyStart))
              sourceAnchor := s!"{sourcePath}#{metadata.assetId}" } } := by
  unfold finishSection
  cases current : state.currentMetadata with
  | none => simp
  | some metadata =>
    dsimp only
    split
    · rename_i known
      have stored : metadata.assetId ∈ state.sections := Std.ExtTreeMap.contains_iff_mem.mp known
      simp [stored]
    · rename_i fresh
      have missing : metadata.assetId ∉ state.sections := fun stored =>
        fresh (Std.ExtTreeMap.contains_iff_mem.mpr stored)
      simp [missing, eq_comm]

theorem plainLine_eq_ok {line : String} :
    plainLine sourcePath state line = .ok next ↔
      (state.currentMetadata = none → isBlank line = true) ∧ next = state := by
  unfold plainLine
  split
  · rename_i outside
    simp [outside.1, outside.2]
  · rename_i fine
    rw [not_and, Bool.not_eq_false] at fine
    constructor
    · intro ok
      cases ok
      exact ⟨fine, rfl⟩
    · rintro ⟨_, rfl⟩
      rfl

theorem extractLine_iff :
    extractLine readMetadata sourcePath content state line = .ok next ↔
      LineStep readMetadata sourcePath content state line next := by
  have moved : state.advance [line] =
      { state with lineStart := state.lineStart + line.length, lineIndex := state.lineIndex + 1 } := by
    simp [Extraction.advance]
  constructor
  · intro ok
    obtain ⟨marker, marked, ok⟩ := Result.bind_eq_ok ok
    obtain ⟨after, stepped, last⟩ := Result.bind_eq_ok ok
    cases last
    match marker with
    | some (.start metadata) =>
      obtain ⟨free, valid, rfl⟩ := startSection_eq_ok.mp stepped
      have step : LineStep readMetadata sourcePath content state line _ := .start marked free valid
      rwa [moved] at step
    | some .finish =>
      obtain ⟨metadata, current, fresh, rfl⟩ := finishSection_eq_ok.mp stepped
      have step : LineStep readMetadata sourcePath content state line _ := .finish marked current fresh
      rwa [moved] at step
    | none =>
      obtain ⟨inside, rfl⟩ := plainLine_eq_ok.mp stepped
      have step : LineStep readMetadata sourcePath content after line _ := .plain marked inside
      rwa [moved] at step
  · intro step
    cases step with
    | start marked free valid =>
      rw [extractLine, marked, moved]
      simp only [followMarker, startSection_eq_ok.mpr ⟨free, valid, rfl⟩, bind, Except.bind]
      rfl
    | finish marked current fresh =>
      rw [extractLine, marked, moved]
      simp only [followMarker, finishSection_eq_ok.mpr ⟨_, current, fresh, rfl⟩, bind, Except.bind]
      rfl
    | plain unmarked inside =>
      rw [extractLine, unmarked, moved]
      simp only [followMarker, plainLine_eq_ok.mpr ⟨inside, rfl⟩, bind, Except.bind]
      rfl

/-! ### What is laid out as sections is accepted -/

theorem advance_cons (line : Line) (rest : List Line) :
    (state.advance [line]).advance rest = state.advance (line :: rest) := by
  simp only [Extraction.advance, List.flatten_cons, List.flatten_nil, List.append_nil, List.length_append,
    List.length_cons, List.length_nil, Extraction.mk.injEq, true_and]
  omega

/-- Lines that are no markers only move the state on. -/
theorem extract_plain (state : Extraction) {lines : List Line}
    (unmarked : ∀ line ∈ lines, parseMarker readMetadata (trimLineEnd line) = .ok none)
    (inside : state.currentMetadata = none → ∀ line ∈ lines, isBlank (trimLineEnd line) = true) :
    lines.foldlM (extractLine readMetadata sourcePath content) state = .ok (state.advance lines) := by
  induction lines generalizing state with
  | nil => rfl
  | cons line rest ih =>
    have first : extractLine readMetadata sourcePath content state line = .ok (state.advance [line]) :=
      extractLine_iff.mpr (.plain (unmarked line List.mem_cons_self) fun free =>
        inside free line List.mem_cons_self)
    have later := ih (state.advance [line])
      (fun other member => unmarked other (List.mem_cons_of_mem _ member))
      (fun free other member => inside free other (List.mem_cons_of_mem _ member))
    rw [List.foldlM_cons, first]
    exact later.trans (congrArg Except.ok (advance_cons line rest))

theorem extract_blank (state : Extraction) {lines : List Line}
    (blank : ∀ line ∈ lines, isBlank (trimLineEnd line) = true) :
    lines.foldlM (extractLine readMetadata sourcePath content) state = .ok (state.advance lines) :=
  extract_plain state (fun line member => parseMarker_of_blank (blank line member)) fun _ => blank

theorem slice_between (front body back : List Char) :
    ((front ++ (body ++ back)).take (front ++ body).length).drop front.length = body := by
  rw [← List.append_assoc, List.take_left, List.drop_left]

theorem extract_start (sourcePath : String) (content : List Char) (state : Extraction)
    {metadata : SectionMetadata}
    (marked : parseMarker readMetadata (trimLineEnd line) = .ok (some (.start metadata)))
    (free : state.currentMetadata = none) (valid : metadata.Valid) :
    ∃ next, extractLine readMetadata sourcePath content state line = .ok next ∧
      next.currentMetadata = some metadata ∧ next.sections = state.sections ∧ next.sawSection = true ∧
      next.lineStart = state.lineStart + line.length ∧
      next.currentBodyStart = state.lineStart + line.length := by
  refine ⟨_, extractLine_iff.mpr (.start marked free valid), rfl, rfl, rfl, ?_, rfl⟩
  simp [Extraction.advance]

theorem extract_finish (sourcePath : String) (content : List Char) (state : Extraction)
    {metadata : SectionMetadata}
    (marked : parseMarker readMetadata (trimLineEnd line) = .ok (some .finish))
    (current : state.currentMetadata = some metadata) (fresh : metadata.assetId ∉ state.sections) :
    ∃ next, extractLine readMetadata sourcePath content state line = .ok next ∧
      next.currentMetadata = none ∧ next.sawSection = state.sawSection ∧
      next.lineStart = state.lineStart + line.length ∧
      next.sections = state.sections.insert metadata.assetId
        { assetId := metadata.assetId
          slotIds := metadata.slotIds
          body := String.ofList
            (trimStructuralPadding ((content.take state.lineStart).drop state.currentBodyStart))
          sourceAnchor := s!"{sourcePath}#{metadata.assetId}" } := by
  refine ⟨_, extractLine_iff.mpr (.finish marked current fresh), rfl, rfl, ?_, rfl⟩
  simp [Extraction.advance]

/-- The lines of a section add it, whatever comes before and after them. -/
theorem extract_block {block : SectionBlock} {front back : List Char}
    (formed : block.WellFormed readMetadata) (free : state.currentMetadata = none)
    (fresh : block.metadata.assetId ∉ state.sections)
    (placed : content = front ++ (block.lines.flatten ++ back)) (reached : state.lineStart = front.length) :
    ∃ next, block.lines.foldlM (extractLine readMetadata sourcePath content) state = .ok next ∧
      next.currentMetadata = none ∧ next.sawSection = true ∧
      next.lineStart = (front ++ block.lines.flatten).length ∧
      next.sections = state.sections.insert block.metadata.assetId (block.extracted sourcePath) := by
  obtain ⟨gap, opening, metadata, body, closing⟩ := block
  obtain ⟨within, opened, current, held, saw, position, bodyStart⟩ :=
    extract_start sourcePath content (state.advance gap) formed.opens free formed.valid
  have passed : body.foldlM (extractLine readMetadata sourcePath content) within =
      .ok (within.advance body) :=
    extract_plain within formed.plain fun none => by rw [current] at none; cases none
  obtain ⟨next, closed, outside, seen, stopped, added⟩ :=
    extract_finish sourcePath content (within.advance body) formed.closes current (held.symm ▸ fresh)
  have start : within.lineStart = (front ++ (gap ++ [opening]).flatten).length := by
    rw [position]
    simp [Extraction.advance, reached, Nat.add_assoc]
  have stop : (within.advance body).lineStart =
      ((front ++ (gap ++ [opening]).flatten) ++ body.flatten).length := by
    rw [List.length_append, ← start]
    rfl
  have sliced : (content.take (within.advance body).lineStart).drop (within.advance body).currentBodyStart =
      body.flatten := by
    have whole : content = (front ++ (gap ++ [opening]).flatten) ++ (body.flatten ++ (closing ++ back)) := by
      rw [placed]
      simp [SectionBlock.lines]
    have begun : (within.advance body).currentBodyStart = (front ++ (gap ++ [opening]).flatten).length :=
      bodyStart.trans (position.symm.trans start)
    rw [stop, begun, whole]
    exact slice_between _ _ _
  refine ⟨next, ?_, outside, seen.trans saw, ?_, ?_⟩
  · rw [SectionBlock.lines, List.append_assoc, Result.foldlM_append_ok (extract_blank state formed.blank),
      List.cons_append, Result.foldlM_cons_ok opened, Result.foldlM_append_ok passed]
    exact Result.foldlM_singleton.mpr closed
  · rw [stopped, stop, SectionBlock.lines]
    simp [Nat.add_assoc]
  · rw [added, sliced, show (within.advance body).sections = state.sections from held]
    rfl

theorem extract_blocks (sourcePath : String) {blocks : List SectionBlock} {front back : List Char}
    (formed : ∀ block ∈ blocks, block.WellFormed readMetadata) (free : state.currentMetadata = none)
    (distinct : (blocks.map fun block => block.metadata.assetId).Nodup)
    (fresh : ∀ block ∈ blocks, block.metadata.assetId ∉ state.sections)
    (placed : content = front ++ ((blocks.flatMap SectionBlock.lines).flatten ++ back))
    (reached : state.lineStart = front.length) :
    ∃ next, (blocks.flatMap SectionBlock.lines).foldlM (extractLine readMetadata sourcePath content) state =
        .ok next ∧
      next.currentMetadata = none ∧ next.sawSection = (state.sawSection || !blocks.isEmpty) ∧
      next.sections = (blocks.map (SectionBlock.extracted sourcePath)).foldl
        (fun sections part => sections.insert part.assetId part) state.sections := by
  induction blocks generalizing state front with
  | nil => exact ⟨state, rfl, free, by simp, rfl⟩
  | cons block rest ih =>
    obtain ⟨unlike, distinct⟩ := List.nodup_cons.mp distinct
    rw [List.flatMap_cons, List.flatten_append, List.append_assoc] at placed
    obtain ⟨between, first, outside, saw, position, added⟩ :=
      extract_block (formed block List.mem_cons_self) free (fresh block List.mem_cons_self) placed reached
    have still : ∀ other ∈ rest, other.metadata.assetId ∉ between.sections := by
      intro other member
      rw [added, Std.ExtTreeMap.mem_insert, Std.compare_eq_iff_eq, not_or]
      refine ⟨fun same => unlike ?_, fresh other (List.mem_cons_of_mem _ member)⟩
      exact List.mem_map.mpr ⟨other, member, same.symm⟩
    rw [← List.append_assoc] at placed
    obtain ⟨next, later, final, known, collected⟩ :=
      ih (fun other member => formed other (List.mem_cons_of_mem _ member)) outside distinct still placed
        position
    refine ⟨next, ?_, final, by simp [known, saw], ?_⟩
    · rw [List.flatMap_cons, Result.foldlM_append_ok first]
      exact later
    · rw [collected, added]
      rfl

/-! ### What is accepted is laid out as sections -/

/-- What the state stands for after the lines seen so far. -/
inductive Reads (readMetadata : String → Except String SectionMetadata) (sourcePath : String)
    (seen : List Line) (state : Extraction) : Prop
  | between {blocks : List SectionBlock} {gap : List Line}
      (sectioned : Sectioned readMetadata seen blocks gap) (free : state.currentMetadata = none)
      (held : state.sections = collectSections sourcePath blocks)
      (saw : state.sawSection = true ↔ blocks ≠ [])
  | within {blocks : List SectionBlock} {gap before : List Line} {opening : Line}
      {metadata : SectionMetadata} {body : List Line}
      (sectioned : Sectioned readMetadata before blocks gap) (laid : seen = before ++ opening :: body)
      (opens : parseMarker readMetadata (trimLineEnd opening) = .ok (some (.start metadata)))
      (valid : metadata.Valid)
      (plain : ∀ line ∈ body, parseMarker readMetadata (trimLineEnd line) = .ok none)
      (current : state.currentMetadata = some metadata)
      (start : state.currentBodyStart = (before ++ [opening]).flatten.length)
      (held : state.sections = collectSections sourcePath blocks) (saw : state.sawSection = true)

theorem mem_collectSections {blocks : List SectionBlock} {assetId : AssetRef} :
    assetId ∈ collectSections sourcePath blocks ↔ ∃ block ∈ blocks, block.metadata.assetId = assetId := by
  rw [collectSections, OrdMap.mem_insertAll (fun part : PromptAssetSection => part.assetId)]
  simp [SectionBlock.extracted]

theorem collectSections_concat (blocks : List SectionBlock) (block : SectionBlock) :
    collectSections sourcePath (blocks ++ [block]) =
      (collectSections sourcePath blocks).insert block.metadata.assetId (block.extracted sourcePath) := by
  rw [collectSections, List.map_append, List.foldl_append]
  rfl

/-- A blank line goes to the gap at the end. -/
theorem Sectioned.blankLine {seen gap : List Line} {blocks : List SectionBlock}
    (sectioned : Sectioned readMetadata seen blocks gap) (blank : isBlank (trimLineEnd line) = true) :
    Sectioned readMetadata (seen ++ [line]) blocks (gap ++ [line]) where
  laid := by rw [sectioned.laid, List.append_assoc]
  formed := sectioned.formed
  blank := by
    intro other member
    rcases List.mem_append.mp member with before | last
    · exact sectioned.blank other before
    · rwa [List.mem_singleton.mp last]
  distinct := sectioned.distinct

/-- The gap at the end comes before the next section. -/
theorem Sectioned.concat {before gap body : List Line} {blocks : List SectionBlock} {opening : Line}
    {metadata : SectionMetadata} (sectioned : Sectioned readMetadata before blocks gap)
    (opens : parseMarker readMetadata (trimLineEnd opening) = .ok (some (.start metadata)))
    (valid : metadata.Valid)
    (plain : ∀ line ∈ body, parseMarker readMetadata (trimLineEnd line) = .ok none)
    (closes : parseMarker readMetadata (trimLineEnd line) = .ok (some .finish))
    (fresh : metadata.assetId ∉ collectSections sourcePath blocks) :
    Sectioned readMetadata (before ++ opening :: body ++ [line])
      (blocks ++ [⟨gap, opening, metadata, body, line⟩]) [] where
  laid := by
    rw [sectioned.laid]
    simp [SectionBlock.lines]
  formed := by
    intro block member
    rcases List.mem_append.mp member with earlier | last
    · exact sectioned.formed block earlier
    · rw [List.mem_singleton.mp last]
      exact ⟨sectioned.blank, opens, valid, plain, closes⟩
  blank := fun _ member => absurd member List.not_mem_nil
  distinct := by
    rw [List.map_append, List.map_singleton]
    refine List.Nodup.append sectioned.distinct (List.nodup_singleton _) ?_
    intro assetId earlier last
    obtain ⟨block, member, same⟩ := List.mem_map.mp earlier
    exact fresh (mem_collectSections.mpr ⟨block, member, same.trans (List.mem_singleton.mp last)⟩)

theorem reads_step {seen : List Line} (reads : Reads readMetadata sourcePath seen state)
    (reached : state.lineStart = seen.flatten.length) (placed : seen.flatten <+: content)
    (step : LineStep readMetadata sourcePath content state line next) :
    Reads readMetadata sourcePath (seen ++ [line]) next := by
  cases reads with
  | between sectioned free held saw =>
    cases step with
    | start marked _ valid =>
      refine .within sectioned rfl marked valid (fun _ member => absurd member List.not_mem_nil) rfl ?_ held
        rfl
      simp [reached]
    | finish _ current _ =>
      rw [free] at current
      cases current
    | plain _ inside => exact .between (sectioned.blankLine (inside free)) free held saw
  | within sectioned laid opens valid plain current start held saw =>
    rename_i blocks gap before opening metadata body
    cases step with
    | start _ free _ =>
      rw [free] at current
      cases current
    | finish marked known fresh =>
      rw [current] at known
      cases known
      rw [held] at fresh
      have sliced : (content.take state.lineStart).drop state.currentBodyStart = body.flatten := by
        obtain ⟨back, rfl⟩ := placed
        have whole : seen.flatten = (before ++ [opening]).flatten ++ body.flatten := by
          rw [laid]
          simp
        rw [reached, start, whole, List.take_left, List.drop_left]
      rw [laid]
      refine .between (sectioned.concat opens valid plain marked fresh) rfl ?_ ?_
      · rw [collectSections_concat, ← held, sliced]
        rfl
      · simp [saw, Extraction.advance]
    | plain unmarked _ =>
      have longer : seen ++ [line] = before ++ opening :: (body ++ [line]) := by
        rw [laid, List.append_assoc]
        rfl
      refine .within sectioned longer opens valid ?_ current start held saw
      intro other member
      rcases List.mem_append.mp member with before | last
      · exact plain other before
      · exact List.mem_singleton.mp last ▸ unmarked

theorem extractLine_lineStart (ok : extractLine readMetadata sourcePath content state line = .ok next) :
    next.lineStart = state.lineStart + line.length := by
  obtain ⟨_, _, ok⟩ := Result.bind_eq_ok ok
  obtain ⟨_, _, last⟩ := Result.bind_eq_ok ok
  cases last
  rfl

theorem reads_initial : Reads readMetadata sourcePath [] .initial := by
  have empty : Sectioned readMetadata [] [] [] := by
    constructor
    · rfl
    · simp
    · simp
    · exact List.nodup_nil
  refine .between empty rfl rfl ?_
  simp [Extraction.initial]

theorem reads_lines {seen : List Line} (placed : seen.flatten <+: content)
    (ok : seen.foldlM (extractLine readMetadata sourcePath content) .initial = .ok state) :
    Reads readMetadata sourcePath seen state ∧ state.lineStart = seen.flatten.length := by
  induction seen using List.reverseRecOn generalizing state with
  | nil =>
    rw [List.foldlM_nil] at ok
    cases ok
    exact ⟨reads_initial, rfl⟩
  | append_singleton seen line ih =>
    rw [List.foldlM_append] at ok
    obtain ⟨between, first, last⟩ := Result.bind_eq_ok ok
    have read := Result.foldlM_singleton.mp last
    have inside : seen.flatten <+: content := by
      rw [List.flatten_append] at placed
      exact (List.prefix_append _ _).trans placed
    obtain ⟨reads, reached⟩ := ih inside first
    refine ⟨reads_step reads reached inside (extractLine_iff.mp read), ?_⟩
    simp [extractLine_lineStart read, reached]

end

variable {readMetadata : String → Except String SectionMetadata} {sourcePath content : String}
  {sections : BTreeMap AssetRef PromptAssetSection}

theorem endTemplate_eq_ok {final : Extraction} :
    endTemplate sourcePath final = .ok sections ↔
      final.currentMetadata = none ∧ final.sawSection = true ∧ sections = final.sections := by
  unfold endTemplate
  cases final.currentMetadata with
  | some metadata => simp
  | none =>
    cases final.sawSection with
    | false => simp
    | true => simp [eq_comm]

theorem extract_sound (ok : extractAssetSections readMetadata sourcePath content = .ok sections) :
    ∃ blocks gap, blocks ≠ [] ∧
      Sectioned readMetadata (Lines.splitInclusive '\n' content.toList) blocks gap ∧
      sections = collectSections sourcePath blocks := by
  obtain ⟨final, read, ok⟩ := Result.bind_eq_ok ok
  obtain ⟨none, seen, rfl⟩ := endTemplate_eq_ok.mp ok
  have placed : (Lines.splitInclusive '\n' content.toList).flatten <+: content.toList :=
    ⟨[], by rw [List.append_nil, Lines.flatten_splitInclusive]⟩
  obtain ⟨reads, _⟩ := reads_lines placed read
  cases reads with
  | within _ _ _ _ _ current _ _ _ =>
    rw [none] at current
    cases current
  | between sectioned free held saw => exact ⟨_, _, saw.mp seen, sectioned, held⟩

theorem extract_complete {blocks : List SectionBlock} {gap : List Line} (nonempty : blocks ≠ [])
    (sectioned : Sectioned readMetadata (Lines.splitInclusive '\n' content.toList) blocks gap) :
    extractAssetSections readMetadata sourcePath content = .ok (collectSections sourcePath blocks) := by
  have placed : content.toList = [] ++ ((blocks.flatMap SectionBlock.lines).flatten ++ gap.flatten) := by
    rw [List.nil_append, ← List.flatten_append, ← sectioned.laid, Lines.flatten_splitInclusive]
  have unknown : ∀ block ∈ blocks, block.metadata.assetId ∉ Extraction.initial.sections :=
    fun _ _ => Std.ExtTreeMap.not_mem_empty
  obtain ⟨final, read, free, saw, held⟩ :=
    extract_blocks sourcePath sectioned.formed rfl sectioned.distinct unknown placed rfl
  have seen : final.sawSection = true := by
    cases blocks with
    | nil => exact absurd rfl nonempty
    | cons block rest => simp [saw]
  rw [extractAssetSections, sectioned.laid, Result.foldlM_append_ok read, extract_blank final sectioned.blank]
  exact endTemplate_eq_ok.mpr ⟨free, seen, held.symm⟩

/-- A template is accepted exactly if its lines are sections with blank lines between them, and then what
is returned for an asset are the lines between its markers. -/
theorem extract_asset_sections_iff :
    extractAssetSections readMetadata sourcePath content = .ok sections ↔
      ∃ blocks gap, blocks ≠ [] ∧
        Sectioned readMetadata (Lines.splitInclusive '\n' content.toList) blocks gap ∧
        sections = collectSections sourcePath blocks := by
  constructor
  · exact extract_sound
  · rintro ⟨blocks, gap, nonempty, sectioned, rfl⟩
    exact extract_complete nonempty sectioned

end Aise.Domain.Prompt
