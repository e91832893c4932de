import Aise.Lib.Lines
import Aise.Lib.Utf8
import Aise.Llm.Gateway

/-! A completion that arrives as a stream. The network cuts the body into chunks anywhere; the
decoder keeps the bytes after the last line feed, and reads a line when it is complete. -/
namespace Aise.Domain
open RustText Saturating Effect Utf8 Lines

structure LlmProtocolLimits where
  maxSseLineBytes : UInt64
  maxStreamBufferBytes : UInt64
  maxContentBytes : UInt64
  maxReasoningBytes : UInt64

/-! ### What a line of data says -/

structure PromptTokensDetails where
  cachedTokens : Option UInt64

structure CompletionTokensDetails where
  reasoningTokens : Option UInt64

structure ResponseUsage where
  promptTokens : UInt64
  completionTokens : UInt64
  totalTokens : Option UInt64
  promptTokensDetails : Option PromptTokensDetails
  completionTokensDetails : Option CompletionTokensDetails

def responseUsageToTokenUsage (usage : ResponseUsage) : LlmTokenUsage where
  inputTokens := usage.promptTokens
  cachedInputTokens := usage.promptTokensDetails.bind (·.cachedTokens)
  outputTokens := usage.completionTokens
  reasoningTokens := usage.completionTokensDetails.bind (·.reasoningTokens)
  totalTokens := usage.totalTokens.getD (add usage.promptTokens usage.completionTokens)
  accuracy := .exact

structure StreamDelta where
  content : Option String
  reasoningContent : Option String

structure StreamChoice where
  delta : StreamDelta
  finishReason : Option String

structure StreamChunk where
  choices : List StreamChoice
  usage : Option ResponseUsage

def parseFinishReason (value : String) : Except LlmProviderError FinishReason :=
  if value = "stop" then .ok .stop
  else if value = "length" then .ok .length
  else if value = "content_filter" then .ok .contentFilter
  else if value = "tool_calls" then .ok .toolCalls
  else .error (.protocol .unsupported)

/-- `fromStr` is `serde_json::from_str(..).ok()`. -/
def parseStreamChunk (fromStr : String → Option StreamChunk) (data : String) :
    Except LlmProviderError (Option StreamChunk) :=
  match fromStr data with
  | none => .error (.protocol .invalidJson)
  | some chunk => .ok (if chunk.choices.isEmpty ∧ chunk.usage.isNone then none else some chunk)

/-- `line.strip_prefix("data: ").map(str::trim)`. -/
def dataOf (line : String) : Option String :=
  if "data: ".toList.isPrefixOf line.toList then
    some (trim (String.ofList (line.toList.drop "data: ".toList.length)))
  else none

/-! ### The decoding loop -/

/-- The variables of the loop that a line can change, with the deltas that were passed on. -/
structure Reply where
  text : String := ""
  reasoning : String := ""
  finishReason : Option FinishReason := none
  usage : Option LlmTokenUsage := none
  deltas : List String := []

/-- `stream_completion`. -/
def Reply.completion (reply : Reply) : LlmCompletion where
  text := reply.text
  finishReason := reply.finishReason
  reasoningContent := if isBlank reply.reasoning then none else some reply.reasoning
  usage := reply.usage

structure Streaming where
  buf : List UInt8 := []
  reply : Reply := {}

abbrev StreamM := EStateM LlmProviderError Streaming

def lineFeed : UInt8 := 10

/-- One round of the loop of `extract_sse_lines`, with the lines, the start of the next and the bytes
that were consumed. -/
def extractRound (buf : List UInt8) (maxLineBytes : UInt64) :
    List String × Nat × Nat → Nat → Except LlmProviderError (List String × Nat × Nat)
  | (lines, start, consumed), i =>
    if maxLineBytes.toNat < i - start then .error (.responseLimitExceeded .sseLine)
    else if buf[i]? = some lineFeed then
      match decode ((buf.take i).drop start) with
      | some line => .ok (lines ++ [line], i + 1, i + 1)
      | none => .error (.protocol .invalidSseLine)
    else .ok (lines, start, consumed)

/-- The lines, and what is left in the buffer. -/
def extractSseLines (buf : List UInt8) (maxLineBytes : UInt64) :
    Except LlmProviderError (List String × List UInt8) := do
  let (lines, _, consumed) ←
    (List.range buf.length).foldlM (extractRound buf maxLineBytes) ([], 0, 0)
  .ok (lines, buf.drop consumed)

section
variable (limits : LlmProtocolLimits) (fromStr : String → Option StreamChunk)

def readContent : Option String → StreamM Unit
  | none => pure ⟨⟩
  | some content => do
    let state ← get
    throwIf (limits.maxContentBytes < add (clamp64 (len state.reply.text)) (clamp64 (len content)))
      (.responseLimitExceeded .content)
    modify fun state => { state with
      reply.deltas := state.reply.deltas ++ [content]
      reply.text := state.reply.text ++ content }

def readReasoning : Option String → StreamM Unit
  | none => pure ⟨⟩
  | some delta => do
    let state ← get
    throwIf (limits.maxReasoningBytes <
      add (clamp64 (len state.reply.reasoning)) (clamp64 (len delta)))
      (.responseLimitExceeded .reasoning)
    modify fun state => { state with reply.reasoning := state.reply.reasoning ++ delta }

def readFinish : Option String → StreamM Unit
  | none => pure ⟨⟩
  | some reason => do
    let finishReason ← orThrow (parseFinishReason reason) id
    modify fun state => { state with reply.finishReason := some finishReason }

def readUsage : Option ResponseUsage → StreamM Unit
  | none => pure ⟨⟩
  | some usage =>
    modify fun state => { state with reply.usage := some (responseUsageToTokenUsage usage) }

def readChunk (chunk : StreamChunk) : StreamM Unit :=
  match chunk.choices.head? with
  | none => readUsage chunk.usage
  | some choice => do
    readContent limits choice.delta.content
    readReasoning limits choice.delta.reasoningContent
    readFinish choice.finishReason
    readUsage chunk.usage

/-- Whether the line is the last one. -/
def readLine (line : String) : StreamM Bool :=
  match dataOf line with
  | none => pure false
  | some data =>
    if data = "[DONE]" then pure true
    else do
      let parsed ← orThrow (parseStreamChunk fromStr data) id
      match parsed with
      | none => pure false
      | some chunk => do
        readChunk limits chunk
        pure false

def readLines : List String → StreamM Bool
  | [] => pure false
  | line :: lines => do
    if ← readLine limits fromStr line then pure true else readLines lines

/-- The chunk goes to the end of the buffer, and complete lines are taken from its front. -/
def fill (chunk : List UInt8) : StreamM (List String) := do
  let state ← get
  throwIf (limits.maxStreamBufferBytes < add (clamp64 state.buf.length) (clamp64 chunk.length))
    (.responseLimitExceeded .streamBuffer)
  set { state with buf := state.buf ++ chunk }
  let (lines, buf) ← orThrow (extractSseLines (state.buf ++ chunk) limits.maxSseLineBytes) id
  set { state with buf }
  return lines

/-- The loop of `complete_stream` over what the network delivers. -/
def completeStream : List (Except LlmTransportErrorKind (List UInt8)) → StreamM LlmCompletion
  | [] => return (← get).reply.completion
  | item :: rest => do
    let chunk ← orThrow item .transport
    let lines ← fill limits chunk
    if ← readLines limits fromStr lines then return (← get).reply.completion
    else completeStream rest

end

/-! ### Lines of the whole body -/

namespace Reply

def withContent (reply : Reply) : Option String → Reply
  | some content =>
    { reply with deltas := reply.deltas ++ [content], text := reply.text ++ content }
  | none => reply

def withReasoning (reply : Reply) : Option String → Reply
  | some delta => { reply with reasoning := reply.reasoning ++ delta }
  | none => reply

def withFinish (reply : Reply) : Option String → Reply
  | some reason => { reply with finishReason := (parseFinishReason reason).toOption }
  | none => reply

def withUsage (reply : Reply) : Option ResponseUsage → Reply
  | some usage => { reply with usage := some (responseUsageToTokenUsage usage) }
  | none => reply

def withChunk (reply : Reply) (chunk : StreamChunk) : Reply :=
  match chunk.choices.head? with
  | none => reply.withUsage chunk.usage
  | some choice =>
    (((reply.withContent choice.delta.content).withReasoning
      choice.delta.reasoningContent).withFinish choice.finishReason).withUsage chunk.usage

/-- The data lines, one after the other, up to the first that says `[DONE]`. -/
def withLines (fromStr : String → Option StreamChunk) (reply : Reply) : List (List UInt8) → Reply
  | [] => reply
  | line :: lines =>
    match (decode line).bind dataOf with
    | none => withLines fromStr reply lines
    | some data =>
      if data = "[DONE]" then reply
      else withLines fromStr ((fromStr data).elim reply reply.withChunk) lines

end Reply

/-- What the lines of a whole body say. -/
def replyTo (fromStr : String → Option StreamChunk) (body : List UInt8) : Reply :=
  ({} : Reply).withLines fromStr (cut lineFeed body).1

def IsDone (line : List UInt8) : Prop := (decode line).bind dataOf = some "[DONE]"

section
variable {limits : LlmProtocolLimits} {fromStr : String → Option StreamChunk} {reply : Reply}
  {state last : Streaming}

/-! ### Lines of the buffer -/

/-- Where the loop of `extract_sse_lines` is after some rounds. -/
structure Extracted (seen : List UInt8) (state : List String × Nat × Nat) : Prop where
  lines : state.1.map encode = (cut lineFeed seen).1
  rest : seen.drop state.2.1 = (cut lineFeed seen).2
  start_le : state.2.1 ≤ seen.length
  consumed : state.2.2 = state.2.1

theorem extractRound_keeps {buf : List UInt8} {maxLineBytes : UInt64} {i : Nat} (inside : i < buf.length)
    {before after : List String × Nat × Nat} (extracted : Extracted (buf.take i) before)
    (round : extractRound buf maxLineBytes before i = .ok after) :
    Extracted (buf.take (i + 1)) after := by
  obtain ⟨lines, start, consumed⟩ := before
  obtain ⟨pieces, rest, start_le, same⟩ := extracted
  dsimp only at pieces rest start_le same
  have longer : buf.take (i + 1) = buf.take i ++ [buf[i]] := by
    rw [List.take_add_one, List.getElem?_eq_getElem inside]
    rfl
  have length : (buf.take i).length = i := by
    rw [List.length_take]
    omega
  rw [extractRound] at round
  split at round
  · cases round
  · split at round
    · rename_i feed
      have mark : buf[i] = lineFeed := by
        rw [List.getElem?_eq_getElem inside] at feed
        exact Option.some.inj feed
      split at round
      · rename_i line decoded
        cases round
        rw [longer]
        refine ⟨?_, ?_, ?_, rfl⟩
        · rw [cut_concat, if_pos mark, List.map_append, pieces, ← rest, ← decode_eq_some.mp decoded]
          rfl
        · rw [cut_concat, if_pos mark]
          apply List.drop_eq_nil_of_le
          rw [List.length_append, length, List.length_singleton]
        · rw [List.length_append, length, List.length_singleton]
      · cases round
    · rename_i other
      have plain : buf[i] ≠ lineFeed := by
        intro mark
        rw [List.getElem?_eq_getElem inside, mark] at other
        exact other rfl
      cases round
      rw [longer]
      refine ⟨?_, ?_, ?_, same⟩
      · rw [cut_concat, if_neg plain]
        exact pieces
      · rw [cut_concat, if_neg plain, List.drop_append_of_le_length start_le, rest]
      · rw [List.length_append]
        exact start_le.trans (Nat.le_add_right _ _)

theorem extractSseLines_eq_ok {buf rest : List UInt8} {maxLineBytes : UInt64} {lines : List String}
    (ran : extractSseLines buf maxLineBytes = .ok (lines, rest)) :
    lines.map encode = (cut lineFeed buf).1 ∧ rest = (cut lineFeed buf).2 := by
  have rounds (n : Nat) (le : n ≤ buf.length) {state : List String × Nat × Nat} :
      (List.range n).foldlM (extractRound buf maxLineBytes) ([], 0, 0) = .ok state →
        Extracted (buf.take n) state := by
    induction n generalizing state with
    | zero =>
      intro ran
      cases ran
      exact ⟨rfl, rfl, Nat.le_refl _, rfl⟩
    | succ n ih =>
      intro ran
      rw [List.range_succ, List.foldlM_append] at ran
      obtain ⟨before, ran, round⟩ := Result.bind_eq_ok ran
      have inside : n < buf.length := Nat.lt_of_succ_le le
      exact extractRound_keeps inside (ih (Nat.le_of_lt inside) ran)
        (Result.foldlM_singleton.mp round)
  obtain ⟨⟨found, start, consumed⟩, looped, done⟩ := Result.bind_eq_ok ran
  cases done
  obtain ⟨pieces, rest, -, same⟩ := rounds buf.length (Nat.le_refl _) looped
  dsimp only at pieces rest same
  rw [List.take_length] at pieces rest
  exact ⟨pieces, same ▸ rest⟩

theorem fill_ok {chunk : List UInt8} {lines : List String}
    (ran : fill limits chunk state = .ok lines last) :
    lines.map encode = (cut lineFeed (state.buf ++ chunk)).1 ∧
      last = { state with buf := (cut lineFeed (state.buf ++ chunk)).2 } := by
  unfold fill at ran
  rw [run_get_bind, run_throwIf_bind] at ran
  split at ran
  · cases ran
  · rw [run_set_bind] at ran
    obtain ⟨⟨found, rest⟩, between, threw, ran⟩ := run_bind_eq_ok ran
    obtain ⟨extracted, rfl⟩ := orThrow_eq_ok threw
    obtain ⟨pieces, rfl⟩ := extractSseLines_eq_ok extracted
    cases ran
    exact ⟨pieces, rfl⟩

/-! ### One line -/

/-- What is kept within a limit is kept as it is. -/
theorem limited_ok {beyond : Streaming → Prop} [DecidablePred beyond] {failure : LlmProviderError}
    {change : Streaming → Streaming}
    (ran : (do
      let state ← get
      throwIf (beyond state) failure
      modify change : StreamM Unit) state = .ok ⟨⟩ last) : last = change state := by
  rw [run_get_bind, run_throwIf_bind] at ran
  split at ran
  · cases ran
  · cases ran
    rfl

theorem readContent_ok {content : Option String} (ran : readContent limits content state = .ok ⟨⟩ last) :
    last = { state with reply := state.reply.withContent content } := by
  cases content with
  | none =>
    cases ran
    rfl
  | some content => exact limited_ok ran

theorem readReasoning_ok {delta : Option String} (ran : readReasoning limits delta state = .ok ⟨⟩ last) :
    last = { state with reply := state.reply.withReasoning delta } := by
  cases delta with
  | none =>
    cases ran
    rfl
  | some delta => exact limited_ok ran

theorem readFinish_ok {reason : Option String} (ran : readFinish reason state = .ok ⟨⟩ last) :
    last = { state with reply := state.reply.withFinish reason } := by
  cases reason with
  | none =>
    cases ran
    rfl
  | some reason =>
    rw [readFinish] at ran
    obtain ⟨finishReason, between, threw, modified⟩ := run_bind_eq_ok ran
    obtain ⟨parsed, rfl⟩ := orThrow_eq_ok threw
    cases modified
    rw [Reply.withFinish, parsed]
    rfl

theorem readUsage_ok {usage : Option ResponseUsage} (ran : readUsage usage state = .ok ⟨⟩ last) :
    last = { state with reply := state.reply.withUsage usage } := by
  cases usage with
  | none =>
    cases ran
    rfl
  | some usage =>
    cases ran
    rfl

theorem readChunk_ok {chunk : StreamChunk} (ran : readChunk limits chunk state = .ok ⟨⟩ last) :
    last = { state with reply := state.reply.withChunk chunk } := by
  rw [readChunk] at ran
  rw [Reply.withChunk]
  cases first : chunk.choices.head? with
  | none =>
    rw [first] at ran
    exact readUsage_ok ran
  | some choice =>
    rw [first] at ran
    obtain ⟨⟨⟩, second, content, ran⟩ := run_bind_eq_ok ran
    obtain ⟨⟨⟩, third, reasoning, ran⟩ := run_bind_eq_ok ran
    obtain ⟨⟨⟩, fourth, finish, ran⟩ := run_bind_eq_ok ran
    obtain rfl := readContent_ok content
    obtain rfl := readReasoning_ok reasoning
    obtain rfl := readFinish_ok finish
    exact readUsage_ok ran

/-- A chunk that `parse_stream_chunk` passes over says nothing. -/
theorem parseStreamChunk_eq_ok {data : String} {parsed : Option StreamChunk}
    (ran : parseStreamChunk fromStr data = .ok parsed) :
    ∃ chunk, fromStr data = some chunk ∧
      (parsed = some chunk ∨ parsed = none ∧ ∀ reply : Reply, reply.withChunk chunk = reply) := by
  unfold parseStreamChunk at ran
  split at ran
  · cases ran
  · rename_i chunk read
    refine ⟨chunk, read, ?_⟩
    cases ran
    split
    · rename_i idle
      refine .inr ⟨rfl, fun reply => ?_⟩
      obtain ⟨choices, usage⟩ := chunk
      obtain ⟨no_choices, no_usage⟩ := idle
      obtain rfl := List.isEmpty_iff.mp no_choices
      obtain rfl := Option.isNone_iff_eq_none.mp no_usage
      rfl
    · exact .inl rfl

theorem withLines_done {line : List UInt8} (done : IsDone line) (lines : List (List UInt8)) :
    reply.withLines fromStr (line :: lines) = reply := by
  rw [Reply.withLines, done]
  exact if_pos rfl

theorem withLines_cons {line : List UInt8} (further : ¬IsDone line) (lines : List (List UInt8)) :
    reply.withLines fromStr (line :: lines) =
      (reply.withLines fromStr [line]).withLines fromStr lines := by
  rw [Reply.withLines, Reply.withLines]
  cases said : (decode line).bind dataOf with
  | none => rfl
  | some data =>
    have other : data ≠ "[DONE]" := fun stop => further (said.trans (congrArg some stop))
    dsimp only
    rw [if_neg other, if_neg other]
    rfl

theorem readLine_ok {line : String} {done : Bool}
    (ran : readLine limits fromStr line state = .ok done last) :
    (done = true ↔ IsDone (encode line)) ∧
      last = { state with reply := state.reply.withLines fromStr [encode line] } := by
  rw [readLine] at ran
  rw [IsDone, Reply.withLines, decode_encode, Option.bind_some]
  cases said : dataOf line with
  | none =>
    rw [said] at ran
    cases ran
    exact ⟨by simp, rfl⟩
  | some data =>
    rw [said] at ran
    dsimp only at ran ⊢
    split at ran
    · rename_i stop
      cases ran
      rw [if_pos stop, stop]
      exact ⟨by simp, rfl⟩
    · rename_i further
      rw [if_neg further]
      obtain ⟨parsed, between, threw, ran⟩ := run_bind_eq_ok ran
      obtain ⟨checked, rfl⟩ := orThrow_eq_ok threw
      obtain ⟨chunk, read, either⟩ := parseStreamChunk_eq_ok checked
      rw [read]
      have goes_on : false = true ↔ some data = some "[DONE]" := by simpa using further
      rcases either with rfl | ⟨rfl, idle⟩
      · obtain ⟨⟨⟩, after, absorbed, ended⟩ := run_bind_eq_ok ran
        obtain rfl := readChunk_ok absorbed
        cases ended
        exact ⟨goes_on, rfl⟩
      · cases ran
        refine ⟨goes_on, ?_⟩
        rw [Option.elim_some, idle]
        rfl

/-! ### All lines -/

theorem withLines_append {lines : List (List UInt8)} (further : ∀ line ∈ lines, ¬IsDone line)
    (more : List (List UInt8)) :
    reply.withLines fromStr (lines ++ more) =
      (reply.withLines fromStr lines).withLines fromStr more := by
  induction lines generalizing reply with
  | nil => rfl
  | cons line lines ih =>
    obtain ⟨first, rest⟩ := List.forall_mem_cons.mp further
    rw [List.cons_append, withLines_cons first, withLines_cons first lines, ih rest]

/-- Nothing is read after the line that says so. -/
theorem withLines_append_done {lines : List (List UInt8)} (stops : ∃ line ∈ lines, IsDone line)
    (more : List (List UInt8)) :
    reply.withLines fromStr (lines ++ more) = reply.withLines fromStr lines := by
  induction lines generalizing reply with
  | nil =>
    obtain ⟨line, member, _⟩ := stops
    cases member
  | cons line lines ih =>
    rw [List.cons_append]
    by_cases done : IsDone line
    · rw [withLines_done done, withLines_done done]
    · obtain ⟨other, member, stop⟩ := stops
      have later : other ∈ lines := by
        rcases List.mem_cons.mp member with rfl | later
        · exact absurd stop done
        · exact later
      rw [withLines_cons done, withLines_cons done lines, ih ⟨other, later, stop⟩]

theorem readLines_ok {lines : List String} {done : Bool}
    (ran : readLines limits fromStr lines state = .ok done last) :
    (done = true ↔ ∃ line ∈ lines.map encode, IsDone line) ∧
      last = { state with reply := state.reply.withLines fromStr (lines.map encode) } := by
  induction lines generalizing state with
  | nil =>
    cases ran
    exact ⟨by simp, rfl⟩
  | cons line lines ih =>
    rw [readLines] at ran
    obtain ⟨stopped, between, here, ran⟩ := run_bind_eq_ok ran
    obtain ⟨stops, rfl⟩ := readLine_ok here
    rw [List.map_cons, List.exists_mem_cons_iff, ← stops]
    cases stopped with
    | true =>
      cases ran
      have done := stops.mp rfl
      exact ⟨by simp, by rw [withLines_done done, withLines_done done]⟩
    | false =>
      have further : ¬IsDone (encode line) := fun done => Bool.false_ne_true (stops.mpr done)
      obtain ⟨later, rfl⟩ := ih ran
      exact ⟨by simp [later], by rw [withLines_cons further (lines.map encode)]⟩

/-- A run that succeeds has read the lines of what was in the buffer and of all chunks. -/
theorem completeStream_ok {chunks : List (List UInt8)} {completion : LlmCompletion}
    (plain : lineFeed ∉ state.buf)
    (ran : completeStream limits fromStr (chunks.map .ok) state = .ok completion last) :
    completion = last.reply.completion ∧ last.reply =
      state.reply.withLines fromStr (cut lineFeed (state.buf ++ chunks.flatten)).1 := by
  induction chunks generalizing state with
  | nil =>
    cases ran
    rw [List.flatten_nil, List.append_nil, cut_of_not_mem plain]
    exact ⟨rfl, rfl⟩
  | cons chunk chunks ih =>
    rw [List.map_cons, completeStream] at ran
    obtain ⟨given, between, threw, ran⟩ := run_bind_eq_ok ran
    obtain ⟨delivered, rfl⟩ := orThrow_eq_ok threw
    cases delivered
    obtain ⟨lines, filled, extracted, ran⟩ := run_bind_eq_ok ran
    obtain ⟨pieces, rfl⟩ := fill_ok extracted
    obtain ⟨done, after, read, ran⟩ := run_bind_eq_ok ran
    obtain ⟨stops, rfl⟩ := readLines_ok read
    rw [pieces] at stops ran
    rw [List.flatten_cons, ← List.append_assoc, cut_append]
    cases done with
    | true =>
      cases ran
      rw [withLines_append_done (stops.mp rfl)]
      exact ⟨rfl, rfl⟩
    | false =>
      obtain ⟨same, later⟩ := ih (not_mem_cut _) ran
      have further : ∀ line ∈ (cut lineFeed (between.buf ++ chunk)).1, ¬IsDone line :=
        fun line member done => Bool.false_ne_true (stops.mpr ⟨line, member, done⟩)
      rw [withLines_append further]
      exact ⟨same, later⟩

/-! ### Rounds of the loop -/

/-- The loop goes on after these chunks, in this state. -/
inductive Reads (limits : LlmProtocolLimits) (fromStr : String → Option StreamChunk) :
    List (List UInt8) → Streaming → Prop
  | start : Reads limits fromStr [] {}
  | next {chunks : List (List UInt8)} {chunk : List UInt8} {lines : List String}
      {before filled after : Streaming} (reads : Reads limits fromStr chunks before)
      (extracts : fill limits chunk before = .ok lines filled)
      (read : readLines limits fromStr lines filled = .ok false after) :
      Reads limits fromStr (chunks ++ [chunk]) after

/-- These are the states that the run goes through. -/
theorem Reads.run {chunks : List (List UInt8)} (reads : Reads limits fromStr chunks state)
    (rest : List (Except LlmTransportErrorKind (List UInt8))) :
    completeStream limits fromStr (chunks.map .ok ++ rest) {} =
      completeStream limits fromStr rest state := by
  induction reads generalizing rest with
  | start => rfl
  | @next chunks chunk lines before filled after _ extracts read ih =>
    rw [List.map_append, List.append_assoc, ih, List.map_singleton, List.singleton_append,
      completeStream]
    simp only [orThrow, bind, EStateM.bind, pure, EStateM.pure, extracts, read]
    rfl

/-- The buffer holds what follows the last line feed. -/
theorem Reads.buf {chunks : List (List UInt8)} (reads : Reads limits fromStr chunks state) :
    state.buf = (cut lineFeed chunks.flatten).2 := by
  induction reads with
  | start => rfl
  | @next chunks chunk _ before _ _ _ extracts read ih =>
    obtain ⟨-, rfl⟩ := fill_ok extracts
    obtain ⟨-, rfl⟩ := readLines_ok read
    rw [List.flatten_append, List.flatten_singleton, rest_append chunks.flatten, ← ih]

/-- The deltas are the text. -/
def Reply.Joined (reply : Reply) : Prop := String.join reply.deltas = reply.text

theorem Reply.Joined.withContent (joined : reply.Joined) (content : Option String) :
    (reply.withContent content).Joined := by
  cases content with
  | none => exact joined
  | some content =>
    apply String.toList_injective
    have texts := congrArg String.toList joined
    simp only [String.join_eq, String.toList_ofList] at texts
    simp [Reply.withContent, String.join_eq, texts]

theorem Reply.Joined.withChunk (joined : reply.Joined) (chunk : StreamChunk) :
    (reply.withChunk chunk).Joined := by
  have usage {reply : Reply} (joined : reply.Joined) (usage : Option ResponseUsage) :
      (reply.withUsage usage).Joined := by
    cases usage <;> exact joined
  have finish {reply : Reply} (joined : reply.Joined) (reason : Option String) :
      (reply.withFinish reason).Joined := by
    cases reason <;> exact joined
  have reasoning {reply : Reply} (joined : reply.Joined) (delta : Option String) :
      (reply.withReasoning delta).Joined := by
    cases delta <;> exact joined
  unfold Reply.withChunk
  split
  · exact usage joined _
  · exact usage (finish (reasoning (joined.withContent _) _) _) _

theorem Reply.Joined.withLines (joined : reply.Joined) (lines : List (List UInt8)) :
    (reply.withLines fromStr lines).Joined := by
  induction lines generalizing reply with
  | nil => exact joined
  | cons line lines ih =>
    unfold Reply.withLines
    split
    · exact ih joined
    · split
      · exact joined
      · apply ih
        cases fromStr _ with
        | none => exact joined
        | some chunk => exact joined.withChunk chunk

/-- However the network cuts a body, a completion and its deltas are what the lines of the body say,
and what was read after the last line feed waits in the buffer. -/
theorem stream_independent_of_chunks (limits : LlmProtocolLimits)
    (fromStr : String → Option StreamChunk) {body : List UInt8} {chunks others : List (List UInt8)}
    {completion other : LlmCompletion} {last lastOther : Streaming}
    (split : chunks.flatten = body) (splitOther : others.flatten = body)
    (ran : completeStream limits fromStr (chunks.map .ok) {} = .ok completion last)
    (ranOther : completeStream limits fromStr (others.map .ok) {} = .ok other lastOther) :
    completion = other ∧ last.reply.deltas = lastOther.reply.deltas ∧
      completion = (replyTo fromStr body).completion ∧
      last.reply.deltas = (replyTo fromStr body).deltas ∧
      String.join last.reply.deltas = completion.text ∧
      ∀ (read : List (List UInt8)) (chunk : List UInt8) (before after : Streaming)
        (lines : List String), Reads limits fromStr read before →
          fill limits chunk before = .ok lines after →
          after.buf = (read.flatten ++ chunk).rtakeWhile (· ≠ lineFeed) := by
  have reads {chunks : List (List UInt8)} {completion : LlmCompletion} {last : Streaming}
      (split : chunks.flatten = body)
      (ran : completeStream limits fromStr (chunks.map .ok) {} = .ok completion last) :
      completion = last.reply.completion ∧ last.reply = replyTo fromStr body := by
    have read := completeStream_ok List.not_mem_nil ran
    rwa [List.nil_append, split] at read
  obtain ⟨rfl, reply⟩ := reads split ran
  obtain ⟨rfl, replyOther⟩ := reads splitOther ranOther
  rw [reply, replyOther]
  refine ⟨rfl, rfl, rfl, rfl, ?_, ?_⟩
  · have empty : ({} : Reply).Joined := rfl
    exact empty.withLines _
  · intro read chunk before after lines reads extracts
    obtain ⟨-, rfl⟩ := fill_ok extracts
    rw [← cut_rest, rest_append read.flatten, ← reads.buf]

end

namespace OpenAiCompat.Sample

def limits : LlmProtocolLimits := ⟨100, 100, 100, 100⟩

def greeting : StreamChunk := ⟨[⟨⟨some "Hi", none⟩, some "stop"⟩], none⟩

def fromStr (data : String) : Option StreamChunk := if data = "1" then some greeting else none

/-- `data: 1` and `data: [DONE]`, each with a line feed. -/
def body : List UInt8 := encode "data: 1\ndata: [DONE]\n"

/-- The body as a whole, and cut within each line. -/
theorem greeting_streamed : (replyTo fromStr body).completion = ⟨"Hi", some .stop, none, none, none⟩ := by
  have streamed := @stream_independent_of_chunks limits fromStr body [body]
    [body.take 3, (body.drop 3).take 10, body.drop 13] _ _ _ _ (by decide) (by decide) rfl rfl
  exact streamed.2.2.1.symm

end OpenAiCompat.Sample

end Aise.Domain
