import VllmRoute.Scheduler.Worker

/-!
# Decoding a streamed response

libcurl hands the response over in pieces of any length. What the callback makes
of them depends on the bytes alone, not on where they are cut: the calls run the
same operations in the same order as one call with all bytes. The deltas that go
out are the contents of the terminated lines, and the flags at the end say which
lines there were.
-/
namespace VllmRoute.Scheduler

open Lib

/-! ### Lines -/

/-- The lines that end with a newline. -/
def terminatedLines (bytes : Bytes) : List Bytes := (bytes.splitOn (chr '\n')).dropLast

/-- The bytes after the last newline. -/
def unterminated (bytes : Bytes) : Bytes := (bytes.splitOn (chr '\n')).getLastD []

theorem splitLines_eq (bytes : Bytes) :
    splitLines bytes = (terminatedLines bytes, unterminated bytes) := by
  induction bytes with
  | nil => rfl
  | cons c rest ih =>
    have parts : (c :: rest).splitOn (chr '\n') = if c = chr '\n' then [] :: rest.splitOn (chr '\n')
        else (rest.splitOn (chr '\n')).modifyHead (c :: ·) := by
      simp [List.splitOn, List.splitOnP_cons_eq_if_modifyHead]
    simp only [splitLines, ih, terminatedLines, unterminated, parts]
    -- there is always a last part, so there is a first one
    rcases split : rest.splitOn (chr '\n') with _ | ⟨first, _ | ⟨second, others⟩⟩
    · exact absurd split (List.splitOnP_ne_nil _ _)
    · split <;> simp
    · split <;> simp

/-- The lines of a text in two parts: the rest of the first goes before the second. -/
theorem splitLines_append (a b : Bytes) : splitLines (a ++ b) =
    ((splitLines a).1 ++ (splitLines ((splitLines a).2 ++ b)).1,
      (splitLines ((splitLines a).2 ++ b)).2) := by
  induction a with
  | nil => rfl
  | cons c rest ih =>
    simp only [List.cons_append, splitLines, ih]
    split
    · rfl
    next other =>
      -- the byte joins the first line, wherever that ends
      cases (splitLines rest).1 with
      | nil => simp only [List.nil_append, List.cons_append, splitLines, if_neg other]
      | cons line lines => rfl

/-- What is left has no newline in it. -/
theorem splitLines_rest (bytes : Bytes) :
    splitLines (splitLines bytes).2 = ([], (splitLines bytes).2) := by
  have whole := splitLines_append bytes []
  rw [List.append_nil, List.append_nil, Prod.ext_iff] at whole
  exact Prod.ext (List.append_right_eq_self.mp whole.1.symm) whole.2.symm

/-! ### Cuts -/

section Cuts

variable (codec : Codec) (req : InferenceRequest)

/-- The state with another buffer. -/
def StreamState.withBuffer (buffer : Bytes) (state : StreamState) : StreamState :=
  { state with buffer := buffer }

/-- The buffer is neither read nor written where a line is handled. -/
theorem handleStreamLine_withBuffer (buffer : Bytes) (state : StreamState) (line : Bytes) :
    handleStreamLine codec req (state.withBuffer buffer) line =
      StreamState.withBuffer buffer <$> handleStreamLine codec req state line := by
  unfold handleStreamLine
  cases streamEvent codec line with
  | ignored => rfl
  | done => rfl
  | failed errorMessage => rfl
  | content delta =>
    simp only [map_bind]
    apply bind_congr
    intro firstTokenLatencyMs
    apply bind_congr
    intro thrown
    cases thrown <;> rfl

theorem handleStreamLines_withBuffer (buffer : Bytes) (state : StreamState) (lines : List Bytes) :
    handleStreamLines codec req (state.withBuffer buffer) lines =
      StreamState.withBuffer buffer <$> handleStreamLines codec req state lines := by
  induction lines generalizing state with
  | nil => rfl
  | cons line lines ih =>
    simp only [handleStreamLines, handleStreamLine_withBuffer, bind_map_left, map_bind, ih]

theorem handleStreamLines_append (state : StreamState) (first second : List Bytes) :
    handleStreamLines codec req state (first ++ second) =
      handleStreamLines codec req state first >>= fun state =>
        handleStreamLines codec req state second := by
  induction first generalizing state with
  | nil => rfl
  | cons line lines ih => simp only [List.cons_append, handleStreamLines, ih, bind_assoc]

/-- One call, with the buffer apart from the lines. -/
theorem writeStreamCallback_eq (state : StreamState) (bytes : Bytes) :
    writeStreamCallback codec req state bytes =
      StreamState.withBuffer (splitLines (state.buffer ++ bytes)).2 <$>
        handleStreamLines codec req state (splitLines (state.buffer ++ bytes)).1 := by
  rw [← handleStreamLines_withBuffer]
  rfl

/-- However the bytes are cut, the calls are one call with all of them. -/
theorem writeStreamCallback_chunks (chunks : List Bytes) (state : StreamState)
    (unfinished : splitLines state.buffer = ([], state.buffer)) :
    chunks.foldlM (writeStreamCallback codec req) state =
      writeStreamCallback codec req state chunks.flatten := by
  induction chunks generalizing state with
  | nil =>
    rw [List.flatten_nil, writeStreamCallback_eq, List.append_nil, unfinished]
    rfl
  | cons chunk chunks ih =>
    have whole := splitLines_append (state.buffer ++ chunk) chunks.flatten
    have rest := splitLines_rest (state.buffer ++ chunk)
    rw [List.foldlM_cons, writeStreamCallback_eq, writeStreamCallback_eq, List.flatten_cons,
      ← List.append_assoc, whole]
    generalize (splitLines (state.buffer ++ chunk)).2 = left at rest
    -- the second call starts from what the first one leaves
    have next (s : StreamState) :
        chunks.foldlM (writeStreamCallback codec req) (s.withBuffer left) =
          StreamState.withBuffer (splitLines (left ++ chunks.flatten)).2 <$>
            handleStreamLines codec req s (splitLines (left ++ chunks.flatten)).1 := by
      rw [ih (s.withBuffer left) rest, writeStreamCallback_eq, handleStreamLines_withBuffer,
        ← comp_map]
      rfl
    simp only [bind_map_left, next, ← map_bind, handleStreamLines_append]

end Cuts

/-! ### What a stream says -/

/-- The payload of a `data:` line. -/
def linePayload (line : Bytes) : Option Bytes :=
  if (lit "data:").isPrefixOf line then
    some ((line.drop (lit "data:").length).dropWhile (· = chr ' '))
  else none

/-- The line is the end mark of the stream. -/
def isDoneLine (line : Bytes) : Bool := linePayload line == some (lit "[DONE]")

/-- The parsed payload of a `data:` line that is no end mark. -/
def lineValue (codec : Codec) (line : Bytes) : Option (Except Bytes Json) :=
  ((linePayload line).filter (· ≠ lit "[DONE]")).map codec.parse

/-- The payload cannot be parsed, or it is an error. -/
def lineFails (codec : Codec) (line : Bytes) : Bool :=
  match lineValue codec line with
  | some (.error _) => true
  | some (.ok parsed) => parsed.contains "error"
  | none => false

/-- The text of the first choice, if it is not empty: its `delta.content`, or its `text`. -/
def lineContent (codec : Codec) (line : Bytes) : Option String :=
  match lineValue codec line with
  | some (.ok parsed) =>
    if parsed.contains "error" then none
    else ((firstChoice parsed).bind (choiceText · "delta")).filter (· ≠ "")
  | _ => none

/-- How a line is handled. -/
theorem streamEvent_cases (codec : Codec) (line : Bytes) :
    match streamEvent codec line with
    | .ignored => isDoneLine line = false ∧ lineFails codec line = false ∧
        lineContent codec line = none
    | .done => isDoneLine line = true ∧ lineFails codec line = false ∧
        lineContent codec line = none
    | .failed _ => isDoneLine line = false ∧ lineFails codec line = true ∧
        lineContent codec line = none
    | .content delta => isDoneLine line = false ∧ lineFails codec line = false ∧
        lineContent codec line = some delta := by
  by_cases data : (lit "data:").isPrefixOf line = true
  · have given : line.isEmpty = false := by
      cases line with
      | nil => exact absurd data (by decide +kernel)
      | cons c rest => rfl
    simp only [streamEvent, isDoneLine, lineFails, lineContent, lineValue, linePayload, data, given,
      Bool.not_true, Bool.false_eq_true, if_false, if_true]
    generalize (line.drop (lit "data:").length).dropWhile (· = chr ' ') = payload
    by_cases mark : payload = lit "[DONE]"
    · simp [mark, Option.filter_some]
    · cases parsed : codec.parse payload with
      | error what => simp [mark, parsed, Option.filter_some]
      | ok value =>
        cases error : value.get? "error" with
        | some error' => simp [mark, parsed, error, Json.contains, Option.filter_some]
        | none =>
          cases text : (firstChoice value).bind (choiceText · "delta") with
          | none => simp [mark, parsed, error, text, Json.contains, Option.filter_some]
          | some delta =>
            by_cases empty : delta = ""
            · simp [mark, parsed, error, text, empty, Json.contains, Option.filter_some]
            · simp [mark, parsed, error, text, empty, Json.contains, Option.filter_some]
  · have ignored : streamEvent codec line = .ignored := by
      unfold streamEvent
      split
      · rfl
      · simp [data]
    rw [ignored]
    simp [isDoneLine, lineFails, lineContent, lineValue, linePayload, data]

/-- The deltas of a stream with these lines. -/
def streamDeltas (codec : Codec) (lines : List Bytes) : List String :=
  lines.filterMap (lineContent codec)

theorem streamDeltas_snoc (codec : Codec) (lines : List Bytes) (line : Bytes) :
    streamDeltas codec (lines ++ [line]) =
      streamDeltas codec lines ++ (lineContent codec line).toList := by
  cases content : lineContent codec line <;> simp [streamDeltas, content]

/-! ### What goes out -/

/-- A call of `call_vllm`, up to the report of its result. -/
structure StreamLog where
  received : Bytes := []
  messages : List ClientMessage := []
  /-- the error and the HTTP code that the transfer ended with -/
  ended : Option (Option Bytes × Int) := none
  reported : Option Bool := none

def noteStream (o : Op) (r : o.Resp) (log : StreamLog) : StreamLog :=
  -- what comes after the report belongs to another call
  if log.reported.isSome then log
  else match o, r with
    | .curlEasyPerform, .chunk bytes => { log with received := log.received ++ bytes }
    | .curlEasyPerform, .done error httpCode => { log with ended := some (error, httpCode) }
    | .sendRawForUrl m, _ => { log with messages := log.messages ++ [m] }
    | .updateEndpointResult _ ok _, _ => { log with reported := some ok }
    | _, _ => log

/-- Code that runs before the report, with a condition on its end. -/
abbrev Logs {α : Type} (post : α → StreamLog → Prop) (p : Code α) (log : StreamLog) : Prop :=
  p.Ensures noteStream (fun log => log.reported = none) post log

/-- The request has a client that wants its output. -/
def audible (req : InferenceRequest) : Bool := req.enoutput && !req.outputUrl.isEmpty

/-- The messages of the request can be dumped. -/
def dumpable (req : InferenceRequest) : Bool := validUtf8 req.requestId && validUtf8 req.workId

/-- The message of one delta. -/
def deltaMessage (req : InferenceRequest) (delta : String) (finish : Bool) (index : Int) :
    ClientMessage where
  requestId := req.requestId
  workId := req.workId
  outputUrl := req.outputUrl
  object := lit req.responseFormat
  data := .delta (deltaBody req (lit delta) finish index)
  errorCode := 0
  errorMessage := []

/-- `emit_delta`, by whether it has somebody to send to and something that can be sent. -/
theorem emitDelta_eq (req : InferenceRequest) (delta : String) (finish : Bool) (index : Int) :
    emitDelta req (lit delta) finish index =
      if audible req && dumpable req then
        (fun _ => false) <$> ask (.sendRawForUrl (deltaMessage req delta finish index))
      else pure (audible req && !dumpable req) := by
  have dumps : (deltaMessage req delta finish index).dumps = dumpable req := by
    cases finish <;>
      simp [deltaMessage, ClientMessage.dumps, Payload.dumps, deltaBody, dumpable]
  have sends : emitDelta req (lit delta) finish index =
      if !req.enoutput then pure false
      else sendClientMessage (deltaMessage req delta finish index) := rfl
  rw [sends, sendClientMessage, dumps]
  have address : (deltaMessage req delta finish index).outputUrl = req.outputUrl := rfl
  rw [address, audible]
  by_cases wanted : req.enoutput = true
  · by_cases nobody : req.outputUrl.isEmpty = true
    · simp [wanted, nobody]
    · by_cases sound : dumpable req = true
      · simp only [wanted, nobody, sound]
        rfl
      · simp [wanted, nobody, sound]
  · simp [wanted]

theorem emitDelta_logs (req : InferenceRequest) (delta : String) (finish : Bool) (index : Int)
    (log : StreamLog) (running : log.reported = none) :
    Logs (fun thrown log' => thrown = (audible req && !dumpable req) ∧ log' = { log with
        messages := log.messages ++
          if audible req && dumpable req then [deltaMessage req delta finish index] else [] })
      (emitDelta req (lit delta) finish index) log := by
  rw [emitDelta_eq]
  by_cases sends : (audible req && dumpable req) = true
  · rw [if_pos sends, if_pos sends]
    refine ⟨running, fun _ => ⟨?_, ?_⟩⟩
    · simp [(Bool.and_eq_true_iff.mp sends).2]
    · simp [noteStream, running]
  · rw [if_neg sends, if_neg sends]
    exact ⟨rfl, by simp⟩

theorem noteStream_nowMs (now : Int) (log : StreamLog) : noteStream .nowMs now log = log := by
  simp [noteStream]

theorem firstTokenLatency_logs {post : Int → StreamLog → Prop} (state : StreamState)
    {log : StreamLog} (running : log.reported = none) (ends : ∀ latency, post latency log) :
    Logs post (firstTokenLatency state) log := by
  unfold firstTokenLatency
  split
  · exact ends _
  · exact Prog.ensures_unnoted (fun now => noteStream_nowMs now log) running fun now => ends _

/-- The state and the messages after these lines. -/
structure Seen (codec : Codec) (req : InferenceRequest) (lines : List Bytes) (state : StreamState)
    (messages : List ClientMessage) : Prop where
  index : state.index = (streamDeltas codec lines).length
  started : state.started = !(streamDeltas codec lines).isEmpty
  done : state.done = lines.any isDoneLine
  -- a delta that cannot be dumped fails the stream as well
  failed : state.failed =
    (lines.any (lineFails codec) || (state.started && audible req && !dumpable req))
  messages : messages = if audible req && dumpable req
    then (streamDeltas codec lines).mapIdx fun i delta => deltaMessage req delta false i else []

section Lines

variable {codec : Codec} {req : InferenceRequest} {lines : List Bytes} {line : Bytes}
  {state state' : StreamState} {messages : List ClientMessage} {log : StreamLog}

theorem Seen.start (beginMs : Int) : Seen codec req [] { beginMs := beginMs } [] where
  index := rfl
  started := rfl
  done := rfl
  failed := rfl
  messages := by simp [streamDeltas]

/-- A line without a delta. -/
theorem Seen.quiet (seen : Seen codec req lines state messages)
    (content : lineContent codec line = none) (index : state'.index = state.index)
    (started : state'.started = state.started)
    (done : state'.done = (state.done || isDoneLine line))
    (failed : state'.failed = (state.failed || lineFails codec line)) :
    Seen codec req (lines ++ [line]) state' messages := by
  have deltas : streamDeltas codec (lines ++ [line]) = streamDeltas codec lines := by
    simp [streamDeltas_snoc, content]
  constructor
  · rw [deltas, index, seen.index]
  · rw [deltas, started, seen.started]
  · simp [done, seen.done]
  · rw [failed, started, seen.failed, List.any_append, Bool.or_right_comm]
    simp
  · rw [deltas, seen.messages]

/-- A line with a delta, which takes the next index. -/
theorem Seen.loud (seen : Seen codec req lines state messages) {delta : String}
    (content : lineContent codec line = some delta) (mark : isDoneLine line = false)
    (fails : lineFails codec line = false) (index : state'.index = state.index + 1)
    (started : state'.started = true) (done : state'.done = state.done)
    (failed : state'.failed = (state.failed || (audible req && !dumpable req))) :
    Seen codec req (lines ++ [line]) state' (messages ++
      if audible req && dumpable req then [deltaMessage req delta false state.index] else []) := by
  have deltas : streamDeltas codec (lines ++ [line]) = streamDeltas codec lines ++ [delta] := by
    simp [streamDeltas_snoc, content]
  constructor
  · simp [deltas, index, seen.index]
  · simp [deltas, started]
  · simp [done, seen.done, mark]
  · rw [failed, started, seen.failed, List.any_append]
    cases audible req <;> cases dumpable req <;> simp [fails]
  · rw [deltas, seen.messages, seen.index]
    split <;> simp

/-- What one line adds. Only the messages of the log change. -/
theorem handleStreamLine_logs (running : log.reported = none) (line : Bytes)
    (seen : Seen codec req lines state log.messages) :
    Logs (fun state' log' => Seen codec req (lines ++ [line]) state' log'.messages ∧
        state'.buffer = state.buffer ∧ log' = { log with messages := log'.messages })
      (handleStreamLine codec req state line) log := by
  have event := streamEvent_cases codec line
  unfold handleStreamLine
  cases read : streamEvent codec line with
  | ignored | done | failed errorMessage =>
    rw [read] at event
    obtain ⟨mark, fails, content⟩ := event
    exact ⟨seen.quiet content rfl rfl (by simp [mark]) (by simp [fails]), rfl, rfl⟩
  | content delta =>
    rw [read] at event
    obtain ⟨mark, fails, content⟩ := event
    apply (Prog.ensures_bind _ _ _ _).mpr
    apply firstTokenLatency_logs state running
    intro firstTokenLatencyMs
    apply (emitDelta_logs req delta false state.index log running).bind
    rintro thrown log' ⟨rfl, rfl⟩
    by_cases throws : (audible req && !dumpable req) = true
    · rw [if_pos throws]
      exact ⟨seen.loud content mark fails rfl rfl rfl (by simp [throws]), rfl, rfl⟩
    · rw [if_neg throws]
      exact ⟨seen.loud content mark fails rfl rfl rfl (by simp [throws]), rfl, rfl⟩

theorem handleStreamLines_logs (running : log.reported = none) (added : List Bytes)
    (seen : Seen codec req lines state log.messages) :
    Logs (fun state' log' => Seen codec req (lines ++ added.map stripReturn) state' log'.messages ∧
        state'.buffer = state.buffer ∧ log' = { log with messages := log'.messages })
      (handleStreamLines codec req state added) log := by
  induction added generalizing lines state log with
  | nil => exact ⟨by simpa using seen, rfl, rfl⟩
  | cons line added ih =>
    apply (handleStreamLine_logs running (stripReturn line) seen).bind
    rintro state' log' ⟨seen', buffer, only⟩
    have running' : log'.reported = none := by rw [only]; exact running
    apply (ih running' seen').mono
    rintro state'' log'' ⟨seen'', buffer', only'⟩
    refine ⟨by simpa using seen'', buffer'.trans buffer, ?_⟩
    rw [only', only]

/-! ### The whole stream -/

/-- The lines of the stream without their line ends. -/
def streamLines (bytes : Bytes) : List Bytes := (terminatedLines bytes).map stripReturn

/-- The state and the messages once these bytes are in. -/
structure Decoded (codec : Codec) (req : InferenceRequest) (bytes : Bytes) (state : StreamState)
    (messages : List ClientMessage) : Prop where
  seen : Seen codec req (streamLines bytes) state messages
  buffer : state.buffer = unterminated bytes

theorem Decoded.start (beginMs : Int) : Decoded codec req [] { beginMs := beginMs } [] where
  seen := Seen.start beginMs
  buffer := rfl

theorem Seen.withBuffer (seen : Seen codec req lines state messages) (buffer : Bytes) :
    Seen codec req lines (state.withBuffer buffer) messages :=
  ⟨seen.index, seen.started, seen.done, seen.failed, seen.messages⟩

/-- What one call of the callback adds. -/
theorem writeStreamCallback_logs {bytes : Bytes} (running : log.reported = none) (chunk : Bytes)
    (decoded : Decoded codec req bytes state log.messages) :
    Logs (fun state' log' => Decoded codec req (bytes ++ chunk) state' log'.messages ∧
        log' = { log with messages := log'.messages })
      (writeStreamCallback codec req state chunk) log := by
  have whole := splitLines_append bytes chunk
  simp only [splitLines_eq, Prod.mk.injEq] at whole
  obtain ⟨added, left⟩ := whole
  rw [writeStreamCallback_eq, splitLines_eq, decoded.buffer]
  apply (Prog.ensures_map _ _ _ _).mpr
  apply (handleStreamLines_logs running _ decoded.seen).mono
  rintro state' log' ⟨seen, -, only⟩
  refine ⟨⟨?_, left.symm⟩, only⟩
  have lines : streamLines (bytes ++ chunk) = streamLines bytes ++
      (terminatedLines (unterminated bytes ++ chunk)).map stripReturn := by
    rw [streamLines, added, List.map_append, streamLines]
  rw [lines]
  exact seen.withBuffer _

end Lines

/-- However the bytes of a response are cut, the callbacks do what one callback with all
of them does: the same operations, and the same state at the end. The messages are
those of the deltas of the terminated lines, numbered from zero, and what is left in the
buffer is what follows the last newline. -/
theorem stream_decoding (codec : Codec) (req : InferenceRequest) (beginMs : Int)
    (chunks : List Bytes) :
    chunks.foldlM (writeStreamCallback codec req) { beginMs := beginMs } =
        writeStreamCallback codec req { beginMs := beginMs } chunks.flatten ∧
      Logs (fun state log => Decoded codec req chunks.flatten state log.messages)
        (chunks.foldlM (writeStreamCallback codec req) { beginMs := beginMs }) {} := by
  have uncut := writeStreamCallback_chunks codec req chunks { beginMs := beginMs } rfl
  refine ⟨uncut, ?_⟩
  rw [uncut]
  have start : Decoded codec req [] { beginMs := beginMs } [] := Decoded.start beginMs
  have whole : Logs _ (writeStreamCallback codec req _ chunks.flatten) {} :=
    writeStreamCallback_logs rfl chunks.flatten start
  exact whole.mono fun state log holds => holds.1

/-- The payload of an event with a text and an error. -/
def apology : Bytes :=
  lit "\x7b\"error\":\"overloaded\",\"choices\":[\x7b\"text\":\"hi\"\x7d]\x7d"

def apologetic : Codec :=
  knowsOnly apology (.obj [("error", .str "overloaded"),
    ("choices", .arr [.obj [("text", .str "hi")]])])

def apologyLine : Bytes := lit "data: " ++ apology

/-- A payload that parses and has a choice with a text: with an error beside it, the text
does not go out. -/
theorem error_beside_choices_unsent :
    linePayload apologyLine = some apology ∧
      (∃ parsed, apologetic.parse apology = .ok parsed ∧
        (firstChoice parsed).bind (choiceText · "delta") = some "hi") ∧
      Logs (fun state log => log.messages = [] ∧ state.failed = true)
        (writeStreamCallback apologetic { outputUrl := lit "tcp" } {}
          (apologyLine ++ lit "\n")) {} := by
  refine ⟨by decide +kernel, ⟨_, rfl, by decide +kernel⟩, ?_⟩
  have fails : (streamLines (apologyLine ++ lit "\n")).any (lineFails apologetic) = true := by
    decide +kernel
  have deltas : streamDeltas apologetic (streamLines (apologyLine ++ lit "\n")) = [] := by
    decide +kernel
  apply (writeStreamCallback_logs rfl (apologyLine ++ lit "\n") (Decoded.start 0)).mono
  rintro state log ⟨decoded, -⟩
  have failed := decoded.seen.failed
  have messages := decoded.seen.messages
  rw [List.nil_append] at failed messages
  rw [fails, Bool.true_or] at failed
  rw [deltas, List.mapIdx_nil, ite_self] at messages
  exact ⟨messages, failed⟩

/-! ### The result of a stream -/

/-- The message that closes a stream. -/
def ClientMessage.finishes (m : ClientMessage) : Bool :=
  match m.data with
  | .delta body => body.finish
  | .text _ => false

/-- A line of the stream fails, or a delta of it cannot be sent. -/
def streamFails (codec : Codec) (req : InferenceRequest) (bytes : Bytes) : Bool :=
  (streamLines bytes).any (lineFails codec) ||
    (!(streamDeltas codec (streamLines bytes)).isEmpty && audible req && !dumpable req)

/-- The report of a response that came with a success code. -/
def Judged (codec : Codec) (req : InferenceRequest) (log : StreamLog) : Prop :=
  ∀ ok httpCode, log.reported = some ok → log.ended = some (none, httpCode) →
    200 ≤ httpCode → httpCode < 300 →
    ok = !streamFails codec req log.received ∧
      log.messages.any ClientMessage.finishes = (ok && audible req)

section Report

variable {codec : Codec} {req : InferenceRequest} {l : Retry} {attempt : Attempt}
  {state : StreamState} {log : StreamLog} {ok : Bool}

theorem Judged.of_running (running : log.reported = none) : Judged codec req log := by
  intro ok httpCode reported
  rw [running] at reported
  cases reported

theorem Decoded.failed_eq {bytes : Bytes} {messages : List ClientMessage}
    (decoded : Decoded codec req bytes state messages) :
    state.failed = streamFails codec req bytes := by
  rw [decoded.seen.failed, decoded.seen.started, streamFails]

/-- While the stream runs, no message closes it. -/
theorem Decoded.unfinished {bytes : Bytes} {messages : List ClientMessage}
    (decoded : Decoded codec req bytes state messages) :
    messages.any ClientMessage.finishes = false := by
  rw [decoded.seen.messages]
  split
  · rw [List.any_eq_false]
    intro m sent
    obtain ⟨i, _, rfl⟩ := List.mem_mapIdx.mp sent
    simp [ClientMessage.finishes, deltaMessage, deltaBody]
  · rfl

/-- Where a worker stands that is in this call, or has reported its result. -/
inductive CallHead (codec : Codec) (l : Retry) (attempt : Attempt) (req : InferenceRequest) :
    Point → StreamLog → Prop where
  | receiving {state : StreamState} {log : StreamLog} (running : log.reported = none)
      (decoded : Decoded codec req log.received state log.messages) :
      CallHead codec l attempt req (.transfer l attempt req state []) log
  | crashed {log : StreamLog} (running : log.reported = none) :
      CallHead codec l attempt req .crashed log
  | settled {pt : Point} {log : StreamLog} (reported : log.reported.isSome = true)
      (judged : Judged codec req log) : CallHead codec l attempt req pt log

theorem CallHead.judged {pt : Point} (head : CallHead codec l attempt req pt log) :
    Judged codec req log := by
  cases head with
  | receiving running decoded => exact .of_running running
  | crashed running => exact .of_running running
  | settled reported judged => exact judged

/-- After the report the log stays as it is. -/
theorem ensures_reported (p : Code Point) (reported : log.reported.isSome = true)
    (judged : Judged codec req log) :
    p.Ensures noteStream (Judged codec req) (CallHead codec l attempt req) log :=
  Prog.ensures_only (fun o _ r => by simp [noteStream, reported]) p.only_true judged
    fun _ => .settled reported judged

theorem afterCall_ensures {l' : Retry} {req' : InferenceRequest} {started : Bool}
    {errorMessage : Bytes} (running : log.reported = none)
    (judged : Judged codec req { log with reported := some ok }) :
    (afterCall l' attempt req' ok started errorMessage).Ensures noteStream (Judged codec req)
      (CallHead codec l attempt req) log := by
  refine ⟨.of_running running, fun r => ?_⟩
  have noted (latencyMs : Int) (r : Unit) :
      noteStream (.updateEndpointResult attempt ok latencyMs) r log =
        { log with reported := some ok } := by
    simp [noteStream, running]
  rw [noted _ r]
  exact ensures_reported _ rfl judged

/-- A stream without a failure: its closing delta goes out, and the report follows. -/
theorem closing_ensures {req' : InferenceRequest} {l' : Retry} (heard : audible req' = audible req)
    (sound : dumpable req' = dumpable req) (running : log.reported = none)
    (decoded : Decoded codec req log.received state log.messages) (intact : state.failed = false) :
    Prog.Ensures noteStream (Judged codec req) (CallHead codec l attempt req)
      (emitDelta req' [] true state.index >>= fun thrown => if thrown then pure .crashed
        else afterCall l' attempt req' true state.started l'.errorMessage) log := by
  have closing := emitDelta_logs req' "" true state.index log running
  rw [heard, sound] at closing
  apply (closing.weaken fun _ => Judged.of_running).bind
  rintro thrown log' ⟨rfl, rfl⟩
  by_cases throws : (audible req && !dumpable req) = true
  · rw [if_pos throws]
    exact .crashed running
  · rw [if_neg throws]
    -- what can be heard can be dumped
    have same : (audible req && dumpable req) = audible req := by
      revert throws
      cases audible req <;> cases dumpable req <;> simp
    apply afterCall_ensures
    · exact running
    · intro ok _ reported _ _ _
      cases reported
      refine ⟨by rw [← decoded.failed_eq, intact]; rfl, ?_⟩
      rw [same, List.any_append, decoded.unfinished]
      cases audible req <;> rfl

/-- The end of the transfer. The report follows the flags of the stream. -/
theorem finishCall_ensures (streaming : req.enstream = true) (error : Option Bytes) (httpCode : Int)
    (running : log.reported = none) (ended : log.ended = some (error, httpCode))
    (decoded : Decoded codec req log.received state log.messages) :
    (finishCall codec l attempt req state [] error httpCode).Ensures noteStream (Judged codec req)
      (CallHead codec l attempt req) log := by
  unfold finishCall
  apply Prog.ensures_unnoted (fun now => noteStream_nowMs now log) (.of_running running)
  intro finishedMs
  cases error with
  | some message =>
    apply afterCall_ensures running
    intro ok httpCode' _ ended'
    rw [ended] at ended'
    cases ended'
  | none =>
    by_cases bad : httpCode < 200 ∨ httpCode ≥ 300
    · simp only [if_pos bad]
      apply afterCall_ensures running
      intro ok httpCode' _ ended' low high
      rw [ended] at ended'
      cases ended'
      omega
    · simp only [if_neg bad, if_pos streaming]
      by_cases failed : state.failed = true
      · simp only [if_pos failed]
        apply afterCall_ensures running
        intro ok _ reported _ _ _
        cases reported
        exact ⟨by rw [← decoded.failed_eq, failed]; rfl, decoded.unfinished⟩
      · simp only [if_neg failed]
        exact closing_ensures rfl rfl running decoded (Bool.eq_false_iff.mpr failed)

/-- A callback of libcurl, with the bytes it brings. -/
theorem callback_ensures (bytes : Bytes) (running : log.reported = none)
    (decoded : Decoded codec req log.received state log.messages) :
    Prog.Ensures noteStream (Judged codec req) (CallHead codec l attempt req)
      (writeStreamCallback codec req state bytes >>= fun state =>
        pure (.transfer l attempt req state []))
      { log with received := log.received ++ bytes } := by
  let log₁ : StreamLog := { log with received := log.received ++ bytes }
  have logs := @writeStreamCallback_logs codec req state log₁ log.received running bytes decoded
  apply (logs.weaken fun _ => Judged.of_running).bind
  rintro state' log' ⟨decoded', only⟩
  have received : log'.received = log.received ++ bytes := by rw [only]
  have running' : log'.reported = none := by rw [only, ← running]
  rw [← received] at decoded'
  exact .receiving running' decoded'

/-- The rounds of a streamed call, up to its report. -/
theorem call_loops (cfg : TaskConfig) (streaming : req.enstream = true) :
    Loops (worker codec cfg) noteStream (Judged codec req) (CallHead codec l attempt req) := by
  intro pt p log code head
  cases head with
  | crashed running => cases code
  | settled reported judged => exact ensures_reported p reported judged
  | receiving running decoded =>
    cases code
    refine ⟨.of_running running, fun r => ?_⟩
    cases r with
    | chunk bytes =>
      have noted : noteStream .curlEasyPerform (.chunk bytes) log =
          { log with received := log.received ++ bytes } := by
        simp [noteStream, running]
      rw [noted]
      change Prog.Ensures _ _ _ (if req.enstream then _ else _) _
      rw [if_pos streaming]
      exact callback_ensures bytes running decoded
    | done error httpCode =>
      have noted : noteStream .curlEasyPerform (.done error httpCode) log =
          { log with ended := some (error, httpCode) } := by
        simp [noteStream, running]
      rw [noted]
      exact finishCall_ensures streaming error httpCode running rfl decoded

/-- A stream without a failure can be reported as a success wherever it stops. -/
theorem intact_stream_reported (cfg : TaskConfig) (streaming : req.enstream = true)
    (sends : (audible req && dumpable req) = true) (intact : state.failed = false)
    (running : log.reported = none) :
    ∃ t, Steps (worker codec cfg) noteStream ⟨.pure (.transfer l attempt req state []), log⟩ t ∧
      t.log.received = log.received ∧ t.log.ended = some (none, 200) ∧
      t.log.reported = some true ∧ t.log.messages.any ClientMessage.finishes = true := by
  let req₁ : InferenceRequest := { req with
    finishedMs := 0, totalLatencyMs := 0 - req.startedMs
    firstTokenLatencyMs := state.firstTokenLatencyMs }
  have sends₁ : (audible req₁ && dumpable req₁) = true := sends
  have closing := emitDelta_eq req₁ "" true state.index
  rw [if_pos sends₁] at closing
  apply Exists.intro
  constructor
  · -- the transfer ends, the clock is read, the closing delta is sent, and the report is made
    apply Steps.enter rfl
    apply Steps.respond (.done none 200)
    apply Steps.respond (0 : Int)
    change Steps _ _ ⟨if req.enstream then if state.failed then _ else
      emitDelta req₁ (lit "") true state.index >>= _ else _, _⟩ _
    rw [if_pos streaming, if_neg (Bool.eq_false_iff.mp intact), closing]
    apply Steps.respond ()
    apply Steps.respond ()
    apply Steps.refl
  · simp [noteStream, running, ClientMessage.finishes, deltaMessage, deltaBody]

/-- A callback that only changes the state. -/
theorem steps_chunk {cfg : TaskConfig} {bytes : Bytes} {state' : StreamState}
    {t : Thread Op Op.Resp Point StreamLog} (streaming : req.enstream = true)
    (callback : writeStreamCallback codec req state bytes = pure state')
    (steps : Steps (worker codec cfg) noteStream ⟨.pure (.transfer l attempt req state' []),
      noteStream .curlEasyPerform (.chunk bytes) log⟩ t) :
    Steps (worker codec cfg) noteStream ⟨.pure (.transfer l attempt req state []), log⟩ t := by
  apply Steps.enter rfl
  apply Steps.respond (.chunk bytes)
  change Steps _ _
    ⟨if req.enstream then writeStreamCallback codec req state bytes >>= _ else _, _⟩ _
  rw [if_pos streaming, callback]
  exact steps

end Report

/-- A streamed call whose transfer ends well is reported as a success exactly if no line of
it failed, and the closing delta is sent with it. Nobody asks for the end mark: the report
of a success speaks of a complete stream only where the mark came in, or where the stream
fails anyway. -/
theorem stream_success_iff (codec : Codec) (cfg : TaskConfig) {l : Retry} {attempt : Attempt}
    {req : InferenceRequest} (beginMs : Int) (streaming : req.enstream = true)
    {t : Thread Op Op.Resp Point StreamLog}
    (steps : Steps (worker codec cfg) noteStream
      ⟨.pure (.transfer l attempt req { beginMs := beginMs } []), {}⟩ t)
    {httpCode : Int} (ended : t.log.ended = some (none, httpCode)) (low : 200 ≤ httpCode)
    (high : httpCode < 300) {ok : Bool} (reported : t.log.reported = some ok) :
    (ok = true ↔ streamFails codec req t.log.received = false) ∧
      t.log.messages.any ClientMessage.finishes = (ok && audible req) ∧
      ((ok = true → (streamLines t.log.received).any isDoneLine = true ∧
          (streamLines t.log.received).any (lineFails codec) = false) ↔
        (streamLines t.log.received).any isDoneLine = true ∨
          streamFails codec req t.log.received = true) := by
  have start : CallHead codec l attempt req
      (.transfer l attempt req { beginMs := beginMs } []) {} :=
    .receiving rfl (Decoded.start beginMs)
  have judged := (steps.ensures (call_loops cfg streaming) start).now fun _ _ head => head.judged
  obtain ⟨verdict, closed⟩ := judged ok httpCode reported ended low high
  refine ⟨by simp [verdict], closed, ?_⟩
  by_cases fails : streamFails codec req t.log.received = true
  · simp [verdict, fails]
  · have clean : (streamLines t.log.received).any (lineFails codec) = false := by
      rw [streamFails, Bool.or_eq_true, not_or] at fails
      exact Bool.eq_false_iff.mpr fails.1
    rw [Bool.not_eq_true] at fails
    rw [verdict, fails, clean]
    simp

/-- A request with a client. -/
def heardRequest : InferenceRequest := { outputUrl := lit "tcp" }

theorem heardRequest_sends : (audible heardRequest && dumpable heardRequest) = true := by
  decide +kernel

/-- The call of a worker for `heardRequest`. -/
def heardCall : Thread Op Op.Resp Point StreamLog :=
  ⟨.pure (.transfer { req := heardRequest, finalReq := heardRequest } ⟨0, 0⟩ heardRequest {} []),
    {}⟩

/-- One callback and the end of the transfer. -/
theorem heardCall_reported {bytes : Bytes} {state : StreamState} (intact : state.failed = false)
    (callback : writeStreamCallback rejectAll heardRequest {} bytes = pure state) :
    ∃ t, Steps (worker rejectAll {}) noteStream heardCall t ∧ t.log.received = bytes ∧
      t.log.ended = some (none, 200) ∧ t.log.reported = some true ∧
      t.log.messages.any ClientMessage.finishes = true := by
  have running : (noteStream .curlEasyPerform (.chunk bytes) {}).reported = none := rfl
  obtain ⟨t, steps, holds⟩ := intact_stream_reported {} rfl heardRequest_sends intact running
  exact ⟨t, steps_chunk rfl callback steps, holds⟩

theorem stream_success_iff_marked :
    ∃ t, Steps (worker rejectAll {}) noteStream heardCall t ∧ t.log.reported = some true ∧
      (streamLines t.log.received).any isDoneLine = true ∧
      streamFails rejectAll heardRequest t.log.received = false := by
  have callback : writeStreamCallback rejectAll heardRequest {} (lit "data: [DONE]\n") =
      pure { done := true } := by
    have lines : splitLines (lit "data: [DONE]\n") = ([lit "data: [DONE]"], []) := by
      decide +kernel
    have line : stripReturn (lit "data: [DONE]") = lit "data: [DONE]" := by decide +kernel
    have event : streamEvent rejectAll (lit "data: [DONE]") = .done := by
      rw [streamEvent, if_neg (by decide +kernel), if_neg (by decide +kernel),
        if_pos (by decide +kernel)]
    rw [writeStreamCallback_eq, List.nil_append, lines]
    simp only [handleStreamLines, line, handleStreamLine, event]
    rfl
  obtain ⟨t, steps, received, ended, reported, -⟩ := heardCall_reported rfl callback
  obtain ⟨verdict, -⟩ := stream_success_iff rejectAll {} 0 rfl steps ended (by decide) (by decide)
    reported
  refine ⟨t, steps, reported, ?_, verdict.mp rfl⟩
  rw [received]
  decide +kernel

/-- The end mark itself is cut off, and the call succeeds. -/
theorem truncated_stream_succeeds :
    ∃ t, Steps (worker rejectAll {}) noteStream heardCall t ∧ t.log.received = lit "data: [DO" ∧
      (streamLines t.log.received).any isDoneLine = false ∧ t.log.ended = some (none, 200) ∧
      t.log.reported = some true ∧ t.log.messages.any ClientMessage.finishes = true := by
  have callback : writeStreamCallback rejectAll heardRequest {} (lit "data: [DO") =
      pure { buffer := lit "data: [DO" } := by
    have lines : splitLines (lit "data: [DO") = ([], lit "data: [DO") := by decide +kernel
    rw [writeStreamCallback_eq, List.nil_append, lines]
    rfl
  obtain ⟨t, steps, received, holds⟩ := heardCall_reported rfl callback
  refine ⟨t, steps, received, ?_, holds⟩
  rw [received]
  decide +kernel

end VllmRoute.Scheduler
