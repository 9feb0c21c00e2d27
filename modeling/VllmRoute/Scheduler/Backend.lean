import VllmRoute.Scheduler.Messages

/-!
# Decoding the backend's response

`write_stream_callback` and `handle_stream_line` for a streaming request,
`extract_response_text` for the others. JSON parsing itself is a parameter.
-/
namespace VllmRoute.Scheduler

open Lib

/-- The JSON library: `parse` gives a value or the text of the exception, `dump`
the text of a value, and `what` is the text of the other exceptions. The
strings of a parsed value are UTF-8, which `Json` says by its type. -/
structure Codec where
  parse : Bytes → Except Bytes Json
  dump : Json → Bytes
  what : Bytes

/-- A JSON library that rejects every text. -/
def rejectAll : Codec where
  parse := fun _ => .error (lit "parse error")
  dump := fun _ => []
  what := []

/-- A JSON library that reads this one text and rejects every other. -/
def knowsOnly (text : Bytes) (value : Json) : Codec :=
  { rejectAll with
    parse := fun input => if input = text then .ok value else .error (lit "parse error") }

structure StreamState where
  buffer : Bytes := []
  index : Int := 0
  done : Bool := false
  failed : Bool := false
  started : Bool := false
  beginMs : Int := 0
  firstTokenLatencyMs : Int := -1
  errorMessage : Bytes := []

/-- `choices[0]`, where there is one. -/
def firstChoice (parsed : Json) : Option Json :=
  match parsed.get? "choices" with
  | some (.arr (choice :: _)) => some choice
  | _ => none

/-- The text of a choice: the `content` of its `inner` object, or its `text`. -/
def choiceText (choice : Json) (inner : String) : Option String :=
  match (choice.get? inner).bind (·.get? "content") with
  | some (.str content) => some content
  | _ =>
    match choice.get? "text" with
    | some (.str text) => some text
    | _ => none

/-- What a line of the stream says. -/
inductive StreamEvent where
  | ignored
  | done
  | failed (errorMessage : Bytes)
  | content (delta : String)

/-- The part of `handle_stream_line` that reads the line. -/
def streamEvent (codec : Codec) (line : Bytes) : StreamEvent :=
  if line.isEmpty then .ignored
  else if !(lit "data:").isPrefixOf line then .ignored
  else
    -- only blanks are skipped after the colon
    let payload := (line.drop (lit "data:").length).dropWhile (· = chr ' ')
    if payload = lit "[DONE]" then .done
    else match codec.parse payload with
      -- the text of a parse error may quote the payload
      | .error what => .failed what
      | .ok parsed =>
        match parsed.get? "error" with
        | some error => .failed (codec.dump error)
        | none =>
          match (firstChoice parsed).bind (choiceText · "delta") with
          | some delta => if delta = "" then .ignored else .content delta
          | none => .ignored

/-- The latency of the first token, measured at the first delta. -/
def firstTokenLatency (state : StreamState) : Code Int :=
  if state.started then pure state.firstTokenLatencyMs
  else (fun now => now - state.beginMs) <$> nowMs

/-- The part of `handle_stream_line` that acts on it. A delta that cannot be
dumped throws after its index is taken, inside the `try`. -/
def handleStreamLine (codec : Codec) (req : InferenceRequest) (state : StreamState) (line : Bytes) :
    Code StreamState := do
  match streamEvent codec line with
  | .ignored => return state
  | .done => return { state with done := true }
  | .failed errorMessage => return { state with failed := true, errorMessage := errorMessage }
  | .content delta =>
    let firstTokenLatencyMs ← firstTokenLatency state
    -- `started` is set before the message goes out
    let thrown ← emitDelta req (lit delta) false state.index
    let state := { state with
      firstTokenLatencyMs := firstTokenLatencyMs, started := true, index := state.index + 1 }
    if thrown then return { state with failed := true, errorMessage := codec.what }
    return state

/-- The lines that the loop takes off the buffer, and what it leaves there. -/
def splitLines : Bytes → List Bytes × Bytes
  | [] => ([], [])
  | c :: rest =>
    let (lines, tail) := splitLines rest
    -- without a newline after it, a byte belongs to what is left in the buffer
    if c = chr '\n' then ([] :: lines, tail)
    else match lines with
      | [] => ([], c :: tail)
      | line :: lines => ((c :: line) :: lines, tail)

def stripReturn (line : Bytes) : Bytes :=
  if line.getLast? = some (chr '\r') then line.dropLast else line

def handleStreamLines (codec : Codec) (req : InferenceRequest) :
    StreamState → List Bytes → Code StreamState
  | state, [] => return state
  | state, line :: lines => do
    let state ← handleStreamLine codec req state (stripReturn line)
    handleStreamLines codec req state lines

def writeStreamCallback (codec : Codec) (req : InferenceRequest) (state : StreamState)
    (bytes : Bytes) : Code StreamState :=
  let (lines, tail) := splitLines (state.buffer ++ bytes)
  handleStreamLines codec req { state with buffer := tail } lines

/-- The text of a complete response, or the error message. -/
def extractResponseText (codec : Codec) (body : Bytes) : Except Bytes String :=
  match codec.parse body with
  | .error what => .error what
  | .ok parsed =>
    match parsed.get? "error" with
    | some error =>
      match error.get? "message" with
      | some (.str message) => .error (lit message)
      -- `get<std::string>` of a message that is no string throws
      | some _ => .error codec.what
      | none => .error (codec.dump error)
    | none =>
      match (firstChoice parsed).bind (choiceText · "message") with
      | some text => .ok text
      | none => .error (lit "missing choices content in vLLM response")

end VllmRoute.Scheduler
