import Mathlib.Data.List.ReduceOption
import VllmRoute.Access.Session
import VllmRoute.Lib.Run

/-!
# Framing

What `unit_action_match` is handed for the bytes of a connection. Every read is
taken for one message, so the client's messages come through exactly when the
stream was cut at their ends.
-/
namespace VllmRoute.Access

open Lib Network

/-- A message as the client writes it. -/
def framed (message : Bytes) : Bytes := message ++ [newline]

@[simp] theorem length_framed (message : Bytes) : (framed message).length = message.length + 1 := by
  simp [framed]

theorem stripNewline_framed (message : Bytes) : stripNewline (framed message) = message := by
  simp [stripNewline, framed]

theorem eq_framed_or_eq_stripNewline (read : Bytes) :
    read = framed (stripNewline read) ∨ read = stripNewline read := by
  unfold stripNewline framed
  split
  next last => exact Or.inl (List.dropLast_append_getLast? _ last).symm
  next => exact Or.inr rfl

/-- Framing the text of every read again adds at least what was stripped. -/
theorem length_reads_le (reads : List Bytes) :
    reads.flatten.length ≤ (reads.map fun read => framed (stripNewline read)).flatten.length := by
  induction reads with
  | nil => exact Nat.le_refl _
  | cons read reads ih =>
    simp only [List.map_cons, List.flatten_cons, List.length_append]
    rcases eq_framed_or_eq_stripNewline read with whole | bare
    · rw [← whole]
      omega
    · rw [← bare]
      rw [length_framed]
      omega

/-- If nothing is added, every read was one framed text. -/
theorem reads_eq_framed (reads : List Bytes)
    (same : reads.flatten.length =
      (reads.map fun read => framed (stripNewline read)).flatten.length) :
    reads = reads.map fun read => framed (stripNewline read) := by
  induction reads with
  | nil => rfl
  | cons read reads ih =>
    have rest := length_reads_le reads
    simp only [List.map_cons, List.flatten_cons, List.length_append] at same
    rcases eq_framed_or_eq_stripNewline read with whole | bare
    · rw [← whole] at same
      rw [List.map_cons, ← whole, ← ih (by omega)]
    · -- a read without its newline is one shorter, and the others cannot make up for it
      rw [← bare] at same
      rw [length_framed] at same
      omega

/-- The reads carry the messages one by one exactly when their texts are the messages. -/
theorem map_stripNewline_eq_iff (messages reads : List Bytes)
    (cut : reads.flatten = (messages.map framed).flatten) :
    reads.map stripNewline = messages ↔ reads = messages.map framed := by
  constructor
  · -- then framing the texts again gives back the stream, so nothing was added
    rintro rfl
    rw [List.map_map] at cut
    rw [List.map_map]
    exact reads_eq_framed reads (congrArg List.length cut)
  · rintro rfl
    rw [List.map_map]
    simp [Function.comp_def, stripNewline_framed]

/-- One event on a live connection whose buffer was emptied by the previous one. -/
theorem handleRead_spec (conn : TcpConnection) (session : TcpSession) (result : Option Bytes)
    (connected : conn.connected = true) (context : conn.context = some session)
    (empty : conn.inputBuffer.content = []) (more : result ≠ some []) :
    ∃ conn', conn.handleRead result = some conn' ∧ conn'.connected = true ∧
      conn'.context = some session ∧ conn'.inputBuffer.content = [] ∧
      conn'.handed =
        conn.handed ++ result.toList.map fun read => (session.port, stripNewline read) := by
  unfold TcpConnection.handleRead
  rw [if_pos connected]
  cases result with
  | none => exact ⟨conn, rfl, connected, context, empty, by simp⟩
  | some received =>
    cases received with
    | nil => exact absurd rfl more
    | cons c rest =>
      -- the whole buffer goes out as one text, and nothing is kept for the next read
      obtain ⟨filled, read, content⟩ := conn.inputBuffer.readFd_spec (c :: rest)
      obtain ⟨emptied, retrieved, nothing⟩ := filled.retrieveAllAsString_spec
      rw [content, empty, List.nil_append] at retrieved
      refine ⟨{ conn with
        inputBuffer := emptied
        handed := conn.handed ++ [(session.port, stripNewline (c :: rest))] },
        ?_, connected, context, nothing, rfl⟩
      simp [read, TcpConnection.onMessage, retrieved, context, selectJsonStr, TcpSession.onData]

/-- A run of reads hands over the text of each read. -/
theorem run_handleRead (session : TcpSession) (results : List (Option Bytes)) (conn : TcpConnection)
    (connected : conn.connected = true) (context : conn.context = some session)
    (empty : conn.inputBuffer.content = []) (more : some [] ∉ results) :
    ∃ s, run TcpConnection.handleRead conn results = some s ∧
      s.handed = conn.handed ++
        (results.reduceOption.map stripNewline).map fun text => (session.port, text) := by
  induction results generalizing conn with
  | nil => exact ⟨conn, rfl, by simp⟩
  | cons result results ih =>
    obtain ⟨first, rest⟩ := not_or.mp (List.mem_cons.not.mp more)
    obtain ⟨conn', step, connected', context', empty', handed⟩ :=
      handleRead_spec conn session result connected context empty (Ne.symm first)
    obtain ⟨s, ran, all⟩ := ih conn' connected' context' empty' rest
    refine ⟨s, (run_cons_iff _ _ _ _ _).mpr ⟨conn', step, ran⟩, ?_⟩
    rw [all, handed]
    cases result <;> simp

/-- For every way to cut the stream of a client's messages into reads: the texts handed
to `unit_action_match` are the messages exactly when every read was one
message with its newline. -/
theorem framing_iff_message_per_read (port : Int) (messages : List Bytes)
    (results : List (Option Bytes)) (open_ : some [] ∉ results)
    (cut : results.reduceOption.flatten = (messages.map framed).flatten) :
    ∃ s, run TcpConnection.handleRead (.accept port) results = some s ∧
      (s.handed = messages.map (fun message => (port, message)) ↔
        results.reduceOption = messages.map framed) := by
  obtain ⟨s, ran, handed⟩ := run_handleRead ⟨port⟩ results (.accept port) rfl rfl
    (Buffer.content_ofSize _) open_
  refine ⟨s, ran, ?_⟩
  have injective : Function.Injective fun message : Bytes => (port, message) :=
    fun _ _ equal => (Prod.mk.inj equal).2
  rw [handed, TcpConnection.accept, List.nil_append, List.map_inj_right injective,
    map_stripNewline_eq_iff messages _ cut]

def pingText : Bytes := lit "\x7b\"request_id\":\"1\",\"work_id\":\"sys\",\"action\":\"ping\"\x7d"

def exitText : Bytes :=
  lit "\x7b\"request_id\":\"2\",\"work_id\":\"llm.1000\",\"action\":\"exit\"\x7d"

/-- One message per read, with a failed read in between. -/
theorem framing_iff_message_per_read_separate :
    ∃ s, run TcpConnection.handleRead (.accept 8000)
        [some (framed pingText), none, some (framed exitText)] = some s ∧
      s.handed = [(8000, pingText), (8000, exitText)] := by
  obtain ⟨s, ran, iff⟩ := framing_iff_message_per_read 8000 [pingText, exitText]
    [some (framed pingText), none, some (framed exitText)] (by simp [framed]) rfl
  exact ⟨s, ran, iff.mpr rfl⟩

/-- Two messages in one read are taken for one. -/
theorem pipelined_messages_merged :
    [some (framed pingText ++ framed exitText)].reduceOption.flatten =
      ([pingText, exitText].map framed).flatten ∧
    ∃ s, run TcpConnection.handleRead (.accept 8000) [some (framed pingText ++ framed exitText)] =
        some s ∧
      s.handed = [(8000, framed pingText ++ exitText)] ∧
      s.handed ≠ [pingText, exitText].map fun message => (8000, message) := by
  refine ⟨rfl, ?_⟩
  obtain ⟨s, ran, handed⟩ := run_handleRead ⟨8000⟩ [some (framed pingText ++ framed exitText)]
    (.accept 8000) rfl rfl (Buffer.content_ofSize _) (by simp [framed])
  have text : stripNewline (framed pingText ++ framed exitText) = framed pingText ++ exitText := by
    simpa [framed] using stripNewline_framed (framed pingText ++ exitText)
  have merged : s.handed = [(8000, framed pingText ++ exitText)] := by
    rw [handed, ← text]
    rfl
  exact ⟨s, ran, merged, by simp [merged]⟩

end VllmRoute.Access
