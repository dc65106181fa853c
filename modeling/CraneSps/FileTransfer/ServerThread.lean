import CraneSps.FileTransfer.ServiceSocket

/-!
# The fetch server with its socket

`fetchServerThread` receives on a `REP` socket with a timeout.  What the
parser or a handler throws is logged and the loop receives again.  Without a
reply in between the socket raises an error every time, and since nothing is
read from the file any more the loop never ends.  The string literal that is
thrown for an unexpected chunk is not caught at all.  Other handlers may change
the file while it is served; its end is where the stream finds it, behind what
has been read ahead by then.
-/

namespace CraneSps
namespace FileTransfer

/-- What the handler of a message other than `FETCH_REQ` does.  It may change
the file that is being served, but not the chunk requested on a port. -/
inductive Handled
  | returned (content : Bytes)
  /-- It has thrown a `std::exception`. -/
  | threw
  /-- It does not come back. -/
  | lost
  deriving DecidableEq

/-- A message on the socket of the thread. -/
inductive Incoming
  | fetchRequest (request : FetchRequest)
  | other (handled : Handled)
  /-- Bytes that do not parse. -/
  | unparsable
  deriving DecidableEq

/-- The thread with its socket, and what it shares with the rest of the
process. -/
structure ServerThread where
  server : FetchServer
  /-- `serverChunkCountMap[port]`. -/
  requested : Int
  /-- What is in the file behind the stream. -/
  content : Bytes
  socket : RepSocket
  /-- The messages that have not been received yet; silence follows. -/
  queue : List Incoming
  /-- The replies that have been sent. -/
  replies : List FetchReply
  /-- A handler has been called that does not come back. -/
  lost : Bool

namespace ServerThread

/-- The thread before its loop. -/
def start
    (port : Int) (filename : String) (file : Option Bytes) (chunksize : Int)
    (messages : List Incoming) : ServerThread where
  server :=
    { port := port
      filename := filename
      fp := FileHelper.new file chunksize
      chunkCount := -1
      phase := .serving }
  requested := -1
  content := file.getD []
  socket := .receiving
  queue := messages
  replies := []
  lost := false

/-- `DFileMessageParser::parse` with the handler that it calls; `none` for a
`std::exception`. -/
def parse (thread : ServerThread) : Incoming → Option ServerThread
  | .fetchRequest request =>
      if request.port = thread.server.port then
        some { thread with requested := request.chunkid }
      else some thread
  | .other (.returned content) => some { thread with content := content }
  | .other .lost => some { thread with lost := true }
  | .other .threw => none
  | .unparsable => none

/-- Leave the function. -/
def leave (thread : ServerThread) (phase : ServerPhase) : ServerThread :=
  { thread with server := { thread.server with phase := phase } }

/-- Send a reply; the socket has just received. -/
def send (thread : ServerThread) (reply : FetchReply) : ServerThread :=
  match thread.socket.send with
  | some socket =>
      { thread with socket := socket, replies := thread.replies ++ [reply] }
  | none => thread

/-- After a `std::exception` has been caught and logged. -/
def caught (thread : ServerThread) : ServerThread :=
  match thread.server.phase with
  | .refetching => thread.leave .returned
  | _ => thread

/-- What follows on the call of the parser. -/
def answer (thread : ServerThread) : ServerThread :=
  match thread.server.phase with
  | .serving =>
      if thread.requested ≥ 0 ∧
          thread.requested = thread.server.chunkCount then
        thread.send thread.server.chunkReply
      else if thread.requested = thread.server.chunkCount + 1 then
        let server := thread.server.advance thread.content
        { thread with server := server }.send server.chunkReply
      else thread.leave .terminated
  | .refetching =>
      if thread.requested ≥ 0 ∧
          thread.requested = thread.server.chunkCount then
        (thread.send
          { filename := none
            chunkid := none
            data := some thread.server.fp.getPrevChunk
            chunksize := none }).leave .returned
      else thread.leave .terminated
  | .returned => thread
  | .terminated => thread

/-- One round of the loop, or the code behind the loop. -/
def round (thread : ServerThread) : ServerThread :=
  if thread.lost ∨ thread.server.phase = .returned ∨
      thread.server.phase = .terminated then thread
  else
    match thread.socket.recv, thread.queue with
    -- `recv` raises an error before the last message has been replied to
    | none, _ => thread.caught
    -- the timeout
    | some _, [] => thread.leave .returned
    | some socket, message :: messages =>
        let received := { thread with socket := socket, queue := messages }
        match received.parse message with
        | none => received.caught
        | some parsed => if parsed.lost then parsed else parsed.answer

/-- The thread function returns. -/
def Returns (thread : ServerThread) : Prop :=
  ∃ rounds, (round^[rounds] thread).server.phase = .returned

variable {thread : ServerThread}

theorem round_of_ended
    (ended : thread.lost ∨ thread.server.phase = .returned ∨
      thread.server.phase = .terminated) :
    thread.round = thread := by
  rw [round, if_pos ended]

/-- The thread returns if it returns after one more round. -/
theorem returns_iff_round : thread.Returns ↔ thread.round.Returns := by
  constructor
  · rintro ⟨rounds, returned⟩
    cases rounds with
    | zero =>
        refine ⟨0, ?_⟩
        have same := round_of_ended (.inr (.inl returned))
        exact (congrArg (fun thread => thread.server.phase) same).trans returned
    | succ rounds => exact ⟨rounds, returned⟩
  · rintro ⟨rounds, returned⟩
    exact ⟨rounds + 1, returned⟩

/-- A thread that a round leaves as it is stays where it is. -/
theorem returns_iff_of_fixed (fixed : thread.round = thread) :
    thread.Returns ↔ thread.server.phase = .returned := by
  constructor
  · rintro ⟨rounds, returned⟩
    rw [Function.iterate_fixed fixed] at returned
    exact returned
  · intro returned
    exact ⟨0, returned⟩

theorem returns_of_phase (returned : thread.server.phase = .returned) :
    thread.Returns :=
  ⟨0, returned⟩

theorem not_returns_of_terminated
    (terminated : thread.server.phase = .terminated) : ¬ thread.Returns := by
  rw [returns_iff_of_fixed (round_of_ended (.inr (.inr terminated))),
    terminated]
  nofun

theorem not_returns_of_lost
    (lost : thread.lost = true) (running : thread.server.phase ≠ .returned) :
    ¬ thread.Returns := by
  rw [returns_iff_of_fixed (round_of_ended (.inl lost))]
  exact running

/-- The loop receives without having replied, again and again. -/
theorem not_returns_of_replying
    (serving : thread.server.phase = .serving)
    (replying : thread.socket = .replying) : ¬ thread.Returns := by
  have fixed : thread.round = thread := by
    unfold round
    split
    · rfl
    · simp [replying, RepSocket.recv, caught, serving]
  rw [returns_iff_of_fixed fixed, serving]
  intro returned
  cases returned

/-- The thread waits for a message after it has served a number of chunks. -/
structure Waiting (thread : ServerThread) (served : Nat) : Prop where
  lost : thread.lost = false
  receiving : thread.socket = .receiving
  chunkCount : thread.server.chunkCount = served - 1
  requested : thread.requested = served - 1

/-- The thread is in its loop and has taken whole chunks from its stream, which
has read the file up to an offset. -/
structure Serving
    (thread : ServerThread) (isOpen : Bool) (size served offset : Nat) : Prop
    extends thread.Waiting served where
  phase : thread.server.phase = .serving
  stream : thread.server.fp.isOpen = isOpen
  ch_size : thread.server.fp.ch_size.toNat = size
  notEof : thread.server.fp.eof = false
  position : isOpen = true → thread.server.fp.position = served * size
  bytesRead : isOpen = true → thread.server.fp.bytesRead = offset

theorem serving_start
    (port : Int) (filename : String) (file : Option Bytes) (chunksize : Int)
    (messages : List Incoming) :
    (start port filename file chunksize messages).Serving file.isSome
      chunksize.toNat 0 0 where
  lost := rfl
  receiving := rfl
  chunkCount := rfl
  requested := rfl
  phase := rfl
  stream := rfl
  ch_size := rfl
  notEof := rfl
  position := fun _ => by simp [start, FileHelper.new]
  bytesRead := fun _ => rfl

namespace Waiting

variable {served : Nat}

theorem not_ended
    (waiting : thread.Waiting served)
    (running : thread.server.phase = .serving ∨
      thread.server.phase = .refetching) :
    ¬ (thread.lost ∨ thread.server.phase = .returned ∨
      thread.server.phase = .terminated) := by
  rw [waiting.lost]
  rcases running with serving | refetching
  · simp [serving]
  · simp [refetching]

/-- The timeout ends the thread. -/
theorem round_nil
    (waiting : thread.Waiting served)
    (running : thread.server.phase = .serving ∨
      thread.server.phase = .refetching)
    (silence : thread.queue = []) :
    thread.round = thread.leave .returned := by
  rw [round, if_neg (waiting.not_ended running), waiting.receiving, silence]
  rfl

/-- The round in which a message is received. -/
theorem round_cons
    {message : Incoming} {messages : List Incoming}
    (waiting : thread.Waiting served)
    (running : thread.server.phase = .serving ∨
      thread.server.phase = .refetching)
    (queue : thread.queue = message :: messages) :
    thread.round =
      match { thread with socket := .replying, queue := messages }.parse
          message with
      | none =>
          { thread with socket := .replying, queue := messages }.caught
      | some parsed => if parsed.lost then parsed else parsed.answer := by
  rw [round, if_neg (waiting.not_ended running), waiting.receiving, queue]
  rfl

end Waiting

namespace Serving

variable {isOpen : Bool} {size served offset : Nat}
variable {message : Incoming} {messages : List Incoming}

/-- A message that leaves the requested chunk as it is makes the thread send
its last chunk again, if there is one. -/
theorem round_again
    {content : Bytes}
    (serving : thread.Serving isOpen size served offset)
    (queue : thread.queue = message :: messages)
    (parsed : { thread with socket := .replying, queue := messages }.parse
        message =
      some { thread with
        socket := .replying, queue := messages, content := content }) :
    thread.round =
      if 0 < served then
        { thread with
          queue := messages
          content := content
          replies := thread.replies ++ [thread.server.chunkReply] }
      else
        { thread with
          socket := .replying, queue := messages,
          content := content }.leave .terminated := by
  rw [serving.round_cons (.inl serving.phase) queue, parsed]
  have requested := serving.requested
  have chunkCount := serving.chunkCount
  have receiving := serving.receiving
  by_cases first : 0 < served
  · have again : thread.requested ≥ 0 ∧
        thread.requested = thread.server.chunkCount := by omega
    simp only [serving.lost, Bool.false_eq_true, if_false, answer,
      serving.phase, if_pos again, if_pos first, send, RepSocket.send,
      ← receiving]
  · have never : ¬ (thread.requested ≥ 0 ∧
        thread.requested = thread.server.chunkCount) := by omega
    have notNext : ¬ thread.requested = thread.server.chunkCount + 1 := by
      omega
    simp only [serving.lost, Bool.false_eq_true, if_false, answer,
      serving.phase, if_neg never, if_neg notNext, if_neg first]

/-- A request of the next chunk. -/
theorem round_next
    {request : FetchRequest}
    (serving : thread.Serving isOpen size served offset)
    (queue : thread.queue = .fetchRequest request :: messages)
    (port : request.port = thread.server.port)
    (next : request.chunkid = served) :
    thread.round =
      { thread with
        server := thread.server.advance thread.content
        requested := served
        queue := messages
        replies := thread.replies ++
          [(thread.server.advance thread.content).chunkReply] } := by
  rw [serving.round_cons (.inl serving.phase) queue]
  have chunkCount := serving.chunkCount
  have receiving := serving.receiving
  have notAgain : ¬ ((served : Int) ≥ 0 ∧
      (served : Int) = thread.server.chunkCount) := by omega
  have advanced : (served : Int) = thread.server.chunkCount + 1 := by omega
  simp only [parse, if_pos port, serving.lost, Bool.false_eq_true, if_false,
    answer, serving.phase, if_neg notAgain, if_pos advanced, send,
    RepSocket.send, ← receiving, next]

/-- A request of any other chunk ends the process. -/
theorem round_bad
    {request : FetchRequest}
    (serving : thread.Serving isOpen size served offset)
    (queue : thread.queue = .fetchRequest request :: messages)
    (port : request.port = thread.server.port)
    (notLast : request.chunkid + 1 ≠ served)
    (notNext : request.chunkid ≠ served) :
    thread.round.server.phase = .terminated := by
  rw [serving.round_cons (.inl serving.phase) queue]
  have chunkCount := serving.chunkCount
  have notAgain : ¬ (request.chunkid ≥ 0 ∧
      request.chunkid = thread.server.chunkCount) := by omega
  have notAdvanced : ¬ request.chunkid = thread.server.chunkCount + 1 := by
    omega
  simp only [parse, if_pos port, serving.lost, Bool.false_eq_true, if_false,
    answer, serving.phase, if_neg notAgain, if_neg notAdvanced, leave]

/-- Nothing of what a thread waits with is touched by a repeated reply. -/
theorem again
    (serving : thread.Serving isOpen size served offset) (content : Bytes)
    (replies : List FetchReply) :
    { thread with
      queue := messages
      content := content
      replies := replies }.Serving isOpen size served offset where
  lost := serving.lost
  receiving := serving.receiving
  chunkCount := serving.chunkCount
  requested := serving.requested
  phase := serving.phase
  stream := serving.stream
  ch_size := serving.ch_size
  notEof := serving.notEof
  position := serving.position
  bytesRead := serving.bytesRead

/-- Whether the next chunk is the one that runs into the end of the file. -/
theorem advance_eof (serving : thread.Serving isOpen size served offset) :
    (thread.server.advance thread.content).fp.eof =
      decide (isOpen = true ∧
        max offset thread.content.length < (served + 1) * size) := by
  have eof := @FileHelper.getNextChunk_eof _ thread.content _ _
    serving.notEof serving.ch_size
    fun opened => serving.position (serving.stream.symm.trans opened)
  refine eof.trans (decide_eq_decide.mpr ?_)
  rw [serving.stream]
  apply and_congr_right
  intro opened
  rw [serving.bytesRead opened]

/-- The chunk is served, whatever comes next. -/
theorem waiting_advance
    (serving : thread.Serving isOpen size served offset)
    (messages : List Incoming) (replies : List FetchReply) :
    { thread with
      server := thread.server.advance thread.content
      requested := served
      queue := messages
      replies := replies }.Waiting (served + 1) where
  lost := serving.lost
  receiving := serving.receiving
  chunkCount := by
    have chunkCount := serving.chunkCount
    change thread.server.chunkCount + 1 = _
    omega
  requested := by
    change (served : Int) = _
    omega

/-- The thread stays in its loop. -/
theorem next
    (serving : thread.Serving isOpen size served offset)
    (more : ¬ (isOpen = true ∧
      max offset thread.content.length < (served + 1) * size))
    (replies : List FetchReply) :
    { thread with
      server := thread.server.advance thread.content
      requested := served
      queue := messages
      replies := replies }.Serving isOpen size (served + 1)
        (FileHelper.readTo offset ((served + 1) * size)
          thread.content.length) := by
  have eof := serving.advance_eof
  rw [decide_eq_false more] at eof
  have taken : isOpen = true →
      (thread.server.fp.getNextChunk thread.content).position =
          (served + 1) * size ∧
        (thread.server.fp.getNextChunk thread.content).bytesRead =
          FileHelper.readTo offset ((served + 1) * size)
            thread.content.length := by
    intro opened
    have enough : (served + 1) * size ≤
        max thread.server.fp.bytesRead thread.content.length := by
      rw [serving.bytesRead opened]
      by_contra short
      exact more ⟨opened, Nat.not_le.mp short⟩
    have whole := FileHelper.getNextChunk_bytesRead
      (serving.stream.trans opened) serving.notEof serving.ch_size
      (serving.position opened) enough
    rw [serving.bytesRead opened] at whole
    exact whole
  exact
    { toWaiting := serving.waiting_advance messages replies
      phase := by
        change (if (thread.server.advance thread.content).fp.eof
          then _ else _) = _
        rw [eof]
        rfl
      stream := (FileHelper.getNextChunk_isOpen _ _).trans serving.stream
      ch_size := (congrArg Int.toNat
        (FileHelper.getNextChunk_ch_size _ _)).trans serving.ch_size
      notEof := eof
      position := fun opened => (taken opened).1
      bytesRead := fun opened => (taken opened).2 }

/-- The end of the file has been hit. -/
theorem last
    (serving : thread.Serving isOpen size served offset)
    (ends : isOpen = true ∧
      max offset thread.content.length < (served + 1) * size)
    (messages : List Incoming) (replies : List FetchReply) :
    { thread with
      server := thread.server.advance thread.content
      requested := served
      queue := messages
      replies := replies }.Waiting (served + 1) ∧
    (thread.server.advance thread.content).phase = .refetching := by
  constructor
  · exact serving.waiting_advance messages replies
  · have eof := serving.advance_eof
    rw [decide_eq_true ends] at eof
    change (if (thread.server.advance thread.content).fp.eof then _ else _) = _
    rw [eof]
    rfl

end Serving

/-! ## Threads that only receive requests -/

/-- The thread without its socket, on the node that it runs on. -/
structure Mirrors
    (thread : ServerThread) (node : DFile) (server : FetchServer) : Prop where
  same : thread.server = server
  content : thread.content =
    (node.disk (DFile.filePath server.filename)).getD []
  waiting : server.phase = .serving ∨ server.phase = .refetching →
    (∃ served, thread.Waiting served) ∧
      thread.requested = node.serverChunkCountMap server.port

namespace Mirrors

variable {node : DFile} {server : FetchServer} {request : FetchRequest}
variable {messages : List Incoming}

/-- A round with a request is `FetchServer.receive`. -/
theorem round
    (mirrors : thread.Mirrors node server)
    (running : server.phase = .serving ∨ server.phase = .refetching)
    (queue : thread.queue = .fetchRequest request :: messages) :
    thread.round.Mirrors (FetchServer.receive node server request).1
        (FetchServer.receive node server request).2.1 ∧
      thread.round.queue = messages ∧
      thread.round.replies = thread.replies ++
        (FetchServer.receive node server request).2.2.toList := by
  obtain ⟨rfl, content, waiting⟩ := mirrors
  obtain ⟨⟨served, waiting⟩, requested⟩ := waiting running
  let chunkid := if request.port = thread.server.port then request.chunkid
    else thread.requested
  have informed : (node.sendNextChunk request.port
      request.chunkid).serverChunkCountMap thread.server.port = chunkid := by
    simp only [DFile.sendNextChunk, Function.update_apply, requested,
      @eq_comm _ thread.server.port, chunkid]
  have parsed : { thread with socket := .replying, queue := messages }.parse
        (.fetchRequest request) =
      some { thread with
        socket := .replying, queue := messages, requested := chunkid } := by
    by_cases port : request.port = thread.server.port
    · simp only [parse, if_pos port, chunkid]
    · simp only [parse, if_neg port, chunkid]
  have answered : thread.round =
      { thread with
        socket := .replying
        queue := messages
        requested := chunkid }.answer := by
    rw [waiting.round_cons running queue, parsed]
    simp only [waiting.lost, Bool.false_eq_true, if_false]
  have chunkCount := waiting.chunkCount
  rw [answered]
  rcases running with serving | refetching
  · by_cases again : chunkid ≥ 0 ∧ chunkid = thread.server.chunkCount
    · simp only [FetchServer.receive, serving, informed, answer, if_pos again,
        send, RepSocket.send]
      refine ⟨⟨rfl, content, fun _ => ⟨⟨served, ?_⟩, informed.symm⟩⟩,
        trivial, rfl⟩
      exact
        { lost := waiting.lost
          receiving := rfl
          chunkCount := chunkCount
          requested := again.2.trans chunkCount }
    · by_cases next : chunkid = thread.server.chunkCount + 1
      · simp only [FetchServer.receive, serving, informed, answer,
          if_neg again, if_pos next, send, RepSocket.send, ← content]
        refine ⟨⟨rfl, content, fun _ => ⟨⟨served + 1, ?_⟩, informed.symm⟩⟩,
          trivial, rfl⟩
        exact
          { lost := waiting.lost
            receiving := rfl
            chunkCount := by
              change thread.server.chunkCount + 1 = _
              omega
            requested := by
              change chunkid = _
              omega }
      · simp only [FetchServer.receive, serving, informed, answer,
          if_neg again, if_neg next, leave]
        refine ⟨⟨rfl, content, ?_⟩, trivial, (List.append_nil _).symm⟩
        rintro (isServing | isRefetching)
        · cases isServing
        · cases isRefetching
  · by_cases again : chunkid ≥ 0 ∧ chunkid = thread.server.chunkCount
    · simp only [FetchServer.receive, refetching, informed, answer,
        if_pos again, send, RepSocket.send, leave]
      refine ⟨⟨rfl, content, ?_⟩, trivial, rfl⟩
      rintro (isServing | isRefetching)
      · cases isServing
      · cases isRefetching
    · simp only [FetchServer.receive, refetching, informed, answer,
        if_neg again, leave]
      refine ⟨⟨rfl, content, ?_⟩, trivial, (List.append_nil _).symm⟩
      rintro (isServing | isRefetching)
      · cases isServing
      · cases isRefetching

/-- As many rounds as there are requests are `FetchServer.receiveAll`. -/
theorem iterate_round
    {requests : List FetchRequest} (mirrors : thread.Mirrors node server)
    (queue : thread.queue = requests.map .fetchRequest) :
    (ServerThread.round^[requests.length] thread).server =
        (FetchServer.receiveAll node server requests).2.1 ∧
      (ServerThread.round^[requests.length] thread).replies =
        thread.replies ++
          (FetchServer.receiveAll node server requests).2.2 := by
  induction requests generalizing thread node server with
  | nil => exact ⟨mirrors.same, (List.append_nil _).symm⟩
  | cons request requests inductionHypothesis =>
      by_cases running : server.phase = .serving ∨ server.phase = .refetching
      · obtain ⟨still, rest, replies⟩ := mirrors.round running queue
        obtain ⟨final, allReplies⟩ := inductionHypothesis still rest
        refine ⟨final, allReplies.trans ?_⟩
        rw [replies, List.append_assoc]
        rfl
      · have ended : server.phase = .returned ∨
            server.phase = .terminated := by
          cases phase : server.phase with
          | serving => exact absurd (.inl phase) running
          | refetching => exact absurd (.inr phase) running
          | returned => exact .inl rfl
          | terminated => exact .inr rfl
        have fixed : thread.round = thread := by
          refine round_of_ended (.inr ?_)
          rwa [mirrors.same]
        rw [Function.iterate_fixed fixed,
          FetchServer.receiveAll_of_ended ended]
        exact ⟨mirrors.same, (List.append_nil _).symm⟩

end Mirrors

/-- A thread to which only requests are sent serves them as the server on its
node does. -/
theorem iterate_round_start
    (node : DFile) (port : Int) (filename : String) (chunksize : Int)
    (requests : List FetchRequest) :
    let started := FetchServer.start node port filename chunksize
    let thread := start port filename (node.disk (DFile.filePath filename))
      chunksize (requests.map .fetchRequest)
    (round^[requests.length] thread).server =
        (FetchServer.receiveAll started.1 started.2 requests).2.1 ∧
      (round^[requests.length] thread).replies =
        (FetchServer.receiveAll started.1 started.2 requests).2.2 := by
  intro started thread
  have requested : started.1.serverChunkCountMap started.2.port = -1 :=
    Function.update_self _ _ _
  have mirrors : thread.Mirrors started.1 started.2 :=
    { same := rfl
      content := rfl
      waiting := fun _ =>
        ⟨⟨0, (serving_start port filename _ chunksize _).toWaiting⟩,
          requested.symm⟩ }
  exact mirrors.iterate_round rfl

/-! ## The clients that the thread survives -/

section Orderly

variable (port : Int) (isOpen : Bool) (size : Nat)

/-- Behind the loop one message is received, which is no request of another
chunk than the last one. -/
def Final (served : Nat) : List Incoming → Prop
  | .fetchRequest request :: _ =>
      request.port = port → request.chunkid + 1 = served
  | .other .lost :: _ => False
  | _ => True

/-- In the loop, after a number of chunks, with a stream that has read the file
up to an offset: every message can be parsed and processed, the first one asks
for the first chunk, and every request for the port asks for the last chunk or
for the next one. -/
def Orderly (served offset : Nat) (content : Bytes) : List Incoming → Prop
  | [] => True
  | .fetchRequest request :: messages =>
      if request.port = port ∧ request.chunkid + 1 ≠ served then
        request.chunkid = served ∧
          if isOpen = true ∧
              max offset content.length < (served + 1) * size then
            Final port (served + 1) messages
          else
            Orderly (served + 1)
              (FileHelper.readTo offset ((served + 1) * size) content.length)
              content messages
      else 0 < served ∧ Orderly served offset content messages
  | .other (.returned changed) :: messages =>
      0 < served ∧ Orderly served offset changed messages
  | .other .threw :: _ => False
  | .other .lost :: _ => False
  | .unparsable :: _ => False

end Orderly

/-- Behind the loop. -/
theorem Waiting.returns_iff_final
    {served : Nat}
    (waiting : thread.Waiting served) (positive : 0 < served)
    (refetching : thread.server.phase = .refetching) :
    thread.Returns ↔ Final thread.server.port served thread.queue := by
  have chunkCount := waiting.chunkCount
  have requested := waiting.requested
  rw [returns_iff_round]
  cases queue : thread.queue with
  | nil =>
      rw [waiting.round_nil (.inr refetching) queue]
      exact iff_of_true (returns_of_phase rfl) trivial
  | cons message messages =>
      rw [waiting.round_cons (.inr refetching) queue]
      have last : thread.requested ≥ 0 ∧
          thread.requested = thread.server.chunkCount := by omega
      cases message with
      | fetchRequest request =>
          by_cases port : request.port = thread.server.port
          · by_cases expected : request.chunkid + 1 = served
            · have again : request.chunkid ≥ 0 ∧
                  request.chunkid = thread.server.chunkCount := by omega
              simp only [parse, if_pos port, waiting.lost, Bool.false_eq_true,
                if_false, answer, refetching, if_pos again]
              exact iff_of_true (returns_of_phase rfl) fun _ => expected
            · have other : ¬ (request.chunkid ≥ 0 ∧
                  request.chunkid = thread.server.chunkCount) := by omega
              simp only [parse, if_pos port, waiting.lost, Bool.false_eq_true,
                if_false, answer, refetching, if_neg other]
              exact iff_of_false (not_returns_of_terminated rfl)
                fun final => expected (final port)
          · simp only [parse, if_neg port, waiting.lost, Bool.false_eq_true,
              if_false, answer, refetching, if_pos last]
            exact iff_of_true (returns_of_phase rfl) fun same =>
              absurd same port
      | other handled =>
          cases handled with
          | returned content =>
              simp only [parse, waiting.lost, Bool.false_eq_true, if_false,
                answer, refetching, if_pos last]
              exact iff_of_true (returns_of_phase rfl) trivial
          | threw =>
              simp only [parse, caught, refetching]
              exact iff_of_true (returns_of_phase rfl) trivial
          | lost =>
              refine iff_of_false (not_returns_of_lost rfl ?_) not_false
              change thread.server.phase ≠ .returned
              rw [refetching]
              nofun
      | unparsable =>
          simp only [parse, caught, refetching]
          exact iff_of_true (returns_of_phase rfl) trivial

/-- In the loop. -/
theorem Serving.returns_iff_orderly
    {isOpen : Bool} {size served offset : Nat} {messages : List Incoming}
    (serving : thread.Serving isOpen size served offset)
    (queue : thread.queue = messages) :
    thread.Returns ↔
      Orderly thread.server.port isOpen size served offset thread.content
        messages := by
  induction messages generalizing thread served offset with
  | nil =>
      rw [returns_iff_round, serving.round_nil (.inl serving.phase) queue]
      exact iff_of_true (returns_of_phase rfl) trivial
  | cons message messages inductionHypothesis =>
      rw [returns_iff_round]
      -- a message that does not change the requested chunk
      have again : ∀ {content : Bytes},
          { thread with socket := .replying, queue := messages }.parse
              message =
            some { thread with
              socket := .replying, queue := messages, content := content } →
          (thread.round.Returns ↔ 0 < served ∧
            Orderly thread.server.port isOpen size served offset content
              messages) := by
        intro content parsed
        rw [serving.round_again queue parsed]
        split
        next first =>
          rw [inductionHypothesis (serving.again _ _) rfl]
          exact (and_iff_right first).symm
        next none =>
          exact iff_of_false (not_returns_of_terminated rfl)
            fun orderly => none orderly.1
      cases message with
      | fetchRequest request =>
          by_cases advances :
            request.port = thread.server.port ∧ request.chunkid + 1 ≠ served
          · rw [Orderly, if_pos advances]
            by_cases next : request.chunkid = served
            · rw [serving.round_next queue advances.1 next]
              refine Iff.trans ?_ (and_iff_right next).symm
              split
              next ends =>
                obtain ⟨waiting, refetching⟩ := serving.last ends _ _
                exact waiting.returns_iff_final (Nat.succ_pos _) refetching
              next more => exact inductionHypothesis (serving.next more _) rfl
            · have terminated := serving.round_bad queue advances.1
                advances.2 next
              exact iff_of_false (not_returns_of_terminated terminated)
                fun orderly => next orderly.1
          · rw [Orderly, if_neg advances]
            apply again
            have requested := serving.requested
            by_cases port : request.port = thread.server.port
            · have same : request.chunkid = thread.requested := by
                by_contra changed
                exact advances ⟨port, by omega⟩
              simp only [parse, if_pos port, same]
            · simp only [parse, if_neg port]
      | other handled =>
          cases handled with
          | returned content => exact again rfl
          | threw =>
              rw [serving.round_cons (.inl serving.phase) queue]
              simp only [parse, caught, serving.phase]
              exact iff_of_false
                (not_returns_of_replying serving.phase rfl) not_false
          | lost =>
              rw [serving.round_cons (.inl serving.phase) queue]
              refine iff_of_false (not_returns_of_lost rfl ?_) not_false
              change thread.server.phase ≠ .returned
              rw [serving.phase]
              nofun
      | unparsable =>
          rw [serving.round_cons (.inl serving.phase) queue]
          simp only [parse, caught, serving.phase]
          exact iff_of_false
            (not_returns_of_replying serving.phase rfl) not_false

/-- A file that is truncated behind the first chunk has been read ahead by
then, so the thread is still in its loop when it receives the last message. -/
example :
    ¬ (start 9601 "f" (some [97, 98]) 1
      [.fetchRequest ⟨"f", 9601, 0⟩, .other (.returned []),
        .fetchRequest ⟨"f", 9601, 1⟩, .unparsable]).Returns := by
  rw [(serving_start 9601 "f" (some [97, 98]) 1 _).returns_iff_orderly rfl]
  simp [Orderly, start, FileHelper.readTo, FileHelper.blockSize,
    List.chunkCount]

end ServerThread

/-- The fetch server returns exactly for the clients that ask for the chunks
in order, begin with the first one, and send nothing that cannot be parsed or
processed before the end of the file has been read. -/
theorem fetchServerThread_returns_iff
    (port : Int) (filename : String) (file : Option Bytes) (chunksize : Int)
    (messages : List Incoming) :
    (ServerThread.start port filename file chunksize messages).Returns ↔
      ServerThread.Orderly port file.isSome chunksize.toNat 0 0
        (file.getD []) messages :=
  (ServerThread.serving_start port filename file chunksize
    messages).returns_iff_orderly rfl

/-- A message that does not parse keeps the thread in its loop for ever, and
a request of the second chunk before the first ends the process. -/
theorem fetchServerThread_not_returns :
    ¬ (ServerThread.start 9601 "f" (some [1]) 2 [.unparsable]).Returns ∧
      (ServerThread.start 9601 "f" (some [1]) 2
        [.fetchRequest ⟨"f", 9601, 1⟩]).round.server.phase =
          .terminated := by
  constructor
  · rw [(ServerThread.serving_start 9601 "f" (some [1]) 2
      [.unparsable]).returns_iff_orderly rfl]
    exact not_false
  · decide

end FileTransfer
end CraneSps
