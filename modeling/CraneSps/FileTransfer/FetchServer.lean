import CraneSps.FileTransfer.DFile

/-!
# The thread that serves one file

`fetchServerThread` answers one request at a time.  Its loop ends when the
stream has hit the end of the file, after which it waits once more for a
repeated request of the last chunk.  A request it does not expect ends the
process, since nothing catches the string literal that is thrown.
-/

namespace CraneSps
namespace FileTransfer

/-- Where the thread stands. -/
inductive ServerPhase
  /-- In the loop, waiting for a request. -/
  | serving
  /-- After the loop, waiting for the last chunk to be requested again. -/
  | refetching
  | returned
  /-- An exception has left the thread function. -/
  | terminated
  deriving DecidableEq

/-- The arguments and local variables of `fetchServerThread`. -/
structure FetchServer where
  port : Int
  filename : String
  fp : FileHelper
  chunkCount : Int
  phase : ServerPhase
  deriving DecidableEq

namespace FetchServer

/-- Start the thread. -/
def start
    (node : DFile) (port : Int) (filename : String) (chunksize : Int) :
    DFile × FetchServer :=
  (node.sendNextChunk port (-1),
    { port := port
      filename := filename
      fp := FileHelper.new (node.disk (DFile.filePath filename)) chunksize
      chunkCount := -1
      phase := .serving })

/-- The reply of the loop to a request for the chunk in the buffer. -/
def chunkReply (server : FetchServer) : FetchReply where
  filename := some server.filename
  chunkid := some server.chunkCount
  data := some server.fp.getPrevChunk
  chunksize := some server.fp.getPrevChunk.length

/-- The state after the next chunk has been read. -/
def advance (server : FetchServer) (content : Bytes) : FetchServer :=
  let fp := server.fp.getNextChunk content
  { server with
    fp := fp
    chunkCount := server.chunkCount + 1
    phase := if fp.isEOF then .refetching else .serving }

/-- A request arrives and is answered, unless the thread has ended. -/
def receive
    (node : DFile) (server : FetchServer) (request : FetchRequest) :
    DFile × FetchServer × Option FetchReply :=
  let informed := node.sendNextChunk request.port request.chunkid
  let requested := informed.serverChunkCountMap server.port
  let content := (node.disk (DFile.filePath server.filename)).getD []
  match server.phase with
  | .serving =>
      if requested ≥ 0 ∧ requested = server.chunkCount then
        (informed, server, some server.chunkReply)
      else if requested = server.chunkCount + 1 then
        let advanced := server.advance content
        (informed, advanced, some advanced.chunkReply)
      else (informed, { server with phase := .terminated }, none)
  | .refetching =>
      if requested ≥ 0 ∧ requested = server.chunkCount then
        -- this reply is sent without its other required fields
        (informed, { server with phase := .returned },
          some { filename := none
                 chunkid := none
                 data := some server.fp.getPrevChunk
                 chunksize := none })
      else (informed, { server with phase := .terminated }, none)
  | .returned => (node, server, none)
  | .terminated => (node, server, none)

/-- Requests arrive one after the other. -/
def receiveAll (node : DFile) (server : FetchServer) :
    List FetchRequest → DFile × FetchServer × List FetchReply
  | [] => (node, server, [])
  | request :: requests =>
      let (informed, answered, reply) := receive node server request
      let (last, final, replies) := receiveAll informed answered requests
      (last, final, reply.toList ++ replies)

/-- A thread that has ended answers nothing. -/
theorem receiveAll_of_ended
    {node : DFile} {server : FetchServer}
    (ended : server.phase = .returned ∨ server.phase = .terminated)
    (requests : List FetchRequest) :
    receiveAll node server requests = (node, server, []) := by
  induction requests with
  | nil => rfl
  | cons request requests inductionHypothesis =>
      have same : receive node server request = (node, server, none) := by
        rcases ended with returned | terminated
        · simp [receive, returned]
        · simp [receive, terminated]
      simp [receiveAll, same, inductionHypothesis]

/-- The next chunk is served to the client that asks for it. -/
theorem receive_next
    {node : DFile} {server : FetchServer} {filename : String}
    (serving : server.phase = .serving) :
    receive node server ⟨filename, server.port, server.chunkCount + 1⟩ =
      (node.sendNextChunk server.port (server.chunkCount + 1),
        server.advance ((node.disk (DFile.filePath server.filename)).getD []),
        some (server.advance ((node.disk
          (DFile.filePath server.filename)).getD [])).chunkReply) := by
  simp [receive, serving, DFile.sendNextChunk]

end FetchServer

end FileTransfer
end CraneSps
