import CraneSps.FileTransfer.FetchServer

/-!
# Fetching a file chunk by chunk

`fetchClientThread` requests the chunks in order and appends what it receives.
Client, server and stream each keep a counter of their own; the invariant
`Progressed` says what all of them are after a given number of exchanges over
a channel that loses nothing.
-/

namespace CraneSps
namespace FileTransfer

/-- The arguments of `fetchClientThread`. -/
structure FetchClient where
  senderip : String
  port : Int
  filename : String
  filemd5 : String
  filesize : Int
  chunksize : Int
  filepath : String
  deriving DecidableEq

namespace FetchClient

/-- The number of chunks, an `int`. -/
def totalChunks (client : FetchClient) : Int :=
  let quotient := toInt (client.filesize.tdiv client.chunksize)
  if client.filesize.tmod client.chunksize ≠ 0 then quotient + 1
  else quotient

/-- What the thread does before its loop. -/
def start (node : DFile) (client : FetchClient) : DFile :=
  { node with
    clientChunkCountMap := Function.update node.clientChunkCountMap
      client.filename 0 }

/-- The request sent in the next round of the loop. -/
def request (node : DFile) (client : FetchClient) : FetchRequest where
  filename := client.filename
  port := client.port
  chunkid := node.clientChunkCountMap client.filename

/-- What the thread does after its loop: it registers the file and reports it
by an `UPDATE`, or moves it to the path it was fetched for. -/
def finish
    (shell : Shell) (node : DFile) (client : FetchClient) :
    DFile × Option FileInfo :=
  if client.filepath = "" then
    (node.addToLocalFileMap shell client.filename,
      some (FileInfo.new client.filename client.filemd5 client.filesize))
  else
    ({ node with
      disk := shell.mv node.disk (DFile.filePath client.filename)
        client.filepath }, none)

theorem totalChunks_of_size
    {client : FetchClient} {size length : Nat}
    (chunksize : client.chunksize = size)
    (filesize : client.filesize = length)
    (fits : List.chunkCount size length < 2 ^ 31) :
    client.totalChunks = List.chunkCount size length := by
  have quotient : toInt ((length / size : Nat) : Int) =
      ((length / size : Nat) : Int) := by
    apply toInt_of_lt
    unfold List.chunkCount at fits
    omega
  simp only [totalChunks, chunksize, filesize]
  rw [← Int.ofNat_tdiv, ← Int.ofNat_tmod, quotient]
  unfold List.chunkCount
  by_cases even : length % size = 0
  · simp [even]
  · have uneven : ((length % size : Nat) : Int) ≠ 0 := by
      exact_mod_cast even
    rw [if_pos uneven, if_neg even, Nat.cast_add, Nat.cast_one]

end FetchClient

/-- A fetch: the node that holds the file with its serving thread, and the
node that fetches it. -/
structure Transfer where
  source : DFile
  server : FetchServer
  target : DFile

namespace Transfer

variable (client : FetchClient)

/-- Both threads have been started. -/
def start (source target : DFile) : Transfer :=
  let (serving, server) := FetchServer.start source client.port
    client.filename client.chunksize
  { source := serving
    server := server
    target := client.start target }

/-- One request and its reply.  Without a reply the client waits for ever. -/
def exchange (transfer : Transfer) : Option (Transfer × FetchReply) :=
  match FetchServer.receive transfer.source transfer.server
      (client.request transfer.target) with
  | (source, server, some reply) =>
      some ({ source := source
              server := server
              target := transfer.target.processFetchReply reply }, reply)
  | (_, _, none) => none

/-- A number of exchanges, with the replies in order. -/
def exchanges : Nat → Transfer → Option (Transfer × List FetchReply)
  | 0, transfer => some (transfer, [])
  | rounds + 1, transfer =>
      (exchange client transfer).bind fun (next, reply) =>
        (exchanges rounds next).map fun (last, replies) =>
          (last, reply :: replies)

/-- The loop of `fetchClientThread`; `none` also when the fuel runs out. -/
def fetchLoop : Nat → Transfer → Option (Transfer × List FetchReply)
  | 0, _ => none
  | fuel + 1, transfer =>
      if transfer.target.clientChunkCountMap client.filename <
          client.totalChunks then
        (exchange client transfer).bind fun (next, reply) =>
          (fetchLoop fuel next).map fun (last, replies) =>
            (last, reply :: replies)
      else some (transfer, [])

variable {client} {transfer next last : Transfer}
variable {reply : FetchReply} {replies : List FetchReply}

theorem exchanges_succ
    {rounds : Nat}
    (exchanged : transfer.exchange client = some (next, reply))
    (rest : next.exchanges client rounds = some (last, replies)) :
    transfer.exchanges client (rounds + 1) =
      some (last, reply :: replies) := by
  simp [exchanges, exchanged, rest]

/-- A round of the loop. -/
theorem fetchLoop_of_lt
    {fuel : Nat}
    (missing : transfer.target.clientChunkCountMap client.filename <
      client.totalChunks)
    (exchanged : transfer.exchange client = some (next, reply))
    (rest : next.fetchLoop client fuel = some (last, replies)) :
    transfer.fetchLoop client (fuel + 1) = some (last, reply :: replies) := by
  simp [fetchLoop, missing, exchanged, rest]

/-- The exit of the loop. -/
theorem fetchLoop_of_not_lt
    {fuel : Nat}
    (complete : ¬ transfer.target.clientChunkCountMap client.filename <
      client.totalChunks) :
    transfer.fetchLoop client (fuel + 1) = some (transfer, []) := by
  rw [fetchLoop, if_neg complete]

/-- A fetch touches no registration before it is complete. -/
theorem fetchLoop_localFiles
    {fuel : Nat}
    (loop : transfer.fetchLoop client fuel = some (last, replies)) :
    last.target.localFiles = transfer.target.localFiles := by
  induction fuel generalizing transfer replies with
  | zero => nomatch loop
  | succ fuel inductionHypothesis =>
      rw [fetchLoop] at loop
      split at loop
      · simp only [Option.bind_eq_some_iff, Option.map_eq_some_iff] at loop
        obtain ⟨⟨next, reply⟩, exchanged, ⟨rest, replies⟩, looped, same⟩ :=
          loop
        obtain ⟨rfl, rfl⟩ := Prod.mk.inj same
        rw [inductionHypothesis looped]
        unfold exchange at exchanged
        split at exchanged
        · obtain ⟨rfl, rfl⟩ := Prod.mk.inj (Option.some.inj exchanged)
          exact DFile.processFetchReply_localFiles _ _
        · cases exchanged
      · obtain ⟨rfl, rfl⟩ := Prod.mk.inj (Option.some.inj loop)
        rfl

end Transfer

/-- The reply that carries the chunk of the given index. -/
def sliceReply
    (filename : String) (content : Bytes) (size index : Nat) :
    FetchReply where
  filename := some filename
  chunkid := some index
  data := some (content.chunk size index)
  chunksize := some (content.chunk size index).length

/-- Server and target after a number of exchanges. -/
structure Progressed
    (client : FetchClient) (content : Bytes) (size done : Nat)
    (server : FetchServer) (target : DFile) : Prop where
  filename : server.filename = client.filename
  port : server.port = client.port
  isOpen : server.fp.isOpen = true
  ch_size : server.fp.ch_size = size
  rest : server.fp.rest content = content.drop (done * size)
  eof : server.fp.eof = decide (content.length < done * size)
  phase : server.phase =
    if content.length < done * size then .refetching else .serving
  served : server.chunkCount = done - 1
  counted : target.clientChunkCountMap client.filename = done
  received : target.disk (DFile.filePath client.filename) =
    if done = 0 then none else some (content.take (done * size))

namespace Progressed

variable {client : FetchClient} {content : Bytes} {size done : Nat}
variable {source target : DFile} {server : FetchServer}

/-- Both threads have been started and the target has no such file. -/
theorem start
    (chunksize : client.chunksize = size)
    (present : source.disk (DFile.filePath client.filename) = some content)
    (fresh : target.disk (DFile.filePath client.filename) = none) :
    Progressed client content size 0
      (FetchServer.start source client.port client.filename
        client.chunksize).2 (client.start target) where
  filename := rfl
  port := rfl
  isOpen := by simp [FetchServer.start, FileHelper.new, present]
  ch_size := chunksize
  rest := by simp [FetchServer.start, present]
  eof := by simp [FetchServer.start, FileHelper.new]
  phase := by simp [FetchServer.start]
  served := rfl
  counted := by simp [FetchClient.start]
  received := fresh

/-- As long as a chunk is missing the server is in its loop. -/
theorem serving
    (progressed : Progressed client content size done server target)
    (missing : done * size < content.length) :
    server.phase = .serving := by
  rw [progressed.phase, if_neg (by omega)]

/-- The chunk the server reads next. -/
theorem advance_buffer
    (progressed : Progressed client content size done server target)
    (missing : done * size < content.length) :
    ∃ position ahead,
      server.fp.getNextChunk content =
        { server.fp with
          position := position
          ahead := ahead
          eof := decide (content.length < (done + 1) * size)
          buffer := content.chunk size done } ∧
      (server.fp.getNextChunk content).rest content =
        content.drop ((done + 1) * size) := by
  have notEof : server.fp.eof = false := by
    rw [progressed.eof]
    simp
    omega
  exact FileHelper.getNextChunk_of_drop progressed.isOpen notEof
    (by rw [progressed.ch_size, Int.toNat_natCast]) progressed.rest
    (Nat.le_of_lt missing)

/-- The server after the next chunk has been read. -/
theorem advance
    (progressed : Progressed client content size done server target)
    (missing : done * size < content.length) :
    (server.advance content).chunkReply =
        sliceReply client.filename content size done ∧
      (server.advance content).fp = server.fp.getNextChunk content ∧
      (server.advance content).chunkCount = done := by
  obtain ⟨position, ahead, buffer, _⟩ := progressed.advance_buffer missing
  have served : server.chunkCount + 1 = done := by
    rw [progressed.served]
    omega
  refine ⟨?_, rfl, served⟩
  simp only [FetchServer.chunkReply, FetchServer.advance, buffer, served,
    progressed.filename, FileHelper.getPrevChunk, sliceReply]

/-- The target appends the next chunk. -/
theorem processFetchReply
    (progressed : Progressed client content size done server target)
    (fits : size < 2 ^ 31) :
    target.processFetchReply
        (sliceReply client.filename content size done) =
      { target with
        disk := Function.update target.disk
          (DFile.filePath client.filename)
          (some (content.take ((done + 1) * size)))
        clientChunkCountMap := Function.update target.clientChunkCountMap
          client.filename (done + 1) } := by
  have short : (content.chunk size done).length < 2 ^ 32 := by
    have bound : (content.chunk size done).length ≤ size :=
      List.length_chunk_le content
    omega
  have sofar : (target.disk (DFile.filePath client.filename)).getD [] =
      content.take (done * size) := by
    rw [progressed.received]
    by_cases first : done = 0
    · simp [first]
    · simp [first]
  have appended : target.recvNextChunk client.filename
      (target.clientChunkCountMap client.filename)
      (content.chunk size done) (content.chunk size done).length = _ :=
    DFile.recvNextChunk_of_expected short rfl
  rw [sofar, progressed.counted, List.take_append_chunk] at appended
  exact appended

/-- The exchange in which the next chunk is fetched. -/
theorem exchange
    (progressed : Progressed client content size done server target)
    (present : source.disk (DFile.filePath client.filename) = some content)
    (fits : size < 2 ^ 31)
    (missing : done * size < content.length) :
    FetchServer.receive source server (client.request target) =
        (source.sendNextChunk client.port done, server.advance content,
          some (sliceReply client.filename content size done)) ∧
      Progressed client content size (done + 1) (server.advance content)
        (target.processFetchReply
          (sliceReply client.filename content size done)) := by
  obtain ⟨reply, fp, chunkCount⟩ := progressed.advance missing
  obtain ⟨position, ahead, isRead, rest⟩ := progressed.advance_buffer missing
  have served : server.chunkCount + 1 = done := by
    rw [progressed.served]
    omega
  have requested : client.request target =
      ⟨client.filename, server.port, server.chunkCount + 1⟩ := by
    rw [FetchClient.request, progressed.counted, progressed.port, served]
  constructor
  · rw [requested, FetchServer.receive_next (progressed.serving missing),
      progressed.filename, present, Option.getD_some, reply, served,
      progressed.port]
  · rw [progressed.processFetchReply fits]
    exact
      { filename := progressed.filename
        port := progressed.port
        isOpen := by rw [fp, isRead]; exact progressed.isOpen
        ch_size := by rw [fp, isRead]; exact progressed.ch_size
        rest := by rw [fp]; exact rest
        eof := by rw [fp, isRead]
        phase := by
          have phase : (server.advance content).phase =
              if (server.advance content).fp.eof then .refetching
              else .serving := rfl
          rw [phase, fp, isRead]
          simp
        served := by rw [chunkCount]; omega
        counted := by simp
        received := by simp }

end Progressed

/-! ## Whole transfers -/

/-- A transfer of a file that stays as it is at the source. -/
structure Underway
    (client : FetchClient) (content : Bytes) (size done : Nat)
    (transfer : Transfer) : Prop where
  present : transfer.source.disk (DFile.filePath client.filename) =
    some content
  progressed : Progressed client content size done transfer.server
    transfer.target

namespace Underway

variable {client : FetchClient} {content : Bytes} {size done : Nat}
variable {transfer : Transfer}

theorem start
    {source target : DFile}
    (chunksize : client.chunksize = size)
    (present : source.disk (DFile.filePath client.filename) = some content)
    (fresh : target.disk (DFile.filePath client.filename) = none) :
    Underway client content size 0 (Transfer.start client source target) where
  present := present
  progressed := Progressed.start chunksize present fresh

/-- One exchange of a missing chunk. -/
theorem exchange
    (underway : Underway client content size done transfer)
    (fits : size < 2 ^ 31)
    (missing : done * size < content.length) :
    ∃ next, transfer.exchange client =
        some (next, sliceReply client.filename content size done) ∧
      Underway client content size (done + 1) next := by
  obtain ⟨received, progressed⟩ :=
    underway.progressed.exchange underway.present fits missing
  refine ⟨⟨transfer.source.sendNextChunk client.port done,
    transfer.server.advance content, transfer.target.processFetchReply
      (sliceReply client.filename content size done)⟩, ?_, ?_⟩
  · rw [Transfer.exchange, received]
  · exact { present := underway.present, progressed := progressed }

/-- The exchanges up to any chunk are answered with the slices in order. -/
theorem exchanges
    (positive : 0 < size) (fits : size < 2 ^ 31)
    (rounds : Nat) {done : Nat} {transfer : Transfer}
    (underway : Underway client content size done transfer)
    (within : done + rounds ≤ List.chunkCount size content.length) :
    ∃ last, transfer.exchanges client rounds =
        some (last, (List.range' done rounds).map
          (sliceReply client.filename content size)) ∧
      Underway client content size (done + rounds) last := by
  induction rounds generalizing done transfer with
  | zero => exact ⟨transfer, rfl, underway⟩
  | succ rounds inductionHypothesis =>
      have missing : done * size < content.length :=
        (List.lt_chunkCount_iff positive done _).mp (by omega)
      obtain ⟨next, exchanged, after⟩ := underway.exchange fits missing
      obtain ⟨last, rest, final⟩ := inductionHypothesis after (by omega)
      refine ⟨last, ?_, ?_⟩
      · rw [List.range'_succ, List.map_cons]
        exact Transfer.exchanges_succ exchanged rest
      · rw [Nat.add_succ, ← Nat.succ_add]
        exact final

/-- The loop of the client runs exactly through the missing chunks. -/
theorem fetchLoop
    (positive : 0 < size) (fits : size < 2 ^ 31)
    (total : client.totalChunks = List.chunkCount size content.length)
    (rounds : Nat) {done : Nat} {transfer : Transfer}
    (underway : Underway client content size done transfer)
    (missing : done + rounds = List.chunkCount size content.length) :
    ∃ last, (∀ fuel, rounds < fuel → transfer.fetchLoop client fuel =
        some (last, (List.range' done rounds).map
          (sliceReply client.filename content size))) ∧
      Underway client content size (done + rounds) last := by
  induction rounds generalizing done transfer with
  | zero =>
      refine ⟨transfer, ?_, underway⟩
      intro fuel enough
      obtain ⟨spare, rfl⟩ : ∃ spare, fuel = spare + 1 :=
        ⟨fuel - 1, by omega⟩
      apply Transfer.fetchLoop_of_not_lt
      rw [underway.progressed.counted, total]
      omega
  | succ rounds inductionHypothesis =>
      have inside : done * size < content.length :=
        (List.lt_chunkCount_iff positive done _).mp (by omega)
      obtain ⟨next, exchanged, after⟩ := underway.exchange fits inside
      obtain ⟨last, rest, final⟩ := inductionHypothesis after (by omega)
      refine ⟨last, ?_, ?_⟩
      · intro fuel enough
        obtain ⟨spare, rfl⟩ : ∃ spare, fuel = spare + 1 :=
          ⟨fuel - 1, by omega⟩
        rw [List.range'_succ, List.map_cons]
        refine Transfer.fetchLoop_of_lt ?_ exchanged (rest spare (by omega))
        rw [underway.progressed.counted, total]
        omega
      · rw [Nat.add_succ, ← Nat.succ_add]
        exact final

end Underway

/-- A client that asks for a single chunk of a file that cannot be opened gets
a chunk of bytes `0xFF`. -/
theorem fetchLoop_of_missing
    {client : FetchClient} {source target : DFile} {size : Nat}
    (one : client.totalChunks = 1) (chunksize : client.chunksize = size)
    (fits : size < 2 ^ 31)
    (missing : source.disk (DFile.filePath client.filename) = none)
    (fresh : target.disk (DFile.filePath client.filename) = none) :
    ∃ final replies,
      (Transfer.start client source target).fetchLoop client 2 =
        some (final, replies) ∧
      final.target.disk (DFile.filePath client.filename) =
        some (List.replicate size 0xFF) := by
  let started := Transfer.start client source target
  have closed : started.server.fp.isOpen = false := by
    simp [started, Transfer.start, FetchServer.start, FileHelper.new, missing]
  have ch_size : started.server.fp.ch_size.toNat = size := by
    simp [started, Transfer.start, FetchServer.start, FileHelper.new,
      chunksize]
  have read := @FileHelper.getNextChunk_of_closed _
    ((started.source.disk (DFile.filePath started.server.filename)).getD []) _
    closed rfl ch_size
  let advanced := started.server.advance
    ((started.source.disk (DFile.filePath started.server.filename)).getD [])
  have data : advanced.fp.getPrevChunk = List.replicate size 0xFF := by
    simp only [advanced, FetchServer.advance, read, FileHelper.getPrevChunk]
  have exchanged : started.exchange client =
      some ({ source := started.source.sendNextChunk client.port 0
              server := advanced
              target := started.target.processFetchReply
                advanced.chunkReply }, advanced.chunkReply) := by
    have requested : client.request started.target =
        ⟨client.filename, started.server.port,
          started.server.chunkCount + 1⟩ := by
      simp [started, Transfer.start, FetchClient.start, FetchClient.request,
        FetchServer.start]
    rw [Transfer.exchange, requested, FetchServer.receive_next rfl]
    rfl
  have counted : started.target.clientChunkCountMap client.filename = 0 :=
    Function.update_self _ _ _
  have taken : started.target.processFetchReply advanced.chunkReply =
      started.target.recvNextChunk client.filename
        (started.target.clientChunkCountMap client.filename)
        (List.replicate size 0xFF) size := by
    simp only [DFile.processFetchReply, FetchServer.chunkReply, data,
      List.length_replicate, counted]
    rfl
  rw [DFile.recvNextChunk_of_expected (by rw [List.length_replicate]; omega)
    (by rw [List.length_replicate])] at taken
  have first : started.target.clientChunkCountMap client.filename <
      client.totalChunks := by
    rw [one, counted]
    exact Int.zero_lt_one
  refine ⟨_, _, Transfer.fetchLoop_of_lt first exchanged
    (Transfer.fetchLoop_of_not_lt ?_), ?_⟩
  · rw [taken, one]
    simp [started, Transfer.start, FetchClient.start]
  · rw [taken]
    have nothing : started.target.disk (DFile.filePath client.filename) =
        none := fresh
    simp [nothing]

/-- A file of any content is fetched faithfully: the client loop exits after
one exchange for each chunk, the server is in its loop whenever a chunk is
requested, every reply carries its slice, and the slices make up the file. -/
theorem fetch_faithful
    (content : Bytes) (size : Nat) (client : FetchClient)
    (source target : DFile)
    (positive : 0 < size) (sizeFits : size < 2 ^ 31)
    (chunksFit : content.length ⌈/⌉ size < 2 ^ 31)
    (chunksize : client.chunksize = size)
    (filesize : client.filesize = content.length)
    (present : source.disk (DFile.filePath client.filename) = some content)
    (fresh : target.disk (DFile.filePath client.filename) = none) :
    ∃ final, (∀ fuel, content.length ⌈/⌉ size < fuel →
        (Transfer.start client source target).fetchLoop client fuel =
          some (final, (List.range (content.length ⌈/⌉ size)).map
            (sliceReply client.filename content size))) ∧
      (∀ done < content.length ⌈/⌉ size, ∃ transfer replies,
        (Transfer.start client source target).exchanges client done =
          some (transfer, replies) ∧ transfer.server.phase = .serving) ∧
      final.server.phase ≠ .terminated ∧
      (final.target.disk (DFile.filePath client.filename)).getD [] =
        content := by
  rw [← List.chunkCount_eq_ceilDiv positive] at chunksFit ⊢
  have total := FetchClient.totalChunks_of_size chunksize filesize chunksFit
  have started : Underway client content size 0
      (Transfer.start client source target) :=
    Underway.start chunksize present fresh
  obtain ⟨final, loop, finished⟩ :=
    Underway.fetchLoop positive sizeFits total _ started (Nat.zero_add _)
  rw [Nat.zero_add] at finished
  refine ⟨final, ?_, ?_, ?_, ?_⟩
  · rw [List.range_eq_range']
    exact loop
  · intro done below
    obtain ⟨transfer, exchanged, underway⟩ :=
      started.exchanges positive sizeFits done (by omega)
    rw [Nat.zero_add] at underway
    exact ⟨transfer, _, exchanged, underway.progressed.serving
      ((List.lt_chunkCount_iff positive done _).mp below)⟩
  · rw [finished.progressed.phase]
    split <;> nofun
  · rw [finished.progressed.received]
    by_cases empty : List.chunkCount size content.length = 0
    · have nothing := List.take_chunkCount positive content
      rw [empty, Nat.zero_mul, List.take_zero] at nothing
      rw [if_pos empty, ← nothing]
      rfl
    · rw [if_neg empty, List.take_chunkCount positive]
      rfl

/-- A node whose only file is the given one. -/
def nodeWithFile (id filename : String) (content : Bytes) : DFile where
  id := id
  disk := fun path =>
    if path = DFile.filePath filename then some content else none
  localFiles := []
  clientChunkCountMap := fun _ => 0
  serverChunkCountMap := fun _ => 0
  filePathBuf := fun _ => ""

theorem nodeWithFile_disk (id filename : String) (content : Bytes) :
    (nodeWithFile id filename content).disk (DFile.filePath filename) =
      some content :=
  if_pos rfl

/-- A node without files. -/
def emptyNode (id : String) : DFile where
  id := id
  disk := fun _ => none
  localFiles := []
  clientChunkCountMap := fun _ => 0
  serverChunkCountMap := fun _ => 0
  filePathBuf := fun _ => ""

/-- The fetch of three bytes in chunks of two. -/
def threeBytesClient : FetchClient where
  senderip := "a"
  port := 9601
  filename := "f"
  filemd5 := ""
  filesize := 3
  chunksize := 2
  filepath := ""

theorem fetch_faithful_threeBytes :
    ∃ final, (Transfer.start threeBytesClient
        (nodeWithFile "a" "f" [1, 2, 255]) (emptyNode "b")).fetchLoop
          threeBytesClient 3 =
        some (final, [sliceReply "f" [1, 2, 255] 2 0,
          sliceReply "f" [1, 2, 255] 2 1]) ∧
      (final.target.disk (DFile.filePath "f")).getD [] = [1, 2, 255] := by
  obtain ⟨final, loop, _, _, received⟩ :=
    fetch_faithful [1, 2, 255] 2 threeBytesClient
      (nodeWithFile "a" "f" [1, 2, 255]) (emptyNode "b")
      (by decide) (by decide) (by decide) rfl rfl
      (nodeWithFile_disk _ _ _) rfl
  exact ⟨final, loop 3 (by decide), received⟩

end FileTransfer
end CraneSps
