import CraneSps.FileTransfer.ReplicaChain
import CraneSps.Foundation.TransitionSystem

/-!
# Replication of a file that is being put

The master registers the putting node and commands the replication right
after its reply, while the client that receives the reply copies the file into
the store.  A run interleaves the copy with the requests of the service
thread, the server threads these start and the exchanges of the targets.  The
size is read when a target is asked and the bytes when it fetches them, so the
targets get the file only if the copy was complete when they were asked.
-/

namespace CraneSps
namespace FileTransfer

/-- What the putting client knows of its approved request. -/
inductive ReplyPhase
  /-- The reply of the master is under way. -/
  | awaiting
  /-- The receive timeout ran out first. -/
  | lost
  /-- `copyBufferedFile` is writing the file. -/
  | copying
  /-- The file has been copied and registered. -/
  | copied
  deriving DecidableEq

/-- A fetch at one target; the server thread belongs to the putting node. -/
structure Fetch where
  client : FetchClient
  server : Option FetchServer
  target : DFile
  /-- The target has registered the file and sent its `UPDATE`. -/
  finished : Bool

/-- The state after an approval. -/
structure PutRun where
  putter : DFile
  reply : ReplyPhase
  /-- The targets the service thread still has to ask, once it has received
  the `REPLICATE` command. -/
  targets : Option (List String)
  fetch : String → Option Fetch

/-- What can happen after an approval. -/
inductive PutAction
  | receiveReply
  | loseReply
  /-- Some more bytes of `copyFile` reach the disk. -/
  | copy (count : Nat)
  | finishCopy
  /-- The `REPLICATE` command arrives at the putting node. -/
  | replicate (targets : List String)
  /-- `sendFileRequest` to the next target, up to its reply. -/
  | sendFileRequest (port : Int)
  | startFetchServerThread (target : String)
  /-- One round of the fetch client of the target. -/
  | exchange (target : String)
  /-- The fetch client of the target leaves its loop. -/
  | finish (target : String)
  deriving DecidableEq

namespace PutRun

/-- The master has approved; nothing has been copied or sent. -/
def initial (putter : DFile) : PutRun where
  putter := putter
  reply := .awaiting
  targets := none
  fetch := fun _ => none

/-- Replace the fetch of a target. -/
def setFetch (run : PutRun) (target : String) (fetch : Fetch) : PutRun :=
  { run with fetch := Function.update run.fetch target (some fetch) }

/-- The file that is being put. -/
def source (run : PutRun) (filename : String) : Bytes :=
  (run.putter.disk (run.putter.filePathBuf filename)).getD []

/-- What has been written of its copy. -/
def written (run : PutRun) (filename : String) : Bytes :=
  (run.putter.disk (DFile.filePath filename)).getD []

/-- A target is asked and, if it approves, starts its client. -/
def ask
    (shell : Shell) (filename : String) (run : PutRun)
    (target : String) (node : DFile) (port : Int) : PutRun :=
  match node.processSendRequest
      (run.putter.sendRequest shell filename port) with
  | some client =>
      run.setFetch target
        { client := client
          server := none
          target := client.start node
          finished := false }
  | none => run

/-- A target requests its next chunk from a server thread. -/
def exchange
    (run : PutRun) (target : String) (fetch : Fetch) (server : FetchServer) :
    PutRun :=
  let (putter, server, reply) := FetchServer.receive run.putter server
    (fetch.client.request fetch.target)
  let received :=
    match reply with
    | some reply => fetch.target.processFetchReply reply
    | none => fetch.target
  { run with putter := putter }.setFetch target
    { fetch with server := some server, target := received }

/-- One step; `node` is the state of each target when it is asked. -/
def step
    (shell : Shell) (filename : String) (node : String → DFile)
    (run : PutRun) : PutAction → Option PutRun
  | .receiveReply =>
      if run.reply = .awaiting then
        some
          { run with
            reply := .copying
            putter := run.putter.write (DFile.filePath filename) [] }
      else none
  | .loseReply =>
      if run.reply = .awaiting then some { run with reply := .lost } else none
  | .copy count =>
      if run.reply = .copying then
        some
          { run with
            putter := run.putter.write (DFile.filePath filename)
              ((run.source filename).take
                ((run.written filename).length + count)) }
      else none
  | .finishCopy =>
      if run.reply = .copying ∧
          run.written filename = run.source filename then
        some
          { run with
            reply := .copied
            putter := run.putter.addToLocalFileMap shell filename }
      else none
  | .replicate targets =>
      -- the targets come from a set, and nobody has been asked before
      if run.targets = none ∧ targets.Nodup then
        some { run with targets := some targets }
      else none
  | .sendFileRequest port =>
      match run.targets with
      | some (target :: targets) =>
          some
            (ask shell filename { run with targets := some targets } target
              (node target) port)
      | _ => none
  | .startFetchServerThread target =>
      match run.fetch target with
      | some ⟨client, none, fetching, false⟩ =>
          let (putter, server) := FetchServer.start run.putter client.port
            client.filename client.chunksize
          some ({ run with putter := putter }.setFetch target
            ⟨client, some server, fetching, false⟩)
      | _ => none
  | .exchange target =>
      match run.fetch target with
      | some ⟨client, some server, fetching, false⟩ =>
          if fetching.clientChunkCountMap client.filename <
              client.totalChunks then
            some (run.exchange target ⟨client, some server, fetching, false⟩
              server)
          else none
      | _ => none
  | .finish target =>
      match run.fetch target with
      | some ⟨client, server, fetching, false⟩ =>
          if fetching.clientChunkCountMap client.filename <
              client.totalChunks then none
          else
            some (run.setFetch target
              ⟨client, server, (client.finish shell fetching).1, true⟩)
      | _ => none

end PutRun

/-- What follows the approval of a put. -/
def putSystem
    (shell : Shell) (filename : String) (putter : DFile)
    (node : String → DFile) : TransitionSystem PutRun PutAction where
  initial := PutRun.initial putter
  step := PutRun.step shell filename node

/-- Every replica that a target has registered and reported is the content. -/
def SpreadsOnly (filename : String) (content : Bytes) (run : PutRun) : Prop :=
  ∀ target, ∀ fetch ∈ run.fetch target, fetch.finished = true →
    fetch.target.disk (DFile.filePath filename) = some content

/-- Targets are asked only after the copy is complete. -/
def CopiedFirst (run : PutRun) : PutAction → Prop
  | .sendFileRequest _ => run.reply = .copied
  | _ => True

instance (run : PutRun) (action : PutAction) :
    Decidable (CopiedFirst run action) := by
  rcases action <;> unfold CopiedFirst <;> infer_instance

/-- What is known of a fetch while the content stays at the putting node. -/
structure FetchesContent
    (filename : String) (content : Bytes) (fetch : Fetch) : Prop where
  named : fetch.client.filename = filename
  chunksize : fetch.client.chunksize = 256000
  total : fetch.client.totalChunks =
    List.chunkCount 256000 content.length
  keeps : fetch.client.filepath = ""
  unserved : fetch.finished = false → fetch.server = none →
    ∃ node, fetch.target = fetch.client.start node ∧
      node.disk (DFile.filePath filename) = none
  served : fetch.finished = false → ∀ server ∈ fetch.server, ∃ done,
    Progressed fetch.client content 256000 done server fetch.target
  complete : fetch.finished = true →
    fetch.target.disk (DFile.filePath filename) = some content

/-- What runs preserve in which targets are asked after the copy. -/
structure Spreading
    (filename : String) (content : Bytes) (run : PutRun) : Prop where
  source : run.putter.disk (run.putter.filePathBuf filename) = some content
  elsewhere : run.putter.filePathBuf filename ≠ DFile.filePath filename
  copied : run.reply = .copied →
    run.putter.disk (DFile.filePath filename) = some content
  asked : ∀ target, ∀ fetch ∈ run.fetch target, run.reply = .copied
  fetches : ∀ target, ∀ fetch ∈ run.fetch target,
    FetchesContent filename content fetch

namespace FetchesContent

variable {filename : String} {content : Bytes} {client : FetchClient}
variable {target : DFile}

/-- The server thread is started on the complete copy. -/
theorem startServer
    (fetches : FetchesContent filename content ⟨client, none, target, false⟩)
    {putter : DFile}
    (present : putter.disk (DFile.filePath filename) = some content) :
    FetchesContent filename content
      ⟨client, some (FetchServer.start putter client.port client.filename
        client.chunksize).2, target, false⟩ where
  named := fetches.named
  chunksize := fetches.chunksize
  total := fetches.total
  keeps := fetches.keeps
  unserved := nofun
  served := by
    intro _ server isServer
    obtain rfl := Option.some.inj isServer
    obtain ⟨node, isStarted, missing⟩ := fetches.unserved rfl rfl
    have named : client.filename = filename := fetches.named
    have started : target = client.start node := isStarted
    have chunksize : client.chunksize = 256000 := fetches.chunksize
    subst started
    exact ⟨0, Progressed.start chunksize (named ▸ present)
      (named ▸ missing)⟩
  complete := nofun

/-- The next chunk is read from the complete copy. -/
theorem exchange
    {server : FetchServer}
    (fetches : FetchesContent filename content
      ⟨client, some server, target, false⟩)
    {putter : DFile}
    (present : putter.disk (DFile.filePath filename) = some content)
    (missing : target.clientChunkCountMap client.filename <
      client.totalChunks) :
    ∃ advanced reply received,
      FetchServer.receive putter server (client.request target) =
        (putter.sendNextChunk client.port received, advanced, some reply) ∧
      FetchesContent filename content
        ⟨client, some advanced, target.processFetchReply reply, false⟩ := by
  obtain ⟨done, progressed⟩ := fetches.served rfl server rfl
  have named : client.filename = filename := fetches.named
  have total : client.totalChunks = List.chunkCount 256000 content.length :=
    fetches.total
  have inside : done * 256000 < content.length := by
    rw [progressed.counted, total] at missing
    exact (List.lt_chunkCount_iff (by decide) done _).mp (by omega)
  obtain ⟨received, after⟩ :=
    progressed.exchange (named ▸ present) (by decide) inside
  refine ⟨_, _, _, received, ?_⟩
  exact
    { named := named
      chunksize := fetches.chunksize
      total := total
      keeps := fetches.keeps
      unserved := by
        intro _ missing
        cases missing
      served := by
        intro _ advanced isServer
        obtain rfl := Option.some.inj isServer
        exact ⟨done + 1, after⟩
      complete := nofun }

/-- The client has all chunks and registers the file. -/
theorem finish
    (shell : Shell) {server : Option FetchServer}
    (nonempty : content ≠ [])
    (fetches : FetchesContent filename content
      ⟨client, server, target, false⟩)
    (complete : ¬ target.clientChunkCountMap client.filename <
      client.totalChunks) :
    FetchesContent filename content
      ⟨client, server, (client.finish shell target).1, true⟩ := by
  have named : client.filename = filename := fetches.named
  have keeps : client.filepath = "" := fetches.keeps
  have total : client.totalChunks = List.chunkCount 256000 content.length :=
    fetches.total
  have some : 0 < List.chunkCount 256000 content.length :=
    List.chunkCount_pos (by decide) (List.length_pos_iff.mpr nonempty)
  have arrived : target.disk (DFile.filePath filename) =
      Option.some content := by
    cases server with
    | none =>
        obtain ⟨node, isStarted, _⟩ := fetches.unserved rfl rfl
        simp only at isStarted
        rw [isStarted, FetchClient.start, total] at complete
        simp at complete
        omega
    | some server =>
        obtain ⟨done, progressed⟩ := fetches.served rfl server rfl
        have all : List.chunkCount 256000 content.length ≤ done := by
          rw [progressed.counted, total] at complete
          omega
        have received := progressed.received
        simp only at received
        rw [if_neg (by omega), named] at received
        rw [received, List.take_of_length_le]
        have notInside := (List.lt_chunkCount_iff
          (show 0 < 256000 by decide) done content.length).not
        exact Nat.not_lt.mp (notInside.mp (by omega))
  exact
    { named := named
      chunksize := fetches.chunksize
      total := total
      keeps := keeps
      unserved := by
        intro active
        cases active
      served := by
        intro active
        cases active
      complete := by
        intro _
        simp only [FetchClient.finish, keeps, if_true]
        rw [DFile.addToLocalFileMap_disk]
        exact arrived }

end FetchesContent

namespace Spreading

variable {shell : Shell} {filename : String} {content : Bytes}
variable {run next : PutRun} {node : String → DFile} {action : PutAction}

theorem initial
    {putter : DFile}
    (buffered : putter.disk (putter.filePathBuf filename) = some content)
    (elsewhere : putter.filePathBuf filename ≠ DFile.filePath filename) :
    Spreading filename content (PutRun.initial putter) where
  source := buffered
  elsewhere := elsewhere
  copied := by simp [PutRun.initial]
  asked := by simp [PutRun.initial]
  fetches := by simp [PutRun.initial]

/-- The fetch of one target changes. -/
theorem setFetch
    (spreading : Spreading filename content run)
    (isCopied : run.reply = .copied)
    (target : String) {fetch : Fetch}
    (fetches : FetchesContent filename content fetch) :
    Spreading filename content (run.setFetch target fetch) where
  source := spreading.source
  elsewhere := spreading.elsewhere
  copied := spreading.copied
  asked := fun _ _ _ => isCopied
  fetches := by
    intro other current isFetch
    simp only [PutRun.setFetch] at isFetch
    by_cases same : other = target
    · subst same
      rw [Function.update_self] at isFetch
      exact Option.some.inj isFetch ▸ fetches
    · rw [Function.update_of_ne same] at isFetch
      exact spreading.fetches other current isFetch

/-- A server thread notes the requested chunk. -/
theorem sendNextChunk
    (spreading : Spreading filename content run) (port chunkid : Int) :
    Spreading filename content
      { run with putter := run.putter.sendNextChunk port chunkid } where
  source := spreading.source
  elsewhere := spreading.elsewhere
  copied := spreading.copied
  asked := spreading.asked
  fetches := spreading.fetches

/-- Nobody has been asked while the copy is being written. -/
theorem write
    (spreading : Spreading filename content run)
    {reply : ReplyPhase} (notCopied : run.reply ≠ .copied)
    (stillNot : reply ≠ .copied) (bytes : Bytes) :
    Spreading filename content
      { run with
        reply := reply
        putter := run.putter.write (DFile.filePath filename) bytes } where
  source := by
    simp only [DFile.write]
    rw [Function.update_of_ne spreading.elsewhere]
    exact spreading.source
  elsewhere := spreading.elsewhere
  copied := fun isCopied => absurd isCopied stillNot
  asked := fun target fetch isFetch =>
    absurd (spreading.asked target fetch isFetch) notCopied
  fetches := spreading.fetches

/-- The list of targets is not part of the invariant. -/
theorem setTargets
    (spreading : Spreading filename content run)
    (targets : Option (List String)) :
    Spreading filename content { run with targets := targets } where
  source := spreading.source
  elsewhere := spreading.elsewhere
  copied := spreading.copied
  asked := spreading.asked
  fetches := spreading.fetches

/-- The whole file has been written. -/
theorem finishCopy
    (spreading : Spreading filename content run)
    (shell : Shell) (nonempty : content ≠ [])
    (complete : run.written filename = run.source filename) :
    Spreading filename content
      { run with
        reply := .copied
        putter := run.putter.addToLocalFileMap shell filename } where
  source := by
    rw [DFile.addToLocalFileMap_disk, DFile.addToLocalFileMap_filePathBuf]
    exact spreading.source
  elsewhere := by
    rw [DFile.addToLocalFileMap_filePathBuf]
    exact spreading.elsewhere
  copied := by
    intro _
    rw [DFile.addToLocalFileMap_disk]
    rw [PutRun.written, PutRun.source, spreading.source] at complete
    cases stored : run.putter.disk (DFile.filePath filename) with
    | none =>
        rw [stored] at complete
        exact absurd complete.symm nonempty
    | some bytes =>
        rw [stored] at complete
        exact congrArg some complete
  asked := fun _ _ _ => rfl
  fetches := spreading.fetches

/-- A newcomer is asked after the copy. -/
theorem ask
    (spreading : Spreading filename content run)
    (isCopied : run.reply = .copied)
    (few : List.chunkCount 256000 content.length < 2 ^ 31)
    {target : String} {fresh : DFile} {port : Int}
    (newcomer : Newcomer filename fresh) :
    Spreading filename content
      (PutRun.ask shell filename run target fresh port) := by
  rw [PutRun.ask, processSendRequest_of_newcomer (spreading.copied isCopied)
    newcomer]
  exact spreading.setFetch isCopied target
    { named := rfl
      chunksize := rfl
      total := FetchClient.totalChunks_of_size rfl rfl few
      keeps := rfl
      unserved := fun _ _ => ⟨fresh, rfl, newcomer.missing⟩
      served := nofun
      complete := nofun }

/-- Every step keeps the invariant if targets are asked after the copy. -/
theorem step
    (spreading : Spreading filename content run)
    (nonempty : content ≠ [])
    (few : List.chunkCount 256000 content.length < 2 ^ 31)
    (newcomers : ∀ target, Newcomer filename (node target))
    (copiedFirst : CopiedFirst run action)
    (stepped : run.step shell filename node action = some next) :
    Spreading filename content next := by
  cases action with
  | receiveReply =>
      simp only [PutRun.step, Option.ite_none_right_eq_some,
        Option.some.injEq] at stepped
      obtain ⟨awaiting, rfl⟩ := stepped
      exact spreading.write (by simp [awaiting]) (by decide) []
  | loseReply =>
      simp only [PutRun.step, Option.ite_none_right_eq_some,
        Option.some.injEq] at stepped
      obtain ⟨awaiting, rfl⟩ := stepped
      exact
        { source := spreading.source
          elsewhere := spreading.elsewhere
          copied := nofun
          asked := fun target fetch isFetch => by
            have isCopied := spreading.asked target fetch isFetch
            rw [awaiting] at isCopied
            nomatch isCopied
          fetches := spreading.fetches }
  | copy count =>
      simp only [PutRun.step, Option.ite_none_right_eq_some,
        Option.some.injEq] at stepped
      obtain ⟨copying, rfl⟩ := stepped
      have notCopied : run.reply ≠ .copied := by simp [copying]
      exact spreading.write notCopied notCopied _
  | finishCopy =>
      simp only [PutRun.step, Option.ite_none_right_eq_some,
        Option.some.injEq] at stepped
      obtain ⟨⟨_, complete⟩, rfl⟩ := stepped
      exact spreading.finishCopy shell nonempty complete
  | replicate targets =>
      simp only [PutRun.step, Option.ite_none_right_eq_some,
        Option.some.injEq] at stepped
      obtain ⟨_, rfl⟩ := stepped
      exact spreading.setTargets _
  | sendFileRequest port =>
      simp only [PutRun.step] at stepped
      split at stepped
      · next target targets isNext =>
          obtain rfl := Option.some.inj stepped
          exact (spreading.setTargets (some targets)).ask copiedFirst few
            (newcomers target)
      · cases stepped
  | startFetchServerThread target =>
      simp only [PutRun.step] at stepped
      split at stepped
      · next client fetching isFetch =>
          obtain rfl := Option.some.inj stepped
          have isCopied := spreading.asked target _ isFetch
          exact (spreading.sendNextChunk client.port (-1)).setFetch isCopied
            target ((spreading.fetches target _ isFetch).startServer
              (spreading.copied isCopied))
      · cases stepped
  | exchange target =>
      simp only [PutRun.step] at stepped
      split at stepped
      · next client server fetching isFetch =>
          simp only [Option.ite_none_right_eq_some, Option.some.injEq]
            at stepped
          obtain ⟨missing, rfl⟩ := stepped
          have isCopied := spreading.asked target _ isFetch
          obtain ⟨advanced, reply, received, served, fetches⟩ :=
            (spreading.fetches target _ isFetch).exchange
              (spreading.copied isCopied) missing
          simp only [PutRun.exchange, served]
          exact (spreading.sendNextChunk client.port received).setFetch
            isCopied target fetches
      · cases stepped
  | finish target =>
      simp only [PutRun.step] at stepped
      split at stepped
      · next client server fetching isFetch =>
          split at stepped
          · cases stepped
          · next complete =>
              obtain rfl := Option.some.inj stepped
              have isCopied := spreading.asked target _ isFetch
              exact spreading.setFetch isCopied target
                ((spreading.fetches target _ isFetch).finish shell nonempty
                  complete)
      · cases stepped

end Spreading

/-- If the targets of a put are asked only after the file has been copied,
every replica that one of them registers and reports has its content. -/
theorem spreadsOnly_of_copiedFirst
    (shell : Shell) (filename : String) (content : Bytes)
    (putter : DFile) (node : String → DFile)
    (trace : List PutAction) (run : PutRun)
    (buffered : putter.disk (putter.filePathBuf filename) = some content)
    (newcomers : ∀ target, Newcomer filename (node target))
    (runs : (putSystem shell filename putter node).Runs
      (putSystem shell filename putter node).initial trace run)
    (elsewhere : putter.filePathBuf filename ≠ DFile.filePath filename)
    (nonempty : content ≠ [])
    (few : List.chunkCount 256000 content.length < 2 ^ 31)
    (copiedFirst : (putSystem shell filename putter node).Every CopiedFirst
      (putSystem shell filename putter node).initial trace) :
    SpreadsOnly filename content run := by
  have spreading : Spreading filename content run := by
    refine copiedFirst.invariant runs (Spreading filename content) ?_
      (Spreading.initial buffered elsewhere)
    intro state action next before first stepped
    have isStep : state.step shell filename node action = some next := stepped
    exact before.step nonempty few newcomers first isStep
  intro target fetch isFetch finished
  exact (spreading.fetches target fetch isFetch).complete finished

/-- A node that has buffered the path of a file it is going to put. -/
def putterOf (content : Bytes) : DFile where
  id := "a"
  disk := fun path => if path = "/tmp/f" then some content else none
  localFiles := []
  clientChunkCountMap := fun _ => 0
  serverChunkCountMap := fun _ => 0
  filePathBuf := fun _ => "/tmp/f"

/-- The file is copied before the replication is commanded. -/
def orderlyPut : List PutAction :=
  [.receiveReply, .copy 1, .copy 1, .finishCopy, .replicate ["b"],
    .sendFileRequest 9601, .startFetchServerThread "b", .exchange "b",
    .finish "b"]

theorem spreadsOnly_of_orderlyPut :
    ∃ run, (putSystem (.strict fun _ => "m") "f" (putterOf [1, 2]) emptyNode).Runs
        (PutRun.initial (putterOf [1, 2])) orderlyPut run ∧
      (∃ fetch ∈ run.fetch "b", fetch.finished = true) ∧
      SpreadsOnly "f" [1, 2] run := by
  obtain ⟨run, runs, finished⟩ : ∃ run ∈
      (putSystem (.strict fun _ => "m") "f" (putterOf [1, 2]) emptyNode).run
        (PutRun.initial (putterOf [1, 2])) orderlyPut,
      ∃ fetch ∈ run.fetch "b", fetch.finished = true := by
    decide
  exact ⟨run, runs, finished,
    spreadsOnly_of_copiedFirst (.strict fun _ => "m") "f" [1, 2] (putterOf [1, 2])
      emptyNode orderlyPut run (by decide) (fun _ => ⟨rfl, rfl⟩) runs
      (by decide) (by decide) (by decide) (by decide)⟩

/-- The replication is commanded when the copy has been created and none of its
bytes has reached the disk. -/
def hastyPut : List PutAction :=
  [.receiveReply, .replicate ["b"], .sendFileRequest 9601,
    .startFetchServerThread "b", .finish "b"]

/-- A put can spread something else: the target registers a file that it does
not have. -/
theorem not_spreadsOnly_of_approval :
    ¬ ∀ (shell : Shell) (filename : String) (content : Bytes)
        (putter : DFile) (node : String → DFile)
        (trace : List PutAction) (run : PutRun),
      putter.disk (putter.filePathBuf filename) = some content →
        (∀ target, Newcomer filename (node target)) →
        (putSystem shell filename putter node).Runs
          (putSystem shell filename putter node).initial trace run →
        SpreadsOnly filename content run := by
  intro spreads
  obtain ⟨run, runs, fetch, isFetch, finished, _, missing⟩ : ∃ run ∈
      (putSystem (.strict fun _ => "m") "f" (putterOf [1, 2]) emptyNode).run
        (PutRun.initial (putterOf [1, 2])) hastyPut,
      ∃ fetch ∈ run.fetch "b", fetch.finished = true ∧
        fetch.target.checkFileAvailable "f" = false ∧
          fetch.target.disk (DFile.filePath "f") = none := by
    decide +kernel
  have spread := spreads (.strict fun _ => "m") "f" [1, 2] (putterOf [1, 2])
    emptyNode hastyPut run (by decide) (fun _ => ⟨rfl, rfl⟩) runs "b" fetch
    isFetch finished
  rw [missing] at spread
  nomatch spread

end FileTransfer
end CraneSps
