import CraneSps.FileTransfer.LocalStore
import CraneSps.Foundation.TransitionSystem

/-!
# Fetches that run at the same time

Every approved request starts a thread of its own, and the threads of one node
share its chunk counters and its files.  Both are keyed by the filename, so
threads for different files do not meet, while two threads for one file reset
each other's counter and append to the same file.
-/

namespace CraneSps
namespace FileTransfer

/-- Where a thread of `fetchClientThread` stands. -/
inductive FetchPhase
  /-- The request has been approved and the thread has not started yet. -/
  | approved
  /-- At the test of the loop. -/
  | looping
  /-- In `recv`, with the reply that is on its way, if there is one. -/
  | waiting (reply : Option FetchReply)
  | returned
  deriving DecidableEq

/-- A fetch: its client thread, and the node and thread that serve it. -/
structure FetchThread where
  client : FetchClient
  phase : FetchPhase
  source : DFile
  server : FetchServer

/-- The thread is in its loop. -/
def FetchThread.isActive (thread : FetchThread) : Bool :=
  match thread.phase with
  | .approved => false
  | .looping => true
  | .waiting _ => true
  | .returned => false

/-- A thread that has done its work, with the node right after that. -/
structure CompletedFetch where
  client : FetchClient
  node : DFile

/-- Where the client leaves the file. -/
def FetchClient.destination (client : FetchClient) : String :=
  if client.filepath = "" then DFile.filePath client.filename
  else client.filepath

/-- A node with the fetches of its files. -/
structure Fetching where
  node : DFile
  threads : List FetchThread
  /-- The completed fetches: no part of the code, only of what is said about
  it. -/
  completed : List CompletedFetch

/-- What can happen at the node. -/
inductive FetchAction
  /-- A `SEND_REQ` of a node is handled. -/
  | sendRequest
      (source : DFile) (filename : String) (port : Int) (filepath : String)
  /-- An approved thread starts. -/
  | start (index : Nat)
  /-- A request is sent and answered. -/
  | request (index : Nat)
  /-- The reply is processed. -/
  | receive (index : Nat)
  /-- The loop ends. -/
  | finish (index : Nat)

namespace Fetching

/-- No fetch has been requested. -/
def initial (node : DFile) : Fetching where
  node := node
  threads := []
  completed := []

/-- The thread is replaced after it has changed the node. -/
def proceed
    (state : Fetching) (index : Nat) (node : DFile) (thread : FetchThread) :
    Fetching :=
  { state with node := node, threads := state.threads.set index thread }

/-- The message of a node that has the file. -/
def sendRequestTo
    (shell : Shell) (source : DFile) (filename : String)
    (port : Int) (filepath : String) : SendRequest :=
  { source.sendRequest shell filename port with
    filepath := if filepath = "" then none else some filepath }

/-- One step at the node; all servers hold the given contents. -/
def step
    (contents : String → Bytes) (shell : Shell)
    (state : Fetching) : FetchAction → Option Fetching
  | .sendRequest source filename port filepath =>
      if source.disk (DFile.filePath filename) = some (contents filename) then
        match state.node.processSendRequest
            (sendRequestTo shell source filename port filepath) with
        | some client =>
            let (serving, server) := FetchServer.start source client.port
              client.filename client.chunksize
            some
              { state with
                threads := state.threads ++
                  [⟨client, .approved, serving, server⟩] }
        | none => some state
      else none
  | .start index =>
      match state.threads[index]? with
      | some ⟨client, .approved, source, server⟩ =>
          some (state.proceed index (client.start state.node)
            ⟨client, .looping, source, server⟩)
      | _ => none
  | .request index =>
      match state.threads[index]? with
      | some ⟨client, .looping, source, server⟩ =>
          if state.node.clientChunkCountMap client.filename <
              client.totalChunks then
            let (serving, server, reply) := FetchServer.receive source server
              (client.request state.node)
            some (state.proceed index state.node
              ⟨client, .waiting reply, serving, server⟩)
          else none
      | _ => none
  | .receive index =>
      match state.threads[index]? with
      | some ⟨client, .waiting (some reply), source, server⟩ =>
          some (state.proceed index (state.node.processFetchReply reply)
            ⟨client, .looping, source, server⟩)
      | _ => none
  | .finish index =>
      match state.threads[index]? with
      | some ⟨client, .looping, source, server⟩ =>
          if state.node.clientChunkCountMap client.filename <
              client.totalChunks then none
          else
            let node := (client.finish shell state.node).1
            some
              { state.proceed index node
                  ⟨client, .returned, source, server⟩ with
                completed := state.completed ++ [⟨client, node⟩] }
      | _ => none

end Fetching

/-- The fetches of a node from servers that hold the same contents. -/
def fetching
    (contents : String → Bytes) (shell : Shell) (node : DFile) :
    TransitionSystem Fetching FetchAction where
  initial := Fetching.initial node
  step := Fetching.step contents shell

/-- The file is where the client was to leave it, and if it stays in the store
it is registered. -/
structure Delivered
    (contents : String → Bytes) (fetch : CompletedFetch) : Prop where
  stored : fetch.node.disk fetch.client.destination =
    some (contents fetch.client.filename)
  registered : fetch.client.filepath = "" →
    fetch.node.Registers fetch.client.filename

/-- A thread starts when nothing is stored under the name of its file, which
commands find, and no other thread is fetching this file, which is not empty
and whose number of chunks is an `int`; and a file is moved to a usable path
that is not where another thread is writing. -/
def Separate
    (contents : String → Bytes) (shell : Shell) (state : Fetching) :
    FetchAction → Prop
  | .start index =>
      ∀ thread ∈ state.threads[index]?,
        state.node.disk (DFile.filePath thread.client.filename) = none ∧
          (∀ other ∈ state.threads, other.isActive = true →
            other.client.filename ≠ thread.client.filename) ∧
          contents thread.client.filename ≠ [] ∧
          List.chunkCount 256000 (contents thread.client.filename).length <
            2 ^ 31 ∧
          shell.usable (DFile.filePath thread.client.filename) = true
  | .finish index =>
      ∀ thread ∈ state.threads[index]?, thread.client.filepath ≠ "" →
        shell.usable thread.client.filepath = true ∧
          ∀ other ∈ state.threads, other.isActive = true →
            other.client.filename ≠ thread.client.filename →
              DFile.filePath other.client.filename ≠ thread.client.filepath
  | _ => True

instance
    (contents : String → Bytes) (shell : Shell) (state : Fetching)
    (action : FetchAction) :
    Decidable (Separate contents shell state action) := by
  rcases action <;> unfold Separate <;> infer_instance

/-! ## What the other threads notice -/

/-- Counter and stored content of a file are the same. -/
structure Untouched (filename : String) (node next : DFile) : Prop where
  counted : next.clientChunkCountMap filename =
    node.clientChunkCountMap filename
  stored : next.disk (DFile.filePath filename) =
    node.disk (DFile.filePath filename)

section Frames

variable {shell : Shell} {client : FetchClient} {node : DFile}
variable {filename : String}

theorem Untouched.refl : Untouched filename node node where
  counted := rfl
  stored := rfl

/-- A thread starts with the counter of its own file. -/
theorem Untouched.start (differs : filename ≠ client.filename) :
    Untouched filename node (client.start node) where
  counted := Function.update_of_ne differs _ _
  stored := rfl

/-- A chunk belongs to the file that its reply names. -/
theorem Untouched.processFetchReply
    {content : Bytes} {size index : Nat}
    (differs : filename ≠ client.filename) :
    Untouched filename node
      (node.processFetchReply
        (sliceReply client.filename content size index)) := by
  simp only [DFile.processFetchReply, sliceReply, DFile.recvNextChunk]
  split
  · exact refl
  · split
    · exact refl
    · exact
        { counted := Function.update_of_ne differs _ _
          stored := Function.update_of_ne
            (fun same => differs (DFile.filePath_inj.mp same)) _ _ }

/-- A completed file is registered, or moved to its path. -/
theorem Untouched.finish
    (differs : filename ≠ client.filename)
    (usable : shell.usable (DFile.filePath client.filename) = true)
    (moves : client.filepath ≠ "" →
      shell.usable client.filepath = true ∧
        DFile.filePath filename ≠ client.filepath) :
    Untouched filename node (client.finish shell node).1 := by
  have otherPath : DFile.filePath filename ≠
      DFile.filePath client.filename :=
    fun same => differs (DFile.filePath_inj.mp same)
  unfold FetchClient.finish
  split
  · refine { counted := ?_, stored := ?_ }
    · unfold DFile.addToLocalFileMap
      split <;> rfl
    · rw [DFile.addToLocalFileMap_disk]
  · next named =>
      obtain ⟨toUsable, elsewhere⟩ := moves named
      refine { counted := rfl, stored := ?_ }
      change shell.mv _ _ _ _ = _
      rw [shell.mv_of_usable _ _ _ usable toUsable,
        Disk.move_of_ne otherPath elsewhere]

/-- A fetch goes on as before if its file is untouched. -/
theorem Progressed.of_untouched
    {content : Bytes} {size done : Nat} {server : FetchServer} {next : DFile}
    (progressed : Progressed client content size done server node)
    (untouched : Untouched client.filename node next) :
    Progressed client content size done server next :=
  { progressed with
    counted := untouched.counted.trans progressed.counted
    received := untouched.stored.trans progressed.received }

end Frames

/-! ## The invariant -/

/-- Where the thread and its server stand, according to its phase. -/
def Positioned
    (content : Bytes) (node : DFile) (thread : FetchThread) : Prop :=
  match thread.phase with
  | .approved => ∃ source : DFile,
      source.disk (DFile.filePath thread.client.filename) = some content ∧
        thread.server = (FetchServer.start source thread.client.port
          thread.client.filename thread.client.chunksize).2
  | .looping => ∃ done ≤ List.chunkCount 256000 content.length,
      Progressed thread.client content 256000 done thread.server node
  | .waiting reply => ∃ done < List.chunkCount 256000 content.length,
      ∃ server : FetchServer,
        Progressed thread.client content 256000 done server node ∧
          thread.server = server.advance content ∧
          reply = some (sliceReply thread.client.filename content 256000 done)
  | .returned => True

/-- What is known of a fetch. -/
structure Serves
    (shell : Shell) (content : Bytes) (node : DFile) (thread : FetchThread) :
    Prop where
  chunksize : thread.client.chunksize = (256000 : Nat)
  filesize : thread.client.filesize = content.length
  present : thread.source.disk (DFile.filePath thread.client.filename) =
    some content
  sound : thread.isActive = true →
    content ≠ [] ∧ List.chunkCount 256000 content.length < 2 ^ 31 ∧
      shell.usable (DFile.filePath thread.client.filename) = true
  positioned : Positioned content node thread

/-- What separate steps preserve. -/
structure Sound
    (contents : String → Bytes) (shell : Shell) (state : Fetching) :
    Prop where
  serves : ∀ thread ∈ state.threads,
    Serves shell (contents thread.client.filename) state.node thread
  apart : ∀ (place : Nat) (thread : FetchThread) (elsewhere : Nat)
    (other : FetchThread), state.threads[place]? = some thread →
      state.threads[elsewhere]? = some other → elsewhere ≠ place →
        thread.isActive = true → other.isActive = true →
          other.client.filename ≠ thread.client.filename
  delivered : ∀ fetch ∈ state.completed, Delivered contents fetch

section Steps

variable {contents : String → Bytes} {shell : Shell}
variable {state next : Fetching} {action : FetchAction}
variable {index : Nat} {old new : FetchThread} {node : DFile}

/-- A thread that is not active does not depend on the node, and an active one
only on its own file. -/
theorem Serves.of_untouched
    {content : Bytes} {thread : FetchThread}
    (serves : Serves shell content state.node thread)
    (untouched : thread.isActive = true →
      Untouched thread.client.filename state.node node) :
    Serves shell content node thread := by
  refine { serves with positioned := ?_ }
  have positioned := serves.positioned
  unfold Positioned at positioned ⊢
  cases phase : thread.phase with
  | approved => simpa only [phase] using positioned
  | looping =>
      have same := untouched (by rw [FetchThread.isActive, phase])
      simp only [phase] at positioned ⊢
      obtain ⟨done, within, progressed⟩ := positioned
      exact ⟨done, within, progressed.of_untouched same⟩
  | waiting reply =>
      have same := untouched (by rw [FetchThread.isActive, phase])
      simp only [phase] at positioned ⊢
      obtain ⟨done, within, server, progressed, rest⟩ := positioned
      exact ⟨done, within, server, progressed.of_untouched same, rest⟩
  | returned => trivial

/-- The file that is on disk is delivered. -/
theorem delivered_of_finish
    {client : FetchClient}
    (stored : node.disk (DFile.filePath client.filename) =
      some (contents client.filename))
    (usable : shell.usable (DFile.filePath client.filename) = true)
    (moves : client.filepath ≠ "" → shell.usable client.filepath = true) :
    Delivered contents ⟨client, (client.finish shell node).1⟩ := by
  by_cases keeps : client.filepath = ""
  · refine { stored := ?_, registered := fun _ => ?_ }
    · rw [FetchClient.finish, if_pos keeps, FetchClient.destination,
        if_pos keeps, DFile.addToLocalFileMap_disk, stored]
    · rw [FetchClient.finish, if_pos keeps]
      exact DFile.registers_addToLocalFileMap.mpr (.inl rfl)
  · refine { stored := ?_, registered := fun named => absurd named keeps }
    rw [FetchClient.finish, if_neg keeps, FetchClient.destination,
      if_neg keeps]
    change shell.mv _ _ _ _ = _
    rw [shell.mv_of_usable _ _ _ usable (moves keeps),
      Disk.move_destination stored]

namespace Sound

theorem initial : Sound contents shell (Fetching.initial node) where
  serves := fun _ present => nomatch present
  apart := fun _ _ _ _ isThread => nomatch List.mem_of_getElem? isThread
  delivered := fun _ isCompleted => nomatch isCompleted

/-- One thread goes on, and the active threads for other files notice nothing
of it. -/
theorem proceed
    (sound : Sound contents shell state)
    (alone : ∀ (place : Nat) (other : FetchThread),
      state.threads[place]? = some other → place ≠ index →
        other.isActive = true →
          other.client.filename ≠ new.client.filename)
    (untouched : ∀ other ∈ state.threads, other.isActive = true →
      other.client.filename ≠ new.client.filename →
        Untouched other.client.filename state.node node)
    (serves : Serves shell (contents new.client.filename) node new) :
    Sound contents shell (state.proceed index node new) where
  serves := by
    intro thread present
    obtain ⟨place, isThread⟩ := List.mem_iff_getElem?.mp present
    rw [Fetching.proceed, List.getElem?_set] at isThread
    split at isThread
    · split at isThread
      · obtain rfl := Option.some.inj isThread
        exact serves
      · cases isThread
    · next elsewhere =>
        have isOther := List.mem_of_getElem? isThread
        exact (sound.serves thread isOther).of_untouched fun active =>
          untouched thread isOther active
            (alone place thread isThread (Ne.symm elsewhere) active)
  apart := by
    intro place thread elsewhere other isThread isOther differs
      threadActive otherActive
    rw [Fetching.proceed, List.getElem?_set] at isThread isOther
    by_cases atPlace : index = place
    · subst atPlace
      rw [if_pos rfl] at isThread
      rw [if_neg (Ne.symm differs)] at isOther
      split at isThread
      · obtain rfl := Option.some.inj isThread
        exact alone elsewhere other isOther differs otherActive
      · cases isThread
    · rw [if_neg atPlace] at isThread
      by_cases atOther : index = elsewhere
      · subst atOther
        rw [if_pos rfl] at isOther
        split at isOther
        · obtain rfl := Option.some.inj isOther
          exact (alone place thread isThread (Ne.symm atPlace)
            threadActive).symm
        · cases isOther
      · rw [if_neg atOther] at isOther
        exact sound.apart place thread elsewhere other isThread isOther
          differs threadActive otherActive
  delivered := sound.delivered

/-- An active thread is the only one for its file. -/
theorem alone
    (sound : Sound contents shell state)
    (found : state.threads[index]? = some old) (active : old.isActive = true) :
    ∀ (place : Nat) (other : FetchThread),
      state.threads[place]? = some other → place ≠ index →
        other.isActive = true →
          other.client.filename ≠ old.client.filename :=
  fun place other isOther differs otherActive =>
    sound.apart index old place other found isOther differs active otherActive

/-- One more request is approved. -/
theorem approve
    (sound : Sound contents shell state)
    (inactive : new.isActive = false)
    (serves : Serves shell (contents new.client.filename) state.node new) :
    Sound contents shell { state with threads := state.threads ++ [new] } where
  serves := by
    intro thread present
    rcases List.mem_append.mp present with old | isNew
    · exact sound.serves thread old
    · obtain rfl := List.mem_singleton.mp isNew
      exact serves
  apart := by
    have known : ∀ {place : Nat} {thread : FetchThread},
        (state.threads ++ [new])[place]? = some thread →
          thread.isActive = true → state.threads[place]? = some thread := by
      intro place thread isThread active
      rw [List.getElem?_append] at isThread
      split at isThread
      · exact isThread
      · obtain rfl :=
          List.mem_singleton.mp (List.mem_of_getElem? isThread)
        rw [inactive] at active
        nomatch active
    intro place thread elsewhere other isThread isOther differs
      threadActive otherActive
    exact sound.apart place thread elsewhere other
      (known isThread threadActive) (known isOther otherActive) differs
      threadActive otherActive
  delivered := sound.delivered

/-- The loop has fetched everything when it ends. -/
theorem stored_of_finished
    {content : Bytes} {thread : FetchThread}
    (serves : Serves shell content node thread)
    (looping : thread.phase = .looping)
    (finished : ¬ node.clientChunkCountMap thread.client.filename <
      thread.client.totalChunks) :
    node.disk (DFile.filePath thread.client.filename) = some content := by
  have active : thread.isActive = true := by
    rw [FetchThread.isActive, looping]
  obtain ⟨nonempty, fits, _⟩ := serves.sound active
  have positioned := serves.positioned
  simp only [Positioned, looping] at positioned
  obtain ⟨done, within, progressed⟩ := positioned
  have total := FetchClient.totalChunks_of_size serves.chunksize
    serves.filesize fits
  rw [progressed.counted, total] at finished
  have all : done = List.chunkCount 256000 content.length := by omega
  have positive : 0 < List.chunkCount 256000 content.length := by
    rw [List.lt_chunkCount_iff (by decide), Nat.zero_mul]
    exact List.length_pos_iff.mpr nonempty
  rw [progressed.received, if_neg (by omega), all,
    List.take_chunkCount (by decide)]

/-- A request for a file that its server has is approved. -/
theorem sendRequest
    (sound : Sound contents shell state) {source : DFile} {filename : String}
    {port : Int} {filepath : String} {client : FetchClient}
    (present : source.disk (DFile.filePath filename) =
      some (contents filename))
    (started : state.node.processSendRequest
      (Fetching.sendRequestTo shell source filename port filepath) =
        some client) :
    Sound contents shell
      { state with
        threads := state.threads ++
          [⟨client, .approved,
            (FetchServer.start source client.port client.filename
              client.chunksize).1,
            (FetchServer.start source client.port client.filename
              client.chunksize).2⟩] } := by
  rw [DFile.processSendRequest, Option.ite_none_right_eq_some,
    Option.some.injEq] at started
  obtain ⟨_, rfl⟩ := started
  exact sound.approve rfl
    { chunksize := rfl
      filesize := DFile.getSize_of_some present
      present := present
      sound := by
        intro active
        cases active
      positioned := ⟨source, present, rfl⟩ }

section OneThread

variable {client : FetchClient} {source : DFile} {server : FetchServer}

/-- A thread starts that is the only one for its file. -/
theorem start
    (sound : Sound contents shell state)
    (separate : Separate contents shell state (.start index))
    (found : state.threads[index]? =
      some ⟨client, .approved, source, server⟩) :
    Sound contents shell
      (state.proceed index (client.start state.node)
        ⟨client, .looping, source, server⟩) := by
  obtain ⟨fresh, alone, nonempty, fits, usable⟩ := separate _ found
  have serves := sound.serves _ (List.mem_of_getElem? found)
  obtain ⟨origin, present, isServer⟩ := serves.positioned
  refine sound.proceed
    (fun place other isOther _ => alone other (List.mem_of_getElem? isOther))
    (fun other _ _ differs => Untouched.start differs)
    { chunksize := serves.chunksize
      filesize := serves.filesize
      present := serves.present
      sound := fun _ => ⟨nonempty, fits, usable⟩
      positioned := ?_ }
  refine ⟨0, Nat.zero_le _, ?_⟩
  exact isServer ▸ Progressed.start serves.chunksize present fresh

/-- The server of a thread that misses a chunk replies with it. -/
theorem request
    (sound : Sound contents shell state)
    (found : state.threads[index]? =
      some ⟨client, .looping, source, server⟩)
    (missing : state.node.clientChunkCountMap client.filename <
      client.totalChunks) :
    Sound contents shell
      (state.proceed index state.node
        ⟨client,
          .waiting
            (FetchServer.receive source server (client.request state.node)
              ).2.2,
          (FetchServer.receive source server (client.request state.node)).1,
          (FetchServer.receive source server (client.request state.node)
            ).2.1⟩) := by
  have serves := sound.serves _ (List.mem_of_getElem? found)
  have alone := sound.alone found rfl
  obtain ⟨nonempty, fits, usable⟩ := serves.sound rfl
  obtain ⟨done, within, progressed⟩ := serves.positioned
  have total : client.totalChunks =
      List.chunkCount 256000 (contents client.filename).length :=
    FetchClient.totalChunks_of_size serves.chunksize serves.filesize fits
  rw [progressed.counted, total] at missing
  have below : done <
      List.chunkCount 256000 (contents client.filename).length := by omega
  obtain ⟨received, _⟩ := progressed.exchange serves.present (by decide)
    ((List.lt_chunkCount_iff (by decide) _ _).mp below)
  rw [received]
  exact sound.proceed alone
    (fun _ _ _ _ => Untouched.refl)
    { chunksize := serves.chunksize
      filesize := serves.filesize
      present := serves.present
      sound := fun _ => ⟨nonempty, fits, usable⟩
      positioned := ⟨done, below, server, progressed, rfl, rfl⟩ }

/-- A thread takes the reply of its server. -/
theorem receive
    (sound : Sound contents shell state) {reply : FetchReply}
    (found : state.threads[index]? =
      some ⟨client, .waiting (some reply), source, server⟩) :
    Sound contents shell
      (state.proceed index (state.node.processFetchReply reply)
        ⟨client, .looping, source, server⟩) := by
  have serves := sound.serves _ (List.mem_of_getElem? found)
  have alone := sound.alone found rfl
  obtain ⟨nonempty, fits, usable⟩ := serves.sound rfl
  obtain ⟨done, below, before, progressed, isServer, isReply⟩ :=
    serves.positioned
  have isReply : reply = sliceReply client.filename
      (contents client.filename) 256000 done := Option.some.inj isReply
  subst isReply
  obtain ⟨_, further⟩ := progressed.exchange serves.present (by decide)
    ((List.lt_chunkCount_iff (by decide) _ _).mp below)
  refine sound.proceed alone
    (fun other _ _ differs => Untouched.processFetchReply differs)
    { chunksize := serves.chunksize
      filesize := serves.filesize
      present := serves.present
      sound := fun _ => ⟨nonempty, fits, usable⟩
      positioned := ⟨done + 1, below, ?_⟩ }
  exact isServer ▸ further

/-- A thread that has fetched everything delivers it. -/
theorem finish
    (sound : Sound contents shell state)
    (separate : Separate contents shell state (.finish index))
    (found : state.threads[index]? =
      some ⟨client, .looping, source, server⟩)
    (finished : ¬ state.node.clientChunkCountMap client.filename <
      client.totalChunks) :
    Sound contents shell
      { state.proceed index (client.finish shell state.node).1
          ⟨client, .returned, source, server⟩ with
        completed := state.completed ++
          [⟨client, (client.finish shell state.node).1⟩] } := by
  have serves := sound.serves _ (List.mem_of_getElem? found)
  have alone := sound.alone found rfl
  have usable := (serves.sound rfl).2.2
  have stored := stored_of_finished serves rfl finished
  have proceeded : Sound contents shell
      (state.proceed index (client.finish shell state.node).1
        ⟨client, .returned, source, server⟩) :=
    sound.proceed alone
      (fun other isOther active differs => Untouched.finish differs usable
        fun named => ⟨(separate _ found named).1,
          (separate _ found named).2 other isOther active differs⟩)
      { chunksize := serves.chunksize
        filesize := serves.filesize
        present := serves.present
        sound := by
          intro active
          cases active
        positioned := trivial }
  refine { proceeded with delivered := ?_ }
  intro fetch isCompleted
  rcases List.mem_append.mp isCompleted with old | isNew
  · exact sound.delivered fetch old
  · obtain rfl := List.mem_singleton.mp isNew
    exact delivered_of_finish stored usable
      fun named => (separate _ found named).1

end OneThread

/-- Every separate step keeps the fetches sound. -/
theorem step
    (sound : Sound contents shell state)
    (separate : Separate contents shell state action)
    (stepped : state.step contents shell action = some next) :
    Sound contents shell next := by
  cases action with
  | sendRequest source filename port filepath =>
      simp only [Fetching.step] at stepped
      split at stepped
      · next present =>
          split at stepped
          · next client started =>
              exact Option.some.inj stepped ▸ sound.sendRequest present started
          · exact Option.some.inj stepped ▸ sound
      · cases stepped
  | start index =>
      simp only [Fetching.step] at stepped
      split at stepped
      · next client source server found =>
          exact Option.some.inj stepped ▸ sound.start separate found
      · cases stepped
  | request index =>
      simp only [Fetching.step] at stepped
      split at stepped
      · next client source server found =>
          split at stepped
          · next missing =>
              exact Option.some.inj stepped ▸ sound.request found missing
          · cases stepped
      · cases stepped
  | receive index =>
      simp only [Fetching.step] at stepped
      split at stepped
      · next client reply source server found =>
          exact Option.some.inj stepped ▸ sound.receive found
      · cases stepped
  | finish index =>
      simp only [Fetching.step] at stepped
      split at stepped
      · next client source server found =>
          split at stepped
          · cases stepped
          · next finished =>
              exact Option.some.inj stepped ▸
                sound.finish separate found finished
      · cases stepped

end Sound

end Steps

/-- In a run of separate steps every completed fetch has delivered the content
that its server announced. -/
theorem delivered_of_separate
    {contents : String → Bytes} {shell : Shell} {node : DFile}
    {trace : List FetchAction} {state : Fetching}
    (every : (fetching contents shell node).Every (Separate contents shell)
      (.initial node) trace)
    (runs : (fetching contents shell node).Runs (.initial node) trace
      state) :
    ∀ fetch ∈ state.completed, Delivered contents fetch := by
  have sound : Sound contents shell state :=
    every.invariant runs (Sound contents shell)
      (fun _ _ _ before separate stepped => before.step separate stepped)
      Sound.initial
  exact sound.delivered

/-- Every file has a single byte. -/
def oneByte (_ : String) : Bytes := [7]

/-- A shell on a machine where every file has this content. -/
def oneByteShell : Shell :=
  .strict fun _ => "89e74e640b8c46257a29de0616794d5d"

/-- Two files of one node are fetched at the same time, the second one to a
path. -/
def twoFiles : List FetchAction :=
  [.sendRequest (nodeWithFile "a" "f" [7]) "f" 9601 "",
    .sendRequest (nodeWithFile "a" "g" [7]) "g" 9602 "out",
    .start 0, .start 1, .request 0, .request 1, .receive 1, .receive 0,
    .finish 1, .finish 0]

theorem delivered_twoFiles :
    ∃ state ∈ (fetching oneByte oneByteShell (emptyNode "b")).run
        (.initial (emptyNode "b")) twoFiles,
      state.completed.length = 2 ∧
        ∀ fetch ∈ state.completed, Delivered oneByte fetch := by
  have every : (fetching oneByte oneByteShell (emptyNode "b")).Every
      (Separate oneByte oneByteShell) (.initial (emptyNode "b")) twoFiles := by
    decide +kernel
  obtain ⟨state, runs, completed⟩ :
      ∃ state ∈ (fetching oneByte oneByteShell (emptyNode "b")).run
          (.initial (emptyNode "b")) twoFiles,
        state.completed.length = 2 := by
    decide +kernel
  exact ⟨state, runs, completed, delivered_of_separate every runs⟩

/-- One file is fetched twice, to two paths; the second thread starts when the
first one has all chunks. -/
def sameFile : List FetchAction :=
  [.sendRequest (nodeWithFile "a" "f" [7]) "f" 9601 "out",
    .sendRequest (nodeWithFile "a" "f" [7]) "f" 9602 "too",
    .start 0, .request 0, .receive 0, .start 1, .request 1, .receive 1,
    .finish 1]

/-- The second thread has appended its chunk to the file of the first one. -/
theorem not_delivered_sameFile :
    ∃ state ∈ (fetching oneByte oneByteShell (emptyNode "b")).run
        (.initial (emptyNode "b")) sameFile,
      ∃ fetch ∈ state.completed,
        fetch.node.disk fetch.client.destination = some [7, 7] ∧
          ¬ Delivered oneByte fetch := by
  obtain ⟨state, runs, fetch, isCompleted, doubled⟩ :
      ∃ state ∈ (fetching oneByte oneByteShell (emptyNode "b")).run
          (.initial (emptyNode "b")) sameFile,
        ∃ fetch ∈ state.completed,
          fetch.node.disk fetch.client.destination = some [7, 7] := by
    decide +kernel
  refine ⟨state, runs, fetch, isCompleted, doubled, fun delivered => ?_⟩
  have single := delivered.stored
  rw [doubled] at single
  nomatch Option.some.inj single

end FileTransfer
end CraneSps
