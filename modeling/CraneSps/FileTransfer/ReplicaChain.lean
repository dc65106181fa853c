import CraneSps.FileTransfer.Fetch

/-!
# Chains of replicas

A hop sends a file from a holder to a node that does not have it yet, and the
new holder is the source of the next hop.  Files of up to `2 ^ 31 - 1` bytes
with plain names survive any number of hops, with one exception: the target of
an empty file never creates it, and registers a file of size `-1` instead.
-/

namespace CraneSps
namespace FileTransfer

variable (shell : Shell) (filename : String)

namespace DFile

/-- `process(SendRequest)`: an approved request starts a fetch client. -/
def processSendRequest
    (node : DFile) (request : SendRequest) : Option FetchClient :=
  if node.checkFileAvailable request.filename then
    some
      { senderip := request.senderip
        port := request.port
        filename := request.filename
        filemd5 := request.filemd5
        filesize := request.filesize
        chunksize := request.chunksize
        filepath := request.filepath.getD "" }
  else none

end DFile

/-- One hop: the request, the fetch and the registration.  The reply that
starts the server thread repeats port, name and chunk size of the request.
The fuel is enough for one exchange for each chunk. -/
def replicate (source target : DFile) (port : Int) : Option DFile :=
  (target.processSendRequest (source.sendRequest shell filename port)).bind
    fun client =>
      ((Transfer.start client source target).fetchLoop client
        (client.totalChunks.toNat + 1)).map
          fun (final, _) => (client.finish shell final.target).1

/-- The new holders of a chain of hops, each with the port it uses. -/
def replicaChain : DFile → List (DFile × Int) → Option (List DFile)
  | _, [] => some []
  | source, (target, port) :: hops =>
      (replicate shell filename source target port).bind fun holder =>
        (replicaChain holder hops).map fun holders => holder :: holders

/-- The node stores the content under the name and has registered it once,
with its size and md5 sum. -/
structure Replica (content : Bytes) (node : DFile) : Prop where
  stored : node.disk (DFile.filePath filename) = some content
  registered : ∃ info ∈ node.localFiles, info.name = filename
  faithful : ∀ info ∈ node.localFiles, info.name = filename →
    info.md5 = shell.md5 content ∧ info.size = content.length

/-- The node has neither stored nor registered the file. -/
structure Newcomer (node : DFile) : Prop where
  missing : node.disk (DFile.filePath filename) = none
  available : node.checkFileAvailable filename = true

variable {shell filename}
variable {content : Bytes} {source target : DFile} {port : Int}

/-- The client started for the request of a node that holds the content. -/
def clientFor
    (shell : Shell) (filename : String) (source : DFile)
    (port : Int) (content : Bytes) : FetchClient where
  senderip := source.id
  port := port
  filename := filename
  filemd5 := source.getmd5 shell (DFile.filePath filename)
  filesize := content.length
  chunksize := DFile.chunkSize
  filepath := ""

theorem processSendRequest_of_newcomer
    (present : source.disk (DFile.filePath filename) = some content)
    (newcomer : Newcomer filename target) :
    target.processSendRequest (source.sendRequest shell filename port) =
      some (clientFor shell filename source port content) := by
  simp [DFile.processSendRequest, DFile.sendRequest, newcomer.available,
    DFile.getSize_of_some present, clientFor]

/-- A file that nobody has registered is registered with the size and md5 sum
of what is on disk. -/
theorem replica_of_addToLocalFileMap
    {node : DFile} (available : node.checkFileAvailable filename = true)
    (stored : node.disk (DFile.filePath filename) = some content)
    (fits : content.length < 2 ^ 31)
    (usable : shell.usable (DFile.filePath filename) = true) :
    Replica shell filename content (node.addToLocalFileMap shell filename) := by
  have registered := DFile.addToLocalFileMap_of_available shell available
  rw [DFile.getmd5_of_some usable stored, DFile.getSize_of_some stored]
    at registered
  refine { stored := ?_, registered := ?_, faithful := ?_ }
  · rw [DFile.addToLocalFileMap_disk, stored]
  · rw [registered]
    exact ⟨_, List.mem_append_right _ (List.mem_singleton_self _), rfl⟩
  · intro info present ofThisName
    rw [registered, List.mem_append, List.mem_singleton] at present
    rcases present with old | rfl
    · exact absurd ofThisName
        (DFile.checkFileAvailable_eq_true_iff.mp available info old)
    · simp only [FileInfo.new, toInt_of_lt fits, and_self]

/-- A file that is neither empty nor too large arrives. -/
theorem replicate_of_fits
    (present : source.disk (DFile.filePath filename) = some content)
    (newcomer : Newcomer filename target)
    (nonempty : content ≠ []) (fits : content.length < 2 ^ 31) :
    ∃ node : DFile, replicate shell filename source target port =
        some (node.addToLocalFileMap shell filename) ∧
      node.checkFileAvailable filename = true ∧
      node.disk (DFile.filePath filename) = some content := by
  have positive : 0 < 256000 := by decide
  have few : List.chunkCount 256000 content.length < 2 ^ 31 :=
    lt_of_le_of_lt (List.chunkCount_le positive content.length) fits
  have total : (clientFor shell filename source port content).totalChunks =
      List.chunkCount 256000 content.length :=
    FetchClient.totalChunks_of_size rfl rfl few
  have started : Underway (clientFor shell filename source port content)
      content 256000 0 (Transfer.start
        (clientFor shell filename source port content) source target) :=
    Underway.start rfl present newcomer.missing
  obtain ⟨final, loop, finished⟩ :=
    Underway.fetchLoop positive (by decide) total _ started (Nat.zero_add _)
  have fetched := loop (List.chunkCount 256000 content.length + 1)
    (Nat.lt_succ_self _)
  refine ⟨final.target, ?_, ?_, ?_⟩
  · rw [replicate, processSendRequest_of_newcomer present newcomer,
      Option.bind_some, total, Int.toNat_natCast, fetched]
    rfl
  · rw [DFile.checkFileAvailable_eq_true_iff,
      Transfer.fetchLoop_localFiles fetched]
    exact DFile.checkFileAvailable_eq_true_iff.mp newcomer.available
  · have some : List.chunkCount 256000 content.length ≠ 0 := by
      have pos := List.chunkCount_pos positive
        (List.length_pos_iff.mpr nonempty)
      omega
    have received := finished.progressed.received
    rw [Nat.zero_add, if_neg some, List.take_chunkCount positive] at received
    exact received

/-- Nothing of an empty file arrives. -/
theorem not_replica_of_empty
    {holder : DFile}
    (present : source.disk (DFile.filePath filename) = some [])
    (newcomer : Newcomer filename target)
    (arrived : replicate shell filename source target port = some holder) :
    holder.disk (DFile.filePath filename) = none := by
  rw [replicate, processSendRequest_of_newcomer present newcomer,
    Option.bind_some, Option.map_eq_some_iff] at arrived
  obtain ⟨⟨final, replies⟩, loop, rfl⟩ := arrived
  have nothing : (clientFor shell filename source port []).totalChunks =
      0 := rfl
  rw [Transfer.fetchLoop_of_not_lt] at loop
  · obtain ⟨rfl, _⟩ := Prod.mk.inj (Option.some.inj loop)
    simp only [FetchClient.finish, clientFor, if_true]
    rw [DFile.addToLocalFileMap_disk]
    exact newcomer.missing
  · rw [nothing]
    simp [Transfer.start, FetchClient.start]

/-- A hop ends with the registration of what has been fetched. -/
theorem addToLocalFileMap_of_replicate
    {holder : DFile}
    (present : source.disk (DFile.filePath filename) = some content)
    (newcomer : Newcomer filename target)
    (arrived : replicate shell filename source target port = some holder) :
    ∃ node : DFile, node.checkFileAvailable filename = true ∧
      holder = node.addToLocalFileMap shell filename := by
  rw [replicate, processSendRequest_of_newcomer present newcomer,
    Option.bind_some, Option.map_eq_some_iff] at arrived
  obtain ⟨⟨final, replies⟩, loop, rfl⟩ := arrived
  have same : final.target.localFiles = target.localFiles :=
    Transfer.fetchLoop_localFiles loop
  refine ⟨final.target, ?_, rfl⟩
  rw [DFile.checkFileAvailable_eq_true_iff, same]
  exact DFile.checkFileAvailable_eq_true_iff.mp newcomer.available

/-- What a hop registers has the size of an `int`. -/
theorem size_lt_of_replicate
    {holder : DFile}
    (present : source.disk (DFile.filePath filename) = some content)
    (newcomer : Newcomer filename target)
    (arrived : replicate shell filename source target port = some holder)
    {info : FileInfo} (isRegistered : info ∈ holder.localFiles)
    (ofName : info.name = filename) :
    info.size < 2 ^ 31 := by
  obtain ⟨node, available, rfl⟩ :=
    addToLocalFileMap_of_replicate present newcomer arrived
  rw [DFile.addToLocalFileMap_of_available shell available,
    List.mem_append, List.mem_singleton] at isRegistered
  rcases isRegistered with old | rfl
  · exact absurd ofName
      (DFile.checkFileAvailable_eq_true_iff.mp available info old)
  · exact toInt_lt _

/-- With a shell that finds nothing else, a name whose checksum is registered
is plain. -/
theorem isPlain_of_replicate
    {holder : DFile} {md5sum : Bytes → String}
    (present : source.disk (DFile.filePath filename) = some content)
    (newcomer : Newcomer filename target)
    (arrived : replicate (.strict md5sum) filename source target port =
      some holder)
    (replica : Replica (.strict md5sum) filename content holder)
    (nonempty : substr (md5sum content) 32 ≠ "") :
    isPlain filename = true := by
  obtain ⟨node, available, rfl⟩ :=
    addToLocalFileMap_of_replicate present newcomer arrived
  have stored := replica.stored
  have faithful := replica.faithful
  rw [DFile.addToLocalFileMap_disk] at stored
  rw [DFile.addToLocalFileMap_of_available _ available] at faithful
  have isSum := (faithful _
    (List.mem_append_right _ (List.mem_singleton_self _)) rfl).1
  by_contra special
  have unusable : (Shell.strict md5sum).usable (DFile.filePath filename) =
      false := by
    rw [Shell.strict_usable]
    exact Bool.eq_false_iff.mpr special
  have printed : (Shell.strict md5sum).md5sum node.disk
      (DFile.filePath filename) = "" :=
    if_neg (Bool.eq_false_iff.mp unusable)
  simp only [FileInfo.new, DFile.getmd5, stored, printed] at isSum
  exact nonempty isSum.symm

/-- Every hop of a chain makes a replica if the file fits. -/
theorem replicaChain_of_fits
    (hops : List (DFile × Int))
    (present : source.disk (DFile.filePath filename) = some content)
    (newcomers : ∀ hop ∈ hops, Newcomer filename hop.1)
    (nonempty : content ≠ []) (fits : content.length < 2 ^ 31)
    (usable : shell.usable (DFile.filePath filename) = true) :
    ∃ holders, replicaChain shell filename source hops = some holders ∧
      ∀ holder ∈ holders, Replica shell filename content holder := by
  induction hops generalizing source with
  | nil => exact ⟨[], rfl, by simp⟩
  | cons hop hops inductionHypothesis =>
      have newcomer : Newcomer filename hop.1 :=
        newcomers hop List.mem_cons_self
      obtain ⟨node, arrived, available, stored⟩ :=
        @replicate_of_fits shell _ _ _ _ hop.2 present newcomer nonempty fits
      have replica : Replica shell filename content
          (node.addToLocalFileMap shell filename) :=
        replica_of_addToLocalFileMap available stored fits usable
      obtain ⟨holders, chain, replicas⟩ :=
        inductionHypothesis replica.stored
          fun later isLater => newcomers later (List.mem_cons_of_mem _ isLater)
      refine ⟨node.addToLocalFileMap shell filename :: holders, ?_, ?_⟩
      · simp [replicaChain, arrived, chain]
      · exact List.forall_mem_cons.mpr ⟨replica, replicas⟩

/-- What `md5sum` prints for the bytes 1, 2 and 255. -/
def threeBytesSum : String := "4f989b1ac8e4fab115696571104cfb67"

/-- For every shell every hop of a chain of newcomers makes a replica, exactly
if there are no hops or the name is plain and the file is neither empty nor
longer than an `int` can say. -/
theorem replicaChain_faithful_iff
    (filename : String) (content : Bytes)
    (source : DFile) (hops : List (DFile × Int))
    (present : source.disk (DFile.filePath filename) = some content)
    (newcomers : ∀ hop ∈ hops, Newcomer filename hop.1) :
    (∀ shell : Shell, ∃ holders,
        replicaChain shell filename source hops = some holders ∧
          ∀ holder ∈ holders, Replica shell filename content holder) ↔
      hops = [] ∨ (content ≠ [] ∧ content.length < 2 ^ 31 ∧
        isPlain filename = true) := by
  constructor
  · intro always
    obtain ⟨holders, chain, replicas⟩ :=
      always (.strict fun _ => threeBytesSum)
    cases hops with
    | nil => exact .inl rfl
    | cons hop hops =>
        obtain ⟨target, port⟩ := hop
        simp only [replicaChain, Option.bind_eq_some_iff,
          Option.map_eq_some_iff] at chain
        obtain ⟨holder, arrived, rest, _, rfl⟩ := chain
        have newcomer : Newcomer filename target :=
          newcomers (target, port) List.mem_cons_self
        have replica := replicas holder List.mem_cons_self
        refine .inr ⟨?_, ?_, ?_⟩
        · rintro rfl
          have missing := not_replica_of_empty present newcomer arrived
          rw [replica.stored] at missing
          nomatch missing
        · obtain ⟨info, isRegistered, ofName⟩ := replica.registered
          have small := size_lt_of_replicate present newcomer arrived
            isRegistered ofName
          rw [(replica.faithful info isRegistered ofName).2] at small
          omega
        · exact isPlain_of_replicate present newcomer arrived replica
            (by decide +kernel)
  · rintro (rfl | ⟨nonempty, fits, plain⟩) shell
    · exact ⟨[], rfl, by simp⟩
    · exact replicaChain_of_fits hops present newcomers nonempty fits
        (shell.usable_of_plain filename plain)

/-- Two hops of a file of three bytes. -/
theorem replicaChain_faithful_threeBytes :
    ∃ holders, replicaChain (.strict fun _ => threeBytesSum) "f"
        (nodeWithFile "a" "f" [1, 2, 255])
        [(emptyNode "b", 9601), (emptyNode "c", 9601)] = some holders ∧
      ∀ holder ∈ holders,
        Replica (.strict fun _ => threeBytesSum) "f" [1, 2, 255] holder := by
  refine (replicaChain_faithful_iff "f" [1, 2, 255]
    (nodeWithFile "a" "f" [1, 2, 255]) _ (nodeWithFile_disk _ _ _) ?_).mpr ?_
      (.strict fun _ => threeBytesSum)
  · simp only [List.forall_mem_cons]
    exact ⟨⟨rfl, rfl⟩, ⟨rfl, rfl⟩, by simp⟩
  · exact .inr (by decide +kernel)

/-- A hop of an empty file makes no replica. -/
theorem not_replicaChain_faithful :
    ¬ ∀ (shell : Shell) (filename : String) (content : Bytes)
        (source : DFile) (hops : List (DFile × Int)),
      source.disk (DFile.filePath filename) = some content →
        (∀ hop ∈ hops, Newcomer filename hop.1) →
        ∃ holders, replicaChain shell filename source hops = some holders ∧
          ∀ holder ∈ holders, Replica shell filename content holder := by
  intro faithful
  obtain ⟨holders, chain, replicas⟩ := faithful
    (.strict fun _ => threeBytesSum) "f" [] (nodeWithFile "a" "f" [])
    [(emptyNode "b", 9601)] (nodeWithFile_disk _ _ _)
    (List.forall_mem_cons.mpr ⟨⟨rfl, rfl⟩, by simp⟩)
  have missing : ∀ reached ∈ replicaChain (.strict fun _ => threeBytesSum) "f"
      (nodeWithFile "a" "f" []) [(emptyNode "b", 9601)],
      ∃ holder ∈ reached, holder.disk (DFile.filePath "f") = none := by
    decide +kernel
  obtain ⟨holder, isHolder, isMissing⟩ := missing holders chain
  have stored := (replicas holder isHolder).stored
  rw [isMissing] at stored
  nomatch stored

end FileTransfer
end CraneSps
