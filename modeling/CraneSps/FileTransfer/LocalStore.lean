import CraneSps.FileTransfer.ReplicaChain

/-!
# What one node stores

The operations that put a whole file into the store of a node or remove it.  A
tidy store names every file once and has no file on disk that it has not
registered.
-/

namespace CraneSps
namespace FileTransfer

namespace DFile

/-- `copyBufferedFile`, where the content is that of the buffered path. -/
def copyBufferedFile
    (shell : Shell) (node : DFile) (filename : String)
    (content : Bytes) : DFile :=
  (node.write (filePath filename) content).addToLocalFileMap shell filename

/-- `deleteLocalFile`. -/
def deleteLocalFile (node : DFile) (filename : String) : DFile :=
  if node.checkFileAvailable filename then node
  else
    { node with
      localFiles := node.localFiles.eraseP fun info => info.name == filename
      disk := Function.update node.disk (filePath filename) none }

/-- All chunks of a fetch at once: `recvNextChunk` appends each of them, and
without a chunk nothing is written. -/
def appendChunks
    (node : DFile) (filename : String) (content : Bytes) : DFile :=
  if content = [] then node
  else
    node.write (filePath filename)
      ((node.disk (filePath filename)).getD [] ++ content)

/-- A daemon starts: `cleanLocalFileDir`, and nothing in memory. -/
def cleanLocalFileDir (node : DFile) : DFile :=
  { emptyNode node.id with
    disk := fun path =>
      if fileRoot.toList.isPrefixOf path.toList then none
      else node.disk path }

/-- What is stored of a file. -/
def stored (node : DFile) (filename : String) : Option Bytes :=
  node.disk (filePath filename)

/-- The file is in the local file map. -/
def Registers (node : DFile) (filename : String) : Prop :=
  node.checkFileAvailable filename = false

instance (node : DFile) (filename : String) :
    Decidable (node.Registers filename) := by
  unfold Registers
  infer_instance

end DFile

/-- What a client receives: of a file the bytes that it asks for, and of one
that cannot be opened as many times the byte `0xFF`. -/
def FetchClient.fetched (client : FetchClient) (file : Option Bytes) : Bytes :=
  let length := (client.totalChunks * client.chunksize).toNat
  match file with
  | some content => content.take length
  | none => List.replicate length 0xFF

/-- A whole fetch at once: all chunks are appended and the file is
registered. -/
def FetchClient.fetchAll
    (shell : Shell) (client : FetchClient) (node : DFile)
    (content : Bytes) : DFile :=
  (client.finish shell (node.appendChunks client.filename content)).1

variable {shell : Shell} {filename other : String}
variable {content : Bytes} {node : DFile}

/-- Different files are stored at different paths. -/
theorem DFile.filePath_inj :
    DFile.filePath filename = DFile.filePath other ↔ filename = other := by
  simp [DFile.filePath]

namespace DFile

theorem registers_iff :
    node.Registers filename ↔
      ∃ info ∈ node.localFiles, info.name = filename := by
  simp [Registers, checkFileAvailable]

theorem stored_write :
    (node.write (filePath filename) content).stored other =
      if other = filename then some content else node.stored other := by
  by_cases same : other = filename
  · simp [stored, write, same]
  · simp [stored, write, same, filePath_inj]

@[simp] theorem stored_addToLocalFileMap :
    (node.addToLocalFileMap shell filename).stored other =
      node.stored other := by
  rw [stored, addToLocalFileMap_disk, stored]

/-- Registering a file registers this one and no other. -/
theorem registers_addToLocalFileMap :
    (node.addToLocalFileMap shell filename).Registers other ↔
      other = filename ∨ node.Registers other := by
  by_cases available : node.checkFileAvailable filename = true
  · rw [registers_iff, addToLocalFileMap_of_available shell available,
      registers_iff]
    simp only [List.mem_append, List.mem_singleton, or_and_right, exists_or,
      exists_eq_left, FileInfo.new]
    rw [or_comm, eq_comm]
  · rw [addToLocalFileMap, if_neg available]
    refine ⟨.inr, ?_⟩
    rintro (rfl | registered)
    · simpa [Registers] using available
    · exact registered

theorem registers_write :
    (node.write (filePath filename) content).Registers other ↔
      node.Registers other := Iff.rfl

theorem registers_cleanLocalFileDir :
    ¬ node.cleanLocalFileDir.Registers filename := by
  rw [registers_iff]
  rintro ⟨_, nothing, _⟩
  cases nothing

theorem stored_cleanLocalFileDir :
    node.cleanLocalFileDir.stored filename = none := by
  refine if_pos ?_
  rw [filePath, String.toList_append, List.isPrefixOf_iff_prefix]
  exact List.prefix_append _ _

/-- Registering a file keeps the names distinct. -/
theorem nodup_addToLocalFileMap
    (distinct : (node.localFiles.map FileInfo.name).Nodup) :
    ((node.addToLocalFileMap shell filename).localFiles.map
      FileInfo.name).Nodup := by
  by_cases available : node.checkFileAvailable filename = true
  · rw [addToLocalFileMap_of_available shell available, List.map_append,
      List.nodup_append]
    refine ⟨distinct, by simp, ?_⟩
    intro name isOld new isNew
    obtain ⟨info, present, rfl⟩ := List.mem_map.mp isOld
    rw [List.map_singleton, List.mem_singleton] at isNew
    subst isNew
    exact checkFileAvailable_eq_true_iff.mp available info present
  · rwa [addToLocalFileMap, if_neg available]

/-- The names of a store are distinct and its files are registered. -/
structure Tidy (node : DFile) : Prop where
  distinct : (node.localFiles.map FileInfo.name).Nodup
  registered : ∀ filename, node.stored filename ≠ none →
    node.Registers filename

namespace Tidy

/-- A file of the store is registered after something has been written. -/
theorem addToLocalFileMap
    (distinct : (node.localFiles.map FileInfo.name).Nodup)
    (registered : ∀ other, node.stored other ≠ none →
      other = filename ∨ node.Registers other) :
    Tidy (node.addToLocalFileMap shell filename) where
  distinct := nodup_addToLocalFileMap distinct
  registered := by
    intro other present
    rw [stored_addToLocalFileMap] at present
    exact registers_addToLocalFileMap.mpr (registered other present)

/-- A store without files is tidy. -/
theorem cleanLocalFileDir (node : DFile) : Tidy node.cleanLocalFileDir where
  distinct := List.nodup_nil
  registered := fun _ present => absurd stored_cleanLocalFileDir present

/-- Copying a file into a tidy store. -/
theorem copyBufferedFile
    (tidy : Tidy node) :
    Tidy (node.copyBufferedFile shell filename content) := by
  refine addToLocalFileMap tidy.distinct fun other present => ?_
  rw [stored_write] at present
  split at present
  · next same => exact .inl same
  · exact .inr (tidy.registered other present)

end Tidy

theorem stored_copyBufferedFile :
    (node.copyBufferedFile shell filename content).stored other =
      if other = filename then some content else node.stored other := by
  rw [copyBufferedFile, stored_addToLocalFileMap, stored_write]

theorem registers_copyBufferedFile :
    (node.copyBufferedFile shell filename content).Registers other ↔
      other = filename ∨ node.Registers other := by
  rw [copyBufferedFile, registers_addToLocalFileMap, registers_write]

theorem stored_appendChunks :
    (node.appendChunks filename content).stored other =
      if other = filename ∧ content ≠ [] then
        some ((node.stored filename).getD [] ++ content)
      else node.stored other := by
  by_cases nothing : content = []
  · simp [appendChunks, nothing]
  · rw [appendChunks, if_neg nothing, stored_write]
    by_cases same : other = filename
    · simp [same, nothing, stored]
    · simp [same]

@[simp] theorem localFiles_appendChunks :
    (node.appendChunks filename content).localFiles = node.localFiles := by
  unfold appendChunks
  split <;> rfl

theorem registers_appendChunks :
    (node.appendChunks filename content).Registers other ↔
      node.Registers other := by
  rw [registers_iff, registers_iff, localFiles_appendChunks]

/-- Deleting a file leaves the other ones. -/
theorem stored_deleteLocalFile
    (tidy : Tidy node) :
    (node.deleteLocalFile filename).stored other =
      if other = filename then none else node.stored other := by
  unfold deleteLocalFile
  split
  · next available =>
      split
      · next same =>
          subst same
          by_contra present
          have registered := tidy.registered other present
          rw [Registers, available] at registered
          nomatch registered
      · rfl
  · by_cases same : other = filename
    · simp [stored, same]
    · simp [stored, same, filePath_inj]

theorem registers_deleteLocalFile
    (distinct : (node.localFiles.map FileInfo.name).Nodup) :
    (node.deleteLocalFile filename).Registers other ↔
      node.Registers other ∧ other ≠ filename := by
  by_cases available : node.checkFileAvailable filename = true
  · rw [deleteLocalFile, if_pos available, iff_self_and]
    rintro registered rfl
    rw [Registers, available] at registered
    nomatch registered
  · have names : (node.localFiles.eraseP fun info =>
        info.name == filename).map FileInfo.name =
          (node.localFiles.map FileInfo.name).erase filename := by
      rw [List.erase_eq_eraseP', List.eraseP_map]
      rfl
    rw [deleteLocalFile, if_neg available, registers_iff, registers_iff,
      ← List.mem_map, ← List.mem_map, names, distinct.mem_erase_iff,
      and_comm]

theorem nodup_deleteLocalFile
    (distinct : (node.localFiles.map FileInfo.name).Nodup) :
    ((node.deleteLocalFile filename).localFiles.map FileInfo.name).Nodup := by
  unfold deleteLocalFile
  split
  · exact distinct
  · exact distinct.sublist (List.eraseP_sublist.map _)

theorem Tidy.deleteLocalFile
    (tidy : Tidy node) : Tidy (node.deleteLocalFile filename) where
  distinct := nodup_deleteLocalFile tidy.distinct
  registered := by
    intro other present
    rw [stored_deleteLocalFile tidy] at present
    split at present
    · exact absurd rfl present
    · next differs =>
        exact (registers_deleteLocalFile tidy.distinct).mpr
          ⟨tidy.registered other present, differs⟩

end DFile

/-! ## Whole fetches -/

section FetchAll

variable {client : FetchClient}

theorem fetchAll_eq
    (keeps : client.filepath = "") :
    client.fetchAll shell node content =
      (node.appendChunks client.filename content).addToLocalFileMap shell
        client.filename := by
  rw [FetchClient.fetchAll, FetchClient.finish, if_pos keeps]

theorem stored_fetchAll
    (keeps : client.filepath = "") :
    (client.fetchAll shell node content).stored other =
      if other = client.filename ∧ content ≠ [] then
        some ((node.stored client.filename).getD [] ++ content)
      else node.stored other := by
  rw [fetchAll_eq keeps, DFile.stored_addToLocalFileMap,
    DFile.stored_appendChunks]

theorem registers_fetchAll
    (keeps : client.filepath = "") :
    (client.fetchAll shell node content).Registers other ↔
      other = client.filename ∨ node.Registers other := by
  rw [fetchAll_eq keeps, DFile.registers_addToLocalFileMap,
    DFile.registers_appendChunks]

/-- A fetched file is stored and registered. -/
theorem DFile.Tidy.fetchAll
    (tidy : DFile.Tidy node) (keeps : client.filepath = "") :
    DFile.Tidy (client.fetchAll shell node content) := by
  rw [fetchAll_eq keeps]
  refine DFile.Tidy.addToLocalFileMap ?_ fun other present => ?_
  · rw [DFile.localFiles_appendChunks]
    exact tidy.distinct
  · rw [DFile.stored_appendChunks] at present
    split at present
    · next isThis => exact .inl isThis.1
    · exact .inr (DFile.registers_appendChunks.mpr
        (tidy.registered other present))

/-- The chunks of a file whose number fits an `int` are the whole file. -/
theorem fetched_clientFor
    {source : DFile} {port : Int}
    (fits : List.chunkCount 256000 content.length < 2 ^ 31) :
    (clientFor shell filename source port content).fetched (some content) =
      content := by
  have total : (clientFor shell filename source port content).totalChunks =
      List.chunkCount 256000 content.length :=
    FetchClient.totalChunks_of_size rfl rfl fits
  have size : ((List.chunkCount 256000 content.length : Int) *
      (256000 : Nat)).toNat =
        List.chunkCount 256000 content.length * 256000 := by
    rw [← Nat.cast_mul, Int.toNat_natCast]
  rw [FetchClient.fetched, total]
  exact (congrArg content.take size).trans
    (List.take_chunkCount (by decide) content)

/-- The client that is started for a request. -/
theorem processSendRequest_eq_some
    {source target : DFile} {port : Int}
    (started : target.processSendRequest
      (source.sendRequest shell filename port) = some client) :
    ¬ target.Registers filename ∧ client.filename = filename ∧
      client.filepath = "" ∧
      ∀ content, source.stored filename = some content →
        client = clientFor shell filename source port content := by
  rw [DFile.processSendRequest, Option.ite_none_right_eq_some,
    Option.some.injEq] at started
  obtain ⟨available, rfl⟩ := started
  refine ⟨?_, rfl, rfl, fun content present => ?_⟩
  · rw [DFile.Registers, Bool.not_eq_false]
    exact available
  · simp [DFile.sendRequest, clientFor, DFile.getSize_of_some present]

/-- The exchanges of a hop bring what the whole fetch brings. -/
theorem fetchAll_of_replicate
    {source target holder : DFile} {port : Int}
    (present : source.disk (DFile.filePath filename) = some content)
    (newcomer : Newcomer filename target)
    (nonempty : content ≠ []) (fits : content.length < 2 ^ 31)
    (arrived : replicate shell filename source target port = some holder) :
    ((clientFor shell filename source port content).fetchAll shell target
      content).stored filename = holder.stored filename := by
  obtain ⟨node, isReplica, _, stored⟩ :=
    @replicate_of_fits shell _ _ _ _ port present newcomer nonempty fits
  rw [arrived, Option.some.injEq] at isReplica
  have missing : target.stored filename = none := newcomer.missing
  rw [stored_fetchAll rfl, if_pos ⟨rfl, nonempty⟩]
  change some ((target.stored filename).getD [] ++ content) = _
  rw [missing, isReplica, DFile.stored_addToLocalFileMap]
  exact stored.symm

/-- A node that has registered a file without having it announces the size
`-1`, and what is sent of the file is one chunk, as in a whole fetch. -/
theorem replicate_of_missing
    {source target : DFile} {port : Int}
    (missing : source.disk (DFile.filePath filename) = none)
    (newcomer : Newcomer filename target) :
    ∃ client holder,
      target.processSendRequest (source.sendRequest shell filename port) =
        some client ∧
      client.fetched (source.stored filename) =
        List.replicate 256000 0xFF ∧
      replicate shell filename source target port = some holder ∧
      (client.fetchAll shell target
        (client.fetched (source.stored filename))).stored filename =
          holder.stored filename := by
  let client : FetchClient :=
    { clientFor shell filename source port [] with filesize := -1 }
  have started : target.processSendRequest
      (source.sendRequest shell filename port) = some client := by
    simp [DFile.processSendRequest, DFile.sendRequest, newcomer.available,
      DFile.getSize, FileHelper.new, FileHelper.getSize, missing, client,
      clientFor]
  have one : client.totalChunks = 1 := rfl
  have chunksize : client.chunksize = (256000 : Nat) := rfl
  have fetched : client.fetched (source.stored filename) =
      List.replicate 256000 0xFF := by
    rw [DFile.stored, missing, FetchClient.fetched, one, chunksize,
      Int.one_mul, Int.toNat_natCast]
  obtain ⟨final, replies, loop, received⟩ :=
    @fetchLoop_of_missing client source target _ one chunksize (by decide)
      missing newcomer.missing
  have arrived : replicate shell filename source target port =
      some (client.finish shell final.target).1 := by
    rw [replicate, started, Option.bind_some, one]
    exact congrArg (Option.map _) loop
  refine ⟨client, _, started, fetched, arrived, ?_⟩
  have nothing : target.stored filename = none := newcomer.missing
  have some : List.replicate 256000 (0xFF : UInt8) ≠ [] := by
    rw [ne_eq, List.replicate_eq_nil_iff]
    decide
  have keeps : client.filepath = "" := rfl
  rw [fetched, stored_fetchAll keeps, if_pos ⟨rfl, some⟩, FetchClient.finish,
    if_pos keeps, DFile.stored_addToLocalFileMap]
  change Option.some ((target.stored filename).getD [] ++ _) =
    final.target.disk (DFile.filePath client.filename)
  rw [nothing, received, Option.getD_none, List.nil_append]

end FetchAll

end FileTransfer
end CraneSps
