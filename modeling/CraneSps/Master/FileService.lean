import CraneSps.FileTransfer.ServiceSocket
import CraneSps.Foundation.WriteOnce
import CraneSps.Master.Replication

/-!
# The file service as a store

A `PUT` with its replication and a `GET` with its fetch, each as a whole.  Who
has registered a file does not depend on what is sent of it.  As long as all
holders of a file store one content, the replicated store is a map from names
to contents.  It keeps the first content of a name, and a `GET` keeps whatever
is at the local path.
-/

namespace CraneSps
namespace Master

open FileTransfer

variable {Id : Type} [DecidableEq Id]

/-- The nodes of a group and the map of its master. -/
structure FileService (Id : Type) [DecidableEq Id] where
  members : List Id
  node : Id → DFile
  fileMap : FileMap Id

namespace FileService

variable (shell : Shell) (service : FileService Id)

/-- Replace a node. -/
def setNode (id : Id) (node : DFile) : FileService Id :=
  { service with node := Function.update service.node id node }

theorem node_setNode {id other : Id} {node : DFile} :
    (service.setNode id node).node other =
      if other = id then node else service.node other :=
  Function.update_apply _ _ _ _

theorem setNode_setNode {id : Id} {node after : DFile} :
    (service.setNode id node).setNode id after = service.setNode id after := by
  rw [setNode, setNode, setNode, Function.update_idem]

/-- What a node has of a file. -/
def stored (id : Id) (filename : String) : Option Bytes :=
  (service.node id).stored filename

/-- `sendFileRequest` with the fetch and the `UPDATE` that follow an
approval. -/
def sendFileRequest
    (source target : Id) (filename : String) (filepath : Option String) :
    FileService Id :=
  match (service.node target).processSendRequest
      ((service.node source).sendFileRequest shell filename filepath
        9601) with
  | none => service
  | some client =>
      let fetched := client.finish shell
        ((service.node target).appendChunks filename
          (client.fetched (service.stored source filename)))
      { service.setNode target fetched.1 with
        fileMap := fetched.2.elim service.fileMap
          (service.fileMap.addToFileMap target) }

/-- The beginning of an approved `PUT`: the master registers the node, which
copies the file. -/
def approve (putter : Id) (filename : String) (content : Bytes) :
    FileService Id :=
  { service.setNode putter
      ((service.node putter).copyBufferedFile shell filename content) with
    fileMap := service.fileMap.addToFileMap putter
      (FileInfo.new filename (shell.md5 content) content.length) }

/-- A `REPLICATE` command is followed. -/
def replicate (filename : String) (command : Replication Id) :
    FileService Id :=
  (service.members.filter fun id => id ∈ command.targets).foldl
    (fun current target =>
      current.sendFileRequest shell command.source target filename none)
    service

/-- `sendPutRequest` up to the end of the replication; `none` when the draws of
`replicateFile` run out. -/
def put
    (putter : Id) (filename : String) (content : Bytes) (draws : List Nat) :
    Option (FileService Id) :=
  if service.fileMap.countReplicates filename = 0 then
    let approved := service.approve shell putter filename content
    (replicateFile approved.fileMap approved.members filename draws).map
      fun outcome => outcome.elim approved (approved.replicate shell filename)
  else some service

/-- `sendGetRequest` up to the end of the fetch. -/
def get (id : Id) (filename filepath : String) : FileService Id :=
  if (service.node id).disk filepath ≠ none then service
  else
    let touched := (service.node id).write filepath []
    if touched.Registers filename then
      service.setNode id
        (touched.write filepath ((touched.stored filename).getD []))
    else
      match service.members.find? fun member =>
          service.fileMap.hasFile member filename with
      | some source =>
          (service.setNode id touched).sendFileRequest shell source id
            filename (some filepath)
      | none => service.setNode id touched

/-- Nodes get files one after the other, each to a path of its name. -/
def getAll (requests : List (Id × String)) : FileService Id :=
  requests.foldl
    (fun current (id, filename) => current.get shell id filename filename)
    service

/-- What the first holder has of a file, which the master lets it send. -/
def held (filename : String) : Option Bytes :=
  (service.members.find? fun member =>
    service.fileMap.hasFile member filename).bind fun member =>
      service.stored member filename

/-- A node has registered the file. -/
def HasHolder (filename : String) : Prop :=
  ∃ id, (service.node id).Registers filename

/-- The holders of a file are members, and the master knows exactly them. -/
structure Known (service : FileService Id) : Prop where
  distinct : ∀ id, ((service.node id).localFiles.map FileInfo.name).Nodup
  known : ∀ id filename, service.fileMap.hasFile id filename = true ↔
    (service.node id).Registers filename
  members : ∀ id filename, (service.node id).Registers filename →
    id ∈ service.members

/-- A content that is sent as it is: nothing is sent of an empty file, and the
number of the chunks is an `int`. -/
def Fetchable (content : Bytes) : Prop :=
  content ≠ [] ∧ List.chunkCount 256000 content.length < 2 ^ 31

/-- Besides, exactly the holders store the file, all of them with one content,
and it can be fetched. -/
structure Consistent (service : FileService Id) : Prop
    extends Known service where
  complete : ∀ id filename, service.stored id filename ≠ none ↔
    (service.node id).Registers filename
  same : ∀ id other filename, (service.node id).Registers filename →
    (service.node other).Registers filename →
    service.stored id filename = service.stored other filename
  fetchable : ∀ id filename content,
    service.stored id filename = some content → Fetchable content

variable {shell} {service} {next : FileService Id} {id other : Id}
variable {filename name path : String} {content : Bytes}

/-- The path is not in the directory of the file service. -/
def Local (path : String) : Prop :=
  ∀ filename, path ≠ DFile.filePath filename

/-- A `PUT` is approved exactly if the file has no holder. -/
theorem Known.countReplicates_eq_zero_iff (known : Known service) :
    service.fileMap.countReplicates filename = 0 ↔
      ¬ service.HasHolder filename := by
  rw [FileMap.countReplicates, Finset.card_eq_zero,
    Finset.eq_empty_iff_forall_notMem, HasHolder, not_exists]
  simp only [FileMap.mem_holders_iff, known.known]

/-- A node that stores the file is a holder. -/
theorem Consistent.registers_of_stored
    (consistent : Consistent service)
    (present : service.stored id filename = some content) :
    (service.node id).Registers filename :=
  (consistent.complete id filename).mp
    (present ▸ Option.some_ne_none content)

/-- The store has a content exactly if a node has it. -/
theorem Consistent.held_eq_some_iff (consistent : Consistent service) :
    service.held filename = some content ↔
      ∃ id, service.stored id filename = some content := by
  rw [held, Option.bind_eq_some_iff]
  constructor
  · rintro ⟨id, _, present⟩
    exact ⟨id, present⟩
  · rintro ⟨id, present⟩
    have isHolder := consistent.registers_of_stored present
    have known := (consistent.known id filename).mpr isHolder
    have isMember := consistent.members id filename isHolder
    cases found : service.members.find? fun member =>
        service.fileMap.hasFile member filename with
    | none => exact absurd known (List.find?_eq_none.mp found id isMember)
    | some first =>
        have firstKnown := List.find?_some found
        have sameContent := consistent.same first id filename
          ((consistent.known first filename).mp firstKnown) isHolder
        exact ⟨first, rfl, sameContent.trans present⟩

/-- A file without a content has no holder. -/
theorem Consistent.held_ne_none_iff (consistent : Consistent service) :
    service.held filename ≠ none ↔ service.HasHolder filename := by
  rw [Option.ne_none_iff_exists', HasHolder]
  simp only [consistent.held_eq_some_iff, ← consistent.complete,
    Option.ne_none_iff_exists']
  exact exists_comm

/-- Every holder has the content of the store. -/
theorem Consistent.stored_eq
    (consistent : Consistent service)
    (isHeld : service.held filename = some content)
    (isHolder : (service.node id).Registers filename) :
    service.stored id filename = some content := by
  obtain ⟨other, present⟩ := consistent.held_eq_some_iff.mp isHeld
  rw [← present]
  exact consistent.same id other filename isHolder
    (consistent.registers_of_stored present)

/-- What is not registered is not stored. -/
theorem Consistent.stored_eq_none
    (consistent : Consistent service)
    (isNew : ¬ (service.node id).Registers filename) :
    service.stored id filename = none := by
  by_contra present
  exact isNew ((consistent.complete id filename).mp present)

/-- One node becomes a holder of the file. -/
structure Gains
    (service next : FileService Id) (id : Id) (filename : String) :
    Prop where
  members : next.members = service.members
  distinct : ∀ other, ((next.node other).localFiles.map FileInfo.name).Nodup
  registers : ∀ other name, (next.node other).Registers name ↔
    (other = id ∧ filename = name) ∨ (service.node other).Registers name
  known : ∀ other name, next.fileMap.hasFile other name = true ↔
    (other = id ∧ filename = name) ∨
      service.fileMap.hasFile other name = true

/-- It stores the content. -/
structure Stores
    (service next : FileService Id) (id : Id) (filename : String)
    (content : Bytes) : Prop where
  stored : ∀ other name, next.stored other name =
    if other = id ∧ filename = name then some content
    else service.stored other name
  outside : ∀ other path, Local path →
    (next.node other).disk path = (service.node other).disk path

theorem Known.gains
    (known : Known service) (gains : Gains service next id filename)
    (isMember : id ∈ service.members) : Known next where
  distinct := gains.distinct
  known := fun other name => by
    rw [gains.known, gains.registers, known.known]
  members := by
    intro other name holds
    rw [gains.members]
    rcases (gains.registers other name).mp holds with ⟨rfl, _⟩ | isOld
    · exact isMember
    · exact known.members other name isOld

/-- If all holders have the content, they still are consistent. -/
theorem Consistent.gains
    (consistent : Consistent service)
    (gains : Gains service next id filename)
    (stores : Stores service next id filename content)
    (isMember : id ∈ service.members)
    (one : ∀ other, (service.node other).Registers filename →
      service.stored other filename = some content)
    (fetchable : Fetchable content) : Consistent next := by
  have ofFile (other : Id) (holds : (next.node other).Registers filename) :
      next.stored other filename = some content := by
    rw [stores.stored]
    split
    · rfl
    · next differs =>
        rcases (gains.registers other filename).mp holds with isNew | isOld
        · exact absurd isNew differs
        · exact one other isOld
  have ofOther (other : Id) (name : String) (differs : filename ≠ name) :
      ((next.node other).Registers name ↔
          (service.node other).Registers name) ∧
        next.stored other name = service.stored other name := by
    rw [stores.stored, if_neg fun isNew => differs isNew.2, gains.registers]
    exact ⟨or_iff_right fun isNew => differs isNew.2, rfl⟩
  refine
    { consistent.toKnown.gains gains isMember with
      complete := fun other name => ?_
      same := fun first second name firstHolds secondHolds => ?_
      fetchable := fun other name whole present => ?_ }
  · rw [stores.stored, gains.registers, ← consistent.complete]
    by_cases isNew : other = id ∧ filename = name
    · simp [isNew]
    · simp [isNew]
  · by_cases isFile : filename = name
    · subst isFile
      rw [ofFile first firstHolds, ofFile second secondHolds]
    · obtain ⟨firstOld, firstSame⟩ := ofOther first name isFile
      obtain ⟨secondOld, secondSame⟩ := ofOther second name isFile
      rw [firstSame, secondSame]
      exact consistent.same first second name (firstOld.mp firstHolds)
        (secondOld.mp secondHolds)
  · rw [stores.stored] at present
    split at present
    · exact Option.some.inj present ▸ fetchable
    · exact consistent.fetchable other name whole present

/-- The store has the content, and every other file as before. -/
structure Keeps
    (service next : FileService Id) (filename : String) (content : Bytes) :
    Prop where
  consistent : Consistent next
  members : next.members = service.members
  held : ∀ name, next.held name =
    if filename = name then some content else service.held name
  outside : ∀ other path, Local path →
    (next.node other).disk path = (service.node other).disk path

/-- A node that becomes a holder gives the store the content. -/
theorem Consistent.keeps
    (consistent : Consistent service)
    (gains : Gains service next id filename)
    (stores : Stores service next id filename content)
    (isMember : id ∈ service.members)
    (one : ∀ other, (service.node other).Registers filename →
      service.stored other filename = some content)
    (fetchable : Fetchable content) :
    Keeps service next filename content where
  consistent := consistent.gains gains stores isMember one fetchable
  members := gains.members
  held := by
    have still := consistent.gains gains stores isMember one fetchable
    intro name
    split
    · next isFile =>
        subst isFile
        refine still.held_eq_some_iff.mpr ⟨id, ?_⟩
        rw [stores.stored, if_pos ⟨rfl, rfl⟩]
    · next differs =>
        apply Option.ext
        intro other
        rw [still.held_eq_some_iff, consistent.held_eq_some_iff]
        simp only [stores.stored, differs, and_false, if_false]
  outside := stores.outside

/-! ## Putting a file -/

/-- Nothing outside changes when the directory of the file service does. -/
theorem disk_write_of_local
    {node : DFile} (isLocal : Local path) :
    (node.write (DFile.filePath filename) content).disk path =
      node.disk path :=
  Function.update_of_ne (isLocal filename) _ _

theorem disk_appendChunks_of_local
    {node : DFile} (isLocal : Local path) :
    (node.appendChunks filename content).disk path = node.disk path := by
  rw [DFile.appendChunks]
  split
  · rfl
  · exact disk_write_of_local isLocal

section Register

variable {node : DFile} {fileMap : FileMap Id}

/-- A node that has got the file is registered by the master. -/
theorem Known.register
    (known : Known service) {info : FileInfo}
    (distinct : (node.localFiles.map FileInfo.name).Nodup)
    (named : info.name = filename)
    (registers : ∀ name, node.Registers name ↔
      filename = name ∨ (service.node id).Registers name) :
    Gains service
      { service.setNode id node with
        fileMap := service.fileMap.addToFileMap id info } id filename where
  members := rfl
  distinct := by
    intro other
    change ((Function.update service.node id node other).localFiles.map
      FileInfo.name).Nodup
    rw [Function.update_apply]
    split
    · exact distinct
    · exact known.distinct other
  registers := by
    intro other name
    change (Function.update service.node id node other).Registers name ↔ _
    rw [Function.update_apply]
    by_cases same : other = id
    · simp [same, registers]
    · simp [same]
  known := by
    intro other name
    subst named
    exact FileMap.hasFile_addToFileMap

/-- A node that stores one more file. -/
theorem stores_setNode
    (stored : ∀ name, node.stored name =
      if filename = name then some content else service.stored id name)
    (outside : ∀ path, Local path →
      node.disk path = (service.node id).disk path) :
    Stores service { service.setNode id node with fileMap := fileMap } id
      filename content where
  stored := by
    intro other name
    change (Function.update service.node id node other).stored name = _
    rw [Function.update_apply]
    by_cases same : other = id
    · simp [same, stored]
    · simp [same, FileService.stored]
  outside := by
    intro other path isLocal
    change (Function.update service.node id node other).disk path = _
    rw [Function.update_apply]
    split
    · next same => rw [outside path isLocal, same]
    · rfl

end Register

/-- A node puts a file. -/
theorem Known.approve (known : Known service) :
    Gains service (service.approve shell id filename content) id filename := by
  refine known.register
    (DFile.nodup_addToLocalFileMap (known.distinct id)) rfl fun name => ?_
  rw [DFile.registers_copyBufferedFile, eq_comm]

theorem stores_approve :
    Stores service (service.approve shell id filename content) id filename
      content := by
  refine stores_setNode (fun name => ?_) fun path isLocal => ?_
  · rw [DFile.stored_copyBufferedFile]
    simp only [eq_comm, FileService.stored]
  · rw [DFile.copyBufferedFile, DFile.addToLocalFileMap_disk,
      disk_write_of_local isLocal]

/-- The client that is started for a file. -/
theorem client_of_started
    {source target : DFile} {client : FetchClient} {filepath : Option String}
    (started : target.processSendRequest
      (source.sendFileRequest shell filename filepath 9601) = some client) :
    ¬ target.Registers filename ∧ client.filename = filename ∧
      client.filepath =
        (filepath.filter fun filepath => filepath ≠ "").getD "" := by
  rw [DFile.processSendRequest, Option.ite_none_right_eq_some,
    Option.some.injEq] at started
  obtain ⟨available, rfl⟩ := started
  refine ⟨?_, rfl, rfl⟩
  rw [DFile.Registers, Bool.not_eq_false]
  exact available

/-- What it fetches is what the source has. -/
theorem fetched_eq
    {source target : DFile} {client : FetchClient} {filepath : Option String}
    (present : source.stored filename = some content)
    (fits : List.chunkCount 256000 content.length < 2 ^ 31)
    (started : target.processSendRequest
      (source.sendFileRequest shell filename filepath 9601) = some client) :
    client.fetched (some content) = content := by
  rw [DFile.processSendRequest, Option.ite_none_right_eq_some,
    Option.some.injEq] at started
  obtain ⟨_, rfl⟩ := started
  have whole := @fetched_clientFor shell filename content source 9601 fits
  simpa [DFile.sendFileRequest, DFile.sendRequest, clientFor,
    DFile.getSize_of_some present, FetchClient.fetched,
    FetchClient.totalChunks] using whole

/-- Only a target that has the file rejects it. -/
theorem registers_of_rejected
    {source target : DFile} {filepath : Option String} {port : Nat}
    (rejected : target.processSendRequest
      (source.sendFileRequest shell filename filepath port) = none) :
    target.Registers filename := by
  simpa [DFile.Registers, DFile.processSendRequest, DFile.sendFileRequest,
    DFile.sendRequest] using rejected

/-- The node and the `UPDATE` that a fetch without a path leaves. -/
theorem finish_appendChunks
    {client : FetchClient} {node : DFile} (keeps : client.filepath = "") :
    client.finish shell (node.appendChunks client.filename content) =
      (client.fetchAll shell node content,
        some (FileInfo.new client.filename client.filemd5
          client.filesize)) := by
  rw [fetchAll_eq keeps, FetchClient.finish, if_pos keeps]

section Targets

variable {source target : Id}

/-- A target that is sent the file becomes a holder, if it is not, whatever it
receives. -/
theorem Known.sendFileRequest (known : Known service) :
    Gains service
      (service.sendFileRequest shell source target filename none) target
      filename := by
  rw [FileService.sendFileRequest]
  split
  · next rejected =>
      have already := registers_of_rejected rejected
      refine ⟨rfl, known.distinct, fun other name => ?_, fun other name => ?_⟩
      · rw [or_iff_right_of_imp]
        rintro ⟨rfl, rfl⟩
        exact already
      · rw [or_iff_right_of_imp]
        rintro ⟨rfl, rfl⟩
        exact (known.known _ _).mpr already
  · next client started =>
      obtain ⟨_, isFile, isPath⟩ := client_of_started started
      have keeps : client.filepath = "" := isPath
      subst isFile
      simp only [finish_appendChunks keeps]
      refine known.register ?_ rfl fun name => ?_
      · rw [fetchAll_eq keeps]
        refine DFile.nodup_addToLocalFileMap ?_
        rw [DFile.localFiles_appendChunks]
        exact known.distinct target
      · rw [registers_fetchAll keeps, eq_comm]

/-- From a source that has the file, the target gets the content. -/
theorem Consistent.sendFileRequest
    (consistent : Consistent service)
    (present : service.stored source filename = some content) :
    Stores service
      (service.sendFileRequest shell source target filename none) target
      filename content := by
  obtain ⟨nonempty, fits⟩ := consistent.fetchable source filename content
    present
  rw [FileService.sendFileRequest]
  split
  · next rejected =>
      have already := registers_of_rejected rejected
      refine ⟨fun other name => ?_, fun _ _ _ => rfl⟩
      split
      · next isThis =>
          obtain ⟨rfl, rfl⟩ := isThis
          rw [← present]
          exact consistent.same _ _ _ already
            (consistent.registers_of_stored present)
      · rfl
  · next client started =>
      obtain ⟨isNew, isFile, isPath⟩ := client_of_started started
      have keeps : client.filepath = "" := isPath
      have whole := fetched_eq present fits started
      have notStored : (service.node target).stored filename = none :=
        consistent.stored_eq_none isNew
      subst isFile
      simp only [present, whole, finish_appendChunks keeps]
      refine stores_setNode (fun name => ?_) fun path isLocal => ?_
      · rw [stored_fetchAll keeps, notStored, Option.getD_none,
          List.nil_append]
        simp only [nonempty, eq_comm, FileService.stored, ne_eq,
          not_false_eq_true, and_true]
      · rw [fetchAll_eq keeps, DFile.addToLocalFileMap_disk,
          disk_appendChunks_of_local isLocal]

end Targets

theorem Keeps.trans
    {middle : FileService Id}
    (before : Keeps service middle filename content)
    (after : Keeps middle next filename content) :
    Keeps service next filename content where
  consistent := after.consistent
  members := after.members.trans before.members
  held := by
    intro name
    rw [after.held, before.held]
    split <;> rfl
  outside := fun other path isLocal =>
    (after.outside other path isLocal).trans
      (before.outside other path isLocal)

/-- Targets that are sent the file leave the store as it is. -/
theorem Keeps.sendFileRequests
    {source : Id} {targets : List Id} {current : FileService Id}
    (keeps : Keeps service current filename content)
    (present : current.stored source filename = some content)
    (isMember : ∀ target ∈ targets, target ∈ service.members) :
    Keeps service
      (targets.foldl (fun current target =>
        current.sendFileRequest shell source target filename none) current)
      filename content := by
  induction targets generalizing current with
  | nil => exact keeps
  | cons target targets inductionHypothesis =>
      obtain ⟨firstMember, restMembers⟩ := List.forall_mem_cons.mp isMember
      have isHeld : current.held filename = some content := by
        rw [keeps.held, if_pos rfl]
      have gains : Gains current
          (current.sendFileRequest shell source target filename none) target
          filename := keeps.consistent.toKnown.sendFileRequest
      have stores : Stores current
          (current.sendFileRequest shell source target filename none) target
          filename content := keeps.consistent.sendFileRequest present
      have next := keeps.consistent.keeps gains stores
        (keeps.members.symm ▸ firstMember)
        (fun _ => keeps.consistent.stored_eq isHeld)
        (keeps.consistent.fetchable source filename content present)
      refine inductionHypothesis (keeps.trans next) ?_ restMembers
      rw [stores.stored, present, ite_self]

/-- A `PUT` writes to the store once. -/
theorem Consistent.put
    (consistent : Consistent service) {draws : List Nat}
    (isMember : id ∈ service.members) (fetchable : Fetchable content)
    (done : service.put shell id filename content draws = some next) :
    Consistent next ∧ next.members = service.members ∧
      next.held = WriteOnce.put service.held (filename, content) ∧
      ∀ other path, Local path →
        (next.node other).disk path = (service.node other).disk path := by
  have unheld : service.fileMap.countReplicates filename = 0 ↔
      service.held filename = none := by
    rw [consistent.countReplicates_eq_zero_iff, ← consistent.held_ne_none_iff,
      not_not]
  rw [FileService.put] at done
  split at done
  · next unknown =>
      have nobody := consistent.countReplicates_eq_zero_iff.mp unknown
      have gains : Gains service
          (service.approve shell id filename content) id filename :=
        consistent.toKnown.approve
      have keeps : Keeps service (service.approve shell id filename content)
          filename content :=
        consistent.keeps gains stores_approve isMember
          (fun other holds => absurd ⟨other, holds⟩ nobody) fetchable
      obtain ⟨outcome, called, rfl⟩ := Option.map_eq_some_iff.mp done
      have final : Keeps service
          (outcome.elim (service.approve shell id filename content)
            ((service.approve shell id filename content).replicate shell
              filename)) filename content := by
        cases outcome with
        | none => exact keeps
        | some command =>
            obtain ⟨_, _, _, known⟩ := replicateFile_spec called
            refine keeps.sendFileRequests
              (keeps.consistent.stored_eq ?_
                ((keeps.consistent.known _ _).mp known))
              fun target isTarget => List.mem_of_mem_filter isTarget
            rw [keeps.held, if_pos rfl]
      refine ⟨final.consistent, final.members, ?_, final.outside⟩
      funext name
      rw [final.held, WriteOnce.put, Function.update_apply,
        unheld.mp unknown]
      simp only [eq_comm, Option.none_or]
  · next known =>
      obtain rfl := Option.some.inj done
      refine ⟨consistent, rfl, ?_, fun _ _ _ => rfl⟩
      obtain ⟨old, isOld⟩ :=
        Option.ne_none_iff_exists'.mp (unheld.not.mp known)
      rw [WriteOnce.put, isOld, Option.some_or, ← isOld,
        Function.update_eq_self]

/-! ## Getting a file -/

/-- Two states of a node with the same files in the directory of the file
service. -/
structure SameFiles (node after : DFile) : Prop where
  localFiles : after.localFiles = node.localFiles
  stored : ∀ filename, after.stored filename = node.stored filename

theorem SameFiles.registers_iff
    {node after : DFile} (same : SameFiles node after) :
    after.Registers filename ↔ node.Registers filename := by
  rw [DFile.registers_iff, DFile.registers_iff, same.localFiles]

theorem SameFiles.trans
    {node middle after : DFile} (before : SameFiles node middle)
    (later : SameFiles middle after) : SameFiles node after where
  localFiles := later.localFiles.trans before.localFiles
  stored := fun filename =>
    (later.stored filename).trans (before.stored filename)

/-- Writing outside leaves the files. -/
theorem sameFiles_write
    {node : DFile} (isLocal : Local path) :
    SameFiles node (node.write path content) where
  localFiles := rfl
  stored := fun filename => Function.update_of_ne (isLocal filename).symm _ _

/-- A change outside of the files leaves the store. -/
theorem Consistent.setNode
    (consistent : Consistent service) {node : DFile}
    (same : SameFiles (service.node id) node) :
    Consistent (service.setNode id node) ∧
      (service.setNode id node).held = service.held := by
  have sameFiles (other : Id) :
      SameFiles (service.node other) ((service.setNode id node).node other) := by
    rw [node_setNode]
    split
    · next isId => exact isId ▸ same
    · exact ⟨rfl, fun _ => rfl⟩
  have registers (other : Id) (name : String) :
      ((service.setNode id node).node other).Registers name ↔
        (service.node other).Registers name := (sameFiles other).registers_iff
  have stored (other : Id) (name : String) :
      (service.setNode id node).stored other name =
        service.stored other name := (sameFiles other).stored name
  constructor
  · refine
      { distinct := fun other => ?_
        known := fun other name => ?_
        members := fun other name holds => ?_
        complete := fun other name => ?_
        same := fun first second name firstHolds secondHolds => ?_
        fetchable := fun other name content present => ?_ }
    · rw [(sameFiles other).localFiles]
      exact consistent.distinct other
    · rw [registers]
      exact consistent.known other name
    · exact consistent.members other name ((registers other name).mp holds)
    · rw [stored, registers]
      exact consistent.complete other name
    · rw [stored, stored]
      exact consistent.same first second name
        ((registers first name).mp firstHolds)
        ((registers second name).mp secondHolds)
    · exact consistent.fetchable other name content
        ((stored other name).symm.trans present)
  · funext name
    simp only [held, stored]
    rfl

/-- A fetch to a path registers nothing, and is not reported. -/
theorem finish_of_moves
    {client : FetchClient} {node : DFile} (moves : client.filepath ≠ "") :
    (client.finish shell node).2 = none ∧
      (client.finish shell node).1.localFiles = node.localFiles := by
  rw [FetchClient.finish, if_neg moves]
  exact ⟨rfl, rfl⟩

/-- If the paths are usable, the file is moved to the path. -/
theorem finish_of_filepath
    {client : FetchClient} {node : DFile}
    (moves : client.filepath ≠ "") (isLocal : Local client.filepath)
    (fromUsable : shell.usable (DFile.filePath client.filename) = true)
    (toUsable : shell.usable client.filepath = true)
    (nonempty : content ≠ [])
    (notStored : node.stored client.filename = none) :
    SameFiles node
        (client.finish shell
          (node.appendChunks client.filename content)).1 ∧
      ∀ path, Local path →
        (client.finish shell
            (node.appendChunks client.filename content)).1.disk path =
          if path = client.filepath then some content
          else node.disk path := by
  let appended := node.write (DFile.filePath client.filename) content
  have isAppended : node.appendChunks client.filename content = appended := by
    change node.disk (DFile.filePath client.filename) = none at notStored
    rw [DFile.appendChunks, if_neg nonempty, notStored]
    rfl
  have atFile : appended.disk (DFile.filePath client.filename) =
      some content := Function.update_self _ _ _
  have elsewhere (path : String)
      (differs : path ≠ DFile.filePath client.filename) :
      appended.disk path = node.disk path := Function.update_of_ne differs _ _
  rw [isAppended, FetchClient.finish, if_neg moves,
    shell.mv_of_usable _ _ _ fromUsable toUsable]
  refine ⟨⟨rfl, fun name => ?_⟩, fun path isOutside => ?_⟩
  · change appended.disk.move _ _ (DFile.filePath name) =
      node.disk (DFile.filePath name)
    by_cases same : name = client.filename
    · rw [same]
      refine Eq.trans ?_ notStored.symm
      rw [Disk.move, atFile]
      refine (Function.update_of_ne (isLocal client.filename).symm _ _).trans ?_
      exact Function.update_self _ _ _
    · have differs : DFile.filePath name ≠ DFile.filePath client.filename :=
        DFile.filePath_inj.not.mpr same
      rw [Disk.move_of_ne differs (isLocal name).symm]
      exact elsewhere _ differs
  · change appended.disk.move _ _ path = _
    split
    · next same => rw [same, Disk.move_destination atFile]
    · next differs =>
        rw [Disk.move_of_ne (isOutside client.filename) differs]
        exact elsewhere path (isOutside client.filename)

section Filepath

variable {source target : Id} {filepath : String}

/-- The client of a fetch to a path moves the file. -/
theorem filepath_of_started
    {first second : DFile} {client : FetchClient} (named : filepath ≠ "")
    (started : first.processSendRequest
      (second.sendFileRequest shell filename (some filepath) 9601) =
        some client) : client.filepath = filepath := by
  rw [(client_of_started started).2.2, Option.filter_some,
    if_pos (decide_eq_true named)]
  rfl

/-- A target without the file fetches it to a path. -/
theorem Consistent.sendFileRequest_filepath
    (consistent : Consistent service)
    (present : service.stored source filename = some content)
    (isNew : ¬ (service.node target).Registers filename)
    (isLocal : Local filepath) (named : filepath ≠ "")
    (fromUsable : shell.usable (DFile.filePath filename) = true)
    (toUsable : shell.usable filepath = true) :
    ∃ node, service.sendFileRequest shell source target filename
        (some filepath) = service.setNode target node ∧
      SameFiles (service.node target) node ∧
      ∀ path, Local path → node.disk path =
        if path = filepath then some content
        else (service.node target).disk path := by
  obtain ⟨nonempty, fits⟩ := consistent.fetchable source filename content
    present
  have notStored : (service.node target).stored filename = none :=
    consistent.stored_eq_none isNew
  rw [FileService.sendFileRequest]
  split
  · next rejected => exact absurd (registers_of_rejected rejected) isNew
  · next client started =>
      have whole := fetched_eq present fits started
      obtain rfl := filepath_of_started named started
      obtain ⟨_, rfl, _⟩ := client_of_started started
      obtain ⟨unreported, _⟩ := @finish_of_moves shell client
        ((service.node target).appendChunks client.filename content) named
      obtain ⟨same, atPath⟩ := finish_of_filepath named isLocal fromUsable
        toUsable nonempty notStored
      simp only [present, whole, unreported]
      exact ⟨_, rfl, same, atPath⟩

end Filepath

/-- A node has got a content at a path outside of its files. -/
structure Places
    (service next : FileService Id) (id : Id) (filepath : String)
    (content : Bytes) : Prop where
  consistent : Consistent next
  members : next.members = service.members
  held : next.held = service.held
  atPath : ∀ other path, Local path →
    (next.node other).disk path =
      if other = id ∧ path = filepath then some content
      else (service.node other).disk path

theorem Consistent.places
    (consistent : Consistent service) {node : DFile} {filepath : String}
    (same : SameFiles (service.node id) node)
    (atPath : ∀ path, Local path → node.disk path =
      if path = filepath then some content
      else (service.node id).disk path) :
    Places service (service.setNode id node) id filepath content := by
  obtain ⟨still, held⟩ := consistent.setNode same
  refine ⟨still, rfl, held, fun other path isLocal => ?_⟩
  rw [node_setNode]
  by_cases isId : other = id
  · simp [isId, atPath path isLocal]
  · simp [isId]

section Get

variable {filepath : String}

/-- A path that exists is kept. -/
theorem Consistent.get_of_exists
    (consistent : Consistent service)
    (isOld : (service.node id).disk filepath = some content) :
    Places service (service.get shell id filename filepath) id filepath
      content := by
  have exist : (service.node id).disk filepath ≠ none := by simp [isOld]
  rw [FileService.get, if_pos exist]
  refine ⟨consistent, rfl, rfl, fun other path _ => ?_⟩
  split
  · next isPath => rw [isPath.1, isPath.2, isOld]
  · rfl

/-- A holder copies its replica. -/
theorem Consistent.get_of_registers
    (consistent : Consistent service) (isLocal : Local filepath)
    (missing : (service.node id).disk filepath = none)
    (registered : (service.node id).Registers filename) :
    Places service (service.get shell id filename filepath) id filepath
      ((service.stored id filename).getD []) := by
  have touches : SameFiles (service.node id)
      ((service.node id).write filepath []) := sameFiles_write isLocal
  rw [FileService.get, if_neg (not_not_intro missing),
    if_pos (touches.registers_iff.mpr registered), touches.stored]
  refine consistent.places (touches.trans (sameFiles_write isLocal))
    fun path _ => ?_
  refine (Function.update_apply _ _ _ _).trans ?_
  split
  · rfl
  · next differs => exact Function.update_of_ne differs _ _

/-- Any other node fetches the file, if there is a holder. -/
theorem Consistent.get_of_not_registers
    (consistent : Consistent service) (isLocal : Local filepath)
    (named : filepath ≠ "")
    (fromUsable : shell.usable (DFile.filePath filename) = true)
    (toUsable : shell.usable filepath = true)
    (missing : (service.node id).disk filepath = none)
    (newcomer : ¬ (service.node id).Registers filename) :
    Places service (service.get shell id filename filepath) id filepath
      ((service.held filename).getD []) := by
  have touches : SameFiles (service.node id)
      ((service.node id).write filepath []) := sameFiles_write isLocal
  have atTouched (path : String) :
      ((service.node id).write filepath []).disk path =
        if path = filepath then some [] else (service.node id).disk path :=
    Function.update_apply _ _ _ _
  rw [FileService.get, if_neg (not_not_intro missing),
    if_neg fun holds => newcomer (touches.registers_iff.mp holds)]
  cases found : service.members.find? fun member =>
      service.fileMap.hasFile member filename with
  | none =>
      rw [FileService.held, found]
      exact consistent.places touches fun path _ => atTouched path
  | some source =>
      have known := List.find?_some found
      have isHolder := (consistent.known source filename).mp known
      have differs : source ≠ id := by
        rintro rfl
        exact newcomer isHolder
      obtain ⟨content, present⟩ := Option.ne_none_iff_exists'.mp
        ((consistent.complete source filename).mpr isHolder)
      have isHeld : service.held filename = some content :=
        consistent.held_eq_some_iff.mpr ⟨source, present⟩
      have atSource : (service.setNode id
          ((service.node id).write filepath [])).stored source filename =
            some content := by
        rw [FileService.stored, node_setNode, if_neg differs]
        exact present
      have atTarget : (service.setNode id
          ((service.node id).write filepath [])).node id =
            (service.node id).write filepath [] := by
        rw [node_setNode, if_pos rfl]
      obtain ⟨node, isNode, fetches, atPath⟩ :=
        (consistent.setNode touches).1.sendFileRequest_filepath atSource
          (by rwa [atTarget, touches.registers_iff]) isLocal named fromUsable
          toUsable
      rw [atTarget] at fetches atPath
      simp only [isNode, setNode_setNode, isHeld, Option.getD_some]
      refine consistent.places (touches.trans fetches)
        fun path isOutside => ?_
      rw [atPath path isOutside]
      split
      · rfl
      · next other => rw [atTouched, if_neg other]

/-- A `GET` keeps what is at the path, or else brings what the store has. -/
theorem Consistent.get
    (consistent : Consistent service) (isLocal : Local filepath)
    (named : filepath ≠ "")
    (fromUsable : shell.usable (DFile.filePath filename) = true)
    (toUsable : shell.usable filepath = true) :
    Places service (service.get shell id filename filepath) id filepath
      ((((service.node id).disk filepath).or
        (service.held filename)).getD []) := by
  cases isOld : (service.node id).disk filepath with
  | some old => exact consistent.get_of_exists isOld
  | none =>
      rw [Option.none_or]
      by_cases registered : (service.node id).Registers filename
      · obtain ⟨content, present⟩ := Option.ne_none_iff_exists'.mp
          ((consistent.complete id filename).mpr registered)
        have isHeld : service.held filename = service.stored id filename := by
          rw [present]
          exact consistent.held_eq_some_iff.mpr ⟨id, present⟩
        rw [isHeld]
        exact consistent.get_of_registers isLocal isOld registered
      · exact consistent.get_of_not_registers isLocal named fromUsable toUsable
          isOld registered

end Get

/-- Every node has what was at the path, or else what the store has. -/
theorem Consistent.getAll
    (consistent : Consistent service) {requests : List (Id × String)}
    (isLocal : ∀ request ∈ requests, Local request.2)
    (named : ∀ request ∈ requests, request.2 ≠ "")
    (usable : ∀ request ∈ requests,
      shell.usable (DFile.filePath request.2) = true ∧
        shell.usable request.2 = true) :
    Consistent (service.getAll shell requests) ∧
      (service.getAll shell requests).members = service.members ∧
      (service.getAll shell requests).held = service.held ∧
      ∀ other path, Local path →
        ((service.getAll shell requests).node other).disk path =
          if (other, path) ∈ requests then
            some ((((service.node other).disk path).or
              (service.held path)).getD [])
          else (service.node other).disk path := by
  induction requests generalizing service with
  | nil => exact ⟨consistent, rfl, rfl, fun _ _ _ => rfl⟩
  | cons request requests inductionHypothesis =>
      obtain ⟨id, filename⟩ := request
      obtain ⟨firstLocal, restLocal⟩ := List.forall_mem_cons.mp isLocal
      obtain ⟨firstNamed, restNamed⟩ := List.forall_mem_cons.mp named
      obtain ⟨⟨fromUsable, toUsable⟩, restUsable⟩ :=
        List.forall_mem_cons.mp usable
      obtain ⟨still, members, held, atPath⟩ :=
        @Consistent.get _ _ shell _ id filename filename consistent
          firstLocal firstNamed fromUsable toUsable
      obtain ⟨final, finalMembers, finalHeld, finalPath⟩ :=
        inductionHypothesis still restLocal restNamed restUsable
      refine ⟨final, finalMembers.trans members, finalHeld.trans held,
        fun other path isOutside => (finalPath other path isOutside).trans ?_⟩
      rw [atPath other path isOutside, held]
      by_cases isFirst : other = id ∧ path = filename
      · obtain ⟨rfl, rfl⟩ := isFirst
        simp
      · simp only [isFirst, if_false, List.mem_cons, Prod.mk.injEq, false_or]

end FileService

end Master
end CraneSps
