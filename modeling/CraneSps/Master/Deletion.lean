import CraneSps.Master.Entries
import CraneSps.Master.Orderly

/-!
# Deleting a file everywhere

`deleteFile` collects its targets once, from the members and the map.  The
file is gone afterwards if these targets are all nodes that have it, or are
going to have it, when the `DEL` is handled, and if no copy is commanded or
listed behind its back.  Files of other names are not affected.
-/

namespace CraneSps
namespace Master

open FileTransfer

variable {Id : Type} [LinearOrder Id]

namespace Cluster

/-- Nothing of the file is under way, except that it may be being deleted. -/
structure Quiet (cluster : Cluster Id) (filename : String) : Prop where
  handlers : ∀ handler ∈ cluster.handlers, handler.filename = filename →
    handler.Deletes filename
  approvals : ∀ approval ∈ cluster.files.approvals,
    approval.filename ≠ filename
  fetches : ∀ fetch ∈ cluster.files.fetches,
    fetch.client.filename ≠ filename
  commands : ∀ command ∈ cluster.commands, command.1 = filename →
    command.2.targets = ∅
  updates : ∀ update ∈ cluster.updates, update.info.name ≠ filename

/-- No reply on its way to the master lists the file. -/
def Unlisted
    (cluster : Cluster Id) (master : Id) (filename : String) : Prop :=
  ∀ rebuild ∈ cluster.rebuilds, rebuild.master = master →
    ∀ infos ∈ rebuild.reply, listsFile infos filename = false

/-- The master knows every member with the file, and only members. -/
structure Known
    (cluster : Cluster Id) (master : Id) (filename : String) : Prop where
  registered : ∀ id ∈ cluster.members,
    (cluster.files.store id).Registers filename →
      (cluster.fileMap master).hasFile id filename = true
  areMembers : ∀ id ∈ (cluster.fileMap master).holders filename,
    id ∈ cluster.members

section Decidability

variable (cluster : Cluster Id) (master : Id) (filename : String)

instance : Decidable (cluster.Quiet filename) :=
  decidable_of_iff
    ((∀ handler ∈ cluster.handlers, handler.filename = filename →
        handler.Deletes filename) ∧
      (∀ approval ∈ cluster.files.approvals,
        approval.filename ≠ filename) ∧
      (∀ fetch ∈ cluster.files.fetches,
        fetch.client.filename ≠ filename) ∧
      (∀ command ∈ cluster.commands, command.1 = filename →
        command.2.targets = ∅) ∧
      ∀ update ∈ cluster.updates, update.info.name ≠ filename)
    ⟨fun ⟨handlers, approvals, fetches, commands, updates⟩ =>
      ⟨handlers, approvals, fetches, commands, updates⟩,
    fun ⟨handlers, approvals, fetches, commands, updates⟩ =>
      ⟨handlers, approvals, fetches, commands, updates⟩⟩

instance : Decidable (cluster.Unlisted master filename) := by
  unfold Unlisted
  infer_instance

instance : Decidable (cluster.Known master filename) :=
  decidable_of_iff
    ((∀ id ∈ cluster.members,
        (cluster.files.store id).Registers filename →
          (cluster.fileMap master).hasFile id filename = true) ∧
      ∀ id ∈ (cluster.fileMap master).holders filename,
        id ∈ cluster.members)
    ⟨fun ⟨registered, areMembers⟩ => ⟨registered, areMembers⟩,
      fun ⟨registered, areMembers⟩ => ⟨registered, areMembers⟩⟩

end Decidability

/-- A `DEL` comes when nothing of the file is under way and the master knows
who has it.  From then on, until it is put again, no master that knows a holder
replicates the file, and no node with the file joins or is listed by the master
that handled the `DEL`. -/
def Withdrawn (cluster : Cluster Id) : ClusterAction Id → Prop
  | .delete master filename =>
      cluster.Quiet filename ∧ cluster.Unlisted master filename ∧
        cluster.Known master filename
  | .replicate master filename _ =>
      ∀ entry ∈ cluster.deleted, entry.2 = filename →
        (cluster.fileMap master).countReplicates filename = 0
  | .join id =>
      ∀ entry ∈ cluster.deleted,
        ¬ (cluster.files.store id).Registers entry.2
  | .list index =>
      ∀ rebuild ∈ cluster.rebuilds[index]?,
        ∀ member ∈ rebuild.remaining.head?,
          ∀ entry ∈ cluster.deleted, entry.1 = rebuild.master →
            ¬ (cluster.files.store member).Registers entry.2
  | _ => True

instance (cluster : Cluster Id) (action : ClusterAction Id) :
    Decidable (Withdrawn cluster action) := by
  rcases action <;> unfold Withdrawn <;> infer_instance

/-- The master is going to ask the node to delete the file. -/
def Targets
    (cluster : Cluster Id) (master : Id) (filename : String) (id : Id) :
    Prop :=
  ∃ targets, .deleting master filename targets ∈ cluster.handlers ∧
    id ∈ targets

/-- The file has been deleted, up to the targets that are still to be
asked. -/
structure Withdraws
    (cluster : Cluster Id) (master : Id) (filename : String) : Prop where
  quiet : cluster.Quiet filename
  unlisted : cluster.Unlisted master filename
  mapped : ∀ id, (cluster.fileMap master).hasFile id filename = true →
    cluster.Targets master filename id
  stored : ∀ id ∈ cluster.members,
    (cluster.files.store id).Registers filename →
      cluster.Targets master filename id

/-- What steps preserve if every `DEL` is complete. -/
structure Settled (cluster : Cluster Id) : Prop where
  kept : cluster.files.Kept
  withdraws : ∀ entry ∈ cluster.deleted,
    cluster.Withdraws entry.1 entry.2

variable {shell : Shell} {cluster next : Cluster Id}
variable {action : ClusterAction Id} {master : Id} {filename : String}

/-- A known file is going to be deleted everywhere. -/
theorem Withdraws.startDelete
    (quiet : cluster.Quiet filename)
    (unlisted : cluster.Unlisted master filename)
    (known : cluster.Known master filename) :
    (cluster.startDelete master filename).Withdraws master filename := by
  have targets : ∀ id,
      (cluster.fileMap master).hasFile id filename = true →
        (cluster.startDelete master filename).Targets master filename id := by
    intro id holds
    refine ⟨_, List.mem_append_right _ (List.mem_singleton_self _), ?_⟩
    exact List.mem_filter.mpr
      ⟨known.areMembers id (FileMap.mem_holders_iff.mpr holds), holds⟩
  refine
    { quiet := { quiet with handlers := ?_ }
      unlisted := unlisted
      mapped := targets
      stored := fun id isMember registered =>
        targets id (known.registered id isMember registered) }
  intro handler handled named
  rcases List.mem_append.mp handled with old | isNew
  · exact quiet.handlers handler old named
  · obtain rfl := List.mem_singleton.mp isNew
    rfl

/-- A file without a holder has been deleted. -/
theorem Withdraws.of_unknown
    (quiet : cluster.Quiet filename)
    (unlisted : cluster.Unlisted master filename)
    (known : cluster.Known master filename)
    (unknown : (cluster.fileMap master).countReplicates filename = 0) :
    cluster.Withdraws master filename := by
  have nobody : ∀ id,
      ¬ (cluster.fileMap master).hasFile id filename = true := by
    intro id holds
    have isHolder := FileMap.mem_holders_iff.mpr holds
    rw [Finset.card_eq_zero.mp unknown] at isHolder
    exact absurd isHolder (Finset.notMem_empty id)
  exact
    { quiet := quiet
      unlisted := unlisted
      mapped := fun id holds => absurd holds (nobody id)
      stored := fun id isMember registered =>
        absurd (known.registered id isMember registered) (nobody id) }

/-- A handler of another file, or of another master, is done or goes on. -/
theorem Targets.mono
    {id : Id}
    (targets : cluster.Targets master filename id)
    (handlers : ∀ handler ∈ cluster.handlers, handler.Deletes filename →
      handler.master = master → handler ∈ next.handlers) :
    next.Targets master filename id := by
  obtain ⟨others, handled, isTarget⟩ := targets
  exact ⟨others, handlers _ handled rfl rfl, isTarget⟩

/-- A source that nobody is known to be cannot be drawn. -/
theorem eq_none_of_unknown
    {draws : List Nat} {outcome : Option (Replication Id)}
    (unknown : (cluster.fileMap master).countReplicates filename = 0)
    (called : replicateFile (cluster.fileMap master) cluster.members filename
      draws = some outcome) : outcome = none := by
  cases outcome with
  | none => rfl
  | some command =>
      obtain ⟨_, _, _, holds⟩ := replicateFile_spec called
      have isHolder := FileMap.mem_holders_iff.mpr holds
      rw [Finset.card_eq_zero.mp unknown] at isHolder
      exact absurd isHolder (Finset.notMem_empty _)

/-- A step that adds nothing of the file and takes no target back. -/
theorem Withdraws.of_origin
    (withdraws : cluster.Withdraws master filename)
    (quiet : next.Quiet filename) (unlisted : next.Unlisted master filename)
    (mapped : ∀ id, (next.fileMap master).hasFile id filename = true →
      (cluster.fileMap master).hasFile id filename = true)
    (stored : ∀ id ∈ next.members,
      (next.files.store id).Registers filename →
        id ∈ cluster.members ∧ (cluster.files.store id).Registers filename)
    (handlers : ∀ handler ∈ cluster.handlers, handler.Deletes filename →
      handler.master = master → handler ∈ next.handlers) :
    next.Withdraws master filename where
  quiet := quiet
  unlisted := unlisted
  mapped := fun id holds =>
    (withdraws.mapped id (mapped id holds)).mono handlers
  stored := by
    intro id isMember registered
    obtain ⟨before, had⟩ := stored id isMember registered
    exact (withdraws.stored id before had).mono handlers

/-- A map of which entries are removed, or extended by other files. -/
theorem hasFile_of_setFileMap
    {changed id : Id} {fileMap : FileMap Id}
    (origin : master = changed → fileMap.hasFile id filename = true →
      (cluster.fileMap master).hasFile id filename = true)
    (holds : ((cluster.setFileMap changed fileMap).fileMap master).hasFile id
      filename = true) :
    (cluster.fileMap master).hasFile id filename = true := by
  rw [fileMap_setFileMap] at holds
  split at holds
  · next same => exact origin same holds
  · exact holds

/-- The map is extended by a file of another name. -/
theorem hasFile_of_addToFileMap
    {changed node id : Id} {info : FileInfo}
    (differs : info.name ≠ filename)
    (holds : ((cluster.setFileMap changed
      ((cluster.fileMap changed).addToFileMap node info)).fileMap
        master).hasFile id filename = true) :
    (cluster.fileMap master).hasFile id filename = true := by
  refine hasFile_of_setFileMap (fun same added => ?_) holds
  subst same
  exact (FileMap.hasFile_addToFileMap.mp added).resolve_left
    fun isThis => differs isThis.2

/-- A node without the file does not list it. -/
theorem listsFile_localFiles
    {node : DFile} (without : ¬ node.Registers filename) :
    listsFile node.localFiles filename = false := by
  rw [DFile.registers_iff] at without
  rw [Bool.eq_false_iff, listsFile, ne_eq, List.any_eq_true]
  rintro ⟨info, present, named⟩
  exact without ⟨info, present, beq_iff_eq.mp named⟩

namespace Settled

/-- A step under which every withdrawn file stays withdrawn. -/
theorem change
    (settled : cluster.Settled)
    (change : FileChange shell cluster.files next.files)
    (deleted : ∀ entry ∈ next.deleted, entry ∈ cluster.deleted)
    (withdraws : ∀ entry ∈ next.deleted,
      cluster.Withdraws entry.1 entry.2 → next.Withdraws entry.1 entry.2) :
    next.Settled where
  kept := settled.kept.change change
  withdraws := fun entry isEntry =>
    withdraws entry isEntry (settled.withdraws entry (deleted entry isEntry))

/-- Only what no withdrawn file depends on changes. -/
theorem keep
    (settled : cluster.Settled)
    (files : next.files = cluster.files)
    (deleted : next.deleted = cluster.deleted)
    (quiet : ∀ filename, cluster.Quiet filename → next.Quiet filename)
    (unlisted : ∀ entry ∈ cluster.deleted,
      cluster.Unlisted entry.1 entry.2 → next.Unlisted entry.1 entry.2)
    (mapped : ∀ entry ∈ cluster.deleted, cluster.Withdraws entry.1 entry.2 →
      ∀ id, (next.fileMap entry.1).hasFile id entry.2 = true →
        (cluster.fileMap entry.1).hasFile id entry.2 = true)
    (members : ∀ id ∈ next.members, id ∈ cluster.members ∨
      ∀ entry ∈ cluster.deleted,
        ¬ (cluster.files.store id).Registers entry.2)
    (handlers : next.handlers = cluster.handlers) :
    next.Settled where
  kept := files ▸ settled.kept
  withdraws := by
    intro entry isEntry
    rw [deleted] at isEntry
    have withdraws := settled.withdraws entry isEntry
    refine withdraws.of_origin (quiet entry.2 withdraws.quiet)
      (unlisted entry isEntry withdraws.unlisted)
      (mapped entry isEntry withdraws) (fun id isMember registered => ?_)
      fun _ handled _ _ => handlers ▸ handled
    rw [files] at registered
    rcases members id isMember with old | without
    · exact ⟨old, registered⟩
    · exact absurd registered (without entry isEntry)

/-- A node starts again, and with it everything it has done as a master. -/
theorem restart (settled : cluster.Settled) (id : Id) :
    (cluster.restart id).Settled := by
  refine settled.change (.restart id : FileChange (.strict fun _ => "") _ _)
    (fun _ => List.mem_of_mem_filter)
    fun entry isEntry withdraws => withdraws.of_origin ?_ ?_ ?_ ?_ ?_
  · exact
      { handlers := fun handler remains =>
          withdraws.quiet.handlers handler (List.mem_of_mem_filter remains)
        approvals := fun approval remains =>
          withdraws.quiet.approvals approval (List.mem_of_mem_filter remains)
        fetches := fun fetch remains =>
          withdraws.quiet.fetches fetch (List.mem_of_mem_filter remains)
        commands := fun command remains =>
          withdraws.quiet.commands command (List.mem_of_mem_filter remains)
        updates := withdraws.quiet.updates }
  · exact fun rebuild remains =>
      withdraws.unlisted rebuild (List.mem_of_mem_filter remains)
  · exact fun other =>
      hasFile_of_setFileMap fun _ holds => nomatch holds
  · exact fun other isMember registered =>
      ⟨isMember, (Files.registers_restart.mp registered).2⟩
  · intro handler handled _ ofMaster
    refine List.mem_filter.mpr ⟨handled, ?_⟩
    rw [ofMaster]
    exact (List.mem_filter.mp isEntry).2

/-- A member without the withdrawn files of the master replies. -/
theorem list
    (settled : cluster.Settled) {index : Nat} {member : Id}
    {remaining : List Id}
    (without : ∀ entry ∈ cluster.deleted, entry.1 = master →
      ¬ (cluster.files.store member).Registers entry.2) :
    Settled
      { cluster with
        rebuilds := cluster.rebuilds.set index
          ⟨master, member :: remaining,
            some (cluster.files.store member).localFiles⟩ } := by
  refine settled.keep rfl rfl (fun _ quiet => { quiet with }) ?_
    (fun _ _ _ _ holds => holds) (fun _ => .inl) rfl
  intro entry isEntry unlisted rebuild ongoing ofMaster infos isReply
  rcases List.mem_or_eq_of_mem_set ongoing with old | rfl
  · exact unlisted rebuild old ofMaster infos isReply
  · obtain rfl := Option.some.inj isReply
    exact listsFile_localFiles (without entry isEntry ofMaster.symm)

/-- A reply that does not list the withdrawn files is processed. -/
theorem updateFileMap
    (settled : cluster.Settled) {index : Nat} {member : Id}
    {remaining : List Id} {infos : List FileInfo}
    (found : cluster.rebuilds[index]? =
      some ⟨master, member :: remaining, some infos⟩) :
    Settled
      { cluster.setFileMap master
          ((cluster.fileMap master).processListReply member infos) with
        rebuilds := cluster.rebuilds.set index ⟨master, remaining, none⟩ } := by
  refine settled.keep rfl rfl (fun _ quiet => { quiet with }) ?_
    (fun entry isEntry withdraws other =>
      hasFile_of_setFileMap fun same holds => ?_) (fun _ => .inl) rfl
  · intro entry _ unlisted rebuild remains ofMaster others isReply
    rcases List.mem_or_eq_of_mem_set remains with old | rfl
    · exact unlisted rebuild old ofMaster others isReply
    · cases isReply
  · rw [FileMap.hasFile_processListReply] at holds
    split at holds
    · have unlisted := withdraws.unlisted _ (List.mem_of_getElem? found)
        same.symm infos rfl
      rw [unlisted] at holds
      nomatch holds
    · exact same ▸ holds

/-- A file that is put is not withdrawn any more. -/
theorem approvePut
    (settled : cluster.Settled) (putter : Id) (info : FileInfo)
    (content : Bytes) :
    (cluster.approvePut master putter info content).Settled := by
  refine settled.change (.approve _ : FileChange (.strict fun _ => "") _ _)
    (fun _ => List.mem_of_mem_filter) fun entry isEntry withdraws => ?_
  have differs : entry.2 ≠ info.name :=
    of_decide_eq_true (List.mem_filter.mp isEntry).2
  refine withdraws.of_origin
    { withdraws.quiet with handlers := ?_, approvals := ?_ }
    withdraws.unlisted (fun _ holds => holds)
    (fun _ isMember registered => ⟨isMember, registered⟩)
    fun _ handled _ _ => List.mem_append_left _ handled
  · intro handler handled named
    rcases List.mem_append.mp handled with old | isNew
    · exact withdraws.quiet.handlers handler old named
    · obtain rfl := List.mem_singleton.mp isNew
      exact absurd named.symm differs
  · intro approval underway
    rcases List.mem_append.mp underway with old | isNew
    · exact withdraws.quiet.approvals approval old
    · obtain rfl := List.mem_singleton.mp isNew
      exact differs.symm

/-- A file that has been put is registered. -/
theorem addToFileMap
    (settled : cluster.Settled) {index : Nat} {putter : Id} {info : FileInfo}
    (found : cluster.handlers[index]? =
      some (.registering master putter info)) :
    Settled
      { cluster.setFileMap master
          ((cluster.fileMap master).addToFileMap putter info) with
        handlers := cluster.handlers.eraseIdx index
        calls := cluster.calls ++ [(master, info.name)] } := by
  refine settled.change (.none : FileChange (.strict fun _ => "") _ _)
    (fun _ isEntry => isEntry) fun entry _ withdraws => withdraws.of_origin
      { withdraws.quiet with
        handlers := fun handler remains =>
          withdraws.quiet.handlers handler (List.mem_of_mem_eraseIdx remains) }
      withdraws.unlisted (fun _ => hasFile_of_addToFileMap fun named => ?_)
      (fun _ isMember registered => ⟨isMember, registered⟩)
      fun handler handled deletes _ => ?_
  · exact withdraws.quiet.handlers _ (List.mem_of_getElem? found) named
  · rcases List.eq_or_mem_eraseIdx handled found with rfl | remains
    · exact deletes.elim
    · exact remains

/-- An approval of a file that is not withdrawn arrives. -/
theorem receiveApproval
    (settled : cluster.Settled) {index : Nat} {approval : Approval Id}
    (found : cluster.files.approvals[index]? = some approval) :
    Settled
      { cluster with
        files := cluster.files.copyApproved shell index approval } := by
  refine settled.change (.copyApproved index approval)
    (fun _ isEntry => isEntry) fun entry _ withdraws => withdraws.of_origin
      { withdraws.quiet with
        approvals := fun other remains =>
          withdraws.quiet.approvals other (List.mem_of_mem_eraseIdx remains) }
      withdraws.unlisted (fun _ holds => holds)
      (fun id isMember registered => ⟨isMember, ?_⟩)
      fun _ handled _ _ => handled
  rcases Files.registers_copyApproved.mp registered with isThis | before
  · exact absurd isThis.2.symm
      (withdraws.quiet.approvals approval (List.mem_of_getElem? found))
  · exact before

/-- A call that knows no holder of a withdrawn file commands nothing for
it. -/
theorem replicate
    (settled : cluster.Settled) {draws : List Nat}
    {outcome : Option (Replication Id)}
    (unknown : ∀ entry ∈ cluster.deleted, entry.2 = filename →
      (cluster.fileMap master).countReplicates filename = 0)
    (called : replicateFile (cluster.fileMap master) cluster.members filename
      draws = some outcome) :
    Settled
      { cluster with
        calls := cluster.calls.erase (master, filename)
        commands := cluster.commands ++
          (outcome.map fun command => (filename, command)).toList } := by
  refine settled.change (.none : FileChange (.strict fun _ => "") _ _)
    (fun _ isEntry => isEntry) fun entry isEntry withdraws =>
      withdraws.of_origin { withdraws.quiet with commands := ?_ }
        withdraws.unlisted (fun _ holds => holds)
        (fun _ isMember registered => ⟨isMember, registered⟩)
        fun _ handled _ _ => handled
  intro command ordered named
  rcases List.mem_append.mp ordered with old | isNew
  · exact withdraws.quiet.commands command old named
  · rw [Option.mem_toList, Option.map_eq_some_iff] at isNew
    obtain ⟨new, isOutcome, rfl⟩ := isNew
    have nothing := eq_none_of_unknown (unknown entry isEntry named.symm) called
    rw [isOutcome] at nothing
    nomatch nothing

/-- A target is asked for a file that is not withdrawn. -/
theorem sendFileRequest
    (settled : cluster.Settled) {index : Nat} {source target : Id}
    {targets : Finset Id} {port : Int}
    (found : cluster.commands[index]? = some (filename, ⟨source, targets⟩))
    (isTarget : target ∈ targets) :
    Settled
      { cluster with
        files := cluster.ask shell filename source target port
        commands := cluster.commands.set index
          (filename, ⟨source, targets.erase target⟩) } := by
  have differs : ∀ entry : Id × String,
      cluster.Withdraws entry.1 entry.2 → filename ≠ entry.2 := by
    intro entry withdraws named
    have asked : targets = ∅ :=
      withdraws.quiet.commands _ (List.mem_of_getElem? found) named
    rw [asked] at isTarget
    exact absurd isTarget (Finset.notMem_empty target)
  have commands : ∀ entry : Id × String,
      cluster.Withdraws entry.1 entry.2 →
        ∀ command ∈ cluster.commands.set index
          (filename, ⟨source, targets.erase target⟩),
          command.1 = entry.2 → command.2.targets = ∅ := by
    intro entry withdraws command remains named
    rcases List.mem_or_eq_of_mem_set remains with old | rfl
    · exact withdraws.quiet.commands command old named
    · exact absurd named (differs entry withdraws)
  rcases cluster.ask_cases shell filename source target port with
    same | ⟨fetch, _, named, keeps, asked⟩
  · rw [same]
    exact settled.change (.none : FileChange (.strict fun _ => "") _ _)
      (fun _ isEntry => isEntry) fun entry _ withdraws => withdraws.of_origin
        { withdraws.quiet with commands := commands entry withdraws }
        withdraws.unlisted (fun _ holds => holds)
        (fun _ isMember registered => ⟨isMember, registered⟩)
        fun _ handled _ _ => handled
  · rw [asked]
    refine settled.change (.ask fetch keeps : FileChange (.strict fun _ => "") _ _)
      (fun _ isEntry => isEntry) fun entry _ withdraws => withdraws.of_origin
        { withdraws.quiet with
          commands := commands entry withdraws, fetches := ?_ }
        withdraws.unlisted (fun _ holds => holds)
        (fun _ isMember registered => ⟨isMember, registered⟩)
        fun _ handled _ _ => handled
    intro other underway
    rcases List.mem_append.mp underway with old | isNew
    · exact withdraws.quiet.fetches other old
    · obtain rfl := List.mem_singleton.mp isNew
      exact named ▸ differs entry withdraws

/-- A fetch of a file that is not withdrawn is complete. -/
theorem finishFetch
    (settled : cluster.Settled) {index : Nat} {fetch : GroupFetch Id}
    (leader : Option Id)
    (found : cluster.files.fetches[index]? = some fetch) :
    Settled
      { cluster with
        files := cluster.files.finishFetch shell index fetch
        updates := cluster.updates ++ (leader.map (report fetch)).toList } := by
  have underway := List.mem_of_getElem? found
  refine settled.change (.finishFetch index fetch underway)
    (fun _ isEntry => isEntry) fun entry _ withdraws => withdraws.of_origin
      { withdraws.quiet with
        fetches := fun other remains =>
          withdraws.quiet.fetches other (List.mem_of_mem_eraseIdx remains)
        updates := ?_ }
      withdraws.unlisted (fun _ holds => holds)
      (fun id isMember registered => ⟨isMember, ?_⟩)
      fun _ handled _ _ => handled
  · intro update sent
    rcases List.mem_append.mp sent with old | isNew
    · exact withdraws.quiet.updates update old
    · rw [Option.mem_toList, Option.map_eq_some_iff] at isNew
      obtain ⟨master, _, rfl⟩ := isNew
      exact withdraws.quiet.fetches fetch underway
  · rcases (Files.registers_finishFetch
      (settled.kept.keeps fetch underway)).mp registered with
      isThis | before
    · exact absurd isThis.2.symm (withdraws.quiet.fetches fetch underway)
    · exact before

/-- An `UPDATE` for a file that is not withdrawn is handled. -/
theorem update
    (settled : cluster.Settled) {index : Nat} {node : Id} {info : FileInfo}
    (found : cluster.updates[index]? = some ⟨master, node, info⟩) :
    Settled
      { cluster.setFileMap master
          ((cluster.fileMap master).addToFileMap node info) with
        updates := cluster.updates.eraseIdx index } :=
  settled.keep rfl rfl
    (fun _ quiet =>
      { quiet with
        updates := fun update remains =>
          quiet.updates update (List.mem_of_mem_eraseIdx remains) })
    (fun _ _ unlisted => unlisted)
    (fun _ _ withdraws _ => hasFile_of_addToFileMap
      (withdraws.quiet.updates _ (List.mem_of_getElem? found)))
    (fun _ => .inl) rfl

/-- A `DEL` adds an entry for what it is going to delete. -/
theorem extend
    (settled : cluster.Settled)
    (files : next.files = cluster.files)
    (deleted : next.deleted = cluster.deleted ++ [(master, filename)])
    (old : ∀ entry : Id × String,
      cluster.Withdraws entry.1 entry.2 → next.Withdraws entry.1 entry.2)
    (new : next.Withdraws master filename) :
    next.Settled where
  kept := files ▸ settled.kept
  withdraws := by
    intro entry isEntry
    rw [deleted] at isEntry
    rcases List.mem_append.mp isEntry with before | isNew
    · exact old entry (settled.withdraws entry before)
    · obtain rfl := List.mem_singleton.mp isNew
      exact new

/-- A file without a holder has been deleted. -/
theorem deleteUnknown
    (settled : cluster.Settled)
    (quiet : cluster.Quiet filename)
    (unlisted : cluster.Unlisted master filename)
    (known : cluster.Known master filename)
    (unknown : (cluster.fileMap master).countReplicates filename = 0) :
    Settled
      { cluster with
        deleted := cluster.deleted ++ [(master, filename)] } := by
  have same : ∀ entry : Id × String, cluster.Withdraws entry.1 entry.2 →
      Withdraws { cluster with
        deleted := cluster.deleted ++ [(master, filename)] } entry.1
        entry.2 :=
    fun entry withdraws => withdraws.of_origin { withdraws.quiet with }
      withdraws.unlisted (fun _ holds => holds)
      (fun _ isMember registered => ⟨isMember, registered⟩)
      fun _ handled _ _ => handled
  exact settled.extend rfl rfl same
    (same (master, filename)
      (Withdraws.of_unknown quiet unlisted known unknown))

/-- The deletion of a known file begins. -/
theorem startDelete
    (settled : cluster.Settled)
    (quiet : cluster.Quiet filename)
    (unlisted : cluster.Unlisted master filename)
    (known : cluster.Known master filename) :
    (cluster.startDelete master filename).Settled := by
  refine settled.extend rfl rfl
    (fun entry withdraws => withdraws.of_origin
      { withdraws.quiet with handlers := ?_ } withdraws.unlisted
      (fun _ holds => holds)
      (fun _ isMember registered => ⟨isMember, registered⟩)
      fun _ handled _ _ => List.mem_append_left _ handled)
    (Withdraws.startDelete quiet unlisted known)
  intro handler handled named
  rcases List.mem_append.mp handled with old | isNew
  · exact withdraws.quiet.handlers handler old named
  · obtain rfl := List.mem_singleton.mp isNew
    exact named

/-- A target has deleted the file and is out of the map. -/
theorem deleteAt
    (settled : cluster.Settled) {index : Nat} {target : Id}
    {targets : List Id}
    (found : cluster.handlers[index]? =
      some (.deleting master filename (target :: targets))) :
    (cluster.deleteAt index master filename target targets).Settled where
  kept := settled.kept.change
    (.delete target filename : FileChange (.strict fun _ => "") _ _)
  withdraws := by
    intro entry isEntry
    have withdraws := settled.withdraws entry isEntry
    have remains : ∀ id, cluster.Targets entry.1 entry.2 id →
        ¬ (id = target ∧ entry.1 = master ∧ entry.2 = filename) →
          (cluster.deleteAt index master filename target targets).Targets
            entry.1 entry.2 id := by
      rintro id ⟨others, handled, isTarget⟩ differs
      by_cases isThis :
          Handler.deleting entry.1 entry.2 others =
            .deleting master filename (target :: targets)
      · simp only [Handler.deleting.injEq] at isThis
        obtain ⟨sameMaster, sameName, rfl⟩ := isThis
        refine ⟨targets, ?_, ?_⟩
        · rw [sameMaster, sameName]
          exact List.mem_set (List.getElem?_eq_some_iff.mp found).1 _
        · exact (List.mem_cons.mp isTarget).resolve_left
            fun same => differs ⟨same, sameMaster, sameName⟩
      · exact ⟨others, List.mem_set_of_ne handled found isThis, isTarget⟩
    refine
      { quiet := { withdraws.quiet with handlers := ?_ }
        unlisted := withdraws.unlisted
        mapped := ?_
        stored := ?_ }
    · intro handler handled named
      rcases List.mem_or_eq_of_mem_set handled with old | rfl
      · exact withdraws.quiet.handlers handler old named
      · exact named
    · intro id holds
      change ((cluster.setFileMap master _).fileMap entry.1).hasFile id
        entry.2 = true at holds
      rw [fileMap_setFileMap] at holds
      split at holds
      · next sameMaster =>
          obtain ⟨before, differs⟩ :=
            FileMap.hasFile_deleteFromFileMap.mp holds
          rw [← sameMaster] at before
          exact remains id (withdraws.mapped id before)
            fun isThis => differs ⟨isThis.1, isThis.2.2⟩
      · next differs =>
          exact remains id (withdraws.mapped id holds)
            fun isThis => differs isThis.2.1
    · intro id isMember registered
      obtain ⟨before, differs⟩ := settled.kept.registers_delete.mp registered
      exact remains id (withdraws.stored id isMember before)
        fun isThis => differs ⟨isThis.1, isThis.2.2⟩

/-- All targets have been asked. -/
theorem endDelete
    (settled : cluster.Settled) {index : Nat}
    (found : cluster.handlers[index]? =
      some (.deleting master filename [])) :
    Settled
      { cluster with handlers := cluster.handlers.eraseIdx index } where
  kept := settled.kept
  withdraws := by
    intro entry isEntry
    have withdraws := settled.withdraws entry isEntry
    have remains : ∀ id, cluster.Targets entry.1 entry.2 id →
        Targets
          { cluster with handlers := cluster.handlers.eraseIdx index }
          entry.1 entry.2 id := by
      rintro id ⟨others, handled, isTarget⟩
      rcases List.eq_or_mem_eraseIdx handled found with isThis | old
      · obtain ⟨_, _, rfl⟩ := Handler.deleting.inj isThis
        nomatch isTarget
      · exact ⟨others, old, isTarget⟩
    exact
      { quiet := { withdraws.quiet with
          handlers := fun handler old =>
            withdraws.quiet.handlers handler (List.mem_of_mem_eraseIdx old) }
        unlisted := withdraws.unlisted
        mapped := fun id holds => remains id (withdraws.mapped id holds)
        stored := fun id isMember registered =>
          remains id (withdraws.stored id isMember registered) }

/-- Every step keeps the deletions complete. -/
theorem step
    (settled : cluster.Settled)
    (withdrawn : Withdrawn cluster action)
    (stepped : cluster.step shell action = some next) : next.Settled := by
  cases transition_of_step stepped with
  | @join id =>
      refine settled.keep rfl rfl (fun _ quiet => { quiet with })
        (fun _ _ unlisted => unlisted) (fun _ _ _ _ holds => holds)
        (fun other isMember => ?_) rfl
      have inserted := (List.perm_orderedInsert (· ≤ ·) id
        cluster.members).mem_iff.mp isMember
      rcases List.mem_cons.mp inserted with rfl | old
      · exact .inr withdrawn
      · exact .inl old
  | leave =>
      exact settled.keep rfl rfl (fun _ quiet => { quiet with })
        (fun _ _ unlisted => unlisted) (fun _ _ _ _ holds => holds)
        (fun _ isMember => .inl (List.mem_of_mem_erase isMember)) rfl
  | @restart id => exact settled.restart id
  | nodeFail =>
      exact settled.keep rfl rfl (fun _ quiet => { quiet with })
        (fun _ _ unlisted => unlisted) (fun _ _ _ _ holds => holds)
        (fun _ => .inl) rfl
  | handleFail =>
      refine settled.keep rfl rfl (fun _ quiet => { quiet with })
        (fun _ _ unlisted => unlisted)
        (fun entry _ _ other => hasFile_of_setFileMap fun same holds => ?_)
        (fun _ => .inl) rfl
      rw [FileMap.hasFile_set] at holds
      split at holds
      · cases holds
      · exact same ▸ holds
  | start =>
      refine settled.keep rfl rfl (fun _ quiet => { quiet with }) ?_
        (fun _ _ _ _ holds => holds) (fun _ => .inl) rfl
      intro entry _ unlisted rebuild ongoing ofMaster infos isReply
      rcases List.mem_append.mp ongoing with old | isNew
      · exact unlisted rebuild old ofMaster infos isReply
      · obtain rfl := List.mem_singleton.mp isNew
        cases isReply
  | list found => exact settled.list (withdrawn _ found _ rfl)
  | updateFileMap found => exact settled.updateFileMap found
  | endStart =>
      exact settled.keep rfl rfl (fun _ quiet => { quiet with })
        (fun _ _ unlisted rebuild remains =>
          unlisted rebuild (List.mem_of_mem_eraseIdx remains))
        (fun _ _ _ _ holds => holds) (fun _ => .inl) rfl
  | approvePut => exact settled.approvePut _ _ _
  | refusePut => exact settled
  | addToFileMap found => exact settled.addToFileMap found
  | receiveApproval found => exact settled.receiveApproval found
  | @loseApproval index =>
      exact settled.change
        (.loseApproval index : FileChange (.strict fun _ => "") _ _)
        (fun _ isEntry => isEntry) fun entry _ withdraws =>
          withdraws.of_origin
            { withdraws.quiet with
              approvals := fun other remains =>
                withdraws.quiet.approvals other
                  (List.mem_of_mem_eraseIdx remains) }
            withdraws.unlisted (fun _ holds => holds)
            (fun _ isMember registered => ⟨isMember, registered⟩)
            fun _ handled _ _ => handled
  | replicate _ called => exact settled.replicate withdrawn called
  | sendFileRequest found isTarget =>
      exact settled.sendFileRequest found isTarget
  | dropCommand =>
      exact settled.keep rfl rfl
        (fun _ quiet =>
          { quiet with
            commands := fun command remains =>
              quiet.commands command (List.mem_of_mem_eraseIdx remains) })
        (fun _ _ unlisted => unlisted) (fun _ _ _ _ holds => holds)
        (fun _ => .inl) rfl
  | @finishFetch index leader fetch found =>
      exact settled.finishFetch leader found
  | update found => exact settled.update found
  | loseUpdate =>
      exact settled.keep rfl rfl
        (fun _ quiet =>
          { quiet with
            updates := fun update remains =>
              quiet.updates update (List.mem_of_mem_eraseIdx remains) })
        (fun _ _ unlisted => unlisted) (fun _ _ _ _ holds => holds)
        (fun _ => .inl) rfl
  | deleteUnknown unknown =>
      obtain ⟨quiet, unlisted, known⟩ := withdrawn
      exact settled.deleteUnknown quiet unlisted known unknown
  | startDelete =>
      obtain ⟨quiet, unlisted, known⟩ := withdrawn
      exact settled.startDelete quiet unlisted known
  | deleteAt found => exact settled.deleteAt found
  | endDelete found => exact settled.endDelete found

end Settled

end Cluster

open Cluster

/-- A file is put, copied to the other member, reported and deleted. -/
def reportedCopy : List (ClusterAction Nat) :=
  [.join 1, .join 2, .put 1 1 "f" [7], .addToFileMap 0, .receiveApproval 0,
    .replicate 1 "f" [1, 0], .sendFileRequest 0 2 9601,
    .finishFetch 0 (some 1), .update 0,
    .delete 1 "f", .deleteNext 0, .deleteNext 0, .deleteNext 0]

/-- The `DEL` is handled while the copy is under way. -/
def copyUnderway : List (ClusterAction Nat) :=
  [.join 1, .join 2, .put 1 1 "f" [7], .addToFileMap 0, .receiveApproval 0,
    .replicate 1 "f" [1, 0], .sendFileRequest 0 2 9601,
    .delete 1 "f", .deleteNext 0, .deleteNext 0,
    .finishFetch 0 (some 1), .update 0]

end Master
end CraneSps
