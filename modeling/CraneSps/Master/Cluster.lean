import CraneSps.Master.Files
import CraneSps.Master.Replication
import Mathlib.Data.List.Dedup
import Mathlib.Data.List.Sort

/-!
# Members that come and go

The files of a group together with the membership list, the failures that are
to be handled and the replications that have been commanded.  Every node may
act as a master at any time, so opinions about the leader are left out: a
command that its source does not follow is dropped.  Everything that is under
way belongs to the state and takes as long as it likes.
-/

namespace CraneSps
namespace Master

open FileTransfer

/-- An `UPDATE` request on its way to the leader that its node knows. -/
structure Update (Id : Type) where
  master : Id
  node : Id
  info : FileInfo
  deriving DecidableEq

variable {Id : Type} [LinearOrder Id]

/-- The state of the cluster. -/
structure Cluster (Id : Type) [LinearOrder Id] where
  files : Files Id
  /-- The map of each node's master. -/
  fileMap : Id → FileMap Id
  /-- `DMember::membershipList`, in the order of the ids. -/
  members : List Id
  /-- The threads of `handle(NodeFailEvent)` that have not run yet, each with
  the node it runs at and the node that has failed. -/
  failing : List (Id × Id)
  rebuilds : List (Rebuild Id)
  handlers : List (Handler Id)
  /-- The calls of `replicateFile` that masters are about to make. -/
  calls : List (Id × String)
  /-- The `REPLICATE` commands with the targets that have not been asked. -/
  commands : List (String × Replication Id)
  updates : List (Update Id)
  /-- The masters and names of the `DEL`s without a later approved `PUT`: no
  part of the code, only of what is said about it. -/
  deleted : List (Id × String)

/-- What can happen in the cluster. -/
inductive ClusterAction (Id : Type)
  | join (id : Id)
  /-- A member disappears from the membership list. -/
  | leave (id : Id)
  /-- The daemon of a node is started again. -/
  | restart (id : Id)
  /-- `handle(NodeFailEvent)` at a node. -/
  | nodeFail (observer id : Id)
  /-- Its thread clears the entry of the node and re-replicates. -/
  | handleFail (observer id : Id)
  /-- `start` at a node that has been elected. -/
  | start (master : Id)
  /-- The next member of a rebuild replies to its `LIST` command. -/
  | list (index : Nat)
  /-- The reply is processed. -/
  | updateFileMap (index : Nat)
  /-- The loop of `start` is over and `reReplicate` is called. -/
  | endStart (index : Nat)
  /-- A `PUT` request is handled, up to the reply. -/
  | put (master putter : Id) (filename : String) (content : Bytes)
  /-- The rest of an approved `PUT`. -/
  | addToFileMap (index : Nat)
  | receiveApproval (index : Nat)
  /-- The putting node has stopped waiting. -/
  | loseApproval (index : Nat)
  /-- `replicateFile` is called. -/
  | replicate (master : Id) (filename : String) (draws : List Nat)
  /-- The source of a command asks one of its targets. -/
  | sendFileRequest (index : Nat) (target : Id) (port : Int)
  /-- A source does not follow a command, or not any further. -/
  | dropCommand (index : Nat)
  /-- A fetch is complete and is reported to the leader, if there is one. -/
  | finishFetch (index : Nat) (leader : Option Id)
  /-- An `UPDATE` request is handled. -/
  | update (index : Nat)
  | loseUpdate (index : Nat)
  /-- A `DEL` request is handled, up to the targets of `deleteFile`. -/
  | delete (master : Id) (filename : String)
  /-- The next target of a `deleteFile`, or its end. -/
  | deleteNext (index : Nat)
  deriving DecidableEq

/-- The master that handles the request. -/
def Handler.master : Handler Id → Id
  | .registering master _ _ => master
  | .deleting master _ _ => master

/-- The approval is lost. -/
def Files.loseApproval (files : Files Id) (index : Nat) : Files Id :=
  { files with approvals := files.approvals.eraseIdx index }

/-- A node starts again: its directory is cleaned and its threads are gone. -/
def Files.restart (files : Files Id) (id : Id) : Files Id :=
  { files.setStore id (files.store id).cleanLocalFileDir with
    approvals := files.approvals.filter fun approval =>
      approval.putter ≠ id
    fetches := files.fetches.filter fun fetch => fetch.target ≠ id }

namespace Cluster

/-- No members and no files. -/
def initial (name : Id → String) : Cluster Id where
  files :=
    { store := fun id => emptyNode (name id)
      approvals := []
      fetches := [] }
  fileMap := fun _ => .empty
  members := []
  failing := []
  rebuilds := []
  handlers := []
  calls := []
  commands := []
  updates := []
  deleted := []

variable (cluster : Cluster Id)

/-- Replace the map of a master. -/
def setFileMap (id : Id) (fileMap : FileMap Id) : Cluster Id :=
  { cluster with fileMap := Function.update cluster.fileMap id fileMap }

/-- `reReplicate`, up to its calls. -/
def reReplicate (master : Id) : Cluster Id :=
  { cluster with
    calls := cluster.calls ++
      ((cluster.fileMap master).memberFiles cluster.members).map
        fun filename => (master, filename) }

/-- A node starts again. -/
def restart (id : Id) : Cluster Id :=
  { cluster.setFileMap id .empty with
    files := cluster.files.restart id
    failing := cluster.failing.filter fun entry => entry.1 ≠ id
    rebuilds := cluster.rebuilds.filter fun rebuild => rebuild.master ≠ id
    handlers := cluster.handlers.filter fun handler => handler.master ≠ id
    calls := cluster.calls.filter fun entry => entry.1 ≠ id
    commands := cluster.commands.filter fun entry => entry.2.source ≠ id
    deleted := cluster.deleted.filter fun entry => entry.1 ≠ id }

/-- The approval of a `PUT`: the reply is sent, and the rest is left to do. -/
def approvePut
    (master putter : Id) (info : FileInfo) (content : Bytes) : Cluster Id :=
  { cluster with
    files := cluster.files.approve ⟨putter, info.name, content⟩
    handlers := cluster.handlers ++ [.registering master putter info]
    deleted := cluster.deleted.filter fun entry => entry.2 ≠ info.name }

/-- The beginning of a `DEL`. -/
def startDelete (master : Id) (filename : String) : Cluster Id :=
  { cluster with
    handlers := cluster.handlers ++
      [.deleting master filename
        (cluster.members.filter fun id =>
          (cluster.fileMap master).hasFile id filename)]
    deleted := cluster.deleted ++ [(master, filename)] }

/-- The `DELETE` command to a target, and what `deleteFile` does after it. -/
def deleteAt
    (index : Nat) (master : Id) (filename : String) (target : Id)
    (targets : List Id) : Cluster Id :=
  { cluster.setFileMap master
      ((cluster.fileMap master).deleteFromFileMap target filename) with
    files := cluster.files.delete target filename
    handlers := cluster.handlers.set index
      (.deleting master filename targets) }

/-- The source of a command asks a target. -/
def ask
    (shell : Shell) (filename : String) (source target : Id)
    (port : Int) : Files Id :=
  match (cluster.files.store target).processSendRequest
      ((cluster.files.store source).sendRequest shell filename port) with
  | some client =>
      cluster.files.ask
        ⟨target, client, client.fetched
          ((cluster.files.store source).stored filename)⟩
  | none => cluster.files

/-- The report of a completed fetch. -/
def report (fetch : GroupFetch Id) (leader : Id) : Update Id where
  master := leader
  node := fetch.target
  info := FileInfo.new fetch.client.filename fetch.client.filemd5
    fetch.client.filesize

/-- One step of the cluster. -/
def step
    (shell : Shell) : ClusterAction Id → Option (Cluster Id)
  | .join id =>
      if id ∈ cluster.members then none
      else
        some
          { cluster with
            members := cluster.members.orderedInsert (· ≤ ·) id }
  | .leave id =>
      if id ∈ cluster.members then
        some { cluster with members := cluster.members.erase id }
      else none
  | .restart id =>
      if id ∈ cluster.members then none else some (cluster.restart id)
  | .nodeFail observer id =>
      some { cluster with failing := cluster.failing ++ [(observer, id)] }
  | .handleFail observer id =>
      if (observer, id) ∈ cluster.failing then
        some
          ({ cluster.setFileMap observer
              ((cluster.fileMap observer).set id []) with
              failing := cluster.failing.erase (observer, id)
            }.reReplicate observer)
      else none
  | .start master =>
      some
        { cluster with
          rebuilds := cluster.rebuilds ++ [⟨master, cluster.members, none⟩] }
  | .list index =>
      match cluster.rebuilds[index]? with
      | some ⟨master, member :: remaining, none⟩ =>
          some
            { cluster with
              rebuilds := cluster.rebuilds.set index
                ⟨master, member :: remaining,
                  some (cluster.files.store member).localFiles⟩ }
      | _ => none
  | .updateFileMap index =>
      match cluster.rebuilds[index]? with
      | some ⟨master, member :: remaining, some infos⟩ =>
          some
            { cluster.setFileMap master
                ((cluster.fileMap master).processListReply member infos) with
              rebuilds := cluster.rebuilds.set index
                ⟨master, remaining, none⟩ }
      | _ => none
  | .endStart index =>
      match cluster.rebuilds[index]? with
      | some ⟨master, [], none⟩ =>
          some
            ({ cluster with
              rebuilds := cluster.rebuilds.eraseIdx index
              }.reReplicate master)
      | _ => none
  | .put master putter filename content =>
      if (cluster.fileMap master).countReplicates filename = 0 then
        some
          (cluster.approvePut master putter
            (FileInfo.new filename (shell.md5 content) content.length) content)
      else some cluster
  | .addToFileMap index =>
      match cluster.handlers[index]? with
      | some (.registering master putter info) =>
          some
            { cluster.setFileMap master
                ((cluster.fileMap master).addToFileMap putter info) with
              handlers := cluster.handlers.eraseIdx index
              calls := cluster.calls ++ [(master, info.name)] }
      | _ => none
  | .receiveApproval index =>
      match cluster.files.approvals[index]? with
      | some approval =>
          some
            { cluster with
              files := cluster.files.copyApproved shell index approval }
      | none => none
  | .loseApproval index =>
      some { cluster with files := cluster.files.loseApproval index }
  | .replicate master filename draws =>
      if (master, filename) ∈ cluster.calls then
        match replicateFile (cluster.fileMap master) cluster.members filename
            draws with
        | some outcome =>
            some
              { cluster with
                calls := cluster.calls.erase (master, filename)
                commands := cluster.commands ++
                  (outcome.map fun command => (filename, command)).toList }
        | none => none
      else none
  | .sendFileRequest index target port =>
      match cluster.commands[index]? with
      | some (filename, ⟨source, targets⟩) =>
          if target ∈ targets then
            some
              { cluster with
                files := cluster.ask shell filename source target port
                commands := cluster.commands.set index
                  (filename, ⟨source, targets.erase target⟩) }
          else none
      | none => none
  | .dropCommand index =>
      some { cluster with commands := cluster.commands.eraseIdx index }
  | .finishFetch index leader =>
      match cluster.files.fetches[index]? with
      | some fetch =>
          some
            { cluster with
              files := cluster.files.finishFetch shell index fetch
              updates := cluster.updates ++
                (leader.map (report fetch)).toList }
      | none => none
  | .update index =>
      match cluster.updates[index]? with
      | some ⟨master, node, info⟩ =>
          some
            { cluster.setFileMap master
                ((cluster.fileMap master).addToFileMap node info) with
              updates := cluster.updates.eraseIdx index }
      | none => none
  | .loseUpdate index =>
      some { cluster with updates := cluster.updates.eraseIdx index }
  | .delete master filename =>
      if (cluster.fileMap master).countReplicates filename = 0 then
        some
          { cluster with
            deleted := cluster.deleted ++ [(master, filename)] }
      else some (cluster.startDelete master filename)
  | .deleteNext index =>
      match cluster.handlers[index]? with
      | some (.deleting master filename (target :: targets)) =>
          some (cluster.deleteAt index master filename target targets)
      | some (.deleting _ _ []) =>
          some { cluster with handlers := cluster.handlers.eraseIdx index }
      | _ => none

end Cluster

/-- The cluster, from its start. -/
def clusterSystem (shell : Shell) (name : Id → String) :
    TransitionSystem (Cluster Id) (ClusterAction Id) where
  initial := Cluster.initial name
  step := fun cluster => cluster.step shell

/-! ## The outcomes of a step -/

namespace Cluster

/-- Every outcome of a step, with what selects it. -/
inductive Transition (shell : Shell) (cluster : Cluster Id) :
    ClusterAction Id → Cluster Id → Prop
  | join {id : Id} (isNew : id ∉ cluster.members) :
      Transition shell cluster (.join id)
        { cluster with
          members := cluster.members.orderedInsert (· ≤ ·) id }
  | leave {id : Id} (isMember : id ∈ cluster.members) :
      Transition shell cluster (.leave id)
        { cluster with members := cluster.members.erase id }
  | restart {id : Id} (isAway : id ∉ cluster.members) :
      Transition shell cluster (.restart id) (cluster.restart id)
  | nodeFail {observer id : Id} :
      Transition shell cluster (.nodeFail observer id)
        { cluster with failing := cluster.failing ++ [(observer, id)] }
  | handleFail {observer id : Id}
      (isFailing : (observer, id) ∈ cluster.failing) :
      Transition shell cluster (.handleFail observer id)
        ({ cluster.setFileMap observer
            ((cluster.fileMap observer).set id []) with
            failing := cluster.failing.erase (observer, id)
          }.reReplicate observer)
  | start {master : Id} :
      Transition shell cluster (.start master)
        { cluster with
          rebuilds := cluster.rebuilds ++ [⟨master, cluster.members, none⟩] }
  | list {index : Nat} {master member : Id} {remaining : List Id}
      (found : cluster.rebuilds[index]? =
        some ⟨master, member :: remaining, none⟩) :
      Transition shell cluster (.list index)
        { cluster with
          rebuilds := cluster.rebuilds.set index
            ⟨master, member :: remaining,
              some (cluster.files.store member).localFiles⟩ }
  | updateFileMap {index : Nat} {master member : Id} {remaining : List Id}
      {infos : List FileInfo}
      (found : cluster.rebuilds[index]? =
        some ⟨master, member :: remaining, some infos⟩) :
      Transition shell cluster (.updateFileMap index)
        { cluster.setFileMap master
            ((cluster.fileMap master).processListReply member infos) with
          rebuilds := cluster.rebuilds.set index ⟨master, remaining, none⟩ }
  | endStart {index : Nat} {master : Id}
      (found : cluster.rebuilds[index]? = some ⟨master, [], none⟩) :
      Transition shell cluster (.endStart index)
        ({ cluster with
          rebuilds := cluster.rebuilds.eraseIdx index }.reReplicate master)
  | approvePut {master putter : Id} {filename : String} {content : Bytes}
      (unknown : (cluster.fileMap master).countReplicates filename = 0) :
      Transition shell cluster (.put master putter filename content)
        (cluster.approvePut master putter
          (FileInfo.new filename (shell.md5 content) content.length) content)
  | refusePut {master putter : Id} {filename : String} {content : Bytes}
      (known : (cluster.fileMap master).countReplicates filename ≠ 0) :
      Transition shell cluster (.put master putter filename content) cluster
  | addToFileMap {index : Nat} {master putter : Id} {info : FileInfo}
      (found : cluster.handlers[index]? =
        some (.registering master putter info)) :
      Transition shell cluster (.addToFileMap index)
        { cluster.setFileMap master
            ((cluster.fileMap master).addToFileMap putter info) with
          handlers := cluster.handlers.eraseIdx index
          calls := cluster.calls ++ [(master, info.name)] }
  | receiveApproval {index : Nat} {approval : Approval Id}
      (found : cluster.files.approvals[index]? = some approval) :
      Transition shell cluster (.receiveApproval index)
        { cluster with
          files := cluster.files.copyApproved shell index approval }
  | loseApproval {index : Nat} :
      Transition shell cluster (.loseApproval index)
        { cluster with files := cluster.files.loseApproval index }
  | replicate {master : Id} {filename : String} {draws : List Nat}
      {outcome : Option (Replication Id)}
      (isCall : (master, filename) ∈ cluster.calls)
      (called : replicateFile (cluster.fileMap master) cluster.members
        filename draws = some outcome) :
      Transition shell cluster (.replicate master filename draws)
        { cluster with
          calls := cluster.calls.erase (master, filename)
          commands := cluster.commands ++
            (outcome.map fun command => (filename, command)).toList }
  | sendFileRequest {index : Nat} {target source : Id} {port : Int}
      {filename : String} {targets : Finset Id}
      (found : cluster.commands[index]? =
        some (filename, ⟨source, targets⟩))
      (isTarget : target ∈ targets) :
      Transition shell cluster (.sendFileRequest index target port)
        { cluster with
          files := cluster.ask shell filename source target port
          commands := cluster.commands.set index
            (filename, ⟨source, targets.erase target⟩) }
  | dropCommand {index : Nat} :
      Transition shell cluster (.dropCommand index)
        { cluster with commands := cluster.commands.eraseIdx index }
  | finishFetch {index : Nat} {leader : Option Id} {fetch : GroupFetch Id}
      (found : cluster.files.fetches[index]? = some fetch) :
      Transition shell cluster (.finishFetch index leader)
        { cluster with
          files := cluster.files.finishFetch shell index fetch
          updates := cluster.updates ++ (leader.map (report fetch)).toList }
  | update {index : Nat} {master node : Id} {info : FileInfo}
      (found : cluster.updates[index]? = some ⟨master, node, info⟩) :
      Transition shell cluster (.update index)
        { cluster.setFileMap master
            ((cluster.fileMap master).addToFileMap node info) with
          updates := cluster.updates.eraseIdx index }
  | loseUpdate {index : Nat} :
      Transition shell cluster (.loseUpdate index)
        { cluster with updates := cluster.updates.eraseIdx index }
  | deleteUnknown {master : Id} {filename : String}
      (unknown : (cluster.fileMap master).countReplicates filename = 0) :
      Transition shell cluster (.delete master filename)
        { cluster with deleted := cluster.deleted ++ [(master, filename)] }
  | startDelete {master : Id} {filename : String}
      (known : (cluster.fileMap master).countReplicates filename ≠ 0) :
      Transition shell cluster (.delete master filename)
        (cluster.startDelete master filename)
  | deleteAt {index : Nat} {master target : Id} {filename : String}
      {targets : List Id}
      (found : cluster.handlers[index]? =
        some (.deleting master filename (target :: targets))) :
      Transition shell cluster (.deleteNext index)
        (cluster.deleteAt index master filename target targets)
  | endDelete {index : Nat} {master : Id} {filename : String}
      (found : cluster.handlers[index]? =
        some (.deleting master filename [])) :
      Transition shell cluster (.deleteNext index)
        { cluster with handlers := cluster.handlers.eraseIdx index }

/-- A step is one of the listed transitions. -/
theorem transition_of_step
    {shell : Shell} {cluster next : Cluster Id}
    {action : ClusterAction Id}
    (stepped : cluster.step shell action = some next) :
    Transition shell cluster action next := by
  cases action with
  | join id =>
      simp only [step, Option.ite_none_left_eq_some, Option.some.injEq]
        at stepped
      obtain ⟨isNew, rfl⟩ := stepped
      exact .join isNew
  | leave id =>
      simp only [step, Option.ite_none_right_eq_some, Option.some.injEq]
        at stepped
      obtain ⟨isMember, rfl⟩ := stepped
      exact .leave isMember
  | restart id =>
      simp only [step, Option.ite_none_left_eq_some, Option.some.injEq]
        at stepped
      obtain ⟨isAway, rfl⟩ := stepped
      exact .restart isAway
  | nodeFail observer id => exact Option.some.inj stepped ▸ .nodeFail
  | handleFail observer id =>
      simp only [step, Option.ite_none_right_eq_some, Option.some.injEq]
        at stepped
      obtain ⟨isFailing, rfl⟩ := stepped
      exact .handleFail isFailing
  | start master => exact Option.some.inj stepped ▸ .start
  | list index =>
      simp only [step] at stepped
      split at stepped
      · next master member remaining found =>
          exact Option.some.inj stepped ▸ .list found
      · cases stepped
  | updateFileMap index =>
      simp only [step] at stepped
      split at stepped
      · next master member remaining infos found =>
          exact Option.some.inj stepped ▸ .updateFileMap found
      · cases stepped
  | endStart index =>
      simp only [step] at stepped
      split at stepped
      · next master found => exact Option.some.inj stepped ▸ .endStart found
      · cases stepped
  | put master putter filename content =>
      simp only [step] at stepped
      split at stepped
      · next unknown => exact Option.some.inj stepped ▸ .approvePut unknown
      · next known => exact Option.some.inj stepped ▸ .refusePut known
  | addToFileMap index =>
      simp only [step] at stepped
      split at stepped
      · next master putter info found =>
          exact Option.some.inj stepped ▸ .addToFileMap found
      · cases stepped
  | receiveApproval index =>
      simp only [step] at stepped
      split at stepped
      · next approval found =>
          exact Option.some.inj stepped ▸ .receiveApproval found
      · cases stepped
  | loseApproval index => exact Option.some.inj stepped ▸ .loseApproval
  | replicate master filename draws =>
      simp only [step, Option.ite_none_right_eq_some] at stepped
      obtain ⟨isCall, stepped⟩ := stepped
      split at stepped
      · next outcome called =>
          exact Option.some.inj stepped ▸ .replicate isCall called
      · cases stepped
  | sendFileRequest index target port =>
      simp only [step] at stepped
      split at stepped
      · next filename source targets found =>
          simp only [Option.ite_none_right_eq_some, Option.some.injEq]
            at stepped
          obtain ⟨isTarget, rfl⟩ := stepped
          exact .sendFileRequest found isTarget
      · cases stepped
  | dropCommand index => exact Option.some.inj stepped ▸ .dropCommand
  | finishFetch index leader =>
      simp only [step] at stepped
      split at stepped
      · next fetch found => exact Option.some.inj stepped ▸ .finishFetch found
      · cases stepped
  | update index =>
      simp only [step] at stepped
      split at stepped
      · next master node info found =>
          exact Option.some.inj stepped ▸ .update found
      · cases stepped
  | loseUpdate index => exact Option.some.inj stepped ▸ .loseUpdate
  | delete master filename =>
      simp only [step] at stepped
      split at stepped
      · next unknown => exact Option.some.inj stepped ▸ .deleteUnknown unknown
      · next known => exact Option.some.inj stepped ▸ .startDelete known
  | deleteNext index =>
      simp only [step] at stepped
      split at stepped
      · next master filename target targets found =>
          exact Option.some.inj stepped ▸ .deleteAt found
      · next master filename found =>
          exact Option.some.inj stepped ▸ .endDelete found
      · cases stepped

/-- Begin with a step of the cluster. -/
theorem reaches_head
    {shell : Shell} {name : Id → String} {cluster middle finish : Cluster Id}
    {action : ClusterAction Id}
    (stepped : cluster.step shell action = some middle)
    (rest : (clusterSystem shell name).Reaches middle finish) :
    (clusterSystem shell name).Reaches cluster finish :=
  .head (show (clusterSystem shell name).step cluster action = some middle
    from stepped) rest

/-- One step is a run. -/
theorem reaches_once
    {shell : Shell} {name : Id → String} {cluster next : Cluster Id}
    {action : ClusterAction Id}
    (stepped : cluster.step shell action = some next) :
    (clusterSystem shell name).Reaches cluster next :=
  reaches_head stepped (.refl _)

end Cluster

/-! ## What a step does to the files -/

/-- The ways in which the files change. -/
inductive FileChange (shell : Shell) (files : Files Id) :
    Files Id → Prop
  | none : FileChange shell files files
  | approve (approval : Approval Id) :
      FileChange shell files (files.approve approval)
  | loseApproval (index : Nat) :
      FileChange shell files (files.loseApproval index)
  | copyApproved (index : Nat) (approval : Approval Id) :
      FileChange shell files (files.copyApproved shell index approval)
  | ask (fetch : GroupFetch Id) (keeps : fetch.client.filepath = "") :
      FileChange shell files (files.ask fetch)
  | finishFetch (index : Nat) (fetch : GroupFetch Id)
      (underway : fetch ∈ files.fetches) :
      FileChange shell files (files.finishFetch shell index fetch)
  | delete (id : Id) (filename : String) :
      FileChange shell files (files.delete id filename)
  | restart (id : Id) : FileChange shell files (files.restart id)

namespace Cluster

variable {shell : Shell} {cluster next : Cluster Id}
variable {action : ClusterAction Id}

theorem fileMap_setFileMap
    {id other : Id} {fileMap : FileMap Id} :
    (cluster.setFileMap id fileMap).fileMap other =
      if other = id then fileMap else cluster.fileMap other := by
  simp [setFileMap, Function.update_apply]

/-- Nothing is fetched, or one fetch of the file is started at the target. -/
theorem ask_cases
    (cluster : Cluster Id) (shell : Shell)
    (filename : String) (source target : Id) (port : Int) :
    cluster.ask shell filename source target port = cluster.files ∨
      ∃ fetch : GroupFetch Id, fetch.target = target ∧
        fetch.client.filename = filename ∧ fetch.client.filepath = "" ∧
          cluster.ask shell filename source target port =
            cluster.files.ask fetch := by
  unfold ask
  split
  · next client started =>
      obtain ⟨_, named, keeps, _⟩ := processSendRequest_eq_some started
      exact .inr ⟨_, rfl, named, keeps, rfl⟩
  · exact .inl rfl

theorem fileChange_of_step
    (stepped : cluster.step shell action = some next) :
    FileChange shell cluster.files next.files := by
  cases transition_of_step stepped with
  | @restart id => exact .restart id
  | approvePut => exact .approve _
  | receiveApproval => exact .copyApproved _ _
  | @loseApproval index => exact .loseApproval index
  | @sendFileRequest index target source port filename targets =>
      rcases cluster.ask_cases shell filename source target port with
        same | ⟨fetch, _, _, keeps, asked⟩
      · exact same ▸ .none
      · exact asked ▸ .ask fetch keeps
  | finishFetch found => exact .finishFetch _ _ (List.mem_of_getElem? found)
  | deleteAt => exact .delete _ _
  | _ => exact .none

end Cluster

/-- A node that starts again has no files. -/
theorem Files.registers_restart
    {files : Files Id} {id other : Id} {filename : String} :
    ((files.restart id).store other).Registers filename ↔
      other ≠ id ∧ (files.store other).Registers filename := by
  change ((files.setStore id _).store other).Registers filename ↔ _
  rw [store_setStore]
  by_cases same : other = id
  · simp [same, DFile.registers_cleanLocalFileDir]
  · simp [same]

/-- Every store is tidy, and no file is fetched to be moved. -/
structure Files.Kept (files : Files Id) : Prop where
  tidy : ∀ id, (files.store id).Tidy
  keeps : ∀ fetch ∈ files.fetches, fetch.client.filepath = ""

namespace Files.Kept

variable {shell : Shell} {files next : Files Id}

/-- A node without files is tidy. -/
theorem tidy_emptyNode (id : String) : (emptyNode id).Tidy where
  distinct := List.nodup_nil
  registered := fun _ present => absurd rfl present

/-- One store is replaced by a tidy one. -/
theorem setStore
    (kept : files.Kept) {id : Id} {store : DFile} (tidy : store.Tidy)
    (other : Id) : ((files.setStore id store).store other).Tidy := by
  rw [store_setStore]
  split
  · exact tidy
  · exact kept.tidy other

theorem change
    (kept : files.Kept) (change : FileChange shell files next) :
    next.Kept := by
  cases change with
  | none => exact kept
  | approve approval | loseApproval index =>
      exact { tidy := kept.tidy, keeps := kept.keeps }
  | copyApproved index approval =>
      exact
        { tidy := kept.setStore (kept.tidy _).copyBufferedFile
          keeps := kept.keeps }
  | ask fetch keeps =>
      refine { tidy := kept.tidy, keeps := ?_ }
      intro other underway
      rcases List.mem_append.mp underway with old | new
      · exact kept.keeps other old
      · exact List.mem_singleton.mp new ▸ keeps
  | finishFetch index fetch underway =>
      exact
        { tidy := kept.setStore
            ((kept.tidy _).fetchAll (kept.keeps fetch underway))
          keeps := fun other remains =>
            kept.keeps other (List.mem_of_mem_eraseIdx remains) }
  | delete id filename =>
      exact
        { tidy := kept.setStore (kept.tidy _).deleteLocalFile
          keeps := kept.keeps }
  | restart id =>
      exact
        { tidy := kept.setStore (.cleanLocalFileDir _)
          keeps := fun other remains =>
            kept.keeps other (List.mem_filter.mp remains).1 }

/-- The deleted file is gone from the target. -/
theorem registers_delete
    (kept : files.Kept) {id target : Id} {filename deleted : String} :
    ((files.delete target deleted).store id).Registers filename ↔
      (files.store id).Registers filename ∧
        ¬ (id = target ∧ filename = deleted) := by
  rw [Files.delete, store_setStore]
  by_cases same : id = target
  · subst same
    rw [if_pos rfl, DFile.registers_deleteLocalFile (kept.tidy _).distinct]
    simp
  · simp [same]

theorem initial (name : Id → String) : (Cluster.initial name).files.Kept where
  tidy := fun _ => tidy_emptyNode _
  keeps := nofun

end Files.Kept

end Master
end CraneSps
