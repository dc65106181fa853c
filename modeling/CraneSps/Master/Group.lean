import CraneSps.FileTransfer.LocalStore
import CraneSps.Foundation.TransitionSystem
import CraneSps.Master.FileMap

/-!
# Masters and their group

Every node has a file service, an opinion about the leader and the state of a
master, which outlives its time as the leader.  No node fails.  A master that
is elected starts to serve at once and asks one member after the other for its
files.  Requests, which any node may have sent at any earlier time, are
arguments of the steps that handle them, and so are the membership lists that
are read; replies, commands and fetches that are under way belong to the state.
-/

namespace CraneSps
namespace Master

open FileTransfer

variable {Id : Type} [DecidableEq Id]

/-- A service thread that has replied and is not done with the request. -/
inductive Handler (Id : Type)
  /-- An approved `PUT` that is not in the map yet. -/
  | registering (master putter : Id) (info : FileInfo)
  /-- `deleteFile`, with the targets it still has to ask. -/
  | deleting (master : Id) (filename : String) (targets : List Id)
  deriving DecidableEq

/-- The file of the request. -/
def Handler.filename : Handler Id → String
  | .registering _ _ info => info.name
  | .deleting _ filename _ => filename

/-- The loop of `start`. -/
structure Rebuild (Id : Type) where
  master : Id
  /-- The members whose files are not in the map yet. -/
  remaining : List Id
  /-- The reply of the first of them. -/
  reply : Option (List FileInfo)
  deriving DecidableEq

/-- The approval of a `PUT` on its way to the putting node. -/
structure Approval (Id : Type) where
  putter : Id
  filename : String
  content : Bytes
  deriving DecidableEq

/-- A fetch that a target has approved, with the bytes it is going to get. -/
structure GroupFetch (Id : Type) where
  target : Id
  client : FetchClient
  content : Bytes
  deriving DecidableEq

/-- The state of the group. -/
structure Group (Id : Type) [DecidableEq Id] where
  /-- The file service of each node. -/
  store : Id → DFile
  /-- `Candidate::leader()` at each node. -/
  leader : Id → Option Id
  /-- The map of each node's master. -/
  fileMap : Id → FileMap Id
  /-- The threads of each node in `masterServiceThread` that wait for a
  request. -/
  serving : Id → Nat
  handlers : List (Handler Id)
  rebuilds : List (Rebuild Id)
  approvals : List (Approval Id)
  fetches : List (GroupFetch Id)
  /-- The names of the approved `PUT`s without a `DEL`: no part of the code,
  only of what is said about it. -/
  standing : List String

/-- What can happen in the group. -/
inductive GroupAction (Id : Type)
  /-- A `LeaderElectedEvent` at a node, with the membership list that `start`
  reads if the node itself is elected. -/
  | leaderElected (node leader : Id) (members : List Id)
  /-- The next member of a rebuild replies to its `LIST` command. -/
  | list (index : Nat)
  /-- The reply is processed. -/
  | updateFileMap (index : Nat)
  /-- A `PUT` request is handled, up to the reply. -/
  | put (master putter : Id) (filename : String) (content : Bytes)
  /-- The rest of an approved `PUT`. -/
  | addToFileMap (index : Nat)
  | receiveApproval (index : Nat)
  /-- The putting node has stopped waiting. -/
  | loseApproval (index : Nat)
  /-- A node that has got a `REPLICATE` command asks a target. -/
  | sendFileRequest (source target : Id) (filename : String) (port : Int)
  | finishFetch (index : Nat)
  /-- An `UPDATE` request is handled. -/
  | update (master node : Id) (info : FileInfo)
  /-- A `DEL` request is handled, up to the reply, with the membership list
  that `deleteFile` reads. -/
  | delete (master : Id) (filename : String) (members : List Id)
  /-- The next target of a `deleteFile`, or its end. -/
  | deleteNext (index : Nat)
  deriving DecidableEq

namespace Group

/-- Every node has cleaned its directory and knows no leader. -/
def initial (name : Id → String) : Group Id where
  store := fun id => emptyNode (name id)
  leader := fun _ => none
  fileMap := fun _ => .empty
  serving := fun _ => 0
  handlers := []
  rebuilds := []
  approvals := []
  fetches := []
  standing := []

variable (group : Group Id)

/-- Replace the file service of a node. -/
def setStore (id : Id) (store : DFile) : Group Id :=
  { group with store := Function.update group.store id store }

/-- Replace the map of a master. -/
def setFileMap (id : Id) (fileMap : FileMap Id) : Group Id :=
  { group with fileMap := Function.update group.fileMap id fileMap }

/-- Change the number of waiting service threads of a node. -/
def setServing (id : Id) (serving : Nat) : Group Id :=
  { group with serving := Function.update group.serving id serving }

/-- A service thread takes a request. -/
def takeThread (id : Id) : Group Id :=
  group.setServing id (group.serving id - 1)

/-- A service thread is done: its loop goes on as long as the node is the
leader. -/
def returnThread (id : Id) : Group Id :=
  if group.leader id = some id then
    group.setServing id (group.serving id + 1)
  else group

/-- `handle(LeaderElectedEvent)` and the beginning of `start`. -/
def leaderElected (id leader : Id) (members : List Id) : Group Id :=
  let installed :=
    { group with leader := Function.update group.leader id (some leader) }
  if leader = id then
    { installed.setServing id (group.serving id + 1) with
      rebuilds := group.rebuilds ++ [⟨id, members, none⟩] }
  else installed

/-- The approval of a `PUT`: the reply is sent, and the rest is left to do. -/
def approvePut
    (master putter : Id) (info : FileInfo) (content : Bytes) : Group Id :=
  { group with
    handlers := group.handlers ++ [.registering master putter info]
    approvals := group.approvals ++ [⟨putter, info.name, content⟩]
    standing := group.standing ++ [info.name] }

/-- The beginning of `deleteFile`, after the reply. -/
def startDelete
    (master : Id) (filename : String) (members : List Id) : Group Id :=
  { group with
    handlers := group.handlers ++
      [.deleting master filename
        (members.filter fun id =>
          (group.fileMap master).hasFile id filename)]
    standing := group.standing.filter fun name => name != filename }

/-- The `DELETE` command to a target, and what `deleteFile` does after it. -/
def deleteAt
    (index : Nat) (master : Id) (filename : String) (target : Id)
    (targets : List Id) : Group Id :=
  let deleted := group.setStore target
    ((group.store target).deleteLocalFile filename)
  { deleted.setFileMap master
      ((group.fileMap master).deleteFromFileMap target filename) with
    handlers := group.handlers.set index
      (.deleting master filename targets) }

/-- One step among the live nodes. -/
def step
    (shell : Shell) (live : List Id) :
    GroupAction Id → Option (Group Id)
  | .leaderElected id leader members =>
      if id ∈ live then some (group.leaderElected id leader members)
      else none
  | .list index =>
      match group.rebuilds[index]? with
      | some ⟨master, member :: remaining, none⟩ =>
          -- a command that does not come from the leader gets no reply
          if group.leader member = some master then
            some
              { group with
                rebuilds := group.rebuilds.set index
                  ⟨master, member :: remaining,
                    some (group.store member).localFiles⟩ }
          else none
      | _ => none
  | .updateFileMap index =>
      match group.rebuilds[index]? with
      | some ⟨master, member :: remaining, some infos⟩ =>
          some
            { group.setFileMap master
                ((group.fileMap master).processListReply member infos) with
              rebuilds := group.rebuilds.set index
                ⟨master, remaining, none⟩ }
      | _ => none
  | .put master putter filename content =>
      if (master ∈ live ∧ putter ∈ live) ∧ 0 < group.serving master then
        if (group.fileMap master).countReplicates filename = 0 then
          some
            ((group.takeThread master).approvePut master putter
              (FileInfo.new filename (shell.md5 content) content.length) content)
        else some ((group.takeThread master).returnThread master)
      else none
  | .addToFileMap index =>
      match group.handlers[index]? with
      | some (.registering master putter info) =>
          some
            ({ group.setFileMap master
                ((group.fileMap master).addToFileMap putter info) with
                handlers := group.handlers.eraseIdx index
              }.returnThread master)
      | _ => none
  | .receiveApproval index =>
      match group.approvals[index]? with
      | some ⟨putter, filename, content⟩ =>
          some
            { group.setStore putter
                ((group.store putter).copyBufferedFile shell filename
                  content) with
              approvals := group.approvals.eraseIdx index }
      | none => none
  | .loseApproval index =>
      if index < group.approvals.length then
        some { group with approvals := group.approvals.eraseIdx index }
      else none
  | .sendFileRequest source target filename port =>
      if target ∈ live then
        match (group.store target).processSendRequest
            ((group.store source).sendRequest shell filename port) with
        | some client =>
            some
              { group with
                fetches := group.fetches ++
                  [⟨target, client, client.fetched
                    ((group.store source).stored filename)⟩] }
        | none => some group
      else none
  | .finishFetch index =>
      match group.fetches[index]? with
      | some ⟨target, client, content⟩ =>
          some
            { group.setStore target
                (client.fetchAll shell (group.store target)
                  content) with
              fetches := group.fetches.eraseIdx index }
      | none => none
  | .update master id info =>
      if 0 < group.serving master then
        some
          (((group.takeThread master).setFileMap master
              ((group.fileMap master).addToFileMap id info)).returnThread
            master)
      else none
  | .delete master filename members =>
      if 0 < group.serving master then
        if (group.fileMap master).countReplicates filename = 0 then
          some ((group.takeThread master).returnThread master)
        else
          some ((group.takeThread master).startDelete master filename members)
      else none
  | .deleteNext index =>
      match group.handlers[index]? with
      | some (.deleting master filename (target :: targets)) =>
          if group.leader target = some master then
            some (group.deleteAt index master filename target targets)
          else none
      | some (.deleting master _ []) =>
          some
            ({ group with
              handlers := group.handlers.eraseIdx index
              }.returnThread master)
      | _ => none

end Group

/-- The group of the live nodes. -/
def groupSystem
    (shell : Shell) (live : List Id) (name : Id → String) :
    TransitionSystem (Group Id) (GroupAction Id) where
  initial := Group.initial name
  step := fun group => group.step shell live

end Master
end CraneSps
