import CraneSps.Master.Files

/-!
# Orderly leader changes

A master approves a `PUT` if its map has no holder of the file.  It can rely
on its map only while every node follows it and its rebuild is over, and only
if nothing that is still under way adds a holder behind the back of a `DEL` or
of a reply to `LIST`.
-/

namespace CraneSps
namespace Master

open FileTransfer

variable {Id : Type}

/-- The handler carries out a `DEL` of the file. -/
def Handler.Deletes (filename : String) : Handler Id → Prop
  | .registering _ _ _ => False
  | .deleting _ name _ => name = filename

instance (filename : String) (handler : Handler Id) :
    Decidable (handler.Deletes filename) := by
  rcases handler <;> unfold Handler.Deletes <;> infer_instance

theorem Handler.filename_of_deletes
    {filename : String} {handler : Handler Id}
    (deletes : handler.Deletes filename) :
    handler.filename = filename := by
  cases handler with
  | registering master putter info => exact deletes.elim
  | deleting master name targets => exact deletes

variable [DecidableEq Id]

namespace Group

/-- Every live node follows the master. -/
def Follows (live : List Id) (group : Group Id) (master : Id) : Prop :=
  ∀ id ∈ live, group.leader id = some master

instance (live : List Id) (group : Group Id) (master : Id) :
    Decidable (Follows live group master) := by
  unfold Follows
  infer_instance

/-- The steps that keep the names exclusive. -/
def Orderly (live : List Id) (group : Group Id) : GroupAction Id → Prop
  -- a node outside the list has no file, not even an approved one
  | .leaderElected id leader members =>
      leader = id → ∀ member ∈ live, member ∉ members →
        (group.store member).localFiles = [] ∧
          ∀ approval ∈ group.approvals, approval.putter ≠ member
  -- the reply is not out of date
  | .updateFileMap index =>
      ∀ rebuild ∈ group.rebuilds[index]?, ∀ infos ∈ rebuild.reply,
        ∀ member ∈ rebuild.remaining.head?,
          (∀ info ∈ (group.store member).localFiles,
            listsFile infos info.name = true) ∧
          ∀ approval ∈ group.approvals, approval.putter ≠ member
  -- all follow a master that has finished its rebuild
  | .put master _ filename content =>
      (group.fileMap master).countReplicates filename = 0 →
        Follows live group master ∧
        (∀ rebuild ∈ group.rebuilds,
          rebuild.master = master → rebuild.remaining = []) ∧
        (∀ handler ∈ group.handlers, handler.filename ≠ filename) ∧
        content ≠ [] ∧
        List.chunkCount 256000 content.length < 2 ^ 31
  | .loseApproval _ => False
  -- the copy is complete, and no other one is on its way to the target
  | .sendFileRequest source target filename _ =>
      (group.store source).Registers filename ∧
      (∀ fetch ∈ group.fetches,
        fetch.target = target → fetch.client.filename ≠ filename) ∧
      (∀ approval ∈ group.approvals,
        approval.putter = target → approval.filename ≠ filename) ∧
      ∀ handler ∈ group.handlers, ¬ handler.Deletes filename
  -- all follow the master, which knows every copy there is going to be
  | .delete master filename _ =>
      (group.fileMap master).countReplicates filename ≠ 0 →
        Follows live group master ∧
        (∀ id ∈ live, (group.store id).Registers filename →
          (group.fileMap master).hasFile id filename = true) ∧
        (∀ fetch ∈ group.fetches, fetch.client.filename ≠ filename) ∧
        ∀ approval ∈ group.approvals, approval.filename ≠ filename
  | _ => True

instance (live : List Id) (group : Group Id) (action : GroupAction Id) :
    Decidable (Orderly live group action) := by
  rcases action <;> unfold Orderly <;> infer_instance

/-- A `PUT` of the file that the master handled now would be approved. -/
def Approves (group : Group Id) (master : Id) (filename : String) : Prop :=
  0 < group.serving master ∧
    (group.fileMap master).countReplicates filename = 0

/-- No live node stores the file, and no approved `PUT` of it stands. -/
structure Unused
    (live : List Id) (group : Group Id) (filename : String) : Prop where
  nowhere : ∀ id ∈ live, (group.store id).stored filename = none ∧
    ¬ (group.store id).Registers filename
  withdrawn : filename ∉ group.standing

/-- No two nodes store different contents under one name. -/
def OneContent (live : List Id) (group : Group Id) : Prop :=
  ∀ filename, ∀ id ∈ live, ∀ other ∈ live,
    ∀ content ∈ (group.store id).stored filename,
      ∀ another ∈ (group.store other).stored filename, content = another

end Group

end Master
end CraneSps
