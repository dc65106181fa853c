import CraneSps.FileTransfer.ServiceSocket
import CraneSps.Master.FileMap

/-!
# The `LIST` command

A member answers `LIST` by adding its files one by one to the list of the
reply.  This list is an optional submessage that exists once a file has been
added, so a member without files sends a reply without a list, and the master
ignores such a reply.
-/

namespace CraneSps
namespace Master

open FileTransfer

/-- The command that `sendListCommand` sends. -/
def listCommand (id : String) : CommandRequest where
  senderip := id
  type := .list
  msg := none

/-- `mutable_listreply()->add_fileinfo()` with the fields set. -/
def addFileInfo (reply : CommandReply) (info : FileInfo) : CommandReply :=
  { reply with listReply := some (reply.listReply.getD [] ++ [info]) }

/-- The reply that is built for `LIST`. -/
def listReply (node : DFile) : CommandReply :=
  node.localFiles.foldl addFileInfo { type := .list, senderip := node.id }

/-- `process(CommandReply)`. -/
def processCommandReply (fileMap : FileMap String) (reply : CommandReply) :
    FileMap String :=
  match reply.type with
  | .replicate => fileMap
  | .delete => fileMap
  | .list =>
      match reply.listReply with
      | some infos =>
          fileMap.updateFileMap reply.senderip
            (infos.map fun info =>
              FileInfo.new info.name info.md5 info.size)
      | none => fileMap

theorem foldl_addFileInfo (infos : List FileInfo) (reply : CommandReply) :
    infos.foldl addFileInfo reply =
      if infos = [] then reply
      else { reply with
        listReply := some (reply.listReply.getD [] ++ infos) } := by
  induction infos generalizing reply with
  | nil => rfl
  | cons info infos inductionHypothesis =>
      rw [List.foldl_cons, inductionHypothesis]
      by_cases last : infos = []
      · simp [last, addFileInfo]
      · simp [last, addFileInfo]

/-- The list of the reply is there when the member has files. -/
theorem listReply_eq (node : DFile) :
    listReply node =
      { type := .list
        senderip := node.id
        listReply :=
          if node.localFiles = [] then none else some node.localFiles } := by
  rw [listReply, foldl_addFileInfo]
  split <;> rfl

/-- A member answers the `LIST` of its leader with this reply. -/
theorem answerCommandRequest_listCommand
    (shell : Shell) (connects : String → Int → Bool) (node : DFile)
    (leader : String) (exchange : Nat → Exchange) :
    node.answerCommandRequest shell connects leader exchange
        (listCommand leader) =
      some { node := node, replies := [.commandRep (listReply node)] } := by
  rw [listReply_eq, DFile.answerCommandRequest, if_neg (by simp [listCommand])]
  rfl

/-- The sizes of a list are of type `int`. -/
def IntSizes (infos : List FileInfo) : Prop :=
  ∀ info ∈ infos, toInt info.size = info.size

instance (infos : List FileInfo) : Decidable (IntSizes infos) :=
  inferInstanceAs (Decidable (∀ info ∈ infos, _))

/-- The files arrive as they were listed. -/
theorem map_new_of_intSizes
    {infos : List FileInfo} (sizes : IntSizes infos) :
    infos.map (fun info => FileInfo.new info.name info.md5 info.size) =
      infos := by
  rw [List.map_congr_left (g := id), List.map_id]
  intro info listed
  rw [FileInfo.new, sizes info listed]
  rfl

/-- What the master makes of the reply. -/
theorem processCommandReply_listReply
    {node : DFile} (fileMap : FileMap String)
    (sizes : IntSizes node.localFiles) :
    processCommandReply fileMap (listReply node) =
      fileMap.processListReply node.id node.localFiles := by
  rw [listReply_eq, processCommandReply, FileMap.processListReply]
  by_cases nothing : node.localFiles = []
  · simp only [nothing, if_true]
  · simp only [nothing, if_false, map_new_of_intSizes sizes]

/-- After a `LIST` the master has the list of the member, and the other
entries as before, exactly if the member has files or its entry was empty. -/
theorem updateFileMap_of_listCommand
    (shell : Shell) (connects : String → Int → Bool)
    (fileMap : FileMap String) (node : DFile) (leader : String)
    (exchange : Nat → Exchange) (sizes : IntSizes node.localFiles) :
    ∃ reply, node.answerCommandRequest shell connects leader exchange
          (listCommand leader) =
        some { node := node, replies := [.commandRep reply] } ∧
      (((processCommandReply fileMap reply).files node.id =
            node.localFiles ∧
          ∀ other, other ≠ node.id →
            (processCommandReply fileMap reply).files other =
              fileMap.files other) ↔
        node.localFiles ≠ [] ∨ fileMap.files node.id = []) := by
  refine ⟨listReply node,
    answerCommandRequest_listCommand shell connects node leader exchange, ?_⟩
  rw [processCommandReply_listReply fileMap sizes, FileMap.processListReply]
  by_cases nothing : node.localFiles = []
  · simp [nothing]
  · rw [if_neg nothing]
    refine iff_of_true ⟨?_, ?_⟩ (.inl nothing)
    · exact Function.update_self node.id node.localFiles fileMap.files
    · intro other different
      exact Function.update_of_ne different node.localFiles fileMap.files

/-- A node with one file. -/
def listedNode : DFile :=
  { emptyNode "b" with localFiles := [⟨"f", "5d41", 3⟩] }

theorem updateFileMap_of_listCommand_listed :
    ∃ reply, (processCommandReply FileMap.empty reply).files "b" =
      [⟨"f", "5d41", 3⟩] := by
  obtain ⟨reply, _, exactly⟩ := updateFileMap_of_listCommand
    (.strict fun _ => "") connectsTo FileMap.empty listedNode "a" approved
    (by decide)
  exact ⟨reply, (exactly.mpr (.inr rfl)).1⟩

/-- The node has lost its only file, and its entry stays. -/
theorem updateFileMap_of_listCommand_cleaned :
    listReply (emptyNode "b") = { type := .list, senderip := "b" } ∧
      (processCommandReply (FileMap.empty.set "b" [⟨"f", "5d41", 3⟩])
        (listReply (emptyNode "b"))).files "b" ≠
          (emptyNode "b").localFiles := by
  refine ⟨rfl, ?_⟩
  decide

end Master
end CraneSps
