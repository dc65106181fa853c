import CraneSps.FileTransfer.DFile
import Mathlib.Data.Finset.Card

/-!
# The file map of the master

For every node the master keeps the list of the files it believes the node to
hold.  A node without an entry holds nothing, so the entries that `operator[]`
of the map inserts on a lookup make no difference.
-/

namespace CraneSps
namespace Master

open FileTransfer

variable {Id : Type} [DecidableEq Id]

/-- `DFileMaster::Impl::fileMap`. -/
structure FileMap (Id : Type) [DecidableEq Id] where
  /-- The nodes with an entry. -/
  keys : Finset Id
  files : Id → List FileInfo
  absent : ∀ id, id ∉ keys → files id = []

/-- The list names a file. -/
def listsFile (infos : List FileInfo) (filename : String) : Bool :=
  infos.any fun info => info.name == filename

namespace FileMap

/-- No entries. -/
def empty : FileMap Id where
  keys := ∅
  files := fun _ => []
  absent := fun _ _ => rfl

/-- Replace the entry of a node. -/
def set (fileMap : FileMap Id) (id : Id) (infos : List FileInfo) :
    FileMap Id where
  keys := insert id fileMap.keys
  files := Function.update fileMap.files id infos
  absent := by
    intro other notKey
    rw [Finset.mem_insert, not_or] at notKey
    rw [Function.update_of_ne notKey.1]
    exact fileMap.absent other notKey.2

/-- `hasFile`. -/
def hasFile (fileMap : FileMap Id) (id : Id) (filename : String) : Bool :=
  listsFile (fileMap.files id) filename

/-- The nodes with an entry that names the file. -/
def holders (fileMap : FileMap Id) (filename : String) : Finset Id :=
  fileMap.keys.filter fun id => fileMap.hasFile id filename = true

/-- `countReplicates`: over all entries of the map. -/
def countReplicates (fileMap : FileMap Id) (filename : String) : Nat :=
  (fileMap.holders filename).card

/-- `addToFileMap`. -/
def addToFileMap (fileMap : FileMap Id) (id : Id) (info : FileInfo) :
    FileMap Id :=
  if fileMap.hasFile id info.name then fileMap
  else fileMap.set id (fileMap.files id ++ [info])

/-- `updateFileMap`. -/
def updateFileMap (fileMap : FileMap Id) (id : Id) (infos : List FileInfo) :
    FileMap Id :=
  fileMap.set id infos

/-- `process(CommandReply)` with the files of a member: a reply without any
file has no list and is ignored. -/
def processListReply
    (fileMap : FileMap Id) (id : Id) (infos : List FileInfo) : FileMap Id :=
  if infos = [] then fileMap else fileMap.updateFileMap id infos

/-- `deleteFromFileMap`. -/
def deleteFromFileMap
    (fileMap : FileMap Id) (id : Id) (filename : String) : FileMap Id :=
  fileMap.set id ((fileMap.files id).filter fun info => info.name != filename)

/-- The master's part of `deleteFile`; the members with the file are collected
before the first entry changes. -/
def deleteFile
    (fileMap : FileMap Id) (members : List Id) (filename : String) :
    FileMap Id :=
  (members.filter fun id => fileMap.hasFile id filename).foldl
    (fun current id => current.deleteFromFileMap id filename) fileMap

variable {fileMap : FileMap Id} {id other : Id}
variable {filename : String} {infos : List FileInfo}

@[simp] theorem files_set :
    (fileMap.set id infos).files =
      Function.update fileMap.files id infos := rfl

theorem hasFile_set :
    (fileMap.set id infos).hasFile other filename =
      if other = id then listsFile infos filename
      else fileMap.hasFile other filename := by
  rw [hasFile, hasFile, files_set]
  by_cases same : other = id
  · rw [if_pos same, same, Function.update_self]
  · rw [if_neg same, Function.update_of_ne same]

/-- Being counted and having the file are the same. -/
theorem mem_holders_iff :
    id ∈ fileMap.holders filename ↔ fileMap.hasFile id filename = true := by
  rw [holders, Finset.mem_filter, and_iff_right_iff_imp]
  intro holds
  by_contra notKey
  rw [hasFile, fileMap.absent id notKey] at holds
  nomatch holds

/-- Adding an entry adds a holder of this file and changes no other. -/
theorem hasFile_addToFileMap {info : FileInfo} :
    (fileMap.addToFileMap id info).hasFile other filename = true ↔
      (other = id ∧ info.name = filename) ∨
        fileMap.hasFile other filename = true := by
  unfold addToFileMap
  by_cases already : fileMap.hasFile id info.name = true
  · rw [if_pos already]
    refine ⟨.inr, ?_⟩
    rintro (⟨rfl, rfl⟩ | holds)
    · exact already
    · exact holds
  · rw [if_neg already, hasFile_set]
    by_cases same : other = id
    · subst same
      simp [listsFile, hasFile, or_comm]
    · simp [same]

/-- A reply decides what its sender holds, unless it has no list. -/
theorem hasFile_processListReply :
    (fileMap.processListReply id infos).hasFile other filename =
      if other = id ∧ infos ≠ [] then listsFile infos filename
      else fileMap.hasFile other filename := by
  unfold processListReply
  split
  · next nothing => simp [nothing]
  · next listed => simp [updateFileMap, hasFile_set, listed]

/-- Deleting an entry removes this file and no other. -/
theorem hasFile_deleteFromFileMap {deleted : String} :
    (fileMap.deleteFromFileMap id deleted).hasFile other filename = true ↔
      fileMap.hasFile other filename = true ∧
        ¬ (other = id ∧ filename = deleted) := by
  rw [deleteFromFileMap, hasFile_set]
  by_cases same : other = id
  · subst same
    simp only [if_true, listsFile, hasFile, List.any_filter, List.any_eq_true,
      Bool.and_eq_true, bne_iff_ne, beq_iff_eq, true_and]
    constructor
    · rintro ⟨info, present, kept, rfl⟩
      exact ⟨⟨info, present, rfl⟩, kept⟩
    · rintro ⟨⟨info, present, rfl⟩, kept⟩
      exact ⟨info, present, kept, rfl⟩
  · simp [same]

/-- Deleting a file only removes holders, and only of this file. -/
theorem hasFile_of_deleteFile
    {members : List Id} {deleted : String}
    (holds : (fileMap.deleteFile members deleted).hasFile other filename =
      true) :
    fileMap.hasFile other filename = true := by
  unfold deleteFile at holds
  generalize members.filter _ = targets at holds
  induction targets generalizing fileMap with
  | nil => exact holds
  | cons target targets inductionHypothesis =>
      exact (hasFile_deleteFromFileMap.mp (inductionHypothesis holds)).1

end FileMap

end Master
end CraneSps
