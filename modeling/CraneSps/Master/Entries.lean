import CraneSps.Master.Cluster

/-!
# Entries of other files

Most steps of the cluster are about one file.  They leave the entries of all
other files as they are, in the maps of the masters and in the local maps of
the nodes.
-/

namespace CraneSps
namespace Master

open FileTransfer

variable {Id : Type} [LinearOrder Id]

namespace Cluster

/-- The entries of a list that are about a file. -/
def entriesOf (filename : String) (infos : List FileInfo) : List FileInfo :=
  infos.filter fun info => info.name == filename

/-- No map and no node has other entries about the file than before. -/
structure SameEntries
    (filename : String) (cluster next : Cluster Id) : Prop where
  mapped : ∀ master id,
    entriesOf filename ((next.fileMap master).files id) =
      entriesOf filename ((cluster.fileMap master).files id)
  stored : ∀ id, entriesOf filename (next.files.store id).localFiles =
    entriesOf filename (cluster.files.store id).localFiles

/-- The file that a step is about, if it is about one. -/
def subject (cluster : Cluster Id) : ClusterAction Id → Option String
  | .put _ _ filename _ => some filename
  | .addToFileMap index => cluster.handlers[index]?.map Handler.filename
  | .receiveApproval index =>
      cluster.files.approvals[index]?.map Approval.filename
  | .replicate _ filename _ => some filename
  | .sendFileRequest index _ _ => cluster.commands[index]?.map Prod.fst
  | .finishFetch index _ =>
      cluster.files.fetches[index]?.map fun fetch => fetch.client.filename
  | .update index => cluster.updates[index]?.map fun update =>
      update.info.name
  | .delete _ filename => some filename
  | .deleteNext index => cluster.handlers[index]?.map Handler.filename
  | _ => none

variable {shell : Shell} {cluster next : Cluster Id}
variable {action : ClusterAction Id} {filename : String}

section Entries

variable {infos : List FileInfo} {info : FileInfo} {other : String}
variable {fileMap : FileMap Id} {id node : Id} {store : DFile}

theorem entriesOf_append (differs : info.name ≠ other) :
    entriesOf other (infos ++ [info]) = entriesOf other infos := by
  simp [entriesOf, differs]

theorem entriesOf_addToFileMap (differs : info.name ≠ other) :
    entriesOf other ((fileMap.addToFileMap node info).files id) =
      entriesOf other (fileMap.files id) := by
  unfold FileMap.addToFileMap
  split
  · rfl
  · rw [FileMap.files_set, Function.update_apply]
    split
    · next same => rw [entriesOf_append differs, same]
    · rfl

theorem entriesOf_deleteFromFileMap (differs : filename ≠ other) :
    entriesOf other ((fileMap.deleteFromFileMap node filename).files id) =
      entriesOf other (fileMap.files id) := by
  rw [FileMap.deleteFromFileMap, FileMap.files_set, Function.update_apply]
  split
  · next same =>
      rw [entriesOf, List.filter_filter, entriesOf, same]
      refine List.filter_congr fun info _ => ?_
      by_cases named : info.name = other
      · simp [named, differs.symm]
      · simp [named]
  · rfl

theorem entriesOf_addToLocalFileMap (differs : filename ≠ other) :
    entriesOf other (store.addToLocalFileMap shell filename).localFiles =
      entriesOf other store.localFiles := by
  unfold DFile.addToLocalFileMap
  split
  · exact entriesOf_append differs
  · rfl

theorem entriesOf_deleteLocalFile (differs : filename ≠ other) :
    entriesOf other (store.deleteLocalFile filename).localFiles =
      entriesOf other store.localFiles := by
  unfold DFile.deleteLocalFile
  split
  · rfl
  · refine List.filter_eraseP_of_disjoint (fun info named => ?_) _
    rw [beq_iff_eq.mp named]
    exact beq_eq_false_iff_ne.mpr differs

/-- One store changes, but not its entries about the file. -/
theorem entriesOf_setStore
    {files : Files Id} {changed : Id}
    (same : entriesOf other store.localFiles =
      entriesOf other (files.store changed).localFiles) (id : Id) :
    entriesOf other ((files.setStore changed store).store id).localFiles =
      entriesOf other (files.store id).localFiles := by
  rw [Files.store_setStore]
  split
  · next isChanged => rw [same, isChanged]
  · rfl

/-- One map changes, but not its entries about the file. -/
theorem entriesOf_setFileMap
    {changed : Id}
    (same : ∀ id, entriesOf other (fileMap.files id) =
      entriesOf other ((cluster.fileMap changed).files id)) (master id : Id) :
    entriesOf other
        (((cluster.setFileMap changed fileMap).fileMap master).files id) =
      entriesOf other ((cluster.fileMap master).files id) := by
  rw [fileMap_setFileMap]
  split
  · next isChanged => rw [same, isChanged]
  · rfl

end Entries

/-- A step that is about one file leaves the entries of the others. -/
theorem sameEntries_of_step
    (kept : cluster.files.Kept)
    (stepped : cluster.step shell action = some next)
    (about : cluster.subject action = some filename)
    {other : String} (differs : filename ≠ other) :
    SameEntries other cluster next := by
  cases transition_of_step stepped with
  | approvePut | refusePut | replicate | deleteUnknown | startDelete =>
      exact { mapped := fun _ _ => rfl, stored := fun _ => rfl }
  | addToFileMap found | update found =>
      rw [subject, found] at about
      obtain rfl := Option.some.inj about
      exact
        { mapped := entriesOf_setFileMap fun _ =>
            entriesOf_addToFileMap differs
          stored := fun _ => rfl }
  | receiveApproval found =>
      rw [subject, found] at about
      obtain rfl := Option.some.inj about
      exact
        { mapped := fun _ _ => rfl
          stored := entriesOf_setStore
            (entriesOf_addToLocalFileMap differs) }
  | @sendFileRequest index target source port name targets =>
      refine { mapped := fun _ _ => rfl, stored := fun id => ?_ }
      rcases cluster.ask_cases shell name source target port with
        same | ⟨fetch, _, _, _, asked⟩
      · rw [same]
      · rw [asked, Files.ask]
  | finishFetch found =>
      rw [subject, found] at about
      obtain rfl := Option.some.inj about
      refine
        { mapped := fun _ _ => rfl
          stored := entriesOf_setStore ?_ }
      rw [fetchAll_eq (kept.keeps _ (List.mem_of_getElem? found)),
        entriesOf_addToLocalFileMap differs, DFile.localFiles_appendChunks]
  | deleteAt found =>
      rw [subject, found] at about
      obtain rfl := Option.some.inj about
      exact
        { mapped := entriesOf_setFileMap fun _ =>
            entriesOf_deleteFromFileMap differs
          stored := entriesOf_setStore
            (entriesOf_deleteLocalFile differs) }
  | endDelete => exact { mapped := fun _ _ => rfl, stored := fun _ => rfl }
  | _ => cases about

end Cluster

end Master
end CraneSps
