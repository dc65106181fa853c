import CraneSps.Master.Repair

/-!
# Members that come, fail and lose files

What happens to the files of the members when a daemon starts or crashes, when
the entry of a failed member is cleared, when a new master lists the files, and
when a file is deleted or put.
-/

namespace CraneSps
namespace Master

open FileTransfer

variable {Id : Type} [LinearOrder Id]

namespace FileService

variable (service : FileService Id)

/-- A daemon starts. -/
def join (id : Id) : FileService Id :=
  { service with members := service.members.orderedInsert (· ≤ ·) id }

/-- A node crashes.  What it stores is lost, since a daemon that starts cleans
its directory. -/
def fail (id : Id) : FileService Id :=
  { service.setNode id (service.node id).cleanLocalFileDir with
    members := service.members.erase id }

/-- The thread of `handle(NodeFailEvent)`, up to `reReplicate`. -/
def clear (id : Id) : FileService Id :=
  { service with fileMap := service.fileMap.set id [] }

/-- The `LIST` commands of `start` at a node that has not been a master. -/
def list : FileService Id :=
  { service with
    fileMap := service.members.foldl
      (fun fileMap id =>
        fileMap.processListReply id (service.node id).localFiles)
      .empty }

/-- The `DELETE` command to a target, and what `deleteFile` does after it. -/
def deleteAt (filename : String) (target : Id) : FileService Id :=
  { service.setNode target
      ((service.node target).deleteLocalFile filename) with
    fileMap := service.fileMap.deleteFromFileMap target filename }

/-- A `DEL` request. -/
def delete (filename : String) : FileService Id :=
  if service.fileMap.countReplicates filename = 0 then service
  else
    (memberHolders service.fileMap service.members filename).foldl
      (fun current target => current.deleteAt filename target) service

variable {shell : Shell} {service : FileService Id}
variable {next : FileService Id} {id other target : Id}
variable {filename name : String} {content : Bytes}

/-! ## Members that come and go -/

/-- The members have what the master knows of them. -/
theorem known_alive
    (distinct : ∀ other,
      ((service.node other).localFiles.map FileInfo.name).Nodup)
    (known : ∀ other name,
      (other ∈ service.members ∧
          service.fileMap.hasFile other name = true) ↔
        (service.node other).Registers name) :
    Known service.alive where
  distinct := distinct
  known := fun other name => hasFile_alive.trans (known other name)
  members := fun other name holds => ((known other name).mpr holds).1

/-- Fewer replicas. -/
theorem Consistent.congr
    (consistent : Consistent service.alive) (known : Known next.alive)
    (kept : ∀ other name, (next.node other).Registers name →
      (service.node other).Registers name ∧
        next.stored other name = service.stored other name)
    (lost : ∀ other name, ¬ (next.node other).Registers name →
      next.stored other name = none) :
    Consistent next.alive := by
  have registered (other : Id) (name : String)
      (present : next.stored other name ≠ none) :
      (next.node other).Registers name := by
    by_contra unregistered
    exact present (lost other name unregistered)
  refine
    { known with
      complete := fun other name => ⟨registered other name, fun holds => ?_⟩
      same := fun first second name firstHolds secondHolds => ?_
      fetchable := fun other name content present => ?_ }
  · obtain ⟨before, sameContent⟩ := kept other name holds
    change next.stored other name ≠ none
    rw [sameContent]
    exact (consistent.complete other name).mpr before
  · obtain ⟨firstBefore, atFirst⟩ := kept first name firstHolds
    obtain ⟨secondBefore, atSecond⟩ := kept second name secondHolds
    exact atFirst.trans
      ((consistent.same first second name firstBefore secondBefore).trans
        atSecond.symm)
  · have present' : next.stored other name = some content := present
    obtain ⟨_, sameContent⟩ := kept other name
      (registered other name (present' ▸ Option.some_ne_none content))
    exact consistent.fetchable other name content
      (sameContent.symm.trans present')

/-- Two stores with the same contents of a file. -/
theorem Consistent.held_congr
    (consistent : Consistent service.alive) (still : Consistent next.alive)
    (some_iff : ∀ content,
      (∃ id, next.stored id name = some content) ↔
      ∃ id, service.stored id name = some content) :
    next.alive.held name = service.alive.held name := by
  refine Option.ext fun content => ?_
  rw [still.held_eq_some_iff, consistent.held_eq_some_iff]
  exact some_iff content

/-- The nodes stay as they are, and the master knows what they have. -/
theorem Known.preserves
    (known : Known service.alive) (sameNode : next.node = service.node)
    (nextKnown : ∀ other name,
      (other ∈ next.members ∧ next.fileMap.hasFile other name = true) ↔
        (service.node other).Registers name) :
    Preserves service next := by
  have still : Known next.alive := by
    refine known_alive ?_ ?_
    · rw [sameNode]
      exact known.distinct
    · rw [sameNode]
      exact nextKnown
  have sameStored (other : Id) (name : String) :
      next.stored other name = service.stored other name := by
    rw [FileService.stored, sameNode, FileService.stored]
  refine ⟨still, fun name => ?_, fun consistent => ?_⟩
  · rw [HasHolder, sameNode, HasHolder]
  · have consistently : Consistent next.alive := by
      refine consistent.congr still (fun other name holds => ?_)
        fun other name holds => ?_
      · rw [sameNode] at holds
        exact ⟨holds, sameStored other name⟩
      · rw [sameNode] at holds
        rw [sameStored]
        exact consistent.stored_eq_none holds
    refine ⟨consistently, funext fun name => ?_⟩
    refine consistent.held_congr consistently fun content => ?_
    simp only [sameStored]

/-- A failure leaves the files of the others. -/
theorem Known.fail
    (known : Known service.alive) (distinct : service.members.Nodup)
    (kept : ∀ name, service.HasHolder name →
      ∃ other ≠ id, (service.node other).Registers name) :
    Preserves service (service.fail id) := by
  have atOther (other : Id) (differs : other ≠ id) :
      (service.fail id).node other = service.node other :=
    Function.update_of_ne differs _ _
  have atSelf : (service.fail id).node id =
      (service.node id).cleanLocalFileDir := Function.update_self _ _ _
  have registers (other : Id) (name : String) :
      ((service.fail id).node other).Registers name ↔
        other ≠ id ∧ (service.node other).Registers name := by
    by_cases same : other = id
    · rw [same, atSelf]
      exact iff_of_false DFile.registers_cleanLocalFileDir fun both => both.1 rfl
    · rw [atOther other same, and_iff_right same]
  have stored (other : Id) (name : String) :
      (service.fail id).stored other name =
        if other = id then none else service.stored other name := by
    rw [FileService.stored]
    split
    · next same => rw [same, atSelf, DFile.stored_cleanLocalFileDir]
    · next differs => rw [atOther other differs, FileService.stored]
  have still : Known (service.fail id).alive := by
    refine known_alive (fun other => ?_) fun other name => ?_
    · by_cases same : other = id
      · rw [same, atSelf]
        exact List.nodup_nil
      · rw [atOther other same]
        exact known.distinct other
    · change other ∈ service.members.erase id ∧
        service.fileMap.hasFile other name = true ↔ _
      rw [registers, distinct.mem_erase_iff, and_assoc]
      exact and_congr_right fun _ =>
        hasFile_alive.symm.trans (known.known other name)
  refine ⟨still, fun name => ?_, fun consistent => ?_⟩
  · simp only [HasHolder, registers]
    refine ⟨?_, kept name⟩
    rintro ⟨other, _, holds⟩
    exact ⟨other, holds⟩
  · have consistently : Consistent (service.fail id).alive := by
      refine consistent.congr still (fun other name holds => ?_)
        fun other name holds => ?_
      · obtain ⟨differs, before⟩ := (registers other name).mp holds
        exact ⟨before, (stored other name).trans (if_neg differs)⟩
      · rw [stored]
        split
        · rfl
        · next differs =>
            exact consistent.stored_eq_none fun before =>
              holds ((registers other name).mpr ⟨differs, before⟩)
    refine ⟨consistently, funext fun name => ?_⟩
    refine consistent.held_congr consistently fun content => ?_
    simp only [stored, Option.ite_none_left_eq_some]
    constructor
    · rintro ⟨other, _, present⟩
      exact ⟨other, present⟩
    · rintro ⟨other, present⟩
      have holds : (service.node other).Registers name :=
        consistent.registers_of_stored present
      obtain ⟨keeper, differs, keeps⟩ := kept name ⟨other, holds⟩
      refine ⟨keeper, differs, ?_⟩
      rw [← present]
      exact consistent.same keeper other name keeps holds

/-- A node that comes has no files. -/
theorem Known.join
    (known : Known service.alive) (isNew : id ∉ service.members)
    (unknown : ∀ name, service.fileMap.hasFile id name = false) :
    Preserves service (service.join id) := by
  refine known.preserves rfl fun other name => ?_
  refine Iff.trans ?_ (known.known other name)
  rw [hasFile_alive]
  refine and_congr_left fun holds => ?_
  refine (List.mem_orderedInsert (· ≤ ·)).trans (or_iff_right ?_)
  rintro rfl
  change service.fileMap.hasFile other name = true at holds
  rw [unknown name] at holds
  nomatch holds

/-- Clearing the entry of a node that is no member. -/
theorem Known.clear
    (known : Known service.alive) (isAway : id ∉ service.members) :
    Steady service (service.clear id) := by
  refine ⟨known.preserves rfl fun other name => ?_, rfl⟩
  refine Iff.trans ?_ (known.known other name)
  rw [hasFile_alive]
  refine and_congr_right fun isMember => ?_
  have differs : other ≠ id := by
    rintro rfl
    exact isAway isMember
  change (service.fileMap.set id []).hasFile other name = true ↔ _
  rw [FileMap.hasFile_set, if_neg differs]

theorem hasFile_listed {members : List Id} {fileMap : FileMap Id} :
    (members.foldl (fun fileMap id =>
        fileMap.processListReply id (service.node id).localFiles)
      fileMap).hasFile id name =
      if id ∈ members ∧ (service.node id).localFiles ≠ [] then
        listsFile (service.node id).localFiles name
      else fileMap.hasFile id name := by
  induction members generalizing fileMap with
  | nil => simp
  | cons member members inductionHypothesis =>
      rw [List.foldl_cons, inductionHypothesis,
        FileMap.hasFile_processListReply]
      by_cases same : id = member
      · subst same
        by_cases listed : (service.node id).localFiles = []
        · simp [listed]
        · simp [listed]
      · simp [same]

/-- A new master knows what the members have. -/
theorem hasFile_list :
    service.list.fileMap.hasFile id name = true ↔
      id ∈ service.members ∧ (service.node id).Registers name := by
  have empty : (FileMap.empty : FileMap Id).hasFile id name = false := rfl
  have registers : (service.node id).Registers name ↔
      listsFile (service.node id).localFiles name = true := by
    rw [DFile.registers_iff, listsFile, List.any_eq_true]
    simp only [beq_iff_eq]
  rw [list, hasFile_listed, registers]
  by_cases listed : (service.node id).localFiles = []
  · rw [if_neg fun both => both.2 listed, empty, listed]
    simp [listsFile]
  · by_cases isMember : id ∈ service.members
    · rw [if_pos ⟨isMember, listed⟩, and_iff_right isMember]
    · rw [if_neg fun both => isMember both.1, empty]
      simp [isMember]

theorem Known.list (known : Known service.alive) :
    Steady service service.list := by
  refine ⟨known.preserves rfl fun other name => ?_, rfl⟩
  rw [hasFile_list]
  refine ⟨fun both => both.2.2, fun holds => ?_⟩
  exact ⟨known.members other name holds, known.members other name holds, holds⟩

/-! ## Deleting a file -/

/-- The members among the targets have lost the file. -/
structure Deleted
    (service next : FileService Id) (filename : String) (targets : List Id) :
    Prop where
  known : Known next.alive
  members : next.members = service.members
  registers : ∀ id name, (next.node id).Registers name ↔
    (service.node id).Registers name ∧ ¬ (id ∈ targets ∧ name = filename)
  hasFile : ∀ id name, next.fileMap.hasFile id name = true ↔
    service.fileMap.hasFile id name = true ∧
      ¬ (id ∈ targets ∧ name = filename)
  content : Consistent service.alive →
    Consistent next.alive ∧ ∀ id name, next.stored id name =
      if id ∈ targets ∧ name = filename then none else service.stored id name

theorem Deleted.refl (known : Known service.alive) :
    Deleted service service filename [] :=
  ⟨known, rfl, fun _ _ => by simp, fun _ _ => by simp,
    fun consistent => ⟨consistent, fun _ _ => by simp⟩⟩

theorem Known.deleteAt (known : Known service.alive) :
    Deleted service (service.deleteAt filename target) filename [target] := by
  have atOther (other : Id) (differs : other ≠ target) :
      (service.deleteAt filename target).node other = service.node other :=
    Function.update_of_ne differs _ _
  have atTarget : (service.deleteAt filename target).node target =
      (service.node target).deleteLocalFile filename :=
    Function.update_self _ _ _
  have distinct : ((service.node target).localFiles.map
      FileInfo.name).Nodup := known.distinct target
  have registers (other : Id) (name : String) :
      ((service.deleteAt filename target).node other).Registers name ↔
        (service.node other).Registers name ∧
          ¬ (other ∈ [target] ∧ name = filename) := by
    rw [List.mem_singleton]
    by_cases same : other = target
    · rw [same, atTarget, DFile.registers_deleteLocalFile distinct]
      simp
    · rw [atOther other same]
      simp [same]
  have hasFile (other : Id) (name : String) :
      (service.deleteAt filename target).fileMap.hasFile other name = true ↔
        service.fileMap.hasFile other name = true ∧
          ¬ (other ∈ [target] ∧ name = filename) := by
    rw [List.mem_singleton]
    exact FileMap.hasFile_deleteFromFileMap
  have still : Known (service.deleteAt filename target).alive := by
    refine known_alive (fun other => ?_) fun other name => ?_
    · by_cases same : other = target
      · rw [same, atTarget]
        exact DFile.nodup_deleteLocalFile distinct
      · rw [atOther other same]
        exact known.distinct other
    · rw [hasFile, registers, ← and_assoc]
      refine and_congr_left fun _ => ?_
      exact hasFile_alive.symm.trans (known.known other name)
  refine ⟨still, rfl, registers, hasFile, fun consistent => ?_⟩
  have stored (other : Id) (name : String) :
      (service.deleteAt filename target).stored other name =
        if other ∈ [target] ∧ name = filename then none
        else service.stored other name := by
    simp only [FileService.stored, List.mem_singleton]
    by_cases same : other = target
    · subst same
      have tidy : (service.node other).Tidy :=
        ⟨distinct, fun name => (consistent.complete other name).mp⟩
      rw [atTarget, DFile.stored_deleteLocalFile tidy]
      simp
    · rw [atOther other same]
      simp [same]
  refine ⟨consistent.congr still (fun other name holds => ?_)
    fun other name holds => ?_, stored⟩
  · obtain ⟨before, notDeleted⟩ := (registers other name).mp holds
    exact ⟨before, (stored other name).trans (if_neg notDeleted)⟩
  · rw [stored]
    split
    · rfl
    · next notDeleted =>
        exact consistent.stored_eq_none fun before =>
          holds ((registers other name).mpr ⟨before, notDeleted⟩)

theorem Deleted.trans {middle : FileService Id} {first rest : List Id}
    (before : Deleted service middle filename first)
    (after : Deleted middle next filename rest) :
    Deleted service next filename (first ++ rest) where
  known := after.known
  members := after.members.trans before.members
  registers := by
    intro id name
    rw [after.registers, before.registers, List.mem_append, and_assoc,
      ← not_or, ← or_and_right]
  hasFile := by
    intro id name
    rw [after.hasFile, before.hasFile, List.mem_append, and_assoc, ← not_or,
      ← or_and_right]
  content := by
    intro consistent
    obtain ⟨middleConsistent, middleStored⟩ := before.content consistent
    obtain ⟨nextConsistent, nextStored⟩ := after.content middleConsistent
    refine ⟨nextConsistent, fun id name => ?_⟩
    rw [nextStored, middleStored, ← ite_or]
    simp only [List.mem_append, or_and_right, or_comm]

theorem Known.foldl_deleteAt {targets : List Id}
    (known : Known service.alive) :
    Deleted service
      (targets.foldl (fun current target =>
        current.deleteAt filename target) service) filename targets := by
  induction targets generalizing service with
  | nil => exact .refl known
  | cons target targets inductionHypothesis =>
      have first : Deleted service (service.deleteAt filename target) filename
          [target] := known.deleteAt
      exact first.trans (inductionHypothesis first.known)

theorem not_hasFile_of_countReplicates
    (nobody : service.fileMap.countReplicates filename = 0) :
    ¬ service.fileMap.hasFile other filename = true := by
  intro holds
  rw [FileMap.countReplicates, Finset.card_eq_zero] at nobody
  have isHolder := FileMap.mem_holders_iff.mpr holds
  rw [nobody] at isHolder
  cases isHolder

/-- A `DEL` deletes the file at all members. -/
theorem Known.delete (known : Known service.alive) :
    Deleted service (service.delete filename) filename
      (memberHolders service.fileMap service.members filename) := by
  rw [FileService.delete]
  split
  · next nobody =>
      have noHolder : memberHolders service.fileMap service.members filename =
          [] := by
        rw [memberHolders, List.filter_eq_nil_iff]
        exact fun id _ => not_hasFile_of_countReplicates nobody
      rw [noHolder]
      exact .refl known
  · exact known.foldl_deleteAt

section Delete

variable
  (deleted : Deleted service next filename
    (memberHolders service.fileMap service.members filename))
include deleted

/-- Nobody has registered the file any more. -/
theorem Deleted.hasHolder_iff (known : Known service.alive) :
    next.HasHolder name ↔ name ≠ filename ∧ service.HasHolder name := by
  have isTarget (id : Id) (holds : (service.node id).Registers filename) :
      id ∈ memberHolders service.fileMap service.members filename :=
    List.mem_filter.mpr (hasFile_alive.mp
      ((known.known id filename).mpr holds))
  simp only [HasHolder, deleted.registers]
  constructor
  · rintro ⟨id, holds, notDeleted⟩
    refine ⟨?_, id, holds⟩
    rintro rfl
    exact notDeleted ⟨isTarget id holds, rfl⟩
  · rintro ⟨differs, id, holds⟩
    exact ⟨id, holds, fun both => differs both.2⟩

theorem Deleted.held (consistent : Consistent service.alive) :
    next.alive.held = Function.update service.alive.held filename none := by
  obtain ⟨still, stored⟩ := deleted.content consistent
  funext name
  rw [Function.update_apply]
  split
  · next isFile =>
      rw [← not_ne_iff, still.held_ne_none_iff]
      intro hasHolder
      exact ((deleted.hasHolder_iff consistent.toKnown).mp hasHolder).1 isFile
  · next differs =>
      refine consistent.held_congr still fun content => ?_
      simp only [stored, differs, and_false, if_false]

end Delete

/-! ## Putting a file -/

theorem countReplicates_approve
    (nobody : service.fileMap.countReplicates filename = 0) :
    (service.approve shell id filename content).fileMap.countReplicates
      filename ≤ 3 := by
  have only : (service.approve shell id filename
      content).fileMap.holders filename ⊆ {id} := by
    intro other isHolder
    rcases FileMap.hasFile_addToFileMap.mp
      (FileMap.mem_holders_iff.mp isHolder) with ⟨same, _⟩ | before
    · exact Finset.mem_singleton.mpr same
    · exact absurd before (not_hasFile_of_countReplicates nobody)
  exact (Finset.card_le_card only).trans (by simp)

theorem hasFile_approve :
    (service.approve shell id filename content).fileMap.hasFile other name =
        true ↔
      (other = id ∧ filename = name) ∨
        service.fileMap.hasFile other name = true :=
  FileMap.hasFile_addToFileMap

theorem alive_approve (isMember : id ∈ service.members) :
    (service.approve shell id filename content).alive =
      service.alive.approve shell id filename content := by
  rw [alive, FileService.mk.injEq]
  exact ⟨rfl, rfl, FileMap.restrict_addToFileMap isMember⟩

/-- The beginning of an approved `PUT` of a member. -/
theorem Known.approve_alive
    (known : Known service.alive) (isMember : id ∈ service.members) :
    Known (service.approve shell id filename content).alive ∧
      ∀ name, (service.approve shell id filename content).HasHolder name ↔
        name = filename ∨ service.HasHolder name := by
  have gains : Gains service.alive
      (service.alive.approve shell id filename content) id filename :=
    known.approve
  have still := known.gains gains isMember
  have registers := gains.registers
  rw [← alive_approve isMember] at still registers
  refine ⟨still, fun name => (exists_congr fun other =>
    registers other name).trans ?_⟩
  rw [exists_or, eq_comm (a := name)]
  refine or_congr_left ?_
  exact ⟨fun both => both.choose_spec.2, fun same => ⟨id, rfl, same⟩⟩

theorem Consistent.approve_alive
    (consistent : Consistent service.alive) (isMember : id ∈ service.members)
    (nobody : service.fileMap.countReplicates filename = 0)
    (fetchable : Fetchable content) :
    Consistent (service.approve shell id filename content).alive ∧
      (service.approve shell id filename content).alive.held =
        Function.update service.alive.held filename (some content) := by
  have gains : Gains service.alive
      (service.alive.approve shell id filename content) id filename :=
    consistent.toKnown.approve
  have keeps := consistent.keeps gains stores_approve isMember
    (fun other holds => absurd
      (hasFile_alive.mp ((consistent.known other filename).mpr holds)).2
      (not_hasFile_of_countReplicates nobody)) fetchable
  rw [alive_approve isMember]
  refine ⟨keeps.consistent, funext fun name => ?_⟩
  rw [keeps.held, Function.update_apply]
  simp only [eq_comm]

/-- An approved `PUT` stores the file three times. -/
theorem Known.put_alive {draws : List Nat}
    (known : Known service.alive) (isMember : id ∈ service.members)
    (three : 3 ≤ service.members.length)
    (nobody : service.fileMap.countReplicates filename = 0)
    (done : service.put shell id filename content draws = some next) :
    Repaired (service.approve shell id filename content) next
      (· = filename) := by
  have approved : Known (service.approve shell id filename content).alive :=
    (known.approve_alive isMember).1
  rw [FileService.put, if_pos nobody] at done
  exact approved.replicateFile three (countReplicates_approve nobody) done

/-- Asking the members and what is known of them are the same. -/
theorem held_alive : service.alive.held = service.held := by
  funext name
  have sameHolder : (service.members.find? fun member =>
      service.alive.fileMap.hasFile member name) =
        service.members.find? fun member =>
          service.fileMap.hasFile member name :=
    List.find?_congr fun member isMember =>
      FileMap.hasFile_restrict_of_mem isMember
  rw [FileService.held, FileService.held]
  change Option.bind (service.members.find? fun member =>
    service.alive.fileMap.hasFile member name) _ = _
  rw [sameHolder]
  rfl

end FileService

end Master
end CraneSps
