import CraneSps.Foundation.ListUpdate
import CraneSps.Master.FileService
import Mathlib.Data.List.Sort

/-!
# Replicating what failed members had

`reReplicate` at a master that may still have entries of members that are
gone.  In a group of three or more every file that a member has registered ends
up with three known holders, and as long as the holders store what they have
registered, the files stay the same for whoever asks the members.
-/

namespace CraneSps
namespace Master

open FileTransfer

section

variable {Id : Type} [DecidableEq Id]

/-- The entries of the members. -/
def FileMap.restrict (fileMap : FileMap Id) (members : List Id) :
    FileMap Id where
  keys := fileMap.keys.filter (· ∈ members)
  files := fun id => if id ∈ members then fileMap.files id else []
  absent := by
    intro id notKey
    split
    · next isMember =>
        refine fileMap.absent id fun isKey => notKey ?_
        exact Finset.mem_filter.mpr ⟨isKey, isMember⟩
    · rfl

end

variable {Id : Type} [LinearOrder Id]

namespace FileService

variable (shell : Shell) (service : FileService Id)

/-- The service with what its master knows of the members. -/
def alive : FileService Id :=
  { service with fileMap := service.fileMap.restrict service.members }

/-- `replicateFile` with the command that it sends; `none` when the draws run
out. -/
def replicateFile (filename : String) (draws : List Nat) :
    Option (FileService Id) :=
  (Master.replicateFile service.fileMap service.members filename draws).map
    fun outcome => outcome.elim service (service.replicate shell filename)

/-- The names that `reReplicate` collects. -/
def memberFiles : List String :=
  service.fileMap.memberFiles service.members

/-- `reReplicate`. -/
def reReplicate (draws : String → List Nat) : Option (FileService Id) :=
  service.memberFiles.foldlM
    (fun current filename =>
      current.replicateFile shell filename (draws filename))
    service

end FileService

/-! ## What the master knows of the members -/

section Restrict

variable {fileMap : FileMap Id} {members : List Id} {id : Id}
variable {filename : String}

theorem FileMap.hasFile_restrict :
    (fileMap.restrict members).hasFile id filename = true ↔
      id ∈ members ∧ fileMap.hasFile id filename = true := by
  rw [FileMap.hasFile, FileMap.restrict]
  by_cases isMember : id ∈ members
  · simp [isMember, FileMap.hasFile]
  · simp [isMember, listsFile]

theorem FileMap.hasFile_restrict_of_mem (isMember : id ∈ members) :
    (fileMap.restrict members).hasFile id filename =
      fileMap.hasFile id filename :=
  Bool.eq_iff_iff.mpr (FileMap.hasFile_restrict.trans
    (and_iff_right isMember))

/-- An entry of a member is added to what is known of the members. -/
theorem FileMap.restrict_addToFileMap {info : FileInfo}
    (isMember : id ∈ members) :
    (fileMap.addToFileMap id info).restrict members =
      (fileMap.restrict members).addToFileMap id info := by
  have entry : (fileMap.restrict members).files id = fileMap.files id :=
    if_pos isMember
  rw [FileMap.addToFileMap, FileMap.addToFileMap,
    FileMap.hasFile_restrict_of_mem isMember, entry]
  split
  · rfl
  · rw [FileMap.restrict, FileMap.set, FileMap.mk.injEq]
    constructor
    · simp only [FileMap.set, FileMap.restrict]
      rw [Finset.filter_insert, if_pos isMember]
    · funext other
      by_cases same : other = id
      · subst same
        simp [isMember]
      · simp [same, FileMap.restrict]

end Restrict

namespace FileService

variable {shell : Shell} {service next : FileService Id}
variable {id other source target : Id} {filename name : String}
variable {content : Bytes}

theorem hasFile_alive :
    service.alive.fileMap.hasFile id name = true ↔
      id ∈ service.members ∧ service.fileMap.hasFile id name = true :=
  FileMap.hasFile_restrict

/-- A request to a member is one to what is known of the members. -/
theorem alive_sendFileRequest {filepath : Option String}
    (isMember : target ∈ service.members) :
    (service.sendFileRequest shell source target filename filepath).alive =
      service.alive.sendFileRequest shell source target filename
        filepath := by
  have sameNode : service.alive.node = service.node := rfl
  cases started : (service.node target).processSendRequest
      ((service.node source).sendFileRequest shell filename filepath 9601) with
  | none => simp only [sendFileRequest, sameNode, started]
  | some client =>
      simp only [sendFileRequest, sameNode, started]
      rw [alive, FileService.mk.injEq]
      refine ⟨rfl, rfl, ?_⟩
      change FileMap.restrict (Option.elim _ _ _) service.members =
        Option.elim (client.finish shell
          ((service.node target).appendChunks filename
            (client.fetched (service.stored source filename)))).2 _ _
      cases (client.finish shell ((service.node target).appendChunks filename
          (client.fetched (service.stored source filename)))).2 with
      | none => rfl
      | some info => exact FileMap.restrict_addToFileMap isMember

/-- The nodes have registered the same files, and the master knows the same. -/
structure SameHolders (service next : FileService Id) : Prop where
  members : next.members = service.members
  fileMap : next.fileMap = service.fileMap
  localFiles : ∀ id, (next.node id).localFiles = (service.node id).localFiles

theorem SameHolders.refl (service : FileService Id) :
    SameHolders service service :=
  ⟨rfl, rfl, fun _ => rfl⟩

theorem SameHolders.trans {middle : FileService Id}
    (before : SameHolders service middle) (after : SameHolders middle next) :
    SameHolders service next where
  members := after.members.trans before.members
  fileMap := after.fileMap.trans before.fileMap
  localFiles := fun id => (after.localFiles id).trans (before.localFiles id)

theorem SameHolders.registers_iff (same : SameHolders service next) :
    (next.node id).Registers name ↔ (service.node id).Registers name := by
  rw [DFile.registers_iff, DFile.registers_iff, same.localFiles]

theorem sameHolders_setNode {node : DFile}
    (localFiles : node.localFiles = (service.node id).localFiles) :
    SameHolders service (service.setNode id node) := by
  refine ⟨rfl, rfl, fun other => ?_⟩
  rw [node_setNode]
  split
  · next same => rw [localFiles, same]
  · rfl

/-- A fetch to a path is not reported. -/
theorem sameHolders_sendFileRequest {filepath : String}
    (named : filepath ≠ "") :
    SameHolders service
      (service.sendFileRequest shell source target filename
        (some filepath)) := by
  rw [sendFileRequest]
  split
  · exact .refl service
  · next client started =>
      obtain ⟨unreported, localFiles⟩ := @finish_of_moves shell client
        ((service.node target).appendChunks filename
          (client.fetched (service.stored source filename)))
        (by rwa [filepath_of_started named started])
      rw [DFile.localFiles_appendChunks] at localFiles
      simp only [unreported]
      exact sameHolders_setNode localFiles

theorem sameHolders_get {filepath : String} (named : filepath ≠ "") :
    SameHolders service (service.get shell id filename filepath) := by
  have touches : SameHolders service
      (service.setNode id ((service.node id).write filepath [])) :=
    sameHolders_setNode rfl
  rw [get]
  split
  · exact .refl service
  · simp only
    split
    · exact sameHolders_setNode rfl
    · split
      · exact touches.trans (sameHolders_sendFileRequest named)
      · exact touches

/-- So is a `GET` of a member. -/
theorem alive_get {filepath : String} (isMember : id ∈ service.members) :
    (service.get shell id filename filepath).alive =
      service.alive.get shell id filename filepath := by
  have sameHolder : (service.members.find? fun member =>
      service.alive.fileMap.hasFile member filename) =
        service.members.find? fun member =>
          service.fileMap.hasFile member filename :=
    List.find?_congr fun member isMember =>
      FileMap.hasFile_restrict_of_mem isMember
  by_cases exist : (service.node id).disk filepath = none
  · have isNew := not_not_intro exist
    by_cases registered :
        ((service.node id).write filepath []).Registers filename
    · rw [get, if_neg isNew, if_pos registered]
      exact ((if_neg isNew).trans (if_pos registered)).symm
    · have sameNode : service.alive.node = service.node := rfl
      have sameMembers : service.alive.members = service.members := rfl
      cases source : service.members.find? fun member =>
          service.fileMap.hasFile member filename with
      | none =>
          simp only [get, sameNode, sameMembers, sameHolder, if_neg isNew,
            if_neg registered, source]
          rfl
      | some source =>
          simp only [get, sameNode, sameMembers, sameHolder, if_neg isNew,
            if_neg registered, source]
          exact alive_sendFileRequest isMember
  · rw [get, if_pos exist]
    exact (if_pos exist).symm

/-- The files with a holder are the same and, for whoever asks the members of
a consistent store, also their contents. -/
structure Preserves (service next : FileService Id) : Prop where
  known : Known next.alive
  hasHolder : ∀ name, next.HasHolder name ↔ service.HasHolder name
  content : Consistent service.alive →
    Consistent next.alive ∧ next.alive.held = service.alive.held

/-- Nor do the members change. -/
structure Steady (service next : FileService Id) : Prop
    extends Preserves service next where
  members : next.members = service.members

theorem Steady.refl (known : Known service.alive) : Steady service service :=
  ⟨⟨known, fun _ => Iff.rfl, fun consistent => ⟨consistent, rfl⟩⟩, rfl⟩

theorem Preserves.trans {middle : FileService Id}
    (before : Preserves service middle) (after : Preserves middle next) :
    Preserves service next where
  known := after.known
  hasHolder := fun name =>
    (after.hasHolder name).trans (before.hasHolder name)
  content := by
    intro consistent
    obtain ⟨middleConsistent, middleHeld⟩ := before.content consistent
    obtain ⟨nextConsistent, nextHeld⟩ := after.content middleConsistent
    exact ⟨nextConsistent, nextHeld.trans middleHeld⟩

theorem Steady.trans {middle : FileService Id}
    (before : Steady service middle) (after : Steady middle next) :
    Steady service next where
  toPreserves := before.toPreserves.trans after.toPreserves
  members := after.members.trans before.members

/-! ## Replicating a file -/

/-- Only the entry of the target changes. -/
theorem hasFile_sendFileRequest_of_ne (differs : other ≠ target) :
    (service.sendFileRequest shell source target filename
        none).fileMap.hasFile other name =
      service.fileMap.hasFile other name := by
  rw [sendFileRequest]
  split
  · rfl
  · next client started =>
      simp only
      cases (client.finish shell ((service.node target).appendChunks filename
          (client.fetched (service.stored source filename)))).2 with
      | none => rfl
      | some info =>
          rw [Bool.eq_iff_iff]
          refine FileMap.hasFile_addToFileMap.trans (or_iff_right ?_)
          exact fun isTarget => differs isTarget.1

/-- The target becomes known as a holder, if it is not. -/
theorem hasFile_sendFileRequest
    (known : Known service.alive) (isMember : target ∈ service.members) :
    (service.sendFileRequest shell source target filename
        none).fileMap.hasFile other name = true ↔
      (other = target ∧ filename = name) ∨
        service.fileMap.hasFile other name = true := by
  by_cases same : other = target
  · subst same
    have gains : Gains service.alive
        (service.alive.sendFileRequest shell source other filename none) other
        filename := known.sendFileRequest
    have alsoKnown := gains.known other name
    have members : (service.sendFileRequest shell source other filename
        none).members = service.members := by
      have sameMembers := gains.members
      rwa [← alive_sendFileRequest isMember] at sameMembers
    rw [← alive_sendFileRequest isMember, hasFile_alive, hasFile_alive,
      members, and_iff_right isMember, and_iff_right isMember] at alsoKnown
    exact alsoKnown
  · rw [hasFile_sendFileRequest_of_ne same]
    exact (or_iff_right fun isTarget => same isTarget.1).symm

/-- A member that is sent a file by a holder. -/
theorem Known.steady_sendFileRequest
    (known : Known service.alive) (isMember : target ∈ service.members)
    (isHolder : (service.node source).Registers filename) :
    Steady service
        (service.sendFileRequest shell source target filename none) ∧
      ((service.sendFileRequest shell source target filename none).node
        source).Registers filename := by
  have gains : Gains service.alive
      (service.alive.sendFileRequest shell source target filename none) target
      filename := known.sendFileRequest
  have registers := gains.registers
  have members := gains.members
  have still := known.gains gains isMember
  rw [← alive_sendFileRequest isMember] at registers members still
  refine ⟨⟨⟨still, fun name => ?_, fun consistent => ?_⟩, members⟩,
    (registers source filename).mpr (.inr isHolder)⟩
  · constructor
    · rintro ⟨other, holds⟩
      rcases (registers other name).mp holds with ⟨_, rfl⟩ | isOld
      · exact ⟨source, isHolder⟩
      · exact ⟨other, isOld⟩
    · rintro ⟨other, holds⟩
      exact ⟨other, (registers other name).mpr (.inr holds)⟩
  · obtain ⟨content, present⟩ := Option.ne_none_iff_exists'.mp
      ((consistent.complete source filename).mpr isHolder)
    have isHeld : service.alive.held filename = some content :=
      consistent.held_eq_some_iff.mpr ⟨source, present⟩
    have stores : Stores service.alive
        (service.alive.sendFileRequest shell source target filename none)
        target filename content := consistent.sendFileRequest present
    have keeps := consistent.keeps gains stores isMember
      (fun _ => consistent.stored_eq isHeld)
      (consistent.fetchable source filename content present)
    rw [← alive_sendFileRequest isMember] at keeps
    refine ⟨keeps.consistent, funext fun name => ?_⟩
    rw [keeps.held]
    split
    · next same => rw [← same, isHeld]
    · rfl

/-- Members that are sent a file become known as holders. -/
theorem foldl_sendFileRequest
    {targets : List Id} (known : Known service.alive)
    (isHolder : (service.node source).Registers filename)
    (areMembers : ∀ target ∈ targets, target ∈ service.members)
    (isNext : targets.foldl (fun current target =>
      current.sendFileRequest shell source target filename none) service =
        next) :
    Steady service next ∧ ∀ other name,
      next.fileMap.hasFile other name = true ↔
        (other ∈ targets ∧ filename = name) ∨
          service.fileMap.hasFile other name = true := by
  induction targets generalizing service with
  | nil =>
      obtain rfl := isNext
      exact ⟨.refl known, fun _ _ => by simp⟩
  | cons target targets inductionHypothesis =>
      obtain ⟨firstMember, restMembers⟩ := List.forall_mem_cons.mp areMembers
      obtain ⟨first, stillHolder⟩ :=
        @Known.steady_sendFileRequest Id _ shell service source target
          filename known firstMember isHolder
      obtain ⟨rest, restKnown⟩ := inductionHypothesis first.known stillHolder
        (fun target isTarget => first.members ▸ restMembers target isTarget)
        isNext
      refine ⟨first.trans rest, fun other name => ?_⟩
      rw [restKnown, hasFile_sendFileRequest known firstMember,
        List.mem_cons, ← or_assoc, ← or_and_right,
        or_comm (a := other ∈ targets)]

/-- What `replicateFile` leaves behind: three replicas of the file, and the
entries of the other files. -/
structure Repaired
    (service next : FileService Id) (files : String → Prop) : Prop where
  steady : Steady service next
  full : ∀ name, files name → next.fileMap.countReplicates name = 3
  others : ∀ name, ¬ files name →
    next.fileMap.holders name = service.fileMap.holders name
  known : ∀ id name, next.fileMap.hasFile id name = true →
    id ∈ service.members ∨ service.fileMap.hasFile id name = true

theorem numTargets_eq (three : 3 ≤ service.members.length)
    (few : service.fileMap.countReplicates filename ≤ 3) :
    toUnsigned (numTargets service.fileMap service.members filename) =
        3 - service.fileMap.countReplicates filename ∧
      (numTargets service.fileMap service.members filename = 0 ↔
        service.fileMap.countReplicates filename = 3) := by
  have isMissing : numTargets service.fileMap service.members filename =
      3 - service.fileMap.countReplicates filename := by
    unfold numTargets
    omega
  have unsigned := toUnsigned_of_lt
    (show 0 ≤ numTargets service.fileMap service.members filename by omega)
    (by omega)
  constructor <;> omega

theorem Known.replicateFile {draws : List Nat}
    (known : Known service.alive)
    (three : 3 ≤ service.members.length)
    (few : service.fileMap.countReplicates filename ≤ 3)
    (done : service.replicateFile shell filename draws = some next) :
    Repaired service next (· = filename) := by
  obtain ⟨unsigned, enough⟩ := numTargets_eq three few
  obtain ⟨outcome, called, rfl⟩ := Option.map_eq_some_iff.mp done
  cases outcome with
  | none =>
      have isFull := enough.mp ((replicateFile_eq_none_iff called).mp rfl)
      refine ⟨.refl known, ?_, fun _ _ => rfl, fun _ _ => .inr⟩
      rintro name rfl
      exact isFull
  | some command =>
      obtain ⟨card, chosen, isMember, holds⟩ := replicateFile_spec called
      rw [unsigned] at card
      have isHolder : (service.node command.source).Registers filename :=
        (known.known command.source filename).mp
          (hasFile_alive.mpr ⟨isMember, holds⟩)
      obtain ⟨steady, nextKnown⟩ := foldl_sendFileRequest known isHolder
        (fun target isTarget => List.mem_of_mem_filter isTarget)
        (rfl : _ = service.replicate shell filename command)
      have isTarget (id : Id) : id ∈ service.members.filter (fun id =>
          id ∈ command.targets) ↔ id ∈ command.targets := by
        rw [List.mem_filter, decide_eq_true_eq]
        exact and_iff_right_of_imp fun target => (chosen id target).1
      refine ⟨steady, ?_, fun name differs => ?_, fun id name holds => ?_⟩
      · rintro name rfl
        have holders :
            (service.replicate shell name command).fileMap.holders name =
              service.fileMap.holders name ∪ command.targets := by
          ext id
          rw [FileMap.mem_holders_iff, nextKnown, isTarget, Finset.mem_union,
            FileMap.mem_holders_iff, or_comm, and_iff_left rfl]
        have apart : Disjoint (service.fileMap.holders name)
            command.targets := by
          refine Finset.disjoint_left.mpr fun id isOld isNew => ?_
          have without := (chosen id isNew).2
          rw [FileMap.mem_holders_iff.mp isOld] at without
          nomatch without
        change (FileMap.holders _ _).card = 3
        change (service.fileMap.holders name).card ≤ 3 at few
        change command.targets.card = 3 - (service.fileMap.holders name).card
          at card
        change (FileService.replicate shell service name
          command).fileMap.holders name = _ at holders
        rw [Option.elim_some, holders, Finset.card_union_of_disjoint apart,
          card]
        omega
      · ext id
        rw [FileMap.mem_holders_iff, FileMap.mem_holders_iff]
        refine (nextKnown id name).trans (or_iff_right ?_)
        exact fun isNew => differs isNew.2.symm
      · rcases (nextKnown id name).mp holds with isNew | isOld
        · exact .inl (List.mem_of_mem_filter isNew.1)
        · exact .inr isOld

/-- There are draws with which `replicateFile` ends. -/
theorem Known.exists_draws
    (known : Known service.alive)
    (distinct : service.members.Nodup)
    (three : 3 ≤ service.members.length)
    (hasHolder : service.HasHolder filename)
    (few : service.fileMap.countReplicates filename ≤ 3) :
    ∃ draws next, service.replicateFile shell filename draws = some next := by
  obtain ⟨unsigned, enough⟩ := numTargets_eq three few
  by_cases isFull : service.fileMap.countReplicates filename = 3
  · refine ⟨[], service, ?_⟩
    rw [FileService.replicateFile, Master.replicateFile,
      if_pos (enough.mpr isFull)]
    rfl
  · obtain ⟨source, isHolder⟩ := hasHolder
    obtain ⟨isMember, holds⟩ := hasFile_alive.mp
      ((known.known source filename).mpr isHolder)
    let candidates := service.members.filter fun id =>
      !service.fileMap.hasFile id filename
    have missing : 3 - service.fileMap.countReplicates filename ≤
        candidates.length := by
      have split : (memberHolders service.fileMap service.members
          filename).length + candidates.length = service.members.length :=
        length_without service.fileMap service.members filename
      have counted : (memberHolders service.fileMap service.members
          filename).toFinset.card ≤ _ :=
        Finset.card_le_card memberHolders_subset
      rw [memberHolders_card distinct] at counted
      change _ ≤ service.fileMap.countReplicates filename at counted
      omega
    have card : (candidates.take (3 -
        service.fileMap.countReplicates filename)).toFinset.card =
          3 - service.fileMap.countReplicates filename := by
      rw [List.toFinset_card_of_nodup
        ((distinct.filter _).sublist (List.take_sublist _ _)),
        List.length_take, min_eq_left missing]
    obtain ⟨draws, called⟩ := exists_draws_command
      (fun none => isFull (enough.mp none)) (card.trans unsigned.symm)
      (fun target isTarget => by
        have isCandidate :=
          List.mem_of_mem_take (List.mem_toFinset.mp isTarget)
        simpa [candidates] using isCandidate)
      isMember holds
    exact ⟨draws, _, Option.map_eq_some_iff.mpr ⟨_, called, rfl⟩⟩

/-! ## Replicating again -/

/-- Files that the members have and that are known to be stored at most three
times. -/
def Repairable (service : FileService Id) (names : List String) : Prop :=
  ∀ name ∈ names, service.HasHolder name ∧
    service.fileMap.countReplicates name ≤ 3

/-- A repaired file leaves the other ones as they were. -/
theorem Repaired.repairable {names : List String}
    (repaired : Repaired service next (· = filename))
    (isNew : filename ∉ names)
    (repairable : Repairable service (filename :: names)) :
    Repairable next names := by
  intro name isName
  obtain ⟨hasHolder, few⟩ := repairable name (List.mem_cons_of_mem _ isName)
  refine ⟨(repaired.steady.hasHolder name).mpr hasHolder, ?_⟩
  rw [FileMap.countReplicates, repaired.others name fun same =>
    isNew (same ▸ isName)]
  exact few

theorem Repaired.cons {middle : FileService Id} {names : List String}
    (first : Repaired service middle (· = filename))
    (rest : Repaired middle next (· ∈ names)) (isNew : filename ∉ names) :
    Repaired service next (· ∈ filename :: names) where
  steady := first.steady.trans rest.steady
  full := by
    intro name isName
    rcases List.mem_cons.mp isName with rfl | later
    · have same := rest.others name isNew
      rw [FileMap.countReplicates, same]
      exact first.full name rfl
    · exact rest.full name later
  others := by
    intro name differs
    obtain ⟨notFirst, notLater⟩ := not_or.mp (List.mem_cons.not.mp differs)
    exact (rest.others name notLater).trans (first.others name notFirst)
  known := by
    intro id name holds
    rcases rest.known id name holds with isMember | before
    · exact .inl (first.steady.members ▸ isMember)
    · exact first.known id name before

/-- The loop of `reReplicate`. -/
theorem repaired_foldlM {names : List String} {draws : String → List Nat}
    (known : Known service.alive)
    (three : 3 ≤ service.members.length) (distinct : names.Nodup)
    (repairable : Repairable service names)
    (done : names.foldlM (fun current filename =>
      current.replicateFile shell filename (draws filename)) service =
        some next) :
    Repaired service next (· ∈ names) := by
  induction names generalizing service with
  | nil =>
      obtain rfl := Option.some.inj done
      exact ⟨.refl known, nofun, fun _ _ => rfl, fun _ _ => .inr⟩
  | cons filename names inductionHypothesis =>
      obtain ⟨isNew, restDistinct⟩ := List.nodup_cons.mp distinct
      obtain ⟨_, few⟩ := repairable filename List.mem_cons_self
      rw [List.foldlM_cons] at done
      obtain ⟨middle, replicated, rest⟩ := Option.bind_eq_some_iff.mp done
      have first := known.replicateFile three few replicated
      have later := inductionHypothesis first.steady.known
        (first.steady.members ▸ three) restDistinct
        (first.repairable isNew repairable) rest
      exact first.cons later isNew

theorem foldlM_congr {State Value : Type*} {values : List Value}
    {start : State} {step other : State → Value → Option State}
    (same : ∀ state, ∀ value ∈ values, step state value = other state value) :
    values.foldlM step start = values.foldlM other start := by
  induction values generalizing start with
  | nil => rfl
  | cons value values inductionHypothesis =>
      rw [List.foldlM_cons, List.foldlM_cons,
        same start value List.mem_cons_self]
      refine congrArg _ (funext fun state => inductionHypothesis ?_)
      exact fun state later isLater =>
        same state later (List.mem_cons_of_mem value isLater)

/-- There are draws with which the loop ends. -/
theorem exists_draws_foldlM {names : List String}
    (known : Known service.alive)
    (members : service.members.Nodup)
    (three : 3 ≤ service.members.length) (distinct : names.Nodup)
    (repairable : Repairable service names) :
    ∃ (draws : String → List Nat) (next : FileService Id),
      names.foldlM (fun current filename =>
        current.replicateFile shell filename (draws filename)) service =
          some next := by
  induction names generalizing service with
  | nil => exact ⟨fun _ => [], service, rfl⟩
  | cons filename names inductionHypothesis =>
      obtain ⟨isNew, restDistinct⟩ := List.nodup_cons.mp distinct
      obtain ⟨hasHolder, few⟩ := repairable filename List.mem_cons_self
      obtain ⟨firstDraws, middle, replicated⟩ :=
        @Known.exists_draws Id _ shell service filename known members three
          hasHolder few
      have first := known.replicateFile three few replicated
      obtain ⟨draws, next, done⟩ := inductionHypothesis
        first.steady.known (first.steady.members ▸ members)
        (first.steady.members ▸ three) restDistinct
        (first.repairable isNew repairable)
      -- the draws of the later files are those of the induction hypothesis
      refine ⟨Function.update draws filename firstDraws, next, ?_⟩
      rw [List.foldlM_cons, Function.update_self, replicated]
      refine (foldlM_congr fun current name isName => ?_).trans done
      have differs : name ≠ filename := by
        rintro rfl
        exact isNew isName
      rw [Function.update_of_ne differs]

theorem nodup_memberFiles : service.memberFiles.Nodup :=
  (List.perm_insertionSort (· ≤ ·) _).nodup_iff.mpr (List.nodup_dedup _)

/-- The files that are collected are those with a holder. -/
theorem Known.mem_memberFiles (known : Known service.alive) :
    name ∈ service.memberFiles ↔ service.HasHolder name := by
  rw [memberFiles, FileMap.memberFiles, List.mem_insertionSort,
    List.mem_dedup, List.mem_flatMap,
    HasHolder]
  refine exists_congr fun id => ?_
  refine Iff.trans ?_ (known.known id name)
  rw [hasFile_alive]
  refine and_congr_right fun _ => ?_
  rw [FileMap.hasFile, listsFile, List.any_eq_true, List.mem_map]
  simp only [beq_iff_eq]

/-- After `reReplicate`, the members have what they had, three times. -/
theorem Known.reReplicate {draws : String → List Nat}
    (known : Known service.alive)
    (enough : ∀ name, service.HasHolder name →
      3 ≤ service.members.length ∧ service.fileMap.countReplicates name ≤ 3)
    (done : service.reReplicate shell draws = some next) :
    Repaired service next service.HasHolder := by
  have isFile (name : String) :
      name ∈ service.memberFiles ↔ service.HasHolder name :=
    known.mem_memberFiles
  by_cases nothing : service.memberFiles = []
  · rw [FileService.reReplicate, nothing] at done
    obtain rfl := Option.some.inj done
    refine ⟨.refl known, fun name hasHolder => ?_, fun _ _ => rfl,
      fun _ _ => .inr⟩
    rw [← isFile, nothing] at hasHolder
    cases hasHolder
  · obtain ⟨first, isFirst⟩ := List.exists_mem_of_ne_nil _ nothing
    have repaired := repaired_foldlM known
      (enough first ((isFile first).mp isFirst)).1 nodup_memberFiles
      (fun name isName => ⟨(isFile name).mp isName,
        (enough name ((isFile name).mp isName)).2⟩) done
    exact
      { repaired with
        full := fun name hasHolder =>
          repaired.full name ((isFile name).mpr hasHolder)
        others := fun name missing =>
          repaired.others name fun isName => missing ((isFile name).mp isName) }

end FileService

end Master
end CraneSps
