import CraneSps.Master.Durability
import CraneSps.Master.Simulation

/-!
# Operations one after the other

`FileService` carries out every operation as a whole, `Cluster` in the steps of
its threads and messages.  Each operation of the one is a run of the other, at
whose beginning and end nothing is under way.
-/

namespace CraneSps
namespace Master

open FileTransfer

variable {Id : Type} [LinearOrder Id]

namespace Cluster

/-- A cluster in which nothing is under way. -/
def idle
    (fileMap : Id → FileMap Id) (deleted : List (Id × String))
    (service : FileService Id) : Cluster Id where
  files := { store := service.node, approvals := [], fetches := [] }
  fileMap := fileMap
  members := service.members
  failing := []
  rebuilds := []
  handlers := []
  calls := []
  commands := []
  updates := []
  deleted := deleted

/-- Besides, a node is the master of the service. -/
def resting
    (master : Id) (others : Id → FileMap Id) (deleted : List (Id × String))
    (service : FileService Id) : Cluster Id :=
  idle (Function.update others master service.fileMap) deleted service

/-- The master is going to call `replicateFile` for some files, and there may
be a command. -/
def replicating
    (master : Id) (others : Id → FileMap Id) (deleted : List (Id × String))
    (calls : List String) (commands : List (String × Replication Id))
    (service : FileService Id) : Cluster Id :=
  { resting master others deleted service with
    calls := calls.map fun filename => (master, filename)
    commands := commands }

variable {shell : Shell} {name : Id → String} {master : Id}
variable {others : Id → FileMap Id} {deleted : List (Id × String)}
variable {calls : List String} {service next : FileService Id}
variable {source target : Id} {targets : Finset Id} {filename : String}

theorem fileMap_resting
    (master : Id) (others : Id → FileMap Id) (deleted : List (Id × String))
    (service : FileService Id) :
    (resting master others deleted service).fileMap master =
      service.fileMap :=
  Function.update_self _ _ _

theorem setFileMap_resting {fileMap : FileMap Id} :
    (resting master others deleted service).setFileMap master fileMap =
      resting master others deleted { service with fileMap := fileMap } := by
  simp only [resting, idle, setFileMap, Function.update_idem]

/-! ## Replications -/

/-- A request of `sendFileRequest` that names no path is that of a
replication. -/
theorem sendFileRequest_none :
    (service.node source).sendFileRequest shell filename none 9601 =
      (service.node source).sendRequest shell filename 9601 := rfl

/-- What an approved request comes to. -/
theorem sendFileRequest_of_approved
    {client : FetchClient}
    (answer : (service.node target).processSendRequest
      ((service.node source).sendRequest shell filename 9601) =
        some client) :
    service.sendFileRequest shell source target filename none =
      { service.setNode target (client.fetchAll shell (service.node target)
          (client.fetched (service.stored source filename))) with
        fileMap := service.fileMap.addToFileMap target
          (FileInfo.new client.filename client.filemd5 client.filesize) } := by
  obtain ⟨_, named, keeps, _⟩ := processSendRequest_eq_some answer
  rw [FileService.sendFileRequest, sendFileRequest_none, answer]
  simp only [FetchClient.fetchAll, FetchClient.finish, if_pos keeps, named]
  rfl

/-- A target of a command is asked, and what it fetches is reported. -/
theorem reaches_sendFileRequest (isTarget : target ∈ targets) :
    (clusterSystem shell name).Reaches
      (replicating master others deleted calls
        [(filename, ⟨source, targets⟩)] service)
      (replicating master others deleted calls
        [(filename, ⟨source, targets.erase target⟩)]
        (service.sendFileRequest shell source target filename none)) := by
  let before := replicating master others deleted calls
    [(filename, ⟨source, targets⟩)] service
  let asked : Cluster Id :=
    { replicating master others deleted calls
        [(filename, ⟨source, targets.erase target⟩)] service with
      files := before.ask shell filename source target 9601 }
  have asks : before.step shell (.sendFileRequest 0 target 9601) =
      some asked := if_pos isTarget
  refine reaches_head asks ?_
  cases answer : (service.node target).processSendRequest
      ((service.node source).sendRequest shell filename 9601) with
  | none =>
      have sameFiles : before.ask shell filename source target 9601 =
          before.files := by
        unfold ask
        split
        · next client found => cases answer.symm.trans found
        · rfl
      have sameService : service.sendFileRequest shell source target filename
          none = service := by
        rw [FileService.sendFileRequest, sendFileRequest_none, answer]
      rw [sameService]
      have same : asked = replicating master others deleted calls
          [(filename, ⟨source, targets.erase target⟩)] service := by
        simp only [asked, sameFiles]
        rfl
      rw [same]
      exact .refl _
  | some client =>
      let fetch : GroupFetch Id :=
        ⟨target, client, client.fetched (service.stored source filename)⟩
      have sameFiles : before.ask shell filename source target 9601 =
          before.files.ask fetch := by
        unfold ask
        split
        · next other found =>
            obtain rfl := Option.some.inj (answer.symm.trans found)
            rfl
        · next found => cases answer.symm.trans found
      let fetched : Cluster Id :=
        { asked with
          files := asked.files.finishFetch shell 0 fetch
          updates := [report fetch master] }
      have isFetch : asked.files.fetches = [fetch] := by
        simp only [asked, sameFiles]
        rfl
      have fetches : asked.step shell (.finishFetch 0 (some master)) =
          some fetched := by
        simp only [step, isFetch]
        rfl
      refine reaches_head fetches ?_
      have updates : fetched.step shell (.update 0) =
          some
            { fetched.setFileMap master
                ((fetched.fileMap master).addToFileMap target
                  (FileInfo.new client.filename client.filemd5
                    client.filesize)) with
              updates := [] } := rfl
      refine reaches_head updates ?_
      have sameMap : fetched.fileMap master = service.fileMap :=
        fileMap_resting master others deleted service
      have same : { fetched.setFileMap master
            ((fetched.fileMap master).addToFileMap target
              (FileInfo.new client.filename client.filemd5
                client.filesize)) with
          updates := [] } =
          replicating master others deleted calls
            [(filename, ⟨source, targets.erase target⟩)]
            (service.sendFileRequest shell source target filename none) := by
        rw [sendFileRequest_of_approved answer, sameMap]
        simp only [fetched, asked, sameFiles, setFileMap, replicating,
          resting, idle, Function.update_idem]
        rfl
      rw [same]
      exact .refl _

/-- The targets of a command are asked one after the other. -/
theorem reaches_targets
    {ids : List Id} (nodup : ids.Nodup)
    (areTargets : ∀ id ∈ ids, id ∈ targets) :
    ∃ rest, (clusterSystem shell name).Reaches
      (replicating master others deleted calls
        [(filename, ⟨source, targets⟩)] service)
      (replicating master others deleted calls [(filename, ⟨source, rest⟩)]
        (ids.foldl
          (fun current target =>
            current.sendFileRequest shell source target filename none)
          service)) := by
  induction ids generalizing service targets with
  | nil => exact ⟨targets, .refl _⟩
  | cons id ids inductionHypothesis =>
      obtain ⟨notLater, nodup⟩ := List.nodup_cons.mp nodup
      obtain ⟨isTarget, areTargets⟩ := List.forall_mem_cons.mp areTargets
      have remain : ∀ other ∈ ids, other ∈ targets.erase id := by
        intro other present
        refine Finset.mem_erase.mpr ⟨?_, areTargets other present⟩
        rintro rfl
        exact notLater present
      obtain ⟨rest, later⟩ := inductionHypothesis nodup remain
      exact ⟨rest, (reaches_sendFileRequest isTarget).trans later⟩

/-- A command is followed. -/
theorem reaches_replicate
    (distinct : service.members.Nodup) (command : Replication Id) :
    (clusterSystem shell name).Reaches
      (replicating master others deleted calls [(filename, command)] service)
      (replicating master others deleted calls []
        (service.replicate shell filename command)) := by
  obtain ⟨source, targets⟩ := command
  have areTargets : ∀ id ∈ service.members.filter fun id => id ∈ targets,
      id ∈ targets := by
    intro id isAsked
    simpa using List.of_mem_filter isAsked
  obtain ⟨rest, asked⟩ := @reaches_targets Id _ shell name master others
    deleted calls service source targets filename
    (service.members.filter fun id => id ∈ targets) (distinct.filter _)
    areTargets
  have dropped : (replicating master others deleted calls
        [(filename, ⟨source, rest⟩)]
        (service.replicate shell filename ⟨source, targets⟩)).step shell
          (.dropCommand 0) =
      some (replicating master others deleted calls []
        (service.replicate shell filename ⟨source, targets⟩)) := rfl
  exact asked.trans (reaches_once dropped)

/-- A call of `replicateFile` with the command that it sends. -/
theorem reaches_replicateFile
    (distinct : service.members.Nodup) {draws : List Nat}
    (replicated : service.replicateFile shell filename draws = some next) :
    (clusterSystem shell name).Reaches
      (replicating master others deleted (filename :: calls) [] service)
      (replicating master others deleted calls [] next) := by
  obtain ⟨outcome, called, rfl⟩ := Option.map_eq_some_iff.mp replicated
  let before := replicating master others deleted (filename :: calls) []
    service
  have sameMap : before.fileMap master = service.fileMap :=
    fileMap_resting master others deleted service
  have steps : before.step shell (.replicate master filename draws) =
      some (replicating master others deleted calls
        (outcome.map fun command => (filename, command)).toList
        service) := by
    have isCall : (master, filename) ∈ before.calls := List.mem_cons_self
    have remaining : before.calls.erase (master, filename) =
        calls.map fun filename => (master, filename) :=
      List.erase_cons_head _ _
    have members : before.members = service.members := rfl
    simp only [step, if_pos isCall, sameMap, members, called, remaining]
    rfl
  refine reaches_head steps ?_
  cases outcome with
  | none => exact .refl _
  | some command => exact reaches_replicate distinct command

theorem members_sendFileRequest :
    (service.sendFileRequest shell source target filename none).members =
      service.members := by
  unfold FileService.sendFileRequest
  split <;> rfl

/-- A command leaves the members. -/
theorem members_replicateFile
    {draws : List Nat}
    (replicated : service.replicateFile shell filename draws = some next) :
    next.members = service.members := by
  obtain ⟨outcome, _, rfl⟩ := Option.map_eq_some_iff.mp replicated
  cases outcome with
  | none => rfl
  | some command =>
      have asked : ∀ (ids : List Id) (current : FileService Id),
          (ids.foldl
            (fun current target =>
              current.sendFileRequest shell command.source target filename
                none)
            current).members = current.members := by
        intro ids
        induction ids with
        | nil => exact fun _ => rfl
        | cons id ids inductionHypothesis =>
            intro current
            exact (inductionHypothesis _).trans members_sendFileRequest
      exact asked _ service

/-- The calls of `reReplicate`, one after the other. -/
theorem reaches_calls
    (distinct : service.members.Nodup) {draws : String → List Nat}
    {filenames : List String}
    (replicated : filenames.foldlM
      (fun current filename =>
        current.replicateFile shell filename (draws filename))
      service = some next) :
    (clusterSystem shell name).Reaches
      (replicating master others deleted filenames [] service)
      (resting master others deleted next) := by
  induction filenames generalizing service with
  | nil =>
      obtain rfl := Option.some.inj replicated
      exact .refl _
  | cons filename filenames inductionHypothesis =>
      rw [List.foldlM_cons] at replicated
      obtain ⟨middle, first, rest⟩ := Option.bind_eq_some_iff.mp replicated
      have sameMembers := members_replicateFile first
      exact (reaches_replicateFile distinct first).trans
        (inductionHypothesis (sameMembers ▸ distinct) rest)

theorem members_foldlM
    {draws : String → List Nat} {filenames : List String}
    (replicated : filenames.foldlM
      (fun current filename =>
        current.replicateFile shell filename (draws filename))
      service = some next) : next.members = service.members := by
  induction filenames generalizing service with
  | nil =>
      obtain rfl := Option.some.inj replicated
      rfl
  | cons filename filenames inductionHypothesis =>
      rw [List.foldlM_cons] at replicated
      obtain ⟨middle, first, rest⟩ := Option.bind_eq_some_iff.mp replicated
      exact (inductionHypothesis rest).trans (members_replicateFile first)

/-- `reReplicate`. -/
theorem reaches_reReplicate
    (distinct : service.members.Nodup) {draws : String → List Nat}
    (replicated : service.reReplicate shell draws = some next) :
    (clusterSystem shell name).Reaches
      ((resting master others deleted service).reReplicate master)
      (resting master others deleted next) := by
  have same : (resting master others deleted service).reReplicate master =
      replicating master others deleted service.memberFiles [] service := by
    simp only [reReplicate, fileMap_resting]
    rfl
  rw [same]
  exact reaches_calls distinct replicated

/-! ## Operations -/

/-- A `PUT` up to the end of the replication. -/
theorem reaches_put
    (distinct : service.members.Nodup) {putter : Id} {content : Bytes}
    {draws : List Nat}
    (put : service.put shell putter filename content draws = some next) :
    ∃ after, (clusterSystem shell name).Reaches
      (resting master others deleted service)
      (resting master others after next) := by
  rw [FileService.put] at put
  split at put
  · next unknown =>
      let info := FileInfo.new filename (shell.md5 content) content.length
      let approved := (resting master others deleted service).approvePut
        master putter info content
      let registered : Cluster Id :=
        { replicating master others approved.deleted [filename] []
            { service with
              fileMap := service.fileMap.addToFileMap putter info } with
          files := approved.files }
      have approves : (resting master others deleted service).step shell
          (.put master putter filename content) = some approved :=
        if_pos
          ((fileMap_resting master others deleted service).symm ▸ unknown)
      have registers : approved.step shell (.addToFileMap 0) =
          some registered := by
        have sameMap : approved.fileMap master = service.fileMap :=
          fileMap_resting master others deleted service
        have added : approved.step shell (.addToFileMap 0) =
            some
              { approved.setFileMap master
                  ((approved.fileMap master).addToFileMap putter info) with
                handlers := []
                calls := [(master, filename)] } := rfl
        rw [added, sameMap]
        simp only [registered, approved, approvePut, setFileMap, replicating,
          resting, idle, Function.update_idem]
        rfl
      have copies : registered.step shell (.receiveApproval 0) =
          some (replicating master others approved.deleted [filename] []
            (service.approve shell putter filename content)) := rfl
      exact ⟨approved.deleted, reaches_head approves
        (reaches_head registers
          (reaches_head copies (reaches_replicateFile distinct put)))⟩
  · obtain rfl := Option.some.inj put
    exact ⟨deleted, .refl _⟩

/-- The master deletes a file of some nodes. -/
def deleting
    (master : Id) (others : Id → FileMap Id) (deleted : List (Id × String))
    (filename : String) (ids : List Id) (service : FileService Id) :
    Cluster Id :=
  { resting master others deleted service with
    handlers := [.deleting master filename ids] }

/-- What the targets of a `DEL` leave. -/
theorem resting_foldl_deleteAt (ids : List Id) :
    resting master others deleted
      (ids.foldl (fun current target => current.deleteAt filename target)
        service) =
      { (resting master others deleted service).setFileMap master
          (ids.foldl
            (fun current id => current.deleteFromFileMap id filename)
            service.fileMap) with
        files := ids.foldl (fun files id => files.delete id filename)
          (resting master others deleted service).files } := by
  induction ids generalizing service with
  | nil => rw [List.foldl_nil, List.foldl_nil, setFileMap_resting]; rfl
  | cons id ids inductionHypothesis =>
      simp only [List.foldl_cons]
      rw [inductionHypothesis, setFileMap_resting, setFileMap_resting]
      rfl

/-- The targets of a `DEL` lose the file one after the other. -/
theorem reaches_deleteAt (ids : List Id) :
    (clusterSystem shell name).Reaches
      (deleting master others deleted filename ids service)
      (resting master others deleted
        (ids.foldl
          (fun current target => current.deleteAt filename target)
          service)) := by
  have reaches := @reaches_deleteTargets Id _ shell name master filename [] ids
    (deleting master others deleted filename ids service) rfl
  have sameMap : (deleting master others deleted filename ids service).fileMap
      master = service.fileMap := fileMap_resting master others deleted service
  rw [sameMap] at reaches
  rw [resting_foldl_deleteAt]
  exact reaches

/-- A `DEL` up to its reply. -/
theorem reaches_delete :
    ∃ after, (clusterSystem shell name).Reaches
      (resting master others deleted service)
      (resting master others after (service.delete filename)) := by
  have sameMap := fileMap_resting master others deleted service
  refine ⟨deleted ++ [(master, filename)], ?_⟩
  rw [FileService.delete]
  split
  · next unknown =>
      have deletes : (resting master others deleted service).step shell
          (.delete master filename) =
            some (resting master others (deleted ++ [(master, filename)])
              service) := if_pos (sameMap.symm ▸ unknown)
      exact reaches_once deletes
  · next known =>
      have deletes : (resting master others deleted service).step shell
          (.delete master filename) =
            some (deleting master others (deleted ++ [(master, filename)])
              filename
              (memberHolders service.fileMap service.members filename)
              service) := by
        refine (if_neg (sameMap.symm ▸ known)).trans ?_
        simp only [startDelete, fileMap_resting]
        rfl
      exact reaches_head deletes (reaches_deleteAt _)

/-- A node becomes a member. -/
theorem reaches_join {id : Id} (isNew : id ∉ service.members) :
    (clusterSystem shell name).Reaches
      (resting master others deleted service)
      (resting master others deleted (service.join id)) := by
  have joins : (resting master others deleted service).step shell (.join id) =
      some (resting master others deleted (service.join id)) := if_neg isNew
  exact reaches_once joins

/-- A member crashes, and its daemon starts again. -/
theorem reaches_fail
    {fileMap : Id → FileMap Id} {id : Id} (distinct : service.members.Nodup)
    (isMember : id ∈ service.members) :
    ∃ after, (clusterSystem shell name).Reaches
      (idle fileMap deleted service)
      (idle (Function.update fileMap id .empty) after (service.fail id)) := by
  let left : Cluster Id :=
    { idle fileMap deleted service with
      members := service.members.erase id }
  let after := deleted.filter fun entry => entry.1 ≠ id
  have leaves : (idle fileMap deleted service).step shell (.leave id) =
      some left := if_pos isMember
  have restarts : left.step shell (.restart id) =
      some (idle (Function.update fileMap id .empty) after
        (service.fail id)) := if_neg distinct.not_mem_erase
  exact ⟨after, reaches_head leaves (reaches_once restarts)⟩

/-- The thread of `handle(NodeFailEvent)`. -/
theorem reaches_handleFail
    (distinct : service.members.Nodup) {id : Id} {draws : String → List Nat}
    (handled : (service.clear id).reReplicate shell draws = some next) :
    (clusterSystem shell name).Reaches
      (resting master others deleted service)
      (resting master others deleted next) := by
  let noticed : Cluster Id :=
    { resting master others deleted service with failing := [(master, id)] }
  let cleared : Cluster Id :=
    resting master others deleted (service.clear id)
  have notices : (resting master others deleted service).step shell
      (.nodeFail master id) = some noticed := rfl
  have clears : noticed.step shell (.handleFail master id) =
      some (cleared.reReplicate master) := by
    have sameMap : noticed.fileMap master = service.fileMap :=
      fileMap_resting master others deleted service
    have isSet : (resting master others deleted service).setFileMap master
        (service.fileMap.set id []) = cleared := setFileMap_resting
    have same :
        { noticed.setFileMap master (service.fileMap.set id []) with
          failing := [(master, id)].erase (master, id) } = cleared := by
      rw [List.erase_cons_head]
      exact congrArg
        (fun cluster : Cluster Id => { cluster with failing := [] }) isSet
    refine (if_pos (List.mem_singleton_self _)).trans ?_
    rw [sameMap]
    exact congrArg (fun cluster : Cluster Id =>
      some (cluster.reReplicate master)) same
  exact reaches_head notices
    (reaches_head clears (reaches_reReplicate distinct handled))

/-- A new master rebuilds its map from the lists of the members. -/
def rebuilding
    (master : Id) (others : Id → FileMap Id) (deleted : List (Id × String))
    (ids : List Id) (service : FileService Id) : Cluster Id :=
  { resting master others deleted service with
    rebuilds := [⟨master, ids, none⟩] }

/-- The members reply to their `LIST` commands one after the other. -/
theorem reaches_list (ids : List Id) :
    (clusterSystem shell name).Reaches
      (rebuilding master others deleted ids service)
      (rebuilding master others deleted []
        { service with
          fileMap := ids.foldl
            (fun fileMap id =>
              fileMap.processListReply id (service.node id).localFiles)
            service.fileMap }) := by
  induction ids generalizing service with
  | nil => exact .refl _
  | cons id ids inductionHypothesis =>
      let infos := (service.node id).localFiles
      let replied : Cluster Id :=
        { rebuilding master others deleted (id :: ids) service with
          rebuilds := [⟨master, id :: ids, some infos⟩] }
      let listed : FileService Id :=
        { service with fileMap := service.fileMap.processListReply id infos }
      have replies : (rebuilding master others deleted (id :: ids) service).step
          shell (.list 0) = some replied := rfl
      have updates : replied.step shell (.updateFileMap 0) =
          some (rebuilding master others deleted ids listed) := by
        have sameMap : replied.fileMap master = service.fileMap :=
          fileMap_resting master others deleted service
        have isSet : (resting master others deleted service).setFileMap master
            (service.fileMap.processListReply id infos) =
              resting master others deleted listed := setFileMap_resting
        have updated : replied.step shell (.updateFileMap 0) =
            some
              { replied.setFileMap master
                  ((replied.fileMap master).processListReply id infos) with
                rebuilds := [⟨master, ids, none⟩] } := rfl
        rw [updated, sameMap]
        exact congrArg
          (fun cluster : Cluster Id =>
            some { cluster with rebuilds := [⟨master, ids, none⟩] })
          isSet
      exact reaches_head replies (reaches_head updates inductionHypothesis)

/-- `start` at a node that has not been a master. -/
theorem reaches_start
    {fileMap : Id → FileMap Id} (isNew : fileMap master = .empty)
    (distinct : service.members.Nodup) {draws : String → List Nat}
    (started : service.list.reReplicate shell draws = some next) :
    (clusterSystem shell name).Reaches (idle fileMap deleted service)
      (resting master fileMap deleted next) := by
  have same : idle fileMap deleted service =
      resting master fileMap deleted
        { service with fileMap := .empty } := by
    simp only [resting, ← isNew, Function.update_eq_self]
    rfl
  have starts : (idle fileMap deleted service).step shell (.start master) =
      some (rebuilding master fileMap deleted service.members
        { service with fileMap := .empty }) := by
    rw [same]
    rfl
  have ended : (rebuilding master fileMap deleted [] service.list).step shell
      (.endStart 0) =
        some ((resting master fileMap deleted service.list).reReplicate
          master) := rfl
  exact reaches_head starts ((reaches_list service.members).trans
    (reaches_head ended (reaches_reReplicate distinct started)))

/-! ## Runs under one master -/

/-- The action is one of the service under the master: it does not start
again, and no other node is elected.  A `GET` changes no file of the
service. -/
def Serves (master : Id) : ReplicasAction Id → Prop
  | .get _ _ _ | .start _ => False
  | .fail id => id ≠ master
  | _ => True

theorem members_put
    {putter : Id} {content : Bytes} {draws : List Nat}
    (put : service.put shell putter filename content draws = some next) :
    next.members = service.members := by
  rw [FileService.put] at put
  split at put
  · have called : (service.approve shell putter filename
        content).replicateFile shell filename draws = some next := put
    have sameMembers := members_replicateFile called
    exact sameMembers
  · obtain rfl := Option.some.inj put
    rfl

theorem members_delete :
    (service.delete filename).members = service.members := by
  have deletes (ids : List Id) (current : FileService Id) :
      (ids.foldl (fun current target => current.deleteAt filename target)
        current).members = current.members := by
    induction ids generalizing current with
    | nil => rfl
    | cons id ids inductionHypothesis =>
        exact inductionHypothesis (current.deleteAt filename id)
  rw [FileService.delete]
  split
  · rfl
  · exact deletes _ service

/-- An action of the service is a run of the cluster. -/
theorem reaches_of_step
    {state after : Replicas Id} {action : ReplicasAction Id}
    (distinct : state.service.members.Nodup) (serves : Serves master action)
    (stepped : state.step shell action = some after) :
    after.service.members.Nodup ∧
      ∃ others' deleted', (clusterSystem shell name).Reaches
        (resting master others deleted state.service)
        (resting master others' deleted' after.service) := by
  cases action with
  | put putter filename content draws =>
      simp only [Replicas.step, Option.ite_none_right_eq_some,
        Option.map_eq_some_iff] at stepped
      obtain ⟨_, service, put, rfl⟩ := stepped
      obtain ⟨deleted', reaches⟩ := reaches_put distinct put
      exact ⟨members_put put ▸ distinct, others, deleted', reaches⟩
  | get id filename filepath => exact serves.elim
  | delete filename =>
      obtain rfl := Option.some.inj stepped
      obtain ⟨deleted', reaches⟩ := @reaches_delete Id _ shell name master
        others deleted state.service filename
      refine ⟨?_, others, deleted', reaches⟩
      exact (members_delete : _ = state.service.members) ▸ distinct
  | join id =>
      simp only [Replicas.step, Option.ite_none_left_eq_some,
        Option.some.injEq] at stepped
      obtain ⟨isNew, rfl⟩ := stepped
      refine ⟨?_, others, deleted, reaches_join isNew⟩
      exact (List.perm_orderedInsert _ id _).nodup_iff.mpr
        (List.nodup_cons.mpr ⟨isNew, distinct⟩)
  | fail id =>
      simp only [Replicas.step, Option.ite_none_right_eq_some,
        Option.some.injEq] at stepped
      obtain ⟨isMember, rfl⟩ := stepped
      obtain ⟨deleted', reaches⟩ := reaches_fail distinct isMember
      have same : Function.update
          (Function.update others master state.service.fileMap) id .empty =
            Function.update (Function.update others id .empty) master
              state.service.fileMap := Function.update_comm serves.symm _ _ _
      exact ⟨distinct.erase id, Function.update others id .empty, deleted',
        by rwa [same] at reaches⟩
  | handleFail id draws =>
      simp only [Replicas.step, Option.ite_none_right_eq_some,
        Option.map_eq_some_iff] at stepped
      obtain ⟨_, service, handled, rfl⟩ := stepped
      have sameMembers : service.members = state.service.members :=
        @members_foldlM Id _ shell (state.service.clear id) service draws _
          handled
      exact ⟨sameMembers ▸ distinct, others, deleted,
        reaches_handleFail distinct handled⟩
  | start draws => exact serves.elim

/-- Every run of the service under one master, from its start, is a run of the
cluster. -/
theorem reaches_of_runs
    {actions : List (ReplicasAction Id)} {state : Replicas Id}
    (serves : ∀ action ∈ actions, Serves master action)
    (runs : (replicas shell name).Runs (Replicas.initial name) actions
      state) :
    ∃ others deleted, (clusterSystem shell name).Reaches
      (clusterSystem shell name).initial
      (resting master others deleted state.service) := by
  have every : (replicas shell name).Every
      (fun _ action => Serves master action) (Replicas.initial name)
      actions := TransitionSystem.every_of_forall _ serves
  refine (every.invariant runs
    (fun current => current.service.members.Nodup ∧
      ∃ others deleted, (clusterSystem shell name).Reaches
        (clusterSystem shell name).initial
        (resting master others deleted current.service)) ?_ ?_).2
  · rintro current action next ⟨distinct, others, deleted, reaches⟩ serves
      stepped
    obtain ⟨stillDistinct, others', deleted', onward⟩ :=
      reaches_of_step distinct serves stepped
    exact ⟨stillDistinct, others', deleted', reaches.trans onward⟩
  · have same : resting master (fun _ => .empty) []
        (Replicas.initial name).service =
          (clusterSystem shell name).initial := by
      have sameMap : Function.update (fun _ => FileMap.empty) master
          (Replicas.initial name).service.fileMap =
            fun _ : Id => FileMap.empty := Function.update_eq_self _ _
      rw [resting, sameMap]
      rfl
    exact ⟨List.nodup_nil, fun _ => .empty, [], same ▸ .refl _⟩

end Cluster
end Master
end CraneSps
