import CraneSps.Master.Cluster
import CraneSps.Master.Operations
import CraneSps.Master.Tracking

/-!
# Masters and groups within the cluster

`State` is one master whose requests come from nowhere, `Group` all masters
among nodes that do not fail.  Each of their steps is a run of the cluster, as
long as what it needs is under way there, and what they show of the cluster
stays the same.
-/

namespace CraneSps
namespace Master

open FileTransfer

variable {Id : Type} [LinearOrder Id]

namespace Cluster

variable {shell : Shell} {name : Id → String} {cluster : Cluster Id}
variable {master : Id} {filename : String}

/-! ## One master -/

/-- What a master knows and is about to do. -/
def view (cluster : Cluster Id) (master : Id) : State Id where
  fileMap := cluster.fileMap master
  members := cluster.members
  failing := cluster.failing.valuesOf master
  calls := cluster.calls.valuesOf master

/-- What a step of the master needs: a request or a reply that is under way,
or enough draws. -/
def Offers (shell : Shell) (cluster : Cluster Id) (master : Id) :
    Action Id → Prop
  | .put _ info => ∃ content : Bytes,
      info = FileInfo.new info.name (shell.md5 content) content.length
  | .update id info => ⟨master, id, info⟩ ∈ cluster.updates
  | .list id infos => infos = (cluster.files.store id).localFiles ∧
      ∃ remaining, ⟨master, id :: remaining, none⟩ ∈ cluster.rebuilds
  | .reReplicate => ⟨master, [], none⟩ ∈ cluster.rebuilds
  | .replicate filename => ∃ draws,
      replicateFile (cluster.fileMap master) cluster.members filename draws ≠
        none
  | .delete _ | .join _ | .leave _ | .nodeFail _ | .handleFail _ => True

theorem view_initial :
    (Cluster.initial name).view master = (State.initial : State Id) := rfl

theorem view_reReplicate :
    (cluster.reReplicate master).view master =
      (cluster.view master).reReplicate := by
  simp [view, reReplicate, State.reReplicate]

/-- A `PUT` is approved and registered. -/
theorem reaches_register
    {putter : Id} {info : FileInfo} {content : Bytes}
    (unknown : (cluster.fileMap master).countReplicates info.name = 0)
    (isOf : info =
      FileInfo.new info.name (shell.md5 content) content.length) :
    ∃ after, (clusterSystem shell name).Reaches cluster after ∧
      after.view master =
        { cluster.view master with
          fileMap := (cluster.fileMap master).addToFileMap putter info
          calls := (cluster.view master).calls ++ [info.name] } := by
  let approved := cluster.approvePut master putter info content
  have puts : cluster.step shell (.put master putter info.name content) =
      some approved := by
    refine (if_pos unknown).trans ?_
    rw [← isOf]
  have found : approved.handlers[cluster.handlers.length]? =
      some (.registering master putter info) := by
    simp [approved, approvePut]
  have adds : approved.step shell (.addToFileMap cluster.handlers.length) =
      some
        { approved.setFileMap master
            ((cluster.fileMap master).addToFileMap putter info) with
          handlers := approved.handlers.eraseIdx cluster.handlers.length
          calls := cluster.calls ++ [(master, info.name)] } := by
    simp only [step, found]
    rfl
  refine ⟨_, reaches_head puts (reaches_once adds), ?_⟩
  simp [view, setFileMap, approved, approvePut, List.valuesOf]

/-- The first member of a rebuild is asked for its files. -/
theorem reaches_processListReply
    {index : Nat} {id : Id} {remaining : List Id}
    (found : cluster.rebuilds[index]? =
      some ⟨master, id :: remaining, none⟩) :
    ∃ after, (clusterSystem shell name).Reaches cluster after ∧
      after.view master =
        { cluster.view master with
          fileMap := (cluster.fileMap master).processListReply id
            (cluster.files.store id).localFiles } := by
  let infos := (cluster.files.store id).localFiles
  let replied : Cluster Id :=
    { cluster with
      rebuilds := cluster.rebuilds.set index
        ⟨master, id :: remaining, some infos⟩ }
  have replies : cluster.step shell (.list index) = some replied := by
    simp only [step, found]
    rfl
  have inside := (List.getElem?_eq_some_iff.mp found).1
  have isReplied : replied.rebuilds[index]? =
      some ⟨master, id :: remaining, some infos⟩ := by
    simp [replied, inside]
  have updates : replied.step shell (.updateFileMap index) =
      some
        { replied.setFileMap master
            ((cluster.fileMap master).processListReply id infos) with
          rebuilds := replied.rebuilds.set index
            ⟨master, remaining, none⟩ } := by
    simp only [step, isReplied]
    rfl
  refine ⟨_, reaches_head replies (reaches_once updates), ?_⟩
  simp [view, setFileMap, replied, infos]

/-- The targets of a `DEL` lose the file one after the other. -/
theorem reaches_deleteTargets
    {handlers : List (Handler Id)} (targets : List Id) (cluster : Cluster Id)
    (last : cluster.handlers =
      handlers ++ [.deleting master filename targets]) :
    (clusterSystem shell name).Reaches cluster
      { cluster.setFileMap master
          (targets.foldl
            (fun current id => current.deleteFromFileMap id filename)
            (cluster.fileMap master)) with
        files := targets.foldl (fun files id => files.delete id filename)
          cluster.files
        handlers := handlers } := by
  have found : cluster.handlers[handlers.length]? =
      some (.deleting master filename targets) := by simp [last]
  induction targets generalizing cluster with
  | nil =>
      have ended : cluster.step shell (.deleteNext handlers.length) =
          some { cluster with handlers := handlers } := by
        simp only [step, found]
        simp [last, List.eraseIdx_append_of_length_le]
      have same : cluster.setFileMap master (cluster.fileMap master) =
          cluster := by
        simp only [setFileMap, Function.update_eq_self]
      simp only [List.foldl_nil, same]
      exact reaches_once ended
  | cons target targets inductionHypothesis =>
      let deleted :=
        cluster.deleteAt handlers.length master filename target targets
      have deletes : cluster.step shell (.deleteNext handlers.length) =
          some deleted := by
        simp only [step, found]
        rfl
      have rest := inductionHypothesis deleted (by simp [deleted, deleteAt,
        last]) (by simp [deleted, deleteAt, last])
      have sameMap : deleted.fileMap master =
          (cluster.fileMap master).deleteFromFileMap target filename :=
        Function.update_self _ _ _
      rw [sameMap] at rest
      refine reaches_head deletes ?_
      simpa only [deleted, setFileMap, deleteAt, Function.update_idem,
        List.foldl_cons] using rest

/-- A step of a master is a run of the cluster. -/
theorem reaches_of_masterStep
    {next : State Id} {action : Action Id}
    (offers : cluster.Offers shell master action)
    (stepped : (cluster.view master).step action = some next) :
    ∃ after, (clusterSystem shell name).Reaches cluster after ∧
      after.view master = next := by
  cases State.transition_of_step stepped with
  | approvePut unknown =>
      obtain ⟨content, isOf⟩ := offers
      exact reaches_register unknown isOf
  | refusePut known => exact ⟨cluster, .refl _, rfl⟩
  | @update id info =>
      obtain ⟨index, found⟩ := List.mem_iff_getElem?.mp offers
      have updates : cluster.step shell (.update index) =
          some
            { cluster.setFileMap master
                ((cluster.fileMap master).addToFileMap id info) with
              updates := cluster.updates.eraseIdx index } := by
        simp only [step, found]
      refine ⟨_, reaches_once updates, ?_⟩
      simp [view, setFileMap]
  | @deleteUnknown filename unknown =>
      have deletes : cluster.step shell (.delete master filename) =
          some
            { cluster with
              deleted := cluster.deleted ++ [(master, filename)] } :=
        if_pos unknown
      exact ⟨_, reaches_once deletes, rfl⟩
  | @delete filename known =>
      have starts : cluster.step shell (.delete master filename) =
          some (cluster.startDelete master filename) := if_neg known
      refine ⟨_, reaches_head starts (reaches_deleteTargets _ _ rfl), ?_⟩
      simp [view, setFileMap, startDelete, FileMap.deleteFile]
  | list =>
      obtain ⟨rfl, remaining, waits⟩ := offers
      obtain ⟨index, found⟩ := List.mem_iff_getElem?.mp waits
      exact reaches_processListReply found
  | reReplicate =>
      obtain ⟨index, found⟩ := List.mem_iff_getElem?.mp offers
      let waiting : Cluster Id :=
        { cluster with rebuilds := cluster.rebuilds.eraseIdx index }
      have ends : cluster.step shell (.endStart index) =
          some (waiting.reReplicate master) := by
        simp only [step, found]
        rfl
      exact ⟨_, reaches_once ends, view_reReplicate⟩
  | @join id isNew =>
      have joins : cluster.step shell (.join id) =
          some
            { cluster with
              members := cluster.members.orderedInsert (· ≤ ·) id } :=
        if_neg isNew
      exact ⟨_, reaches_once joins, rfl⟩
  | @leave id isMember =>
      have leaves : cluster.step shell (.leave id) =
          some { cluster with members := cluster.members.erase id } :=
        if_pos isMember
      exact ⟨_, reaches_once leaves, rfl⟩
  | @nodeFail id =>
      have notices : cluster.step shell (.nodeFail master id) =
          some { cluster with failing := cluster.failing ++ [(master, id)] } :=
        rfl
      refine ⟨_, reaches_once notices, ?_⟩
      simp [view, List.valuesOf]
  | @handleFail id isFailing =>
      let cleared : Cluster Id :=
        { cluster.setFileMap master ((cluster.fileMap master).set id []) with
          failing := cluster.failing.erase (master, id) }
      have handles : cluster.step shell (.handleFail master id) =
          some (cleared.reReplicate master) :=
        if_pos (List.mem_valuesOf_iff.mp isFailing)
      refine ⟨_, reaches_once handles, ?_⟩
      rw [view_reReplicate]
      simp [view, cleared, setFileMap, List.valuesOf_erase]
  | @replicate filename isCall =>
      obtain ⟨draws, suffice⟩ := offers
      obtain ⟨outcome, called⟩ := Option.ne_none_iff_exists'.mp suffice
      have replicates : cluster.step shell
          (.replicate master filename draws) =
            some
              { cluster with
                calls := cluster.calls.erase (master, filename)
                commands := cluster.commands ++
                  (outcome.map fun command =>
                    (filename, command)).toList } := by
        refine (if_pos (List.mem_valuesOf_iff.mp isCall)).trans ?_
        rw [called]
      refine ⟨_, reaches_once replicates, ?_⟩
      simp [view, List.valuesOf_erase]

/-- A run of a master is what it sees of a run of the cluster, up to a step
that the cluster does not offer. -/
theorem exists_reaches_of_masterRuns
    {actions : List (Action Id)} {state : State Id}
    (runs : system.Runs State.initial actions state) :
    ∃ done rest after, actions = done ++ rest ∧
      system.Runs State.initial done (after.view master) ∧
        (clusterSystem shell name).Reaches (Cluster.initial name) after ∧
          ∀ action ∈ rest.head?, ¬ after.Offers shell master action := by
  have follows (cluster : Cluster Id) (state : State Id) (action : Action Id)
      (next : State Id) (same : cluster.view master = state)
      (offers : cluster.Offers shell master action)
      (stepped : system.step state action = some next) :
      ∃ after, (clusterSystem shell name).Reaches cluster after ∧
        after.view master = next :=
    reaches_of_masterStep offers (same ▸ stepped)
  obtain ⟨done, rest, _, after, split, followed, reaches, rfl, stops⟩ :=
    TransitionSystem.exists_followed follows view_initial runs
  exact ⟨done, rest, after, split, followed, reaches, stops⟩

/-! ## The group -/

/-- The files, the maps and the threads are those of a group. -/
structure Agrees (cluster : Cluster Id) (group : Group Id) : Prop where
  files : cluster.files = group.files
  fileMap : cluster.fileMap = group.fileMap
  handlers : cluster.handlers = group.handlers
  rebuilds : cluster.rebuilds = group.rebuilds

/-- The cluster does what the group has done. -/
def Follows
    (shell : Shell) (name : Id → String) (cluster : Cluster Id)
    (group : Group Id) : Prop :=
  ∃ after, (clusterSystem shell name).Reaches cluster after ∧
    after.Agrees group

/-- What a step of the group needs: the membership lists that are read are
that of the cluster, and commands and requests are under way. -/
def Admits (cluster : Cluster Id) : GroupAction Id → Prop
  | .leaderElected node leader members =>
      leader = node → members = cluster.members
  | .sendFileRequest source target filename _ =>
      ∃ targets, (filename, ⟨source, targets⟩) ∈ cluster.commands ∧
        target ∈ targets
  | .update master node info => ⟨master, node, info⟩ ∈ cluster.updates
  | .delete _ _ members => members = cluster.members
  | _ => True

variable {group next : Group Id} {index : Nat}

theorem agrees_initial :
    (Cluster.initial name).Agrees (Group.initial name) :=
  ⟨rfl, rfl, rfl, rfl⟩

theorem Follows.once
    {after : Cluster Id} {action : ClusterAction Id}
    (stepped : cluster.step shell action = some after)
    (agrees : after.Agrees group) : cluster.Follows shell name group :=
  ⟨after, reaches_once stepped, agrees⟩

namespace Agrees

theorem refl (agrees : cluster.Agrees group) :
    cluster.Follows shell name group :=
  ⟨cluster, .refl _, agrees⟩

/-- The threads that wait for a request are not a part of the cluster. -/
theorem setServing
    (agrees : cluster.Agrees group) (id : Id) (serving : Nat) :
    cluster.Agrees (group.setServing id serving) :=
  ⟨agrees.files, agrees.fileMap, agrees.handlers, agrees.rebuilds⟩

theorem returnThread (agrees : cluster.Agrees group) (id : Id) :
    cluster.Agrees (group.returnThread id) := by
  rw [Group.returnThread]
  split
  · exact agrees.setServing _ _
  · exact agrees

/-- A node gets to know the leader, who starts with the members of the
cluster. -/
theorem leaderElected
    (agrees : cluster.Agrees group) {node leader : Id} {members : List Id}
    (current : leader = node → members = cluster.members) :
    cluster.Follows shell name (group.leaderElected node leader members) := by
  rw [Group.leaderElected]
  split
  · next isLeader =>
      obtain rfl := current isLeader
      have starts : cluster.step shell (.start node) =
          some
            { cluster with
              rebuilds := cluster.rebuilds ++
                [⟨node, cluster.members, none⟩] } := rfl
      refine .once starts
        ⟨agrees.files, agrees.fileMap, agrees.handlers, ?_⟩
      simp only [agrees.rebuilds]
  · exact refl ⟨agrees.files, agrees.fileMap, agrees.handlers,
      agrees.rebuilds⟩

/-- A member replies to its `LIST` command. -/
theorem list
    (agrees : cluster.Agrees group) {member : Id} {remaining : List Id}
    (found : group.rebuilds[index]? =
      some ⟨master, member :: remaining, none⟩) :
    cluster.Follows shell name
      { group with
        rebuilds := group.rebuilds.set index
          ⟨master, member :: remaining,
            some (group.store member).localFiles⟩ } := by
  have replies : cluster.step shell (.list index) =
      some
        { cluster with
          rebuilds := cluster.rebuilds.set index
            ⟨master, member :: remaining,
              some (cluster.files.store member).localFiles⟩ } := by
    simp only [step, agrees.rebuilds, found]
  refine .once replies ⟨agrees.files, agrees.fileMap, agrees.handlers, ?_⟩
  simp only [agrees.rebuilds, agrees.files]
  rfl

/-- The reply is processed. -/
theorem updateFileMap
    (agrees : cluster.Agrees group) {member : Id} {remaining : List Id}
    {infos : List FileInfo}
    (found : group.rebuilds[index]? =
      some ⟨master, member :: remaining, some infos⟩) :
    cluster.Follows shell name
      { group.setFileMap master
          ((group.fileMap master).processListReply member infos) with
        rebuilds := group.rebuilds.set index ⟨master, remaining, none⟩ } := by
  have updates : cluster.step shell (.updateFileMap index) =
      some
        { cluster.setFileMap master
            ((cluster.fileMap master).processListReply member infos) with
          rebuilds := cluster.rebuilds.set index
            ⟨master, remaining, none⟩ } := by
    simp only [step, agrees.rebuilds, found]
  refine .once updates ⟨agrees.files, ?_, agrees.handlers, ?_⟩
  · simp only [setFileMap, Group.setFileMap, agrees.fileMap]
  · simp only [agrees.rebuilds]

/-- A `PUT` is approved. -/
theorem approvePut
    (agrees : cluster.Agrees group) {putter : Id} {content : Bytes}
    (unknown : (group.fileMap master).countReplicates filename = 0) :
    cluster.Follows shell name
      (group.approvePut master putter
        (FileInfo.new filename (shell.md5 content) content.length)
        content) := by
  have puts : cluster.step shell (.put master putter filename content) =
      some
        (cluster.approvePut master putter
          (FileInfo.new filename (shell.md5 content) content.length)
          content) := if_pos (agrees.fileMap.symm ▸ unknown)
  refine .once puts ⟨?_, agrees.fileMap, ?_, agrees.rebuilds⟩
  · simp only [Cluster.approvePut, Files.approve, agrees.files]
    rfl
  · simp only [Cluster.approvePut, agrees.handlers]
    rfl

/-- The rest of an approved `PUT`. -/
theorem addToFileMap
    (agrees : cluster.Agrees group) {putter : Id} {info : FileInfo}
    (found : group.handlers[index]? =
      some (.registering master putter info)) :
    cluster.Follows shell name
      ({ group.setFileMap master
          ((group.fileMap master).addToFileMap putter info) with
          handlers := group.handlers.eraseIdx index
        }.returnThread master) := by
  have adds : cluster.step shell (.addToFileMap index) =
      some
        { cluster.setFileMap master
            ((cluster.fileMap master).addToFileMap putter info) with
          handlers := cluster.handlers.eraseIdx index
          calls := cluster.calls ++ [(master, info.name)] } := by
    simp only [step, agrees.handlers, found]
  refine .once adds (returnThread ?_ _)
  refine ⟨agrees.files, ?_, ?_, agrees.rebuilds⟩
  · simp only [setFileMap, Group.setFileMap, agrees.fileMap]
  · simp only [agrees.handlers]

/-- The putting node copies its file. -/
theorem receiveApproval
    (agrees : cluster.Agrees group) {putter : Id} {content : Bytes}
    (found : group.approvals[index]? = some ⟨putter, filename, content⟩) :
    cluster.Follows shell name
      { group.setStore putter
          ((group.store putter).copyBufferedFile shell filename content) with
        approvals := group.approvals.eraseIdx index } := by
  have isApproval : cluster.files.approvals[index]? =
      some ⟨putter, filename, content⟩ := by
    rw [agrees.files]
    exact found
  have copies : cluster.step shell (.receiveApproval index) =
      some
        { cluster with
          files := cluster.files.copyApproved shell index
            ⟨putter, filename, content⟩ } := by
    simp only [step, isApproval]
  refine .once copies
    ⟨?_, agrees.fileMap, agrees.handlers, agrees.rebuilds⟩
  simp only [agrees.files]
  rfl

theorem loseApproval (agrees : cluster.Agrees group) :
    cluster.Follows shell name
      { group with approvals := group.approvals.eraseIdx index } := by
  have loses : cluster.step shell (.loseApproval index) =
      some { cluster with files := cluster.files.loseApproval index } := rfl
  refine .once loses ⟨?_, agrees.fileMap, agrees.handlers, agrees.rebuilds⟩
  simp only [agrees.files]
  rfl

/-- The source of a command asks one of its targets. -/
theorem sendFileRequest
    (agrees : cluster.Agrees group) {live : List Id} {source target : Id}
    {port : Int} {targets : Finset Id}
    (commanded : (filename, ⟨source, targets⟩) ∈ cluster.commands)
    (isTarget : target ∈ targets)
    (stepped : group.step shell live
      (.sendFileRequest source target filename port) = some next) :
    cluster.Follows shell name next := by
  obtain ⟨index, found⟩ := List.mem_iff_getElem?.mp commanded
  have asks : cluster.step shell (.sendFileRequest index target port) =
      some
        { cluster with
          files := cluster.ask shell filename source target port
          commands := cluster.commands.set index
            (filename, ⟨source, targets.erase target⟩) } := by
    simp only [step, found, if_pos isTarget]
  refine .once asks ?_
  simp only [Group.step, Option.ite_none_right_eq_some] at stepped
  obtain ⟨_, stepped⟩ := stepped
  split at stepped
  · next client answer =>
      obtain rfl := Option.some.inj stepped
      have answered : (cluster.files.store target).processSendRequest
          ((cluster.files.store source).sendRequest shell filename port) =
            some client := by
        rw [agrees.files]
        exact answer
      refine ⟨?_, agrees.fileMap, agrees.handlers, agrees.rebuilds⟩
      change cluster.ask shell filename source target port = _
      rw [ask, answered, agrees.files]
      rfl
  · next refused =>
      obtain rfl := Option.some.inj stepped
      have unanswered : (cluster.files.store target).processSendRequest
          ((cluster.files.store source).sendRequest shell filename port) =
            none := by
        rw [agrees.files]
        exact refused
      refine ⟨?_, agrees.fileMap, agrees.handlers, agrees.rebuilds⟩
      change cluster.ask shell filename source target port = _
      rw [ask, unanswered, agrees.files]

/-- A fetch is complete, and the leader of its target is going to be told. -/
theorem finishFetch
    (agrees : cluster.Agrees group) {target : Id} {client : FetchClient}
    {content : Bytes}
    (found : group.fetches[index]? = some ⟨target, client, content⟩) :
    cluster.Follows shell name
      { group.setStore target
          (client.fetchAll shell (group.store target) content) with
        fetches := group.fetches.eraseIdx index } := by
  have isFetch : cluster.files.fetches[index]? =
      some ⟨target, client, content⟩ := by
    rw [agrees.files]
    exact found
  have finishes : cluster.step shell
      (.finishFetch index (group.leader target)) =
        some
          { cluster with
            files := cluster.files.finishFetch shell index
              ⟨target, client, content⟩
            updates := cluster.updates ++
              ((group.leader target).map
                (report ⟨target, client, content⟩)).toList } := by
    simp only [step, isFetch]
  refine .once finishes
    ⟨?_, agrees.fileMap, agrees.handlers, agrees.rebuilds⟩
  simp only [agrees.files]
  rfl

/-- An `UPDATE` is handled. -/
theorem update
    (agrees : cluster.Agrees group) {node : Id} {info : FileInfo}
    (sent : ⟨master, node, info⟩ ∈ cluster.updates) :
    cluster.Follows shell name
      (group.setFileMap master
        ((group.fileMap master).addToFileMap node info)) := by
  obtain ⟨index, found⟩ := List.mem_iff_getElem?.mp sent
  have updates : cluster.step shell (.update index) =
      some
        { cluster.setFileMap master
            ((cluster.fileMap master).addToFileMap node info) with
          updates := cluster.updates.eraseIdx index } := by
    simp only [step, found]
  refine .once updates ⟨agrees.files, ?_, agrees.handlers, agrees.rebuilds⟩
  simp only [setFileMap, Group.setFileMap, agrees.fileMap]

/-- A `DEL` begins. -/
theorem startDelete
    (agrees : cluster.Agrees group)
    (known : (group.fileMap master).countReplicates filename ≠ 0) :
    cluster.Follows shell name
      (group.startDelete master filename cluster.members) := by
  have starts : cluster.step shell (.delete master filename) =
      some (cluster.startDelete master filename) :=
    if_neg (agrees.fileMap.symm ▸ known)
  refine .once starts ⟨agrees.files, agrees.fileMap, ?_, agrees.rebuilds⟩
  simp only [Cluster.startDelete, Group.startDelete, agrees.handlers,
    agrees.fileMap]

/-- A target of a `DEL` follows its command. -/
theorem deleteAt
    (agrees : cluster.Agrees group) {target : Id} {targets : List Id}
    (found : group.handlers[index]? =
      some (.deleting master filename (target :: targets))) :
    cluster.Follows shell name
      (group.deleteAt index master filename target targets) := by
  have deletes : cluster.step shell (.deleteNext index) =
      some (cluster.deleteAt index master filename target targets) := by
    simp only [step, agrees.handlers, found]
  refine .once deletes ⟨?_, ?_, ?_, agrees.rebuilds⟩
  · simp only [Cluster.deleteAt, agrees.files]
    rfl
  · simp only [Cluster.deleteAt, setFileMap, agrees.fileMap]
    rfl
  · simp only [Cluster.deleteAt, agrees.handlers]
    rfl

/-- A `DEL` ends. -/
theorem endDelete
    (agrees : cluster.Agrees group)
    (found : group.handlers[index]? =
      some (.deleting master filename [])) :
    cluster.Follows shell name
      { group with handlers := group.handlers.eraseIdx index } := by
  have ends : cluster.step shell (.deleteNext index) =
      some { cluster with handlers := cluster.handlers.eraseIdx index } := by
    simp only [step, agrees.handlers, found]
  refine .once ends ⟨agrees.files, agrees.fileMap, ?_, agrees.rebuilds⟩
  simp only [agrees.handlers]

end Agrees

/-- The thread that has handled the request returns to its loop. -/
theorem Follows.returnThread
    (follows : cluster.Follows shell name group) (id : Id) :
    cluster.Follows shell name (group.returnThread id) := by
  obtain ⟨after, reaches, agrees⟩ := follows
  exact ⟨after, reaches, agrees.returnThread id⟩

/-- A step of a group is a run of the cluster. -/
theorem follows_of_groupStep
    {live : List Id} {action : GroupAction Id}
    (agrees : cluster.Agrees group) (admits : cluster.Admits action)
    (stepped : group.step shell live action = some next) :
    cluster.Follows shell name next := by
  have taken (id : Id) : cluster.Agrees (group.takeThread id) :=
    agrees.setServing id _
  cases action with
  | leaderElected node leader members =>
      simp only [Group.step, Option.ite_none_right_eq_some,
        Option.some.injEq] at stepped
      exact stepped.2 ▸ agrees.leaderElected admits
  | list index =>
      simp only [Group.step] at stepped
      split at stepped
      · next found =>
          simp only [Option.ite_none_right_eq_some, Option.some.injEq]
            at stepped
          exact stepped.2 ▸ agrees.list found
      · cases stepped
  | updateFileMap index =>
      simp only [Group.step] at stepped
      split at stepped
      · next found => exact Option.some.inj stepped ▸ agrees.updateFileMap found
      · cases stepped
  | put master putter filename content =>
      simp only [Group.step, Option.ite_none_right_eq_some] at stepped
      obtain ⟨_, stepped⟩ := stepped
      split at stepped
      · next unknown =>
          exact Option.some.inj stepped ▸ (taken master).approvePut unknown
      · exact Option.some.inj stepped ▸
          ((taken master).returnThread master).refl
  | addToFileMap index =>
      simp only [Group.step] at stepped
      split at stepped
      · next found => exact Option.some.inj stepped ▸ agrees.addToFileMap found
      · cases stepped
  | receiveApproval index =>
      simp only [Group.step] at stepped
      split at stepped
      · next found =>
          exact Option.some.inj stepped ▸ agrees.receiveApproval found
      · cases stepped
  | loseApproval index =>
      simp only [Group.step, Option.ite_none_right_eq_some,
        Option.some.injEq] at stepped
      exact stepped.2 ▸ agrees.loseApproval
  | sendFileRequest source target filename port =>
      obtain ⟨targets, commanded, isTarget⟩ := admits
      exact agrees.sendFileRequest commanded isTarget stepped
  | finishFetch index =>
      simp only [Group.step] at stepped
      split at stepped
      · next found => exact Option.some.inj stepped ▸ agrees.finishFetch found
      · cases stepped
  | update master node info =>
      simp only [Group.step, Option.ite_none_right_eq_some,
        Option.some.injEq] at stepped
      exact stepped.2 ▸ ((taken master).update admits).returnThread master
  | delete master filename members =>
      obtain rfl : members = cluster.members := admits
      simp only [Group.step, Option.ite_none_right_eq_some] at stepped
      obtain ⟨_, stepped⟩ := stepped
      split at stepped
      · exact Option.some.inj stepped ▸
          ((taken master).returnThread master).refl
      · next known =>
          exact Option.some.inj stepped ▸ (taken master).startDelete known
  | deleteNext index =>
      simp only [Group.step] at stepped
      split at stepped
      · next found =>
          simp only [Option.ite_none_right_eq_some, Option.some.injEq]
            at stepped
          exact stepped.2 ▸ agrees.deleteAt found
      · next found =>
          exact Option.some.inj stepped ▸
            (agrees.endDelete found).returnThread _
      · cases stepped

/-- A run of a group is one of the cluster, up to a step that the cluster does
not admit. -/
theorem exists_reaches_of_groupRuns
    {live : List Id} {actions : List (GroupAction Id)}
    (runs : (groupSystem shell live name).Runs (Group.initial name) actions
      group) :
    ∃ done rest middle after, actions = done ++ rest ∧
      (groupSystem shell live name).Runs (Group.initial name) done middle ∧
        (clusterSystem shell name).Reaches (Cluster.initial name) after ∧
          after.Agrees middle ∧
            ∀ action ∈ rest.head?, ¬ after.Admits action :=
  TransitionSystem.exists_followed
    (fun _ _ _ _ agrees admits stepped =>
      follows_of_groupStep agrees admits stepped)
    agrees_initial runs

end Cluster
end Master
end CraneSps
