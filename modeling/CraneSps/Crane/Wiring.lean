import CraneSps.Crane.Instances
import CraneSps.Crane.Isolation
import CraneSps.Foundation.ListUpdate
import CraneSps.Foundation.WriteOnce

/-!
# Connections of the workers

A bolt names its parents.  `prepareTopology` turns the edges around, adds the
addresses from the replies of the supervisors and sends one message to all of
them.  A supervisor encodes the part for a task once more for each worker of
the task.
-/

namespace CraneSps
namespace Crane

/-! ## Messages -/

/-- `GroupedAddresses`. -/
structure GroupedAddresses where
  childName : String
  addresses : List String
  grouping : String
  deriving DecidableEq

/-- `WorkerConfigureConnectionsRequest`. -/
structure WorkerConfigureConnectionsRequest where
  topoId : String
  name : String
  groupedAddresses : List GroupedAddresses
  deriving DecidableEq

/-- A group is read by supervisors and workers alike. -/
def GroupedAddresses.connectionGroup
    (group : GroupedAddresses) : ConnectionGroup where
  childName := group.childName
  grouping := group.grouping
  addresses := group.addresses

/-- The `CONFIG_CONNS` request of `prepareTopology`. -/
def Nimbus.configureConnectionsRequest
    (stats : TopoStats) (topoId : String) :
    List WorkerConfigureConnectionsRequest :=
  (connectionTree (stats.getTopoSpec topoId)).map fun (parent, children) =>
    { topoId := topoId
      name := parent
      groupedAddresses := children.map fun (child, grouping) =>
        { childName := child
          grouping := grouping
          addresses := stats.getTopoTaskInstances topoId child } }

namespace Worker

/-- `createConfigureConnectionsMessage`. -/
def createConfigureConnectionsMessage
    (connectionGroups : List ConnectionGroup) : List GroupedAddresses :=
  connectionGroups.map fun group =>
    { childName := group.childName
      grouping := group.grouping
      addresses := group.addresses }

/-- `process(CraneSupervisorConfigureConnectionsRequest)`. -/
def processConfigureConnections
    (worker : Worker) (message : List GroupedAddresses) : Worker :=
  worker.configureConnections (message.map GroupedAddresses.connectionGroup)

end Worker

/-- `process(CraneNimbusConfigureConnectionsRequest)`. -/
def Supervisor.processConfigureConnections
    (supervisor : Supervisor)
    (request : List WorkerConfigureConnectionsRequest) : Supervisor :=
  request.foldl
    (fun current connection =>
      let connectionGroups :=
        connection.groupedAddresses.map GroupedAddresses.connectionGroup
      current.forWorkers connection.topoId connection.name fun worker =>
        worker.processConfigureConnections
          (Worker.createConfigureConnectionsMessage connectionGroups))
    supervisor

namespace Cluster

variable (cluster : Cluster)

/-- The `CONFIG_CONNS` request is sent to all supervisors. -/
def sendConnections (topoId : String) : Cluster :=
  let request :=
    Nimbus.configureConnectionsRequest cluster.nimbus.topoStats topoId
  cluster.forSupervisors fun supervisor =>
    supervisor.processConfigureConnections request

/-- `prepareTopology` with its messages. -/
def prepareByMessages (topoId : String) (members : List String) :
    Option Cluster :=
  (cluster.assignTasks topoId members).map fun (assigned, requests) =>
    let created := requests.foldl (addWorker topoId) assigned
    (created.sendConnections topoId).setTopoStatus topoId .ready

/-- The addresses of all workers of a task at some supervisors. -/
def workerAddresses (ids : List String) (topoId name : String) :
    List String :=
  ids.flatMap fun id =>
    ((cluster.supervisor id).workers (topoId, name)).map fun worker =>
      makeAddr id worker.dataPort

end Cluster

/-- The edges of a specification that leave a task, with the addresses where
they lead to. -/
def TopologySpec.connectionGroups
    (spec : TopologySpec) (addresses : String → List String)
    (parent : String) : List ConnectionGroup :=
  spec.boltSpecs.flatMap fun bolt =>
    (bolt.parents.filter fun edge => edge.1 = parent).map fun edge =>
      { childName := bolt.name
        grouping := edge.2
        addresses := addresses bolt.name }

/-- The workers are connected and started as the specification says. -/
structure Wired
    (cluster : Cluster) (members : List String) (topoId : String)
    (spec : TopologySpec) : Prop where
  /-- What has been sent to every worker of every supervisor. -/
  workers : ∀ id key, ∀ workers ∈ (cluster.supervisor id).workersMap key,
    ∀ worker ∈ workers, id ∈ members ∧ id ≠ cluster.nimbus.id ∧
      ∃ name ∈ spec.names, key = Supervisor.createWorkerId topoId name ∧
        worker.connectionGroups = spec.connectionGroups
          (cluster.nimbus.topoStats.getTopoTaskInstances topoId) name ∧
        worker.starts = 1
  /-- The known addresses are those of the workers. -/
  addresses : ∀ name,
    (cluster.nimbus.topoStats.getTopoTaskInstances topoId name).Perm
      (cluster.workerAddresses members.dedup topoId name)
  distinct : ∀ name, (cluster.workerAddresses members.dedup topoId name).Nodup
  /-- A bolt has as many workers as its level says. -/
  levels : ∀ bolt ∈ spec.boltSpecs,
    ((cluster.workerAddresses members.dedup topoId bolt.name).length : Int) =
      max bolt.paraLevel 0

/-! ## Both encodings -/

/-- A worker reads what its supervisor has written. -/
theorem Worker.map_createConfigureConnectionsMessage
    (connectionGroups : List ConnectionGroup) :
    (createConfigureConnectionsMessage connectionGroups).map
      GroupedAddresses.connectionGroup = connectionGroups := by
  rw [createConfigureConnectionsMessage, List.map_map]
  exact List.map_id _

/-- A supervisor reads what Nimbus has written. -/
theorem Nimbus.map_configureConnectionsRequest
    (stats : TopoStats) (topoId : String) :
    ((configureConnectionsRequest stats topoId).map fun connection =>
      (connection.name, connection.groupedAddresses.map
        GroupedAddresses.connectionGroup)) =
      workerConnections stats topoId := by
  rw [configureConnectionsRequest, workerConnections, List.map_map]
  apply List.map_congr_left
  rintro ⟨parent, children⟩ _
  simp only [Function.comp_apply, List.map_map]
  rfl

namespace Cluster

variable {cluster : Cluster} {topoId : String} {members : List String}

/-- The messages configure the connections. -/
theorem sendConnections_eq :
    cluster.sendConnections topoId = cluster.configureConnections topoId := by
  rw [sendConnections, configureConnections]
  congr 1
  funext supervisor
  rw [← Nimbus.map_configureConnectionsRequest, List.foldl_map,
    Supervisor.processConfigureConnections]
  have sameTopology : ∀ connection ∈ Nimbus.configureConnectionsRequest
      cluster.nimbus.topoStats topoId, connection.topoId = topoId := by
    intro connection sent
    obtain ⟨_, _, rfl⟩ := List.mem_map.mp sent
    rfl
  generalize Nimbus.configureConnectionsRequest _ _ = request at sameTopology
  induction request generalizing supervisor with
  | nil => rfl
  | cons connection request inductionHypothesis =>
      obtain ⟨isSame, rest⟩ := List.forall_mem_cons.mp sameTopology
      rw [List.foldl_cons, List.foldl_cons, inductionHypothesis _ rest]
      congr 1
      simp only [isSame, Worker.processConfigureConnections,
        Worker.map_createConfigureConnectionsMessage]
      rfl

theorem prepareByMessages_eq :
    cluster.prepareByMessages topoId members =
      cluster.prepareTopology topoId members := by
  simp only [prepareByMessages, prepareTopology, sendConnections_eq]

end Cluster

/-! ## Edges -/

/-- The groups of a parent are its edges in the specification. -/
theorem last_workerConnections
    {stats : TopoStats} {topoId name : String} :
    (WriteOnce.last (Nimbus.workerConnections stats topoId) name).getD [] =
      (stats.getTopoSpec topoId).connectionGroups
        (stats.getTopoTaskInstances topoId) name := by
  let edges := (stats.getTopoSpec topoId).boltSpecs.flatMap fun bolt =>
    bolt.parents.map fun (parent, grouping) => (parent, (bolt.name, grouping))
  let keys := (edges.map Prod.fst).dedup.insertionSort (· ≤ ·)
  let groups (parent : String) : List ConnectionGroup :=
    (List.group parent edges).map fun (child, grouping) =>
      { childName := child
        grouping := grouping
        addresses := stats.getTopoTaskInstances topoId child }
  have isGroups : groups name = (stats.getTopoSpec topoId).connectionGroups
      (stats.getTopoTaskInstances topoId) name := by
    simp only [groups, edges, List.group, TopologySpec.connectionGroups,
      List.filter_flatMap, List.map_flatMap, List.filter_map, List.map_map]
    rfl
  have isMap : Nimbus.workerConnections stats topoId =
      keys.map fun parent => (parent, groups parent) := by
    rw [Nimbus.workerConnections, Nimbus.connectionTree, List.map_map]
    rfl
  have perm := List.perm_insertionSort (· ≤ ·) (edges.map Prod.fst).dedup
  have distinct : keys.Nodup := perm.nodup_iff.mpr (List.nodup_dedup _)
  have sameKeys : (keys.map fun parent => (parent, groups parent)).map
      Prod.fst = keys := by
    rw [List.map_map]
    exact List.map_id _
  rw [isMap, ← WriteOnce.first_eq_last (sameKeys.symm ▸ distinct),
    WriteOnce.first_map, ← isGroups]
  split
  · rfl
  · next absent =>
      -- A task that is no parent has no edges.
      have noEdges : List.group name edges = [] := by
        rw [List.group, List.map_eq_nil_iff, List.filter_eq_nil_iff]
        intro edge present isParent
        refine absent (perm.mem_iff.mpr (List.mem_dedup.mpr ?_))
        exact List.mem_map.mpr ⟨edge, present, of_decide_eq_true isParent⟩
      simp only [groups, noEdges]
      rfl

/-! ## Requests to one supervisor -/

namespace Worker

variable {worker : Worker} {name : String}

/-- The last configuration of a task remains. -/
theorem foldl_configureConnections
    (connections : List (String × List ConnectionGroup)) :
    connections.foldl
        (fun current connection =>
          if connection.1 = name then
            current.configureConnections connection.2
          else current)
        worker =
      worker.configureConnections
        ((WriteOnce.last connections name).getD worker.connectionGroups) := by
  induction connections generalizing worker with
  | nil => rfl
  | cons connection connections inductionHypothesis =>
      rw [List.foldl_cons, inductionHypothesis, WriteOnce.last_cons]
      by_cases same : connection.1 = name
      · simp only [same, if_true]
        cases WriteOnce.last connections name <;> rfl
      · simp only [same, if_false, Option.or_none]

/-- Every request for the task is one `START`. -/
theorem foldl_start (names : List String) :
    names.foldl
        (fun current other => if other = name then current.start else current)
        worker =
      { worker with starts := worker.starts + names.count name } := by
  induction names generalizing worker with
  | nil => rfl
  | cons other names inductionHypothesis =>
      rw [List.foldl_cons, inductionHypothesis]
      by_cases same : other = name
      · simp [same, start, Nat.add_comm, Nat.add_left_comm]
      · simp [same]

end Worker

namespace Supervisor

variable {supervisor : Supervisor} {topoId name : String}

/-- The tasks of one topology have keys of their own. -/
theorem createWorkerId_inj {other : String} :
    createWorkerId topoId name = createWorkerId topoId other ↔
      name = other := by
  simp only [createWorkerId, ← String.toList_inj, String.toList_append,
    List.append_cancel_left_eq]

/-- What is told to the workers of a task is told to no others of the
topology. -/
theorem workers_forWorkers
    {other : String} {operation : Worker → Worker} :
    (supervisor.forWorkers topoId other operation).workers (topoId, name) =
      (supervisor.workers (topoId, name)).map fun worker =>
        if other = name then operation worker else worker := by
  by_cases same : other = name
  · subst same
    simp only [workers, forWorkers, Function.update_self, if_true]
    cases supervisor.workersMap (createWorkerId topoId other) <;> rfl
  · have differs : createWorkerId topoId name ≠ createWorkerId topoId other :=
      fun keys => same (createWorkerId_inj.mp keys).symm
    simp [workers, forWorkers, Function.update_of_ne differs, same]

/-- Every worker gets the requests for its task, in order. -/
theorem workers_foldl_forWorkers
    {Request : Type} {task : Request → String}
    {operation : Request → Worker → Worker} (requests : List Request) :
    (requests.foldl
        (fun current request =>
          current.forWorkers topoId (task request) (operation request))
        supervisor).workers (topoId, name) =
      (supervisor.workers (topoId, name)).map fun worker =>
        requests.foldl
          (fun current request =>
            if task request = name then operation request current
            else current)
          worker := by
  induction requests generalizing supervisor with
  | nil => exact (List.map_id _).symm
  | cons request requests inductionHypothesis =>
      rw [List.foldl_cons, inductionHypothesis, workers_forWorkers,
        List.map_map]
      rfl

/-- New workers are added to those of their task. -/
theorem workers_addWorker
    (id runName : String) {other : String} {count : Nat} :
    (supervisor.addWorker id topoId runName other count).1.workers
        (topoId, name) =
      supervisor.workers (topoId, name) ++
        if other = name then
          supervisor.newWorkers topoId runName other count
        else [] := by
  by_cases same : other = name
  · subst same
    simp [workers, addWorker]
  · have differs : createWorkerId topoId name ≠ createWorkerId topoId other :=
      fun keys => same (createWorkerId_inj.mp keys).symm
    simp [workers, addWorker, Function.update_of_ne differs, same]

end Supervisor

/-! ## Creating the workers -/

/-- The registered addresses are those of the workers, none of which has been
told anything. -/
structure Registered
    (cluster : Cluster) (ids : List String) (topoId : String) : Prop where
  untold : ∀ id name,
    ∀ worker ∈ (cluster.supervisor id).workers (topoId, name),
      worker.connectionGroups = [] ∧ worker.starts = 0
  addresses : ∀ name,
    (cluster.nimbus.topoStats.getTopoTaskInstances topoId name).Perm
      (cluster.workerAddresses ids topoId name)

/-- What `prepareTopology` has done before it configures the connections. -/
structure Created
    (cluster created : Cluster) (members : List String) (topoId : String) :
    Prop where
  registered : Registered created members.dedup topoId
  supervisors : created.nimbus.supervisors =
    members.filter fun id => id != cluster.nimbus.id
  id : created.nimbus.id = cluster.nimbus.id
  spec : created.spec topoId = cluster.spec topoId
  distinct : ∀ name,
    (created.nimbus.topoStats.getTopoTaskInstances topoId name).Nodup
  exactly : ∀ name,
    (created.nimbus.topoStats.getTopoTaskInstances topoId name).length =
      (cluster.spec topoId).tasks.count name

section Creation

variable {cluster next : Cluster} {topoId name : String}
variable {ids members : List String}

/-- Nothing is registered where there is no worker. -/
theorem Registered.start
    (idle : ∀ id key port, ¬ (cluster.supervisor id).Has key port)
    (unprepared : ∀ name,
      cluster.nimbus.topoStats.getTopoTaskInstances topoId name = []) :
    Registered cluster ids topoId := by
  have noWorkers (id name : String) :
      (cluster.supervisor id).workers (topoId, name) = [] := by
    apply List.eq_nil_iff_forall_not_mem.mpr
    intro worker isWorker
    exact idle id _ worker.dataPort (Supervisor.has_of_mem_workers isWorker)
  constructor
  · intro id name worker isWorker
    rw [noWorkers] at isWorker
    cases isWorker
  · intro name
    rw [unprepared]
    simp [Cluster.workerAddresses, noWorkers]

/-- A request creates workers of one task at one supervisor. -/
theorem workers_addWorker (id task other : String) (count : Nat) :
    ((cluster.addWorker topoId (id, task, count)).supervisor other).workers
        (topoId, name) =
      (cluster.supervisor other).workers (topoId, name) ++
        if other = id then
          if task = name then
            (cluster.supervisor id).newWorkers topoId
              ((cluster.spec topoId).runname task) task count
          else []
        else [] := by
  by_cases same : other = id
  · subst same
    simp only [Cluster.addWorker, Function.update_self, if_true]
    exact Supervisor.workers_addWorker _ _
  · simp [Cluster.addWorker, same]

/-- A request registers the workers that it creates. -/
theorem Registered.addWorker
    (registered : Registered cluster ids topoId)
    (tracked : topoId ∈ cluster.nimbus.topoStats.topoIds)
    (distinct : ids.Nodup) {id task : String} {count : Nat}
    (present : id ∈ ids) :
    Registered (cluster.addWorker topoId (id, task, count)) ids topoId := by
  constructor
  · intro other name worker isWorker
    rw [workers_addWorker] at isWorker
    rcases List.mem_append.mp isWorker with isOld | isNew
    · exact registered.untold other name worker isOld
    · split at isNew
      · split at isNew
        · obtain ⟨offset, _, rfl⟩ := List.mem_map.mp isNew
          exact ⟨rfl, rfl⟩
        · cases isNew
      · cases isNew
  · intro name
    let added := if task = name then
      newAddresses cluster.supervisor id count else []
    have isAdded : (cluster.addWorker topoId (id, task, count)).workerAddresses
        ids topoId name = ids.flatMap fun other =>
          ((cluster.supervisor other).workers (topoId, name)).map
              (fun worker => makeAddr other worker.dataPort) ++
            if other = id then added else [] := by
      apply List.flatMap_congr
      intro other _
      rw [workers_addWorker, List.map_append]
      by_cases same : other = id
      · subst same
        by_cases isTask : task = name
        · simp only [added, isTask, if_true, Supervisor.newWorkers,
            List.map_map]
          rfl
        · simp [added, isTask]
      · simp [same]
    rw [isAdded, TopoStats.getTopoTaskInstances,
      (Added.addWorker tracked id task count).instances]
    refine List.Perm.trans ?_ (List.perm_flatMap_append distinct present).symm
    exact (registered.addresses name).append_right _

/-- All requests do. -/
theorem Registered.addWorkers
    {requests : List (String × String × Nat)}
    (registered : Registered cluster ids topoId)
    (tracked : topoId ∈ cluster.nimbus.topoStats.topoIds)
    (distinct : ids.Nodup)
    (present : ∀ request ∈ requests, request.1 ∈ ids) :
    Registered (requests.foldl (Cluster.addWorker topoId) cluster) ids
      topoId := by
  induction requests generalizing cluster with
  | nil => exact registered
  | cons request requests inductionHypothesis =>
      obtain ⟨id, task, count⟩ := request
      obtain ⟨isFirst, rest⟩ := List.forall_mem_cons.mp present
      exact inductionHypothesis
        (registered.addWorker tracked distinct isFirst)
        (Added.addWorker tracked id task count).tracked rest

/-- The workers of a topology without instances are created. -/
theorem exists_created
    (tracked : topoId ∈ cluster.nimbus.topoStats.topoIds)
    (unprepared : ∀ name,
      cluster.nimbus.topoStats.getTopoTaskInstances topoId name = [])
    (idle : ∀ id key port, ¬ (cluster.supervisor id).Has key port)
    (prepared : cluster.prepareTopology topoId members = some next) :
    ∃ created, Created cluster created members topoId ∧
      next =
        (created.configureConnections topoId).setTopoStatus topoId .ready := by
  obtain ⟨assignment, executor, isAssigned, rfl⟩ :=
    Cluster.exists_of_prepareTopology prepared
  let assigned := cluster.assigning topoId members executor
  have isKey : topoId ∈ assigned.nimbus.topoStats.topoIds :=
    TopoStats.mem_topoIds_setTopoStatus.mpr tracked
  have nothing (name : String) :
      assigned.nimbus.topoStats.getTopoTaskInstances topoId name = [] :=
    TopoStats.getTopoTaskInstances_setTopoStatus.trans (unprepared name)
  have isMember (request : String × String × Nat)
      (isRequest : request ∈ Nimbus.addRequests assignment) :
      request.1 ∈ members.dedup := by
    have isPair := Nimbus.mem_of_mem_addRequests isRequest
    exact List.mem_dedup.mpr
      (List.mem_of_mem_filter (Nimbus.mem_of_assign isAssigned isPair).1)
  obtain ⟨added, adds, counts⟩ :=
    @Added.addRequests assigned topoId isKey assignment
  refine ⟨(Nimbus.addRequests assignment).foldl (Cluster.addWorker topoId)
    assigned, ?_, rfl⟩
  exact
    { registered := Registered.addWorkers (.start idle nothing) isKey
        (List.nodup_dedup _) isMember
      supervisors := Cluster.supervisors_addWorkers _
      id := Cluster.id_addWorkers _
      spec := (Cluster.spec_addWorkers _).trans
        TopoStats.getTopoSpec_setTopoStatus
      distinct := fun name => (counts name).2 (nothing name)
      exactly := fun name => by
        rw [TopoStats.getTopoTaskInstances, adds.instances]
        change (assigned.nimbus.topoStats.getTopoTaskInstances topoId name ++
          added name).length = _
        rw [nothing, List.nil_append, (counts name).1,
          map_snd_assign isAssigned]
        rfl }

end Creation

/-! ## The whole system -/

section System

variable {cluster : Cluster} {topoId id name : String}
variable {members : List String}

/-- The supervisors configure the connections of their workers. -/
theorem workers_configureConnections :
    ((cluster.configureConnections topoId).supervisor id).workers
        (topoId, name) =
      ((cluster.supervisor id).workers (topoId, name)).map fun worker =>
        if id ∈ cluster.nimbus.supervisors then
          worker.configureConnections
            ((WriteOnce.last (Nimbus.workerConnections
              cluster.nimbus.topoStats topoId) name).getD
                worker.connectionGroups)
        else worker := by
  simp only [Cluster.configureConnections, Cluster.forSupervisors]
  split
  · refine (Supervisor.workers_foldl_forWorkers _).trans ?_
    exact List.map_congr_left fun worker _ =>
      Worker.foldl_configureConnections _
  · exact (List.map_id _).symm

/-- The supervisors start their workers. -/
theorem workers_startTopology
    (isReady : cluster.status topoId = some .ready) :
    ((cluster.startTopology topoId members).supervisor id).workers
        (topoId, name) =
      ((cluster.supervisor id).workers (topoId, name)).map fun worker =>
        if id ∈ members ∧ id ≠ cluster.nimbus.id then
          { worker with
            starts :=
              worker.starts + (cluster.spec topoId).names.count name }
        else worker := by
  rw [Cluster.supervisor_startTopology isReady]
  split
  · refine (Supervisor.workers_foldl_forWorkers _).trans ?_
    exact List.map_congr_left fun worker _ => Worker.foldl_start _
  · exact (List.map_id _).symm

theorem getTopoTaskInstances_startTopology {other : String} :
    (cluster.startTopology topoId members).nimbus.topoStats.getTopoTaskInstances
        other name =
      cluster.nimbus.topoStats.getTopoTaskInstances other name := by
  unfold Cluster.startTopology
  split
  · exact TopoStats.getTopoTaskInstances_setTopoStatus
  · rfl

/-- What the workers have been told in the end. -/
theorem Created.workers
    {created : Cluster} (isCreated : Created cluster created members topoId)
    {next : Cluster}
    (isNext : next =
      (created.configureConnections topoId).setTopoStatus topoId .ready)
    (isReady : next.status topoId = some .ready) :
    ((next.startTopology topoId members).supervisor id).workers
        (topoId, name) =
      ((created.supervisor id).workers (topoId, name)).map fun worker =>
        if id ∈ members ∧ id ≠ cluster.nimbus.id then
          { worker with
            connectionGroups := (cluster.spec topoId).connectionGroups
              (created.nimbus.topoStats.getTopoTaskInstances topoId) name
            starts := (cluster.spec topoId).names.count name }
        else worker := by
  have sameId : next.nimbus.id = cluster.nimbus.id := by
    rw [isNext, ← isCreated.id]
    rfl
  have sameSpec : next.spec topoId = cluster.spec topoId := by
    rw [isNext, ← isCreated.spec]
    exact TopoStats.getTopoSpec_setTopoStatus
  have isSupervisor : id ∈ created.nimbus.supervisors ↔
      id ∈ members ∧ id ≠ cluster.nimbus.id := by
    simp [isCreated.supervisors]
  rw [workers_startTopology isReady, sameId, sameSpec, isNext]
  change List.map _ (((created.configureConnections topoId).supervisor
    id).workers (topoId, name)) = _
  rw [workers_configureConnections, List.map_map]
  apply List.map_congr_left
  intro worker isWorker
  obtain ⟨noGroups, noStarts⟩ :=
    isCreated.registered.untold id name worker isWorker
  simp only [Function.comp_apply, isSupervisor, noGroups]
  split
  · rw [last_workerConnections, ← isCreated.spec]
    simp [Worker.configureConnections, noStarts, Cluster.spec]
  · rfl

/-- Configuring and starting the workers moves none of them. -/
theorem Created.workerAddresses
    {created next : Cluster}
    (isCreated : Created cluster created members topoId)
    (isNext : next =
      (created.configureConnections topoId).setTopoStatus topoId .ready)
    (isReady : next.status topoId = some .ready) (ids : List String) :
    (next.startTopology topoId members).workerAddresses ids topoId name =
      created.workerAddresses ids topoId name := by
  apply List.flatMap_congr
  intro id _
  rw [isCreated.workers isNext isReady, List.map_map]
  apply List.map_congr_left
  intro worker _
  simp only [Function.comp_apply]
  split <;> rfl

/-- A tracked topology is ready when it has been prepared. -/
theorem ready_prepareTopology
    {next : Cluster}
    (tracked : topoId ∈ cluster.nimbus.topoStats.topoIds)
    (prepared : cluster.prepareTopology topoId members = some next) :
    next.status topoId = some .ready := by
  obtain ⟨status, isStatus⟩ := Option.ne_none_iff_exists'.mp
    (Cluster.mem_topoIds_iff.mp tracked)
  rw [Cluster.status_prepareTopology prepared]
  simp [Operation.effect, isStatus]

/-- After `prepareTopology` and `startTopology` the workers of a topology are
connected as its specification says, and each of them has got one `START`. -/
theorem wired_startTopology
    (distinct : (cluster.spec topoId).names.Nodup)
    (tracked : topoId ∈ cluster.nimbus.topoStats.topoIds)
    (unprepared : ∀ name,
      cluster.nimbus.topoStats.getTopoTaskInstances topoId name = [])
    (idle : ∀ id key port, ¬ (cluster.supervisor id).Has key port)
    (supervised : ∃ id ∈ members, id ≠ cluster.nimbus.id) :
    ∃ prepared, cluster.prepareByMessages topoId members = some prepared ∧
      Wired (prepared.startTopology topoId members) members topoId
        (cluster.spec topoId) := by
  obtain ⟨next, prepared⟩ := Cluster.exists_prepareTopology supervised
  refine ⟨next, Cluster.prepareByMessages_eq.trans prepared, ?_⟩
  have isReady := ready_prepareTopology tracked prepared
  obtain ⟨created, isCreated, isNext⟩ :=
    exists_created tracked unprepared idle prepared
  have startedId : (next.startTopology topoId members).nimbus.id =
      cluster.nimbus.id := by
    rw [@Operation.id_execute next _ members (.start topoId) rfl,
      @Operation.id_execute cluster next members (.prepare topoId) prepared]
  have instances (name : String) :
      (next.startTopology topoId members).nimbus.topoStats.getTopoTaskInstances
          topoId name =
        created.nimbus.topoStats.getTopoTaskInstances topoId name := by
    rw [getTopoTaskInstances_startTopology, isNext]
    exact TopoStats.getTopoTaskInstances_setTopoStatus
  have addresses (name : String) :
      (created.nimbus.topoStats.getTopoTaskInstances topoId name).Perm
        ((next.startTopology topoId members).workerAddresses members.dedup
          topoId name) := by
    rw [isCreated.workerAddresses isNext isReady]
    exact isCreated.registered.addresses name
  refine ⟨fun id key workers found worker isWorker => ?_, fun name => ?_,
    fun name => ?_, fun bolt present => ?_⟩
  · have has : (next.supervisor id).Has key worker.dataPort :=
      Cluster.has_startTopology.mp ⟨workers, found, worker, isWorker, rfl⟩
    rcases Cluster.has_prepareTopology prepared has with
      isOld | ⟨isSupervisor, ⟨name, isName, rfl⟩, _⟩
    · exact absurd isOld (idle id key worker.dataPort)
    · have reached : id ∈ members ∧ id ≠ cluster.nimbus.id := by
        rw [isNext] at isSupervisor
        change id ∈ created.nimbus.supervisors at isSupervisor
        simpa [isCreated.supervisors] using isSupervisor
      have isTold : worker ∈ ((next.startTopology topoId members).supervisor
          id).workers (topoId, name) := by
        rw [Supervisor.workers, found]
        exact isWorker
      rw [isCreated.workers isNext isReady, List.mem_map] at isTold
      obtain ⟨old, _, rfl⟩ := isTold
      refine ⟨reached.1, startedId ▸ reached.2, name, isName, rfl, ?_, ?_⟩
      · rw [if_pos reached, funext instances]
      · rw [if_pos reached]
        exact List.count_eq_one_of_mem distinct isName
  · rw [instances]
    exact addresses name
  · exact (addresses name).nodup_iff.mp (isCreated.distinct name)
  · rw [← (addresses bolt.name).length_eq, isCreated.exactly]
    exact TopologySpec.count_tasks_bolt distinct present

end System

/-- A spout with a bolt of level two has been submitted. -/
def submitted : Cluster :=
  (State.initial "1").cluster.submit "t" twoBolts

theorem wired_submitted :
    ∃ prepared,
      submitted.prepareByMessages "t" ["1", "2", "3"] = some prepared ∧
        Wired (prepared.startTopology "t" ["1", "2", "3"]) ["1", "2", "3"] "t"
          (submitted.spec "t") :=
  wired_startTopology (by decide) (by decide) (fun _ => rfl)
    (fun _ _ _ => Supervisor.not_has_initial) (by decide)

end Crane
end CraneSps
