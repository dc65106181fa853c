import CraneSps.Foundation.RunLength
import CraneSps.Crane.Supervisor
import CraneSps.Crane.TopoStats

/-!
# Nimbus

The operations of Nimbus on topologies, each as a whole: all requests to the
supervisors are answered.  Every operation reads the membership list, which is
an argument.  An operation is undefined only where the code indexes an empty
list of supervisors.
-/

namespace CraneSps
namespace Crane

/-- `Nimbus::Impl`. -/
structure Nimbus where
  /-- The id of the node. -/
  id : String
  topoStats : TopoStats
  supervisors : List String
  /-- The static variable of `nextExecutor`. -/
  executor : String

/-- Nimbus and the supervisors of the other nodes. -/
structure Cluster where
  nimbus : Nimbus
  supervisor : String → Supervisor

namespace Nimbus

/-- Nimbus has been started on a node. -/
def initial (id : String) : Nimbus where
  id := id
  topoStats := .empty
  supervisors := []
  executor := ""

variable (nimbus : Nimbus)

/-- `updateSupervisors`. -/
def updateSupervisors (members : List String) : Nimbus :=
  { nimbus with supervisors := members.filter fun id => id != nimbus.id }

/-- `nextExecutor`. -/
def nextExecutor (supervisors : List String) (executor : String) :
    Option String :=
  if executor = "" then supervisors[0]?
  else
    supervisors[(supervisors.idxOf executor + 1) % supervisors.length]?

/-- The executors of the tasks, and the value that `executor` keeps. -/
def assign (supervisors : List String) :
    String → List String → Option (List (String × String) × String)
  | executor, [] => some ([], executor)
  | executor, task :: tasks =>
      (nextExecutor supervisors executor).bind fun next =>
        (assign supervisors next tasks).map fun (assignment, last) =>
          ((next, task) :: assignment, last)

/-- The `ADD_WORKER` requests for an assignment, supervisor by supervisor: its
priority queue delivers the tasks in descending order, and equal tasks become
one request. -/
def addRequests (assignment : List (String × String)) :
    List (String × String × Nat) :=
  ((assignment.map Prod.fst).dedup.insertionSort (· ≤ ·)).flatMap
    fun executor =>
      (((List.group executor assignment).insertionSort
        (· ≥ ·)).runLengths).map fun request => (executor, request)

/-- `process(AddWorkerReply)`. -/
def processAddWorkerReply
    (stats : TopoStats) (reply : AddWorkerReply) : TopoStats :=
  reply.ports.foldl
    (fun current port => current.addTopoTaskInstance reply.topoId reply.name
      (makeAddr reply.supervisorId port))
    stats

/-- The children of each parent in `prepareTopology`, parent by parent. -/
def connectionTree (spec : TopologySpec) :
    List (String × List (String × String)) :=
  let edges := spec.boltSpecs.flatMap fun bolt =>
    bolt.parents.map fun (parent, grouping) => (parent, (bolt.name, grouping))
  ((edges.map Prod.fst).dedup.insertionSort (· ≤ ·)).map fun parent =>
    (parent, List.group parent edges)

/-- The `WorkerConfigureConnectionsRequest`s of a topology. -/
def workerConnections (stats : TopoStats) (topoId : String) :
    List (String × List ConnectionGroup) :=
  (connectionTree (stats.getTopoSpec topoId)).map fun (parent, children) =>
    (parent, children.map fun (child, grouping) =>
      { childName := child
        grouping := grouping
        addresses := stats.getTopoTaskInstances topoId child })

end Nimbus

namespace Cluster

variable (cluster : Cluster)

/-- Change what Nimbus tracks. -/
def setTopoStats (stats : TopoStats) : Cluster :=
  { cluster with nimbus := { cluster.nimbus with topoStats := stats } }

/-- `setTopoStatus`. -/
def setTopoStatus (topoId : String) (status : TopoStatus) : Cluster :=
  cluster.setTopoStats (cluster.nimbus.topoStats.setTopoStatus topoId status)

/-- `updateSupervisors`. -/
def updateSupervisors (members : List String) : Cluster :=
  { cluster with nimbus := cluster.nimbus.updateSupervisors members }

/-- An `ADD_WORKER` request with its reply. -/
def addWorker
    (topoId : String) (cluster : Cluster)
    (request : String × String × Nat) : Cluster :=
  let (id, name, count) := request
  let runname :=
    (cluster.nimbus.topoStats.getTopoSpec topoId).runname name
  let (supervisor, reply) :=
    (cluster.supervisor id).addWorker id topoId runname name count
  { nimbus :=
      { cluster.nimbus with
        topoStats :=
          Nimbus.processAddWorkerReply cluster.nimbus.topoStats reply }
    supervisor := Function.update cluster.supervisor id supervisor }

/-- Send the same requests to all current supervisors. -/
def forSupervisors (operation : Supervisor → Supervisor) : Cluster :=
  { cluster with
    supervisor := fun id =>
      if id ∈ cluster.nimbus.supervisors then
        operation (cluster.supervisor id)
      else cluster.supervisor id }

/-- The `CONFIG_CONNS` requests. -/
def configureConnections (topoId : String) : Cluster :=
  let connections :=
    Nimbus.workerConnections cluster.nimbus.topoStats topoId
  cluster.forSupervisors fun supervisor =>
    connections.foldl
      (fun current (name, groups) =>
        current.configureConnections topoId name groups)
      supervisor

/-- The state in which `prepareTopology` sends its requests. -/
def assigning (topoId : String) (members : List String) (executor : String) :
    Cluster :=
  let preparing :=
    (cluster.setTopoStatus topoId .preparing).updateSupervisors members
  { preparing with nimbus := { preparing.nimbus with executor := executor } }

/-- The loop of `prepareTopology` that distributes the tasks: the state after
it, with the `ADD_WORKER` requests. -/
def assignTasks (topoId : String) (members : List String) :
    Option (Cluster × List (String × String × Nat)) :=
  let preparing :=
    (cluster.setTopoStatus topoId .preparing).updateSupervisors members
  let spec := preparing.nimbus.topoStats.getTopoSpec topoId
  (Nimbus.assign preparing.nimbus.supervisors preparing.nimbus.executor
      spec.tasks).map fun (assignment, executor) =>
    (cluster.assigning topoId members executor,
      Nimbus.addRequests assignment)

/-- `prepareTopology`. -/
def prepareTopology (topoId : String) (members : List String) :
    Option Cluster :=
  (cluster.assignTasks topoId members).map fun (assigned, requests) =>
    let created := requests.foldl (addWorker topoId) assigned
    (created.configureConnections topoId).setTopoStatus topoId .ready

theorem assignTasks_eq {topoId : String} {members : List String} :
    cluster.assignTasks topoId members =
      (Nimbus.assign (members.filter fun id => id != cluster.nimbus.id)
          cluster.nimbus.executor
          (cluster.nimbus.topoStats.getTopoSpec topoId).tasks).map
        fun (assignment, executor) =>
          (cluster.assigning topoId members executor,
            Nimbus.addRequests assignment) := by
  have sameSpec : (cluster.nimbus.topoStats.setTopoStatus topoId
        .preparing).getTopoSpec topoId =
      cluster.nimbus.topoStats.getTopoSpec topoId :=
    TopoStats.getTopoSpec_setTopoStatus
  rw [← sameSpec]
  rfl

theorem assignTasks_of_assign
    {cluster : Cluster} {topoId executor : String} {members : List String}
    {assignment : List (String × String)}
    (assigned : Nimbus.assign
      (members.filter fun id => id != cluster.nimbus.id)
      cluster.nimbus.executor
      (cluster.nimbus.topoStats.getTopoSpec topoId).tasks =
        some (assignment, executor)) :
    cluster.assignTasks topoId members =
      some (cluster.assigning topoId members executor,
        Nimbus.addRequests assignment) := by
  rw [assignTasks_eq, assigned]
  rfl

/-- The tasks are distributed among the other members, then the workers are
created, and then their connections are configured. -/
theorem exists_of_prepareTopology
    {cluster next : Cluster} {topoId : String} {members : List String}
    (prepared : cluster.prepareTopology topoId members = some next) :
    ∃ assignment executor,
      Nimbus.assign (members.filter fun id => id != cluster.nimbus.id)
          cluster.nimbus.executor
          (cluster.nimbus.topoStats.getTopoSpec topoId).tasks =
        some (assignment, executor) ∧
      next =
        (((Nimbus.addRequests assignment).foldl (addWorker topoId)
          (cluster.assigning topoId members executor)).configureConnections
            topoId).setTopoStatus topoId .ready := by
  obtain ⟨⟨_, _⟩, assigned, isNext⟩ := Option.map_eq_some_iff.mp prepared
  rw [assignTasks_eq] at assigned
  obtain ⟨⟨assignment, executor⟩, isAssignment, same⟩ :=
    Option.map_eq_some_iff.mp assigned
  obtain ⟨rfl, rfl⟩ := Prod.mk.inj same
  exact ⟨assignment, executor, isAssignment, isNext.symm⟩

/-- `startTopology`. -/
def startTopology (topoId : String) (members : List String) : Cluster :=
  if cluster.nimbus.topoStats.getTopoStatus topoId = some .ready then
    let names := (cluster.nimbus.topoStats.getTopoSpec topoId).names
    ((cluster.updateSupervisors members).forSupervisors fun supervisor =>
      names.foldl (fun current name => current.startWorker topoId name)
        supervisor).setTopoStatus topoId .running
  else cluster

/-- `stopTopology`, which only warns if the topology is not running. -/
def stopTopology (topoId : String) (members : List String) : Cluster :=
  let names := (cluster.nimbus.topoStats.getTopoSpec topoId).names
  let stopped :=
    ((cluster.updateSupervisors members).forSupervisors fun supervisor =>
      names.foldl (fun current name => current.killWorker topoId name)
        supervisor).setTopoStatus topoId .idle
  stopped.setTopoStats (stopped.nimbus.topoStats.clearTaskInstances topoId)

/-- `killTopology`. -/
def killTopology (topoId : String) (members : List String) : Cluster :=
  match cluster.nimbus.topoStats.getTopoStatus topoId with
  | none => cluster
  | some status =>
      let stopped :=
        if status = .running then cluster.stopTopology topoId members
        else cluster
      stopped.setTopoStats (stopped.nimbus.topoStats.erase topoId)

/-- `compileTopology`, without the compilation. -/
def compileTopology (topoId : String) : Cluster :=
  cluster.setTopoStatus topoId .idle

/-- The part of a `SUBMIT` request that follows its approval. -/
def submit (topoId : String) (spec : TopologySpec) : Cluster :=
  cluster.setTopoStats
    ((cluster.nimbus.topoStats.setTopoSpec topoId spec).setTopoStatus topoId
      .pending)

end Cluster

end Crane
end CraneSps
