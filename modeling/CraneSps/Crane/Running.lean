import CraneSps.Crane.Ports
import CraneSps.Crane.Wiring

/-!
# Workers of a running topology

When a topology has been prepared and started, every worker has the library of
its task and the connections of its task, and no two workers of the topology
have the same address.
-/

namespace CraneSps
namespace Crane

/-- A worker runs the library of its task. -/
structure Worker.Runs (worker : Worker) (topoId runName : String) : Prop where
  lib : worker.lib = getLibraryLocalPath (getLibraryName topoId runName)
  isBolt : worker.isBolt = Crane.isBolt runName

/-- The workers of a topology as its specification says. -/
structure Running
    (cluster : Cluster) (ids : List String) (topoId : String)
    (spec : TopologySpec) : Prop where
  runs : ∀ id name,
    ∀ worker ∈ (cluster.supervisor id).workers (topoId, name),
      worker.Runs topoId (spec.runname name)
  connectionGroups : ∀ id name,
    ∀ worker ∈ (cluster.supervisor id).workers (topoId, name),
      worker.connectionGroups = spec.connectionGroups
        (cluster.nimbus.topoStats.getTopoTaskInstances topoId) name
  addresses : ∀ name,
    (cluster.nimbus.topoStats.getTopoTaskInstances topoId name).Perm
      (cluster.workerAddresses ids topoId name)
  exactly : ∀ name,
    (cluster.nimbus.topoStats.getTopoTaskInstances topoId name).length =
      spec.tasks.count name
  distinct : (spec.names.flatMap
    (cluster.workerAddresses ids topoId)).Nodup

/-- All supervisors have given different ports to their workers. -/
structure Cluster.Apart (cluster : Cluster) : Prop where
  distinct : ∀ id, (cluster.supervisor id).DistinctPorts
  below : ∀ id, (cluster.supervisor id).PortsBelow

section Preparing

variable {cluster next : Cluster} {topoId id name : String}
variable {members ids : List String}

/-- Nothing is shared where there is no worker. -/
theorem Cluster.Apart.of_idle
    (idle : ∀ id key port, ¬ (cluster.supervisor id).Has key port) :
    cluster.Apart where
  distinct := by
    have noPorts (id key : String) : (cluster.supervisor id).ports key = [] := by
      apply List.eq_nil_iff_forall_not_mem.mpr
      intro port isPort
      exact idle id key port (Supervisor.has_iff_mem_ports.mpr isPort)
    intro id
    constructor
    · intro workerId
      rw [noPorts]
      exact List.nodup_nil
    · intro workerId other _
      rw [noPorts]
      exact List.disjoint_nil_left _
  below := fun id key port has => absurd has (idle id key port)

/-- New workers get ports of their own. -/
theorem Cluster.Apart.addWorkers
    (apart : cluster.Apart) (topoId : String)
    (requests : List (String × String × Nat)) :
    (requests.foldl (Cluster.addWorker topoId) cluster).Apart := by
  induction requests generalizing cluster with
  | nil => exact apart
  | cons request requests inductionHypothesis =>
      obtain ⟨id, task, count⟩ := request
      refine inductionHypothesis ⟨fun other => ?_, fun other => ?_⟩
      · by_cases same : other = id
        · subst same
          simp only [Cluster.addWorker, Function.update_self]
          exact (apart.distinct other).addWorker (apart.below other) _ _ _ _
        · simp only [Cluster.addWorker, Function.update_of_ne same]
          exact apart.distinct other
      · by_cases same : other = id
        · subst same
          simp only [Cluster.addWorker, Function.update_self]
          exact (apart.below other).call other
            (.addWorker topoId _ task count)
        · simp only [Cluster.addWorker, Function.update_of_ne same]
          exact apart.below other

/-- Configuring the connections gives no ports away. -/
theorem Cluster.Apart.configureConnections
    (apart : cluster.Apart) (topoId : String) (id : String) :
    ((cluster.configureConnections topoId).supervisor id).DistinctPorts := by
  refine (apart.distinct id).of_sublist fun workerId => ?_
  rw [Cluster.ports_configureConnections]

/-- The ports after `prepareTopology`. -/
theorem distinctPorts_prepareTopology
    (idle : ∀ id key port, ¬ (cluster.supervisor id).Has key port)
    (prepared : cluster.prepareTopology topoId members = some next)
    (id : String) : (next.supervisor id).DistinctPorts := by
  obtain ⟨assignment, executor, _, rfl⟩ :=
    Cluster.exists_of_prepareTopology prepared
  have apart : (cluster.assigning topoId members executor).Apart :=
    .of_idle idle
  have created := apart.addWorkers topoId (Nimbus.addRequests assignment)
  exact (created.configureConnections topoId) id

/-- New workers run the libraries of their tasks. -/
theorem runs_addWorkers
    (runs : ∀ id name,
      ∀ worker ∈ (cluster.supervisor id).workers (topoId, name),
        worker.Runs topoId ((cluster.spec topoId).runname name))
    (requests : List (String × String × Nat)) :
    ∀ id name, ∀ worker ∈ ((requests.foldl (Cluster.addWorker topoId)
        cluster).supervisor id).workers (topoId, name),
      worker.Runs topoId ((cluster.spec topoId).runname name) := by
  induction requests generalizing cluster with
  | nil => exact runs
  | cons request requests inductionHypothesis =>
      obtain ⟨id, task, count⟩ := request
      have sameSpec : (cluster.addWorker topoId (id, task, count)).spec
          topoId = cluster.spec topoId :=
        Cluster.spec_addWorkers [(id, task, count)]
      rw [← sameSpec]
      apply inductionHypothesis
      rw [sameSpec]
      intro other name worker isWorker
      rw [workers_addWorker] at isWorker
      rcases List.mem_append.mp isWorker with isOld | isNew
      · exact runs other name worker isOld
      · split at isNew
        · split at isNew
          next isTask =>
            subst isTask
            obtain ⟨offset, _, rfl⟩ := List.mem_map.mp isNew
            exact ⟨rfl, rfl⟩
          next => cases isNew
        · cases isNew

/-- Configuring the connections changes no library. -/
theorem runs_configureConnections
    {runname : String → String}
    (runs : ∀ id name,
      ∀ worker ∈ (cluster.supervisor id).workers (topoId, name),
        worker.Runs topoId (runname name)) :
    ∀ id name, ∀ worker ∈ ((cluster.configureConnections topoId).supervisor
        id).workers (topoId, name),
      worker.Runs topoId (runname name) := by
  intro id name worker isWorker
  rw [workers_configureConnections] at isWorker
  obtain ⟨old, isOld, rfl⟩ := List.mem_map.mp isWorker
  have oldRuns := runs id name old isOld
  split
  · exact ⟨oldRuns.lib, oldRuns.isBolt⟩
  · exact oldRuns

/-- All workers run the libraries of their tasks after `prepareTopology`. -/
theorem runs_prepareTopology
    (idle : ∀ id key port, ¬ (cluster.supervisor id).Has key port)
    (prepared : cluster.prepareTopology topoId members = some next) :
    ∀ id name, ∀ worker ∈ (next.supervisor id).workers (topoId, name),
      worker.Runs topoId ((cluster.spec topoId).runname name) := by
  obtain ⟨assignment, executor, _, rfl⟩ :=
    Cluster.exists_of_prepareTopology prepared
  let assigned := cluster.assigning topoId members executor
  have sameSpec : assigned.spec topoId = cluster.spec topoId :=
    TopoStats.getTopoSpec_setTopoStatus
  have start : ∀ id name,
      ∀ worker ∈ (assigned.supervisor id).workers (topoId, name),
        worker.Runs topoId ((assigned.spec topoId).runname name) := by
    intro id name worker isWorker
    exact absurd (Supervisor.has_of_mem_workers isWorker) (idle id _ _)
  have created := runs_addWorkers start (Nimbus.addRequests assignment)
  rw [sameSpec] at created
  exact runs_configureConnections created

/-- The addresses of two tasks differ. -/
theorem nodup_workerAddresses
    {names : List String} (distinctNames : names.Nodup)
    (distinct : ∀ name, (cluster.workerAddresses ids topoId name).Nodup)
    (ports : ∀ id, (cluster.supervisor id).DistinctPorts) :
    (names.flatMap (cluster.workerAddresses ids topoId)).Nodup := by
  rw [List.nodup_flatMap]
  refine ⟨fun name _ => distinct name, distinctNames.imp ?_⟩
  intro name other differs address isFirst isSecond
  obtain ⟨id, _, inFirst⟩ := List.mem_flatMap.mp isFirst
  obtain ⟨worker, isWorker, rfl⟩ := List.mem_map.mp inFirst
  obtain ⟨otherId, _, inSecond⟩ := List.mem_flatMap.mp isSecond
  obtain ⟨another, isAnother, same⟩ := List.mem_map.mp inSecond
  obtain ⟨rfl, samePort⟩ := makeAddr_inj same
  have keys : Supervisor.createWorkerId topoId name ≠
      Supervisor.createWorkerId topoId other :=
    fun sameKey => differs (Supervisor.createWorkerId_inj.mp sameKey)
  have first := Supervisor.has_iff_mem_ports.mp
    (Supervisor.has_of_mem_workers isWorker)
  have second := Supervisor.has_iff_mem_ports.mp
    (Supervisor.has_of_mem_workers isAnother)
  rw [samePort] at second
  exact (ports otherId).disjoint _ _ keys first second

end Preparing

/-- After `prepareTopology` and `startTopology` the workers of the topology run
as its specification says. -/
theorem running_startTopology
    {cluster next : Cluster} {topoId : String} {members : List String}
    (distinct : (cluster.spec topoId).names.Nodup)
    (tracked : topoId ∈ cluster.nimbus.topoStats.topoIds)
    (unprepared : ∀ name,
      cluster.nimbus.topoStats.getTopoTaskInstances topoId name = [])
    (idle : ∀ id key port, ¬ (cluster.supervisor id).Has key port)
    (prepared : cluster.prepareTopology topoId members = some next) :
    Running (next.startTopology topoId members) members.dedup topoId
      (cluster.spec topoId) := by
  have isReady := ready_prepareTopology tracked prepared
  obtain ⟨created, isCreated, isNext⟩ :=
    exists_created tracked unprepared idle prepared
  have instances (name : String) :
      (next.startTopology topoId members).nimbus.topoStats.getTopoTaskInstances
          topoId name =
        created.nimbus.topoStats.getTopoTaskInstances topoId name := by
    rw [getTopoTaskInstances_startTopology, isNext]
    exact TopoStats.getTopoTaskInstances_setTopoStatus
  have addresses (name : String) :
      (created.nimbus.topoStats.getTopoTaskInstances topoId name).Perm
        ((next.startTopology topoId members).workerAddresses members.dedup
          topoId name) := by
    rw [isCreated.workerAddresses isNext isReady]
    exact isCreated.registered.addresses name
  have reached (id name : String) (worker : Worker)
      (isWorker : worker ∈ (created.supervisor id).workers (topoId, name)) :
      id ∈ members ∧ id ≠ cluster.nimbus.id := by
    have has := Supervisor.has_of_mem_workers isWorker
    have told : (next.supervisor id).Has
        (Supervisor.createWorkerId topoId name) worker.dataPort := by
      rw [isNext]
      exact Cluster.has_configureConnections.mpr has
    rcases Cluster.has_prepareTopology prepared told with
      isOld | ⟨isSupervisor, _⟩
    · exact absurd isOld (idle id _ _)
    · rw [Cluster.supervisors_prepareTopology prepared] at isSupervisor
      simpa using isSupervisor
  refine
    { runs := fun id name worker isWorker => ?_
      connectionGroups := fun id name worker isWorker => ?_
      addresses := fun name => ?_
      exactly := fun name => ?_
      distinct := ?_ }
  · rw [workers_startTopology isReady] at isWorker
    obtain ⟨old, isOld, rfl⟩ := List.mem_map.mp isWorker
    have oldRuns := runs_prepareTopology idle prepared id name old isOld
    split
    · exact ⟨oldRuns.lib, oldRuns.isBolt⟩
    · exact oldRuns
  · rw [isCreated.workers isNext isReady] at isWorker
    obtain ⟨old, isOld, rfl⟩ := List.mem_map.mp isWorker
    rw [if_pos (reached id name old isOld), funext instances]
  · rw [instances]
    exact addresses name
  · rw [instances]
    exact isCreated.exactly name
  · apply nodup_workerAddresses distinct
    · intro name
      exact (addresses name).nodup_iff.mp (isCreated.distinct name)
    · intro id
      refine (distinctPorts_prepareTopology idle prepared id).of_sublist ?_
      intro workerId
      rw [Cluster.supervisor_startTopology isReady]
      split
      · have same : ((next.spec topoId).names.foldl
              (fun current name => current.startWorker topoId name)
              (next.supervisor id)).ports workerId =
            (next.supervisor id).ports workerId := by
          apply Supervisor.ports_foldl
          intro current name
          exact Supervisor.ports_forWorkers fun _ => rfl
        rw [same]
      · exact .refl _

end Crane
end CraneSps
