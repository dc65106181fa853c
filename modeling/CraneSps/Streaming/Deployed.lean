import CraneSps.Crane.FieldGrouping
import CraneSps.Crane.Running
import CraneSps.Streaming.Graph
import CraneSps.Streaming.Pipeline

/-!
# The workers of a cluster

The supervisors have created the workers of a topology, loaded a library into
each and told it its connections.  If the specification is a sequence of tasks,
each of which has the one before as its parent, the workers form a pipeline.
-/

namespace CraneSps
namespace Streaming

open Crane (Cluster Worker TopologySpec Running makeAddr getLibraryLocalPath
  getLibraryName)

/-- The workers of some tasks at some supervisors, by their addresses. -/
def deployedWorkers
    (cluster : Cluster) (ids : List String) (topoId : String)
    (names : List String) : List (String × Worker) :=
  names.flatMap fun name =>
    ids.flatMap fun id =>
      ((cluster.supervisor id).workers (topoId, name)).map fun worker =>
        (makeAddr id worker.dataPort, worker)

/-- The workers with the classes in their libraries, which are loaded by their
paths. -/
def Deployment.ofCluster
    (library : String → TopologyNodeBase) (cluster : Cluster)
    (ids : List String) (topoId : String) (names : List String)
    (capacity : Nat) : Deployment :=
  let workers := deployedWorkers cluster ids topoId names
  { workers := workers.map Prod.fst
    node := fun address =>
      library (((WriteOnce.first workers address).map Worker.lib).getD "")
    isBolt := fun address =>
      ((WriteOnce.first workers address).map Worker.isBolt).getD false
    groups := fun address =>
      ((WriteOnce.first workers address).map
        Worker.internalConnectionGroups).getD []
    capacity := capacity }

/-- Every task of a specification has the one before as its only parent. -/
structure Chained
    (spec : TopologySpec) (names : List String)
    (grouping : String → String) : Prop where
  distinct : spec.names.Nodup
  complete : names.Perm spec.names
  tasks : ∀ name ∈ names, name ∈ spec.tasks
  links : ∀ (addresses : String → List String) (index : Nat)
    (name child : String), names[index]? = some name →
      names[index + 1]? = some child →
        spec.connectionGroups addresses name =
          [⟨child, grouping child, addresses child⟩]
  last : ∀ (addresses : String → List String) (index : Nat) (name : String),
    names[index]? = some name → names[index + 1]? = none →
      spec.connectionGroups addresses name = []

/-- The layer of a task. -/
def layerOf
    (library : String → TopologyNodeBase) (cluster : Cluster)
    (topoId : String) (spec : TopologySpec) (grouping : String → String)
    (name : String) : Layer where
  workers := cluster.nimbus.topoStats.getTopoTaskInstances topoId name
  base := library
    (getLibraryLocalPath (getLibraryName topoId (spec.runname name)))
  isBolt := Crane.isBolt (spec.runname name)
  grouping := grouping name

theorem layerOf_eq
    {library : String → TopologyNodeBase} (cluster : Cluster)
    {topoId : String} {spec : TopologySpec} {grouping : String → String}
    {name runName scheme : String} {base : TopologyNodeBase} {isBolt : Bool}
    (isRun : spec.runname name = runName)
    (isBase : library (getLibraryLocalPath (getLibraryName topoId runName)) =
      base)
    (isKind : Crane.isBolt runName = isBolt)
    (isGrouping : grouping name = scheme) :
    layerOf library cluster topoId spec grouping name =
      ⟨cluster.nimbus.topoStats.getTopoTaskInstances topoId name, base, isBolt,
        scheme⟩ := by
  rw [layerOf, isRun, isBase, isKind, isGrouping]

section Workers

variable {cluster : Cluster} {ids : List String} {topoId : String}
variable {names : List String} {address name : String} {worker : Worker}

theorem mem_deployedWorkers_iff :
    (address, worker) ∈ deployedWorkers cluster ids topoId names ↔
      ∃ name ∈ names, ∃ id ∈ ids,
        worker ∈ (cluster.supervisor id).workers (topoId, name) ∧
          address = makeAddr id worker.dataPort := by
  simp only [deployedWorkers, List.mem_flatMap, List.mem_map, Prod.mk.injEq]
  constructor
  · rintro ⟨name, isName, id, isId, _, isWorker, rfl, rfl⟩
    exact ⟨name, isName, id, isId, isWorker, rfl⟩
  · rintro ⟨name, isName, id, isId, isWorker, rfl⟩
    exact ⟨name, isName, id, isId, worker, isWorker, rfl, rfl⟩

/-- The addresses are those of the tasks. -/
theorem map_fst_deployedWorkers :
    (deployedWorkers cluster ids topoId names).map Prod.fst =
      names.flatMap (cluster.workerAddresses ids topoId) := by
  rw [deployedWorkers, List.map_flatMap]
  apply List.flatMap_congr
  intro name _
  rw [List.map_flatMap, Cluster.workerAddresses]
  apply List.flatMap_congr
  intro id _
  rw [List.map_map]
  rfl

variable {spec : TopologySpec} (running : Running cluster ids topoId spec)

include running

/-- The worker at a known address. -/
theorem exists_worker
    (isName : name ∈ spec.names)
    (isAddress : address ∈
      cluster.nimbus.topoStats.getTopoTaskInstances topoId name) :
    ∃ worker,
      WriteOnce.first (deployedWorkers cluster ids topoId spec.names) address =
        some worker ∧
      worker.Runs topoId (spec.runname name) ∧
      worker.connectionGroups = spec.connectionGroups
        (cluster.nimbus.topoStats.getTopoTaskInstances topoId) name := by
  have isKnown := (running.addresses name).mem_iff.mp isAddress
  obtain ⟨id, isId, inId⟩ := List.mem_flatMap.mp isKnown
  obtain ⟨worker, isWorker, rfl⟩ := List.mem_map.mp inId
  refine ⟨worker, WriteOnce.first_of_mem ?_ ?_,
    running.runs id name worker isWorker,
    running.connectionGroups id name worker isWorker⟩
  · rw [map_fst_deployedWorkers]
    exact running.distinct
  · exact mem_deployedWorkers_iff.mpr
      ⟨name, isName, id, isId, isWorker, rfl⟩

/-- Every worker has a known address. -/
theorem exists_name
    (isAddress : address ∈
      (deployedWorkers cluster ids topoId spec.names).map Prod.fst) :
    ∃ name ∈ spec.names,
      address ∈
        cluster.nimbus.topoStats.getTopoTaskInstances topoId name := by
  rw [map_fst_deployedWorkers] at isAddress
  obtain ⟨name, isName, isKnown⟩ := List.mem_flatMap.mp isAddress
  exact ⟨name, isName, (running.addresses name).mem_iff.mpr isKnown⟩

end Workers

/-! ## A topology that has been submitted -/

section Submitted

variable {cluster : Cluster} {topoId : String} {spec : TopologySpec}

theorem spec_submit : (cluster.submit topoId spec).spec topoId = spec := by
  refine Crane.TopoStats.getTopoSpec_setTopoStatus.trans ?_
  rw [Crane.TopoStats.getTopoSpec, Crane.TopoStats.setTopoSpec,
    Crane.TopoStats.tracker_set, if_pos rfl]

theorem mem_topoIds_submit :
    topoId ∈ (cluster.submit topoId spec).nimbus.topoStats.topoIds :=
  Crane.TopoStats.mem_topoIds_setTopoStatus.mpr
    (Crane.TopoStats.mem_topoIds_set.mpr (.inl rfl))

theorem instances_submit (name : String) :
    (cluster.submit topoId spec).nimbus.topoStats.getTopoTaskInstances topoId
        name =
      cluster.nimbus.topoStats.getTopoTaskInstances topoId name := by
  refine Crane.TopoStats.getTopoTaskInstances_setTopoStatus.trans ?_
  rw [Crane.TopoStats.getTopoTaskInstances, Crane.TopoStats.setTopoSpec,
    Crane.TopoStats.tracker_set, if_pos rfl]
  rfl

/-- A topology that is submitted to a cluster without workers, prepared and
started runs as its specification says. -/
theorem running_submit
    {prepared : Cluster} {members : List String}
    (distinct : spec.names.Nodup)
    (unprepared : ∀ name,
      cluster.nimbus.topoStats.getTopoTaskInstances topoId name = [])
    (idle : ∀ id key port, ¬ (cluster.supervisor id).Has key port)
    (isPrepared : (cluster.submit topoId spec).prepareByMessages topoId
      members = some prepared) :
    Running (prepared.startTopology topoId members) members.dedup topoId
      spec := by
  rw [Cluster.prepareByMessages_eq] at isPrepared
  have running := Crane.running_startTopology
    (by rw [spec_submit]; exact distinct) mem_topoIds_submit
    (fun name => (instances_submit name).trans (unprepared name)) idle
    isPrepared
  rw [spec_submit] at running
  exact running

end Submitted

/-! ## The shape of the deployment -/

/-- The workers of a running topology follow its specification. -/
theorem follows_ofCluster
    {cluster : Cluster} {ids : List String} {topoId : String}
    {spec : TopologySpec} (library : String → TopologyNodeBase)
    {capacity : Nat} (roomy : 0 < capacity)
    (running : Running cluster ids topoId spec)
    (tasks : ∀ name ∈ spec.names, name ∈ spec.tasks) :
    Deployment.Follows
      (.ofCluster library cluster ids topoId spec.names capacity) spec
      (cluster.nimbus.topoStats.getTopoTaskInstances topoId)
      (fun name => library
        (getLibraryLocalPath (getLibraryName topoId (spec.runname name))))
      (fun name => Crane.isBolt (spec.runname name)) := by
  refine
    { roomy := roomy
      distinct := ?_
      someWorker := ?_
      present := ?_
      node := ?_
      isBolt := ?_
      groups := ?_
      others := ?_
      covered := fun _ isAddress => exists_name running isAddress }
  · refine List.Perm.nodup (List.Perm.symm ?_) running.distinct
    exact List.Perm.flatMap_left _ fun name _ => running.addresses name
  · intro name isName
    have someTask := List.count_pos_iff.mpr (tasks name isName)
    rw [← running.exactly name] at someTask
    exact List.length_pos_iff.mp someTask
  · intro name isName address isAddress
    obtain ⟨worker, found, _⟩ := exists_worker running isName isAddress
    exact List.mem_map.mpr
      ⟨_, WriteOnce.mem_of_first_eq_some found, rfl⟩
  · intro name isName address isAddress
    obtain ⟨worker, found, runs, _⟩ := exists_worker running isName isAddress
    simp [Deployment.ofCluster, found, runs.lib]
  · intro name isName address isAddress
    obtain ⟨worker, found, runs, _⟩ := exists_worker running isName isAddress
    simp [Deployment.ofCluster, found, runs.isBolt]
  · intro name isName address isAddress
    obtain ⟨worker, found, _, groups⟩ :=
      exists_worker running isName isAddress
    rw [← groups]
    simp only [Deployment.ofCluster, found, Option.map_some,
      Option.getD_some]
    rfl
  · intro address nowhere
    cases found : WriteOnce.first
        (deployedWorkers cluster ids topoId spec.names) address with
    | none => simp [Deployment.ofCluster, found]
    | some worker =>
        obtain ⟨name, isName, isAddress⟩ := exists_name running
          (List.mem_map.mpr ⟨_, WriteOnce.mem_of_first_eq_some found, rfl⟩)
        exact absurd isAddress (nowhere name isName)

/-- The workers of a running sequence of tasks form a pipeline. -/
theorem pipeline_ofCluster
    {cluster : Cluster} {ids : List String} {topoId : String}
    {spec : TopologySpec} {names : List String} {grouping : String → String}
    (library : String → TopologyNodeBase) {capacity : Nat}
    (roomy : 0 < capacity)
    (running : Running cluster ids topoId spec)
    (chained : Chained spec names grouping) :
    Pipeline (.ofCluster library cluster ids topoId spec.names capacity)
      (names.map (layerOf library cluster topoId spec grouping)) := by
  have isName {name : String} (present : name ∈ names) : name ∈ spec.names :=
    chained.complete.mem_iff.mp present
  have follows := follows_ofCluster library roomy running fun name isName =>
    chained.tasks name (chained.complete.mem_iff.mpr isName)
  have isLayer {name : String} (isName : name ∈ spec.names) :
      layerOf library cluster topoId spec grouping name ∈
        names.map (layerOf library cluster topoId spec grouping) :=
    List.mem_map.mpr ⟨name, chained.complete.mem_iff.mpr isName, rfl⟩
  have atIndex {index : Nat} {layer : Layer}
      (isLayer : (names.map (layerOf library cluster topoId spec
        grouping))[index]? = some layer) :
      ∃ name, names[index]? = some name ∧
        layerOf library cluster topoId spec grouping name = layer := by
    rw [List.getElem?_map] at isLayer
    exact Option.map_eq_some_iff.mp isLayer
  refine
    { roomy := roomy
      distinct := ?_
      someWorker := ?_
      present := ?_
      node := ?_
      isBolt := ?_
      links := ?_
      last := ?_
      others := fun address nowhere => follows.others address
        fun name isName => nowhere _ (isLayer isName)
      covered := ?_ }
  · rw [List.flatMap_map]
    exact (chained.complete.flatMap_right _).symm.nodup follows.distinct
  · intro layer isLayer
    obtain ⟨name, present, rfl⟩ := List.mem_map.mp isLayer
    exact follows.someWorker name (isName present)
  · intro layer isLayer
    obtain ⟨name, present, rfl⟩ := List.mem_map.mp isLayer
    exact follows.present name (isName present)
  · intro layer isLayer
    obtain ⟨name, present, rfl⟩ := List.mem_map.mp isLayer
    exact follows.node name (isName present)
  · intro layer isLayer
    obtain ⟨name, present, rfl⟩ := List.mem_map.mp isLayer
    exact follows.isBolt name (isName present)
  · intro index layer next isLayer isNext address isAddress
    obtain ⟨name, atName, rfl⟩ := atIndex isLayer
    obtain ⟨child, atChild, rfl⟩ := atIndex isNext
    have groups := follows.groups name (isName (List.mem_of_getElem? atName))
      address isAddress
    rw [chained.links _ index name child atName atChild] at groups
    exact ⟨child, groups⟩
  · intro index layer isLayer isLast address isAddress
    obtain ⟨name, atName, rfl⟩ := atIndex isLayer
    rw [List.getElem?_map, Option.map_eq_none_iff] at isLast
    have groups := follows.groups name (isName (List.mem_of_getElem? atName))
      address isAddress
    rw [chained.last _ index name atName isLast] at groups
    exact groups
  · intro address isAddress
    obtain ⟨name, present, isKnown⟩ := follows.covered address isAddress
    exact ⟨_, isLayer present, isKnown⟩

end Streaming
end CraneSps
