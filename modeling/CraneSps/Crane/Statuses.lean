import CraneSps.Crane.Operations
import Mathlib.Logic.Function.Basic

/-!
# Statuses

Every operation of Nimbus changes the status of one topology, in a way that
depends on that status only.  A map from ids to statuses is therefore an
abstraction of all of `topoStats` that every operation respects.  The
specifications change only when a topology is submitted or killed.
-/

namespace CraneSps
namespace Crane

namespace TopoStats

variable {stats : TopoStats} {topoId other : String} {status : TopoStatus}
variable {tracker : TopologyTracker}

theorem getTopoStatus_set :
    (stats.set topoId tracker).getTopoStatus =
      Function.update stats.getTopoStatus topoId (some tracker.status) := by
  funext other
  simp only [getTopoStatus, mem_topoIds_set, tracker_set,
    Function.update_apply]
  by_cases same : other = topoId
  · simp [same]
  · simp [same]

theorem getTopoStatus_setTopoStatus :
    (stats.setTopoStatus topoId status).getTopoStatus =
      Function.update stats.getTopoStatus topoId
        ((stats.getTopoStatus topoId).map fun _ => status) := by
  by_cases tracked : topoId ∈ stats.topoIds
  · rw [setTopoStatus_of_mem tracked, getTopoStatus_set]
    simp [getTopoStatus, tracked]
  · rw [setTopoStatus_of_notMem tracked]
    simp [getTopoStatus, tracked]

theorem getTopoStatus_erase :
    (stats.erase topoId).getTopoStatus =
      Function.update stats.getTopoStatus topoId none := by
  funext other
  simp only [getTopoStatus, tracker_erase, Function.update_apply]
  by_cases same : other = topoId
  · simp [same, erase]
  · simp [same, erase]

/-- An instance is added without a change of any status. -/
theorem getTopoStatus_addTopoTaskInstance (name address : String) :
    (stats.addTopoTaskInstance topoId name address).getTopoStatus =
      stats.getTopoStatus := by
  unfold addTopoTaskInstance
  split
  · next tracked =>
      rw [getTopoStatus_set]
      simp [getTopoStatus, tracked]
  · rfl

/-- The instances are cleared in an entry that is created if necessary. -/
theorem getTopoStatus_clearTaskInstances :
    (stats.clearTaskInstances topoId).getTopoStatus =
      Function.update stats.getTopoStatus topoId
        (some ((stats.getTopoStatus topoId).getD .unset)) := by
  rw [clearTaskInstances, getTopoStatus_set]
  by_cases tracked : topoId ∈ stats.topoIds
  · simp [getTopoStatus, tracked]
  · simp [getTopoStatus, tracked, stats.absent topoId tracked, default]

end TopoStats

/-- The status of every tracked topology. -/
def Cluster.status (cluster : Cluster) : String → Option TopoStatus :=
  cluster.nimbus.topoStats.getTopoStatus

theorem Cluster.mem_topoIds_iff
    {cluster : Cluster} {topoId : String} :
    topoId ∈ cluster.nimbus.topoStats.topoIds ↔
      cluster.status topoId ≠ none := by
  simp [status, TopoStats.getTopoStatus]

/-- What an operation does to the statuses. -/
def Operation.effect
    (status : String → Option TopoStatus) :
    Operation → String → Option TopoStatus
  | .compile topoId =>
      Function.update status topoId ((status topoId).map fun _ => .idle)
  | .prepare topoId =>
      Function.update status topoId ((status topoId).map fun _ => .ready)
  | .start topoId =>
      Function.update status topoId
        ((status topoId).map fun current =>
          if current = .ready then .running else current)
  | .stop topoId =>
      Function.update status topoId
        (some ((status topoId).elim .unset fun _ => .idle))
  | .kill topoId => Function.update status topoId none

/-- Only `killTopology` removes an entry, that of its topology. -/
theorem Operation.effect_ne_none
    {status : String → Option TopoStatus} {operation : Operation}
    {topoId : String} (notKilled : operation ≠ .kill topoId)
    (tracked : status topoId ≠ none) :
    operation.effect status topoId ≠ none := by
  cases operation with
  | compile other | prepare other | start other =>
      simp only [effect, Function.update_apply]
      split
      · next same => simpa [← same] using tracked
      · exact tracked
  | stop other =>
      simp only [effect, Function.update_apply]
      split
      · nofun
      · exact tracked
  | kill other =>
      have differs : topoId ≠ other := by
        rintro rfl
        exact notKilled rfl
      rw [effect, Function.update_of_ne differs]
      exact tracked

namespace Cluster

variable {cluster next : Cluster} {topoId : String} {members : List String}

/-- What no new instance changes, the replies of the supervisors leave. -/
theorem observe_addWorkers
    {Observation : Type} {observe : TopoStats → Observation}
    (kept : ∀ stats name address,
      observe (stats.addTopoTaskInstance topoId name address) = observe stats)
    (requests : List (String × String × Nat)) :
    observe (requests.foldl (addWorker topoId) cluster).nimbus.topoStats =
      observe cluster.nimbus.topoStats := by
  induction requests generalizing cluster with
  | nil => rfl
  | cons request requests inductionHypothesis =>
      rw [List.foldl_cons, inductionHypothesis]
      obtain ⟨id, name, count⟩ := request
      have replied (stats : TopoStats) (ports : List Nat) :
          observe (ports.foldl (fun current port =>
            current.addTopoTaskInstance topoId name (makeAddr id port))
            stats) = observe stats := by
        induction ports generalizing stats with
        | nil => rfl
        | cons port ports portsHypothesis =>
            rw [List.foldl_cons, portsHypothesis, kept]
      exact replied _ _

/-- The replies of the supervisors leave the statuses. -/
theorem status_addWorkers (requests : List (String × String × Nat)) :
    (requests.foldl (addWorker topoId) cluster).status = cluster.status :=
  observe_addWorkers
    (fun _ name address => TopoStats.getTopoStatus_addTopoTaskInstance
      name address) requests

theorem status_prepareTopology
    (prepared : cluster.prepareTopology topoId members = some next) :
    next.status = Operation.effect cluster.status (.prepare topoId) := by
  obtain ⟨assignment, executor, _, rfl⟩ := exists_of_prepareTopology prepared
  refine TopoStats.getTopoStatus_setTopoStatus.trans ?_
  change Function.update (status (List.foldl _ _ _)) topoId
    ((status (List.foldl _ _ _) topoId).map _) = _
  rw [status_addWorkers]
  change Function.update (TopoStats.getTopoStatus
    (cluster.nimbus.topoStats.setTopoStatus topoId .preparing)) topoId
    ((TopoStats.getTopoStatus
      (cluster.nimbus.topoStats.setTopoStatus topoId .preparing)
      topoId).map _) = _
  rw [TopoStats.getTopoStatus_setTopoStatus, Function.update_idem,
    Function.update_self, Option.map_map]
  rfl

theorem status_startTopology :
    (cluster.startTopology topoId members).status =
      Operation.effect cluster.status (.start topoId) := by
  unfold startTopology
  split
  · next isReady =>
      refine TopoStats.getTopoStatus_setTopoStatus.trans ?_
      change Function.update cluster.status topoId
        ((cluster.status topoId).map _) = _
      change cluster.status topoId = some .ready at isReady
      rw [isReady]
      simp [Operation.effect, isReady]
  · next notReady =>
      change ¬ cluster.status topoId = some .ready at notReady
      have kept : (cluster.status topoId).map (fun current =>
          if current = .ready then .running else current) =
          cluster.status topoId := by
        cases current : cluster.status topoId with
        | none => rfl
        | some status =>
            have differs : status ≠ .ready := by
              rintro rfl
              exact notReady current
            rw [Option.map_some, if_neg differs]
      rw [Operation.effect, kept, Function.update_eq_self]

theorem status_stopTopology :
    (cluster.stopTopology topoId members).status =
      Operation.effect cluster.status (.stop topoId) := by
  refine TopoStats.getTopoStatus_clearTaskInstances.trans ?_
  change Function.update (TopoStats.getTopoStatus
    (cluster.nimbus.topoStats.setTopoStatus topoId .idle)) topoId
    (some ((TopoStats.getTopoStatus
      (cluster.nimbus.topoStats.setTopoStatus topoId .idle)
      topoId).getD .unset)) = _
  rw [TopoStats.getTopoStatus_setTopoStatus, Function.update_idem,
    Function.update_self, Operation.effect]
  change Function.update cluster.status topoId
    (some (((cluster.status topoId).map _).getD _)) = _
  cases cluster.status topoId with
  | none => rfl
  | some status => rfl

theorem status_killTopology :
    (cluster.killTopology topoId members).status =
      Operation.effect cluster.status (.kill topoId) := by
  unfold killTopology
  split
  · next untracked =>
      change cluster.status topoId = none at untracked
      rw [Operation.effect, ← untracked, Function.update_eq_self]
  · next current tracked =>
      refine TopoStats.getTopoStatus_erase.trans ?_
      split
      · change Function.update (status (cluster.stopTopology _ _)) _ _ = _
        rw [status_stopTopology, Operation.effect, Function.update_idem]
        rfl
      · rfl

/-- A topology is submitted. -/
theorem status_submit (spec : TopologySpec) :
    (cluster.submit topoId spec).status =
      Function.update cluster.status topoId (some .pending) := by
  refine TopoStats.getTopoStatus_setTopoStatus.trans ?_
  rw [TopoStats.setTopoSpec, TopoStats.getTopoStatus_set]
  simp [Cluster.status]

/-! ## Totality -/

/-- There is a next executor as soon as there is a supervisor. -/
theorem exists_nextExecutor
    {supervisors : List String} (someone : supervisors ≠ [])
    (executor : String) :
    ∃ next, Nimbus.nextExecutor supervisors executor = some next := by
  have positive : 0 < supervisors.length :=
    List.length_pos_iff.mpr someone
  unfold Nimbus.nextExecutor
  split
  · exact ⟨_, List.getElem?_eq_getElem positive⟩
  · exact ⟨_, List.getElem?_eq_getElem (Nat.mod_lt _ positive)⟩

theorem exists_assign
    {supervisors : List String} (someone : supervisors ≠ [])
    (executor : String) (tasks : List String) :
    ∃ assigned, Nimbus.assign supervisors executor tasks = some assigned := by
  induction tasks generalizing executor with
  | nil => exact ⟨_, rfl⟩
  | cons task tasks inductionHypothesis =>
      obtain ⟨next, isNext⟩ := exists_nextExecutor someone executor
      obtain ⟨rest, isRest⟩ := inductionHypothesis next
      refine ⟨((next, task) :: rest.1, rest.2), ?_⟩
      simp [Nimbus.assign, isNext, isRest]

/-- A topology can be prepared if there is a supervisor. -/
theorem exists_prepareTopology
    (supervised : ∃ id ∈ members, id ≠ cluster.nimbus.id) :
    ∃ next, cluster.prepareTopology topoId members = some next := by
  have someone : members.filter (fun id => id != cluster.nimbus.id) ≠ [] := by
    obtain ⟨id, isMember, differs⟩ := supervised
    have present : id ∈ members.filter fun id => id != cluster.nimbus.id := by
      simpa using ⟨isMember, differs⟩
    exact List.ne_nil_of_mem present
  obtain ⟨assigned, isAssigned⟩ :=
    exists_assign someone cluster.nimbus.executor
      (cluster.nimbus.topoStats.getTopoSpec topoId).tasks
  rw [prepareTopology, assignTasks_of_assign isAssigned]
  exact ⟨_, rfl⟩

end Cluster

/-- With a supervisor every operation can be carried out. -/
theorem Operation.exists_execute
    {cluster : Cluster} {members : List String} (operation : Operation)
    (supervised : ∃ id ∈ members, id ≠ cluster.nimbus.id) :
    ∃ next, operation.execute cluster members = some next := by
  cases operation with
  | prepare topoId => exact Cluster.exists_prepareTopology supervised
  | compile topoId | start topoId | stop topoId | kill topoId =>
      exact ⟨_, rfl⟩

theorem Cluster.id_addWorkers
    {cluster : Cluster} {topoId : String}
    (requests : List (String × String × Nat)) :
    (requests.foldl (addWorker topoId) cluster).nimbus.id =
      cluster.nimbus.id := by
  induction requests generalizing cluster with
  | nil => rfl
  | cons request requests inductionHypothesis =>
      rw [List.foldl_cons, inductionHypothesis]
      rfl

/-- Nimbus stays on its node. -/
theorem Operation.id_execute
    {cluster next : Cluster} {members : List String} {operation : Operation}
    (executed : operation.execute cluster members = some next) :
    next.nimbus.id = cluster.nimbus.id := by
  cases operation with
  | compile topoId | stop topoId =>
      obtain rfl := Option.some.inj executed
      rfl
  | prepare topoId =>
      obtain ⟨_, _, _, rfl⟩ := Cluster.exists_of_prepareTopology executed
      exact Cluster.id_addWorkers _
  | start topoId =>
      obtain rfl := Option.some.inj executed
      unfold Cluster.startTopology
      split <;> rfl
  | kill topoId =>
      obtain rfl := Option.some.inj executed
      unfold Cluster.killTopology
      split
      · rfl
      · change (if _ then _ else cluster : Cluster).nimbus.id = _
        split <;> rfl

/-- Every operation has its effect on the statuses. -/
theorem Operation.status_execute
    {cluster next : Cluster} {members : List String} {operation : Operation}
    (executed : operation.execute cluster members = some next) :
    next.status = operation.effect cluster.status := by
  cases operation with
  | compile topoId =>
      obtain rfl := Option.some.inj executed
      exact TopoStats.getTopoStatus_setTopoStatus
  | prepare topoId => exact Cluster.status_prepareTopology executed
  | start topoId =>
      obtain rfl := Option.some.inj executed
      exact Cluster.status_startTopology
  | stop topoId =>
      obtain rfl := Option.some.inj executed
      exact Cluster.status_stopTopology
  | kill topoId =>
      obtain rfl := Option.some.inj executed
      exact Cluster.status_killTopology

/-! ## Specifications -/

section Specifications

variable {cluster next : Cluster} {topoId other : String}
variable {members : List String}

/-- The specification of a topology. -/
def Cluster.spec (cluster : Cluster) (topoId : String) : TopologySpec :=
  cluster.nimbus.topoStats.getTopoSpec topoId

theorem TopoStats.getTopoSpec_set_of_same
    {stats : TopoStats} {tracker : TopologyTracker}
    (same : tracker.topoSpec = stats.getTopoSpec topoId) :
    (stats.set topoId tracker).getTopoSpec other = stats.getTopoSpec other := by
  rw [getTopoSpec, tracker_set]
  split
  · next isSame => rw [isSame, same]
  · rfl

theorem TopoStats.getTopoSpec_clearTaskInstances
    {stats : TopoStats} :
    (stats.clearTaskInstances topoId).getTopoSpec other =
      stats.getTopoSpec other :=
  getTopoSpec_set_of_same rfl

theorem TopoStats.getTopoSpec_addTopoTaskInstance
    {stats : TopoStats} {name address : String} :
    (stats.addTopoTaskInstance topoId name address).getTopoSpec other =
      stats.getTopoSpec other := by
  rw [addTopoTaskInstance]
  split
  · exact getTopoSpec_set_of_same rfl
  · rfl

theorem Cluster.spec_addWorkers
    (requests : List (String × String × Nat)) :
    (requests.foldl (addWorker topoId) cluster).spec other =
      cluster.spec other :=
  @observe_addWorkers cluster topoId _
    (fun stats => stats.getTopoSpec other)
    (fun _ _ _ => TopoStats.getTopoSpec_addTopoTaskInstance) requests

/-- Only `killTopology` changes a specification, that of its topology. -/
theorem Operation.spec_execute
    {operation : Operation}
    (executed : operation.execute cluster members = some next)
    (notKilled : operation ≠ .kill other) :
    next.spec other = cluster.spec other := by
  have stopped (topoId : String) :
      (cluster.stopTopology topoId members).spec other =
        cluster.spec other := by
    refine TopoStats.getTopoSpec_clearTaskInstances.trans ?_
    exact TopoStats.getTopoSpec_setTopoStatus
  cases operation with
  | compile topoId =>
      obtain rfl := Option.some.inj executed
      exact TopoStats.getTopoSpec_setTopoStatus
  | prepare topoId =>
      obtain ⟨_, _, _, rfl⟩ := Cluster.exists_of_prepareTopology executed
      refine TopoStats.getTopoSpec_setTopoStatus.trans ?_
      exact (Cluster.spec_addWorkers _).trans
        TopoStats.getTopoSpec_setTopoStatus
  | start topoId =>
      obtain rfl := Option.some.inj executed
      unfold Cluster.startTopology
      split
      · exact TopoStats.getTopoSpec_setTopoStatus
      · rfl
  | stop topoId =>
      obtain rfl := Option.some.inj executed
      exact stopped topoId
  | kill topoId =>
      obtain rfl := Option.some.inj executed
      have differs : other ≠ topoId := by
        rintro rfl
        exact notKilled rfl
      unfold Cluster.killTopology
      split
      · rfl
      · change ((TopoStats.erase _ topoId).tracker other).topoSpec = _
        rw [TopoStats.tracker_erase, if_neg differs]
        split
        · exact stopped topoId
        · rfl

end Specifications

end Crane
end CraneSps
