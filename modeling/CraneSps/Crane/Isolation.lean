import CraneSps.Crane.Workers

/-!
# Calls of a supervisor

The key of the workers of a task is the id of the topology followed by the
name of the task, so two tasks can share their workers.
-/

namespace CraneSps
namespace Crane

/-- The calls that a supervisor gets. -/
inductive Call
  | addWorker
      (topoId runName name : String) (parallelismLevel : Int)
  | configureConnections
      (topoId name : String) (connectionGroups : List ConnectionGroup)
  | startWorker (topoId name : String)
  | killWorker (topoId name : String)
  deriving DecidableEq

/-- The topology and the name that a call is for. -/
def Call.task : Call → String × String
  | .addWorker topoId _ name _ => (topoId, name)
  | .configureConnections topoId name _ => (topoId, name)
  | .startWorker topoId name => (topoId, name)
  | .killWorker topoId name => (topoId, name)

namespace Supervisor

variable (supervisor : Supervisor)

/-- Carry out a call at the supervisor of a node. -/
def call (id : String) : Call → Supervisor
  | .addWorker topoId runName name parallelismLevel =>
      (supervisor.addWorker id topoId runName name
        parallelismLevel.toNat).1
  | .configureConnections topoId name connectionGroups =>
      supervisor.configureConnections topoId name connectionGroups
  | .startWorker topoId name => supervisor.startWorker topoId name
  | .killWorker topoId name => supervisor.killWorker topoId name

/-- Carry out one call after the other. -/
def calls (id : String) (history : List Call) : Supervisor :=
  history.foldl (fun current => current.call id) supervisor

/-- The workers of a task. -/
def workers (task : String × String) : List Worker :=
  (supervisor.workersMap (createWorkerId task.1 task.2)).getD []

variable {supervisor} {id workerId topoId name : String}

/-! ## Keys -/

/-- The key is the concatenation of its two parts. -/
theorem createWorkerId_eq_iff {task other : String × String} :
    createWorkerId task.1 task.2 = createWorkerId other.1 other.2 ↔
      task.1 ++ task.2 = other.1 ++ other.2 := by
  simp only [createWorkerId, ← String.toList_inj, String.toList_append,
    List.append_assoc]
  rw [List.append_cancel_left_eq]

/-! ## Ports -/

/-- Every worker has a port that has been given away. -/
def PortsBelow (supervisor : Supervisor) : Prop :=
  ∀ workerId port, supervisor.Has workerId port → port < supervisor.port

/-- Ports are given away before they are used. -/
theorem PortsBelow.call
    (below : PortsBelow supervisor) (id : String) (call : Call) :
    PortsBelow (supervisor.call id call) := by
  intro workerId port has
  cases call with
  | addWorker topoId runName name parallelismLevel =>
      rcases (has_addWorker id topoId runName name _).mp has with
        isOld | ⟨_, _, isNew⟩
      · exact Nat.lt_add_right _ (below workerId port isOld)
      · exact isNew
  | configureConnections topoId name connectionGroups =>
      refine below workerId port ((has_forWorkers ?_).mp has)
      intro worker
      rfl
  | startWorker topoId name =>
      refine below workerId port ((has_forWorkers ?_).mp has)
      intro worker
      rfl
  | killWorker topoId name =>
      exact below workerId port (has_killWorker.mp has).2

/-- Ports are never given away twice. -/
theorem portsBelow_calls (id : String) (history : List Call) :
    PortsBelow (initial.calls id history) := by
  have start : PortsBelow initial := by
    intro workerId port has
    exact absurd has not_has_initial
  rw [calls]
  induction history using List.reverseRecOn with
  | nil => exact start
  | append_singleton history call inductionHypothesis =>
      rw [List.foldl_append]
      exact inductionHypothesis.call id call

/-- The workers of a task are kept under its key. -/
theorem has_of_mem_workers
    {task : String × String} {worker : Worker}
    (present : worker ∈ supervisor.workers task) :
    supervisor.Has (createWorkerId task.1 task.2) worker.dataPort := by
  unfold workers at present
  cases found : supervisor.workersMap (createWorkerId task.1 task.2) with
  | none =>
      rw [found] at present
      cases present
  | some workers =>
      rw [found] at present
      exact ⟨workers, found, worker, present, rfl⟩

end Supervisor

end Crane
end CraneSps
