import CraneSps.Crane.Assignment
import CraneSps.Crane.Statuses

/-!
# Workers of the supervisors

A worker is identified by its supervisor, its key and its port here.  Only
`ADD_WORKER` and `KILL_WORKER` change which workers a supervisor has, so only
`prepareTopology` and `stopTopology` do.
-/

namespace CraneSps
namespace Crane

namespace Supervisor

/-- A worker with this port is kept under this key. -/
def Has (supervisor : Supervisor) (workerId : String) (port : Nat) : Prop :=
  ∃ workers ∈ supervisor.workersMap workerId,
    ∃ worker ∈ workers, worker.dataPort = port

variable {supervisor : Supervisor} {workerId topoId name : String}
variable {port : Nat}

instance : Decidable (supervisor.Has workerId port) := by
  unfold Has
  infer_instance

theorem not_has_initial : ¬ initial.Has workerId port := by
  rintro ⟨workers, found, _⟩
  cases found

/-- New workers have the next ports. -/
theorem has_addWorker
    (id topoId runName name : String) (parallelismLevel : Nat) :
    (supervisor.addWorker id topoId runName name parallelismLevel).1.Has
        workerId port ↔
      supervisor.Has workerId port ∨
        workerId = createWorkerId topoId name ∧ supervisor.port ≤ port ∧
          port < supervisor.port + parallelismLevel := by
  have isNew : (∃ worker ∈ supervisor.newWorkers topoId runName name
      parallelismLevel, worker.dataPort = port) ↔
      supervisor.port ≤ port ∧
        port < supervisor.port + parallelismLevel := by
    simp only [newWorkers, List.mem_map, List.mem_range]
    constructor
    · rintro ⟨_, ⟨offset, inRange, rfl⟩, rfl⟩
      exact ⟨Nat.le_add_right _ _, Nat.add_lt_add_left inRange _⟩
    · rintro ⟨above, below⟩
      exact ⟨_, ⟨port - supervisor.port, by omega, rfl⟩,
        Nat.add_sub_cancel' above⟩
  by_cases same : workerId = createWorkerId topoId name
  · subst same
    simp only [Has, addWorker, Function.update_self, Option.mem_some_iff,
      exists_eq_left', List.mem_append, or_and_right, exists_or, isNew,
      true_and]
    apply or_congr_left
    cases supervisor.workersMap (createWorkerId topoId name) with
    | none => simp
    | some workers => simp
  · simp [Has, addWorker, same]

/-- What is told to the workers of a task leaves all workers. -/
theorem has_forWorkers
    {operation : Worker → Worker}
    (keeps : ∀ worker, (operation worker).dataPort = worker.dataPort) :
    (supervisor.forWorkers topoId name operation).Has workerId port ↔
      supervisor.Has workerId port := by
  by_cases same : workerId = createWorkerId topoId name
  · subst same
    simp only [Has, forWorkers, Function.update_self, Option.mem_def]
    cases supervisor.workersMap (createWorkerId topoId name) with
    | none => simp
    | some workers => simp [keeps]
  · simp [Has, forWorkers, Function.update_of_ne same]

theorem has_killWorker :
    (supervisor.killWorker topoId name).Has workerId port ↔
      workerId ≠ createWorkerId topoId name ∧
        supervisor.Has workerId port := by
  by_cases same : workerId = createWorkerId topoId name
  · subst same
    simp [Has, killWorker]
  · simp [Has, killWorker, same]

/-- All tasks of a topology are killed. -/
theorem has_killWorkers (names : List String) :
    (names.foldl (fun current name => current.killWorker topoId name)
        supervisor).Has workerId port ↔
      (∀ name ∈ names, workerId ≠ createWorkerId topoId name) ∧
        supervisor.Has workerId port := by
  induction names generalizing supervisor with
  | nil => simp
  | cons name names inductionHypothesis =>
      rw [List.foldl_cons, inductionHypothesis, has_killWorker,
        List.forall_mem_cons, and_assoc, and_left_comm]

/-- A sequence of requests that leave the workers and the counter. -/
theorem has_foldl
    {Request : Type} {operation : Supervisor → Request → Supervisor}
    (keeps : ∀ supervisor request,
      (operation supervisor request).Has workerId port ↔
        supervisor.Has workerId port)
    (requests : List Request) :
    (requests.foldl operation supervisor).Has workerId port ↔
      supervisor.Has workerId port := by
  induction requests generalizing supervisor with
  | nil => rfl
  | cons request requests inductionHypothesis =>
      rw [List.foldl_cons, inductionHypothesis, keeps]

theorem port_foldl
    {Request : Type} {operation : Supervisor → Request → Supervisor}
    (keeps : ∀ supervisor request,
      (operation supervisor request).port = supervisor.port)
    (requests : List Request) :
    (requests.foldl operation supervisor).port = supervisor.port := by
  induction requests generalizing supervisor with
  | nil => rfl
  | cons request requests inductionHypothesis =>
      rw [List.foldl_cons, inductionHypothesis, keeps]

end Supervisor

/-! ## Operations of Nimbus -/

namespace Cluster

variable {cluster next : Cluster} {topoId id workerId : String}
variable {members : List String} {port : Nat}

/-- Ports are only given away. -/
theorem port_le_addWorkers (requests : List (String × String × Nat)) :
    (cluster.supervisor id).port ≤
      ((requests.foldl (addWorker topoId) cluster).supervisor id).port := by
  induction requests generalizing cluster with
  | nil => exact Nat.le_refl _
  | cons request requests inductionHypothesis =>
      obtain ⟨other, name, count⟩ := request
      refine Nat.le_trans ?_ inductionHypothesis
      by_cases same : id = other
      · subst same
        simp [addWorker, Supervisor.addWorker]
      · simp [addWorker, same]

/-- The requests to one supervisor after the other create workers only under
the keys of the requests. -/
theorem has_addWorkers
    {requests : List (String × String × Nat)}
    (has : ((requests.foldl (addWorker topoId) cluster).supervisor id).Has
      workerId port) :
    (cluster.supervisor id).Has workerId port ∨
      (∃ name count, (id, name, count) ∈ requests ∧
        workerId = Supervisor.createWorkerId topoId name) ∧
      (cluster.supervisor id).port ≤ port ∧
      port <
        ((requests.foldl (addWorker topoId) cluster).supervisor id).port := by
  induction requests generalizing cluster with
  | nil => exact .inl has
  | cons request requests inductionHypothesis =>
      obtain ⟨other, name, count⟩ := request
      rw [List.foldl_cons] at has ⊢
      have grows := @port_le_addWorkers
        (addWorker topoId cluster (other, name, count)) topoId id requests
      rcases inductionHypothesis has with
        before | ⟨⟨task, copies, later, isKey⟩, above, below⟩
      · by_cases same : id = other
        · subst same
          simp only [addWorker, Function.update_self] at before grows
          rcases (Supervisor.has_addWorker _ _ _ _ _).mp before with
            isOld | ⟨isKey, above, below⟩
          · exact .inl isOld
          · refine .inr ⟨⟨name, count, List.mem_cons_self, isKey⟩, above, ?_⟩
            exact Nat.lt_of_lt_of_le below grows
        · simp only [addWorker, Function.update_of_ne same] at before
          exact .inl before
      · refine .inr ⟨⟨task, copies, List.mem_cons_of_mem _ later, isKey⟩, ?_,
          below⟩
        exact Nat.le_trans (@port_le_addWorkers _ topoId id
          [(other, name, count)]) above

theorem supervisors_addWorkers (requests : List (String × String × Nat)) :
    (requests.foldl (addWorker topoId) cluster).nimbus.supervisors =
      cluster.nimbus.supervisors := by
  induction requests generalizing cluster with
  | nil => rfl
  | cons request requests inductionHypothesis =>
      rw [List.foldl_cons, inductionHypothesis]
      rfl

theorem has_forSupervisors
    {operation : Supervisor → Supervisor}
    (keeps : ∀ supervisor,
      (operation supervisor).Has workerId port ↔
        supervisor.Has workerId port) :
    ((cluster.forSupervisors operation).supervisor id).Has workerId port ↔
      (cluster.supervisor id).Has workerId port := by
  simp only [forSupervisors]
  split
  · exact keeps _
  · rfl

theorem port_forSupervisors
    {operation : Supervisor → Supervisor}
    (keeps : ∀ supervisor, (operation supervisor).port = supervisor.port) :
    ((cluster.forSupervisors operation).supervisor id).port =
      (cluster.supervisor id).port := by
  simp only [forSupervisors]
  split
  · exact keeps _
  · rfl

theorem has_configureConnections :
    ((cluster.configureConnections topoId).supervisor id).Has workerId port ↔
      (cluster.supervisor id).Has workerId port := by
  unfold configureConnections
  apply has_forSupervisors
  intro supervisor
  apply Supervisor.has_foldl
  rintro current ⟨name, groups⟩
  exact Supervisor.has_forWorkers fun _ => rfl

theorem port_configureConnections :
    ((cluster.configureConnections topoId).supervisor id).port =
      (cluster.supervisor id).port := by
  unfold configureConnections
  apply port_forSupervisors
  intro supervisor
  apply Supervisor.port_foldl
  intro current request
  rfl

/-- `prepareTopology` creates workers of its topology, at supervisors. -/
theorem has_prepareTopology
    (prepared : cluster.prepareTopology topoId members = some next)
    (has : (next.supervisor id).Has workerId port) :
    (cluster.supervisor id).Has workerId port ∨
      id ∈ next.nimbus.supervisors ∧
      (∃ name ∈ (cluster.spec topoId).names,
        workerId = Supervisor.createWorkerId topoId name) ∧
      (cluster.supervisor id).port ≤ port ∧
      port < (next.supervisor id).port := by
  obtain ⟨assignment, executor, assigned, rfl⟩ :=
    exists_of_prepareTopology prepared
  have created := has_configureConnections.mp has
  rcases has_addWorkers created with
    isOld | ⟨⟨name, count, isRequest, isKey⟩, above, below⟩
  · exact .inl isOld
  · obtain ⟨isSupervisor, isTask⟩ := Nimbus.mem_of_assign assigned
      (Nimbus.mem_of_mem_addRequests isRequest)
    refine .inr ⟨?_, ⟨name, ?_, isKey⟩, above, ?_⟩
    · change id ∈ (List.foldl _ _ _ : Cluster).nimbus.supervisors
      rw [supervisors_addWorkers]
      exact isSupervisor
    · exact TopologySpec.mem_names_of_mem_tasks isTask
    · exact Nat.lt_of_lt_of_eq below port_configureConnections.symm

/-- Only `prepareTopology` gives ports away. -/
theorem port_le_prepareTopology
    (prepared : cluster.prepareTopology topoId members = some next) :
    (cluster.supervisor id).port ≤ (next.supervisor id).port := by
  obtain ⟨assignment, executor, assigned, rfl⟩ :=
    exists_of_prepareTopology prepared
  refine Nat.le_trans ?_ (Nat.le_of_eq port_configureConnections.symm)
  refine Nat.le_trans (Nat.le_of_eq ?_) (port_le_addWorkers _)
  rfl

/-- The current supervisors are the other members. -/
theorem supervisor_reached
    (operation : Supervisor → Supervisor) :
    ((cluster.updateSupervisors members).forSupervisors
        operation).supervisor id =
      if id ∈ members ∧ id ≠ cluster.nimbus.id then
        operation (cluster.supervisor id)
      else cluster.supervisor id := by
  simp [forSupervisors, updateSupervisors, Nimbus.updateSupervisors]

theorem supervisor_startTopology
    (isReady : cluster.status topoId = some .ready) :
    (cluster.startTopology topoId members).supervisor id =
      if id ∈ members ∧ id ≠ cluster.nimbus.id then
        (cluster.spec topoId).names.foldl
          (fun current name => current.startWorker topoId name)
          (cluster.supervisor id)
      else cluster.supervisor id := by
  have ready : cluster.nimbus.topoStats.getTopoStatus topoId = some .ready :=
    isReady
  rw [startTopology, if_pos ready]
  exact @supervisor_reached cluster id members fun supervisor =>
    (cluster.spec topoId).names.foldl
      (fun current name => current.startWorker topoId name) supervisor

theorem supervisor_stopTopology :
    (cluster.stopTopology topoId members).supervisor id =
      if id ∈ members ∧ id ≠ cluster.nimbus.id then
        (cluster.spec topoId).names.foldl
          (fun current name => current.killWorker topoId name)
          (cluster.supervisor id)
      else cluster.supervisor id :=
  @supervisor_reached cluster id members fun supervisor =>
    (cluster.spec topoId).names.foldl
      (fun current name => current.killWorker topoId name) supervisor

/-- A topology that is not ready is not started. -/
theorem startTopology_of_not_ready
    (notReady : cluster.status topoId ≠ some .ready) :
    cluster.startTopology topoId members = cluster :=
  if_neg notReady

theorem has_startTopology :
    ((cluster.startTopology topoId members).supervisor id).Has workerId port ↔
      (cluster.supervisor id).Has workerId port := by
  by_cases isReady : cluster.status topoId = some .ready
  · rw [supervisor_startTopology isReady]
    split
    · apply Supervisor.has_foldl
      intro current name
      exact Supervisor.has_forWorkers fun _ => rfl
    · rfl
  · rw [startTopology_of_not_ready isReady]

theorem port_startTopology :
    ((cluster.startTopology topoId members).supervisor id).port =
      (cluster.supervisor id).port := by
  by_cases isReady : cluster.status topoId = some .ready
  · rw [supervisor_startTopology isReady]
    split
    · apply Supervisor.port_foldl
      intro current name
      rfl
    · rfl
  · rw [startTopology_of_not_ready isReady]

/-- `stopTopology` kills the workers of its topology at the supervisors of the
membership list. -/
theorem has_stopTopology :
    ((cluster.stopTopology topoId members).supervisor id).Has workerId port ↔
      (cluster.supervisor id).Has workerId port ∧
        ((id ∈ members ∧ id ≠ cluster.nimbus.id) →
          ∀ name ∈ (cluster.spec topoId).names,
            workerId ≠ Supervisor.createWorkerId topoId name) := by
  rw [supervisor_stopTopology]
  split
  · next reached =>
      rw [Supervisor.has_killWorkers, and_comm]
      simp [reached]
  · next missed => simp [missed]

theorem port_stopTopology :
    ((cluster.stopTopology topoId members).supervisor id).port =
      (cluster.supervisor id).port := by
  rw [supervisor_stopTopology]
  split
  · apply Supervisor.port_foldl
    intro current name
    rfl
  · rfl

/-- `killTopology` stops the topology only if it is running. -/
theorem supervisor_killTopology :
    (cluster.killTopology topoId members).supervisor =
      if cluster.status topoId = some .running then
        (cluster.stopTopology topoId members).supervisor
      else cluster.supervisor := by
  have same : cluster.nimbus.topoStats.getTopoStatus topoId =
      cluster.status topoId := rfl
  unfold killTopology
  rw [same]
  cases cluster.status topoId with
  | none => simp
  | some status =>
      simp only [Option.some.injEq]
      split <;> rfl

theorem has_killTopology :
    ((cluster.killTopology topoId members).supervisor id).Has workerId port ↔
      (cluster.supervisor id).Has workerId port ∧
        (cluster.status topoId = some .running ∧ id ∈ members ∧
            id ≠ cluster.nimbus.id →
          ∀ name ∈ (cluster.spec topoId).names,
            workerId ≠ Supervisor.createWorkerId topoId name) := by
  rw [supervisor_killTopology]
  by_cases isRunning : cluster.status topoId = some .running
  · rw [if_pos isRunning, has_stopTopology]
    simp [isRunning]
  · rw [if_neg isRunning]
    simp [isRunning]

theorem port_killTopology :
    ((cluster.killTopology topoId members).supervisor id).port =
      (cluster.supervisor id).port := by
  rw [supervisor_killTopology]
  split
  · exact port_stopTopology
  · rfl

end Cluster

end Crane
end CraneSps
