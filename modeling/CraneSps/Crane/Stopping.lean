import CraneSps.Crane.Balance
import CraneSps.Crane.Orphans

/-!
# Stopping a topology

Every worker is entered in a ledger when it is created and when it gets a
`KILL`.  A worker is created once, and what has been created and not killed is
what the supervisors still keep.  So `stopTopology`, which leaves no worker of
its topology, has killed every worker exactly once.
-/

namespace CraneSps
namespace Crane

/-! ## Ports under a key -/

namespace Supervisor

variable {supervisor : Supervisor} {workerId topoId name : String}

/-- The ports of the workers that are kept under a key. -/
def ports (supervisor : Supervisor) (workerId : String) : List Nat :=
  ((supervisor.workersMap workerId).getD []).map Worker.dataPort

theorem has_iff_mem_ports {port : Nat} :
    supervisor.Has workerId port ↔ port ∈ supervisor.ports workerId := by
  rw [Has, ports]
  cases supervisor.workersMap workerId with
  | none => simp
  | some workers => simp

theorem ports_newWorkers
    (topoId runName name : String) (parallelismLevel : Nat) :
    (supervisor.newWorkers topoId runName name parallelismLevel).map
        Worker.dataPort =
      List.range' supervisor.port parallelismLevel := by
  rw [newWorkers, List.map_map, List.range'_eq_map_range]
  rfl

/-- New workers are appended to those under their key. -/
theorem ports_addWorker
    (id runName : String) (parallelismLevel : Nat) :
    (supervisor.addWorker id topoId runName name parallelismLevel).1.ports
        workerId =
      supervisor.ports workerId ++
        if workerId = createWorkerId topoId name then
          List.range' supervisor.port parallelismLevel
        else [] := by
  by_cases same : workerId = createWorkerId topoId name
  · subst same
    rw [if_pos rfl, ← ports_newWorkers topoId runName name]
    simp [ports, addWorker]
  · rw [if_neg same, List.append_nil]
    simp [ports, addWorker, same]

theorem ports_forWorkers
    {operation : Worker → Worker}
    (keeps : ∀ worker, (operation worker).dataPort = worker.dataPort) :
    (supervisor.forWorkers topoId name operation).ports workerId =
      supervisor.ports workerId := by
  have keepsAll : Worker.dataPort ∘ operation = Worker.dataPort :=
    funext keeps
  by_cases same : workerId = createWorkerId topoId name
  · subst same
    simp only [ports, forWorkers, Function.update_self]
    cases supervisor.workersMap (createWorkerId topoId name) with
    | none => rfl
    | some workers => simp [keepsAll]
  · simp [ports, forWorkers, same]

/-- A sequence of requests that leave the ports. -/
theorem ports_foldl
    {Request : Type} {operation : Supervisor → Request → Supervisor}
    (keeps : ∀ supervisor request,
      (operation supervisor request).ports workerId =
        supervisor.ports workerId)
    (requests : List Request) :
    (requests.foldl operation supervisor).ports workerId =
      supervisor.ports workerId := by
  induction requests generalizing supervisor with
  | nil => rfl
  | cons request requests inductionHypothesis =>
      rw [List.foldl_cons, inductionHypothesis, keeps]

/-! ## Removed keys -/

/-- The supervisor without the workers under these keys. -/
def without (supervisor : Supervisor) (keys : List String) : Supervisor :=
  { supervisor with
    workersMap := fun workerId =>
      if workerId ∈ keys then none else supervisor.workersMap workerId }

theorem without_nil : supervisor.without [] = supervisor := by
  simp [without]

theorem without_without (keys others : List String) :
    (supervisor.without keys).without others =
      supervisor.without (keys ++ others) := by
  unfold without
  congr 1
  funext workerId
  by_cases gone : workerId ∈ keys <;> by_cases also : workerId ∈ others <;>
    simp [gone, also]

theorem without_congr
    {keys others : List String}
    (same : ∀ workerId, workerId ∈ keys ↔ workerId ∈ others) :
    supervisor.without keys = supervisor.without others := by
  unfold without
  congr 1
  funext workerId
  simp only [same]

/-- What has been removed is not removed again. -/
theorem without_twice (keys : List String) :
    (supervisor.without keys).without keys = supervisor.without keys := by
  rw [without_without]
  exact without_congr fun workerId => by simp

theorem killWorker_eq_without :
    supervisor.killWorker topoId name =
      supervisor.without [createWorkerId topoId name] := by
  unfold killWorker without
  congr 1
  funext workerId
  simp [Function.update_apply]

theorem killWorkers_eq_without (names : List String) :
    names.foldl (fun current name => current.killWorker topoId name)
        supervisor =
      supervisor.without (names.map (createWorkerId topoId)) := by
  induction names generalizing supervisor with
  | nil => exact without_nil.symm
  | cons name names inductionHypothesis =>
      rw [List.foldl_cons, inductionHypothesis, killWorker_eq_without,
        without_without, List.map_cons, List.singleton_append]

theorem ports_killWorker :
    (supervisor.killWorker topoId name).ports workerId =
      if workerId = createWorkerId topoId name then []
      else supervisor.ports workerId := by
  by_cases same : workerId = createWorkerId topoId name
  · simp [ports, killWorker, same]
  · simp [ports, killWorker, same]

end Supervisor

/-! ## The ledger -/

/-- A worker, by its supervisor, the key it is kept under and its port. -/
structure Process where
  id : String
  workerId : String
  port : Nat
  deriving DecidableEq

/-- The workers that have been created, and those that have got a `KILL`, one
entry for each. -/
structure Ledger where
  added : List Process
  killed : List Process
  deriving DecidableEq

/-- The supervisors with the ledger. -/
structure Books where
  supervisor : String → Supervisor
  ledger : Ledger

/-- The workers under one key. -/
def processes (id workerId : String) (ports : List Nat) : List Process :=
  ports.map fun port => { id := id, workerId := workerId, port := port }

theorem count_processes
    (id workerId : String) (ports : List Nat) (process : Process) :
    (processes id workerId ports).count process =
      if process.id = id ∧ process.workerId = workerId then
        ports.count process.port
      else 0 := by
  obtain ⟨other, key, port⟩ := process
  rw [processes]
  split
  next same =>
    obtain ⟨rfl, rfl⟩ := same
    have injective : Function.Injective fun port : Nat =>
        (⟨other, key, port⟩ : Process) := by
      intro first second same
      exact (Process.mk.inj same).2.2
    exact List.count_map_of_injective ports _ injective port
  next differs =>
    rw [List.count_eq_zero, List.mem_map]
    rintro ⟨_, _, same⟩
    obtain ⟨rfl, rfl, _⟩ := Process.mk.inj same
    exact differs ⟨rfl, rfl⟩

namespace Books

/-- A supervisor handles an `ADD_WORKER` request. -/
def addWorker (books : Books) (request : AddWorkerRequest) : Books :=
  let supervisor := books.supervisor request.supervisorId
  { supervisor := Function.update books.supervisor request.supervisorId
      (supervisor.addWorker request.supervisorId request.topoId
        request.runname request.name request.instanceNumber).1
    ledger :=
      { books.ledger with
        added := books.ledger.added ++
          processes request.supervisorId
            (Supervisor.createWorkerId request.topoId request.name)
            ((supervisor.newWorkers request.topoId request.runname
              request.name request.instanceNumber).map Worker.dataPort) } }

/-- A supervisor handles a `KILL_WORKER` request: each of the workers gets a
`KILL`. -/
def killWorker
    (topoId : String) (books : Books) (request : String × String) : Books :=
  let (id, name) := request
  let supervisor := books.supervisor id
  let workerId := Supervisor.createWorkerId topoId name
  { supervisor := Function.update books.supervisor id
      (supervisor.killWorker topoId name)
    ledger :=
      { books.ledger with
        killed := books.ledger.killed ++
          processes id workerId (supervisor.ports workerId) } }

/-- Workers are created once, and those that have not been killed are still
kept. -/
structure Consistent (books : Books) : Prop where
  kept : ∀ process : Process,
    books.ledger.added.count process =
      books.ledger.killed.count process +
        ((books.supervisor process.id).ports process.workerId).count
          process.port
  issued : ∀ process ∈ books.ledger.added,
    process.port < (books.supervisor process.id).port
  once : books.ledger.added.Nodup

variable {books : Books}

/-- New workers get new ports. -/
theorem Consistent.addWorker
    (consistent : books.Consistent) (request : AddWorkerRequest) :
    (books.addWorker request).Consistent where
  kept := by
    intro process
    have before := consistent.kept process
    simp only [Books.addWorker, List.count_append, count_processes,
      Supervisor.ports_newWorkers]
    by_cases here : process.id = request.supervisorId
    · rw [here, Function.update_self, Supervisor.ports_addWorker,
        List.count_append, before, here, Nat.add_assoc]
      congr 2
      by_cases key : process.workerId =
          Supervisor.createWorkerId request.topoId request.name
      · rw [if_pos ⟨rfl, key⟩, if_pos key]
      · rw [if_neg fun both => key both.2, if_neg key, List.count_nil]
    · rw [Function.update_of_ne here, if_neg fun both => here both.1, before,
        Nat.add_zero]
  issued := by
    intro process isAdded
    simp only [Books.addWorker, Supervisor.ports_newWorkers,
      List.mem_append] at isAdded ⊢
    rcases isAdded with isOld | isNew
    · have before := consistent.issued process isOld
      by_cases here : process.id = request.supervisorId
      · rw [here, Function.update_self]
        rw [here] at before
        exact Nat.lt_of_lt_of_le before (Nat.le_add_right _ _)
      · rw [Function.update_of_ne here]
        exact before
    · obtain ⟨port, inRange, rfl⟩ := List.mem_map.mp isNew
      rw [Function.update_self]
      exact (List.mem_range'_1.mp inRange).2
  once := by
    simp only [Books.addWorker, Supervisor.ports_newWorkers]
    refine List.nodup_append.mpr ⟨consistent.once, ?_, ?_⟩
    · refine List.Nodup.map ?_ List.nodup_range'
      intro first second same
      exact (Process.mk.inj same).2.2
    · intro process isOld other isNew same
      obtain ⟨port, inRange, rfl⟩ := List.mem_map.mp isNew
      have below := consistent.issued process isOld
      rw [same] at below
      exact absurd (List.mem_range'_1.mp inRange).1 (Nat.not_le.mpr below)

/-- Workers that are killed are kept no longer. -/
theorem Consistent.killWorker
    (consistent : books.Consistent)
    (topoId : String) (request : String × String) :
    (books.killWorker topoId request).Consistent where
  kept := by
    intro process
    have before := consistent.kept process
    simp only [Books.killWorker, List.count_append, count_processes]
    by_cases here : process.id = request.1
    · rw [here, Function.update_self, Supervisor.ports_killWorker, before, here]
      by_cases key : process.workerId =
          Supervisor.createWorkerId topoId request.2
      · rw [if_pos ⟨rfl, key⟩, if_pos key, key, List.count_nil,
          Nat.add_zero]
      · rw [if_neg fun both => key both.2, if_neg key, Nat.add_zero]
    · rw [Function.update_of_ne here, if_neg fun both => here both.1, before,
        Nat.add_zero]
  issued := by
    intro process isAdded
    have before := consistent.issued process isAdded
    simp only [Books.killWorker]
    by_cases here : process.id = request.1
    · rw [here, Function.update_self]
      rw [here] at before
      exact before
    · rw [Function.update_of_ne here]
      exact before
  once := consistent.once

/-- Only the ports and the counters matter. -/
theorem Consistent.of_ports
    {supervisor : String → Supervisor}
    (consistent : books.Consistent)
    (ports : ∀ id, (supervisor id).ports = (books.supervisor id).ports)
    (port : ∀ id, (supervisor id).port = (books.supervisor id).port) :
    Consistent { books with supervisor := supervisor } where
  kept := by
    intro process
    simp only [ports]
    exact consistent.kept process
  issued := by
    intro process isAdded
    simp only [port]
    exact consistent.issued process isAdded
  once := consistent.once

/-- The requests leave each supervisor without the keys that it was sent. -/
theorem supervisor_killWorkers
    (topoId id : String) (requests : List (String × String)) :
    (requests.foldl (killWorker topoId) books).supervisor id =
      (books.supervisor id).without
        ((requests.filter fun request => request.1 = id).map fun request =>
          Supervisor.createWorkerId topoId request.2) := by
  induction requests generalizing books with
  | nil => exact Supervisor.without_nil.symm
  | cons request requests inductionHypothesis =>
      rw [List.foldl_cons, inductionHypothesis]
      by_cases here : request.1 = id
      · have killed : (books.killWorker topoId request).supervisor id =
            (books.supervisor id).without
              [Supervisor.createWorkerId topoId request.2] := by
          subst here
          rw [← Supervisor.killWorker_eq_without]
          exact Function.update_self _ _ _
        rw [killed, Supervisor.without_without, List.singleton_append,
          List.filter_cons_of_pos (by simpa using here), List.map_cons]
      · have kept : (books.killWorker topoId request).supervisor id =
            books.supervisor id :=
          Function.update_of_ne (Ne.symm here) _ _
        rw [kept, List.filter_cons_of_neg (by simpa using here)]

end Books

/-! ## Operations of Nimbus -/

namespace Cluster

variable {cluster next : Cluster} {topoId id workerId : String}
variable {members : List String} {ledger : Ledger}

/-- The `KILL_WORKER` requests of `stopTopology`. -/
def killWorkerRequests
    (cluster : Cluster) (topoId : String) (members : List String) :
    List (String × String) :=
  (cluster.nimbus.updateSupervisors members).supervisors.flatMap fun id =>
    (cluster.spec topoId).names.map fun name => (id, name)

/-- What `prepareTopology` enters. -/
def prepareBooks
    (cluster : Cluster) (topoId : String) (members : List String)
    (ledger : Ledger) : Books :=
  ((cluster.addWorkerRequests topoId members).getD []).foldl Books.addWorker
    { supervisor := cluster.supervisor, ledger := ledger }

/-- What `stopTopology` enters. -/
def stopBooks
    (cluster : Cluster) (topoId : String) (members : List String)
    (ledger : Ledger) : Books :=
  (cluster.killWorkerRequests topoId members).foldl (Books.killWorker topoId)
    { supervisor := cluster.supervisor, ledger := ledger }

/-- The requests are those that are exchanged. -/
theorem supervisor_exchanges
    {books : Books} (same : cluster.supervisor = books.supervisor)
    (requests : List AddWorkerRequest) :
    (requests.foldl exchange cluster).supervisor =
      (requests.foldl Books.addWorker books).supervisor := by
  induction requests generalizing cluster books with
  | nil => exact same
  | cons request requests inductionHypothesis =>
      apply inductionHypothesis
      rw [exchange, Books.addWorker, same]

theorem supervisors_prepareTopology
    (prepared : cluster.prepareTopology topoId members = some next) :
    next.nimbus.supervisors =
      members.filter fun id => id != cluster.nimbus.id := by
  obtain ⟨assignment, executor, _, rfl⟩ := exists_of_prepareTopology prepared
  exact supervisors_addWorkers _

theorem ports_configureConnections :
    ((cluster.configureConnections topoId).supervisor id).ports =
      (cluster.supervisor id).ports := by
  funext workerId
  simp only [configureConnections, forSupervisors]
  split
  · apply Supervisor.ports_foldl
    rintro current ⟨name, groups⟩
    exact Supervisor.ports_forWorkers fun _ => rfl
  · rfl

/-- `prepareTopology` creates the workers that it enters. -/
theorem prepareTopology_books
    (prepared : cluster.prepareTopology topoId members = some next) :
    let books := cluster.prepareBooks topoId members ledger
    (next.supervisor id).ports = (books.supervisor id).ports ∧
      (next.supervisor id).port = (books.supervisor id).port := by
  obtain ⟨requests, executor, isRequests, rfl⟩ :=
    prepareTopology_eq_exchange prepared
  have same := @supervisor_exchanges
    (cluster.assigning topoId members executor)
    { supervisor := cluster.supervisor, ledger := ledger } rfl requests
  simp only [prepareBooks, isRequests, Option.getD_some]
  rw [← same]
  exact ⟨ports_configureConnections, port_configureConnections⟩

/-- `stopTopology` leaves each supervisor without the keys of the topology. -/
theorem supervisor_stopTopology_eq_without :
    (cluster.stopTopology topoId members).supervisor id =
      if id ∈ members ∧ id ≠ cluster.nimbus.id then
        (cluster.supervisor id).without
          ((cluster.spec topoId).names.map
            (Supervisor.createWorkerId topoId))
      else cluster.supervisor id := by
  rw [supervisor_stopTopology, Supervisor.killWorkers_eq_without]

/-- `stopTopology` kills the workers that it enters. -/
theorem stopTopology_books :
    (cluster.stopBooks topoId members ledger).supervisor =
      (cluster.stopTopology topoId members).supervisor := by
  funext id
  rw [stopBooks, Books.supervisor_killWorkers,
    supervisor_stopTopology_eq_without]
  have isKey (workerId : String) :
      workerId ∈ ((cluster.killWorkerRequests topoId members).filter
          fun request => request.1 = id).map (fun request =>
            Supervisor.createWorkerId topoId request.2) ↔
        (id ∈ members ∧ id ≠ cluster.nimbus.id) ∧
          workerId ∈ (cluster.spec topoId).names.map
            (Supervisor.createWorkerId topoId) := by
    simp only [killWorkerRequests, Nimbus.updateSupervisors, List.mem_map,
      List.mem_filter, List.mem_flatMap, decide_eq_true_eq, bne_iff_ne]
    constructor
    · rintro ⟨_, ⟨⟨other, isSupervisor, name, isName, rfl⟩, rfl⟩, rfl⟩
      exact ⟨isSupervisor, name, isName, rfl⟩
    · rintro ⟨isSupervisor, name, isName, rfl⟩
      exact ⟨(id, name), ⟨⟨id, isSupervisor, name, isName, rfl⟩, rfl⟩, rfl⟩
  split
  next reached =>
    apply Supervisor.without_congr
    intro workerId
    rw [isKey, and_iff_right reached]
  next missed =>
    refine (Supervisor.without_congr ?_).trans Supervisor.without_nil
    intro workerId
    rw [isKey]
    exact iff_of_false (fun both => missed both.1) List.not_mem_nil

/-- Both keep the ledger consistent. -/
theorem consistent_prepareBooks
    (consistent : Books.Consistent ⟨cluster.supervisor, ledger⟩) :
    (cluster.prepareBooks topoId members ledger).Consistent :=
  List.foldlRecOn _ Books.addWorker consistent
    fun _ before request _ => before.addWorker request

theorem consistent_stopBooks
    (consistent : Books.Consistent ⟨cluster.supervisor, ledger⟩) :
    (cluster.stopBooks topoId members ledger).Consistent :=
  List.foldlRecOn _ (Books.killWorker topoId) consistent
    fun _ before request _ => before.killWorker topoId request

end Cluster

namespace Operation

variable {cluster next : Cluster} {members : List String} {ledger : Ledger}
variable {operation : Operation}

/-- What an operation enters. -/
def books
    (cluster : Cluster) (members : List String) (ledger : Ledger) :
    Operation → Books
  | .prepare topoId => cluster.prepareBooks topoId members ledger
  | .stop topoId => cluster.stopBooks topoId members ledger
  | .kill topoId =>
      if cluster.status topoId = some .running then
        cluster.stopBooks topoId members ledger
      else { supervisor := cluster.supervisor, ledger := ledger }
  | .compile _ | .start _ =>
      { supervisor := cluster.supervisor, ledger := ledger }

/-- An operation creates and kills the workers that it enters. -/
theorem execute_books
    (executed : operation.execute cluster members = some next) (id : String) :
    let books := operation.books cluster members ledger
    (next.supervisor id).ports = (books.supervisor id).ports ∧
      (next.supervisor id).port = (books.supervisor id).port := by
  cases operation with
  | compile topoId =>
      obtain rfl := Option.some.inj executed
      exact ⟨rfl, rfl⟩
  | prepare topoId => exact Cluster.prepareTopology_books executed
  | start topoId =>
      obtain rfl := Option.some.inj executed
      refine ⟨?_, Cluster.port_startTopology⟩
      funext workerId
      by_cases isReady : cluster.status topoId = some .ready
      · rw [Cluster.supervisor_startTopology isReady]
        split
        · apply Supervisor.ports_foldl
          intro current name
          exact Supervisor.ports_forWorkers fun _ => rfl
        · rfl
      · rw [Cluster.startTopology_of_not_ready isReady]
        rfl
  | stop topoId =>
      obtain rfl := Option.some.inj executed
      simp only [books]
      rw [Cluster.stopTopology_books]
      exact ⟨rfl, rfl⟩
  | kill topoId =>
      obtain rfl := Option.some.inj executed
      simp only [books]
      rw [Cluster.supervisor_killTopology]
      split
      · rw [Cluster.stopTopology_books]
        exact ⟨rfl, rfl⟩
      · exact ⟨rfl, rfl⟩

/-- The ledger remains consistent. -/
theorem consistent_execute
    (consistent : Books.Consistent ⟨cluster.supervisor, ledger⟩)
    (executed : operation.execute cluster members = some next) :
    Books.Consistent
      ⟨next.supervisor, (operation.books cluster members ledger).ledger⟩ := by
  have entered : (operation.books cluster members ledger).Consistent := by
    cases operation with
    | compile topoId | start topoId => exact consistent
    | prepare topoId => exact Cluster.consistent_prepareBooks consistent
    | stop topoId => exact Cluster.consistent_stopBooks consistent
    | kill topoId =>
        simp only [books]
        split
        · exact Cluster.consistent_stopBooks consistent
        · exact consistent
  exact entered.of_ports (fun id => (execute_books executed id).1)
    fun id => (execute_books executed id).2

end Operation

/-! ## Runs -/

/-- The ledger after a step. -/
def recordLedger
    (state : State) (action : Action) (_ : State) (ledger : Ledger) :
    Ledger :=
  match state.operation? action with
  | some (operation, members) =>
      (operation.books state.cluster members ledger).ledger
  | none => ledger

/-- Nimbus with the ledger of all workers. -/
def ledgerSystem (id : String) : TransitionSystem (State × Ledger) Action :=
  (nimbusSystem id).recording { added := [], killed := [] } recordLedger

/-- The request submits, starts or stops this topology. -/
def Request.On (topoId : String) : Request → Prop
  | .submit other _ | .send other | .start other | .stop other =>
      other = topoId
  | .kill _ => False

/-- The operation compiles, prepares, starts or stops this topology. -/
def Operation.On (topoId : String) : Operation → Prop
  | .compile other | .prepare other | .start other | .stop other =>
      other = topoId
  | .kill _ => False

/-- A request on this topology, or an operation with these members. -/
def Action.On (topoId : String) (members : List String) : Action → Prop
  | .request asked => asked.On topoId
  | .serve list => list = members
  | .nodeFail | .resume _ _ => False

instance (topoId : String) (request : Request) :
    Decidable (request.On topoId) := by
  cases request <;> unfold Request.On <;> infer_instance

instance (topoId : String) (members : List String) (action : Action) :
    Decidable (action.On topoId members) :=
  match action with
  | .request asked => inferInstanceAs (Decidable (asked.On topoId))
  | .serve list => inferInstanceAs (Decidable (list = members))
  | .nodeFail | .resume _ _ => inferInstanceAs (Decidable False)

/-- Every worker is one of the topology, at a supervisor that the membership
list contains. -/
structure Reached
    (topoId : String) (members : List String) (cluster : Cluster) : Prop where
  reached : ∀ id workerId port, (cluster.supervisor id).Has workerId port →
    (id ∈ members ∧ id ≠ cluster.nimbus.id) ∧
      ∃ name ∈ (cluster.spec topoId).names,
        workerId = Supervisor.createWorkerId topoId name

namespace Reached

variable {topoId : String} {members : List String} {cluster next : Cluster}

/-- No workers are created. -/
theorem mono
    (reached : Reached topoId members cluster)
    (fewer : ∀ id workerId port, (next.supervisor id).Has workerId port →
      (cluster.supervisor id).Has workerId port)
    (sameId : next.nimbus.id = cluster.nimbus.id)
    (sameSpec : next.spec topoId = cluster.spec topoId) :
    Reached topoId members next where
  reached := by
    intro id workerId port has
    rw [sameId, sameSpec]
    exact reached.reached id workerId port (fewer id workerId port has)

/-- The operations on the topology create workers within its reach. -/
theorem execute
    (reached : Reached topoId members cluster) {operation : Operation}
    (on : operation.On topoId)
    (executed : operation.execute cluster members = some next) :
    Reached topoId members next := by
  have sameId := Operation.id_execute executed
  have notKilled : operation ≠ .kill topoId := by
    rintro rfl
    exact on
  have sameSpec := Operation.spec_execute executed notKilled
  cases operation with
  | compile other =>
      obtain rfl := Option.some.inj executed
      exact reached.mono (fun _ _ _ has => has) sameId sameSpec
  | prepare other =>
      obtain rfl : other = topoId := on
      constructor
      intro id workerId port has
      rw [sameId, sameSpec]
      rcases Cluster.has_prepareTopology executed has with
        isOld | ⟨isSupervisor, isKey, _⟩
      · exact reached.reached id workerId port isOld
      · rw [Cluster.supervisors_prepareTopology executed, List.mem_filter,
          bne_iff_ne] at isSupervisor
        exact ⟨isSupervisor, isKey⟩
  | start other =>
      obtain rfl := Option.some.inj executed
      exact reached.mono (fun _ _ _ has => Cluster.has_startTopology.mp has)
        sameId sameSpec
  | stop other =>
      obtain rfl := Option.some.inj executed
      exact reached.mono
        (fun _ _ _ has => (Cluster.has_stopTopology.mp has).1) sameId sameSpec
  | kill other => exact on.elim

/-- A request changes no worker, and the specification only of a topology that
has none. -/
theorem accept
    {state : State} (reached : Reached topoId members state.cluster)
    {request : Request} (on : request.On topoId) :
    Reached topoId members (state.accept request).cluster := by
  cases request with
  | submit other spec =>
      obtain rfl : other = topoId := on
      simp only [State.accept]
      split
      · exact reached
      next untracked =>
        constructor
        intro id workerId port has
        obtain ⟨_, name, isName, _⟩ := reached.reached id workerId port has
        have absent : other ∉ state.cluster.nimbus.topoStats.topoIds :=
          fun isTracked => untracked (Cluster.mem_topoIds_iff.mp isTracked)
        rw [Cluster.spec, TopoStats.getTopoSpec,
          state.cluster.nimbus.topoStats.absent other absent] at isName
        cases isName
  | send other => exact reached
  | start other | stop other =>
      simp only [State.accept]
      split <;> exact reached
  | kill other => exact on.elim

end Reached

/-- The ledger is consistent, and there is nothing but the topology. -/
structure Accounted
    (topoId : String) (members : List String) (now : State × Ledger) :
    Prop where
  consistent : Books.Consistent ⟨now.1.cluster.supervisor, now.2⟩
  reached : Reached topoId members now.1.cluster
  service : ∀ operation ∈ now.1.service, operation.On topoId

namespace Accounted

variable {id topoId : String} {members : List String}
variable {now next : State × Ledger} {action : Action}

theorem initial (id topoId : String) (members : List String) :
    Accounted topoId members (ledgerSystem id).initial where
  consistent :=
    { kept := fun _ => rfl
      issued := nofun
      once := List.nodup_nil }
  reached :=
    ⟨fun _ _ _ has => absurd has Supervisor.not_has_initial⟩
  service := nofun

/-- An accepted request leads to operations on its topology. -/
theorem on_of_mem_accept
    {state : State} {request : Request} (on : request.On topoId)
    (finished : state.service = []) {operation : Operation}
    (accepted : operation ∈ (state.accept request).service) :
    operation.On topoId := by
  cases request with
  | submit other spec =>
      have same : (state.accept (.submit other spec)).service =
          state.service := by
        simp only [State.accept]
        split <;> rfl
      rw [same, finished] at accepted
      cases accepted
  | send other =>
      simp only [State.accept, List.mem_cons, List.not_mem_nil,
        or_false] at accepted
      rcases accepted with rfl | rfl | rfl <;> exact on
  | start other =>
      simp only [State.accept] at accepted
      split at accepted
      · simp only [List.mem_cons, List.not_mem_nil, or_false] at accepted
        rcases accepted with rfl | rfl <;> exact on
      · rw [finished] at accepted
        cases accepted
  | stop other =>
      simp only [State.accept] at accepted
      split at accepted
      · obtain rfl := List.mem_singleton.mp accepted
        exact on
      · rw [finished] at accepted
        cases accepted
  | kill other => exact on.elim

theorem step
    (accounted : Accounted topoId members now)
    (on : action.On topoId members)
    (stepped : (ledgerSystem id).step now action = some next) :
    Accounted topoId members next := by
  obtain ⟨advanced, recorded⟩ :=
    TransitionSystem.step_recording_eq_some_iff.mp stepped
  obtain ⟨state, ledger⟩ := now
  obtain ⟨after, entered⟩ := next
  simp only at advanced recorded
  cases State.stepped_of_advance advanced with
  | request request finished =>
      obtain rfl : ledger = entered := recorded
      refine ⟨?_, accounted.reached.accept on, fun operation =>
        on_of_mem_accept on finished⟩
      have same : (state.accept request).cluster.supervisor =
          state.cluster.supervisor := by
        cases request with
        | send other => rfl
        | submit other spec | start other | stop other | kill other =>
            simp only [State.accept]
            split <;> rfl
      simp only [same]
      exact accounted.consistent
  | serve list operation service cluster isNext executed =>
      obtain rfl : list = members := on
      have isOperation : state.operation? (.serve list) =
          some (operation, list) := by
        simp [State.operation?, isNext]
      rw [recordLedger, isOperation] at recorded
      subst recorded
      have inService := accounted.service
      simp only [isNext, List.forall_mem_cons] at inService
      exact ⟨Operation.consistent_execute accounted.consistent executed,
        accounted.reached.execute inService.1 executed, inService.2⟩
  | nodeFail => exact on.elim
  | resume index list operation restart cluster isNext executed =>
      exact on.elim

theorem runs
    {trace : List Action}
    (accounted : Accounted topoId members now)
    (on : ∀ action ∈ trace, action.On topoId members)
    (runs : (ledgerSystem id).Runs now trace next) :
    Accounted topoId members next := by
  induction trace generalizing now with
  | nil =>
      obtain rfl := TransitionSystem.runs_nil_iff.mp runs
      exact accounted
  | cons action trace inductionHypothesis =>
      obtain ⟨middle, stepped, rest⟩ :=
        TransitionSystem.runs_cons_iff.mp runs
      obtain ⟨here, later⟩ := List.forall_mem_cons.mp on
      exact inductionHypothesis (accounted.step here stepped) later rest

end Accounted

/-! ## Stopping once and again -/

namespace TopoStats

variable {stats : TopoStats} {topoId : String}
variable {tracker other : TopologyTracker}

/-- The second assignment counts. -/
theorem set_set :
    (stats.set topoId tracker).set topoId other = stats.set topoId other := by
  have isKey : topoId ∈ (stats.set topoId tracker).topoIds :=
    mem_topoIds_set.mpr (.inl rfl)
  simp only [set, mk.injEq, Function.update_idem, and_true]
  exact if_pos isKey

/-- What `stopTopology` does to a tracked topology. -/
theorem clearTaskInstances_setTopoStatus
    (tracked : topoId ∈ stats.topoIds) (status : TopoStatus) :
    (stats.setTopoStatus topoId status).clearTaskInstances topoId =
      stats.set topoId
        { stats.tracker topoId with
          status := status
          taskInstances := fun _ => [] } := by
  rw [setTopoStatus_of_mem tracked, clearTaskInstances, tracker_set,
    if_pos rfl, set_set]

end TopoStats

/-- A tracked topology that has been stopped is as it is after stopping it
again. -/
theorem Cluster.stopTopology_stopTopology
    {cluster : Cluster} {topoId : String}
    (tracked : topoId ∈ cluster.nimbus.topoStats.topoIds)
    (members : List String) :
    (cluster.stopTopology topoId members).stopTopology topoId members =
      cluster.stopTopology topoId members := by
  have sameStats (stats : TopoStats) (isTracked : topoId ∈ stats.topoIds) :
      (((stats.setTopoStatus topoId .idle).clearTaskInstances
          topoId).setTopoStatus topoId .idle).clearTaskInstances topoId =
        (stats.setTopoStatus topoId .idle).clearTaskInstances topoId := by
    rw [TopoStats.clearTaskInstances_setTopoStatus isTracked,
      TopoStats.clearTaskInstances_setTopoStatus
        (TopoStats.mem_topoIds_set.mpr (.inl rfl)),
      TopoStats.tracker_set, if_pos rfl, TopoStats.set_set]
  have sameSupervisor :
      ((cluster.stopTopology topoId members).stopTopology topoId
          members).supervisor =
        (cluster.stopTopology topoId members).supervisor := by
    funext id
    have sameSpec : (cluster.stopTopology topoId members).spec topoId =
        cluster.spec topoId :=
      @Operation.spec_execute cluster _ topoId members (.stop topoId) rfl nofun
    rw [supervisor_stopTopology_eq_without, sameSpec,
      supervisor_stopTopology_eq_without]
    change (if id ∈ members ∧ id ≠ cluster.nimbus.id then _ else _) = _
    split
    · exact Supervisor.without_twice _
    · rfl
  have sameNimbus :
      ((cluster.stopTopology topoId members).stopTopology topoId
          members).nimbus =
        (cluster.stopTopology topoId members).nimbus := by
    simp only [stopTopology, setTopoStats, setTopoStatus, forSupervisors,
      updateSupervisors, Nimbus.updateSupervisors, sameStats _ tracked]
  exact congrArg₂ Cluster.mk sameNimbus sameSupervisor

/-- Without workers nothing is killed. -/
theorem Books.ledger_killWorkers
    {books : Books}
    (nobody : ∀ id workerId, (books.supervisor id).ports workerId = [])
    (topoId : String) (requests : List (String × String)) :
    (requests.foldl (killWorker topoId) books).ledger = books.ledger := by
  induction requests generalizing books with
  | nil => rfl
  | cons request requests inductionHypothesis =>
      rw [List.foldl_cons, inductionHypothesis]
      · rw [killWorker, nobody]
        exact congrArg (Ledger.mk books.ledger.added) (List.append_nil _)
      · intro id workerId
        simp only [killWorker]
        by_cases here : id = request.1
        · rw [here, Function.update_self, Supervisor.ports_killWorker]
          split
          · rfl
          · exact nobody _ _
        · rw [Function.update_of_ne here]
          exact nobody id workerId

/-- What holds after a topology has been stopped. -/
structure Stopped
    (id topoId : String) (members : List String)
    (before after : State × Ledger) : Prop where
  nobody : ∀ other workerId port,
    ¬ (after.1.cluster.supervisor other).Has workerId port
  killedOnce : ∀ process ∈ after.2.added, after.2.killed.count process = 1
  taskInstances : ∀ name,
    after.1.cluster.nimbus.topoStats.getTopoTaskInstances topoId name = []
  spec : after.1.cluster.spec topoId = before.1.cluster.spec topoId
  again : (ledgerSystem id).Runs after
    [.request (.stop topoId), .serve members] after

/-- A `STOP` request for a tracked topology is carried out. -/
theorem runs_stop
    {id topoId : String} {members : List String} {state : State}
    {ledger : Ledger}
    (existed : state.Existed topoId) (finished : state.service = []) :
    (ledgerSystem id).Runs (state, ledger)
      [.request (.stop topoId), .serve members]
      ({ state with
        cluster := state.cluster.stopTopology topoId members
        service := [] },
        (state.cluster.stopBooks topoId members ledger).ledger) := by
  have accepted : state.advance (.request (.stop topoId)) =
      some { state with service := [.stop topoId] } := by
    simp only [State.advance, State.step, if_pos finished, State.accept,
      if_pos existed]
  refine TransitionSystem.runs_cons_iff.mpr ⟨(_, _),
    TransitionSystem.step_recording_eq_some_iff.mpr ⟨accepted, rfl⟩, ?_⟩
  exact TransitionSystem.runs_cons_iff.mpr ⟨(_, _),
    TransitionSystem.step_recording_eq_some_iff.mpr ⟨rfl, rfl⟩,
    TransitionSystem.runs_nil_iff.mpr rfl⟩

/-- A `STOP` request that is carried out stops a tracked topology. -/
theorem exists_of_stop
    {id topoId : String} {members : List String} {before after : State × Ledger}
    (stops : (ledgerSystem id).Runs before
      [.request (.stop topoId), .serve members] after) :
    before.1.Existed topoId ∧
      after =
        ({ before.1 with
          cluster := before.1.cluster.stopTopology topoId members
          service := [] },
          (before.1.cluster.stopBooks topoId members before.2).ledger) := by
  obtain ⟨⟨middle, ledger⟩, requested, served⟩ :=
    TransitionSystem.runs_cons_iff.mp stops
  obtain ⟨⟨finish, entered⟩, stepped, done⟩ :=
    TransitionSystem.runs_cons_iff.mp served
  obtain rfl := TransitionSystem.runs_nil_iff.mp done
  obtain ⟨advanced, rfl⟩ :=
    TransitionSystem.step_recording_eq_some_iff.mp requested
  obtain ⟨executed, rfl⟩ :=
    TransitionSystem.step_recording_eq_some_iff.mp stepped
  obtain ⟨state, ledger⟩ := before
  have accepted : state.Stepped (.request (.stop topoId)) middle :=
    State.stepped_of_advance advanced
  cases accepted with
  | request request finished =>
      by_cases existed : state.Existed topoId
      · simp only [nimbusSystem, State.advance, State.accept, if_pos existed,
          Operation.execute, Option.map_some, Option.some.injEq] at executed
        subst executed
        simp [existed, recordLedger, State.operation?, State.accept,
          Operation.books]
      · simp only [nimbusSystem, State.advance, State.accept, if_neg existed,
          finished] at executed
        cases executed

/-- After every sequence of requests on one topology, with the same members all
the time, `stopTopology` leaves no worker; every worker has been killed once,
and there is nothing left to do for another `stopTopology`. -/
theorem stopTopology_complete
    (id topoId : String) (members : List String) (trace : List Action)
    (before after : State × Ledger)
    (on : ∀ action ∈ trace, action.On topoId members)
    (runs : (ledgerSystem id).Runs (ledgerSystem id).initial trace before)
    (stops : (ledgerSystem id).Runs before
      [.request (.stop topoId), .serve members] after) :
    Stopped id topoId members before after := by
  have accounted : Accounted topoId members before :=
    (Accounted.initial id topoId members).runs on runs
  have accountedAfter : Accounted topoId members after := by
    refine accounted.runs ?_ stops
    simp [Action.On, Request.On]
  obtain ⟨existed, rfl⟩ := exists_of_stop stops
  have nobody (other workerId : String) (port : Nat) :
      ¬ ((before.1.cluster.stopTopology topoId members).supervisor other).Has
        workerId port := by
    intro survives
    obtain ⟨has, spared⟩ := Cluster.has_stopTopology.mp survives
    obtain ⟨isReached, name, isName, isKey⟩ :=
      accounted.reached.reached other workerId port has
    exact spared isReached name isName isKey
  have noPorts (other workerId : String) :
      ((before.1.cluster.stopTopology topoId members).supervisor other).ports
        workerId = [] :=
    List.eq_nil_iff_forall_not_mem.mpr fun port isPort =>
      nobody other workerId port (Supervisor.has_iff_mem_ports.mpr isPort)
  have tracked := Cluster.mem_topoIds_iff.mpr existed
  refine ⟨nobody, ?_, ?_, ?_, ?_⟩
  · intro process isAdded
    have kept := accountedAfter.consistent.kept process
    simp only [noPorts, List.count_nil, Nat.add_zero] at kept
    rw [← kept]
    exact List.count_eq_one_of_mem accountedAfter.consistent.once isAdded
  · intro name
    change (TopoStats.tracker (TopoStats.clearTaskInstances
      (before.1.cluster.nimbus.topoStats.setTopoStatus topoId .idle) topoId)
      topoId).taskInstances name = []
    rw [TopoStats.clearTaskInstances, TopoStats.tracker_set, if_pos rfl]
  · apply @Operation.spec_execute before.1.cluster _ topoId members
      (.stop topoId) rfl
    intro same
    cases same
  · have stillTracked : (before.1.cluster.stopTopology topoId members).status
        topoId ≠ none := by
      rw [Cluster.status_stopTopology, Operation.effect, Function.update_self]
      exact Option.some_ne_none _
    have repeated := @runs_stop id topoId members
      { before.1 with
        cluster := before.1.cluster.stopTopology topoId members
        service := [] }
      (before.1.cluster.stopBooks topoId members before.2).ledger
      stillTracked rfl
    have sameLedger : ((before.1.cluster.stopTopology topoId
        members).stopBooks topoId members
          (before.1.cluster.stopBooks topoId members before.2).ledger).ledger =
        (before.1.cluster.stopBooks topoId members before.2).ledger :=
      Books.ledger_killWorkers noPorts topoId _
    simp only [Cluster.stopTopology_stopTopology tracked,
      sameLedger] at repeated
    exact repeated

/-- A topology with two copies of a bolt, started twice. -/
def startedTwice : List Action :=
  [.request (.submit "t"
      { spoutSpecs := [{ name := "s" }]
        boltSpecs := [{ name := "b", paraLevel := 2 }] }),
    .request (.start "t"), .serve ["a", "n", "z"], .serve ["a", "n", "z"],
    .request (.start "t"), .serve ["a", "n", "z"], .serve ["a", "n", "z"]]

theorem stopTopology_complete_startedTwice :
    ∃ before after,
      (ledgerSystem "n").Runs (ledgerSystem "n").initial startedTwice before ∧
        after.2.added.length = 6 ∧
        Stopped "n" "t" ["a", "n", "z"] before after := by
  have runs : ∃ before ∈ (ledgerSystem "n").run (ledgerSystem "n").initial
      startedTwice, ∃ after ∈ (ledgerSystem "n").run before
        [.request (.stop "t"), .serve ["a", "n", "z"]],
          after.2.added.length = 6 := by
    decide
  obtain ⟨before, started, after, stopped, created⟩ := runs
  exact ⟨before, after, started, created,
    stopTopology_complete "n" "t" ["a", "n", "z"] startedTwice before after
      (by decide) started stopped⟩

end Crane
end CraneSps
