import CraneSps.Crane.Isolation

/-!
# The processes of the workers

A supervisor keeps a wrapper for each worker and talks to the process of the
worker through it.  Which process a message reaches is decided by the address
alone: the key of the task followed by the port, with nothing in between.  Two
tasks are isolated from each other exactly if they share neither a key nor an
address, and a supervisor whose workers share no address does what
`Supervisor` says, where a worker and its process are one.

`endpoint` is what the operating system makes of an address: two strings
denote the same socket exactly if their endpoints are equal.
-/

namespace CraneSps
namespace Crane

/-- `Worker::ParentImpl`: the address to which a wrapper connects. -/
def commandAddress (workerId : String) (port : Nat) : String :=
  workerId ++ toString port

/-- `Worker::ChildImpl`: the address that a process has been started with and
binds. -/
def Worker.address (worker : Worker) : String :=
  commandAddress worker.id worker.dataPort

/-- The process that is forked for a port. -/
def forkWorker (topoId runName name : String) (port : Nat) : Worker where
  id := Supervisor.createWorkerId topoId name
  dataPort := port
  lib := getLibraryLocalPath (getLibraryName topoId runName)
  isBolt := isBolt runName
  connectionGroups := []
  starts := 0

/-- A supervisor and the processes of its workers. -/
structure Machine where
  /-- The ports of the wrappers of each task. -/
  wrappers : String → Option (List Nat)
  /-- The processes, by the port for which they have been forked. -/
  process : Nat → Option Worker
  /-- The static counter of `nextAvailableWorkerPort`. -/
  port : Nat
  /-- The supervisor waits for a reply that nobody is going to send. -/
  waiting : Bool

namespace Machine

/-- A supervisor that has just been started. -/
def initial : Machine where
  wrappers := fun _ => none
  process := fun _ => none
  port := Supervisor.workerBasePort
  waiting := false

variable (endpoint : String → String) (machine : Machine)

/-- The process for this port is bound to the socket of an address. -/
def Bound (address : String) (port : Nat) : Prop :=
  ∃ worker ∈ machine.process port, endpoint worker.address = endpoint address

instance (address : String) (port : Nat) :
    Decidable (machine.Bound endpoint address port) :=
  match found : machine.process port with
  | some worker =>
      decidable_of_iff (endpoint worker.address = endpoint address)
        (by simp [Bound, found])
  | none => isFalse (by simp [Bound, found])

/-- The process that a message of a wrapper reaches.  If several processes are
bound to the socket, it is the one that the wrapper got connected to. -/
def reached
    (choice : Nat → Nat) (workerId : String) (port : Nat) : Option Nat :=
  [choice port, port].find? fun other =>
    machine.Bound endpoint (commandAddress workerId port) other

/-- A process changes its state or ends. -/
def setProcess (port : Nat) (process : Option Worker) : Machine :=
  { machine with process := Function.update machine.process port process }

/-- `requestAndProcessReply`. -/
def request
    (choice : Nat → Nat) (workerId : String) (operation : Worker → Worker)
    (machine : Machine) (port : Nat) : Machine :=
  if machine.waiting then machine
  else match machine.reached endpoint choice workerId port with
  | some other =>
      machine.setProcess other ((machine.process other).map operation)
  | none => { machine with waiting := true }

/-- The wrapper's `kill`, which waits for no reply. -/
def kill
    (choice : Nat → Nat) (workerId : String) (machine : Machine)
    (port : Nat) : Machine :=
  match machine.reached endpoint choice workerId port with
  | some other => machine.setProcess other none
  | none => machine

/-- `addWorker`. -/
def addWorker
    (topoId runName name : String) (parallelismLevel : Nat) : Machine :=
  let workerId := Supervisor.createWorkerId topoId name
  let ports := List.range' machine.port parallelismLevel
  { machine with
    wrappers := Function.update machine.wrappers workerId
      (some ((machine.wrappers workerId).getD [] ++ ports))
    process := fun port =>
      if port ∈ ports then some (forkWorker topoId runName name port)
      else machine.process port
    port := machine.port + parallelismLevel }

/-- The wrappers of a task. -/
def ports (workerId : String) : List Nat :=
  (machine.wrappers workerId).getD []

/-- Let all wrappers of a task make a request. -/
def forWorkers
    (choice : Nat → Nat) (topoId name : String)
    (operation : Worker → Worker) : Machine :=
  let workerId := Supervisor.createWorkerId topoId name
  (machine.ports workerId).foldl (request endpoint choice workerId operation)
    machine

/-- `killWorker`. -/
def killWorker
    (choice : Nat → Nat) (topoId name : String) : Machine :=
  let workerId := Supervisor.createWorkerId topoId name
  let told := (machine.ports workerId).foldl (kill endpoint choice workerId)
    machine
  { told with wrappers := Function.update told.wrappers workerId none }

/-- Carry out a call, unless the supervisor is waiting. -/
def call (choice : Nat → Nat) (call : Call) : Machine :=
  if machine.waiting then machine
  else match call with
  | .addWorker topoId runName name parallelismLevel =>
      machine.addWorker topoId runName name parallelismLevel.toNat
  | .configureConnections topoId name connectionGroups =>
      machine.forWorkers endpoint choice topoId name fun worker =>
        worker.configureConnections connectionGroups
  | .startWorker topoId name =>
      machine.forWorkers endpoint choice topoId name Worker.start
  | .killWorker topoId name => machine.killWorker endpoint choice topoId name

/-- Carry out one call after the other, each with what its messages reach. -/
def calls (history : List ((Nat → Nat) × Call)) : Machine :=
  history.foldl
    (fun current step => current.call endpoint step.1 step.2) machine

/-- The ports for which a call creates workers. -/
def created : Call → List Nat
  | .addWorker _ _ _ parallelismLevel =>
      List.range' machine.port parallelismLevel.toNat
  | _ => []

/-- The workers of a task and their processes. -/
def workers (task : String × String) : List (Nat × Option Worker) :=
  (machine.ports (Supervisor.createWorkerId task.1 task.2)).map fun port =>
    (port, machine.process port)

end Machine

/-- After any calls at a supervisor, a call for the first task leaves the
workers of the second and their processes as they are, and those it creates are
not among them. -/
def Isolated
    (endpoint : String → String) (task other : String × String) : Prop :=
  ∀ (history : List ((Nat → Nat) × Call)) (choice : Nat → Nat) (call : Call),
    call.task = task →
      let before := Machine.initial.calls endpoint history
      let after := before.call endpoint choice call
      after.workers other = before.workers other ∧
        ∀ port ∈ before.created call,
          port ∉ (after.workers other).map Prod.fst

/-- The two tasks never have an address in common. -/
def AddressesDiffer
    (endpoint : String → String) (task other : String × String) : Prop :=
  ∀ port otherPort, Supervisor.workerBasePort ≤ port →
    Supervisor.workerBasePort ≤ otherPort → port ≠ otherPort →
      endpoint (commandAddress
          (Supervisor.createWorkerId task.1 task.2) port) ≠
        endpoint (commandAddress
          (Supervisor.createWorkerId other.1 other.2) otherPort)

namespace Machine

variable {endpoint : String → String} {machine : Machine}
variable {choice : Nat → Nat} {workerId : String}
variable {operation : Worker → Worker} {port : Nat}

/-! ## Messages -/

@[simp] theorem setProcess_self {process : Option Worker} :
    (machine.setProcess port process).process port = process :=
  Function.update_self _ _ _

theorem setProcess_of_ne
    {other : Nat} (differs : other ≠ port) (process : Option Worker) :
    (machine.setProcess port process).process other =
      machine.process other :=
  Function.update_of_ne differs _ _

theorem bound_of_reached
    {other : Nat}
    (reaches : machine.reached endpoint choice workerId port = some other) :
    machine.Bound endpoint (commandAddress workerId port) other := by
  have found := List.find?_some reaches
  exact of_decide_eq_true found

/-- A message gets to the chosen process if that is bound to the socket. -/
theorem reached_choice
    (bound : machine.Bound endpoint (commandAddress workerId port)
      (choice port)) :
    machine.reached endpoint choice workerId port = some (choice port) := by
  rw [reached, List.find?_cons_of_pos]
  exact decide_eq_true bound

/-- A message gets somewhere if the process of its wrapper is bound. -/
theorem exists_reached
    (bound : machine.Bound endpoint (commandAddress workerId port) port) :
    ∃ other, machine.reached endpoint choice workerId port = some other := by
  apply Option.isSome_iff_exists.mp
  rw [reached, List.find?_isSome]
  exact ⟨port, by simp, decide_eq_true bound⟩

/-- What the supervisor itself keeps is not changed by a message. -/
structure SameWrappers (machine next : Machine) : Prop where
  wrappers : next.wrappers = machine.wrappers
  port : next.port = machine.port

theorem sameWrappers_request :
    SameWrappers machine
      (machine.request endpoint choice workerId operation port) := by
  unfold request
  split
  · exact ⟨rfl, rfl⟩
  · split <;> exact ⟨rfl, rfl⟩

theorem sameWrappers_kill :
    SameWrappers machine (machine.kill endpoint choice workerId port) := by
  unfold kill
  split <;> exact ⟨rfl, rfl⟩

theorem sameWrappers_foldl
    {tell : Machine → Nat → Machine}
    (same : ∀ machine port, SameWrappers machine (tell machine port))
    (ports : List Nat) : SameWrappers machine (ports.foldl tell machine) := by
  induction ports generalizing machine with
  | nil => exact ⟨rfl, rfl⟩
  | cons port ports inductionHypothesis =>
      have rest := @inductionHypothesis (tell machine port)
      exact ⟨rest.wrappers.trans (same machine port).wrappers,
        rest.port.trans (same machine port).port⟩

/-- Every process still is what it was started as, or is gone. -/
def Stays (machine next : Machine) : Prop :=
  ∀ port worker, next.process port = some worker →
    ∃ before, machine.process port = some before ∧
      worker.id = before.id ∧ worker.dataPort = before.dataPort

theorem Stays.refl (machine : Machine) : Stays machine machine :=
  fun _ worker found => ⟨worker, found, rfl, rfl⟩

theorem Stays.trans
    {middle next : Machine}
    (first : Stays machine middle) (second : Stays middle next) :
    Stays machine next := by
  intro port worker found
  obtain ⟨between, isBetween, sameId, samePort⟩ := second port worker found
  obtain ⟨before, isBefore, alsoId, alsoPort⟩ := first port between isBetween
  exact ⟨before, isBefore, sameId.trans alsoId, samePort.trans alsoPort⟩

/-- A request changes neither the key nor the port of a worker. -/
structure Keeps (operation : Worker → Worker) : Prop where
  id : ∀ worker, (operation worker).id = worker.id
  dataPort : ∀ worker, (operation worker).dataPort = worker.dataPort

theorem keeps_configureConnections (groups : List ConnectionGroup) :
    Keeps fun worker => worker.configureConnections groups :=
  ⟨fun _ => rfl, fun _ => rfl⟩

theorem keeps_start : Keeps Worker.start :=
  ⟨fun _ => rfl, fun _ => rfl⟩

theorem stays_request (keeps : Keeps operation) :
    Stays machine
      (machine.request endpoint choice workerId operation port) := by
  unfold request
  split
  · exact .refl machine
  · split
    · next other _ =>
        intro position worker found
        by_cases same : position = other
        · subst same
          rw [setProcess_self] at found
          obtain ⟨before, isBefore, rfl⟩ := Option.map_eq_some_iff.mp found
          exact ⟨before, isBefore, keeps.id before, keeps.dataPort before⟩
        · rw [setProcess_of_ne same] at found
          exact ⟨worker, found, rfl, rfl⟩
    · exact fun _ worker found => ⟨worker, found, rfl, rfl⟩

theorem stays_kill :
    Stays machine (machine.kill endpoint choice workerId port) := by
  unfold kill
  split
  · next other _ =>
      intro position worker found
      by_cases same : position = other
      · subst same
        rw [setProcess_self] at found
        cases found
      · rw [setProcess_of_ne same] at found
        exact ⟨worker, found, rfl, rfl⟩
  · exact .refl machine

theorem stays_foldl
    {tell : Machine → Nat → Machine}
    (stays : ∀ machine port, Stays machine (tell machine port))
    (ports : List Nat) : Stays machine (ports.foldl tell machine) := by
  induction ports generalizing machine with
  | nil => exact .refl machine
  | cons port ports inductionHypothesis =>
      exact (stays machine port).trans inductionHypothesis

/-! ## What every supervisor keeps -/

/-- The wrappers and the processes have ports that have been given away, and
the process of a wrapper has the key and the port of the wrapper. -/
structure Owned (machine : Machine) : Prop where
  wrapper : ∀ workerId, ∀ port ∈ machine.ports workerId,
    Supervisor.workerBasePort ≤ port ∧ port < machine.port
  started : ∀ port worker, machine.process port = some worker →
    worker.dataPort = port ∧ Supervisor.workerBasePort ≤ port ∧
      port < machine.port
  own : ∀ workerId, ∀ port ∈ machine.ports workerId, ∀ worker,
    machine.process port = some worker → worker.id = workerId
  above : Supervisor.workerBasePort ≤ machine.port

theorem Owned.initial : Owned initial where
  wrapper := by simp [Machine.ports, Machine.initial]
  started := by simp [Machine.initial]
  own := by simp [Machine.ports, Machine.initial]
  above := Nat.le_refl _

/-- Messages leave the wrappers and change no worker's key or port. -/
theorem Owned.told
    {next : Machine} (owned : Owned machine)
    (same : SameWrappers machine next) (stays : Stays machine next) :
    Owned next where
  wrapper := by
    simp only [ports, same.wrappers, same.port]
    exact owned.wrapper
  started := by
    intro port worker found
    obtain ⟨before, isBefore, _, samePort⟩ := stays port worker found
    rw [samePort, same.port]
    exact owned.started port before isBefore
  own := by
    intro workerId port present worker found
    rw [ports, same.wrappers] at present
    obtain ⟨before, isBefore, sameId, _⟩ := stays port worker found
    rw [sameId]
    exact owned.own workerId port present before isBefore
  above := same.port.symm ▸ owned.above

theorem ports_addWorker
    (topoId runName name : String) (parallelismLevel : Nat)
    (workerId : String) :
    (machine.addWorker topoId runName name parallelismLevel).ports workerId =
      machine.ports workerId ++
        if workerId = Supervisor.createWorkerId topoId name then
          List.range' machine.port parallelismLevel
        else [] := by
  by_cases same : workerId = Supervisor.createWorkerId topoId name
  · subst same
    simp [ports, addWorker]
  · simp [ports, addWorker, same]

theorem Owned.addWorker
    (owned : Owned machine) (topoId runName name : String)
    (parallelismLevel : Nat) :
    Owned (machine.addWorker topoId runName name parallelismLevel) := by
  have old : ∀ port, port < machine.port →
      port ∉ List.range' machine.port parallelismLevel := by
    intro port below isNew
    have above := (List.mem_range'_1.mp isNew).1
    omega
  refine { wrapper := ?_, started := ?_, own := ?_, above := ?_ }
  · intro workerId port present
    rw [ports_addWorker, List.mem_append] at present
    rcases present with isOld | isNew
    · have range := owned.wrapper workerId port isOld
      exact ⟨range.1, Nat.lt_add_right _ range.2⟩
    · split at isNew
      · have range := List.mem_range'_1.mp isNew
        exact ⟨owned.above.trans range.1, range.2⟩
      · cases isNew
  · intro port worker found
    simp only [Machine.addWorker] at found
    split at found
    · next isNew =>
        obtain rfl := Option.some.inj found
        have range := List.mem_range'_1.mp isNew
        exact ⟨rfl, owned.above.trans range.1, range.2⟩
    · obtain ⟨samePort, above, below⟩ := owned.started port worker found
      exact ⟨samePort, above, Nat.lt_add_right _ below⟩
  · intro workerId port present worker found
    rw [ports_addWorker, List.mem_append] at present
    simp only [Machine.addWorker] at found
    rcases present with isOld | isNew
    · rw [if_neg (old port (owned.wrapper workerId port isOld).2)] at found
      exact owned.own workerId port isOld worker found
    · split at isNew
      · next same =>
          rw [if_pos isNew] at found
          obtain rfl := Option.some.inj found
          exact same.symm
      · cases isNew
  · exact owned.above.trans (Nat.le_add_right _ _)

theorem owned_forWorkers
    (owned : Owned machine) (topoId name : String)
    (keeps : Keeps operation) :
    Owned (machine.forWorkers endpoint choice topoId name operation) :=
  owned.told (sameWrappers_foldl (fun _ _ => sameWrappers_request) _)
    (stays_foldl (fun _ _ => stays_request keeps) _)

/-- The wrappers of a task that has been killed are forgotten. -/
theorem ports_killWorker
    (topoId name workerId : String) :
    (machine.killWorker endpoint choice topoId name).ports workerId =
      if workerId = Supervisor.createWorkerId topoId name then []
      else machine.ports workerId := by
  have same : SameWrappers machine
      ((machine.ports (Supervisor.createWorkerId topoId name)).foldl
        (kill endpoint choice (Supervisor.createWorkerId topoId name))
        machine) :=
    sameWrappers_foldl (fun _ _ => sameWrappers_kill) _
  split
  · next here => simp [ports, killWorker, here]
  · next differs =>
      have kept : (machine.killWorker endpoint choice topoId name).wrappers
          workerId = machine.wrappers workerId :=
        (Function.update_of_ne differs _ _).trans
          (congrFun same.wrappers workerId)
      rw [ports, kept, ports]

theorem Owned.killWorker
    (owned : Owned machine) (topoId name : String) :
    Owned (machine.killWorker endpoint choice topoId name) := by
  have told : Owned ((machine.ports
      (Supervisor.createWorkerId topoId name)).foldl
        (kill endpoint choice (Supervisor.createWorkerId topoId name))
        machine) :=
    owned.told (sameWrappers_foldl (fun _ _ => sameWrappers_kill) _)
      (stays_foldl (fun _ _ => stays_kill) _)
  have kept : ∀ workerId, ∀ port ∈ (machine.killWorker endpoint choice topoId
      name).ports workerId, port ∈ ((machine.ports
        (Supervisor.createWorkerId topoId name)).foldl
          (kill endpoint choice (Supervisor.createWorkerId topoId name))
          machine).ports workerId := by
    intro workerId port present
    rw [ports_killWorker] at present
    split at present
    · cases present
    · rwa [ports, (sameWrappers_foldl (fun _ _ => sameWrappers_kill)
        _).wrappers]
  exact
    { wrapper := fun workerId port present =>
        told.wrapper workerId port (kept workerId port present)
      started := told.started
      own := fun workerId port present =>
        told.own workerId port (kept workerId port present)
      above := told.above }

theorem Owned.call
    (owned : Owned machine) (call : Call) :
    Owned (machine.call endpoint choice call) := by
  unfold Machine.call
  split
  · exact owned
  · cases call with
    | addWorker topoId runName name parallelismLevel =>
        exact owned.addWorker topoId runName name _
    | configureConnections topoId name groups =>
        exact owned_forWorkers owned topoId name
          (keeps_configureConnections groups)
    | startWorker topoId name =>
        exact owned_forWorkers owned topoId name keeps_start
    | killWorker topoId name => exact owned.killWorker topoId name

theorem owned_calls (history : List ((Nat → Nat) × Call)) :
    Owned (initial.calls endpoint history) := by
  induction history using List.reverseRecOn with
  | nil => exact .initial
  | append_singleton history step inductionHypothesis =>
      rw [calls, List.foldl_append]
      exact inductionHypothesis.call step.2

/-! ## What a call leaves as it is -/

/-- A message leaves every process that it cannot reach. -/
theorem process_request
    {other : Nat}
    (unreached : ¬ machine.Bound endpoint (commandAddress workerId port)
      other) :
    (machine.request endpoint choice workerId operation port).process other =
      machine.process other := by
  unfold request
  split
  · rfl
  · split
    · next target reaches =>
        refine setProcess_of_ne ?_ _
        rintro rfl
        exact unreached (bound_of_reached reaches)
    · rfl

theorem process_kill
    {other : Nat}
    (unreached : ¬ machine.Bound endpoint (commandAddress workerId port)
      other) :
    (machine.kill endpoint choice workerId port).process other =
      machine.process other := by
  unfold kill
  split
  · next target reaches =>
      refine setProcess_of_ne ?_ _
      rintro rfl
      exact unreached (bound_of_reached reaches)
  · rfl

/-- Whether a process is bound to a socket is decided by the process. -/
theorem bound_congr
    {next : Machine} {address : String} {other : Nat}
    (same : next.process other = machine.process other) :
    next.Bound endpoint address other ↔
      machine.Bound endpoint address other := by
  rw [Bound, Bound, same]

/-- A round of messages leaves every process that none of them can reach. -/
theorem process_foldl
    {tell : Machine → Nat → Machine} {other : Nat}
    (leaves : ∀ (machine : Machine) (port : Nat),
      ¬ machine.Bound endpoint (commandAddress workerId port) other →
        (tell machine port).process other = machine.process other)
    (ports : List Nat)
    (unreached : ∀ port ∈ ports,
      ¬ machine.Bound endpoint (commandAddress workerId port) other) :
    (ports.foldl tell machine).process other = machine.process other := by
  induction ports generalizing machine with
  | nil => rfl
  | cons port ports inductionHypothesis =>
      have here := leaves machine port (unreached port List.mem_cons_self)
      refine (inductionHypothesis fun port present => ?_).trans here
      rw [bound_congr here]
      exact unreached port (List.mem_cons_of_mem _ present)

/-- The wrappers and the processes of a task that a call leaves as they
are. -/
theorem workers_congr
    {next : Machine} {other : String × String}
    (samePorts : next.ports (Supervisor.createWorkerId other.1 other.2) =
      machine.ports (Supervisor.createWorkerId other.1 other.2))
    (sameProcess : ∀ port ∈ machine.ports
        (Supervisor.createWorkerId other.1 other.2),
      next.process port = machine.process port) :
    next.workers other = machine.workers other := by
  rw [workers, workers, samePorts]
  apply List.map_congr_left
  intro port present
  rw [sameProcess port present]

/-- If the keys and the addresses of two tasks differ, no message for the one
can reach a process of the other. -/
theorem Owned.unreached
    (owned : Owned machine) {task other : String × String}
    (keys : task.1 ++ task.2 ≠ other.1 ++ other.2)
    (differ : AddressesDiffer endpoint task other)
    {port position : Nat}
    (isPort : port ∈ machine.ports
      (Supervisor.createWorkerId task.1 task.2))
    (isOther : position ∈ machine.ports
      (Supervisor.createWorkerId other.1 other.2)) :
    ¬ machine.Bound endpoint (commandAddress
      (Supervisor.createWorkerId task.1 task.2) port) position := by
  rintro ⟨worker, found, same⟩
  have isKey := owned.own _ position isOther worker found
  have distinct : port ≠ position := by
    rintro rfl
    apply keys
    rw [← Supervisor.createWorkerId_eq_iff, ← isKey]
    exact (owned.own _ port isPort worker found).symm
  rw [Worker.address, isKey, (owned.started position worker found).1] at same
  exact differ port position (owned.wrapper _ port isPort).1
    (owned.wrapper _ position isOther).1 distinct same.symm

/-- A round of requests leaves the workers of such a task. -/
theorem Owned.workers_forWorkers
    (owned : Owned machine) {task other : String × String}
    (keys : task.1 ++ task.2 ≠ other.1 ++ other.2)
    (differ : AddressesDiffer endpoint task other)
    (operation : Worker → Worker) :
    (machine.forWorkers endpoint choice task.1 task.2 operation).workers
        other = machine.workers other := by
  refine workers_congr (congrArg (Option.getD · []) (congrFun
    (sameWrappers_foldl (fun _ _ => sameWrappers_request) _).wrappers _))
    fun port present => ?_
  exact process_foldl (fun _ _ => process_request) _
    fun _ isPort => owned.unreached keys differ isPort present

/-- A call leaves the workers of a task with which it shares neither a key nor
an address. -/
theorem Owned.workers_call
    (owned : Owned machine) {other : String × String} (call : Call)
    (keys : call.task.1 ++ call.task.2 ≠ other.1 ++ other.2)
    (differ : AddressesDiffer endpoint call.task other) :
    (machine.call endpoint choice call).workers other =
      machine.workers other := by
  have otherKey : Supervisor.createWorkerId other.1 other.2 ≠
      Supervisor.createWorkerId call.task.1 call.task.2 := fun same =>
    keys (Supervisor.createWorkerId_eq_iff.mp same).symm
  unfold Machine.call
  split
  · rfl
  · cases call with
    | addWorker topoId runName name parallelismLevel =>
        refine workers_congr ?_ fun port present => ?_
        · rw [ports_addWorker]
          exact (congrArg _ (if_neg otherKey)).trans (List.append_nil _)
        · refine if_neg fun isNew => ?_
          have above := (List.mem_range'_1.mp isNew).1
          have below := (owned.wrapper _ port present).2
          omega
    | configureConnections topoId name groups =>
        exact owned.workers_forWorkers keys differ _
    | startWorker topoId name =>
        exact owned.workers_forWorkers keys differ _
    | killWorker topoId name =>
        refine workers_congr ?_ fun port present => ?_
        · exact (ports_killWorker topoId name _).trans (if_neg otherKey)
        · exact process_foldl (fun _ _ => process_kill) _
            fun _ isPort => owned.unreached keys differ isPort present

/-! ## What a shared address brings -/

/-- The process of a wrapper is there. -/
def Alive (machine : Machine) (workerId : String) (port : Nat) : Prop :=
  ∃ worker, machine.process port = some worker ∧ worker.id = workerId ∧
    worker.dataPort = port

theorem Alive.bound
    (alive : Alive machine workerId port) :
    machine.Bound endpoint (commandAddress workerId port) port := by
  obtain ⟨worker, found, rfl, rfl⟩ := alive
  exact ⟨worker, found, rfl⟩

/-- A request that reaches a process, and what the others then are. -/
theorem request_of_reached
    {other : Nat} (idle : machine.waiting = false)
    (reaches : machine.reached endpoint choice workerId port = some other) :
    machine.request endpoint choice workerId operation port =
      machine.setProcess other ((machine.process other).map operation) := by
  simp [request, idle, reaches]

/-- Requests end no process. -/
theorem Alive.request
    {key : String} {position : Nat} (alive : Alive machine key position)
    (keeps : Keeps operation) :
    Alive (machine.request endpoint choice workerId operation port) key
      position := by
  obtain ⟨worker, found, sameId, samePort⟩ := alive
  unfold Machine.request
  split
  · exact ⟨worker, found, sameId, samePort⟩
  · split
    · next other _ =>
        by_cases same : position = other
        · subst same
          refine ⟨operation worker, ?_, (keeps.id worker).trans sameId,
            (keeps.dataPort worker).trans samePort⟩
          rw [setProcess_self, found]
          rfl
        · exact ⟨worker, (setProcess_of_ne same _).trans found, sameId,
            samePort⟩
    · exact ⟨worker, found, sameId, samePort⟩

/-- While the processes of the wrappers are there, no request waits for ever. -/
theorem waiting_request
    (idle : machine.waiting = false)
    (alive : Alive machine workerId port) :
    (machine.request endpoint choice workerId operation port).waiting =
      false := by
  obtain ⟨other, reaches⟩ : ∃ other,
      machine.reached endpoint choice workerId port = some other :=
    exists_reached alive.bound
  rw [request_of_reached idle reaches]
  exact idle

/-- The process has the given connections. -/
def Configured
    (machine : Machine) (port : Nat) (groups : List ConnectionGroup) : Prop :=
  ∃ worker, machine.process port = some worker ∧
    worker.connectionGroups = groups

/-- Configuring other workers or the same one once more changes nothing. -/
theorem Configured.request
    {position : Nat} {groups : List ConnectionGroup}
    (configured : Configured machine position groups) :
    Configured (machine.request endpoint choice workerId
      (fun worker => worker.configureConnections groups) port) position
      groups := by
  obtain ⟨worker, found, isGroups⟩ := configured
  unfold Machine.request
  split
  · exact ⟨worker, found, isGroups⟩
  · split
    · next other _ =>
        by_cases same : position = other
        · subst same
          refine ⟨worker.configureConnections groups, ?_, rfl⟩
          rw [setProcess_self, found]
          rfl
        · exact ⟨worker, (setProcess_of_ne same _).trans found, isGroups⟩
    · exact ⟨worker, found, isGroups⟩

/-- If a wrapper got connected to another process, that one is configured in
the place of its own. -/
theorem configured_foldl
    {ports : List Nat} {position : Nat} {groups : List ConnectionGroup}
    {key : String} (idle : machine.waiting = false)
    (alive : ∀ port ∈ ports, Alive machine workerId port)
    (isPort : port ∈ ports) (isChoice : choice port = position)
    (aliveOther : Alive machine key position)
    (shared : endpoint (commandAddress key position) =
      endpoint (commandAddress workerId port)) :
    Configured (ports.foldl (request endpoint choice workerId fun worker =>
      worker.configureConnections groups) machine) position groups := by
  have keeps := keeps_configureConnections groups
  induction ports generalizing machine with
  | nil => cases isPort
  | cons first ports inductionHypothesis =>
      rw [List.foldl_cons]
      by_cases here : port = first
      · subst here
        have bound : machine.Bound endpoint (commandAddress workerId port)
            (choice port) := by
          obtain ⟨worker, found, rfl, rfl⟩ := aliveOther
          exact ⟨worker, isChoice ▸ found, shared⟩
        have now : Configured (machine.request endpoint choice workerId
            (fun worker => worker.configureConnections groups) port) position
            groups := by
          obtain ⟨worker, found, _⟩ := aliveOther
          refine ⟨worker.configureConnections groups, ?_, rfl⟩
          rw [request_of_reached idle (reached_choice bound), isChoice,
            setProcess_self, found]
          rfl
        clear inductionHypothesis alive isPort
        generalize machine.request endpoint choice workerId _ port = current
          at now
        induction ports generalizing current with
        | nil => exact now
        | cons next ports inductionHypothesis =>
            exact inductionHypothesis _ now.request
      · apply inductionHypothesis
        · exact waiting_request idle (alive first List.mem_cons_self)
        · intro other present
          exact (alive other (List.mem_cons_of_mem _ present)).request keeps
        · exact (List.mem_cons.mp isPort).resolve_left here
        · exact aliveOther.request keeps

/-- Every wrapper has its process, and no process has been configured. -/
structure Fresh (machine : Machine) : Prop where
  idle : machine.waiting = false
  unconfigured : ∀ workerId, ∀ port ∈ machine.ports workerId,
    Alive machine workerId port ∧ Configured machine port []

theorem Fresh.initial : Fresh initial where
  idle := rfl
  unconfigured := by simp [Machine.ports, Machine.initial]

theorem Fresh.addWorker
    (fresh : Fresh machine) (owned : Owned machine)
    (topoId runName name : String) (parallelismLevel : Nat) :
    Fresh (machine.addWorker topoId runName name parallelismLevel) where
  idle := fresh.idle
  unconfigured := by
    intro workerId port present
    rw [ports_addWorker, List.mem_append] at present
    rcases present with isOld | isNew
    · have notNew : port ∉ List.range' machine.port parallelismLevel := by
        intro isNew
        have above := (List.mem_range'_1.mp isNew).1
        have below := (owned.wrapper workerId port isOld).2
        omega
      simp only [Alive, Configured, Machine.addWorker, if_neg notNew]
      exact fresh.unconfigured workerId port isOld
    · split at isNew
      · next same =>
          simp only [Alive, Configured, Machine.addWorker, if_pos isNew]
          exact ⟨⟨_, rfl, same.symm, rfl⟩, _, rfl, rfl⟩
      · cases isNew

/-- Two tasks are given two ports, the smaller one first. -/
def twoTasks
    (first second : String × String) (port otherPort : Nat) :
    List ((Nat → Nat) × Call) :=
  [(fun port => port, .addWorker first.1 "" first.2
      (port + 1 - Supervisor.workerBasePort)),
    (fun port => port, .addWorker second.1 "" second.2 (otherPort - port))]

/-- Both tasks then have workers with these ports. -/
theorem calls_twoTasks
    (endpoint : String → String) (first second : String × String)
    {port otherPort : Nat} (above : Supervisor.workerBasePort ≤ port)
    (below : port < otherPort) :
    Fresh (initial.calls endpoint (twoTasks first second port otherPort)) ∧
      port ∈ (initial.calls endpoint
        (twoTasks first second port otherPort)).ports
          (Supervisor.createWorkerId first.1 first.2) ∧
      otherPort ∈ (initial.calls endpoint
        (twoTasks first second port otherPort)).ports
          (Supervisor.createWorkerId second.1 second.2) := by
  have isCount : ((port : Int) + 1 - (Supervisor.workerBasePort : Int)).toNat =
      port + 1 - Supervisor.workerBasePort := by omega
  have alsoCount : ((otherPort : Int) - (port : Int)).toNat =
      otherPort - port := by omega
  have result : initial.calls endpoint
      (twoTasks first second port otherPort) =
        (initial.addWorker first.1 "" first.2
          (port + 1 - Supervisor.workerBasePort)).addWorker second.1 ""
            second.2 (otherPort - port) := by
    rw [← isCount, ← alsoCount]
    rfl
  rw [result]
  have owned : Owned (initial.addWorker first.1 "" first.2
      (port + 1 - Supervisor.workerBasePort)) :=
    Owned.initial.addWorker _ _ _ _
  refine ⟨(Fresh.initial.addWorker .initial _ _ _ _).addWorker owned _ _ _ _,
    ?_, ?_⟩
  · rw [ports_addWorker, ports_addWorker, if_pos rfl]
    refine List.mem_append_left _ (List.mem_append_right _
      (List.mem_range'_1.mpr ⟨above, ?_⟩))
    change port < Supervisor.workerBasePort + _
    omega
  · rw [ports_addWorker, if_pos rfl]
    refine List.mem_append_right _ (List.mem_range'_1.mpr ?_)
    change Supervisor.workerBasePort + _ ≤ otherPort ∧
      otherPort < Supervisor.workerBasePort + _ + _
    omega

/-- If two workers share an address, configuring the one task can configure a
worker of the other. -/
theorem not_isolated_of_shared
    {task other : String × String} {position : Nat}
    {history : List ((Nat → Nat) × Call)}
    (fresh : Fresh (initial.calls endpoint history))
    (isPort : port ∈ (initial.calls endpoint history).ports
      (Supervisor.createWorkerId task.1 task.2))
    (isOther : position ∈ (initial.calls endpoint history).ports
      (Supervisor.createWorkerId other.1 other.2))
    (shared : endpoint (commandAddress
        (Supervisor.createWorkerId task.1 task.2) port) =
      endpoint (commandAddress
        (Supervisor.createWorkerId other.1 other.2) position)) :
    ¬ Isolated endpoint task other := by
  intro isolated
  obtain ⟨groups, nonempty⟩ : ∃ groups : List ConnectionGroup, groups ≠ [] :=
    ⟨[⟨"", "", []⟩], List.cons_ne_nil _ _⟩
  have unchanged := (isolated history (fun _ => position)
    (.configureConnections task.1 task.2 groups) rfl).1
  generalize initial.calls endpoint history = before at *
  have isCall : before.call endpoint (fun _ => position)
      (.configureConnections task.1 task.2 groups) =
        before.forWorkers endpoint (fun _ => position) task.1 task.2
          fun worker => worker.configureConnections groups := by
    simp [Machine.call, fresh.idle]
  rw [isCall] at unchanged
  have configured : Configured (before.forWorkers endpoint (fun _ => position)
      task.1 task.2 fun worker => worker.configureConnections groups) position
        groups :=
    configured_foldl fresh.idle
      (fun port present => (fresh.unconfigured _ port present).1) isPort rfl
      (fresh.unconfigured _ position isOther).1 shared.symm
  have samePorts : (before.forWorkers endpoint (fun _ => position) task.1
      task.2 fun worker => worker.configureConnections groups).ports
        (Supervisor.createWorkerId other.1 other.2) =
          before.ports (Supervisor.createWorkerId other.1 other.2) :=
    congrArg (Option.getD · []) (congrFun
      (sameWrappers_foldl (fun _ _ => sameWrappers_request) _).wrappers _)
  rw [workers, workers, samePorts, List.map_inj_left] at unchanged
  have same := (Prod.mk.inj (unchanged position isOther)).2
  obtain ⟨_, worker, found, noGroups⟩ := fresh.unconfigured _ position
    isOther
  obtain ⟨configuredWorker, alsoFound, isGroups⟩ := configured
  rw [same, found] at alsoFound
  obtain rfl := Option.some.inj alsoFound
  exact nonempty (isGroups.symm.trans noGroups)

end Machine

/-- Isolated tasks do not share a key: the workers of the one would be added
to the other. -/
theorem Isolated.append_ne
    {endpoint : String → String} {task other : String × String}
    (isolated : Isolated endpoint task other) :
    task.1 ++ task.2 ≠ other.1 ++ other.2 := by
  intro same
  have keys := Supervisor.createWorkerId_eq_iff.mpr same
  have added := (isolated [] (fun port => port)
    (.addWorker task.1 "" task.2 1) rfl).1
  simp [Machine.workers, Machine.ports, Machine.calls, Machine.call,
    Machine.addWorker, Machine.initial, ← keys] at added

/-- Isolated tasks do not share an address. -/
theorem Isolated.addressesDiffer
    {endpoint : String → String} {task other : String × String}
    (isolated : Isolated endpoint task other) :
    AddressesDiffer endpoint task other := by
  intro port otherPort above alsoAbove differs shared
  rcases Nat.lt_or_gt_of_ne differs with below | below
  · obtain ⟨fresh, isPort, isOther⟩ :=
      Machine.calls_twoTasks endpoint task other above below
    exact Machine.not_isolated_of_shared fresh isPort isOther shared isolated
  · obtain ⟨fresh, isOther, isPort⟩ :=
      Machine.calls_twoTasks endpoint other task alsoAbove below
    exact Machine.not_isolated_of_shared fresh isPort isOther shared isolated

/-- Two tasks are isolated exactly if neither their keys nor the addresses of
their workers can be the same. -/
theorem isolated_iff_addresses_differ
    (endpoint : String → String) (task other : String × String) :
    Isolated endpoint task other ↔
      task.1 ++ task.2 ≠ other.1 ++ other.2 ∧
        AddressesDiffer endpoint task other := by
  constructor
  · exact fun isolated => ⟨isolated.append_ne, isolated.addressesDiffer⟩
  · rintro ⟨keys, differ⟩ history choice call rfl
    have owned : Machine.Owned (Machine.initial.calls endpoint history) :=
      Machine.owned_calls history
    have unchanged : ((Machine.initial.calls endpoint history).call endpoint
        choice call).workers other =
          (Machine.initial.calls endpoint history).workers other :=
      owned.workers_call call keys differ
    refine ⟨unchanged, fun port isNew => ?_⟩
    rw [unchanged]
    intro present
    obtain ⟨worker, isWorker, rfl⟩ := List.mem_map.mp present
    obtain ⟨position, isPort, rfl⟩ := List.mem_map.mp isWorker
    have below := (owned.wrapper _ position isPort).2
    cases call with
    | addWorker topoId runName name parallelismLevel =>
        exact absurd (List.mem_range'_1.mp isNew).1 (Nat.not_le.mpr below)
    | configureConnections topoId name groups => cases isNew
    | startWorker topoId name => cases isNew
    | killWorker topoId name => cases isNew

/-- The task `"bc"` of the topology `"a"` has the key of the task `"c"` of the
topology `"ab"`, whatever the operating system makes of addresses. -/
theorem not_isolated_of_ambiguous_key :
    ¬ ∃ endpoint : String → String, ∀ task other : String × String,
      task ≠ other → Isolated endpoint task other := by
  rintro ⟨endpoint, claim⟩
  exact (claim ("a", "bc") ("ab", "c") (by decide)).append_ne (by decide)

/-- The tasks `"b1"` and `"b"` have different keys, but the worker of the first
with port 3000 has the address of the worker of the second with port 13000. -/
theorem not_isolated_of_ambiguous_address (endpoint : String → String) :
    ¬ Isolated endpoint ("t", "b1") ("t", "b") := by
  intro isolated
  have same : commandAddress (Supervisor.createWorkerId "t" "b1") 3000 =
      commandAddress (Supervisor.createWorkerId "t" "b") 13000 := by
    decide +kernel
  exact isolated.addressesDiffer 3000 13000 (by decide) (by decide)
    (by decide) (congrArg endpoint same)

end Crane
end CraneSps
