import CraneSps.Crane.Ports
import CraneSps.Crane.Processes

/-!
# Workers with an address of their own

`Supervisor` takes a worker and its process for one.  The machine shows the
same workers as long as no two of them have the same address, and the first
seven thousand workers never do: their ports have four digits, so the port can
be read off the address whatever the key is.
-/

namespace CraneSps
namespace Crane

open Supervisor (workerBasePort createWorkerId)

/-- Four digits at the end of an address determine the port. -/
theorem commandAddress_inj_of_lt
    {workerId otherId : String} {port otherPort : Nat}
    (range : 1000 ≤ port ∧ port < 10000)
    (otherRange : 1000 ≤ otherPort ∧ otherPort < 10000)
    (same : commandAddress workerId port =
      commandAddress otherId otherPort) :
    port = otherPort := by
  have fourDigits : ∀ number, 1000 ≤ number ∧ number < 10000 →
      (Nat.toDigits 10 number).length = 4 := by
    rintro number ⟨above, below⟩
    have atMost := (Nat.length_toDigits_le_iff (b := 10) (n := number) (k := 4)
      (by decide) (by decide)).mpr below
    have notLess := mt (Nat.length_toDigits_le_iff (b := 10) (n := number)
      (k := 3) (by decide) (by decide)).mp (Nat.not_lt.mpr above)
    omega
  have chars := congrArg String.toList same
  simp only [commandAddress, String.toList_append] at chars
  change _ ++ (Nat.repr port).toList = _ ++ (Nat.repr otherPort).toList at chars
  rw [Nat.toList_repr, Nat.toList_repr] at chars
  have digits := (List.append_inj' chars
    ((fourDigits port range).trans (fourDigits otherPort otherRange).symm)).2
  have read := congrArg (fun digits => Nat.ofDigitChars 10 digits 0) digits
  simpa using read

/-- No two workers of these tasks with ports below the bound share an
address. -/
def OwnAddresses
    (endpoint : String → String) (tasks : List (String × String))
    (bound : Nat) : Prop :=
  ∀ first ∈ tasks, ∀ second ∈ tasks, ∀ port otherPort,
    workerBasePort ≤ port → port < bound →
      workerBasePort ≤ otherPort → otherPort < bound →
        endpoint (commandAddress (createWorkerId first.1 first.2) port) =
          endpoint (commandAddress
            (createWorkerId second.1 second.2) otherPort) →
          port = otherPort

/-- With ports of four digits, tasks whose addresses the operating system tells
apart share none. -/
theorem ownAddresses_of_le
    {endpoint : String → String} {tasks : List (String × String)}
    (distinct : ∀ first ∈ tasks, ∀ second ∈ tasks, ∀ port otherPort,
      endpoint (commandAddress (createWorkerId first.1 first.2) port) =
          endpoint (commandAddress
            (createWorkerId second.1 second.2) otherPort) →
        commandAddress (createWorkerId first.1 first.2) port =
          commandAddress (createWorkerId second.1 second.2) otherPort)
    {bound : Nat} (fourDigits : bound ≤ 10000) :
    OwnAddresses endpoint tasks bound := by
  intro first isFirst second isSecond port otherPort above below otherAbove
    otherBelow same
  have base : workerBasePort = 3000 := rfl
  exact commandAddress_inj_of_lt ⟨by omega, by omega⟩ ⟨by omega, by omega⟩
    (distinct first isFirst second isSecond port otherPort same)

namespace Machine

variable {endpoint : String → String} {machine next : Machine}
variable {choice : Nat → Nat} {workerId : String}
variable {operation : Worker → Worker}

/-- No two processes share an address. -/
def Distinct (endpoint : String → String) (machine : Machine) : Prop :=
  ∀ port other worker otherWorker, machine.process port = some worker →
    machine.process other = some otherWorker →
      endpoint worker.address = endpoint otherWorker.address → port = other

theorem Distinct.of_stays
    (distinct : Distinct endpoint machine) (stays : Stays machine next) :
    Distinct endpoint next := by
  intro port other worker otherWorker found foundOther same
  obtain ⟨before, isBefore, sameId, samePort⟩ := stays port worker found
  obtain ⟨otherBefore, isOther, alsoId, alsoPort⟩ :=
    stays other otherWorker foundOther
  apply distinct port other before otherBefore isBefore isOther
  rw [Worker.address, Worker.address] at *
  rwa [← sameId, ← samePort, ← alsoId, ← alsoPort]

/-- A message to a process with an address of its own reaches it. -/
theorem Distinct.reached
    (distinct : Distinct endpoint machine) {port : Nat}
    (alive : Alive machine workerId port) :
    machine.reached endpoint choice workerId port = some port := by
  obtain ⟨other, reaches⟩ : ∃ other,
      machine.reached endpoint choice workerId port = some other :=
    exists_reached alive.bound
  obtain ⟨worker, found, same⟩ := bound_of_reached reaches
  obtain ⟨own, isOwn, sameId, samePort⟩ := alive
  have isPort : other = port := by
    apply distinct other port worker own found isOwn
    rw [same, Worker.address, sameId, samePort]
  rw [reaches, isPort]

/-- A round of requests to processes with addresses of their own. -/
theorem process_requests
    (distinct : Distinct endpoint machine) (idle : machine.waiting = false)
    (keeps : Keeps operation) {ports : List Nat} (nodup : ports.Nodup)
    (alive : ∀ port ∈ ports, Alive machine workerId port) :
    (ports.foldl (request endpoint choice workerId operation)
        machine).waiting = false ∧
      ∀ other, (ports.foldl (request endpoint choice workerId operation)
          machine).process other =
        if other ∈ ports then (machine.process other).map operation
        else machine.process other := by
  induction ports generalizing machine with
  | nil => simpa using idle
  | cons port ports inductionHypothesis =>
      obtain ⟨notLater, nodup⟩ := List.nodup_cons.mp nodup
      have here : machine.request endpoint choice workerId operation port =
          machine.setProcess port ((machine.process port).map operation) :=
        request_of_reached idle
          (distinct.reached (alive port List.mem_cons_self))
      have stays : Stays machine
          (machine.request endpoint choice workerId operation port) :=
        stays_request keeps
      rw [List.foldl_cons]
      obtain ⟨idleAfter, processes⟩ := inductionHypothesis
        (distinct.of_stays stays)
        (waiting_request idle (alive port List.mem_cons_self)) nodup
        fun other present =>
          (alive other (List.mem_cons_of_mem _ present)).request keeps
      refine ⟨idleAfter, fun other => ?_⟩
      rw [processes other, here]
      by_cases same : other = port
      · subst same
        simp [notLater]
      · simp [setProcess_of_ne same, same]

/-- A round of kills of processes with addresses of their own. -/
theorem process_kills
    (distinct : Distinct endpoint machine)
    {ports : List Nat} (nodup : ports.Nodup)
    (alive : ∀ port ∈ ports, Alive machine workerId port) :
    (ports.foldl (kill endpoint choice workerId) machine).waiting =
        machine.waiting ∧
      ∀ other, (ports.foldl (kill endpoint choice workerId) machine).process
          other =
        if other ∈ ports then none else machine.process other := by
  induction ports generalizing machine with
  | nil => simp
  | cons port ports inductionHypothesis =>
      obtain ⟨notLater, nodup⟩ := List.nodup_cons.mp nodup
      have here : machine.kill endpoint choice workerId port =
          machine.setProcess port none := by
        have reaches : machine.reached endpoint choice workerId port =
            some port := distinct.reached (alive port List.mem_cons_self)
        simp only [kill, reaches]
      have stays : Stays machine
          (machine.kill endpoint choice workerId port) := stays_kill
      have later : ∀ other ∈ ports,
          Alive (machine.kill endpoint choice workerId port) workerId
            other := by
        intro other present
        have differs : other ≠ port := fun same => notLater (same ▸ present)
        obtain ⟨worker, found, isWorker⟩ :=
          alive other (List.mem_cons_of_mem _ present)
        refine ⟨worker, ?_, isWorker⟩
        rw [here, setProcess_of_ne differs]
        exact found
      obtain ⟨sameWaiting, processes⟩ :=
        inductionHypothesis (distinct.of_stays stays) nodup later
      rw [List.foldl_cons]
      refine ⟨sameWaiting.trans (by rw [here]; rfl), fun other => ?_⟩
      rw [processes other, here]
      by_cases same : other = port
      · subst same
        simp
      · simp [setProcess_of_ne same, same]

/-- The supervisor shows the wrappers of the machine together with their
processes. -/
structure Shows (machine : Machine) (supervisor : Supervisor) : Prop where
  owned : Owned machine
  idle : machine.waiting = false
  port : machine.port = supervisor.port
  nodup : ∀ workerId, (machine.ports workerId).Nodup
  workers : ∀ workerId,
    (machine.wrappers workerId).map (List.map machine.process) =
      (supervisor.workersMap workerId).map (List.map some)

namespace Shows

variable {supervisor : Supervisor} {topoId name : String}

theorem initial : Shows initial Supervisor.initial where
  owned := .initial
  idle := rfl
  port := rfl
  nodup := fun _ => List.nodup_nil
  workers := fun _ => rfl

/-- Every wrapper has its process. -/
theorem alive
    (shown : Shows machine supervisor) {port : Nat}
    (present : port ∈ machine.ports workerId) :
    Alive machine workerId port := by
  cases found : machine.wrappers workerId with
  | none => simp [ports, found] at present
  | some list =>
      have isPort : port ∈ list := by simpa [ports, found] using present
      have same := shown.workers workerId
      rw [found, Option.map_some] at same
      obtain ⟨workers, _, isWorkers⟩ := Option.map_eq_some_iff.mp same.symm
      have isProcess : machine.process port ∈ workers.map some := by
        rw [isWorkers]
        exact List.mem_map_of_mem isPort
      obtain ⟨worker, _, isWorker⟩ := List.mem_map.mp isProcess
      exact ⟨worker, isWorker.symm,
        shown.owned.own workerId port present worker isWorker.symm,
        (shown.owned.started port worker isWorker.symm).1⟩

/-- A wrapper belongs to one task only. -/
theorem notMem_of_ne
    (shown : Shows machine supervisor) {other : String} {port : Nat}
    (present : port ∈ machine.ports workerId) (differs : workerId ≠ other) :
    port ∉ machine.ports other := by
  intro alsoPresent
  obtain ⟨worker, found, sameId, _⟩ := shown.alive present
  exact differs (sameId.symm.trans
    (shown.owned.own other port alsoPresent worker found))

/-- Only the processes of its own wrappers matter to a task. -/
theorem map_wrappers_congr
    {process other : Nat → Option Worker}
    (same : ∀ port ∈ machine.ports workerId, process port = other port) :
    (machine.wrappers workerId).map (List.map process) =
      (machine.wrappers workerId).map (List.map other) := by
  cases found : machine.wrappers workerId with
  | none => rfl
  | some list =>
      rw [Option.map_some, Option.map_some, Option.some_inj]
      apply List.map_congr_left
      intro port present
      apply same
      rwa [ports, found]

/-- The wrappers of a task together with their processes. -/
theorem map_ports
    (shown : Shows machine supervisor) (workerId : String) :
    (machine.ports workerId).map machine.process =
      ((supervisor.workersMap workerId).getD []).map some := by
  have same := shown.workers workerId
  rw [ports]
  cases isList : machine.wrappers workerId <;>
    cases isWorkers : supervisor.workersMap workerId <;>
    simp_all

theorem addWorker
    (shown : Shows machine supervisor) (id topoId runName name : String)
    (parallelismLevel : Nat) :
    Shows (machine.addWorker topoId runName name parallelismLevel)
      (supervisor.addWorker id topoId runName name parallelismLevel).1 where
  owned := shown.owned.addWorker topoId runName name parallelismLevel
  idle := shown.idle
  port := congrArg (· + parallelismLevel) shown.port
  nodup := by
    intro workerId
    rw [ports_addWorker]
    refine List.Nodup.append (shown.nodup workerId) ?_ ?_
    · split
      · exact List.nodup_range'
      · exact List.nodup_nil
    · intro port isOld isNew
      have below := (shown.owned.wrapper workerId port isOld).2
      split at isNew
      · have above := (List.mem_range'_1.mp isNew).1
        omega
      · cases isNew
  workers := by
    intro workerId
    have old : ∀ key, ∀ port ∈ machine.ports key,
        (machine.addWorker topoId runName name parallelismLevel).process
          port = machine.process port := by
      intro key port present
      refine if_neg fun isNew => ?_
      have above := (List.mem_range'_1.mp isNew).1
      have below := (shown.owned.wrapper key port present).2
      omega
    by_cases same : workerId = createWorkerId topoId name
    · subst same
      have oldWorkers : (machine.ports (createWorkerId topoId name)).map
          (machine.addWorker topoId runName name parallelismLevel).process =
            ((supervisor.workersMap (createWorkerId topoId name)).getD
              []).map some :=
        (List.map_congr_left (old (createWorkerId topoId name))).trans
          (shown.map_ports _)
      have wrappersAfter : (machine.addWorker topoId runName name
          parallelismLevel).wrappers (createWorkerId topoId name) =
            some (machine.ports (createWorkerId topoId name) ++
              List.range' machine.port parallelismLevel) :=
        Function.update_self _ _ _
      have workersAfter : (supervisor.addWorker id topoId runName name
          parallelismLevel).1.workersMap (createWorkerId topoId name) =
            some ((supervisor.workersMap
              (createWorkerId topoId name)).getD [] ++
                supervisor.newWorkers topoId runName name
                  parallelismLevel) :=
        Function.update_self _ _ _
      have newWorkers : (List.range' machine.port parallelismLevel).map
          (machine.addWorker topoId runName name parallelismLevel).process =
            (supervisor.newWorkers topoId runName name
              parallelismLevel).map some := by
        rw [Supervisor.newWorkers, List.map_map, List.range'_eq_map_range,
          List.map_map, shown.port]
        apply List.map_congr_left
        intro offset inRange
        simp [Machine.addWorker, shown.port, List.mem_range.mp inRange,
          forkWorker]
      rw [wrappersAfter, workersAfter, Option.map_some, Option.map_some,
        List.map_append, List.map_append, oldWorkers, newWorkers]
    · have wrappersAfter : (machine.addWorker topoId runName name
          parallelismLevel).wrappers workerId = machine.wrappers workerId :=
        Function.update_of_ne same _ _
      have workersAfter : (supervisor.addWorker id topoId runName name
          parallelismLevel).1.workersMap workerId =
            supervisor.workersMap workerId :=
        Function.update_of_ne same _ _
      rw [wrappersAfter, workersAfter, ← shown.workers workerId]
      exact map_wrappers_congr (old workerId)

theorem forWorkers
    (shown : Shows machine supervisor) (distinct : Distinct endpoint machine)
    (keeps : Keeps operation) :
    Shows (machine.forWorkers endpoint choice topoId name operation)
      (supervisor.forWorkers topoId name operation) := by
  obtain ⟨idle, processes⟩ := @process_requests _ _ choice _ _ distinct
    shown.idle keeps _ (shown.nodup (createWorkerId topoId name))
    fun port present => shown.alive present
  have same : SameWrappers machine
      (machine.forWorkers endpoint choice topoId name operation) :=
    sameWrappers_foldl (fun _ _ => sameWrappers_request) _
  refine
    { owned := owned_forWorkers shown.owned topoId name keeps
      idle := idle
      port := same.port.trans shown.port
      nodup := ?_
      workers := ?_ }
  · intro workerId
    rw [ports, same.wrappers]
    exact shown.nodup workerId
  · intro workerId
    rw [same.wrappers]
    by_cases here : workerId = createWorkerId topoId name
    · subst here
      have told : (machine.wrappers (createWorkerId topoId name)).map
          (List.map (machine.forWorkers endpoint choice topoId name
            operation).process) =
          (machine.wrappers (createWorkerId topoId name)).map
            (List.map fun port => (machine.process port).map operation) :=
        map_wrappers_congr fun port present =>
          (processes port).trans (if_pos present)
      have workersAfter : (supervisor.forWorkers topoId name
          operation).workersMap (createWorkerId topoId name) =
            (supervisor.workersMap (createWorkerId topoId name)).map
              (List.map operation) :=
        Function.update_self _ _ _
      have before := congrArg (Option.map (List.map (Option.map operation)))
        (shown.workers (createWorkerId topoId name))
      rw [told, workersAfter]
      simpa [Option.map_map, Function.comp_def] using before
    · have workersAfter : (supervisor.forWorkers topoId name
          operation).workersMap workerId = supervisor.workersMap workerId :=
        Function.update_of_ne here _ _
      rw [workersAfter, ← shown.workers workerId]
      apply map_wrappers_congr
      intro port present
      exact (processes port).trans (if_neg (shown.notMem_of_ne present here))

theorem killWorker
    (shown : Shows machine supervisor)
    (distinct : Distinct endpoint machine) :
    Shows (machine.killWorker endpoint choice topoId name)
      (supervisor.killWorker topoId name) := by
  obtain ⟨idle, processes⟩ := @process_kills _ _ choice _ distinct _
    (shown.nodup (createWorkerId topoId name))
    fun port present => shown.alive present
  have same : SameWrappers machine
      ((machine.ports (createWorkerId topoId name)).foldl
        (kill endpoint choice (createWorkerId topoId name)) machine) :=
    sameWrappers_foldl (fun _ _ => sameWrappers_kill) _
  refine
    { owned := shown.owned.killWorker topoId name
      idle := idle.trans shown.idle
      port := same.port.trans shown.port
      nodup := ?_
      workers := ?_ }
  · intro workerId
    rw [ports_killWorker]
    split
    · exact List.nodup_nil
    · exact shown.nodup workerId
  · intro workerId
    by_cases here : workerId = createWorkerId topoId name
    · subst here
      simp [Machine.killWorker, Supervisor.killWorker]
    · have kept : (machine.killWorker endpoint choice topoId name).wrappers
          workerId = machine.wrappers workerId :=
        (Function.update_of_ne here _ _).trans
          (congrFun same.wrappers workerId)
      have workersAfter : (supervisor.killWorker topoId name).workersMap
          workerId = supervisor.workersMap workerId :=
        Function.update_of_ne here _ _
      rw [kept, workersAfter, ← shown.workers workerId]
      apply map_wrappers_congr
      intro port present
      exact (processes port).trans (if_neg (shown.notMem_of_ne present here))

theorem call
    (shown : Shows machine supervisor) (distinct : Distinct endpoint machine)
    (id : String) (call : Call) :
    Shows (machine.call endpoint choice call) (supervisor.call id call) := by
  have busy : ¬ machine.waiting = true := by simp [shown.idle]
  unfold Machine.call
  rw [if_neg busy]
  cases call with
  | addWorker topoId runName name parallelismLevel =>
      exact shown.addWorker id topoId runName name parallelismLevel.toNat
  | configureConnections topoId name groups =>
      exact shown.forWorkers distinct (keeps_configureConnections groups)
  | startWorker topoId name => exact shown.forWorkers distinct keeps_start
  | killWorker topoId name => exact shown.killWorker distinct

end Shows

/-- Every process has the key of one of these tasks. -/
def Named (tasks : List (String × String)) (machine : Machine) : Prop :=
  ∀ port worker, machine.process port = some worker →
    ∃ task ∈ tasks, worker.id = createWorkerId task.1 task.2

theorem Named.of_stays
    {tasks : List (String × String)} (named : Named tasks machine)
    (stays : Stays machine next) : Named tasks next := by
  intro port worker found
  obtain ⟨before, isBefore, sameId, _⟩ := stays port worker found
  rw [sameId]
  exact named port before isBefore

theorem Named.call
    {tasks : List (String × String)} (named : Named tasks machine)
    {call : Call} (isTask : call.task ∈ tasks) :
    Named tasks (machine.call endpoint choice call) := by
  unfold Machine.call
  split
  · exact named
  · cases call with
    | addWorker topoId runName name parallelismLevel =>
        intro port worker found
        simp only [Machine.addWorker] at found
        split at found
        · obtain rfl := Option.some.inj found
          exact ⟨_, isTask, rfl⟩
        · exact named port worker found
    | configureConnections topoId name groups =>
        exact named.of_stays (stays_foldl (fun _ _ => stays_request
          (keeps_configureConnections groups)) _)
    | startWorker topoId name =>
        exact named.of_stays (stays_foldl
          (fun _ _ => stays_request keeps_start) _)
    | killWorker topoId name =>
        exact named.of_stays (stays_foldl (fun _ _ => stays_kill) _)

/-- Processes of tasks that share no address share none. -/
theorem Owned.distinct
    {tasks : List (String × String)} {bound : Nat}
    (owned : Owned machine) (named : Named tasks machine)
    (own : OwnAddresses endpoint tasks bound) (below : machine.port ≤ bound) :
    Distinct endpoint machine := by
  intro port other worker otherWorker found foundOther same
  obtain ⟨samePort, above, lt⟩ := owned.started port worker found
  obtain ⟨alsoPort, alsoAbove, alsoLt⟩ :=
    owned.started other otherWorker foundOther
  obtain ⟨task, isTask, isId⟩ := named port worker found
  obtain ⟨otherTask, isOtherTask, isOtherId⟩ :=
    named other otherWorker foundOther
  rw [Worker.address, Worker.address, isId, isOtherId, samePort, alsoPort]
    at same
  exact own task isTask otherTask isOtherTask port other above
    (lt.trans_le below) alsoAbove (alsoLt.trans_le below) same

/-- As long as no two workers share an address, the machine shows what the
supervisor says. -/
theorem shows_calls
    (endpoint : String → String) (id : String)
    (history : List ((Nat → Nat) × Call))
    (own : OwnAddresses endpoint (history.map fun step => step.2.task)
      (workerBasePort + workersCreated (history.map Prod.snd))) :
    Shows (initial.calls endpoint history)
      (Supervisor.initial.calls id (history.map Prod.snd)) := by
  suffices shown : ∀ front : List ((Nat → Nat) × Call), front <+: history →
      Shows (initial.calls endpoint front)
          (Supervisor.initial.calls id (front.map Prod.snd)) ∧
        Named (history.map fun step => step.2.task)
          (initial.calls endpoint front) from
    (shown history (List.prefix_refl history)).1
  intro front isFront
  induction front using List.reverseRecOn with
  | nil => exact ⟨.initial, nofun⟩
  | append_singleton front step inductionHypothesis =>
      obtain ⟨shown, named⟩ := inductionHypothesis
        ((List.prefix_append front [step]).trans isFront)
      have isTask : step.2.task ∈ history.map fun step => step.2.task :=
        List.mem_map_of_mem (isFront.subset (by simp))
      have below : (initial.calls endpoint front).port ≤
          workerBasePort + workersCreated (history.map Prod.snd) := by
        rw [shown.port, Supervisor.port_calls]
        refine Nat.add_le_add_left (workersCreated_le ?_) _
        exact ((List.prefix_append front [step]).trans isFront).map Prod.snd
      have distinct := shown.owned.distinct named own below
      rw [calls, List.foldl_append, List.map_append, Supervisor.calls,
        List.foldl_append]
      exact ⟨shown.call distinct id step.2, named.call isTask⟩

/-- The first seven thousand workers of a supervisor are as `Supervisor` says,
if the operating system tells different addresses of its tasks apart. -/
theorem shows_calls_of_le
    (endpoint : String → String) (id : String)
    (history : List ((Nat → Nat) × Call))
    (few : workersCreated (history.map Prod.snd) ≤ 7000)
    (distinct : ∀ first ∈ history.map fun step => step.2.task,
      ∀ second ∈ history.map fun step => step.2.task, ∀ port otherPort,
        endpoint (commandAddress (createWorkerId first.1 first.2) port) =
            endpoint (commandAddress
              (createWorkerId second.1 second.2) otherPort) →
          commandAddress (createWorkerId first.1 first.2) port =
            commandAddress (createWorkerId second.1 second.2) otherPort) :
    Shows (initial.calls endpoint history)
      (Supervisor.initial.calls id (history.map Prod.snd)) :=
  shows_calls endpoint id history
    (ownAddresses_of_le distinct (Nat.add_le_add_left few workerBasePort))

end Machine

end Crane
end CraneSps
