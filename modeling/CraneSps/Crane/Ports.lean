import CraneSps.Crane.Isolation
import CraneSps.Crane.Stopping

/-!
# Ports of the workers

A supervisor numbers the data ports of its workers from 3000 on and never
starts again, so workers that are alive at the same time have different ports.
As nothing compares the number with the ports that the daemon has bound, it
reaches them after as many workers as there are numbers in between, however
many of these workers are still alive.
-/

namespace CraneSps
namespace Crane

/-! ## Ports of the daemon -/

/-- `commandPort` of the supervisor. -/
def commandPort : Nat := 5432

/-- `requestPort` of the election. -/
def requestPort : Nat := 7777

/-- `masterServicePort`. -/
def masterServicePort : Nat := 9599

/-- `servicePort` of the file service. -/
def servicePort : Nat := 9600

/-- `dynamicPortBase`. -/
def dynamicPortBase : Nat := 9601

/-- `dynamicPortMax`. -/
def dynamicPortMax : Nat := 9800

/-- `Introducer::servicePort`, `heartbeatPort` and `pingPort`. -/
def membershipPorts : List Nat := [9877, 9878, 9879]

/-- `servicePort` of Nimbus, which every daemon binds, too. -/
def nimbusPort : Nat := 4444

/-- The ports of the supervisor, the election, the file service, the fetches
and the membership service. -/
def daemonPorts : List Nat :=
  [commandPort, requestPort, servicePort, masterServicePort] ++
    membershipPorts ++
    List.range' dynamicPortBase (dynamicPortMax + 1 - dynamicPortBase)

/-! ## Ports that are handed out -/

/-- How many workers a call creates. -/
def Call.parallelism : Call → Nat
  | .addWorker _ _ _ parallelismLevel => parallelismLevel.toNat
  | _ => 0

/-- How many workers are created in the course of some calls. -/
def workersCreated (history : List Call) : Nat :=
  (history.map Call.parallelism).sum

theorem workersCreated_le
    {front history : List Call} (isFront : front <+: history) :
    workersCreated front ≤ workersCreated history := by
  obtain ⟨rest, rfl⟩ := isFront
  simp [workersCreated]

namespace Supervisor

/-- The ports in the reply to a call. -/
def handsOut (supervisor : Supervisor) (id : String) : Call → List Nat
  | .addWorker topoId runName name parallelismLevel =>
      (supervisor.addWorker id topoId runName name
        parallelismLevel.toNat).2.ports
  | _ => []

/-- The ports in the replies to some calls. -/
def handedOut (id : String) : Supervisor → List Call → List Nat
  | _, [] => []
  | supervisor, call :: history =>
      supervisor.handsOut id call ++
        (supervisor.call id call).handedOut id history

/-- Workers that are alive at the same time have different ports. -/
structure DistinctPorts (supervisor : Supervisor) : Prop where
  nodup : ∀ workerId, (supervisor.ports workerId).Nodup
  disjoint : ∀ workerId other, workerId ≠ other →
    (supervisor.ports workerId).Disjoint (supervisor.ports other)

end Supervisor

/-- The workers that are alive after some calls have different ports, and all
ports that have been handed out are ports that the daemon has not bound. -/
structure UsablePorts
    (bound : List Nat) (id : String) (history : List Call) : Prop where
  distinct : (Supervisor.initial.calls id history).DistinctPorts
  inRange : ∀ port ∈ Supervisor.initial.handedOut id history, port ≤ 65535
  free : ∀ port ∈ Supervisor.initial.handedOut id history, port ∉ bound

namespace Supervisor

variable {supervisor : Supervisor} {id : String}

theorem DistinctPorts.initial : DistinctPorts initial where
  nodup := fun _ => List.nodup_nil
  disjoint := fun _ _ _ => List.disjoint_nil_left _

/-- A port of a worker has been handed out. -/
theorem PortsBelow.lt
    (below : PortsBelow supervisor) {workerId : String} {port : Nat}
    (isPort : port ∈ supervisor.ports workerId) : port < supervisor.port :=
  below workerId port (has_iff_mem_ports.mpr isPort)

/-- A port after a request to add workers: an old one, or a new one under the
key of the request. -/
theorem mem_ports_addWorker_iff
    (topoId runName name : String) (parallelismLevel : Nat)
    {workerId : String} {port : Nat} :
    port ∈ (supervisor.addWorker id topoId runName name
        parallelismLevel).1.ports workerId ↔
      port ∈ supervisor.ports workerId ∨
        workerId = createWorkerId topoId name ∧
          port ∈ List.range' supervisor.port parallelismLevel := by
  rw [ports_addWorker, List.mem_append]
  apply or_congr_right
  split
  · next same => simp [same]
  · next differs => simp [differs]

/-- New workers get ports that no worker has. -/
theorem DistinctPorts.addWorker
    (distinct : DistinctPorts supervisor) (below : PortsBelow supervisor)
    (topoId runName name : String) (parallelismLevel : Nat) :
    DistinctPorts
      (supervisor.addWorker id topoId runName name parallelismLevel).1 where
  nodup := by
    intro workerId
    rw [ports_addWorker]
    refine List.Nodup.append (distinct.nodup workerId) ?_ ?_
    · split
      · exact List.nodup_range'
      · exact List.nodup_nil
    · intro port isOld isNew
      split at isNew
      · have above := (List.mem_range'_1.mp isNew).1
        exact Nat.lt_irrefl port (Nat.lt_of_lt_of_le (below.lt isOld) above)
      · cases isNew
  disjoint := by
    intro workerId other differs port isPort isOther
    rw [mem_ports_addWorker_iff] at isPort isOther
    rcases isPort with isOld | ⟨here, isNew⟩
    · rcases isOther with alsoOld | ⟨_, isNew⟩
      · exact distinct.disjoint workerId other differs isOld alsoOld
      · have above := (List.mem_range'_1.mp isNew).1
        exact Nat.lt_irrefl port (Nat.lt_of_lt_of_le (below.lt isOld) above)
    · rcases isOther with isOld | ⟨alsoHere, _⟩
      · have above := (List.mem_range'_1.mp isNew).1
        exact Nat.lt_irrefl port (Nat.lt_of_lt_of_le (below.lt isOld) above)
      · exact differs (here.trans alsoHere.symm)

/-- Ports stay distinct if none is added. -/
theorem DistinctPorts.of_sublist
    (distinct : DistinctPorts supervisor) {next : Supervisor}
    (sublist : ∀ workerId,
      (next.ports workerId).Sublist (supervisor.ports workerId)) :
    DistinctPorts next where
  nodup := fun workerId => (distinct.nodup workerId).sublist (sublist workerId)
  disjoint := by
    intro workerId other differs port isPort isOther
    exact distinct.disjoint workerId other differs
      ((sublist workerId).subset isPort) ((sublist other).subset isOther)

/-- No call makes two workers share a port. -/
theorem DistinctPorts.call
    (distinct : DistinctPorts supervisor) (below : PortsBelow supervisor)
    (call : Call) : DistinctPorts (supervisor.call id call) := by
  cases call with
  | addWorker topoId runName name parallelismLevel =>
      exact distinct.addWorker below topoId runName name _
  | configureConnections topoId name connectionGroups =>
      have same (workerId : String) :
          (supervisor.configureConnections topoId name
            connectionGroups).ports workerId = supervisor.ports workerId :=
        ports_forWorkers fun _ => rfl
      exact distinct.of_sublist fun workerId => (same workerId).symm ▸ .refl _
  | startWorker topoId name =>
      have same (workerId : String) :
          (supervisor.startWorker topoId name).ports workerId =
            supervisor.ports workerId :=
        ports_forWorkers fun _ => rfl
      exact distinct.of_sublist fun workerId => (same workerId).symm ▸ .refl _
  | killWorker topoId name =>
      refine distinct.of_sublist fun workerId => ?_
      rw [Supervisor.call, ports_killWorker]
      split
      · exact List.nil_sublist _
      · exact List.Sublist.refl _

theorem distinctPorts_calls (id : String) (history : List Call) :
    DistinctPorts (initial.calls id history) := by
  induction history using List.reverseRecOn with
  | nil => exact .initial
  | append_singleton history call inductionHypothesis =>
      rw [calls, List.foldl_append]
      exact inductionHypothesis.call (portsBelow_calls id history) call

/-! ## The numbers of the ports -/

theorem handsOut_eq (call : Call) :
    supervisor.handsOut id call =
      List.range' supervisor.port call.parallelism := by
  cases call with
  | addWorker topoId runName name parallelismLevel =>
      exact ports_newWorkers topoId runName name _
  | configureConnections topoId name connectionGroups => rfl
  | startWorker topoId name => rfl
  | killWorker topoId name => rfl

theorem port_call (call : Call) :
    (supervisor.call id call).port = supervisor.port + call.parallelism := by
  cases call with
  | addWorker topoId runName name parallelismLevel => rfl
  | configureConnections topoId name connectionGroups => rfl
  | startWorker topoId name => rfl
  | killWorker topoId name => rfl

/-- Ports are only ever counted up. -/
theorem port_calls (history : List Call) :
    (supervisor.calls id history).port =
      supervisor.port + workersCreated history := by
  induction history generalizing supervisor with
  | nil => rfl
  | cons call history inductionHypothesis =>
      have rest := @inductionHypothesis (supervisor.call id call)
      rw [port_call, Nat.add_assoc] at rest
      exact rest

/-- The ports are handed out one after the other. -/
theorem handedOut_eq (history : List Call) :
    supervisor.handedOut id history =
      List.range' supervisor.port (workersCreated history) := by
  induction history generalizing supervisor with
  | nil => rfl
  | cons call history inductionHypothesis =>
      rw [handedOut, inductionHypothesis, handsOut_eq, port_call,
        List.range'_append_1]
      rfl

end Supervisor

/-- If the lowest port that is bound is between the first port of a worker and
the last port there is, the ports are usable exactly as long as the number of
workers created does not reach it. -/
theorem usablePorts_iff
    {bound : List Nat} {lowest : Nat}
    (isBound : lowest ∈ bound) (isLowest : ∀ port ∈ bound, lowest ≤ port)
    (isWorker : Supervisor.workerBasePort ≤ lowest) (isPort : lowest ≤ 65535)
    (id : String) (history : List Call) :
    UsablePorts bound id history ↔
      workersCreated history ≤ lowest - Supervisor.workerBasePort := by
  have handed (port : Nat) :
      port ∈ Supervisor.initial.handedOut id history ↔
        Supervisor.workerBasePort ≤ port ∧
          port < Supervisor.workerBasePort + workersCreated history := by
    rw [Supervisor.handedOut_eq, List.mem_range'_1]
    rfl
  constructor
  · intro usable
    by_contra tooMany
    refine usable.free lowest ((handed lowest).mpr ⟨isWorker, ?_⟩) isBound
    omega
  · intro few
    refine ⟨Supervisor.distinctPorts_calls id history, ?_, ?_⟩
    · intro port isHanded
      have range := (handed port).mp isHanded
      omega
    · intro port isHanded alsoBound
      have range := (handed port).mp isHanded
      have above := isLowest port alsoBound
      omega

theorem commandPort_le_of_mem_daemonPorts :
    ∀ port ∈ daemonPorts, commandPort ≤ port := by
  intro port isBound
  simp only [daemonPorts, commandPort, requestPort, servicePort,
    masterServicePort, membershipPorts, dynamicPortBase, dynamicPortMax,
    List.mem_append, List.mem_cons, List.not_mem_nil, or_false,
    List.mem_range'_1] at isBound ⊢
  omega

/-- The ports listed above stay free exactly if at most 2432 workers are
created in the whole run; with the port of Nimbus it is 1444. -/
theorem usablePorts_daemonPorts_iff (id : String) (history : List Call) :
    (UsablePorts daemonPorts id history ↔ workersCreated history ≤ 2432) ∧
      (UsablePorts (nimbusPort :: daemonPorts) id history ↔
        workersCreated history ≤ 1444) := by
  have lowest := commandPort_le_of_mem_daemonPorts
  constructor
  · exact usablePorts_iff (by decide) lowest (by decide) (by decide) id history
  · have nimbusLowest :
        ∀ port ∈ nimbusPort :: daemonPorts, nimbusPort ≤ port := by
      refine List.forall_mem_cons.mpr ⟨Nat.le_refl _, fun port isBound => ?_⟩
      exact Nat.le_trans (by decide) (lowest port isBound)
    exact usablePorts_iff List.mem_cons_self nimbusLowest (by decide)
      (by decide) id history

/-- A topology with one worker is restarted again and again. -/
def restarts (times : Nat) : List Call :=
  (List.replicate times
    [Call.addWorker "t" "Bolt" "b" 1, .killWorker "t" "b"]).flatten

theorem workersCreated_restarts (times : Nat) :
    workersCreated (restarts times) = times := by
  induction times with
  | zero => rfl
  | succ times inductionHypothesis =>
      have again : workersCreated (restarts (times + 1)) =
          1 + workersCreated (restarts times) := by
        simp [workersCreated, restarts, List.replicate_succ, Call.parallelism]
      rw [again, inductionHypothesis, Nat.add_comm]

/-- The worker of the last of 2433 restarts gets the command port of its
supervisor. -/
theorem not_usablePorts_restarts :
    ¬ ∀ (id : String) (history : List Call),
      UsablePorts daemonPorts id history := by
  intro claim
  refine (claim "1" (restarts 2433)).free commandPort ?_ (by decide)
  rw [Supervisor.handedOut_eq, workersCreated_restarts, List.mem_range'_1]
  decide

end Crane
end CraneSps
