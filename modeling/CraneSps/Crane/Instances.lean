import CraneSps.Crane.Addresses
import CraneSps.Crane.Operations

/-!
# The instances of a running topology

`prepareTopology` adds one instance for each task, at addresses that have just
been issued, to the instances that are registered already.  A running topology
has the right instances if every `prepareTopology` has found none.  A `START`
request for a running topology doubles them.
-/

namespace CraneSps
namespace Crane

/-- Only instances have been added, and only to one topology. -/
structure Added
    (topoId : String) (added : String → List String)
    (stats next : TopoStats) : Prop where
  tracked : topoId ∈ next.topoIds
  status : (next.tracker topoId).status = (stats.tracker topoId).status
  topoSpec : (next.tracker topoId).topoSpec = (stats.tracker topoId).topoSpec
  instances : ∀ name, (next.tracker topoId).taskInstances name =
    (stats.tracker topoId).taskInstances name ++ added name
  others : ∀ other, other ≠ topoId → next.tracker other = stats.tracker other

namespace Added

variable {topoId : String} {added more : String → List String}
variable {stats middle next : TopoStats}

theorem refl
    (tracked : topoId ∈ stats.topoIds) :
    Added topoId (fun _ => []) stats stats where
  tracked := tracked
  status := rfl
  topoSpec := rfl
  instances := fun _ => (List.append_nil _).symm
  others := fun _ _ => rfl

theorem trans
    (first : Added topoId added stats middle)
    (second : Added topoId more middle next) :
    Added topoId (fun name => added name ++ more name) stats next where
  tracked := second.tracked
  status := second.status.trans first.status
  topoSpec := second.topoSpec.trans first.topoSpec
  instances := by
    intro name
    rw [second.instances, first.instances, List.append_assoc]
  others := fun other differs =>
    (second.others other differs).trans (first.others other differs)

/-- One instance. -/
theorem addTopoTaskInstance
    (tracked : topoId ∈ stats.topoIds) (name address : String) :
    Added topoId (fun other => if name = other then [address] else []) stats
      (stats.addTopoTaskInstance topoId name address) := by
  rw [TopoStats.addTopoTaskInstance, if_pos tracked]
  exact
    { tracked := TopoStats.mem_topoIds_set.mpr (.inl rfl)
      status := by rw [TopoStats.tracker_set, if_pos rfl]
      topoSpec := by rw [TopoStats.tracker_set, if_pos rfl]
      instances := by
        intro other
        rw [TopoStats.tracker_set, if_pos rfl]
        by_cases same : name = other
        · subst same
          simp
        · simp [same, Function.update_of_ne (Ne.symm same)]
      others := by
        intro other differs
        rw [TopoStats.tracker_set, if_neg differs] }

theorem congr
    (adds : Added topoId added stats next)
    (same : ∀ name, added name = more name) :
    Added topoId more stats next := by
  obtain rfl : added = more := funext same
  exact adds

/-- The instances of one reply. -/
theorem addPorts
    (tracked : topoId ∈ stats.topoIds) (supervisorId name : String)
    (ports : List Nat) :
    Added topoId
      (fun other =>
        if name = other then ports.map (makeAddr supervisorId) else [])
      stats
      (Nimbus.processAddWorkerReply stats
        ⟨supervisorId, topoId, name, ports⟩) := by
  unfold Nimbus.processAddWorkerReply
  induction ports generalizing stats with
  | nil =>
      refine (Added.refl tracked).congr fun other => ?_
      simp
  | cons port ports inductionHypothesis =>
      have first := addTopoTaskInstance tracked name
        (makeAddr supervisorId port)
      refine (first.trans (inductionHypothesis first.tracked)).congr
        fun other => ?_
      by_cases same : name = other
      · simp [same]
      · simp [same]

/-- The instances of one request. -/
theorem addWorker
    {cluster : Cluster}
    (tracked : topoId ∈ cluster.nimbus.topoStats.topoIds)
    (id name : String) (count : Nat) :
    Added topoId
      (fun other =>
        if name = other then newAddresses cluster.supervisor id count else [])
      cluster.nimbus.topoStats
      (Cluster.addWorker topoId cluster
        (id, name, count)).nimbus.topoStats := by
  refine (addPorts tracked id name _).congr fun other => ?_
  rw [Supervisor.newWorkers, List.map_map, List.map_map]
  rfl

/-- The instances of all requests. -/
theorem addWorkers
    {requests : List (String × String × Nat)} {cluster : Cluster}
    (tracked : topoId ∈ cluster.nimbus.topoStats.topoIds) :
    ∃ added,
      Added topoId added cluster.nimbus.topoStats
        (requests.foldl (Cluster.addWorker topoId)
          cluster).nimbus.topoStats ∧
      ∀ name, (added name).length =
        (requests.map fun request => List.runCount name request.2).sum := by
  induction requests generalizing cluster with
  | nil => exact ⟨_, Added.refl tracked, fun _ => rfl⟩
  | cons request requests inductionHypothesis =>
      obtain ⟨id, name, count⟩ := request
      have first := addWorker tracked id name count
      obtain ⟨rest, adds, lengths⟩ := inductionHypothesis first.tracked
      refine ⟨_, first.trans adds, fun other => ?_⟩
      rw [List.length_append, lengths, List.map_cons, List.sum_cons]
      by_cases same : name = other
      · simp [same, List.runCount, newAddresses]
      · simp [same, List.runCount]

end Added

/-! ## Addresses -/

section Addresses

variable {cluster : Cluster} {topoId name : String}

/-- A supervisor gives its ports away. -/
theorem port_addWorker
    (cluster : Cluster) (topoId id name : String) (count : Nat)
    (other : String) :
    ((Cluster.addWorker topoId cluster (id, name, count)).supervisor
        other).port =
      (cluster.supervisor other).port + if other = id then count else 0 := by
  by_cases same : other = id
  · subst same
    simp [Cluster.addWorker, Supervisor.addWorker]
  · simp [Cluster.addWorker, same]

/-- One request leaves the addresses of a task distinct. -/
theorem issued_addWorker
    (tracked : topoId ∈ cluster.nimbus.topoStats.topoIds)
    (issued : Issued cluster.supervisor
      (cluster.nimbus.topoStats.getTopoTaskInstances topoId name))
    (request : String × String × Nat) :
    Issued (cluster.addWorker topoId request).supervisor
      ((cluster.addWorker topoId
        request).nimbus.topoStats.getTopoTaskInstances topoId name) := by
  obtain ⟨id, task, count⟩ := request
  have grows (other : String) : (cluster.supervisor other).port ≤
      ((cluster.addWorker topoId (id, task, count)).supervisor
        other).port := by
    rw [port_addWorker]
    exact Nat.le_add_right _ _
  rw [TopoStats.getTopoTaskInstances,
    (Added.addWorker tracked id task count).instances]
  split
  · refine issued.append_newAddresses grows ?_
    rw [port_addWorker, if_pos rfl]
  · rw [List.append_nil]
    exact issued.mono grows

/-- All requests do. -/
theorem issued_addWorkers
    {requests : List (String × String × Nat)}
    (tracked : topoId ∈ cluster.nimbus.topoStats.topoIds)
    (issued : Issued cluster.supervisor
      (cluster.nimbus.topoStats.getTopoTaskInstances topoId name)) :
    Issued (requests.foldl (Cluster.addWorker topoId) cluster).supervisor
      ((requests.foldl (Cluster.addWorker topoId)
        cluster).nimbus.topoStats.getTopoTaskInstances topoId name) := by
  induction requests generalizing cluster with
  | nil => exact issued
  | cons request requests inductionHypothesis =>
      exact inductionHypothesis
        (Added.addWorker tracked _ _ _).tracked
        (issued_addWorker tracked issued request)

end Addresses

/-! ## The assignment -/

/-- Every task gets an executor. -/
theorem map_snd_assign
    {supervisors : List String} {executor last : String}
    {tasks : List String} {assignment : List (String × String)}
    (assigned : Nimbus.assign supervisors executor tasks =
      some (assignment, last)) :
    assignment.map Prod.snd = tasks := by
  induction tasks generalizing executor last assignment with
  | nil =>
      obtain ⟨rfl, _⟩ := Prod.mk.inj (Option.some.inj assigned)
      rfl
  | cons task tasks inductionHypothesis =>
      simp only [Nimbus.assign, Option.bind_eq_some_iff,
        Option.map_eq_some_iff, Prod.mk.injEq] at assigned
      obtain ⟨next, _, ⟨rest, kept⟩, isRest, rfl, _⟩ := assigned
      rw [List.map_cons, inductionHypothesis isRest]

/-- The requests ask for one worker for each task. -/
theorem sum_addRequests
    (name : String) (assignment : List (String × String)) :
    ((Nimbus.addRequests assignment).map fun request =>
      List.runCount name request.2).sum =
        (assignment.map Prod.snd).count name := by
  have perm := List.perm_insertionSort (· ≤ ·)
    (assignment.map Prod.fst).dedup
  rw [← List.sum_count_group name
    (perm.nodup_iff.mpr (List.nodup_dedup (assignment.map Prod.fst)))]
  · rw [Nimbus.addRequests, List.sum_map_flatMap]
    apply congrArg List.sum
    apply List.map_congr_left
    intro executor _
    rw [List.map_map]
    exact (List.sum_runCount_runLengths name _).trans
      ((List.perm_insertionSort _ _).count_eq name)
  · intro pair present
    rw [perm.mem_iff, List.mem_dedup]
    exact List.mem_map.mpr ⟨pair, present, rfl⟩

/-- The requests for an assignment register one instance for each task, at
addresses of their own if there was none. -/
theorem Added.addRequests
    {cluster : Cluster} {topoId : String}
    (tracked : topoId ∈ cluster.nimbus.topoStats.topoIds)
    (assignment : List (String × String)) :
    let created :=
      (Nimbus.addRequests assignment).foldl (Cluster.addWorker topoId) cluster
    ∃ added,
      Added topoId added cluster.nimbus.topoStats created.nimbus.topoStats ∧
      ∀ name,
        (added name).length = (assignment.map Prod.snd).count name ∧
          (cluster.nimbus.topoStats.getTopoTaskInstances topoId name = [] →
            (created.nimbus.topoStats.getTopoTaskInstances topoId
              name).Nodup) := by
  intro created
  obtain ⟨added, adds, lengths⟩ :=
    @Added.addWorkers topoId (Nimbus.addRequests assignment) cluster tracked
  refine ⟨added, adds, fun name => ⟨?_, fun nothing => ?_⟩⟩
  · rw [lengths, sum_addRequests]
  · refine (issued_addWorkers tracked ?_).distinct
    rw [nothing]
    exact Issued.nil

/-! ## Counting -/

/-- One instance for each task, at addresses of their own. -/
def Counted (tracker : TopologyTracker) : Prop :=
  ∀ name ∈ tracker.topoSpec.names,
    (tracker.taskInstances name).Nodup ∧
      (tracker.taskInstances name).length =
        tracker.topoSpec.tasks.count name

/-- What is known of every topology. -/
structure Sound (tracker : TopologyTracker) : Prop where
  distinct : tracker.topoSpec.names.Nodup
  counted : tracker.status = .ready ∨ tracker.status = .running →
    Counted tracker

theorem sound_default : Sound default where
  distinct := List.nodup_nil
  counted := nofun

/-- A topology that has been prepared is not touched without a change of its
status. -/
theorem Sound.of_unprepared
    {tracker : TopologyTracker}
    (distinct : tracker.topoSpec.names.Nodup)
    (notReady : tracker.status ≠ .ready)
    (notRunning : tracker.status ≠ .running) : Sound tracker where
  distinct := distinct
  counted := by
    rintro (ready | running)
    · exact absurd ready notReady
    · exact absurd running notRunning

/-- All topologies are sound. -/
def Consistent (stats : TopoStats) : Prop :=
  ∀ topoId, Sound (stats.tracker topoId)

namespace Consistent

variable {stats next : TopoStats} {topoId : String} {status : TopoStatus}

theorem set
    (consistent : Consistent stats) {tracker : TopologyTracker}
    (sound : Sound tracker) :
    Consistent (stats.set topoId tracker) := by
  intro other
  rw [TopoStats.tracker_set]
  split
  · exact sound
  · exact consistent other

theorem erase
    (consistent : Consistent stats) : Consistent (stats.erase topoId) := by
  intro other
  rw [TopoStats.tracker_erase]
  split
  · exact sound_default
  · exact consistent other

/-- A new status is sound if it is when the instances have been counted. -/
theorem setTopoStatus
    (consistent : Consistent stats)
    (counted : status = .ready ∨ status = .running →
      Counted (stats.tracker topoId)) :
    Consistent (stats.setTopoStatus topoId status) := by
  by_cases tracked : topoId ∈ stats.topoIds
  · rw [TopoStats.setTopoStatus_of_mem tracked]
    exact consistent.set
      { distinct := (consistent topoId).distinct
        counted := counted }
  · rw [TopoStats.setTopoStatus_of_notMem tracked]
    exact consistent

/-- The topology is stopped. -/
theorem stop
    (consistent : Consistent stats) :
    Consistent ((stats.setTopoStatus topoId .idle).clearTaskInstances
      topoId) := by
  have idle : Consistent (stats.setTopoStatus topoId .idle) :=
    consistent.setTopoStatus nofun
  apply idle.set
  refine Sound.of_unprepared (idle topoId).distinct ?_ ?_
  all_goals
    by_cases tracked : topoId ∈ stats.topoIds
    · rw [TopoStats.setTopoStatus_of_mem tracked]
      simp [TopoStats.tracker_set]
    · rw [TopoStats.setTopoStatus_of_notMem tracked,
        stats.absent topoId tracked]
      nofun

/-- An untracked topology is submitted. -/
theorem submit
    (consistent : Consistent stats) {spec : TopologySpec}
    (untracked : topoId ∉ stats.topoIds)
    (distinct : spec.names.Nodup) :
    Consistent ((stats.setTopoSpec topoId spec).setTopoStatus topoId
      .pending) := by
  refine Consistent.setTopoStatus ?_ nofun
  apply consistent.set
  rw [stats.absent topoId untracked]
  exact Sound.of_unprepared distinct nofun nofun

/-- Instances are added to a topology without any. -/
theorem addWorkers
    (consistent : Consistent stats) {added : String → List String}
    (tracked : topoId ∈ stats.topoIds)
    (unprepared : ∀ name ∈ (stats.getTopoSpec topoId).names,
      stats.getTopoTaskInstances topoId name = [])
    (exactly : ∀ name,
      (added name).length = (stats.getTopoSpec topoId).tasks.count name)
    (adds : Added topoId added (stats.setTopoStatus topoId .preparing) next)
    (distinct : ∀ name ∈ (stats.getTopoSpec topoId).names,
      (next.getTopoTaskInstances topoId name).Nodup) :
    Consistent (next.setTopoStatus topoId .ready) := by
  have preparing : Consistent (stats.setTopoStatus topoId .preparing) :=
    consistent.setTopoStatus nofun
  have before : (stats.setTopoStatus topoId .preparing).tracker topoId =
      { stats.tracker topoId with status := .preparing } := by
    rw [TopoStats.setTopoStatus_of_mem tracked, TopoStats.tracker_set,
      if_pos rfl]
  have topoSpec : (next.tracker topoId).topoSpec =
      stats.getTopoSpec topoId := by
    rw [adds.topoSpec, before]
    rfl
  have status : (next.tracker topoId).status = .preparing := by
    rw [adds.status, before]
  have after : Consistent next := by
    intro other
    by_cases same : other = topoId
    · subst same
      refine Sound.of_unprepared ?_ ?_ ?_
      · rw [topoSpec]
        exact (consistent other).distinct
      all_goals
        rw [status]
        nofun
    · rw [adds.others other same]
      exact preparing other
  apply after.setTopoStatus
  intro _ name isName
  rw [topoSpec] at isName ⊢
  refine ⟨distinct name isName, ?_⟩
  have nothing : (stats.tracker topoId).taskInstances name = [] :=
    unprepared name isName
  rw [adds.instances, before, nothing, List.nil_append, exactly]

end Consistent

/-! ## Operations -/

section Operations

variable {cluster next : Cluster} {topoId : String} {members : List String}

/-- A topology is prepared that has no instances. -/
theorem consistent_prepareTopology
    (consistent : Consistent cluster.nimbus.topoStats)
    (unprepared :
      ∀ name ∈ (cluster.nimbus.topoStats.getTopoSpec topoId).names,
        cluster.nimbus.topoStats.getTopoTaskInstances topoId name = [])
    (prepared : cluster.prepareTopology topoId members = some next) :
    Consistent next.nimbus.topoStats := by
  obtain ⟨assignment, executor, assigned, rfl⟩ :=
    Cluster.exists_of_prepareTopology prepared
  have tasks := map_snd_assign assigned
  by_cases tracked : topoId ∈ cluster.nimbus.topoStats.topoIds
  · have isKey : topoId ∈ (cluster.nimbus.topoStats.setTopoStatus topoId
        .preparing).topoIds :=
      TopoStats.mem_topoIds_setTopoStatus.mpr tracked
    obtain ⟨added, adds, counts⟩ :=
      @Added.addRequests (cluster.assigning topoId members executor) topoId
        isKey assignment
    refine consistent.addWorkers tracked unprepared (fun name => ?_) adds
      (fun name isName => (counts name).2 ?_)
    · rw [(counts name).1, tasks]
    · exact TopoStats.getTopoTaskInstances_setTopoStatus.trans
        (unprepared name isName)
  · have preparing : cluster.nimbus.topoStats.setTopoStatus topoId .preparing =
        cluster.nimbus.topoStats :=
      TopoStats.setTopoStatus_of_notMem tracked
    rw [TopoStats.getTopoSpec,
      cluster.nimbus.topoStats.absent topoId tracked] at tasks
    obtain rfl := List.map_eq_nil_iff.mp tasks
    change Consistent ((cluster.nimbus.topoStats.setTopoStatus topoId
      .preparing).setTopoStatus topoId .ready)
    rw [preparing, TopoStats.setTopoStatus_of_notMem tracked]
    exact consistent

theorem consistent_startTopology
    (consistent : Consistent cluster.nimbus.topoStats) :
    Consistent (cluster.startTopology topoId members).nimbus.topoStats := by
  unfold Cluster.startTopology
  split
  · next isReady =>
      apply consistent.setTopoStatus
      intro _
      exact (consistent topoId).counted
        (.inl (TopoStats.getTopoStatus_eq_some_iff.mp isReady).2)
  · exact consistent

theorem consistent_killTopology
    (consistent : Consistent cluster.nimbus.topoStats) :
    Consistent (cluster.killTopology topoId members).nimbus.topoStats := by
  unfold Cluster.killTopology
  split
  · exact consistent
  · apply Consistent.erase
    split
    · exact consistent.stop
    · exact consistent

end Operations

/-! ## Runs -/

/-- The operation does not prepare a topology that has instances. -/
def Operation.Separate (cluster : Cluster) : Operation → Prop
  | .prepare topoId =>
      ∀ name ∈ (cluster.nimbus.topoStats.getTopoSpec topoId).names,
        cluster.nimbus.topoStats.getTopoTaskInstances topoId name = []
  | _ => True

instance (cluster : Cluster) (operation : Operation) :
    Decidable (operation.Separate cluster) := by
  rcases operation <;> unfold Operation.Separate <;> infer_instance

/-- The names of a submitted topology are distinct, and no topology is
prepared that has instances. -/
def Separate (state : State) : Action → Prop
  | .request (.submit _ spec) => spec.names.Nodup
  | .serve _ =>
      ∀ operation ∈ state.service.head?, operation.Separate state.cluster
  | .resume index _ =>
      ∀ restart ∈ state.restarts[index]?, ∀ operation ∈ restart.head?,
        operation.Separate state.cluster
  | _ => True

instance (state : State) (action : Action) :
    Decidable (Separate state action) := by
  unfold Separate
  split <;> infer_instance

/-- A running topology has as many instances of each bolt as the level of the
bolt says, at different addresses, and one of each spout. -/
def RunningExactly (stats : TopoStats) : Prop :=
  ∀ topoId, stats.getTopoStatus topoId = some .running →
    (∀ bolt ∈ (stats.getTopoSpec topoId).boltSpecs,
      (stats.getTopoTaskInstances topoId bolt.name).Nodup ∧
        ((stats.getTopoTaskInstances topoId bolt.name).length : Int) =
          max bolt.paraLevel 0) ∧
    ∀ spout ∈ (stats.getTopoSpec topoId).spoutSpecs,
      (stats.getTopoTaskInstances topoId spout.name).length = 1

/-- Counted instances are the right ones. -/
theorem Consistent.runningExactly
    {stats : TopoStats} (consistent : Consistent stats) :
    RunningExactly stats := by
  intro topoId isRunning
  have running := (TopoStats.getTopoStatus_eq_some_iff.mp isRunning).2
  obtain ⟨distinct, counted⟩ := consistent topoId
  refine ⟨fun bolt present => ?_, fun spout present => ?_⟩
  · have isName : bolt.name ∈ (stats.getTopoSpec topoId).names :=
      List.mem_append_right _ (List.mem_map.mpr ⟨bolt, present, rfl⟩)
    obtain ⟨addresses, length⟩ := counted (.inr running) _ isName
    refine ⟨addresses, ?_⟩
    rw [TopoStats.getTopoTaskInstances, length]
    exact TopologySpec.count_tasks_bolt distinct present
  · have isName : spout.name ∈ (stats.getTopoSpec topoId).names :=
      List.mem_append_left _ (List.mem_map.mpr ⟨spout, present, rfl⟩)
    rw [TopoStats.getTopoTaskInstances, (counted (.inr running) _ isName).2]
    exact TopologySpec.count_tasks_spout distinct present

theorem Operation.consistent
    {cluster next : Cluster} {members : List String} {operation : Operation}
    (consistent : Consistent cluster.nimbus.topoStats)
    (separate : operation.Separate cluster)
    (executed : operation.execute cluster members = some next) :
    Consistent next.nimbus.topoStats := by
  cases operation with
  | compile topoId =>
      obtain rfl := Option.some.inj executed
      exact consistent.setTopoStatus nofun
  | prepare topoId =>
      exact consistent_prepareTopology consistent separate executed
  | start topoId =>
      obtain rfl := Option.some.inj executed
      exact consistent_startTopology consistent
  | stop topoId =>
      obtain rfl := Option.some.inj executed
      exact consistent.stop
  | kill topoId =>
      obtain rfl := Option.some.inj executed
      exact consistent_killTopology consistent

/-- Every separate step keeps the counts. -/
theorem State.consistent
    {state next : State} {action : Action}
    (consistent : Consistent state.cluster.nimbus.topoStats)
    (separate : Separate state action)
    (stepped : state.step action = some next) :
    Consistent next.cluster.nimbus.topoStats := by
  cases State.stepped_of_advance (State.advance_of_step stepped) with
  | request request finished =>
      cases request with
      | submit topoId spec =>
          simp only [State.accept]
          split
          · exact consistent
          · next untracked =>
              refine consistent.submit ?_ separate
              simpa [State.Existed, TopoStats.getTopoStatus] using untracked
      | send topoId => exact consistent
      | start topoId | stop topoId | kill topoId =>
          simp only [State.accept]
          split <;> exact consistent
  | serve members operation service cluster isNext executed =>
      refine operation.consistent consistent (separate operation ?_) executed
      rw [isNext]
      rfl
  | nodeFail => exact consistent
  | resume index members operation restart cluster isNext executed =>
      exact operation.consistent consistent
        (separate _ isNext operation rfl) executed

/-- In every run of separate steps, running topologies have exactly the
instances of their specifications. -/
theorem runningExactly_of_separate
    {id : String} {trace : List Action} {state : State}
    (every : (craneSystem id).Every Separate (State.initial id) trace)
    (runs : (craneSystem id).Runs (State.initial id) trace state) :
    RunningExactly state.cluster.nimbus.topoStats := by
  have consistent : Consistent state.cluster.nimbus.topoStats :=
    every.invariant runs
      (fun state => Consistent state.cluster.nimbus.topoStats)
      (fun _ _ _ before separate stepped =>
        State.consistent before separate stepped)
      (fun _ => sound_default)
  exact consistent.runningExactly

/-- A spout with a bolt of level two. -/
def twoBolts : TopologySpec where
  name := "t"
  spoutSpecs := [{ name := "s", runname := "SSpout" }]
  boltSpecs :=
    [{ name := "b", parents := [("s", "ShuffleGrouping")],
       runname := "BBolt", paraLevel := 2 }]

/-- It is submitted and sent, and a node fails. -/
def handledFailure : List Action :=
  [.request (.submit "t" twoBolts), .request (.send "t"),
    .serve ["1", "2", "3"], .serve ["1", "2", "3"], .serve ["1", "2", "3"],
    .nodeFail, .resume 0 ["1", "2"], .resume 0 ["1", "2"],
    .resume 0 ["1", "2"]]

theorem runningExactly_of_handledFailure :
    ∃ state ∈ (craneSystem "1").run (State.initial "1") handledFailure,
      state.cluster.nimbus.topoStats.getTopoStatus "t" = some .running ∧
        RunningExactly state.cluster.nimbus.topoStats := by
  have every : (craneSystem "1").Every Separate (State.initial "1")
      handledFailure := by
    decide
  obtain ⟨state, runs, running⟩ :
      ∃ state ∈ (craneSystem "1").run (State.initial "1") handledFailure,
        state.cluster.nimbus.topoStats.getTopoStatus "t" = some .running := by
    decide
  exact ⟨state, runs, running, runningExactly_of_separate every runs⟩

/-- It is started while it is running. -/
def startTwice : List Action :=
  [.request (.submit "t" twoBolts), .request (.send "t"),
    .serve ["1", "2", "3"], .serve ["1", "2", "3"], .serve ["1", "2", "3"],
    .request (.start "t"), .serve ["1", "2", "3"], .serve ["1", "2", "3"]]

/-- Four instances of the bolt are registered. -/
theorem not_runningExactly_of_start :
    ¬ ∀ (id : String) (trace : List Action) (state : State),
      (craneSystem id).Runs (State.initial id) trace state →
        RunningExactly state.cluster.nimbus.topoStats := by
  intro claim
  obtain ⟨state, runs, running, spec, doubled⟩ :
      ∃ state ∈ (craneSystem "1").run (State.initial "1") startTwice,
        state.cluster.nimbus.topoStats.getTopoStatus "t" = some .running ∧
        (state.cluster.nimbus.topoStats.getTopoSpec "t").boltSpecs =
          twoBolts.boltSpecs ∧
        (state.cluster.nimbus.topoStats.getTopoTaskInstances "t"
          "b").length = 4 := by
    decide
  have bolts := (claim "1" startTwice state runs "t" running).1
  rw [spec] at bolts
  have two := (bolts _ (List.mem_singleton_self _)).2
  simp only at two
  omega

end Crane
end CraneSps
