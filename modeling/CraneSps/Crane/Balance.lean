import CraneSps.Crane.Assignment
import CraneSps.Crane.Instances
import CraneSps.Crane.Statuses
import CraneSps.Foundation.RoundRobin

/-!
# The balance of an assignment

`nextExecutor` takes the supervisors in turns and continues after the executor
that it has chosen last, in an earlier call or in a list that has changed.  The
requests of one `prepareTopology` conserve the tasks, and no supervisor gets
two tasks more than another.
-/

namespace CraneSps
namespace Crane

namespace Nimbus

variable {supervisors tasks : List String} {executor last next : String}
variable {assignment : List (String × String)}

/-- The turn of the next executor.  An executor that is in the list no longer
counts as one behind its end. -/
def turn (supervisors : List String) (executor : String) : Nat :=
  if executor = "" then 0 else supervisors.idxOf executor + 1

/-- The next executor is the one whose turn it is. -/
theorem idxOf_nextExecutor
    (distinct : supervisors.Nodup)
    (isNext : nextExecutor supervisors executor = some next) :
    supervisors.idxOf next =
      turn supervisors executor % supervisors.length := by
  unfold nextExecutor at isNext
  unfold turn
  split at isNext
  next nobody =>
    obtain ⟨inside, rfl⟩ := List.getElem?_eq_some_iff.mp isNext
    rw [if_pos nobody, distinct.idxOf_getElem, Nat.zero_mod]
  next somebody =>
    obtain ⟨inside, rfl⟩ := List.getElem?_eq_some_iff.mp isNext
    rw [if_neg somebody, distinct.idxOf_getElem]

/-- After its own turn comes the next one, unless the empty id stands before
the end of the list. -/
theorem turn_of_mem
    (distinct : supervisors.Nodup) (named : "" ∉ supervisors.dropLast)
    (isSupervisor : next ∈ supervisors) :
    turn supervisors next % supervisors.length =
      (supervisors.idxOf next + 1) % supervisors.length := by
  unfold turn
  split
  next nameless =>
    subst nameless
    obtain ⟨firsts, final, rfl⟩ : ∃ firsts final,
        supervisors = firsts ++ [final] :=
      ⟨supervisors.dropLast, supervisors.getLast
        (List.ne_nil_of_mem isSupervisor),
        (List.dropLast_append_getLast _).symm⟩
    rw [List.dropLast_concat] at named
    have isFinal : "" = final := by
      rcases List.mem_append.mp isSupervisor with before | isLast
      · exact absurd before named
      · exact List.mem_singleton.mp isLast
    have index : (firsts ++ [final]).idxOf "" = firsts.length := by
      rw [List.idxOf_append_of_notMem named, ← isFinal, List.idxOf_cons_self,
        Nat.add_zero]
    rw [index, List.length_append, List.length_singleton, Nat.mod_self,
      Nat.zero_mod]
  next => rfl

/-- The executors of the tasks take turns. -/
theorem map_idxOf_assign
    (distinct : supervisors.Nodup) (named : "" ∉ supervisors.dropLast)
    (assigned : assign supervisors executor tasks =
      some (assignment, last)) :
    assignment.map (fun pair => supervisors.idxOf pair.1) =
      List.turns supervisors.length (turn supervisors executor)
        tasks.length := by
  induction tasks generalizing executor last assignment with
  | nil =>
      obtain ⟨rfl, _⟩ := Prod.mk.inj (Option.some.inj assigned)
      rfl
  | cons task tasks inductionHypothesis =>
      simp only [assign, Option.bind_eq_some_iff, Option.map_eq_some_iff,
        Prod.mk.injEq] at assigned
      obtain ⟨next, isNext, ⟨rest, kept⟩, isRest, rfl, _⟩ := assigned
      have here := idxOf_nextExecutor distinct isNext
      have after := turn_of_mem distinct named (mem_of_nextExecutor isNext)
      rw [here, Nat.mod_add_mod] at after
      rw [List.map_cons, inductionHypothesis isRest, here, List.length_cons,
        List.turns, List.turns_congr after]

/-- No supervisor gets two tasks more than another. -/
theorem count_assign_le
    (distinct : supervisors.Nodup) (named : "" ∉ supervisors.dropLast)
    (assigned : assign supervisors executor tasks = some (assignment, last))
    {first second : String}
    (isFirst : first ∈ supervisors) (isSecond : second ∈ supervisors) :
    (assignment.map Prod.fst).count first ≤
      (assignment.map Prod.fst).count second + 1 := by
  have turns := map_idxOf_assign distinct named assigned
  have places (id : String) (isSupervisor : id ∈ supervisors) :
      (assignment.map Prod.fst).count id =
        (List.turns supervisors.length (turn supervisors executor)
          tasks.length).count (supervisors.idxOf id) := by
    rw [← turns, List.count, List.countP_map, List.count, List.countP_map]
    apply List.countP_congr
    intro pair isPair
    have executes := (mem_of_assign assigned isPair).1
    simp only [Function.comp_apply, beq_iff_eq]
    exact (List.idxOf_inj executes).symm
  rw [places first isFirst, places second isSecond]
  exact List.count_turns_le (List.idxOf_lt_length_of_mem isFirst)
    (List.idxOf_lt_length_of_mem isSecond)

/-- The instances that are requested from a supervisor. -/
theorem sum_addRequests_of_supervisor
    (id : String) (assignment : List (String × String)) :
    ((addRequests assignment).map fun request =>
      if request.1 = id then request.2.2 else 0).sum =
        (assignment.map Prod.fst).count id := by
  have perm := List.perm_insertionSort (· ≤ ·)
    (assignment.map Prod.fst).dedup
  have distinct := perm.nodup_iff.mpr
    (List.nodup_dedup (assignment.map Prod.fst))
  have each (executor : String) :
      (((((List.group executor assignment).insertionSort
        (· ≥ ·)).runLengths).map fun request => (executor, request)).map
          fun request => if request.1 = id then request.2.2 else 0).sum =
        if id = executor then (assignment.map Prod.fst).count id else 0 := by
    rw [List.map_map]
    by_cases same : id = executor
    · subst same
      have lengths := List.sum_snd_runLengths
        ((List.group id assignment).insertionSort (· ≥ ·))
      rw [List.length_insertionSort, List.length_group] at lengths
      rw [if_pos rfl, ← lengths]
      apply congrArg List.sum
      exact List.map_congr_left fun run _ => if_pos rfl
    · rw [if_neg same]
      apply List.sum_eq_zero
      intro amount isAmount
      obtain ⟨run, _, rfl⟩ := List.mem_map.mp isAmount
      exact if_neg (Ne.symm same)
  rw [addRequests, List.sum_map_flatMap, List.map_congr_left fun key _ =>
    each key]
  by_cases isExecutor : id ∈ assignment.map Prod.fst
  · exact List.sum_indicator _ distinct
      (perm.mem_iff.mpr (List.mem_dedup.mpr isExecutor))
  · rw [List.count_eq_zero.mpr isExecutor]
    simp

/-- A supervisor gets one request for each of its tasks. -/
theorem nodup_addRequests (assignment : List (String × String)) :
    ((addRequests assignment).map fun request =>
      (request.1, request.2.1)).Nodup := by
  have perm := List.perm_insertionSort (· ≤ ·)
    (assignment.map Prod.fst).dedup
  have distinct := perm.nodup_iff.mpr
    (List.nodup_dedup (assignment.map Prod.fst))
  rw [addRequests, List.map_flatMap, List.nodup_flatMap]
  constructor
  · intro executor _
    have descending := List.pairwise_insertionSort (· ≥ ·)
      (List.group executor assignment)
    have once := (List.pairwise_fst_runLengths descending).imp
      fun above => ne_of_gt above
    rw [List.map_map]
    have paired := List.Nodup.map (Prod.mk_right_injective executor) once
    rwa [List.map_map] at paired
  · apply distinct.imp
    intro first second differs
    rw [Function.onFun, List.disjoint_left]
    intro request ofFirst ofSecond
    simp only [List.map_map, List.mem_map, Function.comp_apply] at ofFirst
    simp only [List.map_map, List.mem_map, Function.comp_apply] at ofSecond
    obtain ⟨_, _, rfl⟩ := ofFirst
    obtain ⟨_, _, same⟩ := ofSecond
    exact differs (congrArg Prod.fst same).symm

end Nimbus

/-- With distinct names the run name is that of the spout. -/
theorem TopologySpec.runname_spout
    {spec : TopologySpec} {spout : SpoutSpec}
    (distinct : spec.names.Nodup) (present : spout ∈ spec.spoutSpecs) :
    spec.runname spout.name = spout.runname := by
  obtain ⟨spouts, _, apart⟩ := List.nodup_append.mp distinct
  have isSpout : spout.name ∈ spec.spoutSpecs.map SpoutSpec.name :=
    List.mem_map.mpr ⟨spout, present, rfl⟩
  have noBolt : spec.boltSpecs.reverse.find?
      (fun bolt => bolt.name == spout.name) = none := by
    rw [List.find?_eq_none]
    intro bolt isBolt same
    rw [List.mem_reverse] at isBolt
    exact apart _ isSpout _ (List.mem_map.mpr ⟨bolt, isBolt, rfl⟩)
      (beq_iff_eq.mp same).symm
  have reversed : (spec.spoutSpecs.reverse.map SpoutSpec.name).Nodup := by
    rw [List.map_reverse]
    exact List.nodup_reverse.mpr spouts
  have found := List.find?_of_nodup_keys reversed
    (List.mem_reverse.mpr present)
  simp only [runname, List.findRev?_eq_find?_reverse, noBolt, found]

/-- With distinct names the run name is that of the bolt. -/
theorem TopologySpec.runname_bolt
    {spec : TopologySpec} {bolt : BoltSpec}
    (distinct : spec.names.Nodup) (present : bolt ∈ spec.boltSpecs) :
    spec.runname bolt.name = bolt.runname := by
  obtain ⟨_, bolts, _⟩ := List.nodup_append.mp distinct
  have reversed : (spec.boltSpecs.reverse.map BoltSpec.name).Nodup := by
    rw [List.map_reverse]
    exact List.nodup_reverse.mpr bolts
  have found := List.find?_of_nodup_keys reversed
    (List.mem_reverse.mpr present)
  simp only [runname, List.findRev?_eq_find?_reverse, found]

/-! ## The requests of one call -/

/-- The `AddWorkerRequest` with the supervisor it is sent to. -/
structure AddWorkerRequest where
  supervisorId : String
  topoId : String
  name : String
  runname : String
  instanceNumber : Nat
  deriving DecidableEq

namespace Cluster

/-- The `ADD_WORKER` requests of `prepareTopology`. -/
def addWorkerRequests
    (cluster : Cluster) (topoId : String) (members : List String) :
    Option (List AddWorkerRequest) :=
  (cluster.assignTasks topoId members).map fun (_, requests) =>
    requests.map fun (id, name, count) =>
      { supervisorId := id
        topoId := topoId
        name := name
        runname := (cluster.spec topoId).runname name
        instanceNumber := count }

/-- A request is sent, followed and answered, and the answer is processed. -/
def exchange (cluster : Cluster) (request : AddWorkerRequest) : Cluster :=
  let (supervisor, reply) :=
    (cluster.supervisor request.supervisorId).addWorker request.supervisorId
      request.topoId request.runname request.name request.instanceNumber
  { nimbus :=
      { cluster.nimbus with
        topoStats :=
          Nimbus.processAddWorkerReply cluster.nimbus.topoStats reply }
    supervisor :=
      Function.update cluster.supervisor request.supervisorId supervisor }

/-- The workers of an assignment are created by exchanging the requests. -/
theorem foldl_addWorker
    {cluster : Cluster} {topoId : String} {spec : TopologySpec}
    (isSpec : cluster.spec topoId = spec)
    (requests : List (String × String × Nat)) :
    requests.foldl (addWorker topoId) cluster =
      (requests.map fun (id, name, count) =>
        (⟨id, topoId, name, spec.runname name, count⟩ :
          AddWorkerRequest)).foldl exchange cluster := by
  induction requests generalizing cluster with
  | nil => rfl
  | cons request requests inductionHypothesis =>
      have kept : (cluster.addWorker topoId request).spec topoId = spec :=
        (spec_addWorkers [request]).trans isSpec
      rw [List.foldl_cons, inductionHypothesis kept, List.map_cons,
        List.foldl_cons]
      subst isSpec
      rfl

/-- What `prepareTopology` does is to exchange these requests, before it
configures the connections. -/
theorem prepareTopology_eq_exchange
    {cluster next : Cluster} {topoId : String} {members : List String}
    (prepared : cluster.prepareTopology topoId members = some next) :
    ∃ requests executor,
      cluster.addWorkerRequests topoId members = some requests ∧
        next =
          ((requests.foldl exchange
            (cluster.assigning topoId members executor)).configureConnections
              topoId).setTopoStatus topoId .ready := by
  obtain ⟨assignment, executor, assigned, rfl⟩ :=
    exists_of_prepareTopology prepared
  have kept : (cluster.assigning topoId members executor).spec topoId =
      cluster.spec topoId :=
    TopoStats.getTopoSpec_setTopoStatus
  refine ⟨_, executor,
    Option.map_eq_some_iff.mpr ⟨_, assignTasks_of_assign assigned, rfl⟩, ?_⟩
  rw [foldl_addWorker kept]

end Cluster

/-- The instances that are requested of a name. -/
def instancesOf (requests : List AddWorkerRequest) (name : String) : Nat :=
  ((requests.filter fun request => request.name = name).map
    AddWorkerRequest.instanceNumber).sum

/-- The instances that are requested from a supervisor. -/
def instancesAt (requests : List AddWorkerRequest) (id : String) : Nat :=
  ((requests.filter fun request => request.supervisorId = id).map
    AddWorkerRequest.instanceNumber).sum

/-- The requests conserve the tasks of the specification and distribute them
evenly. -/
structure Balanced
    (spec : TopologySpec) (supervisors : List String)
    (requests : List AddWorkerRequest) : Prop where
  once : (requests.map fun request =>
    (request.supervisorId, request.name)).Nodup
  spouts : ∀ spout ∈ spec.spoutSpecs, instancesOf requests spout.name = 1
  bolts : ∀ bolt ∈ spec.boltSpecs,
    (instancesOf requests bolt.name : Int) = max bolt.paraLevel 0
  runnames : ∀ request ∈ requests,
    (∃ spout ∈ spec.spoutSpecs,
      spout.name = request.name ∧ spout.runname = request.runname) ∨
    ∃ bolt ∈ spec.boltSpecs,
      bolt.name = request.name ∧ bolt.runname = request.runname
  even : ∀ first ∈ supervisors, ∀ second ∈ supervisors,
    instancesAt requests first ≤ instancesAt requests second + 1

/-- The requests of an assignment in turns are balanced. -/
theorem balanced_of_assign
    {spec : TopologySpec} {supervisors : List String}
    {executor last topoId : String} {assignment : List (String × String)}
    (names : spec.names.Nodup) (distinct : supervisors.Nodup)
    (named : "" ∉ supervisors.dropLast)
    (assigned : Nimbus.assign supervisors executor spec.tasks =
      some (assignment, last)) :
    Balanced spec supervisors
      ((Nimbus.addRequests assignment).map fun (id, name, count) =>
        { supervisorId := id
          topoId := topoId
          name := name
          runname := spec.runname name
          instanceNumber := count }) := by
  have ofName (name : String) : instancesOf
      ((Nimbus.addRequests assignment).map fun (id, name, count) =>
        (⟨id, topoId, name, spec.runname name, count⟩ : AddWorkerRequest))
      name = spec.tasks.count name := by
    rw [← map_snd_assign assigned, ← sum_addRequests, instancesOf,
      List.sum_map_filter, List.map_map]
    rfl
  have atSupervisor (id : String) : instancesAt
      ((Nimbus.addRequests assignment).map fun (id, name, count) =>
        (⟨id, topoId, name, spec.runname name, count⟩ : AddWorkerRequest))
      id = (assignment.map Prod.fst).count id := by
    rw [← Nimbus.sum_addRequests_of_supervisor, instancesAt,
      List.sum_map_filter, List.map_map]
    rfl
  refine ⟨?_, ?_, ?_, ?_, ?_⟩
  · rw [List.map_map]
    exact Nimbus.nodup_addRequests assignment
  · intro spout isSpout
    rw [ofName]
    exact TopologySpec.count_tasks_spout names isSpout
  · intro bolt isBolt
    rw [ofName]
    exact TopologySpec.count_tasks_bolt names isBolt
  · intro request isRequest
    obtain ⟨⟨id, name, count⟩, sent, rfl⟩ := List.mem_map.mp isRequest
    have isTask := (Nimbus.mem_of_assign assigned
      (Nimbus.mem_of_mem_addRequests sent)).2
    rcases List.mem_append.mp (TopologySpec.mem_names_of_mem_tasks isTask)
      with isSpout | isBolt
    · obtain ⟨spout, present, rfl⟩ := List.mem_map.mp isSpout
      exact .inl ⟨spout, present, rfl,
        (TopologySpec.runname_spout names present).symm⟩
    · obtain ⟨bolt, present, rfl⟩ := List.mem_map.mp isBolt
      exact .inr ⟨bolt, present, rfl,
        (TopologySpec.runname_bolt names present).symm⟩
  · intro first isFirst second isSecond
    rw [atSupervisor, atSupervisor]
    exact Nimbus.count_assign_le distinct named assigned isFirst isSecond

/-- For every specification with distinct names, every list of distinct
supervisors and every executor that has been kept, the requests are
balanced. -/
theorem prepareTopology_balanced
    (cluster : Cluster) (topoId : String) (members supervisors : List String)
    (isList : (cluster.nimbus.updateSupervisors members).supervisors =
      supervisors)
    (someone : supervisors ≠ []) (distinct : supervisors.Nodup)
    (named : "" ∉ supervisors.dropLast)
    (names : (cluster.spec topoId).names.Nodup) :
    ∃ requests, cluster.addWorkerRequests topoId members = some requests ∧
      Balanced (cluster.spec topoId) supervisors requests := by
  obtain ⟨⟨assignment, last⟩, assigned⟩ :=
    Cluster.exists_assign someone cluster.nimbus.executor
      (cluster.spec topoId).tasks
  refine ⟨_, Option.map_eq_some_iff.mpr
    ⟨_, Cluster.assignTasks_of_assign (isList.symm ▸ assigned), rfl⟩, ?_⟩
  exact balanced_of_assign names distinct named assigned

/-- Nimbus on node "n", with a topology of one bolt. -/
def oneBolt (paraLevel : Int) (executor : String) : Cluster where
  nimbus :=
    { id := "n"
      topoStats := TopoStats.empty.set "t"
        { (default : TopologyTracker) with
          topoSpec :=
            { boltSpecs := [{ name := "b", paraLevel := paraLevel }] } }
      supervisors := []
      executor := executor }
  supervisor := fun _ => Supervisor.initial

theorem prepareTopology_balanced_three :
    ∃ requests, (oneBolt 3 "gone").addWorkerRequests "t" ["a", "n", "s"] =
        some requests ∧
      Balanced ((oneBolt 3 "gone").spec "t") ["a", "s"] requests :=
  prepareTopology_balanced (oneBolt 3 "gone") "t" ["a", "n", "s"] ["a", "s"]
    rfl (by decide) (by decide) (by decide) (by decide)

end Crane
end CraneSps
