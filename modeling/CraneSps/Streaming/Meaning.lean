import CraneSps.Streaming.Computation

/-!
# Topologies compute what their graphs say

The workers of a topology follow its specification, and its classes behave like
operators.  So every task prints, up to the order, what the graph of the
operators says for what the spouts have emitted: some of it in every run, and
all of it when the workers have come to rest.
-/

namespace CraneSps
namespace Streaming

open Crane (Tuple InternalConnectionGroup GroupingScheme TopologySpec
  fieldRoute)

/-- Every class processes what it accepts, and produces what all children
accept. -/
structure Processes
    (spec : TopologySpec) (base : String → TopologyNodeBase)
    (isBolt : String → Bool) (accepts : String → Tuple → Prop) : Prop where
  runs : ∀ name ∈ spec.names, isBolt name = true → ∀ node tuple,
    accepts name tuple →
      ∃ next tuples, (base name).runOnTuple node tuple = some (next, tuples) ∧
        ∀ produced ∈ tuples, produced.data ≠ [] ∧
          ∀ child ∈ spec.names, ∀ edge ∈ edges spec child, edge.1 = name →
            accepts child produced
  spouts : ∀ name ∈ spec.names, isBolt name = false → ∀ node next tuple,
    (base name).nextTuple node = some (next, tuple) →
      tuple.data ≠ [] ∧
        ∀ child ∈ spec.names, ∀ edge ∈ edges spec child, edge.1 = name →
          accepts child tuple

/-- What a worker accepts. -/
def acceptedBy
    (spec : TopologySpec) (workers : String → List String)
    (accepts : String → Tuple → Prop) (worker : String) (tuple : Tuple) :
    Prop :=
  ∀ name ∈ spec.names, worker ∈ workers name → accepts name tuple

/-- The rank of the task of a worker. -/
def rankOf
    (spec : TopologySpec) (workers : String → List String)
    (rank : String → Nat) (worker : String) : Nat :=
  ((spec.names.find? fun name => worker ∈ workers name).map rank).getD 0

/-- All edges to a task use field grouping. -/
def allByField (spec : TopologySpec) (name : String) : Bool :=
  (edges spec name).all fun edge => edge.2 = "FieldGrouping"

/-- The graph of the operators of the tasks. -/
def operatorGraph
    (spec : TopologySpec) (behaviour : String → Behaviour) :
    Dataflow.OperatorGraph String Data where
  parents := fun name => (edges spec name).map Prod.fst
  operator := fun name => (behaviour name).operator

/-- What the workers of a task have in their histories. -/
def together
    (workers : List String) (part : String → List Tuple) : List Data :=
  (workers.flatMap part).map Tuple.data

/-- What the spouts have emitted. -/
def emitted
    (isBolt : String → Bool) (workers : String → List String)
    (history : History) (name : String) : Option (List Data) :=
  if isBolt name = true then none
  else some (together (workers name) fun worker => (history worker).produced)

/-- What a task prints for what the spouts have emitted. -/
def printedFor
    (graph : Dataflow.OperatorGraph String Data)
    (behaviour : String → Behaviour)
    (source : String → Option (List Data)) (height : Nat) (name : String) :
    List Data :=
  (graph.read source height name).flatMap (behaviour name).print

/-- A run of a class. -/
theorem exists_run
    {base other : TopologyNodeBase} (same : other = base)
    {consumed produced : List Tuple} {node : other.Fields}
    (runs : other.transducer.run consumed = some (node, produced)) :
    ∃ node, base.transducer.run consumed = some (node, produced) := by
  subst same
  exact ⟨node, runs⟩

theorem Behaves.outFile_eq
    {base other : TopologyNodeBase} {byField : Bool} {behaviour : Behaviour}
    (behaves : Behaves base byField behaviour) (same : other = base)
    {consumed produced : List Tuple} {node : other.Fields}
    (runs : other.transducer.run consumed = some (node, produced)) :
    other.outFile node =
      consumed.flatMap fun tuple => behaviour.print tuple.data := by
  subst same
  exact behaves.prints consumed node produced runs

namespace Deployment.Follows

variable {deployment : Deployment} {spec : TopologySpec}
variable {workers : String → List String} {base : String → TopologyNodeBase}
variable {isBolt : String → Bool} {rank : String → Nat} {height : Nat}
variable {accepts : String → Tuple → Prop}
variable {behaviour : String → Behaviour}
variable {name child worker : String}
variable {state : Deployment.State deployment} {history : History}

variable (follows : deployment.Follows spec workers base isBolt)

include follows

theorem rankOf_eq
    (isName : name ∈ spec.names) (isWorker : worker ∈ workers name)
    (rank : String → Nat) : rankOf spec workers rank worker = rank name := by
  cases found : spec.names.find? fun name => worker ∈ workers name with
  | none =>
      have nowhere := List.find?_eq_none.mp found name isName
      exact absurd (decide_eq_true isWorker) nowhere
  | some other =>
      have inOther := of_decide_eq_true (List.find?_some
        (p := fun name : String => decide (worker ∈ workers name)) found)
      have isOther := List.mem_of_find?_eq_some found
      rw [rankOf, found, follows.name_eq isName isOther isWorker inOther]
      rfl

/-- A group of a worker leads to a task with its task as a parent. -/
theorem exists_child
    {group : InternalConnectionGroup}
    (inGroups : group ∈ deployment.groups worker) :
    ∃ parent ∈ spec.names, worker ∈ workers parent ∧
      ∃ bolt ∈ spec.boltSpecs,
        (parent, group.grouping) ∈ edges spec bolt.name ∧
          group.connections = workers bolt.name := by
  obtain ⟨index, isGroup⟩ := List.mem_iff_getElem?.mp inGroups
  obtain ⟨parent, isParent, isWorker, source, isSource, rfl⟩ :=
    follows.exists_group isGroup
  obtain ⟨bolt, isBolt, isEdge, same⟩ :=
    exists_edge (List.mem_of_getElem? isSource)
  refine ⟨parent, isParent, isWorker, bolt, isBolt, isEdge, ?_⟩
  exact congrArg Crane.ConnectionGroup.addresses same

section Arranged

variable (arranged : Arranged spec isBolt rank height)

include arranged

theorem ranked :
    deployment.Ranked (rankOf spec workers rank) height where
  below := by
    intro worker isWorker
    obtain ⟨name, isName, inName⟩ := follows.covered worker isWorker
    rw [follows.rankOf_eq isName inName]
    exact arranged.below name isName
  raises := by
    intro connection receiver leads
    obtain ⟨group, isGroup, isReceiver⟩ := Option.bind_eq_some_iff.mp leads
    obtain ⟨parent, isParent, isSender, bolt, isBolt, isEdge, connections⟩ :=
      follows.exists_child (List.mem_of_getElem? isGroup)
    have inBolt := List.mem_of_getElem? isReceiver
    rw [connections] at inBolt
    rw [follows.rankOf_eq isParent isSender,
      follows.rankOf_eq (name_mem_names isBolt) inBolt]
    exact (arranged.parents bolt.name (name_mem_names isBolt) _ isEdge).2

theorem closed : deployment.Closed where
  roomy := follows.roomy
  known := by
    intro worker _ group inGroups
    obtain ⟨_, _, _, bolt, isBolt, isEdge, connections⟩ :=
      follows.exists_child inGroups
    refine ⟨arranged.known bolt.name (name_mem_names isBolt) _ isEdge, ?_⟩
    rw [connections]
    exact follows.someWorker bolt.name (name_mem_names isBolt)
  bolts := by
    intro worker _ group inGroups receiver isReceiver
    obtain ⟨_, _, _, bolt, isBolt, _, connections⟩ :=
      follows.exists_child inGroups
    rw [connections] at isReceiver
    have isName := name_mem_names isBolt
    refine ⟨follows.present _ isName receiver isReceiver, ?_⟩
    rw [follows.isBolt _ isName receiver isReceiver]
    exact arranged.bolts bolt isBolt

omit arranged in
/-- What all children of its task accept may be sent by a worker. -/
theorem sendable
    (isName : name ∈ spec.names) (isWorker : worker ∈ workers name)
    {tuple : Tuple} (someField : tuple.data ≠ [])
    (accepted : ∀ child ∈ spec.names, ∀ edge ∈ edges spec child,
      edge.1 = name → accepts child tuple) :
    deployment.Sendable (acceptedBy spec workers accepts) worker tuple := by
  refine ⟨someField, ?_⟩
  intro group inGroups receiver isReceiver other isOther inOther
  obtain ⟨parent, isParent, inParent, bolt, isBolt, isEdge, connections⟩ :=
    follows.exists_child inGroups
  rw [connections] at isReceiver
  have isChild := name_mem_names isBolt
  rw [follows.name_eq isOther isChild inOther isReceiver]
  exact accepted bolt.name isChild _ isEdge
    (follows.name_eq isParent isName inParent isWorker)

omit arranged in
theorem typed (processes : Processes spec base isBolt accepts) :
    deployment.Typed (acceptedBy spec workers accepts) where
  runs := by
    intro worker isWorker isBolt node tuple accepted
    obtain ⟨name, isName, inName⟩ := follows.covered worker isWorker
    have runs := processes.runs name isName
      ((follows.isBolt name isName worker inName).symm.trans isBolt)
    rw [← follows.node name isName worker inName] at runs
    obtain ⟨next, tuples, isRun, _⟩ :=
      runs node tuple (accepted name isName inName)
    rw [isRun]
    exact Option.some_ne_none _
  produces := by
    intro worker isWorker isBolt node tuple next tuples accepted isRun produced
      isProduced
    obtain ⟨name, isName, inName⟩ := follows.covered worker isWorker
    have runs := processes.runs name isName
      ((follows.isBolt name isName worker inName).symm.trans isBolt)
    rw [← follows.node name isName worker inName] at runs
    obtain ⟨other, others, alsoRun, accepts⟩ :=
      runs node tuple (accepted name isName inName)
    obtain ⟨_, rfl⟩ := Prod.mk.inj
      (Option.some.inj (isRun.symm.trans alsoRun))
    obtain ⟨someField, accepts⟩ := accepts produced isProduced
    exact follows.sendable isName inName someField accepts
  spouts := by
    intro worker isWorker isSpout node next tuple isNext
    obtain ⟨name, isName, inName⟩ := follows.covered worker isWorker
    have spouts := processes.spouts name isName
      ((follows.isBolt name isName worker inName).symm.trans isSpout)
    rw [← follows.node name isName worker inName] at spouts
    obtain ⟨someField, accepts⟩ := spouts node next tuple isNext
    exact follows.sendable isName inName someField accepts

/-! ## What the tasks read -/

section Reads

variable (accounted : Accounted state history)

include accounted

/-- A task has run on tuples that its parents have produced, on none of them
more often than there are edges. -/
theorem subperm_consumed (isName : child ∈ spec.names) :
    (together (workers child) fun worker => (history worker).consumed).Subperm
      (((edges spec child).map Prod.fst).flatMap fun parent =>
        together (workers parent) fun worker => (history worker).produced) := by
  have stage := accounted.stage (follows.feeds arranged isName)
  have fewer : ((workers child).flatMap fun worker =>
      (history worker).consumed).Sublist
      ((workers child).flatMap history.dataflow.read) := by
    apply List.Sublist.flatMap_right
    intro worker _
    rw [accounted.read_eq]
    exact List.sublist_append_left _ _
  have arrived := (fewer.subperm.trans stage.subperm_read).trans
    (arranged.perm_portsTo workers
      (fun worker => (history worker).produced) isName).subperm
  have fields := Dataflow.subperm_map arrived Tuple.data
  rw [List.map_flatMap (l := edges spec child)] at fields
  rw [List.flatMap_map]
  exact fields

/-- If nothing is on the way, it has run on all of them. -/
theorem perm_consumed (isName : child ∈ spec.names) (quiet : state.Quiet) :
    (together (workers child) fun worker => (history worker).consumed).Perm
      (((edges spec child).map Prod.fst).flatMap fun parent =>
        together (workers parent) fun worker => (history worker).produced) := by
  have feeds := follows.feeds arranged isName
  have all : ((workers child).flatMap fun worker =>
      (history worker).consumed) =
      (workers child).flatMap history.dataflow.read := by
    apply List.flatMap_congr
    intro worker _
    exact (accounted.consumed_of_quiet quiet worker).symm
  have arrived := ((accounted.stage feeds).perm_read_of_settled
    (accounted.settled feeds quiet)).trans
    (arranged.perm_portsTo workers
      (fun worker => (history worker).produced) isName)
  have fields := arrived.map Tuple.data
  rw [List.map_flatMap (l := edges spec child)] at fields
  rw [together, all, List.flatMap_map]
  exact fields

/-- With field grouping no first field comes to two workers of a task. -/
theorem apart (isName : child ∈ spec.names) (fields : allByField spec child) :
    Transducer.Apart firstField ((workers child).map fun worker =>
      ((history worker).consumed, (history worker).produced)) := by
  have feeds := follows.feeds arranged isName
  have keyed := accounted.keyed feeds
    (follows.byField fun edge isEdge =>
      of_decide_eq_true (List.all_eq_true.mp fields edge isEdge))
  have home {worker : String} (isWorker : worker ∈ workers child)
      {tuple : Tuple} (isConsumed : tuple ∈ (history worker).consumed) :
      fieldRoute (workers child) (firstField tuple) = worker := by
    have isRead : tuple ∈ history.dataflow.read worker := by
      rw [accounted.read_eq]
      exact List.mem_append_left _ isConsumed
    obtain ⟨entry, isEntry, rfl⟩ := List.mem_map.mp isRead
    exact keyed.home_of_mem_input (accounted.stage feeds) isWorker isEntry
  apply List.pairwise_map.mpr
  refine feeds.distinctChildren.imp_of_mem ?_
  intro first second isFirst isSecond differs tuple inFirst other inSecond same
  refine differs ?_
  rw [← home isFirst inFirst, same, home isSecond inSecond]

/-! ## What the tasks write and print -/

section Writes

variable (isName : name ∈ spec.names) (bolt : isBolt name = true)
variable (behaves : Behaves (base name) (allByField spec name)
  (behaviour name))

include isName bolt

omit arranged in
/-- The class of a task has been run on what a worker has consumed. -/
theorem run_consumed (isWorker : worker ∈ workers name) :
    (deployment.node worker).transducer.run (history worker).consumed =
      some ((state.child worker).node, (history worker).produced) :=
  (accounted.children worker).bolt
    ((follows.isBolt name isName worker isWorker).trans bolt)

include behaves

/-- The workers of a task have written what its operator says for what they
have run on. -/
theorem perm_produced :
    (together (workers name) fun worker => (history worker).produced).Perm
      ((behaviour name).operator.write
        (together (workers name) fun worker => (history worker).consumed)) := by
  have ran : (base name).transducer.Ran ((workers name).map fun worker =>
      ((history worker).consumed, (history worker).produced)) := by
    intro copy isCopy
    obtain ⟨worker, isWorker, rfl⟩ := List.mem_map.mp isCopy
    exact exists_run (follows.node name isName worker isWorker)
      (follows.run_consumed accounted isName bolt isWorker)
  have written := behaves.writes _ ran
    (follows.apart arranged accounted isName)
  rw [List.flatMap_map, List.flatMap_map] at written
  exact written

omit arranged in
/-- They have printed what they have run on. -/
theorem printed_eq :
    (workers name).flatMap state.printed =
      (together (workers name) fun worker =>
        (history worker).consumed).flatMap (behaviour name).print := by
  rw [together, List.flatMap_map, List.flatMap_assoc]
  apply List.flatMap_congr
  intro worker isWorker
  exact behaves.outFile_eq (follows.node name isName worker isWorker)
    (follows.run_consumed accounted isName bolt isWorker)

end Writes

section Solves

variable {related : List Data → List Data → Prop}
variable (compares : Dataflow.Compares related)
variable (behaves : ∀ name ∈ spec.names, isBolt name = true →
  Behaves (base name) (allByField spec name) (behaviour name))

include compares behaves

/-- If what the tasks have read is related to what their parents have written,
so is everything to the graph of the operators. -/
theorem solves
    {earlier : History}
    (same : ∀ worker, deployment.isBolt worker = false →
      (history worker).produced = (earlier worker).produced)
    (reads : ∀ name ∈ spec.names,
      related
        (together (workers name) fun worker => (history worker).consumed)
        (((edges spec name).map Prod.fst).flatMap fun parent =>
          together (workers parent) fun worker =>
            (history worker).produced)) :
    (operatorGraph spec behaviour).Solves (emitted isBolt workers earlier)
      related spec.names
      (fun name =>
        together (workers name) fun worker => (history worker).consumed)
      (fun name =>
        together (workers name) fun worker => (history worker).produced)
    where
  sources := by
    intro name isName tokens isSource
    obtain ⟨isSpout, isTokens⟩ := Option.ite_none_left_eq_some.mp isSource
    obtain rfl := Option.some.inj isTokens
    refine compares.perm (List.Perm.of_eq ?_)
    rw [together, together]
    refine congrArg _ (List.flatMap_congr fun worker isWorker => ?_)
    refine same worker ?_
    rw [follows.isBolt name isName worker isWorker]
    exact Bool.eq_false_of_not_eq_true isSpout
  writes := by
    intro name isName isOperator
    have bolt : isBolt name = true := by
      by_contra isSpout
      rw [emitted, if_neg isSpout] at isOperator
      cases isOperator
    exact compares.perm (follows.perm_produced arranged accounted isName bolt
      (behaves name isName bolt))
  reads := fun name isName _ => reads name isName

end Solves

end Reads

/-- In every run the tasks have printed some of what the graph of the operators
says for what the spouts have emitted.  If the spouts make no more steps, the
network comes to rest, and then they have printed all of it. -/
theorem computes
    (processes : Processes spec base isBolt accepts)
    (behaves : ∀ name ∈ spec.names, isBolt name = true →
      Behaves (base name) (allByField spec name) (behaviour name))
    {undefined : String → GroupingScheme} {trace : List Deployment.Action}
    (runs : (deployment.recorded undefined).Runs
      (deployment.recorded undefined).initial trace (state, history)) :
    let meaning := printedFor (operatorGraph spec behaviour) behaviour
      (emitted isBolt workers history) height
    (∀ name ∈ spec.names, isBolt name = true →
      ((workers name).flatMap state.printed).Subperm (meaning name)) ∧
      Levels.Inevitable (Deployment.State.BoltStep undefined)
        (fun finish => finish.Quiet ∧
          ∀ name ∈ spec.names, isBolt name = true →
            ((workers name).flatMap finish.printed).Perm (meaning name))
        state := by
  intro meaning
  let source := emitted isBolt workers history
  have closed := follows.closed arranged
  have typed := follows.typed processes
  have ordered : (operatorGraph spec behaviour).Ordered spec.names rank := by
    intro name isName parent isParent
    obtain ⟨edge, isEdge, rfl⟩ := List.mem_map.mp isParent
    exact arranged.parents name isName edge isEdge
  have isOperator {name : String} (bolt : isBolt name = true) :
      source name = none := if_pos bolt
  have sound := Sound.of_runs closed typed runs
  constructor
  · intro name isName bolt
    have solves := follows.solves arranged sound.accounted
      Dataflow.compares_subperm behaves (fun _ _ => rfl)
      fun _ isName => follows.subperm_consumed arranged sound.accounted isName
    rw [follows.printed_eq sound.accounted isName bolt
      (behaves name isName bolt)]
    exact Dataflow.subperm_flatMap (solves.read Dataflow.compares_subperm
      ordered isName (isOperator bolt) (arranged.below name isName).le) _
  · refine sound.inevitable closed typed (follows.ranked arranged)
      fun finish after sound quiet same => ⟨quiet, fun name isName bolt => ?_⟩
    have solves := follows.solves arranged sound.accounted
      Dataflow.compares_perm behaves same
      fun _ isName => follows.perm_consumed arranged sound.accounted isName
        quiet
    rw [follows.printed_eq sound.accounted isName bolt
      (behaves name isName bolt)]
    exact (solves.read Dataflow.compares_perm ordered isName
      (isOperator bolt) (arranged.below name isName).le).flatMap_right _

end Arranged

end Deployment.Follows

end Streaming
end CraneSps
