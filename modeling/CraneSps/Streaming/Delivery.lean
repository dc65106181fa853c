import CraneSps.Foundation.Dataflow
import CraneSps.Streaming.Accounting

/-!
# Delivery

A network is a dataflow, so everything that is known of dataflows holds for
its workers.  What a worker has produced has been delivered to one worker of
every group or is on the way to one, and a group with field grouping delivers
the tuples with a first field in their order.
-/

namespace CraneSps
namespace Streaming

open Crane (Tuple CraneTuple InternalConnectionGroup GroupingScheme)

namespace Deployment

variable (deployment : Deployment)

/-- The ports of a deployment, and where they lead to. -/
def shape : Dataflow.Shape String Port where
  source := Prod.fst
  size := fun port =>
    ((deployment.groups port.1)[port.2]?.map fun group =>
      group.connections.length).getD 0
  target := fun port index => (deployment.address (port, index)).getD ""

/-- All groups that lead to some workers lead to the same list of them. -/
structure Feeds
    (ports : List Port) (children : List String) : Prop where
  distinctPorts : ports.Nodup
  distinctChildren : children.Nodup
  connected : children ≠ []
  groups : ∀ port ∈ ports, ∃ group,
    (deployment.groups port.1)[port.2]? = some group ∧ group.Known ∧
      group.connections = children
  only : ∀ (connection : Connection), ∀ child ∈ children,
    deployment.address connection = some child → connection.1 ∈ ports

/-- All groups use field grouping. -/
def ByField (ports : List Port) : Prop :=
  ∀ port ∈ ports, ∃ group,
    (deployment.groups port.1)[port.2]? = some group ∧
      group.grouping = "FieldGrouping"

variable {deployment}

/-- Nothing is on the way, and nothing is left to do for a bolt. -/
structure State.Quiet (state : State deployment) : Prop where
  inData : ∀ worker, (state.child worker).inData = []
  outData : ∀ worker, (state.child worker).outData = []
  received : ∀ worker, (state.child worker).received = []
  localStream : ∀ worker, (state.child worker).localStream = []
  emitting : ∀ worker, (state.child worker).emitting = []
  batch : ∀ worker, (state.child worker).batch = []
  outgoing : ∀ worker, (state.child worker).outgoing = []
  channel : ∀ connection, state.channel connection = []

/-- What is on the way to a connection. -/
def State.inTransit (state : State deployment) (connection : Connection) :
    List Tuple :=
  (state.channel connection).flatten.map ofMessage ++
    ((state.child connection.1.1).outgoing.group
      (connection.1.2, connection.2)).flatten.map ofMessage

end Deployment

/-- What a worker has produced but not given to its groups. -/
def ChildImpl.unsent {Fields : Type} (child : ChildImpl Fields) :
    List Tuple :=
  child.batch ++ child.outData ++ child.emitting

/-- What a worker has received but not run on. -/
def ChildImpl.waiting {Fields : Type} (child : ChildImpl Fields) :
    List Tuple :=
  child.localStream ++ child.inData ++ child.received

/-- The field that field grouping looks at. -/
def firstField (tuple : Tuple) : List UInt8 :=
  tuple.data.headD []

/-- The histories as those of a dataflow. -/
def History.dataflow (history : History) :
    Dataflow.History String Port Tuple where
  input := fun worker => (history worker).arrived
  output := fun worker => (history worker).produced
  routes := fun port => (history port.1).assigned port.2

section Shapes

variable {deployment : Deployment} {port : Port}
variable {group : InternalConnectionGroup} {index : Nat}

theorem size_shape
    (isGroup : (deployment.groups port.1)[port.2]? = some group) :
    deployment.shape.size port = group.connections.length := by
  simp [Deployment.shape, isGroup]

/-- The connections of a group lead to its addresses. -/
theorem address_eq_getElem?
    (isGroup : (deployment.groups port.1)[port.2]? = some group) :
    deployment.address (port, index) = group.connections[index]? := by
  simp [Deployment.address, isGroup]

theorem address_eq_target
    (isGroup : (deployment.groups port.1)[port.2]? = some group)
    (inside : index < group.connections.length) :
    deployment.address (port, index) =
      some (deployment.shape.target port index) := by
  simp [Deployment.shape, address_eq_getElem? isGroup, inside]

end Shapes

namespace Accounted

variable {deployment : Deployment} {state : Deployment.State deployment}
variable {history : History} {worker : String}
variable {ports : List Port} {children : List String}

/-- What has been received and what waits. -/
theorem read_eq (accounted : Accounted state history) (worker : String) :
    history.dataflow.read worker =
      (history worker).consumed ++ (state.child worker).waiting := by
  refine (accounted.children worker).arrived.trans ?_
  simp [ChildImpl.waiting]

theorem produced_eq (accounted : Accounted state history) (worker : String) :
    (history worker).produced =
      (history worker).sent ++ (state.child worker).unsent := by
  refine (accounted.children worker).produced.trans ?_
  simp [ChildImpl.unsent]

/-- What has been given to a connection has been received or is on the way. -/
theorem routes_eq
    (accounted : Accounted state history) {connection : Connection}
    (leads : deployment.address connection = some worker) :
    (history.dataflow.routes connection.1).group connection.2 =
      (history.dataflow.input worker).group connection ++
        state.inTransit connection := by
  refine (accounted.inOrder connection worker leads).trans ?_
  simp [History.dataflow, Deployment.State.inTransit]

/-- In every run a network is a dataflow. -/
theorem stage
    (accounted : Accounted state history)
    (feeds : deployment.Feeds ports children) :
    Dataflow.Stage deployment.shape history.dataflow ports children where
  distinctPorts := feeds.distinctPorts
  distinctChildren := feeds.distinctChildren
  leads := by
    intro port isPort index inside
    obtain ⟨group, isGroup, _, rfl⟩ := feeds.groups port isPort
    rw [size_shape isGroup] at inside
    simp [Deployment.shape, address_eq_getElem? isGroup, inside]
  origin := by
    intro child isChild entry isEntry
    have leads := accounted.origin child entry isEntry
    have isPort := feeds.only entry.1 child isChild leads
    obtain ⟨group, isGroup, _, _⟩ := feeds.groups entry.1.1 isPort
    have found := leads
    rw [address_eq_getElem? isGroup] at found
    obtain ⟨inside, _⟩ := List.getElem?_eq_some_iff.mp found
    refine ⟨isPort, ?_, ?_⟩
    · rw [size_shape isGroup]
      exact inside
    · simp [Deployment.shape, leads]
  inside := by
    intro port isPort route isRoute
    obtain ⟨group, isGroup, _, rfl⟩ := feeds.groups port isPort
    rw [size_shape isGroup]
    exact (accounted.children port.1).inside port.2 group isGroup
      feeds.connected route isRoute
  sent := by
    intro port isPort
    obtain ⟨group, isGroup, known, _⟩ := feeds.groups port isPort
    have assigned :=
      (accounted.children port.1).assigned port.2 group isGroup known
    refine ⟨(state.child port.1).unsent, ?_⟩
    exact (congrArg (· ++ _) assigned).trans
      (accounted.produced_eq port.1).symm
  inOrder := by
    intro port isPort index inside
    obtain ⟨group, isGroup, _, _⟩ := feeds.groups port isPort
    rw [size_shape isGroup] at inside
    exact ⟨_, (accounted.routes_eq (address_eq_target isGroup inside)).symm⟩

/-- What has been received has been given to the connection. -/
theorem mem_assigned
    (accounted : Accounted state history) {entry : Connection × Tuple}
    (isEntry : entry ∈ (history worker).arrived) :
    (entry.1.2, entry.2) ∈
      (history entry.1.1.1).assigned entry.1.1.2 := by
  apply List.mem_group_iff.mp
  rw [accounted.inOrder _ _ (accounted.origin worker entry isEntry),
    List.append_assoc]
  exact List.mem_append_left _ (List.mem_group_iff.mpr isEntry)

/-- If nothing is on the way in the network, nothing is on the way in the
dataflow. -/
theorem settled
    (accounted : Accounted state history)
    (feeds : deployment.Feeds ports children) (quiet : state.Quiet) :
    Dataflow.Settled deployment.shape history.dataflow ports where
  sent := by
    intro port isPort
    obtain ⟨group, isGroup, known, _⟩ := feeds.groups port isPort
    have produced := accounted.produced_eq port.1
    have nothing : (state.child port.1).unsent = [] := by
      rw [ChildImpl.unsent, quiet.batch, quiet.outData, quiet.emitting]
      rfl
    rw [nothing] at produced
    refine ((accounted.children port.1).assigned port.2 group isGroup
      known).trans ?_
    exact (produced.trans (List.append_nil _)).symm
  arrived := by
    intro port isPort index inside
    obtain ⟨group, isGroup, _, _⟩ := feeds.groups port isPort
    rw [size_shape isGroup] at inside
    have routes := accounted.routes_eq (address_eq_target isGroup inside)
    rw [Deployment.State.inTransit, quiet.channel, quiet.outgoing] at routes
    exact (routes.trans (List.append_nil _)).symm

/-- If nothing is on the way, everything that has been received has been run
on. -/
theorem consumed_of_quiet
    (accounted : Accounted state history) (quiet : state.Quiet)
    (worker : String) :
    history.dataflow.read worker = (history worker).consumed := by
  rw [accounted.read_eq, ChildImpl.waiting, quiet.localStream, quiet.inData,
    quiet.received]
  exact List.append_nil _

/-- With field grouping the first field determines the worker. -/
theorem keyed
    (accounted : Accounted state history)
    (feeds : deployment.Feeds ports children)
    (byField : deployment.ByField ports) :
    Dataflow.Keyed deployment.shape history.dataflow ports
      firstField
      (fun _ field => Crane.destination field children.length)
      (Crane.fieldRoute children) where
  chosen := by
    intro port isPort route isRoute
    obtain ⟨group, isGroup, _, rfl⟩ := feeds.groups port isPort
    obtain ⟨other, alsoGroup, isField⟩ := byField port isPort
    obtain rfl := Option.some.inj (isGroup.symm.trans alsoGroup)
    exact (accounted.children port.1).hashed port.2 group isGroup isField
      route isRoute
  inside := by
    intro port isPort field
    obtain ⟨group, isGroup, _, rfl⟩ := feeds.groups port isPort
    rw [size_shape isGroup]
    exact Crane.destination_lt (List.length_pos_iff.mpr feeds.connected) field
  leads := by
    intro port isPort field
    obtain ⟨group, isGroup, _, rfl⟩ := feeds.groups port isPort
    change (deployment.address (port, _)).getD "" = _
    rw [address_eq_getElem? isGroup, Crane.fieldRoute,
      List.getD_eq_getElem?_getD]

end Accounted

/-! ## The tuples of one group -/

section Groups

variable {deployment : Deployment} {state : Deployment.State deployment}
variable {history : History} {port : Port} {group : InternalConnectionGroup}

/-- What the workers of a group have received from it. -/
def delivered
    (deployment : Deployment) (history : History) (port : Port) :
    List Tuple :=
  (List.range (deployment.shape.size port)).flatMap fun index =>
    (history (deployment.shape.target port index)).arrived.group (port, index)

/-- What is on the way from a worker to a group. -/
def onTheWay
    (state : Deployment.State deployment) (port : Port) : List Tuple :=
  ((List.range (deployment.shape.size port)).flatMap fun index =>
      state.inTransit (port, index)) ++
    (state.child port.1).unsent

/-- Everything that a worker has produced has been delivered to one worker of
the group or is on the way to it. -/
theorem Accounted.perm_produced
    (accounted : Accounted state history)
    (isGroup : (deployment.groups port.1)[port.2]? = some group)
    (known : group.Known) (connected : group.connections ≠ []) :
    (history port.1).produced.Perm
      (delivered deployment history port ++ onTheWay state port) := by
  have assigned :=
    (accounted.children port.1).assigned port.2 group isGroup known
  have distinct : (List.range group.connections.length).Nodup :=
    List.nodup_range
  have cut := Dataflow.perm_flatMap_group
    ((history port.1).assigned port.2) distinct
    fun route isRoute => List.mem_range.mpr
      ((accounted.children port.1).inside port.2 group isGroup connected route
        isRoute)
  have parts : ((List.range group.connections.length).flatMap fun index =>
      ((history port.1).assigned port.2).group index) =
      (List.range group.connections.length).flatMap fun index =>
        (history (deployment.shape.target port index)).arrived.group
            (port, index) ++
          state.inTransit (port, index) := by
    apply List.flatMap_congr
    intro index isIndex
    exact accounted.routes_eq
      (address_eq_target isGroup (List.mem_range.mp isIndex))
  rw [accounted.produced_eq, ← assigned, delivered, onTheWay,
    size_shape isGroup, ← List.append_assoc]
  refine (cut.symm.trans ?_).append_right _
  rw [parts]
  exact (List.flatMap_append_perm _ _ _).symm

/-- With field grouping the tuples with a first field are in one queue, which
leads from their worker to one worker of the group. -/
theorem Accounted.filter_produced
    (accounted : Accounted state history)
    (isGroup : (deployment.groups port.1)[port.2]? = some group)
    (isField : group.grouping = "FieldGrouping")
    (connected : group.connections ≠ []) (field : List UInt8) :
    (history port.1).produced.filter
        (fun tuple => firstField tuple = field) =
      ((history (Crane.fieldRoute group.connections field)).arrived.group
          (port, Crane.destination field group.connections.length) ++
        state.inTransit
          (port, Crane.destination field group.connections.length) ++
        (state.child port.1).unsent).filter
          fun tuple => firstField tuple = field := by
  have inside := Crane.destination_lt (List.length_pos_iff.mpr connected) field
  have leads : deployment.address
      (port, Crane.destination field group.connections.length) =
      some (Crane.fieldRoute group.connections field) := by
    rw [address_eq_getElem? isGroup, Crane.fieldRoute,
      List.getD_eq_getElem?_getD, List.getElem?_eq_getElem inside,
      Option.getD_some]
  have assigned := (accounted.children port.1).assigned port.2 group isGroup
    (.inr isField)
  have chosen := Dataflow.filter_group_of_chosen firstField
    (fun field => Crane.destination field group.connections.length)
    ((accounted.children port.1).hashed port.2 group isGroup isField) field
  rw [accounted.produced_eq, ← assigned, List.filter_append, ← chosen,
    List.filter_append]
  exact congrArg (fun routed => List.filter _ routed ++ _)
    (accounted.routes_eq leads)

/-- No other worker has received a tuple with the first field. -/
theorem Accounted.eq_fieldRoute
    (accounted : Accounted state history)
    (isGroup : (deployment.groups port.1)[port.2]? = some group)
    (isField : group.grouping = "FieldGrouping") {worker : String}
    {entry : Connection × Tuple}
    (isEntry : entry ∈ (history worker).arrived) (isPort : entry.1.1 = port) :
    worker = Crane.fieldRoute group.connections (firstField entry.2) := by
  have leads := accounted.origin worker entry isEntry
  have routed := accounted.mem_assigned isEntry
  obtain ⟨⟨_, index⟩, tuple⟩ := entry
  obtain rfl := isPort
  have hashed := (accounted.children _).hashed _ group isGroup isField _ routed
  rw [address_eq_getElem? isGroup] at leads
  dsimp only at hashed leads
  rw [hashed, Tuple.hashed] at leads
  rw [Crane.fieldRoute, firstField, List.getD_eq_getElem?_getD, leads,
    Option.getD_some]

end Groups

/-! ## Runs -/

section Runs

variable {undefined : String → GroupingScheme} {deployment : Deployment}
variable {trace : List Deployment.Action}
variable {state : Deployment.State deployment} {history : History}

/-- In every run everything that a worker has produced has been delivered once
to a group or is on the way to it, and what has been delivered has been run on
once or waits. -/
theorem exactlyOnce
    (undefined : String → GroupingScheme) (deployment : Deployment)
    (trace : List Deployment.Action) (state : Deployment.State deployment)
    (history : History)
    (runs : (deployment.recorded undefined).Runs
      (deployment.recorded undefined).initial trace (state, history))
    (port : Port) (group : InternalConnectionGroup)
    (isGroup : (deployment.groups port.1)[port.2]? = some group)
    (known : group.Known) (connected : group.connections ≠ []) :
    (history port.1).produced.Perm
        (delivered deployment history port ++ onTheWay state port) ∧
      ∀ receiver ∈ group.connections,
        (history receiver).arrived.map Prod.snd =
          (history receiver).consumed ++ (state.child receiver).waiting := by
  have accounted := Accounted.of_runs runs
  exact ⟨accounted.perm_produced isGroup known connected,
    fun receiver _ => accounted.read_eq receiver⟩

/-- A class whose spout emits one tuple again and again. -/
def ticking : TopologyNodeBase where
  Fields := Unit
  createObject := ()
  runOnTuple := fun _ _ => some ((), [])
  nextTuple := fun _ => some ((), { id := 0, data := [[1]] })

/-- A spout and a bolt. -/
def ticker : Deployment where
  workers := ["s", "b"]
  node := fun _ => ticking
  isBolt := fun worker => worker = "b"
  groups := fun worker =>
    if worker = "s" then [⟨"b", "FieldGrouping", ["b"]⟩] else []
  capacity := 1

/-- The bolt receives a tuple and takes it from its queue. -/
def tick : List Deployment.Action :=
  [.thread "s" .nextTuple, .thread "s" .pushOutData, .thread "s" .popOutData,
    .thread "s" (.createMessages fun _ => 0), .send "s",
    .recv "b" (("s", 0), 0), .thread "b" .pushInData, .thread "b" .popInData]

theorem exists_tick :
    ∃ state history, (ticker.recorded fun _ => .default).Runs
      (ticker.recorded fun _ => .default).initial tick (state, history) := by
  have isSome : ((ticker.recorded fun _ => .default).run
      (ticker.recorded fun _ => .default).initial tick).isSome = true := by
    decide +kernel
  obtain ⟨⟨state, history⟩, runs⟩ := Option.isSome_iff_exists.mp isSome
  exact ⟨state, history, runs⟩

theorem exactlyOnce_ticker :
    ∃ state history, (ticker.recorded fun _ => .default).Runs
        (ticker.recorded fun _ => .default).initial tick (state, history) ∧
      (history "s").produced.Perm
        (delivered ticker history ("s", 0) ++ onTheWay state ("s", 0)) := by
  obtain ⟨state, history, runs⟩ := exists_tick
  exact ⟨state, history, runs, (exactlyOnce _ ticker tick state history runs
    ("s", 0) ⟨"b", "FieldGrouping", ["b"]⟩ rfl (.inr rfl) nofun).1⟩

/-- In every run the tuples of a worker with one first field are in one queue:
they arrive at one worker of a group with field grouping and at no other, in
the order in which they have been produced, and the rest of them is on the way
to it. -/
theorem fieldGrouping_inOrder
    (undefined : String → GroupingScheme) (deployment : Deployment)
    (trace : List Deployment.Action) (state : Deployment.State deployment)
    (history : History)
    (runs : (deployment.recorded undefined).Runs
      (deployment.recorded undefined).initial trace (state, history))
    (port : Port) (group : InternalConnectionGroup)
    (isGroup : (deployment.groups port.1)[port.2]? = some group)
    (isField : group.grouping = "FieldGrouping")
    (connected : group.connections ≠ []) (field : List UInt8) :
    (history port.1).produced.filter
        (fun tuple => firstField tuple = field) =
      ((history (Crane.fieldRoute group.connections field)).arrived.group
          (port, Crane.destination field group.connections.length) ++
        state.inTransit
          (port, Crane.destination field group.connections.length) ++
        (state.child port.1).unsent).filter
          (fun tuple => firstField tuple = field) ∧
      ∀ worker, worker ≠ Crane.fieldRoute group.connections field →
        ∀ entry ∈ (history worker).arrived, entry.1.1 = port →
          firstField entry.2 ≠ field := by
  have accounted := Accounted.of_runs runs
  refine ⟨accounted.filter_produced isGroup isField connected field, ?_⟩
  rintro worker differs entry isEntry isPort rfl
  exact differs (accounted.eq_fieldRoute isGroup isField isEntry isPort)

theorem fieldGrouping_inOrder_ticker :
    ∃ state history, (ticker.recorded fun _ => .default).Runs
        (ticker.recorded fun _ => .default).initial tick (state, history) ∧
      ∀ worker, worker ≠ Crane.fieldRoute ["b"] [1] →
        ∀ entry ∈ (history worker).arrived, entry.1.1 = ("s", 0) →
          firstField entry.2 ≠ [1] := by
  obtain ⟨state, history, runs⟩ := exists_tick
  exact ⟨state, history, runs, (fieldGrouping_inOrder _ ticker tick state
    history runs ("s", 0) ⟨"b", "FieldGrouping", ["b"]⟩ rfl rfl nofun
    [1]).2⟩

end Runs

end Streaming
end CraneSps
