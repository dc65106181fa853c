import CraneSps.Streaming.Delivery

/-!
# Pipelines

The topologies that come with the program are pipelines: every task has one
parent, so the workers of a layer send everything to the workers of the next
layer and to no others.
-/

namespace CraneSps
namespace Streaming

open Crane (Tuple InternalConnectionGroup GroupingScheme destination_lt
  fieldRoute)

/-- The workers of a task, their class, and how they are fed. -/
structure Layer where
  workers : List String
  base : TopologyNodeBase
  isBolt : Bool
  grouping : String

/-- Every layer is connected to the next one. -/
structure Pipeline (deployment : Deployment) (layers : List Layer) :
    Prop where
  roomy : 0 < deployment.capacity
  distinct : (layers.flatMap Layer.workers).Nodup
  someWorker : ∀ layer ∈ layers, layer.workers ≠ []
  present : ∀ layer ∈ layers, ∀ worker ∈ layer.workers,
    worker ∈ deployment.workers
  node : ∀ layer ∈ layers, ∀ worker ∈ layer.workers,
    deployment.node worker = layer.base
  isBolt : ∀ layer ∈ layers, ∀ worker ∈ layer.workers,
    deployment.isBolt worker = layer.isBolt
  links : ∀ (index : Nat) (layer next : Layer),
    layers[index]? = some layer → layers[index + 1]? = some next →
      ∀ worker ∈ layer.workers, ∃ childName,
        deployment.groups worker =
          [⟨childName, next.grouping, next.workers⟩]
  last : ∀ (index : Nat) (layer : Layer), layers[index]? = some layer →
    layers[index + 1]? = none →
      ∀ worker ∈ layer.workers, deployment.groups worker = []
  others : ∀ worker, (∀ layer ∈ layers, worker ∉ layer.workers) →
    deployment.groups worker = []
  covered : ∀ worker ∈ deployment.workers, ∃ layer ∈ layers,
    worker ∈ layer.workers

/-- The ports of the workers of a layer. -/
def Layer.ports (layer : Layer) : List Port :=
  layer.workers.map fun worker => (worker, 0)

/-- An item of a list without duplicates is in one of its parts. -/
theorem index_unique
    {Item : Type} {parts : List (List Item)} (distinct : parts.flatten.Nodup)
    {first second : Nat} {part other : List Item} {item : Item}
    (isFirst : parts[first]? = some part)
    (isSecond : parts[second]? = some other)
    (inPart : item ∈ part) (inOther : item ∈ other) : first = second := by
  have disjoint := List.pairwise_iff_getElem.mp
    (List.nodup_flatten.mp distinct).2
  obtain ⟨firstInside, rfl⟩ := List.getElem?_eq_some_iff.mp isFirst
  obtain ⟨secondInside, rfl⟩ := List.getElem?_eq_some_iff.mp isSecond
  by_contra differs
  rcases Nat.lt_or_gt_of_ne differs with before | after
  · exact disjoint _ _ firstInside secondInside before inPart inOther
  · exact disjoint _ _ secondInside firstInside after inOther inPart

/-- The position of the layer of a worker. -/
def position (layers : List Layer) (worker : String) : Nat :=
  layers.findIdx fun layer : Layer => worker ∈ layer.workers

theorem position_eq
    {layers : List Layer} (distinct : (layers.flatMap Layer.workers).Nodup)
    {index : Nat} {layer : Layer} {worker : String}
    (isLayer : layers[index]? = some layer)
    (inLayer : worker ∈ layer.workers) : position layers worker = index := by
  have present := List.mem_of_getElem? isLayer
  have inside : position layers worker < layers.length :=
    List.findIdx_lt_length_of_exists
      ⟨layer, present, decide_eq_true inLayer⟩
  have found : worker ∈ (layers[position layers worker]).workers :=
    of_decide_eq_true (List.findIdx_getElem (w := inside))
  have atPosition : (layers.map Layer.workers)[position layers worker]? =
      some (layers[position layers worker]).workers := by
    rw [List.getElem?_map, List.getElem?_eq_getElem inside]
    rfl
  have atIndex : (layers.map Layer.workers)[index]? = some layer.workers := by
    rw [List.getElem?_map, isLayer]
    rfl
  rw [List.flatMap_def] at distinct
  exact index_unique distinct atPosition atIndex found inLayer

/-- The workers of some layers, which are connected to those of the next
layer. -/
def Deployment.ofLayers
    (default : TopologyNodeBase) (layers : List Layer) (capacity : Nat) :
    Deployment :=
  { workers := layers.flatMap Layer.workers
    node := fun worker =>
      (layers[position layers worker]?.map Layer.base).getD default
    isBolt := fun worker =>
      (layers[position layers worker]?.map Layer.isBolt).getD false
    groups := fun worker =>
      (layers[position layers worker + 1]?.map fun next =>
        [⟨"", next.grouping, next.workers⟩]).getD []
    capacity := capacity }

/-- They are a pipeline if they are distinct. -/
theorem pipeline_ofLayers
    (default : TopologyNodeBase) {layers : List Layer} {capacity : Nat}
    (roomy : 0 < capacity)
    (distinct : (layers.flatMap Layer.workers).Nodup)
    (someWorker : ∀ layer ∈ layers, layer.workers ≠ []) :
    Pipeline (.ofLayers default layers capacity) layers := by
  have position {index : Nat} {layer : Layer} {worker : String}
      (isLayer : layers[index]? = some layer)
      (inLayer : worker ∈ layer.workers) : position layers worker = index :=
    position_eq distinct isLayer inLayer
  have atIndex {layer : Layer} (isLayer : layer ∈ layers) :
      ∃ index, layers[index]? = some layer := List.mem_iff_getElem?.mp isLayer
  refine
    { roomy := roomy
      distinct := distinct
      someWorker := someWorker
      present := ?_
      node := ?_
      isBolt := ?_
      links := ?_
      last := ?_
      others := ?_
      covered := ?_ }
  · intro layer isLayer worker inLayer
    exact List.mem_flatMap.mpr ⟨layer, isLayer, inLayer⟩
  · intro layer isLayer worker inLayer
    obtain ⟨index, found⟩ := atIndex isLayer
    simp [Deployment.ofLayers, position found inLayer, found]
  · intro layer isLayer worker inLayer
    obtain ⟨index, found⟩ := atIndex isLayer
    simp [Deployment.ofLayers, position found inLayer, found]
  · intro index layer next isLayer isNext worker inLayer
    refine ⟨"", ?_⟩
    simp [Deployment.ofLayers, position isLayer inLayer, isNext]
  · intro index layer isLayer isLast worker inLayer
    simp [Deployment.ofLayers, position isLayer inLayer, isLast]
  · intro worker nowhere
    have none : Streaming.position layers worker = layers.length := by
      refine List.findIdx_eq_length_of_false fun layer isLayer => ?_
      exact decide_eq_false (nowhere layer isLayer)
    simp [Deployment.ofLayers, none]
  · intro worker isWorker
    exact List.mem_flatMap.mp isWorker

/-- A tuple is passed on by one worker and run on by another. -/
def pass (sender receiver : String) (index : Nat) :
    List Deployment.Action :=
  [.thread sender .pushOutData, .thread sender .popOutData,
    .thread sender (.createMessages fun _ => 0), .send sender,
    .recv receiver ((sender, 0), index), .thread receiver .pushInData,
    .thread receiver .popInData, .thread receiver .startRunning,
    .thread receiver .runOnTuple]

namespace Pipeline

variable {deployment : Deployment} {layers : List Layer}
variable {index : Nat} {layer next : Layer}

/-- A worker is in one layer. -/
theorem index_eq
    (pipeline : Pipeline deployment layers) {first second : Nat}
    {other : Layer} {worker : String}
    (isFirst : layers[first]? = some layer)
    (isSecond : layers[second]? = some other)
    (inFirst : worker ∈ layer.workers) (inSecond : worker ∈ other.workers) :
    first = second :=
  (position_eq pipeline.distinct isFirst inFirst).symm.trans
    (position_eq pipeline.distinct isSecond inSecond)

/-- A connection to a worker of a layer comes from the layer before. -/
theorem sender_of_address
    (pipeline : Pipeline deployment layers)
    (isLayer : layers[index]? = some layer)
    (isNext : layers[index + 1]? = some next) {connection : Connection}
    {child : String} (isChild : child ∈ next.workers)
    (leads : deployment.address connection = some child) :
    connection.1 ∈ layer.ports := by
  obtain ⟨⟨sender, number⟩, dest⟩ := connection
  obtain ⟨group, isGroup, isAddress⟩ := Option.bind_eq_some_iff.mp leads
  have inGroups := List.mem_of_getElem? isGroup
  by_cases inSome : ∃ layer ∈ layers, sender ∈ layer.workers
  · obtain ⟨parent, isParent, isSender⟩ := inSome
    obtain ⟨position, atPosition⟩ := List.mem_iff_getElem?.mp isParent
    cases after : layers[position + 1]? with
    | none =>
        rw [pipeline.last position parent atPosition after sender
          isSender] at inGroups
        cases inGroups
    | some follower =>
        obtain ⟨childName, groups⟩ := pipeline.links position parent follower
          atPosition after sender isSender
        dsimp only at isGroup
        rw [groups] at isGroup
        have isZero : number = 0 := by
          obtain ⟨inside, _⟩ := List.getElem?_eq_some_iff.mp isGroup
          exact Nat.lt_one_iff.mp inside
        subst isZero
        obtain rfl := Option.some.inj isGroup
        have inFollower : child ∈ follower.workers :=
          List.mem_of_getElem? isAddress
        have same := pipeline.index_eq after isNext inFollower isChild
        obtain rfl := Nat.succ.inj same
        obtain rfl := Option.some.inj (atPosition.symm.trans isLayer)
        exact List.mem_map.mpr ⟨sender, isSender, rfl⟩
  · have nowhere : ∀ layer ∈ layers, sender ∉ layer.workers :=
      fun layer isLayer isSender => inSome ⟨layer, isLayer, isSender⟩
    rw [pipeline.others sender nowhere] at inGroups
    cases inGroups

/-- The group of a worker of a layer. -/
theorem group_of_link
    (pipeline : Pipeline deployment layers)
    (isLayer : layers[index]? = some layer)
    (isNext : layers[index + 1]? = some next) {port : Port}
    (isPort : port ∈ layer.ports) :
    ∃ group, (deployment.groups port.1)[port.2]? = some group ∧
      group.grouping = next.grouping ∧ group.connections = next.workers := by
  obtain ⟨worker, isWorker, rfl⟩ := List.mem_map.mp isPort
  obtain ⟨childName, groups⟩ := pipeline.links index layer next isLayer isNext
    worker isWorker
  refine ⟨⟨childName, next.grouping, next.workers⟩, ?_, rfl, rfl⟩
  rw [groups]
  rfl

/-- The workers of a layer are distinct. -/
theorem nodup_workers
    (pipeline : Pipeline deployment layers)
    (isLayer : layers[index]? = some layer) : layer.workers.Nodup :=
  (List.nodup_flatMap.mp pipeline.distinct).1 layer
    (List.mem_of_getElem? isLayer)

/-- A layer feeds the next one. -/
theorem feeds
    (pipeline : Pipeline deployment layers)
    (isLayer : layers[index]? = some layer)
    (isNext : layers[index + 1]? = some next)
    (known : next.grouping = "ShuffleGrouping" ∨
      next.grouping = "FieldGrouping") :
    deployment.Feeds layer.ports next.workers where
  distinctPorts := (pipeline.nodup_workers isLayer).map
    fun _ _ same => (Prod.mk.inj same).1
  distinctChildren := pipeline.nodup_workers isNext
  connected := pipeline.someWorker next (List.mem_of_getElem? isNext)
  groups := by
    intro port isPort
    obtain ⟨group, isGroup, sameGrouping, sameConnections⟩ :=
      pipeline.group_of_link isLayer isNext isPort
    refine ⟨group, isGroup, ?_, sameConnections⟩
    rw [InternalConnectionGroup.Known, sameGrouping]
    exact known
  only := fun _ _ isChild leads =>
    pipeline.sender_of_address isLayer isNext isChild leads

theorem byField
    (pipeline : Pipeline deployment layers)
    (isLayer : layers[index]? = some layer)
    (isNext : layers[index + 1]? = some next)
    (isField : next.grouping = "FieldGrouping") :
    deployment.ByField layer.ports := by
  intro port isPort
  obtain ⟨group, isGroup, sameGrouping, _⟩ :=
    pipeline.group_of_link isLayer isNext isPort
  exact ⟨group, isGroup, sameGrouping.trans isField⟩

/-! ## What the layers run on -/

section Layers

variable (index) {state : Deployment.State deployment} {history : History}

/-- A layer has run on tuples that the layer before has produced, on none of
them twice. -/
theorem subperm_consumed
    (pipeline : Pipeline deployment layers)
    (accounted : Accounted state history)
    (isLayer : layers[index]? = some layer)
    (isNext : layers[index + 1]? = some next)
    (known : next.grouping = "ShuffleGrouping" ∨
      next.grouping = "FieldGrouping") :
    (next.workers.flatMap fun worker => (history worker).consumed).Subperm
      (layer.workers.flatMap fun worker => (history worker).produced) := by
  have stage := accounted.stage (pipeline.feeds isLayer isNext known)
  have arrived := stage.subperm_read
  rw [Layer.ports, List.flatMap_map] at arrived
  refine List.Subperm.trans ?_ arrived
  apply List.Sublist.subperm
  apply List.Sublist.flatMap_right
  intro worker _
  rw [accounted.read_eq]
  exact List.sublist_append_left _ _

/-- If nothing is on the way, it has run on all of them. -/
theorem perm_consumed
    (pipeline : Pipeline deployment layers)
    (accounted : Accounted state history) (quiet : state.Quiet)
    (isLayer : layers[index]? = some layer)
    (isNext : layers[index + 1]? = some next)
    (known : next.grouping = "ShuffleGrouping" ∨
      next.grouping = "FieldGrouping") :
    (next.workers.flatMap fun worker => (history worker).consumed).Perm
      (layer.workers.flatMap fun worker => (history worker).produced) := by
  have feeds := pipeline.feeds isLayer isNext known
  have arrived := (accounted.stage feeds).perm_read_of_settled
    (accounted.settled feeds quiet)
  rw [Layer.ports, List.flatMap_map] at arrived
  refine List.Perm.trans (List.Perm.of_eq ?_) arrived
  apply List.flatMap_congr
  intro worker _
  exact (accounted.consumed_of_quiet quiet worker).symm

/-- The class of a layer of bolts has been run on what its workers have
consumed. -/
theorem run_consumed
    (pipeline : Pipeline deployment layers)
    (accounted : Accounted state history)
    (isLayer : layers[index]? = some layer) (isBolt : layer.isBolt = true)
    {worker : String} (isWorker : worker ∈ layer.workers) :
    (deployment.node worker).transducer.run (history worker).consumed =
      some ((state.child worker).node, (history worker).produced) := by
  refine (accounted.children worker).bolt ?_
  rw [pipeline.isBolt layer (List.mem_of_getElem? isLayer) worker isWorker]
  exact isBolt

/-! ## First fields -/

variable (pipeline : Pipeline deployment layers)
variable (accounted : Accounted state history)
variable (isLayer : layers[index]? = some layer)
variable (isNext : layers[index + 1]? = some next)
variable (isField : next.grouping = "FieldGrouping")

include pipeline isNext in
/-- A first field has a worker in the layer. -/
theorem fieldRoute_mem (field : List UInt8) :
    fieldRoute next.workers field ∈ next.workers := by
  have inside := destination_lt (List.length_pos_iff.mpr
    (pipeline.someWorker next (List.mem_of_getElem? isNext))) field
  rw [fieldRoute, List.getD_eq_getElem?_getD, List.getElem?_eq_getElem inside,
    Option.getD_some]
  exact List.getElem_mem inside

include pipeline accounted isLayer isNext isField

/-- No other worker of the layer has run on a tuple with the first field. -/
theorem filter_consumed_of_ne
    {worker : String} (isWorker : worker ∈ next.workers) {field : List UInt8}
    (differs : worker ≠ fieldRoute next.workers field) :
    ((history worker).consumed.filter fun tuple =>
      firstField tuple = field) = [] := by
  have feeds := pipeline.feeds isLayer isNext (.inr isField)
  have keyed := accounted.keyed feeds (pipeline.byField isLayer isNext isField)
  have noTuple := keyed.filter_read_of_ne (accounted.stage feeds) isWorker
    differs
  rw [accounted.read_eq, List.filter_append,
    List.append_eq_nil_iff] at noTuple
  exact noTuple.1

/-- The workers of a layer have run on a first field as often as the one for
the field. -/
theorem count_consumed (field : List UInt8) :
    ((next.workers.flatMap fun worker => (history worker).consumed).map
        firstField).count field =
      ((history (fieldRoute next.workers field)).consumed.filter
        fun tuple => firstField tuple = field).length := by
  have only := Dataflow.flatMap_eq_of_unique
    (fun worker => (history worker).consumed.filter
      fun tuple => firstField tuple = field)
    (pipeline.nodup_workers isNext) (pipeline.fieldRoute_mem index isNext field)
    fun worker isWorker differs => pipeline.filter_consumed_of_ne index
      accounted isLayer isNext isField isWorker differs
  rw [← only, ← List.filter_flatMap, List.count, List.countP_map,
    List.countP_eq_length_filter]
  congr 1
  apply List.filter_congr
  intro tuple _
  simp [Bool.beq_eq_decide_eq]

variable {sender : String} {field : List UInt8}

omit pipeline accounted isLayer isNext isField index next in
/-- No other port of the layer has the first field. -/
theorem only_ports
    (only : ∀ other ∈ layer.workers, other ≠ sender →
      ∀ tuple ∈ (history other).produced, firstField tuple ≠ field) :
    ∀ port ∈ layer.ports, port ≠ (sender, 0) →
      ∀ tuple ∈ history.dataflow.output (deployment.shape.source port),
        firstField tuple ≠ field := by
  rintro port isPort differs tuple
  obtain ⟨other, isOther, rfl⟩ := List.mem_map.mp isPort
  refine only other isOther ?_ tuple
  rintro rfl
  exact differs rfl

/-- If one worker is the only one that produces a first field, the next layer
runs on its tuples in their order. -/
theorem prefix_consumed
    (isSender : sender ∈ layer.workers)
    (only : ∀ other ∈ layer.workers, other ≠ sender →
      ∀ tuple ∈ (history other).produced, firstField tuple ≠ field) :
    ((history (fieldRoute next.workers field)).consumed.filter
        fun tuple => firstField tuple = field) <+:
      (history sender).produced.filter
        fun tuple => firstField tuple = field := by
  have feeds := pipeline.feeds isLayer isNext (.inr isField)
  have keyed := accounted.keyed feeds (pipeline.byField isLayer isNext isField)
  have arrived := keyed.prefix_read (accounted.stage feeds)
    (List.mem_map.mpr ⟨sender, isSender, rfl⟩) (only_ports only)
  rw [accounted.read_eq, List.filter_append] at arrived
  exact (List.prefix_append _ _).trans arrived

/-- If nothing is on the way, it has run on all of them. -/
theorem consumed_of_settled
    (quiet : state.Quiet) (isSender : sender ∈ layer.workers)
    (only : ∀ other ∈ layer.workers, other ≠ sender →
      ∀ tuple ∈ (history other).produced, firstField tuple ≠ field) :
    ((history (fieldRoute next.workers field)).consumed.filter
        fun tuple => firstField tuple = field) =
      (history sender).produced.filter
        fun tuple => firstField tuple = field := by
  have feeds := pipeline.feeds isLayer isNext (.inr isField)
  have keyed := accounted.keyed feeds (pipeline.byField isLayer isNext isField)
  have arrived := keyed.read_of_settled (accounted.stage feeds)
    (accounted.settled feeds quiet)
    (List.mem_map.mpr ⟨sender, isSender, rfl⟩) (only_ports only)
  rw [accounted.consumed_of_quiet quiet] at arrived
  exact arrived

end Layers

end Pipeline

end Streaming
end CraneSps
