import CraneSps.Foundation.Operators
import CraneSps.Streaming.Termination

/-!
# Topologies as graphs of operators

A topology need not be a pipeline: a task may have several parents and several
children, and a parent may be there twice.  If the tasks can be ordered, the
workers of a topology come to rest, and what each of its tasks has read and
written is what the graph of its operators says.
-/

namespace CraneSps
namespace Streaming

open Crane (Tuple InternalConnectionGroup ConnectionGroup GroupingScheme
  TopologySpec BoltSpec)

/-- The edges to a task: its parents, with their groupings. -/
def edges (spec : TopologySpec) (child : String) : List (String × String) :=
  spec.boltSpecs.flatMap fun bolt =>
    if bolt.name = child then bolt.parents else []

/-- One connection for each address. -/
def ofGroup (group : ConnectionGroup) : InternalConnectionGroup where
  childName := group.childName
  grouping := group.grouping
  connections := group.addresses

/-- The edges from one task to another are those of both. -/
theorem filter_connectionGroups
    (spec : TopologySpec) (addresses : String → List String)
    (parent child : String) :
    ((spec.connectionGroups addresses parent).filter fun group =>
        group.childName = child) =
      ((edges spec child).filter fun edge => edge.1 = parent).map fun edge =>
        ⟨child, edge.2, addresses child⟩ := by
  rw [TopologySpec.connectionGroups, edges, List.filter_flatMap,
    List.filter_flatMap, List.map_flatMap]
  apply List.flatMap_congr
  intro bolt _
  split
  · next isChild =>
      subst isChild
      apply List.filter_eq_self.mpr
      intro group isGroup
      obtain ⟨edge, _, rfl⟩ := List.mem_map.mp isGroup
      exact decide_eq_true rfl
  · next differs =>
      apply List.filter_eq_nil_iff.mpr
      intro group isGroup
      obtain ⟨edge, _, rfl⟩ := List.mem_map.mp isGroup
      exact fun same => differs (of_decide_eq_true same)

/-- The names of the tasks differ, their parents are tasks that come before
them, the groupings are known, and spouts have no parents. -/
structure Arranged
    (spec : TopologySpec) (isBolt : String → Bool) (rank : String → Nat)
    (height : Nat) : Prop where
  distinct : spec.names.Nodup
  parents : ∀ name ∈ spec.names, ∀ edge ∈ edges spec name,
    edge.1 ∈ spec.names ∧ rank edge.1 < rank name
  known : ∀ name ∈ spec.names, ∀ edge ∈ edges spec name,
    edge.2 = "ShuffleGrouping" ∨ edge.2 = "FieldGrouping"
  bolts : ∀ bolt ∈ spec.boltSpecs, isBolt bolt.name = true
  below : ∀ name ∈ spec.names, rank name < height

/-- The workers of every task have its class, and the connections that the
specification says. -/
structure Deployment.Follows
    (deployment : Deployment) (spec : TopologySpec)
    (workers : String → List String) (base : String → TopologyNodeBase)
    (isBolt : String → Bool) : Prop where
  roomy : 0 < deployment.capacity
  distinct : (spec.names.flatMap workers).Nodup
  someWorker : ∀ name ∈ spec.names, workers name ≠ []
  present : ∀ name ∈ spec.names, ∀ worker ∈ workers name,
    worker ∈ deployment.workers
  node : ∀ name ∈ spec.names, ∀ worker ∈ workers name,
    deployment.node worker = base name
  isBolt : ∀ name ∈ spec.names, ∀ worker ∈ workers name,
    deployment.isBolt worker = isBolt name
  groups : ∀ name ∈ spec.names, ∀ worker ∈ workers name,
    deployment.groups worker =
      (spec.connectionGroups workers name).map ofGroup
  others : ∀ worker, (∀ name ∈ spec.names, worker ∉ workers name) →
    deployment.groups worker = []
  covered : ∀ worker ∈ deployment.workers,
    ∃ name ∈ spec.names, worker ∈ workers name

/-- The ports of the workers of all tasks that lead to a task. -/
def portsTo
    (spec : TopologySpec) (workers : String → List String)
    (child : String) : List Port :=
  spec.names.flatMap fun parent =>
    (workers parent).flatMap fun worker =>
      ((spec.connectionGroups workers parent).zipIdx.filter fun group =>
        group.1.childName = child).map fun group => (worker, group.2)

theorem mem_portsTo_iff
    {spec : TopologySpec} {workers : String → List String} {child : String}
    {port : Port} :
    port ∈ portsTo spec workers child ↔
      ∃ parent ∈ spec.names, port.1 ∈ workers parent ∧
        ∃ group, (spec.connectionGroups workers parent)[port.2]? =
          some group ∧ group.childName = child := by
  obtain ⟨sender, index⟩ := port
  simp only [portsTo, List.mem_flatMap, List.mem_map, List.mem_filter,
    decide_eq_true_eq, Prod.mk.injEq, Prod.exists,
    List.mk_mem_zipIdx_iff_getElem?]
  constructor
  · rintro ⟨parent, isName, worker, isWorker, group, _, ⟨isGroup, isChild⟩,
      rfl, rfl⟩
    exact ⟨parent, isName, isWorker, group, isGroup, isChild⟩
  · rintro ⟨parent, isName, isWorker, group, isGroup, isChild⟩
    exact ⟨parent, isName, sender, isWorker, group, index,
      ⟨isGroup, isChild⟩, rfl, rfl⟩

/-- What the nodes of the ports write is what the parents write. -/
theorem Arranged.perm_portsTo
    {spec : TopologySpec} {isBolt : String → Bool} {rank : String → Nat}
    {height : Nat} (arranged : Arranged spec isBolt rank height)
    (workers : String → List String) {Item : Type}
    (part : String → List Item) {child : String}
    (isName : child ∈ spec.names) :
    ((portsTo spec workers child).flatMap fun port => part port.1).Perm
      ((edges spec child).flatMap fun edge =>
        (workers edge.1).flatMap part) := by
  have groups (parent worker : String) :
      ((((spec.connectionGroups workers parent).zipIdx.filter fun group =>
          group.1.childName = child).map
            fun group => ((worker, group.2) : Port)).flatMap
          fun port => part port.1) =
        ((edges spec child).filter fun edge => edge.1 = parent).flatMap
          fun _ => part worker := by
    have firsts : (((spec.connectionGroups workers parent).zipIdx.filter
        fun group => group.1.childName = child).map Prod.fst) =
        (spec.connectionGroups workers parent).filter fun group =>
          group.childName = child := by
      conv_rhs => rw [← List.zipIdx_map_fst 0
        (spec.connectionGroups workers parent), List.filter_map]
      rfl
    calc
      _ = ((spec.connectionGroups workers parent).filter fun group =>
          group.childName = child).flatMap fun _ => part worker := by
        rw [← firsts, List.flatMap_map, List.flatMap_map]
      _ = _ := by
        rw [filter_connectionGroups, List.flatMap_map]
  have cut := (List.perm_flatMap_filter Prod.fst (edges spec child)
    arranged.distinct).flatMap_right
      fun edge => (workers edge.1).flatMap part
  rw [List.filter_eq_self.mpr fun edge isEdge => decide_eq_true
    (arranged.parents child isName edge isEdge).1, List.flatMap_assoc] at cut
  refine List.Perm.trans ?_ cut
  rw [portsTo, List.flatMap_assoc]
  refine List.Perm.flatMap_left _ fun parent _ => ?_
  rw [List.flatMap_assoc]
  simp only [groups]
  refine (Dataflow.perm_flatMap_swap _ _ _).trans (List.Perm.of_eq ?_)
  apply List.flatMap_congr
  intro edge isEdge
  rw [of_decide_eq_true (List.mem_filter.mp isEdge).2]

/-- A group of a task belongs to an edge. -/
theorem exists_edge
    {spec : TopologySpec} {workers : String → List String} {parent : String}
    {group : ConnectionGroup}
    (isGroup : group ∈ spec.connectionGroups workers parent) :
    ∃ bolt ∈ spec.boltSpecs,
      (parent, group.grouping) ∈ edges spec bolt.name ∧
        group = ⟨bolt.name, group.grouping, workers bolt.name⟩ := by
  obtain ⟨bolt, isBolt, inBolt⟩ := List.mem_flatMap.mp isGroup
  obtain ⟨edge, isEdge, rfl⟩ := List.mem_map.mp inBolt
  obtain ⟨isParent, same⟩ := List.mem_filter.mp isEdge
  obtain rfl := of_decide_eq_true same
  refine ⟨bolt, isBolt, List.mem_flatMap.mpr ⟨bolt, isBolt, ?_⟩, rfl⟩
  rw [if_pos rfl]
  exact isParent

/-- A bolt is a task. -/
theorem name_mem_names
    {spec : TopologySpec} {bolt : BoltSpec} (isBolt : bolt ∈ spec.boltSpecs) :
    bolt.name ∈ spec.names :=
  List.mem_append_right _ (List.mem_map.mpr ⟨bolt, isBolt, rfl⟩)

namespace Deployment.Follows

variable {deployment : Deployment} {spec : TopologySpec}
variable {workers : String → List String} {base : String → TopologyNodeBase}
variable {isBolt : String → Bool} {rank : String → Nat} {height : Nat}
variable {name child worker : String}

variable (follows : deployment.Follows spec workers base isBolt)

include follows

/-- A worker belongs to one task. -/
theorem name_eq
    {other : String} (isName : name ∈ spec.names)
    (isOther : other ∈ spec.names) (inName : worker ∈ workers name)
    (inOther : worker ∈ workers other) : name = other := by
  by_contra differs
  have disjoint := (List.nodup_flatMap.mp follows.distinct).2
  have symmetric : Std.Symm (Function.onFun List.Disjoint workers) :=
    ⟨fun _ _ disjoint => disjoint.symm⟩
  exact disjoint.forall isName isOther differs inName inOther

/-- A group of a worker is that of a task. -/
theorem exists_group
    {index : Nat} {group : InternalConnectionGroup}
    (isGroup : (deployment.groups worker)[index]? = some group) :
    ∃ parent ∈ spec.names, worker ∈ workers parent ∧
      ∃ source, (spec.connectionGroups workers parent)[index]? =
        some source ∧ ofGroup source = group := by
  by_cases inSome : ∃ name ∈ spec.names, worker ∈ workers name
  · obtain ⟨parent, isName, isWorker⟩ := inSome
    rw [follows.groups parent isName worker isWorker, List.getElem?_map,
      Option.map_eq_some_iff] at isGroup
    exact ⟨parent, isName, isWorker, isGroup⟩
  · have nowhere : ∀ name ∈ spec.names, worker ∉ workers name :=
      fun name isName isWorker => inSome ⟨name, isName, isWorker⟩
    rw [follows.others worker nowhere] at isGroup
    cases isGroup

theorem nodup_portsTo (child : String) :
    (portsTo spec workers child).Nodup := by
  have names := List.nodup_flatMap.mp follows.distinct
  apply List.nodup_flatMap.mpr
  constructor
  · intro parent isName
    apply List.nodup_flatMap.mpr
    constructor
    · intro worker _
      have indices : (((spec.connectionGroups workers parent).zipIdx).map
          Prod.snd).Nodup := by
        rw [List.zipIdx_map_snd]
        exact List.nodup_range'
      refine List.Nodup.of_map Prod.snd ?_
      rw [List.map_map]
      exact indices.sublist ((List.filter_sublist).map Prod.snd)
    · refine (names.1 parent isName).imp fun differs => ?_
      intro port isFirst isSecond
      obtain ⟨_, _, rfl⟩ := List.mem_map.mp isFirst
      obtain ⟨_, _, same⟩ := List.mem_map.mp isSecond
      exact differs (Prod.mk.inj same).1.symm
  · refine names.2.imp fun disjoint => ?_
    intro port isFirst isSecond
    obtain ⟨first, inFirst, isFirst⟩ := List.mem_flatMap.mp isFirst
    obtain ⟨second, inSecond, isSecond⟩ := List.mem_flatMap.mp isSecond
    obtain ⟨_, _, rfl⟩ := List.mem_map.mp isFirst
    obtain ⟨_, _, same⟩ := List.mem_map.mp isSecond
    obtain ⟨rfl, _⟩ := Prod.mk.inj same
    exact disjoint inFirst inSecond

section Arranged

variable (arranged : Arranged spec isBolt rank height)

include arranged

/-- The ports that lead to a task feed its workers. -/
theorem feeds (isName : child ∈ spec.names) :
    deployment.Feeds (portsTo spec workers child) (workers child) where
  distinctPorts := follows.nodup_portsTo child
  distinctChildren := (List.nodup_flatMap.mp follows.distinct).1 child isName
  connected := follows.someWorker child isName
  groups := by
    intro port isPort
    obtain ⟨parent, isParent, isWorker, group, isGroup, rfl⟩ :=
      mem_portsTo_iff.mp isPort
    obtain ⟨bolt, isBolt, isEdge, sameGroup⟩ :=
      exists_edge (List.mem_of_getElem? isGroup)
    have sameName : group.childName = bolt.name :=
      congrArg ConnectionGroup.childName sameGroup
    have sameAddresses : group.addresses = workers bolt.name :=
      congrArg ConnectionGroup.addresses sameGroup
    refine ⟨ofGroup group, ?_, ?_, ?_⟩
    · rw [follows.groups parent isParent port.1 isWorker, List.getElem?_map,
        isGroup]
      rfl
    · exact arranged.known bolt.name (name_mem_names isBolt) _ isEdge
    · rw [sameName]
      exact sameAddresses
  only := by
    intro connection receiver isReceiver leads
    obtain ⟨found, isFound, isAddress⟩ := Option.bind_eq_some_iff.mp leads
    obtain ⟨parent, isParent, isWorker, group, isGroup, rfl⟩ :=
      follows.exists_group isFound
    obtain ⟨bolt, isBolt, _, sameGroup⟩ :=
      exists_edge (List.mem_of_getElem? isGroup)
    have inBolt : receiver ∈ workers bolt.name := by
      have isAddress := List.mem_of_getElem? isAddress
      rwa [sameGroup] at isAddress
    have same := follows.name_eq isName (name_mem_names isBolt) isReceiver
      inBolt
    exact mem_portsTo_iff.mpr ⟨parent, isParent, isWorker, group, isGroup,
      (congrArg ConnectionGroup.childName sameGroup).trans same.symm⟩

omit arranged in
/-- If all edges to a task use field grouping, so do the ports. -/
theorem byField
    (allFields : ∀ edge ∈ edges spec child, edge.2 = "FieldGrouping") :
    deployment.ByField (portsTo spec workers child) := by
  intro port isPort
  obtain ⟨parent, isParent, isWorker, group, isGroup, rfl⟩ :=
    mem_portsTo_iff.mp isPort
  obtain ⟨bolt, _, isEdge, sameGroup⟩ :=
    exists_edge (List.mem_of_getElem? isGroup)
  have sameName : group.childName = bolt.name :=
    congrArg ConnectionGroup.childName sameGroup
  refine ⟨ofGroup group, ?_, ?_⟩
  · rw [follows.groups parent isParent port.1 isWorker, List.getElem?_map,
      isGroup]
    rfl
  · rw [← sameName] at isEdge
    exact allFields _ isEdge

end Arranged

end Deployment.Follows

end Streaming
end CraneSps
