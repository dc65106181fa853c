import CraneSps.Crane.TopologyBuilder
import CraneSps.Foundation.BreadthFirst
import CraneSps.Foundation.RunLength

/-!
# Compilation of a topology

The node map of a builder represents what its calls have declared.  The two
loops of `buildTopology` are a breadth-first search from the spouts that
records every edge it meets, so that exactly the reachable bolts are compiled,
each with all its edges from reachable parents.
-/

namespace CraneSps
namespace Crane

namespace Declarations

variable {declared : Declarations} {id : String}

/-- A spout as a node. -/
def ofSpout (spout : SpoutSpec) : BoltDeclaration where
  id := spout.name
  runname := spout.runname
  paraLevel := 1

/-- All declared nodes. -/
def nodes (declared : Declarations) : List BoltDeclaration :=
  declared.spouts.map ofSpout ++ declared.bolts

/-- The children of a node. -/
def children (declared : Declarations) (parent : String) :
    List (String × GroupingScheme) :=
  (declared.outgoing parent).map fun edge => (edge.bolt, edge.groupingScheme)

theorem map_id_nodes : declared.nodes.map BoltDeclaration.id = declared.ids := by
  rw [nodes, List.map_append, List.map_map, ids]
  rfl

/-- The ids are distinct and the edges lead from nodes to bolts. -/
structure WellFormed (declared : Declarations) : Prop where
  distinct : ("root" :: declared.ids).Nodup
  edges : ∀ edge ∈ declared.edges,
    edge.bolt ∈ declared.bolts.map BoltDeclaration.id ∧
      edge.parent ∈ declared.ids

namespace WellFormed

theorem none : WellFormed none where
  distinct := List.nodup_singleton _
  edges := nofun

/-- Nothing leads from a node that has not been declared. -/
theorem children_eq_nil
    (wellFormed : WellFormed declared) (absent : id ∉ declared.ids) :
    declared.children id = [] := by
  rw [children, List.map_eq_nil_iff, outgoing, List.filter_eq_nil_iff]
  intro edge isEdge isParent
  rw [decide_eq_true_eq] at isParent
  exact absent (isParent ▸ (wellFormed.edges edge isEdge).2)

/-- A node with a new id is declared. -/
theorem addNode
    (wellFormed : WellFormed declared) {next : Declarations}
    (isNew : ¬ (id = "root" ∨ id ∈ declared.ids))
    (perm : next.ids.Perm (id :: declared.ids))
    (sameEdges : next.edges = declared.edges)
    (bolts : declared.bolts ⊆ next.bolts) : WellFormed next where
  distinct := by
    have swapped : ("root" :: next.ids).Perm (id :: "root" :: declared.ids) :=
      (perm.cons "root").trans (.swap _ _ _)
    rw [swapped.nodup_iff, List.nodup_cons, List.mem_cons]
    exact ⟨isNew, wellFormed.distinct⟩
  edges := by
    intro edge isEdge
    rw [sameEdges] at isEdge
    obtain ⟨isBolt, isNode⟩ := wellFormed.edges edge isEdge
    exact ⟨List.map_subset _ bolts isBolt,
      perm.mem_iff.mpr (List.mem_cons_of_mem id isNode)⟩

/-- Every call that is allowed keeps the declarations well-formed. -/
theorem declare
    (wellFormed : WellFormed declared) {call : BuilderCall}
    (allowed : declared.Allows call) : WellFormed (declared.declare call) := by
  cases call with
  | setSpout id runname =>
      rw [Declarations.declare]
      split
      · exact wellFormed
      · next isNew =>
          refine wellFormed.addNode isNew ?_ rfl (List.Subset.refl _)
          rw [ids, List.map_append, List.append_assoc]
          exact List.perm_middle
  | setBolt id runname paraLevel =>
      rw [Declarations.declare]
      split
      · exact wellFormed
      · next isNew =>
          refine wellFormed.addNode isNew ?_ rfl
            (List.subset_append_left _ _)
          rw [ids, List.map_append, ← List.append_assoc]
          exact List.perm_append_singleton _ _
  | setParent bolt id groupingScheme =>
      refine ⟨wellFormed.distinct, fun edge isEdge => ?_⟩
      rcases List.mem_append.mp isEdge with isOld | isNew
      · exact wellFormed.edges edge isOld
      · obtain rfl := List.mem_singleton.mp isNew
        exact allowed

end WellFormed

end Declarations

/-! ## The node map -/

/-- Apart from the root, the node map consists of the declared nodes. -/
structure HasNodes
    (nodeTypeMap : Dictionary String Node) (declared : Declarations) :
    Prop where
  node : ∀ node ∈ declared.nodes,
    nodeTypeMap.get node.id =
      some
        { id := node.id
          runname := node.runname
          paraLevel := node.paraLevel
          children := declared.children node.id }
  absent : ∀ id, id ≠ "root" → id ∉ declared.ids →
    nodeTypeMap.get id = none

/-- The node map consists of the root, with the spouts, and of the declared
nodes. -/
structure Represents
    (builder : TopologyBuilder) (declared : Declarations) : Prop where
  wellFormed : declared.WellFormed
  root : builder.nodeTypeMap.get "root" =
    some { children :=
      declared.spouts.map fun spout => (spout.name, .default) }
  hasNodes : HasNodes builder.nodeTypeMap declared

namespace HasNodes

variable {nodeTypeMap : Dictionary String Node} {declared next : Declarations}

/-- The id of a declared node is that of an entry. -/
theorem get_of_mem_ids
    (hasNodes : HasNodes nodeTypeMap declared) {id : String}
    (isNode : id ∈ declared.ids) :
    ∃ node, nodeTypeMap.get id = some node ∧ node.id = id ∧
      node.children = declared.children id := by
  rw [← Declarations.map_id_nodes] at isNode
  obtain ⟨node, present, rfl⟩ := List.mem_map.mp isNode
  exact ⟨_, hasNodes.node node present, rfl, rfl⟩

/-- A node without edges is added. -/
theorem setNode
    (hasNodes : HasNodes nodeTypeMap declared)
    (wellFormed : declared.WellFormed) {added : BoltDeclaration}
    (isNew : added.id ∉ declared.ids)
    (nodes : ∀ node, node ∈ next.nodes ↔ node ∈ declared.nodes ∨ node = added)
    (edges : next.edges = declared.edges) :
    HasNodes
      (nodeTypeMap.set added.id
        { id := added.id
          runname := added.runname
          paraLevel := added.paraLevel })
      next where
  node := by
    intro node present
    have sameChildren : next.children node.id = declared.children node.id := by
      rw [Declarations.children, Declarations.outgoing, edges]
      rfl
    rw [Dictionary.get_set, sameChildren]
    rcases (nodes node).mp present with isOld | rfl
    · have differs : node.id ≠ added.id := by
        intro same
        apply isNew
        rw [← Declarations.map_id_nodes, ← same]
        exact List.mem_map_of_mem isOld
      rw [if_neg differs]
      exact hasNodes.node node isOld
    · rw [if_pos rfl, wellFormed.children_eq_nil isNew]
  absent := by
    intro id notRoot notNode
    rw [← Declarations.map_id_nodes, List.mem_map] at notNode
    have differs : id ≠ added.id := by
      rintro rfl
      exact notNode ⟨added, (nodes added).mpr (.inr rfl), rfl⟩
    rw [Dictionary.get_set, if_neg differs]
    apply hasNodes.absent id notRoot
    rw [← Declarations.map_id_nodes, List.mem_map]
    rintro ⟨node, isOld, isId⟩
    exact notNode ⟨node, (nodes node).mpr (.inl isOld), isId⟩

/-- The root may be assigned to. -/
theorem setRoot
    (hasNodes : HasNodes nodeTypeMap declared)
    (wellFormed : declared.WellFormed) (node : Node) :
    HasNodes (nodeTypeMap.set "root" node) declared where
  node := by
    intro other present
    have differs : other.id ≠ "root" := by
      intro same
      apply (List.nodup_cons.mp wellFormed.distinct).1
      rw [← Declarations.map_id_nodes, ← same]
      exact List.mem_map_of_mem present
    rw [Dictionary.get_set, if_neg differs]
    exact hasNodes.node other present
  absent := by
    intro id notRoot notNode
    rw [Dictionary.get_set, if_neg notRoot]
    exact hasNodes.absent id notRoot notNode

/-- An edge is added at its parent. -/
theorem setParent
    (hasNodes : HasNodes nodeTypeMap declared) {edge : Edge} {parent : Node}
    (isNode : edge.parent ∈ declared.ids)
    (isParent : nodeTypeMap.get edge.parent = some parent) :
    HasNodes
      (nodeTypeMap.set edge.parent
        { parent with
          children := parent.children ++ [(edge.bolt, edge.groupingScheme)] })
      { declared with edges := declared.edges ++ [edge] } where
  node := by
    intro node present
    change node ∈ declared.nodes at present
    have before := hasNodes.node node present
    rw [Dictionary.get_set]
    by_cases same : node.id = edge.parent
    · rw [same, isParent] at before
      obtain rfl := Option.some.inj before
      rw [if_pos same]
      simp [Declarations.children, Declarations.outgoing, same]
    · rw [if_neg same, before]
      simp [Declarations.children, Declarations.outgoing, Ne.symm same]
  absent := by
    intro id notRoot notNode
    have differs : id ≠ edge.parent := by
      rintro rfl
      exact notNode isNode
    rw [Dictionary.get_set, if_neg differs]
    exact hasNodes.absent id notRoot notNode

end HasNodes

namespace Represents

variable {builder : TopologyBuilder} {declared : Declarations}

theorem initial (name : String) :
    Represents (TopologyBuilder.initial name) .none where
  wellFormed := .none
  root := rfl
  hasNodes :=
    { node := nofun
      absent := by
        intro id notRoot _
        rw [TopologyBuilder.initial, Dictionary.get_set, if_neg notRoot]
        rfl }

/-- An id is rejected exactly if it exists. -/
theorem nodeIdExist_iff
    (represents : Represents builder declared) {id : String} :
    builder.nodeIdExist id = true ↔ id = "root" ∨ id ∈ declared.ids := by
  rw [TopologyBuilder.nodeIdExist]
  constructor
  · intro isKey
    by_contra neither
    rw [not_or] at neither
    rw [represents.hasNodes.absent id neither.1 neither.2] at isKey
    cases isKey
  · rintro (rfl | isNode)
    · rw [represents.root]
      rfl
    · obtain ⟨node, found, _⟩ := represents.hasNodes.get_of_mem_ids isNode
      rw [found]
      rfl

/-- An existing id is rejected without a change. -/
theorem setNode_of_exist
    (represents : Represents builder declared) {id : String}
    (exist : id = "root" ∨ id ∈ declared.ids)
    (runname : String) (paraLevel : Int) :
    builder.setNode id runname paraLevel =
      .error ("node id: " ++ id ++ " existed") :=
  if_pos (represents.nodeIdExist_iff.mpr exist)

/-- A new id is accepted. -/
theorem setNode_of_new
    (represents : Represents builder declared) {id : String}
    (isNew : ¬ (id = "root" ∨ id ∈ declared.ids))
    (runname : String) (paraLevel : Int) :
    builder.setNode id runname paraLevel =
      .ok
        { builder with
          nodeTypeMap := builder.nodeTypeMap.set id
            { id := id, runname := runname, paraLevel := paraLevel } } :=
  if_neg fun exist => isNew (represents.nodeIdExist_iff.mp exist)

/-- A declared spout becomes a child of the root. -/
theorem setSpout
    (represents : Represents builder declared) (id runname : String) :
    ∃ next, builder.call (.setSpout id runname) = some next ∧
      next.name = builder.name ∧
      Represents next (declared.declare (.setSpout id runname)) := by
  have wellFormed := @Declarations.WellFormed.declare _
    represents.wellFormed (.setSpout id runname) trivial
  by_cases exist : id = "root" ∨ id ∈ declared.ids
  · refine ⟨builder, ?_, rfl, ?_⟩
    · simp only [TopologyBuilder.call, TopologyBuilder.setSpout,
        represents.setNode_of_exist exist]
      rfl
    · rw [Declarations.declare, if_pos exist]
      exact represents
  · let added := builder.nodeTypeMap.set id
      { id := id, runname := runname, paraLevel := 1 }
    let root : Node :=
      { children := declared.spouts.map fun spout => (spout.name, .default) }
    have isRoot : added.get "root" = some root := by
      rw [Dictionary.get_set, if_neg fun same => exist (.inl same.symm)]
      exact represents.root
    rw [Declarations.declare, if_neg exist] at wellFormed ⊢
    refine ⟨{ builder with
      nodeTypeMap := added.set "root"
        { root with children := root.children ++ [(id, .default)] } },
      ?_, rfl, wellFormed, ?_, ?_⟩
    · simp only [TopologyBuilder.call, TopologyBuilder.setSpout,
        represents.setNode_of_new exist, Except.map]
      simp only [TopologyBuilder.setParent]
      rw [isRoot]
      rfl
    · rw [Dictionary.get_set, if_pos rfl, List.map_append]
      rfl
    · apply HasNodes.setRoot _ wellFormed
      refine @HasNodes.setNode _ declared _ represents.hasNodes
        represents.wellFormed ⟨id, runname, 1⟩
        (fun present => exist (.inr present)) (fun node => ?_) rfl
      simp only [Declarations.nodes, List.map_append, List.mem_append,
        List.map_cons, List.map_nil, List.mem_singleton]
      exact or_right_comm

/-- A declared bolt becomes a node without children. -/
theorem setBolt
    (represents : Represents builder declared) (id runname : String)
    (paraLevel : Int) :
    ∃ next, builder.call (.setBolt id runname paraLevel) = some next ∧
      next.name = builder.name ∧
      Represents next (declared.declare (.setBolt id runname paraLevel)) := by
  have wellFormed := @Declarations.WellFormed.declare _
    represents.wellFormed (.setBolt id runname paraLevel) trivial
  by_cases exist : id = "root" ∨ id ∈ declared.ids
  · refine ⟨builder, ?_, rfl, ?_⟩
    · simp only [TopologyBuilder.call, TopologyBuilder.setBolt,
        represents.setNode_of_exist exist]
    · rw [Declarations.declare, if_pos exist]
      exact represents
  · rw [Declarations.declare, if_neg exist] at wellFormed ⊢
    refine ⟨{ builder with
      nodeTypeMap := builder.nodeTypeMap.set id
        { id := id, runname := runname, paraLevel := paraLevel } },
      ?_, rfl, wellFormed, ?_, ?_⟩
    · simp only [TopologyBuilder.call, TopologyBuilder.setBolt,
        represents.setNode_of_new exist]
    · rw [Dictionary.get_set, if_neg fun same => exist (.inl same.symm)]
      exact represents.root
    · refine @HasNodes.setNode _ declared _ represents.hasNodes
        represents.wellFormed ⟨id, runname, paraLevel⟩
        (fun present => exist (.inr present)) (fun node => ?_) rfl
      simp only [Declarations.nodes, List.mem_append, List.mem_singleton]
      exact or_assoc.symm

/-- A declared edge is kept at its parent. -/
theorem setParent
    (represents : Represents builder declared) {bolt id : String}
    {groupingScheme : GroupingScheme}
    (allowed : declared.Allows (.setParent bolt id groupingScheme)) :
    ∃ next, builder.call (.setParent bolt id groupingScheme) = some next ∧
      next.name = builder.name ∧
      Represents next
        (declared.declare (.setParent bolt id groupingScheme)) := by
  obtain ⟨parent, found, _⟩ := represents.hasNodes.get_of_mem_ids allowed.2
  have notRoot : "root" ≠ id := by
    rintro rfl
    exact (List.nodup_cons.mp represents.wellFormed.distinct).1 allowed.2
  refine ⟨{ builder with
    nodeTypeMap := builder.nodeTypeMap.set id
      { parent with
        children := parent.children ++ [(bolt, groupingScheme)] } },
    ?_, rfl, represents.wellFormed.declare allowed, ?_, ?_⟩
  · simp only [TopologyBuilder.call, TopologyBuilder.setParent]
    rw [found]
    rfl
  · rw [Dictionary.get_set, if_neg notRoot]
    exact represents.root
  · exact @HasNodes.setParent _ _ represents.hasNodes
      ⟨bolt, id, groupingScheme⟩ parent allowed.2 found

/-- Every call that is allowed succeeds and does what it declares. -/
theorem call
    (represents : Represents builder declared) {call : BuilderCall}
    (allowed : declared.Allows call) :
    ∃ next, builder.call call = some next ∧ next.name = builder.name ∧
      Represents next (declared.declare call) := by
  cases call with
  | setSpout id runname => exact represents.setSpout id runname
  | setBolt id runname paraLevel =>
      exact represents.setBolt id runname paraLevel
  | setParent bolt id groupingScheme => exact represents.setParent allowed

/-- So do all calls together. -/
theorem calls
    (represents : Represents builder declared) {history : List BuilderCall}
    (allowed : declared.AllowsAll history) :
    ∃ next, builder.calls history = some next ∧ next.name = builder.name ∧
      Represents next (history.foldl Declarations.declare declared) := by
  induction history generalizing builder declared with
  | nil => exact ⟨builder, rfl, rfl, represents⟩
  | cons first history inductionHypothesis =>
      obtain ⟨middle, called, sameName, after⟩ := represents.call allowed.1
      obtain ⟨next, isNext, alsoSameName, final⟩ :=
        inductionHypothesis after allowed.2
      refine ⟨next, ?_, alsoSameName.trans sameName, final⟩
      rw [TopologyBuilder.calls, List.foldlM_cons, called]
      exact isNext

end Represents

/-! ## The search -/

namespace BoltDeclaration

/-- The specification of a bolt with its edges. -/
def spec (bolt : BoltDeclaration) (edges : List Edge) : BoltSpec where
  name := bolt.id
  parents := edges.map fun edge =>
    (edge.parent, getGroupingString edge.groupingScheme)
  runname := bolt.runname
  paraLevel := bolt.paraLevel

end BoltDeclaration

/-- The bolts of the map are those that an edge leads to, each with its
edges. -/
structure Records
    (declared : Declarations) (boltMap : BoltMap) (edges : List Edge) :
    Prop where
  bolt : ∀ bolt ∈ declared.bolts,
    boltMap.get bolt.id =
      if bolt.id ∈ edges.map Edge.bolt then
        some (bolt.spec (edges.filter fun edge => edge.bolt = bolt.id))
      else none
  others : ∀ id, id ∉ declared.bolts.map BoltDeclaration.id →
    boltMap.get id = none

section Search

variable {builder : TopologyBuilder} {declared : Declarations}
variable {boltMap : BoltMap} {edges : List Edge} {found : List String}
variable {parent : Node}

theorem Records.empty : Records declared .empty [] where
  bolt := fun _ _ => rfl
  others := fun _ _ => rfl

/-- An edge is recorded, and its bolt enters the queue if it is its first. -/
theorem Records.visitChild
    (records : Records declared boltMap edges)
    (represents : Represents builder declared) {edge : Edge}
    (isBolt : edge.bolt ∈ declared.bolts.map BoltDeclaration.id)
    (isParent : edge.parent = parent.id) (queue : List String) :
    ∃ next, builder.visitChild parent (boltMap, queue)
        (edge.bolt, edge.groupingScheme) =
      some (next,
        if edge.bolt ∈ edges.map Edge.bolt then queue
        else queue ++ [edge.bolt]) ∧
      Records declared next (edges ++ [edge]) := by
  obtain ⟨bolt, declaredBolt, isId⟩ := List.mem_map.mp isBolt
  have before := records.bolt bolt declaredBolt
  have isNode : bolt ∈ declared.nodes := List.mem_append_right _ declaredBolt
  have node := represents.hasNodes.node bolt isNode
  rw [isId] at before node
  have distinct : (declared.bolts.map BoltDeclaration.id).Nodup :=
    (List.nodup_append.mp
      (List.nodup_cons.mp represents.wellFormed.distinct).2).2.1
  have onlyBolt (other : BoltDeclaration) (present : other ∈ declared.bolts)
      (same : other.id = edge.bolt) : other = bolt :=
    List.inj_on_of_nodup_map distinct present declaredBolt
      (same.trans isId.symm)
  have recorded : Records declared
      (boltMap.set edge.bolt (bolt.spec
        ((edges ++ [edge]).filter fun other => other.bolt = edge.bolt)))
      (edges ++ [edge]) :=
    { bolt := by
        intro other present
        rw [Dictionary.get_set]
        by_cases same : other.id = edge.bolt
        · obtain rfl := onlyBolt other present same
          simp [same]
        · rw [if_neg same, records.bolt other present]
          simp [Ne.symm same, same]
      others := by
        intro id notBolt
        have differs : id ≠ edge.bolt := by
          rintro rfl
          exact notBolt isBolt
        rw [Dictionary.get_set, if_neg differs]
        exact records.others id notBolt }
  refine ⟨_, ?_, recorded⟩
  simp only [TopologyBuilder.visitChild, before]
  by_cases known : edge.bolt ∈ edges.map Edge.bolt
  · simp [known, BoltDeclaration.spec, isParent]
  · have noEdges : edges.filter (fun other => other.bolt = edge.bolt) = [] := by
      rw [List.filter_eq_nil_iff]
      intro other present same
      rw [decide_eq_true_eq] at same
      exact known (List.mem_map.mpr ⟨other, present, same⟩)
    simp [known, node, BoltDeclaration.spec, noEdges, isParent, isId]

/-- The found bolts are those of the recorded edges. -/
def Agree
    (declared : Declarations) (found : List String) (edges : List Edge) :
    Prop :=
  ∀ id ∈ declared.bolts.map BoltDeclaration.id,
    id ∈ found ↔ id ∈ edges.map Edge.bolt

/-- All edges of a parent are recorded, and the new bolts enter the queue. -/
theorem Records.visitChildren
    (records : Records declared boltMap edges)
    (represents : Represents builder declared)
    (agree : Agree declared found edges) {outgoing : List Edge}
    (isOutgoing : ∀ edge ∈ outgoing,
      edge.bolt ∈ declared.bolts.map BoltDeclaration.id ∧
        edge.parent = parent.id)
    (queue : List String) :
    ∃ next,
      (outgoing.map fun edge => (edge.bolt, edge.groupingScheme)).foldlM
          (builder.visitChild parent) (boltMap, queue) =
        some (next,
          queue ++ BreadthFirst.fresh found (outgoing.map Edge.bolt)) ∧
      Records declared next (edges ++ outgoing) ∧
      Agree declared
        (found ++ BreadthFirst.fresh found (outgoing.map Edge.bolt))
        (edges ++ outgoing) := by
  induction outgoing generalizing boltMap queue found edges with
  | nil =>
      refine ⟨boltMap, ?_, ?_, ?_⟩
      · simp [BreadthFirst.fresh]
      · rw [List.append_nil]
        exact records
      · simpa [BreadthFirst.fresh] using agree
  | cons edge outgoing inductionHypothesis =>
      obtain ⟨⟨isBolt, isParent⟩, rest⟩ := List.forall_mem_cons.mp isOutgoing
      obtain ⟨middle, visited, recorded⟩ :=
        records.visitChild represents isBolt isParent queue
      rw [List.map_cons, List.foldlM_cons, visited, List.map_cons,
        BreadthFirst.fresh]
      by_cases known : edge.bolt ∈ found
      · have isRecorded := (agree edge.bolt isBolt).mp known
        have stillAgree : Agree declared found (edges ++ [edge]) := by
          intro id isId
          rw [agree id isId, List.map_append, List.mem_append]
          refine ⟨.inl, ?_⟩
          rintro (isOld | isNew)
          · exact isOld
          · rw [List.mem_singleton.mp isNew]
            exact isRecorded
        obtain ⟨next, isNext, final, finalAgree⟩ :=
          inductionHypothesis recorded stillAgree rest queue
        simp only [List.append_assoc, List.singleton_append]
          at final finalAgree
        refine ⟨next, ?_, final, ?_⟩
        · simp only [if_pos known, if_pos isRecorded]
          exact isNext
        · rw [if_pos known]
          exact finalAgree
      · have notRecorded : edge.bolt ∉ edges.map Edge.bolt := fun isRecorded =>
          known ((agree edge.bolt isBolt).mpr isRecorded)
        have stillAgree :
            Agree declared (found ++ [edge.bolt]) (edges ++ [edge]) := by
          intro id isId
          rw [List.mem_append, agree id isId, List.map_append, List.mem_append]
          rfl
        obtain ⟨next, isNext, final, finalAgree⟩ :=
          inductionHypothesis recorded stillAgree rest (queue ++ [edge.bolt])
        simp only [List.append_assoc, List.singleton_append]
          at isNext final finalAgree
        refine ⟨next, ?_, final, ?_⟩
        · simp only [if_neg known, if_neg notRecorded]
          exact isNext
        · rw [if_neg known]
          exact finalAgree

/-- More fuel does not change the result. -/
theorem TopologyBuilder.explore_mono
    {fuel more : Nat} {queue : List String} {final : BoltMap}
    (enough : fuel ≤ more)
    (explored : builder.explore fuel boltMap queue = some final) :
    builder.explore more boltMap queue = some final := by
  induction fuel generalizing more boltMap queue with
  | zero => cases explored
  | succ fuel inductionHypothesis =>
      cases more with
      | zero => exact absurd enough (Nat.not_succ_le_zero fuel)
      | succ more =>
          cases queue with
          | nil => exact explored
          | cons id queue =>
              rw [explore, Option.bind_eq_some_iff] at explored ⊢
              obtain ⟨parent, isParent, visited⟩ := explored
              obtain ⟨⟨next, waiting⟩, isNext, rest⟩ :=
                Option.bind_eq_some_iff.mp visited
              exact ⟨parent, isParent, Option.bind_eq_some_iff.mpr
                ⟨(next, waiting), isNext, inductionHypothesis
                  (Nat.le_of_succ_le_succ enough) rest⟩⟩

/-- The result does not depend on the fuel. -/
theorem TopologyBuilder.buildTopology_unique
    {fuel other : Nat} {spec otherSpec : TopologySpec}
    (built : builder.buildTopology fuel = some spec)
    (otherBuilt : builder.buildTopology other = some otherSpec) :
    spec = otherSpec := by
  wlog fewer : fuel ≤ other generalizing fuel other spec otherSpec
  · exact (this otherBuilt built (Nat.le_of_not_le fewer)).symm
  unfold buildTopology at built otherBuilt
  obtain ⟨virtualRoot, isRoot, built⟩ := Option.bind_eq_some_iff.mp built
  obtain ⟨spoutSpecs, isSpouts, built⟩ := Option.bind_eq_some_iff.mp built
  obtain ⟨boltMap, explored, rfl⟩ := Option.map_eq_some_iff.mp built
  rw [isRoot, Option.bind_some, isSpouts, Option.bind_some,
    explore_mono fewer explored, Option.map_some] at otherBuilt
  exact Option.some.inj otherBuilt

/-- The vertices that the search goes on to from a vertex. -/
def Declarations.successors (declared : Declarations) (parent : String) :
    List String :=
  (declared.outgoing parent).map Edge.bolt

/-- The outer loop is a breadth-first search that records the edges of every
vertex it visits. -/
theorem Records.explore
    (records : Records declared boltMap edges)
    (represents : Represents builder declared)
    (agree : Agree declared found edges)
    {fuel : Nat} {queue order : List String}
    (declaredQueue : ∀ id ∈ queue, id ∈ declared.ids)
    (searched : BreadthFirst.search declared.successors fuel found queue =
      some order) :
    ∃ next, builder.explore fuel boltMap queue = some next ∧
      Records declared next (edges ++ order.flatMap declared.outgoing) := by
  induction fuel generalizing boltMap edges found queue order with
  | zero => cases searched
  | succ fuel inductionHypothesis =>
      cases queue with
      | nil =>
          obtain rfl := Option.some.inj searched
          refine ⟨boltMap, rfl, ?_⟩
          rw [List.flatMap_nil, List.append_nil]
          exact records
      | cons id queue =>
          obtain ⟨rest, isRest, rfl⟩ :=
            BreadthFirst.search_cons_eq_some_iff.mp searched
          obtain ⟨isNode, declaredRest⟩ :=
            List.forall_mem_cons.mp declaredQueue
          obtain ⟨parent, isEntry, isId, children⟩ :=
            represents.hasNodes.get_of_mem_ids isNode
          have isOutgoing (edge : Edge) (present : edge ∈ declared.outgoing id) :
              edge.bolt ∈ declared.bolts.map BoltDeclaration.id ∧
                edge.parent = parent.id := by
            simp only [Declarations.outgoing, List.mem_filter,
              decide_eq_true_eq] at present
            exact ⟨(represents.wellFormed.edges edge present.1).1,
              present.2.trans isId.symm⟩
          obtain ⟨middle, visited, recorded, stillAgree⟩ :=
            records.visitChildren represents agree isOutgoing queue
          have declaredNext (other : String)
              (waits : other ∈ queue ++
                BreadthFirst.fresh found (declared.successors id)) :
              other ∈ declared.ids := by
            rcases List.mem_append.mp waits with waited | isFresh
            · exact declaredRest other waited
            · have isChild := (BreadthFirst.mem_fresh_iff.mp isFresh).1
              obtain ⟨edge, present, rfl⟩ := List.mem_map.mp isChild
              exact List.mem_append_right _ (isOutgoing edge present).1
          obtain ⟨next, isNext, final⟩ :=
            inductionHypothesis recorded stillAgree declaredNext isRest
          refine ⟨next, ?_, ?_⟩
          · rw [TopologyBuilder.explore, isEntry, Option.bind_some, children,
              Declarations.children, visited, Option.bind_some]
            exact isNext
          · rw [List.flatMap_cons, ← List.append_assoc]
            exact final

end Search

/-! ## Exactness -/

section Exactness

variable {declared : Declarations} {order : List String}

/-- Reachability is that of the search. -/
theorem reachable_iff {id : String} :
    declared.Reachable id ↔
      ∃ start ∈ declared.spouts.map SpoutSpec.name,
        BreadthFirst.Reaches declared.successors start id := by
  have same : (fun parent child => child ∈ declared.successors parent) =
      fun parent child => ∃ edge ∈ declared.edges,
        edge.parent = parent ∧ edge.bolt = child := by
    funext parent child
    simp [Declarations.successors, Declarations.outgoing, and_assoc]
  simp only [Declarations.Reachable, BreadthFirst.Reaches, same,
    List.mem_map, exists_exists_and_eq_and]

/-- An edge from a reachable node leads to a reachable one. -/
theorem reachable_of_edge
    {edge : Edge} (isEdge : edge ∈ declared.edges)
    (reachable : declared.Reachable edge.parent) :
    declared.Reachable edge.bolt := by
  obtain ⟨spout, isSpout, path⟩ := reachable
  exact ⟨spout, isSpout, path.tail ⟨edge, isEdge, rfl, rfl⟩⟩

/-- A reachable bolt is at the end of an edge from a reachable node. -/
theorem exists_edge_of_reachable
    (wellFormed : declared.WellFormed) {id : String}
    (isBolt : id ∈ declared.bolts.map BoltDeclaration.id)
    (reachable : declared.Reachable id) :
    ∃ edge ∈ declared.edges,
      edge.bolt = id ∧ declared.Reachable edge.parent := by
  obtain ⟨spout, isSpout, path⟩ := reachable
  rcases path.cases_tail with same | ⟨parent, before, edge, isEdge, rfl, rfl⟩
  · have apart := (List.nodup_append.mp
      (List.nodup_cons.mp wellFormed.distinct).2).2.2
    exact absurd same.symm
      (apart _ (List.mem_map_of_mem isSpout) _ isBolt)
  · exact ⟨edge, isEdge, rfl, spout, isSpout, before⟩

open Classical in
/-- A specification consists of the spouts and of the reachable bolts that have
been declared, and every bolt has all its edges from reachable nodes. -/
structure Compiled (declared : Declarations) (spec : TopologySpec) :
    Prop where
  spouts : spec.spoutSpecs = declared.spouts
  distinctSpouts : (spec.spoutSpecs.map SpoutSpec.name).Nodup
  distinctBolts : (spec.boltSpecs.map BoltSpec.name).Nodup
  bolts : ∀ bolt : BoltDeclaration,
    (∃ bs ∈ spec.boltSpecs, bs.name = bolt.id ∧ bs.runname = bolt.runname ∧
        bs.paraLevel = bolt.paraLevel) ↔
      bolt ∈ declared.bolts ∧ declared.Reachable bolt.id
  parents : ∀ bs ∈ spec.boltSpecs,
    bs.parents.Perm
      ((declared.edges.filter fun edge =>
          edge.bolt = bs.name ∧ declared.Reachable edge.parent).map
        fun edge => (edge.parent, getGroupingString edge.groupingScheme))

/-- The recorded edges are those from reachable nodes. -/
theorem perm_outgoing
    (distinct : order.Nodup)
    (visits : ∀ id, id ∈ order ↔ declared.Reachable id) :
    open Classical in
    (order.flatMap declared.outgoing).Perm
      (declared.edges.filter fun edge => declared.Reachable edge.parent) := by
  classical
  refine (List.perm_flatMap_filter Edge.parent declared.edges
    distinct).trans (.of_eq ?_)
  apply List.filter_congr
  intro edge _
  exact decide_eq_decide.mpr (visits edge.parent)

/-- The bolts of the map that the search leaves are the reachable ones. -/
theorem Records.get_eq_some_iff
    {boltMap : BoltMap}
    (records : Records declared boltMap (order.flatMap declared.outgoing))
    (wellFormed : declared.WellFormed) (distinct : order.Nodup)
    (visits : ∀ id, id ∈ order ↔ declared.Reachable id)
    {id : String} {bs : BoltSpec} :
    boltMap.get id = some bs ↔
      ∃ bolt ∈ declared.bolts, bolt.id = id ∧ declared.Reachable id ∧
        bolt.spec ((order.flatMap declared.outgoing).filter fun edge =>
          edge.bolt = id) = bs := by
  classical
  have perm := perm_outgoing distinct visits
  have isTarget (bolt : BoltDeclaration) (present : bolt ∈ declared.bolts) :
      bolt.id ∈ (order.flatMap declared.outgoing).map Edge.bolt ↔
        declared.Reachable bolt.id := by
    rw [(perm.map _).mem_iff, List.mem_map]
    simp only [List.mem_filter, decide_eq_true_eq]
    constructor
    · rintro ⟨edge, ⟨isEdge, reachable⟩, isBolt⟩
      exact isBolt ▸ reachable_of_edge isEdge reachable
    · intro reachable
      obtain ⟨edge, isEdge, isBolt, fromReachable⟩ := exists_edge_of_reachable
        wellFormed (List.mem_map_of_mem present) reachable
      exact ⟨edge, ⟨isEdge, fromReachable⟩, isBolt⟩
  constructor
  · intro found
    have isBolt : id ∈ declared.bolts.map BoltDeclaration.id := by
      by_contra notBolt
      rw [records.others id notBolt] at found
      cases found
    obtain ⟨bolt, present, rfl⟩ := List.mem_map.mp isBolt
    rw [records.bolt bolt present, Option.ite_none_right_eq_some,
      isTarget bolt present] at found
    exact ⟨bolt, present, rfl, found.1, Option.some.inj found.2⟩
  · rintro ⟨bolt, present, rfl, reachable, rfl⟩
    rw [records.bolt bolt present, if_pos ((isTarget bolt present).mpr
      reachable)]

/-- The specifications are those of the reachable bolts. -/
theorem Records.mem_boltSpecs_iff
    {boltMap : BoltMap}
    (records : Records declared boltMap (order.flatMap declared.outgoing))
    (wellFormed : declared.WellFormed) (distinct : order.Nodup)
    (visits : ∀ id, id ∈ order ↔ declared.Reachable id) (bs : BoltSpec) :
    bs ∈ boltMap.entries.map Prod.snd ↔
      ∃ bolt ∈ declared.bolts, declared.Reachable bolt.id ∧
        bolt.spec ((order.flatMap declared.outgoing).filter fun edge =>
          edge.bolt = bolt.id) = bs := by
  rw [List.mem_map]
  constructor
  · rintro ⟨⟨id, _⟩, isEntry, rfl⟩
    obtain ⟨bolt, present, rfl, reachable, isBolt⟩ :=
      (records.get_eq_some_iff wellFormed distinct visits).mp
        (Dictionary.get_eq_some_iff.mpr isEntry)
    exact ⟨bolt, present, reachable, isBolt⟩
  · rintro ⟨bolt, present, reachable, rfl⟩
    exact ⟨_, Dictionary.get_eq_some_iff.mp
      ((records.get_eq_some_iff wellFormed distinct visits).mpr
        ⟨bolt, present, rfl, reachable, rfl⟩), rfl⟩

/-- What the search leaves is compiled. -/
theorem Records.compiled
    {boltMap : BoltMap} {name : String}
    (records : Records declared boltMap (order.flatMap declared.outgoing))
    (wellFormed : declared.WellFormed) (distinct : order.Nodup)
    (visits : ∀ id, id ∈ order ↔ declared.Reachable id) :
    Compiled declared
      { name := name
        boltSpecs := boltMap.entries.map Prod.snd
        spoutSpecs := declared.spouts } := by
  classical
  have isSpec := records.mem_boltSpecs_iff wellFormed distinct visits
  have nodes := List.nodup_append.mp
    (List.nodup_cons.mp wellFormed.distinct).2
  exact
    { spouts := rfl
      distinctSpouts := nodes.1
      distinctBolts := by
        have sameKeys : (boltMap.entries.map Prod.snd).map BoltSpec.name =
            boltMap.entries.map Prod.fst := by
          rw [List.map_map]
          apply List.map_congr_left
          rintro ⟨id, bs⟩ isEntry
          obtain ⟨bolt, _, rfl, _, rfl⟩ :=
            (records.get_eq_some_iff wellFormed distinct visits).mp
              (Dictionary.get_eq_some_iff.mpr isEntry)
          rfl
        rw [sameKeys]
        exact SortedMap.nodup_keys boltMap
      bolts := by
        intro bolt
        constructor
        · rintro ⟨bs, present, isId, isRunname, isParaLevel⟩
          obtain ⟨other, isBolt, reachable, rfl⟩ := (isSpec bs).mp present
          obtain rfl : other = bolt := by
            cases other
            cases bolt
            simpa [BoltDeclaration.spec] using
              And.intro isId ⟨isRunname, isParaLevel⟩
          exact ⟨isBolt, reachable⟩
        · rintro ⟨isBolt, reachable⟩
          exact ⟨_, (isSpec _).mpr ⟨bolt, isBolt, reachable, rfl⟩, rfl, rfl,
            rfl⟩
      parents := by
        intro bs present
        obtain ⟨bolt, isBolt, reachable, rfl⟩ := (isSpec bs).mp present
        have perm := (perm_outgoing distinct visits).filter fun edge =>
          decide (edge.bolt = bolt.id)
        refine (perm.map _).trans (.of_eq ?_)
        rw [List.filter_filter]
        congr 1
        apply List.filter_congr
        intro edge _
        rw [Bool.decide_and]
        rfl }

/-- The spouts are found at the root. -/
theorem Represents.spoutSpecs
    {builder : TopologyBuilder} (represents : Represents builder declared) :
    (declared.spouts.map fun spout =>
        (spout.name, GroupingScheme.default)).mapM builder.spoutSpec =
      some declared.spouts := by
  have each (spout : SpoutSpec) (present : spout ∈ declared.spouts) :
      builder.spoutSpec (spout.name, .default) = some spout := by
    have node := represents.hasNodes.node (Declarations.ofSpout spout)
      (List.mem_append_left _ (List.mem_map_of_mem present))
    change builder.nodeTypeMap.get spout.name = _ at node
    rw [TopologyBuilder.spoutSpec, node]
    rfl
  generalize declared.spouts = spouts at each
  induction spouts with
  | nil => rfl
  | cons first spouts inductionHypothesis =>
      obtain ⟨isFirst, rest⟩ := List.forall_mem_cons.mp each
      rw [List.map_cons, List.mapM_cons, isFirst, inductionHypothesis rest]
      rfl

/-- The search from the spouts ends, and it compiles what is represented. -/
theorem Represents.compiles
    {builder : TopologyBuilder} (represents : Represents builder declared) :
    ∃ enough spec,
      (∀ fuel, enough ≤ fuel → builder.buildTopology fuel = some spec) ∧
      spec.name = builder.name ∧ Compiled declared spec := by
  let starts := declared.spouts.map SpoutSpec.name
  have wellFormed := represents.wellFormed
  have nodes := List.nodup_append.mp (List.nodup_cons.mp wellFormed.distinct).2
  have waiting : BreadthFirst.Waiting starts starts := ⟨nodes.1, fun _ => id⟩
  have inside (id : String) (isStart : id ∈ starts) : id ∈ declared.ids :=
    List.mem_append_left _ isStart
  have closed (id : String) (_ : id ∈ declared.ids) (child : String)
      (isChild : child ∈ declared.successors id) : child ∈ declared.ids := by
    obtain ⟨edge, present, rfl⟩ := List.mem_map.mp isChild
    exact List.mem_append_right _
      (wellFormed.edges edge (List.mem_filter.mp present).1).1
  let enough := declared.ids.length + 1
  obtain ⟨order, searched⟩ := @BreadthFirst.exists_search String _
    declared.successors starts starts enough declared.ids closed waiting
    nodes.1 inside (by omega)
  have distinct := BreadthFirst.nodup_search searched waiting
  have visits (id : String) : id ∈ order ↔ declared.Reachable id :=
    (BreadthFirst.mem_search_iff searched).trans reachable_iff.symm
  -- No spout is a bolt, so that nothing found has been recorded yet.
  have agree : Agree declared starts [] := fun id isBolt =>
    iff_of_false (fun isStart => nodes.2.2 id isStart id isBolt rfl) nofun
  obtain ⟨boltMap, explored, records⟩ :=
    Records.empty.explore represents agree inside searched
  refine ⟨enough, _, fun fuel isEnough => ?_, rfl,
    records.compiled wellFormed distinct visits⟩
  have queue : (declared.spouts.map fun spout =>
      (spout.name, GroupingScheme.default)).map Prod.fst = starts := by
    rw [List.map_map]
    rfl
  rw [TopologyBuilder.buildTopology, represents.root, Option.bind_some,
    represents.spoutSpecs, Option.bind_some, queue,
    TopologyBuilder.explore_mono isEnough explored]
  rfl

/-- For every sequence of allowed calls, `buildTopology` ends and compiles what
they have declared. -/
theorem buildTopology_compiled
    (name : String) {history : List BuilderCall}
    (allowed : Declarations.none.AllowsAll history) :
    ∃ builder, (TopologyBuilder.initial name).calls history = some builder ∧
      ∃ enough spec,
        (∀ fuel, enough ≤ fuel → builder.buildTopology fuel = some spec) ∧
        spec.name = name ∧
        Compiled (Declarations.ofCalls history) spec := by
  obtain ⟨builder, called, isName, represents⟩ :=
    (Represents.initial name).calls allowed
  have represented : Represents builder (Declarations.ofCalls history) :=
    represents
  obtain ⟨enough, spec, ends, sameName, compiled⟩ := represented.compiles
  exact ⟨builder, called, enough, spec, ends, sameName.trans isName, compiled⟩

/-- A cycle of two bolts below a spout, with a repeated edge, a bolt that is its
own parent, and one that no spout reaches. -/
def cyclicCalls : List BuilderCall :=
  [.setSpout "input" "0TestSpout", .setBolt "filter" "1FilterBolt" 5,
    .setBolt "sink" "2SinkBolt" 3, .setBolt "apart" "3SinkBolt" 1,
    .setParent "filter" "input" .shuffle, .setParent "sink" "filter" .shuffle,
    .setParent "sink" "filter" .field, .setParent "filter" "sink" .all,
    .setParent "apart" "apart" .default, .setBolt "sink" "1FilterBolt" 2]

theorem buildTopology_compiled_cyclicCalls :
    Declarations.none.AllowsAll cyclicCalls ∧
    ∃ builder, (TopologyBuilder.initial "testtopo").calls cyclicCalls =
        some builder ∧
      ∃ enough spec,
        (∀ fuel, enough ≤ fuel → builder.buildTopology fuel = some spec) ∧
        spec.name = "testtopo" ∧
        Compiled (Declarations.ofCalls cyclicCalls) spec :=
  ⟨by decide, buildTopology_compiled "testtopo" (by decide)⟩

end Exactness

end Crane
end CraneSps
