import CraneSps.Crane.TopologyBuilder
import CraneSps.Foundation.DepthFirst
import CraneSps.Foundation.TransitionSystem

/-!
# Showing a topology

`showNode` prints a node unless its static cache says that the node has been
printed, and goes on to the children of the node in either case.  It ends
exactly on the topologies without a cycle that is reachable from the root, and
there it prints each reachable node once, whatever the cache held before.
-/

namespace CraneSps
namespace Crane

/-- The text for a child in `showNode`, which knows two groupings. -/
def childText (child : String × GroupingScheme) : String :=
  let grouping :=
    match child.2 with
    | .shuffle => "ShuffleGrouping"
    | .default => "DefaultGrouping"
    | _ => "Unknown"
  " " ++ child.1 ++ "(" ++ grouping ++ ")"

/-- What `showNode` prints for a node. -/
def Node.text (id : String) (node : Node) : String :=
  "ID: " ++ id ++ " Runname: " ++ node.runname ++ "\n" ++
    "Specs: \n" ++
    "\tParallel level: " ++ toString node.paraLevel ++ "\n" ++
    "\tChildrens: " ++ String.join (node.children.map childText) ++ "\n\n"

/-- A node that has been printed. -/
structure Printed where
  id : String
  text : String
  deriving DecidableEq

/-- The static cache of `showNode`, and what it has printed. -/
structure Display where
  cache : List String
  output : List Printed
  deriving DecidableEq

/-- The first lines of `showNode`, before the loop. -/
def Display.print (display : Display) (id : String) (node : Node) : Display :=
  if id = "root" then { display with cache := [] }
  else if id ∈ display.cache then display
  else
    { cache := display.cache ++ [id]
      output := display.output ++ [⟨id, node.text id⟩] }

namespace TopologyBuilder

variable (builder : TopologyBuilder)

/-- `showNode`, if it returns with the given fuel. -/
def showNode : Nat → Display → String → Option Display
  | 0, _, _ => none
  | fuel + 1, display, id =>
      (builder.nodeTypeMap.get id).bind fun node =>
        node.children.foldlM
          (fun display child => showNode fuel display child.1)
          (display.print id node)

/-- `showTopology`, with what previous calls have left in the cache. -/
def showTopology (fuel : Nat) (cache : List String) : Option Display :=
  builder.showNode fuel ⟨cache, []⟩ "root"

/-- The ids of the children of a node. -/
def childIds (id : String) : List String :=
  ((builder.nodeTypeMap.get id).elim [] Node.children).map Prod.fst

/-- There is a path from the root, of at least one edge. -/
def FromRoot (id : String) : Prop :=
  Relation.TransGen (DepthFirst.Child builder.childIds) "root" id

/-- There is a path from the node back to it. -/
def OnCycle (id : String) : Prop :=
  Relation.TransGen (DepthFirst.Child builder.childIds) id id

/-- The nodes that can be reached from the root have been printed with their
texts, each once. -/
structure ShowsOnce (display : Display) : Prop where
  distinct : (display.output.map Printed.id).Nodup
  reachable : ∀ id, id ∈ display.output.map Printed.id ↔ builder.FromRoot id
  text : ∀ printed ∈ display.output, ∃ node,
    builder.nodeTypeMap.get printed.id = some node ∧
      printed.text = node.text printed.id

/-- `setParent` is called on a node that `setSpout` or `setBolt` has returned,
and with a parent that exists. -/
def Admits : BuilderCall → Prop
  | .setParent this id _ =>
      this ≠ "root" ∧ builder.nodeIdExist this ∧ builder.nodeIdExist id
  | _ => True

instance (call : BuilderCall) : Decidable (builder.Admits call) :=
  match call with
  | .setSpout _ _ => inferInstanceAs (Decidable True)
  | .setBolt _ _ _ => inferInstanceAs (Decidable True)
  | .setParent _ _ _ => inferInstanceAs (Decidable (_ ∧ _ ∧ _))

end TopologyBuilder

/-- All calls that a builder admits. -/
def builderSystem (name : String) :
    TransitionSystem TopologyBuilder BuilderCall where
  initial := .initial name
  step := fun builder call =>
    if builder.Admits call then builder.call call else none

namespace TopologyBuilder

variable {builder next : TopologyBuilder} {id : String}

/-! ## The graph of a builder -/

/-- There is a root, and all children are nodes other than the root. -/
structure Linked (builder : TopologyBuilder) : Prop where
  root : builder.nodeIdExist "root" = true
  child : ∀ id, ∀ child ∈ builder.childIds id,
    child ≠ "root" ∧ builder.nodeIdExist child = true

/-- Assign a node to an id. -/
def assign (builder : TopologyBuilder) (id : String) (node : Node) :
    TopologyBuilder :=
  { builder with nodeTypeMap := builder.nodeTypeMap.set id node }

theorem nodeIdExist_assign_iff {other : String} {node : Node} :
    (builder.assign id node).nodeIdExist other = true ↔
      other = id ∨ builder.nodeIdExist other = true := by
  rw [nodeIdExist, assign, Dictionary.get_set]
  split
  · next same => simp [same]
  · next differs => simp [differs, nodeIdExist]

theorem childIds_assign {other : String} {node : Node} :
    (builder.assign id node).childIds other =
      if other = id then node.children.map Prod.fst
      else builder.childIds other := by
  rw [childIds, assign, Dictionary.get_set]
  split
  · rfl
  · rfl

theorem Linked.initial (name : String) : Linked (.initial name) where
  root := rfl
  child := by
    intro id child isChild
    rw [TopologyBuilder.initial, childIds, Dictionary.get_set] at isChild
    split at isChild
    · cases isChild
    · cases isChild

/-- A node may be assigned if its children are nodes. -/
theorem Linked.assign
    (linked : Linked builder) {node : Node}
    (children : ∀ child ∈ node.children.map Prod.fst,
      child ≠ "root" ∧ (child = id ∨ builder.nodeIdExist child = true)) :
    Linked (builder.assign id node) where
  root := nodeIdExist_assign_iff.mpr (.inr linked.root)
  child := by
    intro parent child isChild
    rw [childIds_assign] at isChild
    rw [nodeIdExist_assign_iff]
    split at isChild
    · exact children child isChild
    · obtain ⟨notRoot, exist⟩ := linked.child parent child isChild
      exact ⟨notRoot, .inr exist⟩

/-- A node that exists becomes a child of another one. -/
theorem Linked.setParent
    (linked : Linked builder) {this : String} {scheme : GroupingScheme}
    (notRoot : this ≠ "root") (exist : builder.nodeIdExist this = true)
    (isNext : builder.setParent this id scheme = some next) :
    Linked next := by
  obtain ⟨parent, found, rfl⟩ := Option.map_eq_some_iff.mp isNext
  refine @Linked.assign builder id linked _ fun child isChild => ?_
  rw [List.map_append, List.mem_append] at isChild
  rcases isChild with old | isNew
  · have isChild : child ∈ builder.childIds id := by
      rw [childIds, found]
      exact old
    obtain ⟨notRoot, exist⟩ := linked.child id child isChild
    exact ⟨notRoot, .inr exist⟩
  · rw [List.mem_singleton.mp isNew]
    exact ⟨notRoot, .inr exist⟩

theorem Linked.setNode
    (linked : Linked builder) {runname : String} {paraLevel : Int}
    (isNext : builder.setNode id runname paraLevel = .ok next) :
    id ≠ "root" ∧ next.nodeIdExist id = true ∧ Linked next := by
  rw [TopologyBuilder.setNode] at isNext
  split at isNext
  · cases isNext
  · next isNew =>
      obtain rfl := Except.ok.inj isNext
      refine ⟨?_, ?_, ?_⟩
      · rintro rfl
        exact isNew linked.root
      · exact nodeIdExist_assign_iff.mpr (.inl rfl)
      · exact linked.assign fun child isChild => nomatch isChild

theorem Linked.call
    (linked : Linked builder) {call : BuilderCall}
    (admitted : builder.Admits call)
    (isNext : builder.call call = some next) : Linked next := by
  cases call with
  | setSpout id runname =>
      rw [TopologyBuilder.call, setSpout] at isNext
      cases created : builder.setNode id runname 1 with
      | error text =>
          rw [created] at isNext
          obtain rfl := Option.some.inj isNext
          exact linked
      | ok spout =>
          rw [created] at isNext
          obtain ⟨notRoot, exist, linkedSpout⟩ := linked.setNode created
          exact linkedSpout.setParent notRoot exist isNext
  | setBolt id runname paraLevel =>
      rw [TopologyBuilder.call, setBolt] at isNext
      cases created : builder.setNode id runname paraLevel with
      | error text =>
          rw [created] at isNext
          obtain rfl := Option.some.inj isNext
          exact linked
      | ok bolt =>
          rw [created] at isNext
          obtain rfl := Option.some.inj isNext
          exact (linked.setNode created).2.2
  | setParent this id scheme =>
      exact linked.setParent admitted.1 admitted.2.1 isNext

theorem linked_of_runs
    {name : String} {trace : List BuilderCall}
    (runs : (builderSystem name).Runs (.initial name) trace builder) :
    Linked builder := by
  refine runs.invariant Linked ?_ (.initial name)
  intro builder call next linked stepped
  simp only [builderSystem] at stepped
  split at stepped
  · next admitted => exact linked.call admitted stepped
  · cases stepped

/-! ## Showing as a traversal -/

/-- What is shown after a traversal. -/
def shown (builder : TopologyBuilder)
    (traversal : DepthFirst.Traversal String) : Display where
  cache := traversal.met
  output := traversal.order.map fun id =>
    ⟨id, (builder.nodeTypeMap.get id).elim "" (Node.text id)⟩

theorem print_shown
    {traversal : DepthFirst.Traversal String} {node : Node}
    (notRoot : id ≠ "root")
    (found : builder.nodeTypeMap.get id = some node) :
    (builder.shown traversal).print id node =
      builder.shown (traversal.meet id) := by
  rw [Display.print, if_neg notRoot, DepthFirst.Traversal.meet]
  by_cases isMet : id ∈ traversal.met
  · rw [if_pos isMet]
    exact if_pos isMet
  · rw [if_neg isMet]
    refine (if_neg isMet).trans ?_
    simp [shown, found]

theorem showNode_succ
    {fuel : Nat} {display : Display} {node : Node}
    (found : builder.nodeTypeMap.get id = some node) :
    builder.showNode (fuel + 1) display id =
      (builder.childIds id).foldlM (builder.showNode fuel)
        (display.print id node) := by
  rw [showNode, found, childIds, found]
  exact List.foldlM_map.symm

theorem exists_node (exist : builder.nodeIdExist id = true) :
    ∃ node, builder.nodeTypeMap.get id = some node :=
  Option.isSome_iff_exists.mp exist

/-- Away from the root, `showNode` is a depth-first traversal. -/
theorem Linked.simulates (linked : Linked builder) :
    DepthFirst.Simulates builder.childIds
      (fun id => id ≠ "root" ∧ builder.nodeIdExist id = true)
      builder.shown builder.showNode where
  closed := fun id _ => linked.child id
  zero := fun _ _ => rfl
  succ := by
    rintro fuel traversal id ⟨notRoot, exist⟩
    obtain ⟨node, found⟩ := exists_node exist
    rw [showNode_succ found, print_shown notRoot found]

/-- The root forgets the cache and traverses from the spouts. -/
theorem Linked.showTopology_succ
    (linked : Linked builder) (fuel : Nat) (cache : List String) :
    builder.showTopology (fuel + 1) cache =
      ((builder.childIds "root").foldlM
        (DepthFirst.traverse builder.childIds fuel) ⟨[], []⟩).map
          builder.shown := by
  obtain ⟨root, found⟩ := exists_node linked.root
  have start : (Display.mk cache []).print "root" root =
      builder.shown ⟨[], []⟩ := if_pos rfl
  rw [showTopology, showNode_succ found, start]
  exact linked.simulates.foldlM (linked.child "root")

/-- The graph is finite. -/
theorem Linked.mem_keys
    (exist : builder.nodeIdExist id = true) :
    id ∈ builder.nodeTypeMap.entries.map Prod.fst := by
  obtain ⟨node, found⟩ := exists_node exist
  exact List.mem_map.mpr ⟨_, Dictionary.get_eq_some_iff.mp found, rfl⟩

theorem fromRoot_iff :
    builder.FromRoot id ↔ ∃ spout ∈ builder.childIds "root",
      Relation.ReflTransGen (DepthFirst.Child builder.childIds) spout id :=
  Relation.TransGen.head'_iff

/-- What a finished traversal shows. -/
theorem Linked.showsOnce_shown
    (linked : Linked builder) {final : DepthFirst.Traversal String}
    (finishes : DepthFirst.Finishes builder.childIds ⟨[], []⟩
      (builder.childIds "root") final) :
    builder.ShowsOnce (builder.shown final) := by
  obtain ⟨distinct, mem_iff⟩ := finishes.order
  have ids : (builder.shown final).output.map Printed.id = final.order := by
    rw [shown, List.map_map]
    exact List.map_id final.order
  refine ⟨?_, fun id => ?_, fun printed isPrinted => ?_⟩
  · rw [ids]
    exact distinct
  · rw [ids, mem_iff, fromRoot_iff]
  · obtain ⟨id, isShown, rfl⟩ := List.mem_map.mp isPrinted
    obtain ⟨spout, isSpout, reaches⟩ := (mem_iff id).mp isShown
    have exist : builder.nodeIdExist id = true := by
      cases Relation.ReflTransGen.cases_tail reaches with
      | inl same => exact same ▸ (linked.child "root" spout isSpout).2
      | inr last =>
          obtain ⟨parent, _, isChild⟩ := last
          exact (linked.child parent id isChild).2
    obtain ⟨node, found⟩ := exists_node exist
    exact ⟨node, found, by rw [found]; rfl⟩

/-- If `showNode` returns, a traversal from the spouts has finished. -/
theorem Linked.exists_finishes
    (linked : Linked builder) {fuel : Nat} {cache : List String}
    {display : Display}
    (shows : builder.showTopology fuel cache = some display) :
    ∃ final, DepthFirst.Finishes builder.childIds ⟨[], []⟩
      (builder.childIds "root") final ∧ builder.shown final = display := by
  cases fuel with
  | zero => cases shows
  | succ fuel =>
      rw [linked.showTopology_succ] at shows
      obtain ⟨final, traversed, isDisplay⟩ := Option.map_eq_some_iff.mp shows
      exact ⟨final,
        DepthFirst.exists_foldlM_traverse_iff.mp ⟨fuel, traversed⟩,
        isDisplay⟩

/-- Where every path from the root ends, there is no cycle, and conversely. -/
theorem Linked.ends_iff (linked : Linked builder) :
    DepthFirst.Ends builder.childIds "root" ↔
      ∀ id, builder.FromRoot id → ¬ builder.OnCycle id := by
  constructor
  · intro ends id fromRoot
    exact ends.acyclic id fromRoot.to_reflTransGen
  · intro acyclic
    have fromRoot : DepthFirst.Acyclic builder.childIds "root" := by
      intro id reaches onCycle
      rcases Relation.reflTransGen_iff_eq_or_transGen.mp reaches with
        rfl | fromRoot
      · exact acyclic "root" onCycle onCycle
      · exact acyclic id fromRoot onCycle
    apply fromRoot.ends
    · intro parent _ child isChild
      exact mem_keys (linked.child parent child isChild).2
    · exact mem_keys linked.root

/-- On a cycle that can be reached from the root, `showNode` does not
return. -/
theorem Linked.showTopology_eq_none
    (linked : Linked builder) {id : String}
    (fromRoot : builder.FromRoot id) (onCycle : builder.OnCycle id)
    (fuel : Nat) (cache : List String) :
    builder.showTopology fuel cache = none := by
  cases shows : builder.showTopology fuel cache with
  | none => rfl
  | some display =>
      obtain ⟨final, finishes, _⟩ := linked.exists_finishes shows
      have ends : DepthFirst.Ends builder.childIds "root" :=
        .intro "root" (DepthFirst.exists_finishes_iff.mp ⟨final, finishes⟩)
      exact absurd onCycle (linked.ends_iff.mp ends id fromRoot)

/-- A rank that every edge raises excludes cycles. -/
theorem not_onCycle_of_rank
    (rank : String → Nat)
    (rises : ∀ entry ∈ builder.nodeTypeMap.entries,
      ∀ child ∈ entry.2.children, rank entry.1 < rank child.1) :
    ¬ builder.OnCycle id := by
  have climbs {other : String}
      (path : Relation.TransGen (DepthFirst.Child builder.childIds) id
        other) : rank id < rank other := by
    have edge {parent child : String} (isChild : child ∈ builder.childIds
        parent) : rank parent < rank child := by
      obtain ⟨edge, isEdge, rfl⟩ := List.mem_map.mp isChild
      cases found : builder.nodeTypeMap.get parent with
      | none =>
          rw [found] at isEdge
          cases isEdge
      | some node =>
          rw [found] at isEdge
          exact rises _ (Dictionary.get_eq_some_iff.mp found) edge isEdge
    induction path with
    | single isChild => exact edge isChild
    | tail _ isChild inductionHypothesis =>
        exact Nat.lt_trans inductionHypothesis (edge isChild)
  exact fun onCycle => Nat.lt_irrefl (rank id) (climbs onCycle)

end TopologyBuilder

open TopologyBuilder

variable {name : String} {trace : List BuilderCall} {builder : TopologyBuilder}

/-- Whatever the cache holds, showing a topology ends and prints each
reachable node once, exactly if no node that can be reached from the root is
on a cycle. -/
theorem exists_showTopology_iff
    (runs : (builderSystem name).Runs (.initial name) trace builder)
    (cache : List String) :
    (∃ enough display,
      (∀ fuel, enough ≤ fuel →
        builder.showTopology fuel cache = some display) ∧
      builder.ShowsOnce display) ↔
        ∀ id, builder.FromRoot id → ¬ builder.OnCycle id := by
  have linked := linked_of_runs runs
  constructor
  · rintro ⟨enough, display, shows, _⟩ id fromRoot onCycle
    have never := linked.showTopology_eq_none fromRoot onCycle enough cache
    rw [shows enough (Nat.le_refl enough)] at never
    exact Option.some_ne_none display never
  · intro acyclic
    have ends := linked.ends_iff.mpr acyclic
    obtain ⟨final, finishes⟩ :=
      (@DepthFirst.exists_finishes_iff _ builder.childIds _ ⟨[], []⟩
        (builder.childIds "root")).mpr fun _ isSpout => ends.inv isSpout
    obtain ⟨enough, traversed⟩ :=
      DepthFirst.exists_foldlM_traverse_iff.mpr finishes
    refine ⟨enough + 1, builder.shown final, fun fuel isEnough => ?_,
      linked.showsOnce_shown finishes⟩
    obtain ⟨more, rfl⟩ : ∃ more, fuel = more + 1 :=
      Nat.exists_eq_add_one.mpr (Nat.zero_lt_of_lt isEnough)
    rw [linked.showTopology_succ, DepthFirst.foldlM_traverse_mono
      (Nat.le_of_succ_le_succ isEnough) traversed]
    rfl

/-- A spout with two bolts that share a third one. -/
def diamondCalls : List BuilderCall :=
  [.setSpout "s" "Spout", .setBolt "a" "BoltA" 1, .setBolt "b" "BoltB" 1,
    .setBolt "c" "BoltC" 1, .setParent "a" "s" .shuffle,
    .setParent "b" "s" .field, .setParent "c" "a" .shuffle,
    .setParent "c" "b" .shuffle]

theorem exists_showTopology_iff_diamondCalls :
    ∃ builder,
      (builderSystem "t").Runs (.initial "t") diamondCalls builder ∧
      ∃ enough display,
        (∀ fuel, enough ≤ fuel →
          builder.showTopology fuel ["c"] = some display) ∧
        builder.ShowsOnce display := by
  have runs : (builderSystem "t").Runs (.initial "t") diamondCalls _ := rfl
  refine ⟨_, runs, (exists_showTopology_iff runs ["c"]).mpr ?_⟩
  intro id _
  apply not_onCycle_of_rank fun id => ["root", "s", "a", "b", "c"].idxOf id
  decide +kernel

/-- A spout whose bolt is a parent of its own parent. -/
def loopCalls : List BuilderCall :=
  [.setSpout "s" "Spout", .setBolt "a" "BoltA" 1, .setBolt "b" "BoltB" 1,
    .setParent "a" "s" .shuffle, .setParent "b" "a" .shuffle,
    .setParent "a" "b" .shuffle]

/-- The builder after these calls. -/
def loopBuilder : TopologyBuilder :=
  ((builderSystem "t").run (.initial "t") loopCalls).getD (.initial "t")

/-- Showing the loop does not end. -/
theorem not_exists_showTopology_loopCalls :
    ¬ ∀ (name : String) (trace : List BuilderCall)
      (builder : TopologyBuilder) (cache : List String),
      (builderSystem name).Runs (.initial name) trace builder →
      ∃ enough display,
        (∀ fuel, enough ≤ fuel →
          builder.showTopology fuel cache = some display) ∧
        builder.ShowsOnce display := by
  intro claim
  have runs : (builderSystem "t").Runs (.initial "t") loopCalls
    loopBuilder := rfl
  obtain ⟨enough, display, shows, _⟩ :=
    claim "t" loopCalls loopBuilder [] runs
  have spout : "s" ∈ loopBuilder.childIds "root" := by decide +kernel
  have first : "a" ∈ loopBuilder.childIds "s" := by decide +kernel
  have second : "b" ∈ loopBuilder.childIds "a" := by decide +kernel
  have back : "a" ∈ loopBuilder.childIds "b" := by decide +kernel
  have fromRoot : loopBuilder.FromRoot "a" := .tail (.single spout) first
  have onCycle : loopBuilder.OnCycle "a" := .tail (.single second) back
  have never := (linked_of_runs runs).showTopology_eq_none fromRoot onCycle
    enough []
  rw [shows enough (Nat.le_refl enough)] at never
  exact Option.some_ne_none display never

end Crane
end CraneSps
