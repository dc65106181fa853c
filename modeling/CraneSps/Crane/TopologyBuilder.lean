import CraneSps.Crane.TopologySpec
import CraneSps.Foundation.SortedMap
import Mathlib.Data.String.Basic

/-!
# Building a topology

A builder keeps the nodes of a graph by their ids, with the edges at the
parents.  `buildTopology` searches the graph breadth first from the spouts and
writes the edges it meets to the bolts.
-/

namespace CraneSps
namespace Crane

/-- `topology::Node`. -/
structure Node where
  id : String := ""
  runname : String := ""
  paraLevel : Int := 0
  children : List (String × GroupingScheme) := []
  deriving DecidableEq

/-- `TopologyBuilder`, with `Node::nodeTypeMap`. -/
structure TopologyBuilder where
  name : String
  nodeTypeMap : Dictionary String Node

/-- The calls of a program that builds a topology; `setParent` is called on
the bolt. -/
inductive BuilderCall
  | setSpout (id runname : String)
  | setBolt (id runname : String) (paraLevel : Int)
  | setParent (bolt id : String) (groupingScheme : GroupingScheme)
  deriving DecidableEq

/-- `boltMap` in `buildTopology`. -/
abbrev BoltMap := Dictionary String BoltSpec

namespace TopologyBuilder

/-- A new builder has the virtual root only. -/
def initial (name : String) : TopologyBuilder where
  name := name
  nodeTypeMap := Dictionary.set .empty "root" {}

variable (builder : TopologyBuilder)

/-- `nodeIdExist`. -/
def nodeIdExist (id : String) : Bool :=
  (builder.nodeTypeMap.get id).isSome

/-- `setNode`. -/
def setNode (id runname : String) (paraLevel : Int) :
    Except String TopologyBuilder :=
  if builder.nodeIdExist id then .error ("node id: " ++ id ++ " existed")
  else
    .ok
      { builder with
        nodeTypeMap := builder.nodeTypeMap.set id
          { id := id, runname := runname, paraLevel := paraLevel } }

/-- `Node::setParent` on the node with the id `this`; without a parent it
dereferences a null pointer. -/
def setParent (this id : String) (groupingScheme : GroupingScheme) :
    Option TopologyBuilder :=
  (builder.nodeTypeMap.get id).map fun parent =>
    { builder with
      nodeTypeMap := builder.nodeTypeMap.set id
        { parent with
          children := parent.children ++ [(this, groupingScheme)] } }

/-- `setBolt`. -/
def setBolt (id runname : String) (paraLevel : Int) :
    Except String TopologyBuilder :=
  builder.setNode id runname paraLevel

/-- `setSpout`. -/
def setSpout (id runname : String) :
    Except String (Option TopologyBuilder) :=
  (builder.setNode id runname 1).map fun next =>
    next.setParent id "root" .default

/-- A call; one that throws an exception has changed nothing. -/
def call : BuilderCall → Option TopologyBuilder
  | .setSpout id runname =>
      match builder.setSpout id runname with
      | .ok next => next
      | .error _ => some builder
  | .setBolt id runname paraLevel =>
      match builder.setBolt id runname paraLevel with
      | .ok next => some next
      | .error _ => some builder
  | .setParent bolt id groupingScheme =>
      builder.setParent bolt id groupingScheme

/-- One call after the other. -/
def calls (history : List BuilderCall) : Option TopologyBuilder :=
  history.foldlM call builder

/-- The body of the inner loop of `buildTopology`. -/
def visitChild
    (parent : Node) (state : BoltMap × List String)
    (child : String × GroupingScheme) : Option (BoltMap × List String) :=
  let (boltMap, queue) := state
  let edge := (parent.id, getGroupingString child.2)
  match boltMap.get child.1 with
  | none =>
      (builder.nodeTypeMap.get child.1).map fun bolt =>
        (boltMap.set child.1
          { name := bolt.id
            parents := [edge]
            runname := bolt.runname
            paraLevel := bolt.paraLevel },
          queue ++ [child.1])
  | some bs =>
      some (boltMap.set child.1 { bs with parents := bs.parents ++ [edge] },
        queue)

/-- The outer loop of `buildTopology`; `none` also says that the fuel does not
suffice. -/
def explore : Nat → BoltMap → List String → Option BoltMap
  | 0, _, _ => none
  | _ + 1, boltMap, [] => some boltMap
  | fuel + 1, boltMap, id :: queue =>
      (builder.nodeTypeMap.get id).bind fun parent =>
        (parent.children.foldlM (builder.visitChild parent)
          (boltMap, queue)).bind fun (boltMap, queue) =>
            explore fuel boltMap queue

/-- The specification of a spout. -/
def spoutSpec (child : String × GroupingScheme) : Option SpoutSpec :=
  (builder.nodeTypeMap.get child.1).map fun spout =>
    { name := spout.id, runname := spout.runname }

/-- `buildTopology`, if its loop ends with the given fuel. -/
def buildTopology (fuel : Nat) : Option TopologySpec :=
  (builder.nodeTypeMap.get "root").bind fun virtualRoot =>
    (virtualRoot.children.mapM builder.spoutSpec).bind fun spoutSpecs =>
      (builder.explore fuel .empty
        (virtualRoot.children.map Prod.fst)).map fun boltMap =>
          { name := builder.name
            boltSpecs := boltMap.entries.map Prod.snd
            spoutSpecs := spoutSpecs }

end TopologyBuilder

/-! ## Declarations -/

/-- A declared bolt. -/
structure BoltDeclaration where
  id : String
  runname : String
  paraLevel : Int
  deriving DecidableEq

/-- A declared edge. -/
structure Edge where
  bolt : String
  parent : String
  groupingScheme : GroupingScheme
  deriving DecidableEq

/-- What a sequence of calls has declared. -/
structure Declarations where
  spouts : List SpoutSpec
  bolts : List BoltDeclaration
  edges : List Edge

namespace Declarations

variable (declared : Declarations)

/-- The ids of the declared nodes. -/
def ids : List String :=
  declared.spouts.map SpoutSpec.name ++ declared.bolts.map BoltDeclaration.id

/-- What is declared after a call; ids that exist are rejected. -/
def declare : BuilderCall → Declarations
  | .setSpout id runname =>
      if id = "root" ∨ id ∈ declared.ids then declared
      else
        { declared with
          spouts := declared.spouts ++ [{ name := id, runname := runname }] }
  | .setBolt id runname paraLevel =>
      if id = "root" ∨ id ∈ declared.ids then declared
      else
        { declared with bolts := declared.bolts ++ [⟨id, runname, paraLevel⟩] }
  | .setParent bolt id groupingScheme =>
      { declared with
        edges := declared.edges ++ [⟨bolt, id, groupingScheme⟩] }

/-- `setParent` is called on a bolt, with a declared parent. -/
def Allows : BuilderCall → Prop
  | .setParent bolt id _ =>
      bolt ∈ declared.bolts.map BoltDeclaration.id ∧ id ∈ declared.ids
  | _ => True

instance (call : BuilderCall) : Decidable (declared.Allows call) := by
  rcases call <;> unfold Allows <;> infer_instance

/-- All calls are allowed. -/
def AllowsAll : Declarations → List BuilderCall → Prop
  | _, [] => True
  | declared, call :: history =>
      declared.Allows call ∧ (declared.declare call).AllowsAll history

instance AllowsAll.decidable :
    (declared : Declarations) → (history : List BuilderCall) →
      Decidable (declared.AllowsAll history)
  | _, [] => isTrue trivial
  | declared, call :: history =>
      @instDecidableAnd _ _ _
        (AllowsAll.decidable (declared.declare call) history)

/-- Nothing is declared. -/
def none : Declarations where
  spouts := []
  bolts := []
  edges := []

/-- What all calls have declared. -/
def ofCalls (history : List BuilderCall) : Declarations :=
  history.foldl declare none

/-- The edges from a parent, in the order of their declaration. -/
def outgoing (parent : String) : List Edge :=
  declared.edges.filter fun edge => edge.parent = parent

/-- There is a path from a spout. -/
def Reachable (id : String) : Prop :=
  ∃ spout ∈ declared.spouts,
    Relation.ReflTransGen
      (fun parent child => ∃ edge ∈ declared.edges,
        edge.parent = parent ∧ edge.bolt = child)
      spout.name id

end Declarations

end Crane
end CraneSps
