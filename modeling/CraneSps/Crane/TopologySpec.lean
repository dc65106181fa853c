import Mathlib.Data.List.Nodup

/-!
# Topology specifications

A topology consists of spouts, which run once, and of bolts, which run as
often as their parallelism level says.
-/

namespace CraneSps
namespace Crane

/-- `GroupingScheme`. -/
inductive GroupingScheme
  | shuffle
  | field
  | all
  | default
  deriving DecidableEq

/-- `Node::getGroupingString`. -/
def getGroupingString : GroupingScheme → String
  | .shuffle => "ShuffleGrouping"
  | .all => "AllGrouping"
  | .field => "FieldGrouping"
  | .default => "DefaultGrouping"

/-- `Node::parseGroupingString`; `none` is the end of the function without a
`return`. -/
def parseGroupingString (s : String) : Option GroupingScheme :=
  if s = "ShuffleGrouping" then some .shuffle
  else if s = "FieldGrouping" then some .field
  else none

/-- `BoltSpec`; a parent is a name with a grouping. -/
structure BoltSpec where
  name : String := ""
  parents : List (String × String) := []
  runname : String := "run"
  paraLevel : Int := 3
  deriving DecidableEq

/-- `SpoutSpec`. -/
structure SpoutSpec where
  name : String := ""
  runname : String := "run"
  deriving DecidableEq

/-- `TopologySpec`. -/
structure TopologySpec where
  name : String := ""
  boltSpecs : List BoltSpec := []
  spoutSpecs : List SpoutSpec := []
  node : Int := 3
  ackerbolt : Bool := true
  deriving DecidableEq, Inhabited

namespace TopologySpec

/-- The names of the spouts and the bolts, in this order. -/
def names (spec : TopologySpec) : List String :=
  spec.spoutSpecs.map SpoutSpec.name ++ spec.boltSpecs.map BoltSpec.name

/-- One entry for each worker that is to be created. -/
def tasks (spec : TopologySpec) : List String :=
  spec.spoutSpecs.map SpoutSpec.name ++
    spec.boltSpecs.flatMap fun bolt =>
      List.replicate bolt.paraLevel.toNat bolt.name

/-- `runMap`: a later entry replaces an earlier one. -/
def runname (spec : TopologySpec) (name : String) : String :=
  match spec.boltSpecs.findRev? fun bolt => bolt.name == name with
  | some bolt => bolt.runname
  | none =>
      match spec.spoutSpecs.findRev? fun spout => spout.name == name with
      | some spout => spout.runname
      | none => ""

variable {spec : TopologySpec} {name : String}

/-- The tasks of a name that belongs to none of the bolts. -/
theorem count_bolts_of_notMem
    {bolts : List BoltSpec} (absent : name ∉ bolts.map BoltSpec.name) :
    (bolts.flatMap fun bolt =>
      List.replicate bolt.paraLevel.toNat bolt.name).count name = 0 := by
  rw [List.count_eq_zero]
  intro isTask
  obtain ⟨bolt, present, copies⟩ := List.mem_flatMap.mp isTask
  obtain ⟨_, rfl⟩ := List.mem_replicate.mp copies
  exact absent (List.mem_map.mpr ⟨bolt, present, rfl⟩)

/-- The tasks of a bolt among bolts with distinct names. -/
theorem count_bolts_of_mem
    {bolts : List BoltSpec} {bolt : BoltSpec}
    (distinct : (bolts.map BoltSpec.name).Nodup) (present : bolt ∈ bolts) :
    (bolts.flatMap fun bolt =>
      List.replicate bolt.paraLevel.toNat bolt.name).count bolt.name =
        bolt.paraLevel.toNat := by
  induction bolts with
  | nil => nomatch present
  | cons first bolts inductionHypothesis =>
      obtain ⟨notLater, laterDistinct⟩ := List.nodup_cons.mp distinct
      rw [List.flatMap_cons, List.count_append]
      rcases List.mem_cons.mp present with rfl | later
      · rw [List.count_replicate_self, count_bolts_of_notMem notLater,
          Nat.add_zero]
      · have differs : first.name ≠ bolt.name := by
          intro same
          exact notLater (same ▸ List.mem_map.mpr ⟨bolt, later, rfl⟩)
        rw [List.count_replicate, inductionHypothesis laterDistinct later]
        simp [differs]

/-- With distinct names every spout is one task. -/
theorem count_tasks_spout
    (distinct : spec.names.Nodup) {spout : SpoutSpec}
    (present : spout ∈ spec.spoutSpecs) :
    spec.tasks.count spout.name = 1 := by
  obtain ⟨spouts, _, apart⟩ := List.nodup_append.mp distinct
  have isSpout : spout.name ∈ spec.spoutSpecs.map SpoutSpec.name :=
    List.mem_map.mpr ⟨spout, present, rfl⟩
  rw [tasks, List.count_append, List.count_eq_one_of_mem spouts isSpout,
    count_bolts_of_notMem fun isBolt => apart _ isSpout _ isBolt rfl]

/-- With distinct names every bolt is as many tasks as its level says. -/
theorem count_tasks_bolt
    (distinct : spec.names.Nodup) {bolt : BoltSpec}
    (present : bolt ∈ spec.boltSpecs) :
    (spec.tasks.count bolt.name : Int) = max bolt.paraLevel 0 := by
  obtain ⟨_, bolts, apart⟩ := List.nodup_append.mp distinct
  have isBolt : bolt.name ∈ spec.boltSpecs.map BoltSpec.name :=
    List.mem_map.mpr ⟨bolt, present, rfl⟩
  have noSpout : (spec.spoutSpecs.map SpoutSpec.name).count bolt.name = 0 :=
    List.count_eq_zero.mpr fun isSpout => apart _ isSpout _ isBolt rfl
  rw [tasks, List.count_append, noSpout, Nat.zero_add,
    count_bolts_of_mem bolts present, Int.toNat_eq_max]

end TopologySpec

end Crane
end CraneSps
