import CraneSps.Crane.TopologySpec

/-!
# Submitting a topology

The client encodes a specification as a `SubmitRequest` and the daemon decodes
it again.  The message has no field for the number of nodes, and the client
leaves out every parallelism level that is not above the default, so that a
smaller level is replaced by the default on the other side.
-/

namespace CraneSps
namespace Crane

/-! ## Messages -/

/-- `CraneClientRequest::Parent`. -/
structure ParentMessage where
  name : String
  grouping : String
  deriving DecidableEq

/-- `CraneClientRequest::BoltSpec`. -/
structure BoltSpecMessage where
  name : String
  parents : List ParentMessage
  runname : String
  paralevel : Option Int
  deriving DecidableEq

/-- `CraneClientRequest::SpoutSpec`. -/
structure SpoutSpecMessage where
  name : String
  runname : String
  deriving DecidableEq

/-- `CraneClientRequest::SubmitRequest`. -/
structure SubmitRequest where
  toponame : String
  boltspecs : List BoltSpecMessage
  spoutspecs : List SpoutSpecMessage
  ackerbolt : Option Bool
  deriving DecidableEq

/-! ## The client -/

/-- The body of the loop of `submit` over the bolts. -/
def BoltSpec.toMessage (bs : BoltSpec) : BoltSpecMessage where
  name := bs.name
  parents := bs.parents.map fun pair => ⟨pair.1, pair.2⟩
  runname := bs.runname
  paralevel := if bs.paraLevel > 3 then some bs.paraLevel else none

/-- The body of the loop of `submit` over the spouts. -/
def SpoutSpec.toMessage (ss : SpoutSpec) : SpoutSpecMessage where
  name := ss.name
  runname := ss.runname

/-- The request that `Client::Impl::submit` sends. -/
def TopologySpec.submitRequest (spec : TopologySpec) : SubmitRequest where
  toponame := spec.name
  boltspecs := spec.boltSpecs.map BoltSpec.toMessage
  spoutspecs := spec.spoutSpecs.map SpoutSpec.toMessage
  ackerbolt := some spec.ackerbolt

/-! ## The daemon -/

/-- The body of the loop of `parseFromRequest` over the spouts. -/
def SpoutSpecMessage.parse (ss : SpoutSpecMessage) : SpoutSpec :=
  { name := ss.name, runname := ss.runname }

/-- The body of the loop of `parseFromRequest` over the bolts. -/
def BoltSpecMessage.parse (bs : BoltSpecMessage) : BoltSpec :=
  { name := bs.name
    runname := bs.runname
    -- an unset level leaves the one of the constructor
    paraLevel := bs.paralevel.getD ({} : BoltSpec).paraLevel
    parents := bs.parents.map fun parent => (parent.name, parent.grouping) }

/-- `TopologySpec::parseFromRequest`. -/
def TopologySpec.parseFromRequest (request : SubmitRequest) : TopologySpec :=
  { name := request.toponame
    spoutSpecs := request.spoutspecs.map SpoutSpecMessage.parse
    boltSpecs := request.boltspecs.map BoltSpecMessage.parse
    ackerbolt := request.ackerbolt.getD ({} : TopologySpec).ackerbolt }

/-! ## The round trip -/

/-- The bolt with at least the default parallelism level. -/
def BoltSpec.raiseLevel (bs : BoltSpec) : BoltSpec :=
  { bs with paraLevel := max bs.paraLevel 3 }

theorem BoltSpec.raiseLevel_eq_self_iff {bs : BoltSpec} :
    bs.raiseLevel = bs ↔ 3 ≤ bs.paraLevel := by
  cases bs with
  | mk name parents runname paraLevel =>
      simp only [raiseLevel, BoltSpec.mk.injEq, true_and]
      exact ⟨fun raised => by omega, fun above => by omega⟩

@[simp] theorem SpoutSpec.parse_toMessage (ss : SpoutSpec) :
    ss.toMessage.parse = ss := rfl

@[simp] theorem BoltSpec.parse_toMessage (bs : BoltSpec) :
    bs.toMessage.parse = bs.raiseLevel := by
  have parents : (bs.parents.map fun pair =>
      (⟨pair.1, pair.2⟩ : ParentMessage)).map
        (fun parent => (parent.name, parent.grouping)) = bs.parents := by
    rw [List.map_map]
    exact List.map_id _
  have level : (if bs.paraLevel > 3 then some bs.paraLevel else none).getD 3 =
      max bs.paraLevel 3 := by
    split
    · next above =>
        rw [Option.getD_some]
        omega
    · next notAbove =>
        rw [Option.getD_none]
        omega
  simp only [BoltSpecMessage.parse, toMessage, parents, level, raiseLevel]

namespace TopologySpec

variable {spec : TopologySpec}

/-- What the daemon gets out of the request of the client. -/
theorem parseFromRequest_submitRequest (spec : TopologySpec) :
    parseFromRequest spec.submitRequest =
      { spec with
        boltSpecs := spec.boltSpecs.map BoltSpec.raiseLevel
        node := 3 } := by
  have bolts : (spec.boltSpecs.map BoltSpec.toMessage).map
      BoltSpecMessage.parse = spec.boltSpecs.map BoltSpec.raiseLevel := by
    rw [List.map_map]
    exact List.map_congr_left fun bolt _ => bolt.parse_toMessage
  have spouts : (spec.spoutSpecs.map SpoutSpec.toMessage).map
      SpoutSpecMessage.parse = spec.spoutSpecs := by
    rw [List.map_map]
    exact (List.map_congr_left fun spout _ => spout.parse_toMessage).trans
      (List.map_id _)
  simp only [parseFromRequest, submitRequest, bolts, spouts,
    Option.getD_some]

/-- A specification for the default number of nodes survives the round trip
exactly if no bolt has a parallelism level below the default. -/
theorem parseFromRequest_submitRequest_iff (defaultNode : spec.node = 3) :
    parseFromRequest spec.submitRequest = spec ↔
      ∀ bolt ∈ spec.boltSpecs, 3 ≤ bolt.paraLevel := by
  have unraised : spec.boltSpecs.map BoltSpec.raiseLevel = spec.boltSpecs ↔
      ∀ bolt ∈ spec.boltSpecs, 3 ≤ bolt.paraLevel := by
    rw [← List.map_id spec.boltSpecs, List.map_map, List.map_inj_left,
      List.map_id]
    exact forall₂_congr fun bolt _ => BoltSpec.raiseLevel_eq_self_iff
  rw [parseFromRequest_submitRequest, ← unraised]
  cases spec with
  | mk name boltSpecs spoutSpecs node ackerbolt =>
      obtain rfl : node = 3 := defaultNode
      simp

/-- The topology that the client submits: three bolts, one of them with a
single worker. -/
def wordCount : TopologySpec where
  name := "wordcounttopo"
  boltSpecs :=
    [{ name := "print"
       parents := [("wordcount", "FieldGrouping")]
       runname := "PrinterBolt"
       paraLevel := 1 },
      { name := "split"
        parents := [("input", "ShuffleGrouping")]
        runname := "SplitSentenceBolt"
        paraLevel := 5 },
      { name := "wordcount"
        parents := [("split", "FieldGrouping")]
        runname := "WordCountBolt"
        paraLevel := 5 }]
  spoutSpecs := [{ name := "input", runname := "InputSpout" }]

/-- The same with three workers for each bolt that had less. -/
def raisedWordCount : TopologySpec :=
  { wordCount with boltSpecs := wordCount.boltSpecs.map BoltSpec.raiseLevel }

theorem parseFromRequest_raisedWordCount :
    raisedWordCount.node = 3 ∧
      (∀ bolt ∈ raisedWordCount.boltSpecs, 3 ≤ bolt.paraLevel) ∧
      parseFromRequest raisedWordCount.submitRequest = raisedWordCount :=
  have levels : ∀ bolt ∈ raisedWordCount.boltSpecs, 3 ≤ bolt.paraLevel := by
    decide
  ⟨rfl, levels, (parseFromRequest_submitRequest_iff rfl).mpr levels⟩

/-- The single worker of the last bolt becomes three. -/
theorem parseFromRequest_wordCount_ne :
    wordCount.node = 3 ∧
      parseFromRequest wordCount.submitRequest ≠ wordCount := by
  decide

end TopologySpec

end Crane
end CraneSps
