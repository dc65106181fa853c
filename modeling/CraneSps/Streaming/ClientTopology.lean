import CraneSps.Crane.Compilation
import CraneSps.Crane.SubmitRequest
import CraneSps.Streaming.Deployed
import CraneSps.Streaming.WordCount

/-!
# The topology of the client

The client builds a topology, and Nimbus gets it in a request, prepares it and
starts it.  The request leaves out that there is one printer, so there are
three.  All the same the words are counted: what the workers of the cluster
print in the end are the numbers from one to that of the occurrences of each
word.
-/

namespace CraneSps
namespace Streaming
namespace WordCountTopology

open Crane (BuilderCall TopologyBuilder TopologySpec Cluster GroupingScheme
  getLibraryLocalPath getLibraryName fieldRoute)

/-- The calls in `main` of the client. -/
def calls : List BuilderCall :=
  [.setSpout "input" "InputSpout",
    .setBolt "split" "SplitSentenceBolt" 5,
    .setParent "split" "input" .shuffle,
    .setBolt "wordcount" "WordCountBolt" 5,
    .setParent "wordcount" "split" .field,
    .setBolt "print" "PrinterBolt" 1,
    .setParent "print" "wordcount" .field]

/-- The name of the topology, which is its id. -/
def topoId : String := "wordcounttopo"

/-- The tasks in their order. -/
def names : List String := ["input", "split", "wordcount", "print"]

/-- What the builder builds. -/
def built : TopologySpec where
  name := topoId
  boltSpecs :=
    [{ name := "print", parents := [("wordcount", "FieldGrouping")]
       runname := "PrinterBolt", paraLevel := 1 },
      { name := "split", parents := [("input", "ShuffleGrouping")]
        runname := "SplitSentenceBolt", paraLevel := 5 },
      { name := "wordcount", parents := [("split", "FieldGrouping")]
        runname := "WordCountBolt", paraLevel := 5 }]
  spoutSpecs := [{ name := "input", runname := "InputSpout" }]

theorem buildTopology_calls :
    (((TopologyBuilder.initial topoId).calls calls).bind
      fun builder => builder.buildTopology 5) = some built := by
  decide +kernel

/-- Whenever the search of the builder ends, this is what it has built. -/
theorem eq_built
    {fuel : Nat} {topology : TopologySpec}
    (isBuilt : (((TopologyBuilder.initial topoId).calls calls).bind
      fun builder => builder.buildTopology fuel) = some topology) :
    topology = built := by
  obtain ⟨builder, isBuilder, found⟩ := Option.bind_eq_some_iff.mp isBuilt
  have expected := buildTopology_calls
  rw [isBuilder, Option.bind_some] at expected
  exact TopologyBuilder.buildTopology_unique found expected

/-- What Nimbus gets. -/
def spec : TopologySpec :=
  .parseFromRequest built.submitRequest

/-- How the tasks get their tuples. -/
def grouping (name : String) : String :=
  if name = "input" then ""
  else if name = "split" then "ShuffleGrouping"
  else "FieldGrouping"

theorem chained : Chained spec names grouping where
  distinct := by decide +kernel
  complete := by decide +kernel
  tasks := by decide +kernel
  links := by
    intro addresses index name child atIndex atNext
    match index, atNext with
    | 0, atNext | 1, atNext | 2, atNext =>
        obtain rfl := Option.some.inj atIndex
        obtain rfl := Option.some.inj atNext
        rfl
  last := by
    intro addresses index name atIndex isLast
    match index, isLast with
    | 0, isLast | 1, isLast | 2, isLast => cases isLast
    | 3, _ =>
        obtain rfl := Option.some.inj atIndex
        rfl

/-- The libraries with the classes of the topology. -/
structure Libraries
    (library : String → TopologyNodeBase) (text : List UInt8) : Prop where
  input : library (getLibraryLocalPath (getLibraryName topoId "InputSpout")) =
    InputSpout text
  split : library
      (getLibraryLocalPath (getLibraryName topoId "SplitSentenceBolt")) =
    EchoBolt
  wordcount : library
      (getLibraryLocalPath (getLibraryName topoId "WordCountBolt")) =
    WordCountBolt
  print : library
      (getLibraryLocalPath (getLibraryName topoId "PrinterBolt")) =
    PrinterBolt

theorem runnames :
    spec.runname "input" = "InputSpout" ∧
      spec.runname "split" = "SplitSentenceBolt" ∧
      spec.runname "wordcount" = "WordCountBolt" ∧
      spec.runname "print" = "PrinterBolt" := by
  decide +kernel

theorem kinds :
    Crane.isBolt "InputSpout" = false ∧
      Crane.isBolt "SplitSentenceBolt" = true ∧
      Crane.isBolt "WordCountBolt" = true ∧
      Crane.isBolt "PrinterBolt" = true := by
  decide +kernel

theorem groupings :
    grouping "input" = "" ∧ grouping "split" = "ShuffleGrouping" ∧
      grouping "wordcount" = "FieldGrouping" ∧
      grouping "print" = "FieldGrouping" := by
  decide +kernel

/-- The workers of the cluster form the pipeline that counts words. -/
theorem pipeline_running
    {library : String → TopologyNodeBase} {text : List UInt8}
    (libraries : Libraries library text) {running : Cluster}
    {ids : List String} (isRunning : Crane.Running running ids topoId spec)
    {capacity : Nat} (roomy : 0 < capacity) :
    let instances := running.nimbus.topoStats.getTopoTaskInstances topoId
    ∃ spout, instances "input" = [spout] ∧
      Pipeline (.ofCluster library running ids topoId spec.names capacity)
        (layers text spout (instances "split") (instances "wordcount")
          (instances "print")) := by
  intro instances
  have one : (instances "input").length = 1 :=
    (isRunning.exactly "input").trans (by decide +kernel)
  obtain ⟨spout, isSpout⟩ := List.length_eq_one_iff.mp one
  refine ⟨spout, isSpout, ?_⟩
  have pipeline := pipeline_ofCluster library roomy isRunning chained
  have input := layerOf_eq running runnames.1 libraries.input
    kinds.1 groupings.1
  have split := layerOf_eq running runnames.2.1 libraries.split
    kinds.2.1 groupings.2.1
  have wordcount := layerOf_eq running runnames.2.2.1
    libraries.wordcount kinds.2.2.1 groupings.2.2.1
  have print := layerOf_eq running runnames.2.2.2 libraries.print
    kinds.2.2.2 groupings.2.2.2
  rw [names, List.map_cons, List.map_cons, List.map_cons, List.map_cons,
    List.map_nil, input, split, wordcount, print] at pipeline
  rw [layers, ← isSpout]
  exact pipeline

/-- In every run of the workers, what is printed for a word are the numbers
from one to at most that of its occurrences in the lines that have been read,
all on one of three printers; and once the file has been read, the workers come
to rest with all of them printed. -/
def CountsWords
    (undefined : String → GroupingScheme)
    (library : String → TopologyNodeBase) (text : List UInt8)
    (running : Cluster) (members : List String) (capacity : Nat) : Prop :=
  let instances := running.nimbus.topoStats.getTopoTaskInstances topoId
  let printers := instances "print"
  let deployment : Deployment :=
    .ofCluster library running members.dedup topoId spec.names capacity
  ∃ spout, instances "input" = [spout] ∧ printers.length = 3 ∧
    ∀ (trace : List Deployment.Action)
      (state : Deployment.State deployment) (history : History),
      (deployment.recorded undefined).Runs
        (deployment.recorded undefined).initial trace (state, history) →
      (∀ word, ∃ occurrences ≤ (wordsRead text (history spout)).count word,
        ∀ printer ∈ printers,
          ((state.printed printer).filter fun line => line.headD [] = word) =
            if printer = fieldRoute printers word then
              countLines word occurrences
            else []) ∧
      (text.count 10 < (history spout).produced.length →
        Levels.Inevitable (Deployment.State.BoltStep undefined)
          (fun finish => ∀ word, ∀ printer ∈ printers,
            ((finish.printed printer).filter
                fun line => line.headD [] = word) =
              if printer = fieldRoute printers word then
                countLines word ((tokens text).count word)
              else [])
          state)

/-- The libraries that are compiled from the sources of the topology. -/
def compiled (text : List UInt8) (path : String) : TopologyNodeBase :=
  if path = getLibraryLocalPath (getLibraryName topoId "InputSpout") then
    InputSpout text
  else if path =
      getLibraryLocalPath (getLibraryName topoId "SplitSentenceBolt") then
    EchoBolt
  else if path =
      getLibraryLocalPath (getLibraryName topoId "WordCountBolt") then
    WordCountBolt
  else PrinterBolt

theorem libraries_compiled (text : List UInt8) :
    Libraries (compiled text) text where
  input := if_pos rfl
  split := by
    rw [compiled, if_neg (by decide +kernel), if_pos rfl]
  wordcount := by
    rw [compiled, if_neg (by decide +kernel), if_neg (by decide +kernel),
      if_pos rfl]
  print := by
    rw [compiled, if_neg (by decide +kernel), if_neg (by decide +kernel),
      if_neg (by decide +kernel)]

end WordCountTopology
end Streaming
end CraneSps
