import CraneSps.Streaming.Completion
import CraneSps.Streaming.UserCode
import CraneSps.Streaming.WordCount

/-!
# Filtering and joining

The bolts of the two other topologies have no state.  However many of them
there are, their printers together print what the bolt makes of each line that
has been read: at most once while tuples are on the way, and exactly once when
nothing is.
-/

namespace CraneSps
namespace Streaming

open Crane (Tuple GroupingScheme)

/-- A spout, bolts and printers. -/
def threeLayers
    (text : List UInt8) (spout : String) (bolts printers : List String)
    (base : TopologyNodeBase) (columns : Nat) : List Layer :=
  [⟨[spout], InputSpout text, false, ""⟩,
    ⟨bolts, base, true, "ShuffleGrouping"⟩,
    ⟨printers, printer columns, true, "FieldGrouping"⟩]

/-- A bolt emits something for each tuple, which depends on its fields only. -/
def Writes
    (base : TopologyNodeBase)
    (write : List (List UInt8) → List (List (List UInt8))) : Prop :=
  ∀ consumed node produced,
    base.transducer.run consumed = some (node, produced) →
      produced.map Tuple.data =
        consumed.flatMap fun tuple => write tuple.data

/-- What is printed for some lines. -/
def linesFor
    (write : List (List UInt8) → List (List (List UInt8))) (columns : Nat)
    (lines : List (List UInt8)) : List (List (List UInt8)) :=
  (lines.flatMap fun line => write [line]).map (List.take columns)

section Layers

variable {text : List UInt8} {spout : String} {bolts printers : List String}
variable {base : TopologyNodeBase} {columns : Nat}
variable {write : List (List UInt8) → List (List (List UInt8))}
variable {deployment : Deployment} {state : Deployment.State deployment}
variable {history : History}
variable (pipeline : Pipeline deployment
  (threeLayers text spout bolts printers base columns))
variable (accounted : Accounted state history)

include pipeline accounted

/-- The printers have printed what they have run on. -/
theorem printed_eq :
    (printers.flatMap state.printed) =
      ((printers.flatMap fun printer => (history printer).consumed).map
        Tuple.data).map (List.take columns) := by
  rw [List.map_flatMap, List.map_flatMap]
  apply List.flatMap_congr
  intro printer isPrinter
  have runs := pipeline.run_consumed 2 accounted rfl rfl isPrinter
  have isNode := pipeline.node _ (List.mem_of_getElem? (i := 2) rfl) printer
    isPrinter
  rw [Deployment.State.printed, outFile_of_run_printer isNode runs,
    List.map_map]
  rfl

variable (writes : Writes base write)

include writes

/-- The bolts have emitted something for each tuple that they have run on. -/
theorem data_bolts :
    (bolts.flatMap fun worker => (history worker).produced).map Tuple.data =
      (bolts.flatMap fun worker => (history worker).consumed).flatMap
        fun tuple => write tuple.data := by
  rw [List.map_flatMap, List.flatMap_assoc]
  apply List.flatMap_congr
  intro worker isWorker
  have runs := pipeline.run_consumed 1 accounted rfl rfl isWorker
  have isNode := pipeline.node _ (List.mem_of_getElem? (i := 1) rfl) worker
    isWorker
  have ofBase (other : TopologyNodeBase) (isBase : other = base)
      (node : other.Fields)
      (runs : other.transducer.run (history worker).consumed =
        some (node, (history worker).produced)) :
      (history worker).produced.map Tuple.data =
        (history worker).consumed.flatMap fun tuple => write tuple.data := by
    subst isBase
    exact writes _ node _ runs
  exact ofBase _ isNode _ runs

omit writes in
/-- What the bolts emit for the lines that the spout has emitted. -/
theorem lines_spout :
    ((history spout).produced.flatMap fun tuple => write tuple.data) =
      (linesRead (history spout).produced.length text).flatMap
        fun line => write [line] := by
  have isSpout := pipeline.isBolt _ List.mem_cons_self spout
    List.mem_cons_self
  have isNode := pipeline.node _ List.mem_cons_self spout List.mem_cons_self
  have emitted := ((accounted.children spout).spout isSpout).1
  have isData : (history spout).produced.map Tuple.data =
      (linesRead (history spout).produced.length text).map
        fun line => [line] := data_of_emit_InputSpout isNode emitted
  have lines := congrArg (List.flatMap write) isData
  rw [List.flatMap_map, List.flatMap_map] at lines
  exact lines

/-- The printers together have printed some of the lines. -/
theorem subperm_printed :
    (printers.flatMap state.printed).Subperm
      (linesFor write columns
        (linesRead (history spout).produced.length text)) := by
  have toBolts := Dataflow.subperm_flatMap (pipeline.subperm_consumed 0
    accounted rfl rfl (.inl rfl)) fun tuple => write tuple.data
  have toPrinters := Dataflow.subperm_map
    (pipeline.subperm_consumed 1 accounted rfl rfl (.inr rfl)) Tuple.data
  rw [List.flatMap_singleton, lines_spout pipeline accounted] at toBolts
  rw [printed_eq pipeline accounted]
  apply Dataflow.subperm_map
  refine toPrinters.trans ?_
  rw [data_bolts pipeline accounted writes]
  exact toBolts

/-- If nothing is on the way, they have printed all of them. -/
theorem perm_printed (quiet : state.Quiet) :
    (printers.flatMap state.printed).Perm
      (linesFor write columns
        (linesRead (history spout).produced.length text)) := by
  have toBolts := (pipeline.perm_consumed 0 accounted quiet rfl rfl
    (.inl rfl)).flatMap_right fun tuple => write tuple.data
  have toPrinters := (pipeline.perm_consumed 1 accounted quiet rfl
    rfl (.inr rfl)).map Tuple.data
  rw [List.flatMap_singleton, lines_spout pipeline accounted] at toBolts
  rw [printed_eq pipeline accounted]
  refine List.Perm.map _ (toPrinters.trans ?_)
  rw [data_bolts pipeline accounted writes]
  exact toBolts

end Layers

/-- What the layers accept: the last one prints some fields. -/
def acceptsColumns (columns index : Nat) (tuple : Tuple) : Prop :=
  (if index = 2 then max 1 columns else 1) ≤ tuple.data.length

/-- The layers fit together if the bolt emits enough fields. -/
theorem fits_threeLayers
    {base : TopologyNodeBase} {columns : Nat} (text : List UInt8)
    (spout : String) (bolts printers : List String)
    (produces : Produces base 1 (max 1 columns)) :
    Fits (threeLayers text spout bolts printers base columns)
      (acceptsColumns columns) where
  field := by
    intro index tuple accepted noField
    rw [acceptsColumns, noField] at accepted
    split at accepted
    · exact absurd (Nat.le_trans (Nat.le_max_left _ _) accepted) nofun
    · cases accepted
  bolts := by
    intro index layer isLayer
    match index, isLayer with
    | 0, isLayer | 1, isLayer =>
        obtain rfl := Option.some.inj isLayer
        rfl
  known := by
    intro index layer isLayer
    match index, isLayer with
    | 0, isLayer =>
        obtain rfl := Option.some.inj isLayer
        exact .inl rfl
    | 1, isLayer =>
        obtain rfl := Option.some.inj isLayer
        exact .inr rfl
  runs := by
    intro index layer isLayer isBolt node tuple accepted
    match index, isLayer with
    | 0, isLayer =>
        obtain rfl := Option.some.inj isLayer
        cases isBolt
    | 1, isLayer =>
        obtain rfl := Option.some.inj isLayer
        exact produces node tuple accepted
    | 2, isLayer =>
        obtain rfl := Option.some.inj isLayer
        have enough : columns ≤ tuple.data.length :=
          Nat.le_trans (Nat.le_max_right _ _) accepted
        exact produces_printer _ node tuple enough
  spouts := by
    intro index layer isLayer isSpout node next tuple isNext
    match index, isLayer with
    | 0, isLayer =>
        obtain rfl := Option.some.inj isLayer
        rw [acceptsColumns, data_of_nextTuple_InputSpout isNext]
        exact Nat.le_refl 1
    | 1, isLayer | 2, isLayer =>
        obtain rfl := Option.some.inj isLayer
        cases isSpout

/-- Some of the lines are printed in every run, and all of them when the
network has come to rest. -/
theorem printed_threeLayers
    {undefined : String → GroupingScheme} {deployment : Deployment}
    {text : List UInt8} {spout : String} {bolts printers : List String}
    {base : TopologyNodeBase} {columns : Nat}
    {write : List (List UInt8) → List (List (List UInt8))}
    {accepts : Nat → Tuple → Prop}
    (pipeline : Pipeline deployment
      (threeLayers text spout bolts printers base columns))
    (writes : Writes base write)
    (fits : Fits (threeLayers text spout bolts printers base columns) accepts)
    {trace : List Deployment.Action} {state : Deployment.State deployment}
    {history : History}
    (runs : (deployment.recorded undefined).Runs
      (deployment.recorded undefined).initial trace (state, history)) :
    let lines := linesFor write columns
      (linesRead (history spout).produced.length text)
    (printers.flatMap state.printed).Subperm lines ∧
      Levels.Inevitable (Deployment.State.BoltStep undefined)
        (fun finish => finish.Quiet ∧
          (printers.flatMap finish.printed).Perm lines)
        state := by
  intro lines
  have sound := Sound.of_runs (pipeline.closed fits) (pipeline.typed fits) runs
  refine ⟨subperm_printed pipeline sound.accounted writes, ?_⟩
  refine sound.inevitable (pipeline.closed fits) (pipeline.typed fits)
    pipeline.ranked fun finish after sound quiet same => ⟨quiet, ?_⟩
  have isSpout := pipeline.isBolt _ List.mem_cons_self spout
    List.mem_cons_self
  have printed := perm_printed pipeline sound.accounted writes quiet
  rw [same spout isSpout] at printed
  exact printed

namespace FilterTopology

/-- The topology in the client that filters. -/
def layers
    (text : List UInt8) (spout : String) (filters printers : List String) :
    List Layer :=
  threeLayers text spout filters printers FilterBolt 1

/-- What the bolt emits for a tuple. -/
def write (data : List (List UInt8)) : List (List (List UInt8)) :=
  if filterWord <:+: data.headD [] then [data] else []

theorem writes : Writes FilterBolt write :=
  fun _ _ _ runs => data_of_run_FilterBolt rfl runs

theorem fits
    (text : List UInt8) (spout : String) (filters printers : List String) :
    Fits (layers text spout filters printers) (acceptsColumns 1) :=
  fits_threeLayers text spout filters printers produces_FilterBolt

/-- The lines with the word are printed as they are. -/
theorem linesFor_write (lines : List (List UInt8)) :
    linesFor write 1 lines =
      (lines.filter fun line => filterWord <:+: line).map fun line => [line] := by
  induction lines with
  | nil => rfl
  | cons line lines inductionHypothesis =>
      rw [linesFor, List.flatMap_cons, List.map_append, ← linesFor,
        inductionHypothesis, write, List.filter_cons]
      by_cases found : filterWord <:+: line
      · simp [found]
      · simp [found]

/-- In every run the printers have printed some of the lines with the word,
none of them more often than it has been read.  If the spout makes no more
steps, the network comes to rest, and then they have printed all of them. -/
theorem printed_lines
    (undefined : String → GroupingScheme) (deployment : Deployment)
    (text : List UInt8) (spout : String) (filters printers : List String)
    (pipeline : Pipeline deployment (layers text spout filters printers))
    (trace : List Deployment.Action) (state : Deployment.State deployment)
    (history : History)
    (runs : (deployment.recorded undefined).Runs
      (deployment.recorded undefined).initial trace (state, history)) :
    let lines :=
      ((linesRead (history spout).produced.length text).filter
        fun line => filterWord <:+: line).map fun line => [line]
    (printers.flatMap state.printed).Subperm lines ∧
      Levels.Inevitable (Deployment.State.BoltStep undefined)
        (fun finish => finish.Quiet ∧
          (printers.flatMap finish.printed).Perm lines)
        state := by
  have printed := printed_threeLayers pipeline writes
    (fits text spout filters printers) runs
  rw [linesFor_write] at printed
  exact printed

/-- The line is the word, and there are two bolts. -/
def oneLine : Deployment :=
  .ofLayers PrinterBolt (layers filterWord "s" ["x", "y"] ["p"]) 1

theorem printed_lines_oneLine :
    ∃ state history, (oneLine.recorded fun _ => .default).Runs
        (oneLine.recorded fun _ => .default).initial
        (.thread "s" .nextTuple :: (pass "s" "x" 0 ++ pass "x" "p" 0))
        (state, history) ∧
      Levels.Inevitable (Deployment.State.BoltStep fun _ => .default)
        (fun finish => finish.Quiet ∧
          (["p"].flatMap finish.printed).Perm
            (((linesRead (history "s").produced.length filterWord).filter
              fun line => filterWord <:+: line).map fun line => [line]))
        state := by
  have isSome : ((oneLine.recorded fun _ => .default).run
      (oneLine.recorded fun _ => .default).initial
      (.thread "s" .nextTuple ::
        (pass "s" "x" 0 ++ pass "x" "p" 0))).isSome = true := by
    decide +kernel
  obtain ⟨⟨state, history⟩, runs⟩ := Option.isSome_iff_exists.mp isSome
  exact ⟨state, history, runs, (printed_lines _ oneLine filterWord "s"
    ["x", "y"] ["p"] (pipeline_ofLayers _ Nat.one_pos (by decide) (by decide)) _
    state history runs).2⟩

end FilterTopology

namespace JoinTopology

/-- The topology in the client that joins. -/
def layers
    (text : List UInt8) (spout : String) (joins printers : List String) :
    List Layer :=
  threeLayers text spout joins printers JoinBolt 2

theorem writes :
    Writes JoinBolt fun data => localStream.map fun str => data ++ [str] :=
  fun _ _ _ runs => data_of_run_JoinBolt rfl runs

theorem fits
    (text : List UInt8) (spout : String) (joins printers : List String) :
    Fits (layers text spout joins printers) (acceptsColumns 2) :=
  fits_threeLayers text spout joins printers (produces_JoinBolt 1)

/-- An empty file, and two bolts. -/
def noLine : Deployment :=
  .ofLayers PrinterBolt (layers [] "s" ["x", "y"] ["p"]) 1

end JoinTopology

end Streaming
end CraneSps
