import CraneSps.Streaming.Completion
import CraneSps.Streaming.UserCode

/-!
# Counting words

However many workers split and count, and whatever the order of all their
steps is, what is printed for a word are the numbers from one on, in this
order.  The last number is at most that of the occurrences of the word in the
lines that have been read, and if nothing is on the way it is this number.
-/

namespace CraneSps
namespace Streaming

open Crane (Tuple GroupingScheme fieldRoute)

/-- What a worker has printed. -/
def Deployment.State.printed
    {deployment : Deployment} (state : Deployment.State deployment)
    (worker : String) : List (List (List UInt8)) :=
  (deployment.node worker).outFile (state.child worker).node

namespace WordCountTopology

/-- The topology that the client submits: a spout, and bolts that split, count
and print. -/
def layers
    (text : List UInt8) (spout : String)
    (splits counters printers : List String) : List Layer :=
  [⟨[spout], InputSpout text, false, ""⟩,
    ⟨splits, EchoBolt, true, "ShuffleGrouping"⟩,
    ⟨counters, WordCountBolt, true, "FieldGrouping"⟩,
    ⟨printers, PrinterBolt, true, "FieldGrouping"⟩]

/-- The words of the lines that the spout has emitted. -/
def wordsRead (text : List UInt8) (spout : WorkerHistory) :
    List (List UInt8) :=
  (linesRead spout.produced.length text).flatMap tokens

section Layers

variable {text : List UInt8} {spout : String}
variable {splits counters printers : List String}
variable {deployment : Deployment} {state : Deployment.State deployment}
variable {history : History}
variable (pipeline : Pipeline deployment
  (layers text spout splits counters printers))
variable (accounted : Accounted state history)

include pipeline accounted

/-- The words in what the spout has emitted. -/
theorem words_spout :
    ((history spout).produced.flatMap fun tuple =>
      tokens (firstField tuple)) = wordsRead text (history spout) := by
  have isSpout := pipeline.isBolt _ List.mem_cons_self spout
    List.mem_cons_self
  have isNode := pipeline.node _ List.mem_cons_self spout List.mem_cons_self
  have emitted := ((accounted.children spout).spout isSpout).1
  have isData : (history spout).produced.map Tuple.data =
      (linesRead (history spout).produced.length text).map
        fun line => [line] := data_of_emit_InputSpout isNode emitted
  have words := congrArg
    (List.flatMap fun data : List (List UInt8) => tokens (data.headD []))
    isData
  rw [List.flatMap_map, List.flatMap_map] at words
  exact words

/-- The workers that split emit the words of what they have run on. -/
theorem words_splits :
    (splits.flatMap fun worker => (history worker).produced).map firstField =
      (splits.flatMap fun worker => (history worker).consumed).flatMap
        fun tuple => tokens (firstField tuple) := by
  rw [List.map_flatMap, List.flatMap_assoc]
  apply List.flatMap_congr
  intro worker isWorker
  have runs := pipeline.run_consumed 1 accounted rfl rfl isWorker
  have isNode := pipeline.node _ (List.mem_of_getElem? (i := 1) rfl) worker
    isWorker
  have isData : (history worker).produced.map Tuple.data =
      ((history worker).consumed.flatMap fun tuple =>
        tokens (firstField tuple)).map fun token => [token] :=
    data_of_run_EchoBolt isNode runs
  have words := congrArg
    (List.map fun data : List (List UInt8) => data.headD []) isData
  rw [List.map_map, List.map_map] at words
  refine words.trans ?_
  exact List.map_id _

/-- A word has been split from the lines at most as often as it occurs. -/
theorem count_splits_le (word : List UInt8) :
    ((splits.flatMap fun worker => (history worker).produced).map
        firstField).count word ≤
      (wordsRead text (history spout)).count word := by
  have arrived := Dataflow.subperm_flatMap (pipeline.subperm_consumed 0
    accounted rfl rfl (.inl rfl))
    fun tuple => tokens (firstField tuple)
  rw [words_splits pipeline accounted]
  refine (arrived.count_le word).trans (Nat.le_of_eq ?_)
  rw [List.flatMap_singleton, words_spout pipeline accounted]

theorem count_splits_of_quiet (quiet : state.Quiet) (word : List UInt8) :
    ((splits.flatMap fun worker => (history worker).produced).map
        firstField).count word =
      (wordsRead text (history spout)).count word := by
  have arrived := (pipeline.perm_consumed 0 accounted quiet rfl rfl
    (.inl rfl)).flatMap_right fun tuple => tokens (firstField tuple)
  rw [words_splits pipeline accounted]
  refine (arrived.count_eq word).trans ?_
  rw [List.flatMap_singleton, words_spout pipeline accounted]

/-- The worker for a word has counted it at most as often as it occurs. -/
theorem length_counter_le (word : List UInt8) :
    ((history (fieldRoute counters word)).consumed.filter
        fun tuple => firstField tuple = word).length ≤
      (wordsRead text (history spout)).count word := by
  have counted := pipeline.count_consumed 1 accounted rfl rfl rfl
    word
  have arrived := Dataflow.subperm_map (pipeline.subperm_consumed 1 accounted rfl rfl (.inr rfl)) firstField
  calc
    _ = _ := counted.symm
    _ ≤ _ := arrived.count_le word
    _ ≤ _ := count_splits_le pipeline accounted word

theorem length_counter_of_quiet (quiet : state.Quiet) (word : List UInt8) :
    ((history (fieldRoute counters word)).consumed.filter
        fun tuple => firstField tuple = word).length =
      (wordsRead text (history spout)).count word := by
  have counted := pipeline.count_consumed 1 accounted rfl rfl rfl
    word
  have arrived := (pipeline.perm_consumed 1 accounted quiet rfl rfl
    (.inr rfl)).map firstField
  calc
    _ = _ := counted.symm
    _ = _ := arrived.count_eq word
    _ = _ := count_splits_of_quiet pipeline accounted quiet word

/-- A worker counts its words from one. -/
theorem filter_counter
    {counter : String} (isCounter : counter ∈ counters) (word : List UInt8) :
    ((history counter).produced.filter
        fun tuple => firstField tuple = word).map Tuple.data =
      countLines word ((history counter).consumed.filter
        fun tuple => firstField tuple = word).length := by
  have runs := pipeline.run_consumed 2 accounted rfl rfl isCounter
  have isNode := pipeline.node _ (List.mem_of_getElem? (i := 2) rfl) counter
    isCounter
  exact filter_of_run_WordCountBolt isNode word runs

/-- Only one worker emits numbers for a word. -/
theorem only_counter
    (word : List UInt8) : ∀ counter ∈ counters,
      counter ≠ fieldRoute counters word →
        ∀ tuple ∈ (history counter).produced, firstField tuple ≠ word := by
  intro counter isCounter differs tuple isTuple
  have noTuple := pipeline.filter_consumed_of_ne 1 accounted rfl
    rfl rfl isCounter differs
  have nothing := filter_counter pipeline accounted isCounter word
  rw [noTuple] at nothing
  have filtered := List.filter_eq_nil_iff.mp (List.map_eq_nil_iff.mp nothing)
  simpa using filtered tuple isTuple

/-- What a worker has printed for a word. -/
theorem filter_printed
    {printer : String} (isPrinter : printer ∈ printers) (word : List UInt8) :
    ((state.printed printer).filter fun line => line.headD [] = word) =
      ((history printer).consumed.filter
        fun tuple => firstField tuple = word).map
          fun tuple => tuple.data.take 2 := by
  have runs := pipeline.run_consumed 3 accounted rfl rfl isPrinter
  have isNode := pipeline.node _ (List.mem_of_getElem? (i := 3) rfl) printer
    isPrinter
  rw [Deployment.State.printed, outFile_of_run_printer isNode runs,
    List.filter_map]
  congr 1
  apply List.filter_congr
  intro tuple _
  obtain ⟨id, data⟩ := tuple
  cases data <;> rfl

/-- The worker for a word runs on a first part of the numbers that are emitted
for the word. -/
theorem prefix_countLines (word : List UInt8) :
    ((history (fieldRoute printers word)).consumed.filter
        fun tuple => firstField tuple = word).map Tuple.data <+:
      countLines word
        ((history (fieldRoute counters word)).consumed.filter
          fun tuple => firstField tuple = word).length := by
  have isCounter := pipeline.fieldRoute_mem 1 rfl word
  have inOrder := pipeline.prefix_consumed 2 accounted rfl rfl rfl
    isCounter (only_counter pipeline accounted word)
  have counted := filter_counter pipeline accounted isCounter word
  rw [← counted]
  exact inOrder.map Tuple.data

/-- If nothing is on the way, it runs on all of them. -/
theorem eq_countLines_of_quiet (quiet : state.Quiet) (word : List UInt8) :
    ((history (fieldRoute printers word)).consumed.filter
        fun tuple => firstField tuple = word).map Tuple.data =
      countLines word
        ((history (fieldRoute counters word)).consumed.filter
          fun tuple => firstField tuple = word).length := by
  have isCounter := pipeline.fieldRoute_mem 1 rfl word
  have inOrder := pipeline.consumed_of_settled 2 accounted rfl rfl
    rfl quiet isCounter (only_counter pipeline accounted word)
  have counted := filter_counter pipeline accounted isCounter word
  rw [← counted]
  exact congrArg _ inOrder

/-- What is printed for a word are the first of the numbers that the worker
for the word has emitted. -/
theorem exists_printed (word : List UInt8) :
    ∃ occurrences ≤ (wordsRead text (history spout)).count word,
      (∀ printer ∈ printers,
        ((state.printed printer).filter fun line => line.headD [] = word) =
          if printer = fieldRoute printers word then
            countLines word occurrences
          else []) ∧
      (state.Quiet →
        occurrences = (wordsRead text (history spout)).count word) := by
  have isFront := prefix_countLines pipeline accounted word
  have lines := eq_countLines_of_prefix isFront
  have fewer := isFront.length_le
  rw [length_countLines] at fewer
  refine ⟨_, fewer.trans (length_counter_le pipeline accounted word), ?_, ?_⟩
  · intro printer isPrinter
    rw [filter_printed pipeline accounted isPrinter]
    split
    next isHome =>
      rw [isHome, ← map_take_countLines, ← lines, List.map_map]
      rfl
    next differs =>
      rw [pipeline.filter_consumed_of_ne 2 accounted rfl rfl rfl
        isPrinter differs]
      rfl
  · intro quiet
    rw [eq_countLines_of_quiet pipeline accounted quiet word,
      length_countLines]
    exact length_counter_of_quiet pipeline accounted quiet word

end Layers

/-- What the layers accept: the last one prints two fields. -/
def accepts (index : Nat) (tuple : Tuple) : Prop :=
  (if index = 3 then 2 else 1) ≤ tuple.data.length

theorem fits
    (text : List UInt8) (spout : String)
    (splits counters printers : List String) :
    Fits (layers text spout splits counters printers) accepts where
  field := by
    intro index tuple accepted noField
    rw [accepts, noField] at accepted
    split at accepted <;> cases accepted
  bolts := by
    intro index layer isLayer
    match index, isLayer with
    | 0, isLayer | 1, isLayer | 2, isLayer =>
        obtain rfl := Option.some.inj isLayer
        rfl
  known := by
    intro index layer isLayer
    match index, isLayer with
    | 0, isLayer =>
        obtain rfl := Option.some.inj isLayer
        exact .inl rfl
    | 1, isLayer | 2, isLayer =>
        obtain rfl := Option.some.inj isLayer
        exact .inr rfl
  runs := by
    intro index layer isLayer isBolt node tuple accepted
    match index, isLayer with
    | 0, isLayer =>
        obtain rfl := Option.some.inj isLayer
        cases isBolt
    | 1, isLayer =>
        obtain rfl := Option.some.inj isLayer
        exact produces_EchoBolt node tuple accepted
    | 2, isLayer =>
        obtain rfl := Option.some.inj isLayer
        exact produces_WordCountBolt node tuple accepted
    | 3, isLayer =>
        obtain rfl := Option.some.inj isLayer
        exact produces_printer _ node tuple accepted
  spouts := by
    intro index layer isLayer isSpout node next tuple isNext
    match index, isLayer with
    | 0, isLayer =>
        obtain rfl := Option.some.inj isLayer
        rw [accepts, data_of_nextTuple_InputSpout isNext]
        exact Nat.le_refl 1
    | 1, isLayer | 2, isLayer | 3, isLayer =>
        obtain rfl := Option.some.inj isLayer
        cases isSpout

/-- If the spout has read its whole file, the network comes to rest with the
numbers of all words. -/
theorem inevitable_countLines
    {undefined : String → GroupingScheme} {deployment : Deployment}
    {text : List UInt8} {spout : String}
    {splits counters printers : List String}
    (pipeline : Pipeline deployment
      (layers text spout splits counters printers))
    {trace : List Deployment.Action} {state : Deployment.State deployment}
    {history : History}
    (runs : (deployment.recorded undefined).Runs
      (deployment.recorded undefined).initial trace (state, history))
    (allRead : text.count 10 < (history spout).produced.length) :
    Levels.Inevitable (Deployment.State.BoltStep undefined)
      (fun finish => finish.Quiet ∧ ∀ word, ∀ printer ∈ printers,
        ((finish.printed printer).filter fun line => line.headD [] = word) =
          if printer = fieldRoute printers word then
            countLines word ((tokens text).count word)
          else [])
      state := by
  have fits := fits text spout splits counters printers
  have sound := Sound.of_runs (pipeline.closed fits) (pipeline.typed fits) runs
  refine sound.inevitable (pipeline.closed fits) (pipeline.typed fits)
    pipeline.ranked fun finish after sound quiet same => ⟨quiet, ?_⟩
  intro word printer isPrinter
  obtain ⟨occurrences, _, printed, allPrinted⟩ :=
    exists_printed pipeline sound.accounted word
  have isSpout := pipeline.isBolt _ List.mem_cons_self spout
    List.mem_cons_self
  have words : wordsRead text (after spout) = tokens text := by
    rw [wordsRead, same spout isSpout]
    have all := tokens_linesRead (history spout).produced.length text
    rw [afterLines_eq_nil allRead] at all
    exact (List.append_nil _).symm.trans all
  rw [printed printer isPrinter, allPrinted quiet, words]

/-- In every run of the topology, what is printed for a word are the numbers
from one to at most the number of its occurrences in the lines that have been
read; all on one worker, and all of them if nothing is on the way. -/
theorem printed_countLines
    (undefined : String → GroupingScheme) (deployment : Deployment)
    (text : List UInt8) (spout : String)
    (splits counters printers : List String)
    (pipeline : Pipeline deployment
      (layers text spout splits counters printers))
    (trace : List Deployment.Action) (state : Deployment.State deployment)
    (history : History)
    (runs : (deployment.recorded undefined).Runs
      (deployment.recorded undefined).initial trace (state, history))
    (word : List UInt8) :
    ∃ occurrences ≤ (wordsRead text (history spout)).count word,
      (∀ printer ∈ printers,
        ((state.printed printer).filter fun line => line.headD [] = word) =
          if printer = fieldRoute printers word then
            countLines word occurrences
          else []) ∧
      (state.Quiet →
        occurrences = (wordsRead text (history spout)).count word) :=
  exists_printed pipeline (Accounted.of_runs runs) word

/-- A file with one word, and two workers that count. -/
def oneWord : Deployment :=
  .ofLayers PrinterBolt (layers [97] "s" ["x"] ["c", "d"] ["p"]) 1

/-- The word is read, split, counted and printed. -/
def wordPassed : List Deployment.Action :=
  .thread "s" .nextTuple ::
    (pass "s" "x" 0 ++ pass "x" "d" 1 ++ pass "d" "p" 0)

theorem pipeline_oneWord :
    Pipeline oneWord (layers [97] "s" ["x"] ["c", "d"] ["p"]) :=
  pipeline_ofLayers PrinterBolt Nat.one_pos (by decide) (by decide)

theorem exists_wordPassed :
    ∃ state history, (oneWord.recorded fun _ => .default).Runs
        (oneWord.recorded fun _ => .default).initial wordPassed
        (state, history) ∧
      (history "s").produced.length = 1 := by
  have passed : ((oneWord.recorded fun _ => .default).run
      (oneWord.recorded fun _ => .default).initial wordPassed).any
        (fun result => (result.2 "s").produced.length = 1) = true := by
    decide +kernel
  obtain ⟨⟨state, history⟩, runs, isOne⟩ :=
    (Option.any_eq_true _ _).mp passed
  exact ⟨state, history, runs, of_decide_eq_true isOne⟩

theorem printed_countLines_oneWord :
    ∃ state history, (oneWord.recorded fun _ => .default).Runs
        (oneWord.recorded fun _ => .default).initial wordPassed
        (state, history) ∧
      ∃ occurrences ≤ (wordsRead [97] (history "s")).count [97],
        (∀ printer ∈ ["p"],
          ((state.printed printer).filter
              fun line => line.headD [] = [97]) =
            if printer = fieldRoute ["p"] [97] then
              countLines [97] occurrences
            else []) ∧
        (state.Quiet →
          occurrences = (wordsRead [97] (history "s")).count [97]) := by
  obtain ⟨state, history, runs, _⟩ := exists_wordPassed
  exact ⟨state, history, runs, printed_countLines _ oneWord [97] "s" ["x"]
    ["c", "d"] ["p"] pipeline_oneWord wordPassed state history runs [97]⟩

/-- After every run in which the spout has read its whole file, the network
comes to rest whatever the order of the steps is, and then it has counted every
word: its printer has printed the numbers from one to that of the occurrences
in the file, in this order, and no other printer has printed the word. -/
theorem completes
    (undefined : String → GroupingScheme) (deployment : Deployment)
    (text : List UInt8) (spout : String)
    (splits counters printers : List String)
    (pipeline : Pipeline deployment
      (layers text spout splits counters printers))
    (trace : List Deployment.Action) (state : Deployment.State deployment)
    (history : History)
    (runs : (deployment.recorded undefined).Runs
      (deployment.recorded undefined).initial trace (state, history))
    (allRead : text.count 10 < (history spout).produced.length) :
    Levels.Inevitable (Deployment.State.BoltStep undefined)
      (fun finish => finish.Quiet ∧ ∀ word, ∀ printer ∈ printers,
        ((finish.printed printer).filter fun line => line.headD [] = word) =
          if printer = fieldRoute printers word then
            countLines word ((tokens text).count word)
          else [])
      state :=
  inevitable_countLines pipeline runs allRead

theorem completes_oneWord :
    ∃ state history, (oneWord.recorded fun _ => .default).Runs
        (oneWord.recorded fun _ => .default).initial wordPassed
        (state, history) ∧
      Levels.Inevitable (Deployment.State.BoltStep fun _ => .default)
        (fun finish => finish.Quiet ∧ ∀ word, ∀ printer ∈ ["p"],
          ((finish.printed printer).filter fun line => line.headD [] = word) =
            if printer = fieldRoute ["p"] word then
              countLines word ((tokens [97]).count word)
            else [])
        state := by
  obtain ⟨state, history, runs, isOne⟩ := exists_wordPassed
  exact ⟨state, history, runs, completes _ oneWord [97] "s" ["x"] ["c", "d"]
    ["p"] pipeline_oneWord wordPassed state history runs (by
      rw [isOne]
      decide)⟩

end WordCountTopology

end Streaming
end CraneSps
