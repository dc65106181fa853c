import CraneSps.Streaming.Delivery

/-!
# User code

The spouts and bolts of the three topologies that come with the program.  A
field is a string of bytes, and an `int` wraps around.  How long it has taken
until a line is printed is left out.
-/

namespace CraneSps
namespace Streaming

open Crane (Tuple)

/-- The value of an `int`. -/
def wrap (value : Int) : Int :=
  value.bmod (2 ^ 32)

/-- `std::to_string`. -/
def to_string (value : Int) : List UInt8 :=
  (toString value).toList.map fun digit => digit.toNat.toUInt8

/-- `std::isspace`. -/
def isspace (c : UInt8) : Bool :=
  c = 32 || (9 ≤ c && c ≤ 13)

/-- The strings that are read from a stream with `>>`. -/
def tokens (line : List UInt8) : List (List UInt8) :=
  (line.splitOnP isspace).filter fun token => token ≠ []

/-- `std::getline`, with the rest of the file; at its end the line is empty. -/
def getline (inputFile : List UInt8) : List UInt8 × List UInt8 :=
  (inputFile.takeWhile fun c => c ≠ 10,
    (inputFile.dropWhile fun c => c ≠ 10).drop 1)

/-- The tuples with the next ids. -/
def tuplesAfter (currentId : Int) : List (List (List UInt8)) → List Tuple
  | [] => []
  | data :: rest =>
      { id := wrap (currentId + 1), data := data } ::
        tuplesAfter (wrap (currentId + 1)) rest

/-! ## Classes -/

/-- The fields of `InputSpout`. -/
structure InputSpoutFields where
  inputFile : List UInt8
  tupleId : Int := 0

/-- `InputSpout`, which is the same in all topologies. -/
def InputSpout (text : List UInt8) : TopologyNodeBase where
  Fields := InputSpoutFields
  createObject := { inputFile := text }
  runOnTuple := fun fields _ => some (fields, [])
  nextTuple := fun fields =>
    let (line, rest) := getline fields.inputFile
    some ({ inputFile := rest, tupleId := wrap (fields.tupleId + 1) },
      { id := fields.tupleId, data := [line] })

/-- A bolt that prints the first fields of a tuple. -/
def printer (columns : Nat) : TopologyNodeBase where
  Fields := List (List (List UInt8))
  createObject := []
  runOnTuple := fun file tuple =>
    if columns ≤ tuple.data.length then
      some (file ++ [tuple.data.take columns], [])
    else none
  nextTuple := fun _ => none
  outFile := id

namespace WordCountTopology

/-- The bolt in `SplitSentenceBolt.cpp`. -/
def EchoBolt : TopologyNodeBase where
  Fields := Unit
  createObject := ()
  runOnTuple := fun _ tuple =>
    tuple.data.head?.map fun sentence =>
      ((), tuplesAfter tuple.id ((tokens sentence).map fun token => [token]))
  nextTuple := fun _ => none

/-- `WordCountBolt`; a word that is not in `counts` has the count zero. -/
def WordCountBolt : TopologyNodeBase where
  Fields := List UInt8 → Int
  createObject := fun _ => 0
  runOnTuple := fun counts tuple =>
    tuple.data.head?.map fun word =>
      let count := wrap (counts word + 1)
      (Function.update counts word count,
        [{ id := wrap (tuple.id + 1), data := [word, to_string count] }])
  nextTuple := fun _ => none

/-- `PrinterBolt`. -/
def PrinterBolt : TopologyNodeBase :=
  printer 2

end WordCountTopology

namespace FilterTopology

/-- `_filterWord`, which is "Alice". -/
def filterWord : List UInt8 :=
  [65, 108, 105, 99, 101]

/-- `FilterBolt`. -/
def FilterBolt : TopologyNodeBase where
  Fields := Unit
  createObject := ()
  runOnTuple := fun _ tuple =>
    tuple.data.head?.map fun line =>
      ((), if filterWord <:+: line then
          [{ id := wrap (tuple.id + 1), data := tuple.data }]
        else [])
  nextTuple := fun _ => none

/-- `PrinterBolt`. -/
def PrinterBolt : TopologyNodeBase :=
  printer 1

end FilterTopology

namespace JoinTopology

/-- `_localStream`: the words from "one" to "five". -/
def localStream : List (List UInt8) :=
  [[111, 110, 101], [116, 119, 111], [116, 104, 114, 101, 101],
    [102, 111, 117, 114], [102, 105, 118, 101]]

/-- `JoinBolt`. -/
def JoinBolt : TopologyNodeBase where
  Fields := Unit
  createObject := ()
  runOnTuple := fun _ tuple =>
    some ((), tuplesAfter tuple.id
      (localStream.map fun str => tuple.data ++ [str]))
  nextTuple := fun _ => none

/-- `PrinterBolt`. -/
def PrinterBolt : TopologyNodeBase :=
  printer 2

end JoinTopology

/-- A class processes all tuples with some number of fields, and its own
tuples have some number of fields. -/
def Produces
    (base : TopologyNodeBase) (required written : Nat) : Prop :=
  ∀ node tuple, required ≤ tuple.data.length →
    ∃ next tuples, base.runOnTuple node tuple = some (next, tuples) ∧
      ∀ produced ∈ tuples, written ≤ produced.data.length

/-! ## Lines and words -/

/-- The lines that a number of calls of `getline` read. -/
def linesRead : Nat → List UInt8 → List (List UInt8)
  | 0, _ => []
  | count + 1, text =>
      (getline text).1 :: linesRead count (getline text).2

/-- What is left after a number of calls. -/
def afterLines : Nat → List UInt8 → List UInt8
  | 0, text => text
  | count + 1, text => afterLines count (getline text).2

theorem afterLines_succ (count : Nat) (text : List UInt8) :
    afterLines (count + 1) text = (getline (afterLines count text)).2 := by
  induction count generalizing text with
  | zero => rfl
  | succ count inductionHypothesis =>
      exact inductionHypothesis (getline text).2

theorem linesRead_succ (count : Nat) (text : List UInt8) :
    linesRead (count + 1) text =
      linesRead count text ++ [(getline (afterLines count text)).1] := by
  induction count generalizing text with
  | zero => rfl
  | succ count inductionHypothesis =>
      exact congrArg _ (inductionHypothesis (getline text).2)

/-- The words before a space and those after it. -/
theorem tokens_append_cons
    {c : UInt8} (isSpace : isspace c = true) (first second : List UInt8) :
    tokens (first ++ c :: second) = tokens first ++ tokens second := by
  rw [tokens, List.splitOnP_append_cons first second isSpace,
    List.filter_append]
  rfl

/-- A file is its first line, and a newline and the rest unless this is the
last line. -/
theorem eq_getline (text : List UInt8) :
    (10 ∉ text ∧ getline text = (text, [])) ∨
      text = (getline text).1 ++ 10 :: (getline text).2 := by
  induction text with
  | nil => exact .inl ⟨List.not_mem_nil, rfl⟩
  | cons c text inductionHypothesis =>
      by_cases isNewline : c = 10
      · subst isNewline
        exact .inr (by simp [getline])
      · rw [getline, List.takeWhile_cons_of_pos (by simpa using isNewline),
          List.dropWhile_cons_of_pos (by simpa using isNewline)]
        rcases inductionHypothesis with ⟨noNewline, isLast⟩ | isFirst
        · left
          refine ⟨?_, ?_⟩
          · rw [List.mem_cons, not_or]
            exact ⟨Ne.symm isNewline, noNewline⟩
          · obtain ⟨isLine, isRest⟩ := Prod.mk.inj isLast
            rw [isLine, isRest]
        · exact .inr (congrArg (c :: ·) isFirst)

/-- The words of the lines that are read are words of the file, and all of them
if there are no more lines. -/
theorem tokens_linesRead (count : Nat) (text : List UInt8) :
    (linesRead count text).flatMap tokens ++ tokens (afterLines count text) =
      tokens text := by
  induction count generalizing text with
  | zero => rfl
  | succ count inductionHypothesis =>
      rw [linesRead, List.flatMap_cons, List.append_assoc, afterLines,
        inductionHypothesis]
      rcases eq_getline text with ⟨_, isLast⟩ | isFirst
      · rw [isLast]
        exact List.append_nil _
      · conv_rhs => rw [isFirst, tokens_append_cons rfl]

/-- All lines have been read after as many calls as there are newlines, and one
more for what comes after the last. -/
theorem afterLines_eq_nil
    {count : Nat} {text : List UInt8} (enough : text.count 10 < count) :
    afterLines count text = [] := by
  induction count generalizing text with
  | zero => cases enough
  | succ count inductionHypothesis =>
      rw [afterLines]
      rcases eq_getline text with ⟨_, isLast⟩ | isFirst
      · rw [isLast]
        cases count with
        | zero => rfl
        | succ count =>
            exact inductionHypothesis (Nat.succ_pos count)
      · refine inductionHypothesis ?_
        rw [isFirst, List.count_append, List.count_cons_self] at enough
        omega

/-! ## What the classes compute -/

section Classes

variable {text : List UInt8} {count columns : Nat}
variable {produced consumed : List Tuple}

/-- The fields of the tuples with the next ids. -/
theorem map_data_tuplesAfter
    (currentId : Int) (data : List (List (List UInt8))) :
    (tuplesAfter currentId data).map Tuple.data = data := by
  induction data generalizing currentId with
  | nil => rfl
  | cons first data inductionHypothesis =>
      rw [tuplesAfter, List.map_cons, inductionHypothesis]

/-- A spout emits the lines of its file. -/
theorem emit_InputSpout (count : Nat) (text : List UInt8) :
    ∃ tupleId tuples,
      (InputSpout text).emit count =
          some (⟨afterLines count text, tupleId⟩, tuples) ∧
        tuples.map Tuple.data =
          (linesRead count text).map fun line => [line] := by
  induction count with
  | zero => exact ⟨0, [], rfl, rfl⟩
  | succ count inductionHypothesis =>
      obtain ⟨tupleId, tuples, isEmitted, isData⟩ := inductionHypothesis
      refine ⟨wrap (tupleId + 1), tuples ++ [⟨tupleId,
        [(getline (afterLines count text)).1]⟩], ?_, ?_⟩
      · rw [TopologyNodeBase.emit, isEmitted, afterLines_succ]
        rfl
      · rw [linesRead_succ, List.map_append, List.map_append, isData]
        rfl

theorem data_of_emit_InputSpout
    {base : TopologyNodeBase} (isBase : base = InputSpout text)
    {node : base.Fields}
    (isEmitted : base.emit count = some (node, produced)) :
    produced.map Tuple.data =
      (linesRead count text).map fun line => [line] := by
  subst isBase
  obtain ⟨tupleId, tuples, isAlso, isData⟩ := emit_InputSpout count text
  obtain ⟨_, rfl⟩ := Prod.mk.inj
    (Option.some.inj (isEmitted.symm.trans isAlso))
  exact isData

theorem outFile_of_runFrom_printer
    {start file : List (List (List UInt8))}
    (runs : (printer columns).transducer.runFrom start consumed =
      some (file, produced)) :
    file = start ++ consumed.map fun tuple => tuple.data.take columns := by
  induction consumed generalizing start produced with
  | nil =>
      obtain ⟨rfl, _⟩ := Prod.mk.inj (Option.some.inj runs)
      exact (List.append_nil _).symm
  | cons tuple consumed inductionHypothesis =>
      obtain ⟨next, first, rest, stepped, later, rfl⟩ :=
        Transducer.runFrom_cons_eq_some_iff.mp runs
      obtain ⟨_, printed⟩ := Option.ite_none_right_eq_some.mp stepped
      obtain ⟨rfl, _⟩ := Prod.mk.inj (Option.some.inj printed)
      rw [inductionHypothesis later, List.append_assoc]
      rfl

variable {base : TopologyNodeBase} {node : base.Fields}

/-- A printer has written the first fields of what it has run on. -/
theorem outFile_of_run_printer
    (isBase : base = printer columns)
    (runs : base.transducer.run consumed = some (node, produced)) :
    base.outFile node =
      consumed.map fun tuple => tuple.data.take columns := by
  subst isBase
  exact outFile_of_runFrom_printer runs

/-- A method that looks at the first field of a tuple. -/
theorem exists_of_map_head?
    {Result : Type} {tuple : Tuple} {method : List UInt8 → Result}
    {value : Result} (isValue : tuple.data.head?.map method = some value) :
    tuple.data ≠ [] ∧ value = method (firstField tuple) := by
  obtain ⟨field, isHead, rfl⟩ := Option.map_eq_some_iff.mp isValue
  obtain ⟨rest, isData⟩ := List.head?_eq_some_iff.mp isHead
  simp [firstField, isData]

/-- A spout emits lines. -/
theorem data_of_nextTuple_InputSpout
    {node next : (InputSpout text).Fields} {tuple : Tuple}
    (isNext : (InputSpout text).nextTuple node = some (next, tuple)) :
    tuple.data.length = 1 := by
  obtain ⟨_, rfl⟩ := Prod.mk.inj (Option.some.inj isNext)
  rfl

/-- A printer produces nothing. -/
theorem produces_printer (written : Nat) :
    Produces (printer columns) columns written :=
  fun _ _ enough => ⟨_, _, if_pos enough, nofun⟩

/-- A method that looks at the first field is defined if there is one. -/
theorem map_head?_of_length
    {Result : Type} {tuple : Tuple} (method : List UInt8 → Result)
    (someField : 1 ≤ tuple.data.length) :
    tuple.data.head?.map method = some (method (firstField tuple)) := by
  obtain ⟨id, data⟩ := tuple
  cases data with
  | nil => cases someField
  | cons field data => rfl

/-- The tuples with the next ids have the fields. -/
theorem mem_of_mem_tuplesAfter
    {currentId : Int} {data : List (List (List UInt8))} {tuple : Tuple}
    (isTuple : tuple ∈ tuplesAfter currentId data) : tuple.data ∈ data := by
  rw [← map_data_tuplesAfter currentId data]
  exact List.mem_map.mpr ⟨tuple, isTuple, rfl⟩

namespace WordCountTopology

theorem produces_EchoBolt : Produces EchoBolt 1 1 := by
  intro node tuple someField
  refine ⟨_, _, map_head?_of_length _ someField, fun produced isNew => ?_⟩
  obtain ⟨token, _, isData⟩ := List.mem_map.mp (mem_of_mem_tuplesAfter isNew)
  rw [← isData]
  exact Nat.le_refl 1

theorem produces_WordCountBolt : Produces WordCountBolt 1 2 := by
  intro node tuple someField
  refine ⟨_, _, map_head?_of_length _ someField, fun produced isNew => ?_⟩
  obtain rfl := List.mem_singleton.mp isNew
  exact Nat.le_refl 2

/-- The bolt in `SplitSentenceBolt.cpp` emits the words of the sentences. -/
theorem data_of_run_EchoBolt
    (isBase : base = EchoBolt)
    (runs : base.transducer.run consumed = some (node, produced)) :
    produced.map Tuple.data =
      (consumed.flatMap fun tuple => tokens (firstField tuple)).map
        fun token => [token] := by
  subst isBase
  have writes := Transducer.outputs_eq_flatMap
    (fun tuple : Tuple => tuplesAfter tuple.id
      ((tokens (firstField tuple)).map fun token => [token]))
    (by
      intro fields tuple next outputs stepped
      exact congrArg Prod.snd (exists_of_map_head? stepped).2)
    runs
  rw [writes, List.map_flatMap, List.map_flatMap]
  simp only [map_data_tuplesAfter]

/-- The count of a word, and what is emitted for it. -/
def countWord (word : List UInt8) (count : Int) :
    Int × List (List (List UInt8)) :=
  (wrap (count + 1), [[word, to_string (wrap (count + 1))]])

/-- A word is counted on its own. -/
theorem keyed_WordCountBolt :
    WordCountBolt.transducer.Keyed firstField firstField Tuple.data
      (fun word (counts : List UInt8 → Int) => counts word) countWord where
  own := by
    intro counts tuple next outputs stepped
    obtain ⟨rfl, rfl⟩ := Prod.mk.inj (exists_of_map_head? stepped).2
    have counted (counts : List UInt8 → Int) (count : Int) :
        count = Function.update counts (firstField tuple) count
          (firstField tuple) := by rw [Function.update_self]
    exact congrArg (·, _) (counted counts _)
  others := by
    intro counts tuple next outputs stepped word differs
    obtain ⟨rfl, _⟩ := Prod.mk.inj (exists_of_map_head? stepped).2
    exact Function.update_of_ne differs _ _
  keys := by
    intro counts tuple next outputs stepped output isOutput
    obtain ⟨_, rfl⟩ := Prod.mk.inj (exists_of_map_head? stepped).2
    obtain rfl := List.mem_singleton.mp isOutput
    rfl

/-- The lines for a word: it is counted from one. -/
def countLines (word : List UInt8) (occurrences : Nat) :
    List (List (List UInt8)) :=
  (List.range occurrences).map fun (before : Nat) =>
    [word, to_string (wrap (before + 1))]

@[simp] theorem length_countLines (word : List UInt8) (occurrences : Nat) :
    (countLines word occurrences).length = occurrences := by
  simp [countLines]

/-- A printer prints the whole lines. -/
theorem map_take_countLines (word : List UInt8) (occurrences : Nat) :
    (countLines word occurrences).map (List.take 2) =
      countLines word occurrences := by
  rw [countLines, List.map_map]
  rfl

/-- The first lines for a word. -/
theorem eq_countLines_of_prefix
    {word : List UInt8} {occurrences : Nat}
    {lines : List (List (List UInt8))}
    (isFront : lines <+: countLines word occurrences) :
    lines = countLines word lines.length := by
  have fewer := isFront.length_le
  rw [length_countLines] at fewer
  rw [List.prefix_iff_eq_take.mp isFront, countLines, ← List.map_take,
    List.take_range, Nat.min_eq_left fewer]
  simp [countLines]

/-- A word that is counted a number of times. -/
theorem iterate_countWord
    (word : List UInt8) (occurrences before : Nat) :
    Transducer.iterate (countWord word) occurrences (wrap before) =
      (List.range' before occurrences).map fun (before : Nat) =>
        [word, to_string (wrap (before + 1))] := by
  induction occurrences generalizing before with
  | zero => rfl
  | succ occurrences inductionHypothesis =>
      have next : wrap (wrap before + 1) = wrap ((before + 1 : Nat) : Int) :=
        Int.bmod_add_bmod
      rw [Transducer.iterate, countWord, next, inductionHypothesis,
        List.range'_succ]
      rfl

/-- What a worker has emitted for a word are the numbers from one to that of
the tuples with the word that it has run on. -/
theorem filter_of_run_WordCountBolt
    (isBase : base = WordCountBolt) (word : List UInt8)
    (runs : base.transducer.run consumed = some (node, produced)) :
    (produced.filter fun tuple => firstField tuple = word).map Tuple.data =
      countLines word
        (consumed.filter fun tuple => firstField tuple = word).length := by
  subst isBase
  rw [keyed_WordCountBolt.filter_outputs runs, countLines,
    List.range_eq_range']
  exact iterate_countWord word _ 0

end WordCountTopology

namespace FilterTopology

theorem produces_FilterBolt : Produces FilterBolt 1 1 := by
  intro node tuple someField
  refine ⟨_, _, map_head?_of_length _ someField, fun produced isNew => ?_⟩
  split at isNew
  · obtain rfl := List.mem_singleton.mp isNew
    exact someField
  · cases isNew

/-- The bolt emits the tuples with the word, unchanged. -/
theorem data_of_run_FilterBolt
    (isBase : base = FilterBolt)
    (runs : base.transducer.run consumed = some (node, produced)) :
    produced.map Tuple.data =
      consumed.flatMap fun tuple =>
        if filterWord <:+: firstField tuple then [tuple.data] else [] := by
  subst isBase
  have writes := Transducer.outputs_eq_flatMap
    (fun tuple : Tuple =>
      if filterWord <:+: firstField tuple then
        [{ id := wrap (tuple.id + 1), data := tuple.data : Tuple }]
      else [])
    (by
      intro fields tuple next outputs stepped
      exact congrArg Prod.snd (exists_of_map_head? stepped).2)
    runs
  rw [writes, List.map_flatMap]
  apply List.flatMap_congr
  intro tuple _
  split <;> rfl

end FilterTopology

namespace JoinTopology

theorem produces_JoinBolt (required : Nat) :
    Produces JoinBolt required (required + 1) := by
  intro node tuple enough
  refine ⟨_, _, rfl, fun produced isNew => ?_⟩
  obtain ⟨str, _, isData⟩ := List.mem_map.mp (mem_of_mem_tuplesAfter isNew)
  rw [← isData, List.length_append]
  exact Nat.add_le_add_right enough 1

/-- The bolt emits every tuple with each of the words. -/
theorem data_of_run_JoinBolt
    (isBase : base = JoinBolt)
    (runs : base.transducer.run consumed = some (node, produced)) :
    produced.map Tuple.data =
      consumed.flatMap fun tuple =>
        localStream.map fun str => tuple.data ++ [str] := by
  subst isBase
  have writes := Transducer.outputs_eq_flatMap
    (fun tuple : Tuple => tuplesAfter tuple.id
      (localStream.map fun str => tuple.data ++ [str]))
    (by
      intro fields tuple next outputs stepped
      exact (Prod.mk.inj (Option.some.inj stepped)).2.symm)
    runs
  rw [writes, List.map_flatMap]
  simp only [map_data_tuplesAfter]

end JoinTopology

end Classes

end Streaming
end CraneSps
