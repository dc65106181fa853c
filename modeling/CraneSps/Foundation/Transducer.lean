import Mathlib.Data.List.Basic
import Mathlib.Data.List.Infix

/-!
# Transducers

A transducer reads its inputs one after the other, keeps a state and writes a
list of outputs for each input.  It is keyed if what it writes for a key
depends on the inputs with this key alone; the part of its output for a key is
then computed by a transducer that sees nothing else.
-/

/-- A step that may be undefined, with the state it starts in. -/
structure Transducer (State Input Output : Type*) where
  /-- The state before the first input. -/
  initial : State
  /-- The next state, and what is written for an input. -/
  step : State → Input → Option (State × List Output)

namespace Transducer

variable {State View Input Output Key : Type*}
variable {machine : Transducer State Input Output}
variable {state next final : State} {outputs : List Output}

/-- Read a list of inputs. -/
def runFrom
    (machine : Transducer State Input Output) :
    State → List Input → Option (State × List Output)
  | state, [] => some (state, [])
  | state, input :: inputs =>
      (machine.step state input).bind fun (next, outputs) =>
        (machine.runFrom next inputs).map fun (final, rest) =>
          (final, outputs ++ rest)

/-- Read a list of inputs from the beginning. -/
def run
    (machine : Transducer State Input Output) (inputs : List Input) :
    Option (State × List Output) :=
  machine.runFrom machine.initial inputs

@[simp] theorem runFrom_nil : machine.runFrom state [] = some (state, []) :=
  rfl

@[simp] theorem run_nil : machine.run [] = some (machine.initial, []) :=
  rfl

theorem runFrom_cons_eq_some_iff {input : Input} {inputs : List Input} :
    machine.runFrom state (input :: inputs) = some (final, outputs) ↔
      ∃ next first rest,
        machine.step state input = some (next, first) ∧
          machine.runFrom next inputs = some (final, rest) ∧
          outputs = first ++ rest := by
  simp only [runFrom, Option.bind_eq_some_iff, Option.map_eq_some_iff,
    Prod.exists, Prod.mk.injEq]
  constructor
  · rintro ⟨next, first, stepped, _, rest, later, rfl, rfl⟩
    exact ⟨next, first, rest, stepped, later, rfl⟩
  · rintro ⟨next, first, rest, stepped, later, rfl⟩
    exact ⟨next, first, stepped, final, rest, later, rfl, rfl⟩

/-- One input after the others. -/
theorem runFrom_concat
    {inputs : List Input} {input : Input} {written : List Output}
    (before : machine.runFrom state inputs = some (next, outputs))
    (stepped : machine.step next input = some (final, written)) :
    machine.runFrom state (inputs ++ [input]) =
      some (final, outputs ++ written) := by
  induction inputs generalizing state outputs with
  | nil =>
      obtain ⟨rfl, rfl⟩ := Prod.mk.inj (Option.some.inj before)
      apply runFrom_cons_eq_some_iff.mpr
      exact ⟨final, written, [], stepped, rfl, by simp⟩
  | cons first inputs inductionHypothesis =>
      obtain ⟨middle, head, rest, isFirst, later, rfl⟩ :=
        runFrom_cons_eq_some_iff.mp before
      rw [List.cons_append, List.append_assoc]
      apply runFrom_cons_eq_some_iff.mpr
      exact ⟨middle, head, _, isFirst, inductionHypothesis later, rfl⟩

theorem run_concat
    {inputs : List Input} {input : Input} {written : List Output}
    (before : machine.run inputs = some (next, outputs))
    (stepped : machine.step next input = some (final, written)) :
    machine.run (inputs ++ [input]) = some (final, outputs ++ written) :=
  runFrom_concat before stepped

/-- If every step writes what a function of its input says, so does a run. -/
theorem outputs_eq_flatMap
    (write : Input → List Output) {inputs : List Input}
    (writes : ∀ state input next outputs,
      machine.step state input = some (next, outputs) →
        outputs = write input)
    (runs : machine.runFrom state inputs = some (final, outputs)) :
    outputs = inputs.flatMap write := by
  induction inputs generalizing state outputs with
  | nil => exact (Prod.mk.inj (Option.some.inj runs)).2.symm
  | cons input inputs inductionHypothesis =>
      obtain ⟨next, first, rest, stepped, later, rfl⟩ :=
        runFrom_cons_eq_some_iff.mp runs
      rw [List.flatMap_cons, inductionHypothesis later,
        writes _ _ _ _ stepped]

/-! ## Keys -/

section Keys

variable {Result : Type*} [DecidableEq Key]
variable {keyIn : Input → Key} {keyOut : Output → Key}
variable {result : Output → Result} {view : Key → State → View}
variable {part : Key → View → View × List Result}

/-- A step reads and writes the view of the key of its input, and all that it
writes has this key.  The part for a key says what the results in the outputs
are. -/
structure Keyed
    (machine : Transducer State Input Output)
    (keyIn : Input → Key) (keyOut : Output → Key) (result : Output → Result)
    (view : Key → State → View)
    (part : Key → View → View × List Result) : Prop where
  own : ∀ state input next outputs,
    machine.step state input = some (next, outputs) →
      part (keyIn input) (view (keyIn input) state) =
        (view (keyIn input) next, outputs.map result)
  others : ∀ state input next outputs,
    machine.step state input = some (next, outputs) →
      ∀ key, key ≠ keyIn input → view key next = view key state
  keys : ∀ state input next outputs,
    machine.step state input = some (next, outputs) →
      ∀ output ∈ outputs, keyOut output = keyIn input

/-- The results if a part is applied a number of times. -/
def iterate (part : View → View × List Result) : Nat → View → List Result
  | 0, _ => []
  | count + 1, start =>
      (part start).2 ++ iterate part count (part start).1

/-- The results with a key are those of the part for this key. -/
theorem Keyed.filter_outputs
    {inputs : List Input}
    (keyed : machine.Keyed keyIn keyOut result view part)
    (runs : machine.runFrom state inputs = some (final, outputs))
    (key : Key) :
    (outputs.filter fun output => keyOut output = key).map result =
      iterate (part key) (inputs.filter fun input => keyIn input = key).length
        (view key state) := by
  induction inputs generalizing state outputs with
  | nil =>
      obtain ⟨_, rfl⟩ := Prod.mk.inj (Option.some.inj runs)
      rfl
  | cons input inputs inductionHypothesis =>
      obtain ⟨next, first, rest, stepped, later, rfl⟩ :=
        runFrom_cons_eq_some_iff.mp runs
      have written := keyed.keys _ _ _ _ stepped
      rw [List.filter_append, List.map_append, inductionHypothesis later]
      by_cases same : keyIn input = key
      · have all : (first.filter fun output => keyOut output = key) =
            first := by
          apply List.filter_eq_self.mpr
          intro output isOutput
          rw [written output isOutput]
          exact decide_eq_true same
        have own := keyed.own _ _ _ _ stepped
        rw [same] at own
        rw [List.filter_cons_of_pos (by simpa using same), all,
          List.length_cons, iterate, own]
      · have none : (first.filter fun output => keyOut output = key) =
            [] := by
          apply List.filter_eq_nil_iff.mpr
          intro output isOutput
          rw [written output isOutput]
          simpa using same
        rw [List.filter_cons_of_neg (by simpa using same), none,
          List.map_nil, List.nil_append,
          keyed.others _ _ _ _ stepped key (Ne.symm same)]

end Keys

end Transducer
