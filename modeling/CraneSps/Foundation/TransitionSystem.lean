import Mathlib.Data.List.Basic

/-!
# Labelled transition systems with executable steps

A system is an initial state and a partial step function.  The chosen action
resolves all nondeterminism, so a run is determined by its list of actions and
can be evaluated.  Properties of every run are proved by one induction over
the trace: `Runs.invariant` for all runs, `Every.invariant` for the runs whose
steps all meet a condition on the state before the step.
-/

/-- An initial state and the effect of each action; `none` says that the
action is not enabled. -/
structure TransitionSystem (State Action : Type*) where
  /-- The state in which every run starts. -/
  initial : State
  /-- The state after an action, if the action is enabled. -/
  step : State → Action → Option State

namespace TransitionSystem

variable {State Action : Type*}
variable {system : TransitionSystem State Action}
variable {meets : State → Action → Prop}
variable {start finish : State} {trace : List Action} {action : Action}

/-- Execute a list of actions, stopping at the first disabled one. -/
def run (system : TransitionSystem State Action) :
    State → List Action → Option State
  | start, [] => some start
  | start, action :: trace =>
      (system.step start action).bind fun next => system.run next trace

@[simp] theorem run_nil : system.run start [] = some start := rfl

@[simp] theorem run_cons :
    system.run start (action :: trace) =
      (system.step start action).bind fun next => system.run next trace := rfl

/-- The trace leads from one state to the other. -/
def Runs
    (system : TransitionSystem State Action)
    (start : State) (trace : List Action) (finish : State) : Prop :=
  system.run start trace = some finish

/-- Every step of the trace meets a condition on the state before it. -/
def Every
    (system : TransitionSystem State Action)
    (meets : State → Action → Prop) : State → List Action → Prop
  | _, [] => True
  | start, action :: trace =>
      meets start action ∧
        ∀ next ∈ system.step start action, system.Every meets next trace

/-- The condition on a trace can be evaluated along the run. -/
instance Every.decidable
    [∀ state action, Decidable (meets state action)] :
    (start : State) → (trace : List Action) →
      Decidable (system.Every meets start trace)
  | _, [] => isTrue trivial
  | start, action :: trace =>
      match stepped : system.step start action with
      | none =>
          if met : meets start action then
            isTrue ⟨met, by simp [stepped]⟩
          else
            isFalse fun every => met every.1
      | some next =>
          if met : meets start action then
            match Every.decidable next trace with
            | isTrue rest => isTrue ⟨met, by simpa [stepped] using rest⟩
            | isFalse fails =>
                isFalse fun every => fails (every.2 next (by simp [stepped]))
          else
            isFalse fun every => met every.1

@[simp] theorem runs_nil_iff :
    system.Runs start [] finish ↔ start = finish := by
  simp [Runs]

@[simp] theorem runs_cons_iff :
    system.Runs start (action :: trace) finish ↔
      ∃ next, system.step start action = some next ∧
        system.Runs next trace finish := by
  simp [Runs, Option.bind_eq_some_iff]

/-- Some actions lead from one state to the other. -/
def Reaches
    (system : TransitionSystem State Action) (start finish : State) : Prop :=
  ∃ trace, system.Runs start trace finish

namespace Reaches

variable {middle : State}

theorem refl (state : State) : system.Reaches state state :=
  ⟨[], rfl⟩

/-- Begin with a step. -/
theorem head
    (stepped : system.step start action = some middle)
    (rest : system.Reaches middle finish) : system.Reaches start finish := by
  obtain ⟨trace, runs⟩ := rest
  exact ⟨action :: trace, runs_cons_iff.mpr ⟨middle, stepped, runs⟩⟩

theorem trans
    (first : system.Reaches start middle)
    (second : system.Reaches middle finish) :
    system.Reaches start finish := by
  obtain ⟨trace, runs⟩ := first
  induction trace generalizing start with
  | nil =>
      obtain rfl := runs_nil_iff.mp runs
      exact second
  | cons action trace inductionHypothesis =>
      obtain ⟨next, stepped, rest⟩ := runs_cons_iff.mp runs
      exact .head stepped (inductionHypothesis rest)

end Reaches

/-- One system follows the runs of another as long as it offers what they need.
-/
theorem exists_followed
    {Image ImageAction : Type*} {other : TransitionSystem Image ImageAction}
    {related : Image → State → Prop} {offers : Image → Action → Prop}
    (follows : ∀ image state action next, related image state →
      offers image action → system.step state action = some next →
        ∃ after, other.Reaches image after ∧ related after next)
    {image : Image} (isRelated : related image start)
    (runs : system.Runs start trace finish) :
    ∃ done rest middle after, trace = done ++ rest ∧
      system.Runs start done middle ∧ other.Reaches image after ∧
        related after middle ∧
          ∀ action ∈ rest.head?, ¬ offers after action := by
  induction trace generalizing start image with
  | nil =>
      exact ⟨[], [], start, image, rfl, rfl, .refl image, isRelated, by simp⟩
  | cons action trace inductionHypothesis =>
      by_cases offered : offers image action
      · obtain ⟨next, stepped, rest⟩ := runs_cons_iff.mp runs
        obtain ⟨image', first, nextRelated⟩ :=
          follows image start action next isRelated offered stepped
        obtain ⟨done, others, middle, after, rfl, followed, reaches, stands,
          stops⟩ := inductionHypothesis nextRelated rest
        exact ⟨action :: done, others, middle, after, rfl,
          runs_cons_iff.mpr ⟨next, stepped, followed⟩, first.trans reaches,
          stands, stops⟩
      · exact ⟨[], action :: trace, start, image, rfl, rfl, .refl image,
          isRelated, by simpa using offered⟩

/-- Two conditions that are met along a trace are met together. -/
theorem Every.and
    {also : State → Action → Prop}
    (every : system.Every meets start trace)
    (everyAlso : system.Every also start trace) :
    system.Every (fun state action => meets state action ∧ also state action)
      start trace := by
  induction trace generalizing start with
  | nil => trivial
  | cons action trace inductionHypothesis =>
      exact ⟨⟨every.1, everyAlso.1⟩, fun next stepped =>
        inductionHypothesis (every.2 next stepped) (everyAlso.2 next stepped)⟩

theorem Every.imp
    {weaker : State → Action → Prop}
    (every : system.Every meets start trace)
    (implies : ∀ state action, meets state action → weaker state action) :
    system.Every weaker start trace := by
  induction trace generalizing start with
  | nil => trivial
  | cons action trace inductionHypothesis =>
      exact ⟨implies start action every.1, fun next stepped =>
        inductionHypothesis (every.2 next stepped)⟩

/-- A condition on the actions alone. -/
theorem every_of_forall
    {allowed : Action → Prop} (start : State)
    (all : ∀ action ∈ trace, allowed action) :
    system.Every (fun _ action => allowed action) start trace := by
  induction trace generalizing start with
  | nil => trivial
  | cons action trace inductionHypothesis =>
      obtain ⟨first, rest⟩ := List.forall_mem_cons.mp all
      exact ⟨first, fun next _ => inductionHypothesis next rest⟩

/-- A property that every step preserves holds at the end of every run in
which all steps meet the condition. -/
theorem Every.invariant
    (every : system.Every meets start trace)
    (runs : system.Runs start trace finish)
    (invariant : State → Prop)
    (preserved : ∀ state action next, invariant state →
      meets state action → system.step state action = some next →
      invariant next)
    (initially : invariant start) : invariant finish := by
  induction trace generalizing start with
  | nil =>
      obtain rfl := runs_nil_iff.mp runs
      exact initially
  | cons action trace inductionHypothesis =>
      obtain ⟨next, stepped, rest⟩ := runs_cons_iff.mp runs
      exact inductionHypothesis (every.2 next (by simp [stepped])) rest
        (preserved start action next initially every.1 stepped)

/-- The condition that always holds is met by every trace. -/
theorem every_true
    (start : State) (trace : List Action) :
    system.Every (fun _ _ => True) start trace := by
  induction trace generalizing start with
  | nil => trivial
  | cons action trace inductionHypothesis =>
      exact ⟨trivial, fun next _ => inductionHypothesis next⟩

/-- A property that every step preserves holds at the end of every run. -/
theorem Runs.invariant
    (runs : system.Runs start trace finish)
    (invariant : State → Prop)
    (preserved : ∀ state action next, invariant state →
      system.step state action = some next → invariant next)
    (initially : invariant start) : invariant finish :=
  (every_true start trace).invariant runs invariant
    (fun state action next before _ =>
      preserved state action next before) initially

/-- If a property follows from an invariant that holds as long as the steps
meet a condition, and every other step breaks the property, then the steps of
a run meet the condition exactly if all states on the way have the property. -/
theorem Runs.every_iff_forall_front
    (runs : system.Runs start trace finish)
    (invariant property : State → Prop)
    (preserved : ∀ state action next, invariant state →
      meets state action → system.step state action = some next →
      invariant next)
    (holds : ∀ state, invariant state → property state)
    (breaks : ∀ state action next, invariant state →
      ¬ meets state action → system.step state action = some next →
      ¬ property next)
    (initially : invariant start) :
    system.Every meets start trace ↔
      ∀ front middle, front <+: trace → system.Runs start front middle →
        property middle := by
  induction trace generalizing start with
  | nil =>
      refine ⟨fun _ front middle isFront reaches => ?_, fun _ => trivial⟩
      obtain rfl := List.prefix_nil.mp isFront
      obtain rfl := runs_nil_iff.mp reaches
      exact holds start initially
  | cons action trace inductionHypothesis =>
      obtain ⟨next, stepped, rest⟩ := runs_cons_iff.mp runs
      constructor
      · rintro ⟨met, later⟩ front middle isFront reaches
        cases front with
        | nil =>
            obtain rfl := runs_nil_iff.mp reaches
            exact holds start initially
        | cons first front =>
            obtain ⟨rfl, isRest⟩ := List.cons_prefix_cons.mp isFront
            obtain ⟨other, alsoStepped, onward⟩ := runs_cons_iff.mp reaches
            obtain rfl := Option.some.inj (stepped.symm.trans alsoStepped)
            exact (inductionHypothesis rest
              (preserved start first next initially met stepped)).mp
              (later next stepped) front middle isRest onward
      · intro always
        have met : meets start action := by
          by_contra fails
          refine breaks start action next initially fails stepped ?_
          apply always [action] next
          · exact List.cons_prefix_cons.mpr ⟨rfl, List.nil_prefix⟩
          · exact runs_cons_iff.mpr ⟨next, stepped, runs_nil_iff.mpr rfl⟩
        refine ⟨met, fun other alsoStepped => ?_⟩
        obtain rfl := Option.some.inj (stepped.symm.trans alsoStepped)
        apply (inductionHypothesis rest
          (preserved start action next initially met stepped)).mpr
        intro front middle isFront reaches
        apply always (action :: front) middle
        · exact List.cons_prefix_cons.mpr ⟨rfl, isFront⟩
        · exact runs_cons_iff.mpr ⟨next, stepped, reaches⟩

/-! ## Recording a run -/

section Recording

variable {Record : Type*} {record : State → Action → State → Record → Record}
variable {empty : Record}

/-- The system with a variable that records something of its steps and that
the steps do not read. -/
def recording
    (system : TransitionSystem State Action) (empty : Record)
    (record : State → Action → State → Record → Record) :
    TransitionSystem (State × Record) Action where
  initial := (system.initial, empty)
  step := fun (state, recorded) action =>
    (system.step state action).map fun next =>
      (next, record state action next recorded)

theorem step_recording_eq_some_iff
    {state next : State} {recorded after : Record} :
    (system.recording empty record).step (state, recorded) action =
        some (next, after) ↔
      system.step state action = some next ∧
        record state action next recorded = after := by
  simp only [recording, Option.map_eq_some_iff, Prod.mk.injEq]
  constructor
  · rintro ⟨_, stepped, rfl, recorded⟩
    exact ⟨stepped, recorded⟩
  · rintro ⟨stepped, recorded⟩
    exact ⟨next, stepped, rfl, recorded⟩

/-- Recording neither adds nor removes a run. -/
theorem runs_iff_exists_recording
    (recorded : Record) :
    system.Runs start trace finish ↔
      ∃ after, (system.recording empty record).Runs
        (start, recorded) trace (finish, after) := by
  induction trace generalizing start recorded with
  | nil => simp
  | cons action trace inductionHypothesis =>
      rw [runs_cons_iff]
      constructor
      · rintro ⟨next, stepped, rest⟩
        obtain ⟨after, runs⟩ := (inductionHypothesis
          (record start action next recorded)).mp rest
        exact ⟨after, runs_cons_iff.mpr ⟨(next, _),
          step_recording_eq_some_iff.mpr ⟨stepped, rfl⟩, runs⟩⟩
      · rintro ⟨after, runs⟩
        obtain ⟨⟨next, middle⟩, stepped, rest⟩ := runs_cons_iff.mp runs
        exact ⟨next, (step_recording_eq_some_iff.mp stepped).1,
          (inductionHypothesis middle).mpr ⟨after, rest⟩⟩

end Recording

/-! ## Adding up along a run -/

/-- What the steps of a run cost together. -/
def total
    (system : TransitionSystem State Action) (cost : State → Action → Nat) :
    State → List Action → Nat
  | _, [] => 0
  | start, action :: trace =>
      cost start action +
        (system.step start action).elim 0 fun next =>
          system.total cost next trace

/-- If every step of a run pays its cost by raising a potential, the potential
rises by the total cost. -/
theorem Every.add_total_le
    {cost : State → Action → Nat} {potential : State → Int}
    (every : system.Every meets start trace)
    (runs : system.Runs start trace finish)
    (paid : ∀ state action next, meets state action →
      system.step state action = some next →
      potential state + cost state action ≤ potential next) :
    potential start + system.total cost start trace ≤ potential finish := by
  induction trace generalizing start with
  | nil =>
      obtain rfl := runs_nil_iff.mp runs
      simp [total]
  | cons action trace inductionHypothesis =>
      obtain ⟨next, stepped, rest⟩ := runs_cons_iff.mp runs
      have later := inductionHypothesis (every.2 next (by simp [stepped])) rest
      have now := paid start action next every.1 stepped
      simp only [total, stepped, Option.elim_some, Int.natCast_add]
      omega

end TransitionSystem
