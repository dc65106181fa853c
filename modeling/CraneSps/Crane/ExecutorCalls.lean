import CraneSps.Crane.Statuses

/-!
# The calls of `nextExecutor`

The index is computed from the executor that was chosen last and from a list
that is rebuilt by every `prepareTopology`.  It is defined and inside the list
as soon as the list is not empty.  The failure of the last supervisor leads to
a call with an empty list.
-/

namespace CraneSps
namespace Crane

/-- What a call of `nextExecutor` reads. -/
structure ExecutorCall where
  supervisors : List String
  executor : String
  deriving DecidableEq

namespace ExecutorCall

variable (call : ExecutorCall)

/-- The index into the list of supervisors; `none` is a remainder by zero. -/
def index : Option Nat :=
  if call.executor = "" then some 0
  else if call.supervisors.length = 0 then none
  else some ((call.supervisors.idxOf call.executor + 1) %
    call.supervisors.length)

/-- There is an index, and it is inside the list. -/
def Defined : Prop :=
  ∃ index, call.index = some index ∧ index < call.supervisors.length

theorem defined_iff : call.Defined ↔ call.supervisors ≠ [] := by
  constructor
  · rintro ⟨index, _, inside⟩ empty
    rw [empty] at inside
    exact absurd inside (Nat.not_lt_zero index)
  · intro someone
    have positive := List.length_pos_iff.mpr someone
    unfold Defined index
    split
    · exact ⟨0, rfl, positive⟩
    · rw [if_neg (Nat.pos_iff_ne_zero.mp positive)]
      exact ⟨_, rfl, Nat.mod_lt _ positive⟩

instance : Decidable call.Defined :=
  decidable_of_iff _ call.defined_iff.symm

/-- The call chooses the supervisor at the index. -/
theorem nextExecutor_eq :
    Nimbus.nextExecutor call.supervisors call.executor =
      call.index.bind fun index => call.supervisors[index]? := by
  unfold Nimbus.nextExecutor index
  split
  · rfl
  · split
    next empty =>
      rw [List.length_eq_zero_iff.mp empty]
      rfl
    next => rfl

end ExecutorCall

/-- The calls for the tasks of a topology, up to the first undefined one. -/
def Nimbus.executorCalls (supervisors : List String) :
    String → List String → List ExecutorCall
  | _, [] => []
  | executor, _ :: tasks =>
      { supervisors := supervisors, executor := executor } ::
        (Nimbus.nextExecutor supervisors executor).elim [] fun next =>
          executorCalls supervisors next tasks

/-- All of them have the same list. -/
theorem Nimbus.supervisors_of_mem_executorCalls
    {supervisors tasks : List String} {executor : String}
    {call : ExecutorCall}
    (isCall : call ∈ executorCalls supervisors executor tasks) :
    call.supervisors = supervisors := by
  induction tasks generalizing executor with
  | nil => cases isCall
  | cons task tasks inductionHypothesis =>
      rcases List.mem_cons.mp isCall with rfl | later
      · rfl
      · cases chosen : nextExecutor supervisors executor with
        | none =>
            rw [chosen] at later
            cases later
        | some next =>
            rw [chosen] at later
            exact inductionHypothesis later

/-- Tasks cannot be assigned without supervisors. -/
theorem Nimbus.assign_eq_none_iff
    {supervisors tasks : List String} {executor : String} :
    assign supervisors executor tasks = none ↔
      supervisors = [] ∧ tasks ≠ [] := by
  constructor
  · intro unassigned
    constructor
    · by_contra someone
      obtain ⟨assigned, isAssigned⟩ :=
        Cluster.exists_assign someone executor tasks
      exact Option.some_ne_none _ (isAssigned.symm.trans unassigned)
    · rintro rfl
      cases unassigned
  · rintro ⟨rfl, hasTasks⟩
    obtain ⟨task, tasks, rfl⟩ := List.exists_cons_of_ne_nil hasTasks
    simp [assign, nextExecutor]

theorem Cluster.prepareTopology_eq_none_iff
    {cluster : Cluster} {topoId : String} {members : List String} :
    cluster.prepareTopology topoId members = none ↔
      (cluster.nimbus.updateSupervisors members).supervisors = [] ∧
        (cluster.spec topoId).tasks ≠ [] := by
  rw [← @Nimbus.assign_eq_none_iff _ _ cluster.nimbus.executor,
    prepareTopology, Option.map_eq_none_iff, assignTasks_eq,
    Option.map_eq_none_iff]
  rfl

namespace State

variable (state : State)

/-- The topology that an action prepares, with the members it finds. -/
def preparation : Action → Option (String × List String)
  | .serve members =>
      match state.service with
      | .prepare topoId :: _ => some (topoId, members)
      | _ => none
  | .resume index members =>
      match state.restarts[index]? with
      | some (.prepare topoId :: _) => some (topoId, members)
      | _ => none
  | _ => none

/-- The calls of `nextExecutor` in an action. -/
def executorCalls (action : Action) : List ExecutorCall :=
  (state.preparation action).elim [] fun (topoId, members) =>
    Nimbus.executorCalls
      (state.cluster.nimbus.updateSupervisors members).supervisors
      state.cluster.nimbus.executor (state.cluster.spec topoId).tasks

/-- A topology with tasks is prepared only while there is a supervisor. -/
def Staffed (action : Action) : Prop :=
  ∀ preparation ∈ state.preparation action,
    (state.cluster.spec preparation.1).tasks ≠ [] →
      state.Supervised preparation.2

instance (action : Action) : Decidable (state.Staffed action) := by
  unfold Staffed
  cases state.preparation action with
  | none => exact isTrue fun _ isNone => by cases isNone
  | some preparation =>
      exact decidable_of_iff
        ((state.cluster.spec preparation.1).tasks ≠ [] →
          state.Supervised preparation.2)
        ⟨fun staffed _ same => Option.some.inj same ▸ staffed,
          fun staffed => staffed preparation rfl⟩

theorem supervised_iff (members : List String) :
    state.Supervised members ↔
      (state.cluster.nimbus.updateSupervisors members).supervisors ≠ [] := by
  rw [Nimbus.updateSupervisors, Ne, List.filter_eq_nil_iff, Supervised]
  simp only [bne_iff_ne, not_forall, not_not, exists_prop]

/-- The calls of one action are defined exactly if it is staffed. -/
theorem executorCalls_defined_iff (action : Action) :
    (∀ call ∈ state.executorCalls action, call.Defined) ↔
      state.Staffed action := by
  unfold executorCalls Staffed
  cases state.preparation action with
  | none => simp
  | some preparation =>
      obtain ⟨topoId, members⟩ := preparation
      simp only [Option.elim_some, Option.mem_def, Option.some.injEq,
        forall_eq']
      constructor
      · intro defined hasTasks
        rw [supervised_iff]
        obtain ⟨task, tasks, isTasks⟩ := List.exists_cons_of_ne_nil hasTasks
        rw [isTasks] at defined
        exact (ExecutorCall.defined_iff _).mp
          (defined _ List.mem_cons_self)
      · intro staffed call isCall
        rw [ExecutorCall.defined_iff,
          Nimbus.supervisors_of_mem_executorCalls isCall,
          ← supervised_iff]
        apply staffed
        intro noTasks
        rw [noTasks] at isCall
        cases isCall

/-- A step that prepares a topology is its `prepareTopology`. -/
theorem advance_of_preparation
    {action : Action} {topoId : String} {members : List String}
    (prepares : state.preparation action = some (topoId, members)) :
    state.advance action = none ↔
      state.cluster.prepareTopology topoId members = none := by
  cases action with
  | serve found | resume index found =>
      simp only [preparation] at prepares
      split at prepares
      · next isNext =>
          obtain ⟨rfl, rfl⟩ := Prod.mk.inj (Option.some.inj prepares)
          simp only [advance, isNext, Operation.execute,
            Option.map_eq_none_iff]
      · cases prepares
  | request | nodeFail => cases prepares

/-- It can be carried out exactly if its calls are defined. -/
theorem advance_eq_none_iff
    {action : Action} {preparation : String × List String}
    (prepares : state.preparation action = some preparation) :
    state.advance action = none ↔
      ∃ call ∈ state.executorCalls action, ¬ call.Defined := by
  have calls := (state.executorCalls_defined_iff action).not
  have staffed : state.Staffed action ↔
      ((state.cluster.spec preparation.1).tasks ≠ [] →
        state.Supervised preparation.2) := by
    unfold Staffed
    rw [prepares]
    simp
  rw [state.advance_of_preparation prepares,
    Cluster.prepareTopology_eq_none_iff]
  rw [staffed, supervised_iff] at calls
  push Not at calls
  rw [calls, and_comm]

end State

/-! ## Runs -/

/-- Nimbus with the calls of `nextExecutor` so far. -/
structure Watched where
  state : State
  calls : List ExecutorCall
  /-- A call has been undefined. -/
  crashed : Bool

namespace Watched

/-- Nothing has happened yet. -/
def initial (id : String) : Watched where
  state := State.initial id
  calls := []
  crashed := false

/-- One step; an operation that cannot be carried out ends the process. -/
def step (watched : Watched) (action : Action) : Option Watched :=
  if watched.crashed then none
  else
    let calls := watched.state.executorCalls action
    match watched.state.advance action with
    | some next =>
        some { state := next
               calls := watched.calls ++ calls
               crashed := false }
    | none =>
        if calls = [] then none
        else some { watched with
          calls := watched.calls ++ calls, crashed := true }

/-- Every step records its calls. -/
theorem calls_of_step
    {watched next : Watched} {action : Action}
    (stepped : watched.step action = some next) :
    next.calls = watched.calls ++ watched.state.executorCalls action := by
  unfold step at stepped
  split at stepped
  · cases stepped
  · simp only at stepped
    split at stepped
    · obtain rfl := Option.some.inj stepped
      rfl
    · split at stepped
      · cases stepped
      · obtain rfl := Option.some.inj stepped
        rfl

/-- A step crashes exactly if one of its calls is undefined. -/
theorem crashed_of_step
    {watched next : Watched} {action : Action}
    (stepped : watched.step action = some next) :
    next.crashed = true ↔
      ∃ call ∈ watched.state.executorCalls action, ¬ call.Defined := by
  have undefined (calls : watched.state.executorCalls action ≠ []) :
      watched.state.advance action = none ↔
        ∃ call ∈ watched.state.executorCalls action, ¬ call.Defined := by
    cases prepares : watched.state.preparation action with
    | none => simp [State.executorCalls, prepares] at calls
    | some preparation => exact State.advance_eq_none_iff _ prepares
  unfold step at stepped
  split at stepped
  · cases stepped
  · simp only at stepped
    split at stepped
    next state advanced =>
      obtain rfl := Option.some.inj stepped
      refine iff_of_false Bool.false_ne_true fun bad => ?_
      have calls : watched.state.executorCalls action ≠ [] := by
        obtain ⟨call, isCall, _⟩ := bad
        exact List.ne_nil_of_mem isCall
      exact Option.some_ne_none _
        (advanced.symm.trans ((undefined calls).mpr bad))
    next stuck =>
      split at stepped
      · cases stepped
      next calls =>
        obtain rfl := Option.some.inj stepped
        exact iff_of_true rfl ((undefined calls).mp stuck)

end Watched

/-- Nimbus under all requests, failures and memberships. -/
def watchedSystem (id : String) : TransitionSystem Watched Action where
  initial := Watched.initial id
  step := Watched.step

/-- The calls of a run are defined exactly if all its steps are staffed. -/
theorem Watched.runs_calls_iff
    {id : String} {trace : List Action} {start final : Watched}
    (runs : (watchedSystem id).Runs start trace final) :
    (∀ call ∈ final.calls, call.Defined) ↔
      (∀ call ∈ start.calls, call.Defined) ∧
        (watchedSystem id).Every
          (fun watched action => watched.state.Staffed action)
          start trace := by
  induction trace generalizing start with
  | nil =>
      obtain rfl := TransitionSystem.runs_nil_iff.mp runs
      exact (and_iff_left trivial).symm
  | cons action trace inductionHypothesis =>
      obtain ⟨next, stepped, rest⟩ :=
        TransitionSystem.runs_cons_iff.mp runs
      have here := start.state.executorCalls_defined_iff action
      have later : (watchedSystem id).Every
            (fun watched action => watched.state.Staffed action) next trace ↔
          ∀ other ∈ (watchedSystem id).step start action,
            (watchedSystem id).Every
              (fun watched action => watched.state.Staffed action)
              other trace := by
        rw [stepped]
        simp
      rw [inductionHypothesis rest, calls_of_step stepped,
        List.forall_mem_append, here, and_assoc, later]
      rfl

/-- In every run, whatever members are found and however the restarts are
interleaved with the requests, all calls of `nextExecutor` are defined exactly
if every topology with tasks has been prepared while there was a supervisor. -/
theorem nextExecutor_defined_iff
    (id : String) (trace : List Action) (final : Watched)
    (runs : (watchedSystem id).Runs (Watched.initial id) trace final) :
    (∀ call ∈ final.calls, call.Defined) ↔
      (watchedSystem id).Every
        (fun watched action => watched.state.Staffed action)
        (Watched.initial id) trace := by
  rw [Watched.runs_calls_iff runs]
  exact and_iff_right nofun

/-- A topology of one spout is submitted and started. -/
def startedSpout : List Action :=
  [.request (.submit "t" { spoutSpecs := [{ name := "s" }] }),
    .request (.start "t"), .serve ["n", "a"], .serve ["n", "a"]]

theorem nextExecutor_defined_of_startedSpout :
    ∃ final ∈ (watchedSystem "n").run (Watched.initial "n") startedSpout,
      final.calls = [⟨["a"], ""⟩] ∧
        ∀ call ∈ final.calls, call.Defined := by
  have every : (watchedSystem "n").Every
      (fun watched action => watched.state.Staffed action)
      (Watched.initial "n") startedSpout := by
    decide
  obtain ⟨final, runs, calls⟩ :
      ∃ final ∈ (watchedSystem "n").run (Watched.initial "n") startedSpout,
        final.calls = [⟨["a"], ""⟩] := by
    decide
  exact ⟨final, runs, calls,
    (nextExecutor_defined_iff "n" startedSpout final runs).mpr every⟩

/-- Then the only supervisor fails, and the restart thread prepares the
topology again. -/
theorem nextExecutor_undefined_of_failure :
    ∃ final ∈ (watchedSystem "n").run (Watched.initial "n")
        (startedSpout ++ [.nodeFail, .resume 0 ["n"], .resume 0 ["n"]]),
      ⟨[], "a"⟩ ∈ final.calls ∧ final.crashed = true ∧
        ¬ (⟨[], "a"⟩ : ExecutorCall).Defined := by
  decide

end Crane
end CraneSps
