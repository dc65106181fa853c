import CraneSps.Crane.Isolation
import CraneSps.Crane.Statuses

/-!
# Recovery from a failure

The thread that the failure of a node starts stops, prepares and starts every
topology, whatever its status is.  Afterwards all of them are running.
-/

namespace CraneSps
namespace Crane

/-- The operations of a thread have their effects one after the other. -/
def effects
    (status : String → Option TopoStatus) (operations : List Operation) :
    String → Option TopoStatus :=
  operations.foldl Operation.effect status

section Effects

variable {status : String → Option TopoStatus} {topoIds : List String}

/-- Operations that give every tracked topology the same status. -/
theorem effects_flatMap
    {operations : String → List Operation} {result : TopoStatus}
    (each : ∀ status topoId, status topoId ≠ none →
      effects status (operations topoId) =
        Function.update status topoId (some result))
    (tracked : ∀ topoId ∈ topoIds, status topoId ≠ none) :
    effects status (topoIds.flatMap operations) = fun topoId =>
      if topoId ∈ topoIds then some result else status topoId := by
  induction topoIds generalizing status with
  | nil => simp [effects]
  | cons first topoIds inductionHypothesis =>
      obtain ⟨firstTracked, restTracked⟩ := List.forall_mem_cons.mp tracked
      have still (topoId : String) (present : topoId ∈ topoIds) :
          Function.update status first (some result) topoId ≠ none := by
        rw [Function.update_apply]
        split
        · simp
        · exact restTracked topoId present
      rw [List.flatMap_cons, effects, List.foldl_append]
      change effects (effects status (operations first)) _ = _
      rw [each status first firstTracked, inductionHypothesis still]
      funext topoId
      by_cases same : topoId = first
      · simp [same]
      · simp [same]

/-- All topologies are stopped. -/
theorem effects_stops
    (tracked : ∀ topoId ∈ topoIds, status topoId ≠ none) :
    effects status (topoIds.map .stop) =
      fun topoId => if topoId ∈ topoIds then some .idle else status topoId := by
  rw [List.map_eq_flatMap]
  refine effects_flatMap (fun status topoId isTracked => ?_) tracked
  obtain ⟨current, isCurrent⟩ := Option.ne_none_iff_exists'.mp isTracked
  simp [effects, Operation.effect, isCurrent]

/-- All topologies are prepared and started. -/
theorem effects_starts
    (tracked : ∀ topoId ∈ topoIds, status topoId ≠ none) :
    effects status
        (topoIds.flatMap fun topoId => [.prepare topoId, .start topoId]) =
      fun topoId =>
        if topoId ∈ topoIds then some .running else status topoId := by
  refine effects_flatMap (fun status topoId isTracked => ?_) tracked
  obtain ⟨current, isCurrent⟩ := Option.ne_none_iff_exists'.mp isTracked
  simp [effects, Operation.effect, isCurrent]

end Effects

/-- A restart leaves all tracked topologies running. -/
theorem effects_restart (state : State) :
    effects state.cluster.status state.restart = fun topoId =>
      (state.cluster.status topoId).map fun _ => .running := by
  have tracked (topoId : String)
      (present : topoId ∈ state.cluster.nimbus.topoStats.getAllTopoIds) :
      state.cluster.status topoId ≠ none := by
    change topoId ∈ state.cluster.nimbus.topoStats.topoIds at present
    simp [Cluster.status, TopoStats.getTopoStatus, present]
  rw [State.restart, effects, List.foldl_append]
  change effects (effects _ _) _ = _
  rw [effects_stops tracked, effects_starts]
  · funext topoId
    by_cases present : topoId ∈ state.cluster.nimbus.topoStats.topoIds
    · simp [Cluster.status, TopoStats.getTopoStatus, TopoStats.getAllTopoIds,
        present]
    · simp [Cluster.status, TopoStats.getTopoStatus, TopoStats.getAllTopoIds,
        present]
  · intro topoId present
    simp [present]

/-! ## The thread -/

/-- The failure of a node with all steps of its restart thread, each of which
reads a membership list. -/
def recovery (state : State) (views : List (List String)) : List Action :=
  .nodeFail :: views.map (.resume state.restarts.length)

/-- A thread runs to its end if it always finds a supervisor. -/
theorem runs_resume
    {id : String} {state : State} {index : Nat} {restart : List Operation}
    {views : List (List String)}
    (found : state.restarts[index]? = some restart)
    (full : views.length = restart.length)
    (supervised : ∀ members ∈ views, state.Supervised members) :
    ∃ next, (craneSystem id).Runs state (views.map (.resume index)) next ∧
      next.restarts[index]? = some [] ∧
      next.cluster.status = effects state.cluster.status restart := by
  induction restart generalizing state views with
  | nil =>
      obtain rfl := List.length_eq_zero_iff.mp full
      exact ⟨state, TransitionSystem.runs_nil_iff.mpr rfl, found, rfl⟩
  | cons operation restart inductionHypothesis =>
      obtain ⟨members, views, rfl⟩ := List.exists_cons_of_length_eq_add_one full
      obtain ⟨first, rest⟩ := List.forall_mem_cons.mp supervised
      obtain ⟨cluster, executed⟩ := operation.exists_execute first
      let middle : State :=
        { state with
          cluster := cluster
          restarts := state.restarts.set index restart }
      have stepped : state.step (.resume index members) = some middle := by
        simp only [State.step, found, if_pos first, executed, Option.map_some]
        rfl
      have middleFound : middle.restarts[index]? = some restart := by
        have inRange := (List.getElem?_eq_some_iff.mp found).1
        simp [middle, inRange]
      obtain ⟨next, runs, ended, statuses⟩ :=
        inductionHypothesis middleFound (Nat.succ.inj full)
          fun members present => by
            have same : middle.cluster.nimbus.id = state.cluster.nimbus.id :=
              Operation.id_execute executed
            have before := rest members present
            unfold State.Supervised at before ⊢
            rw [same]
            exact before
      refine ⟨next, ?_, ended, ?_⟩
      · exact TransitionSystem.runs_cons_iff.mpr ⟨middle, stepped, runs⟩
      · rw [statuses, effects, effects, List.foldl_cons]
        exact congrArg (fun status => effects status restart)
          (Operation.status_execute executed)

/-! ## Restored statuses -/

/-- No instance of the topology is registered, and no supervisor has a worker
for one of its names. -/
def Cluster.WithoutWorkers (cluster : Cluster) (topoId : String) : Prop :=
  ∀ name ∈ (cluster.nimbus.topoStats.getTopoSpec topoId).names,
    cluster.nimbus.topoStats.getTopoTaskInstances topoId name = [] ∧
      ∀ id, (cluster.supervisor id).workers (topoId, name) = []

/-- The running topologies are those that were running before, and those that
had not been compiled or had been stopped are as before. -/
structure Restored (before after : Cluster) : Prop where
  running : ∀ topoId,
    after.status topoId = some .running ↔
      before.status topoId = some .running
  unstarted : ∀ topoId,
    before.status topoId = some .pending ∨
        before.status topoId = some .idle →
      after.status topoId = before.status topoId ∧
        after.WithoutWorkers topoId

/-- Where all tracked topologies end up running, the statuses are restored
exactly if all of them were running. -/
theorem restored_iff_of_status
    {before after : Cluster}
    (allRunning : ∀ topoId, after.status topoId =
      (before.status topoId).map fun _ => .running) :
    Restored before after ↔
      ∀ topoId, before.status topoId ≠ none →
        before.status topoId = some .running := by
  constructor
  · intro restored topoId isTracked
    obtain ⟨current, isCurrent⟩ := Option.ne_none_iff_exists'.mp isTracked
    apply (restored.running topoId).mp
    rw [allRunning, isCurrent, Option.map_some]
  · intro running
    refine ⟨fun topoId => ?_, fun topoId unstarted => ?_⟩
    · rw [allRunning]
      cases current : before.status topoId with
      | none => rfl
      | some status =>
          have isRunning := running topoId (by simp [current])
          rw [← current, isRunning]
          rfl
    · have isRunning := running topoId (by
        rcases unstarted with isPending | isIdle
        · simp [isPending]
        · simp [isIdle])
      rw [isRunning] at unstarted
      rcases unstarted with isPending | isIdle
      · cases isPending
      · cases isIdle

/-- In whatever state a failure is handled, the thread runs to its end, and it
restores the statuses exactly if all tracked topologies were running. -/
theorem restored_iff_running
    (id : String) {state : State} {views : List (List String)}
    (full : views.length = state.restart.length)
    (supervised : ∀ members ∈ views, state.Supervised members) :
    ∃ next, (craneSystem id).Runs state (recovery state views) next ∧
      next.restarts[state.restarts.length]? = some [] ∧
      (Restored state.cluster next.cluster ↔
        ∀ topoId, state.cluster.status topoId ≠ none →
          state.cluster.status topoId = some .running) := by
  let failed : State :=
    { state with restarts := state.restarts ++ [state.restart] }
  have found : failed.restarts[state.restarts.length]? =
      some state.restart := by
    simp [failed]
  obtain ⟨next, runs, ended, statuses⟩ :=
    @runs_resume id failed _ _ _ found full supervised
  refine ⟨next, ?_, ended, restored_iff_of_status ?_⟩
  · exact TransitionSystem.runs_cons_iff.mpr ⟨failed, rfl, runs⟩
  · rw [statuses]
    exact congrFun (effects_restart state)

/-- A topology is submitted. -/
def submitOnly : List Action :=
  [.request (.submit "t" { spoutSpecs := [{ name := "s" }] })]

/-- Then a node fails, and two others are left. -/
theorem restored_iff_of_submitOnly :
    ∃ state ∈ (craneSystem "1").run (State.initial "1") submitOnly,
      ∃ next, (craneSystem "1").Runs state
          (recovery state (List.replicate 3 ["1", "2"])) next ∧
        next.restarts[state.restarts.length]? = some [] ∧
        (Restored state.cluster next.cluster ↔
          ∀ topoId, state.cluster.status topoId ≠ none →
            state.cluster.status topoId = some .running) := by
  obtain ⟨state, runs, full, supervised⟩ :
      ∃ state ∈ (craneSystem "1").run (State.initial "1") submitOnly,
        (List.replicate 3 ["1", "2"]).length = state.restart.length ∧
        ∀ members ∈ List.replicate 3 ["1", "2"],
          state.Supervised members := by
    decide
  exact ⟨state, runs, restored_iff_running "1" full supervised⟩

/-- It is started although its sources have never been sent. -/
theorem not_restored_of_pending :
    ¬ ∀ (id : String) (trace : List Action) (state next : State)
      (views : List (List String)),
      (craneSystem id).Runs (State.initial id) trace state →
      views.length = state.restart.length →
      (∀ members ∈ views, state.Supervised members) →
      (craneSystem id).Runs state (recovery state views) next →
        Restored state.cluster next.cluster := by
  intro claim
  obtain ⟨state, runs, next, recovers, isPending, isRunning, full,
      supervised⟩ :
      ∃ state ∈ (craneSystem "1").run (State.initial "1") submitOnly,
        ∃ next ∈ (craneSystem "1").run state
          (recovery state (List.replicate 3 ["1", "2"])),
          state.cluster.status "t" = some .pending ∧
          next.cluster.status "t" = some .running ∧
          (List.replicate 3 ["1", "2"]).length = state.restart.length ∧
          ∀ members ∈ List.replicate 3 ["1", "2"],
            state.Supervised members := by
    decide
  have restored := claim "1" submitOnly state next _ runs full supervised
    recovers
  rw [restored.running, isPending] at isRunning
  cases isRunning

end Crane
end CraneSps
