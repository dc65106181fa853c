import CraneSps.Crane.Statuses

/-!
# Tracked topologies over whole runs

Only an approved `SUBMIT` creates an entry of `topoStats` and only a `KILL`
removes one, apart from `stopTopology`, which creates an empty entry when a
restart thread calls it for a topology that has been killed since the failure.
-/

namespace CraneSps
namespace Crane

/-! ## Effects on the tracked topologies -/

section Effects

variable {status : String → Option TopoStatus} {operation : Operation}

/-- Operations other than `killTopology` keep the tracked topologies, if only
tracked topologies are stopped. -/
theorem effect_eq_none_iff
    (noKill : ∀ topoId, operation ≠ .kill topoId)
    (current : ∀ topoId, operation = .stop topoId → status topoId ≠ none)
    (topoId : String) :
    operation.effect status topoId = none ↔ status topoId = none := by
  cases operation with
  | compile other | prepare other | start other =>
      simp only [Operation.effect, Function.update_apply]
      split
      · next same => simp [same]
      · rfl
  | stop other =>
      have tracked := current other rfl
      simp only [Operation.effect, Function.update_apply]
      split
      · next same => simp [same, tracked]
      · rfl
  | kill other => exact absurd rfl (noKill other)

/-- The statuses of tracked topologies have been set. -/
def Known (status : String → Option TopoStatus) : Prop :=
  ∀ topoId, status topoId ≠ some .unset

theorem Known.update
    (known : Known status) (topoId : String) {result : Option TopoStatus}
    (isKnown : result ≠ some .unset) :
    Known (Function.update status topoId result) := by
  intro other
  rw [Function.update_apply]
  split
  · exact isKnown
  · exact known other

theorem Known.effect
    (known : Known status)
    (current : ∀ topoId, operation = .stop topoId → status topoId ≠ none) :
    Known (operation.effect status) := by
  cases operation with
  | compile topoId | prepare topoId =>
      apply known.update
      cases status topoId with
      | none => simp
      | some before => simp
  | start topoId =>
      apply known.update
      have before := known topoId
      cases isBefore : status topoId with
      | none => simp
      | some status =>
          rw [isBefore] at before
          simp only [Option.map_some, ne_eq, Option.some.injEq] at before ⊢
          split
          · nofun
          · exact before
  | stop topoId =>
      apply known.update
      obtain ⟨before, isBefore⟩ :=
        Option.ne_none_iff_exists'.mp (current topoId rfl)
      simp [isBefore]
  | kill topoId =>
      apply known.update
      simp

end Effects

/-! ## What clients may expect -/

/-- The topologies whose last approved `SUBMIT` has not been followed by a
`KILL` that has been carried out. -/
def approve
    (state : State) (action : Action) (_ : State)
    (approved : String → Bool) : String → Bool :=
  match action with
  | .request (.submit topoId _) =>
      if state.Existed topoId then approved
      else Function.update approved topoId true
  | .serve _ =>
      match state.service.head? with
      | some (.kill topoId) => Function.update approved topoId false
      | _ => approved
  | _ => approved

/-- Nimbus with the topologies that are approved. -/
def approvedSystem (id : String) :
    TransitionSystem (State × (String → Bool)) Action :=
  (nimbusSystem id).recording (fun _ => false) approve

/-- The approved topologies are tracked with a known status, and all others
can be submitted. -/
structure Faithful (state : State) (approved : String → Bool) : Prop where
  tracked : ∀ topoId,
    topoId ∈ state.cluster.nimbus.topoStats.topoIds ↔
      approved topoId = true
  known : ∀ topoId ∈ state.cluster.nimbus.topoStats.topoIds,
    (state.cluster.nimbus.topoStats.tracker topoId).status ∈
      [TopoStatus.pending, .idle, .preparing, .ready, .running]
  resubmitted : ∀ topoId spec, approved topoId = false →
    (state.accept (.submit topoId spec)).cluster.status topoId =
      some .pending

/-- The operation does not stop a topology that is not tracked. -/
def Operation.Current (state : State) : Operation → Prop
  | .stop topoId => state.Existed topoId
  | _ => True

instance (state : State) (operation : Operation) :
    Decidable (operation.Current state) := by
  rcases operation <;> unfold Operation.Current <;> infer_instance

/-- A restart thread does not stop a topology that is no longer tracked. -/
def Current (state : State) : Action → Prop
  | .resume index _ =>
      ∀ restart ∈ state.restarts[index]?, ∀ operation ∈ restart.head?,
        operation.Current state
  | _ => True

instance (state : State) (action : Action) :
    Decidable (Current state action) := by
  rcases action <;> unfold Current <;> infer_instance

/-! ## The invariant -/

/-- The bookkeeping of Nimbus agrees with what clients may expect, and the
threads can only change that by stopping a topology that is gone. -/
structure Accurate (state : State) (approved : String → Bool) : Prop where
  tracked : ∀ topoId,
    state.cluster.status topoId = none ↔ approved topoId = false
  known : Known state.cluster.status
  /-- The service thread stops what it has just found. -/
  service : ∀ topoId, .stop topoId ∈ state.service →
    state.service = [.stop topoId] ∧ state.cluster.status topoId ≠ none
  /-- Restarts kill nothing. -/
  restarts : ∀ restart ∈ state.restarts, ∀ topoId, .kill topoId ∉ restart

namespace Accurate

variable {state : State} {approved : String → Bool}

theorem initial (id : String) :
    Accurate (State.initial id) (fun _ => false) where
  tracked := fun _ => ⟨fun _ => rfl, fun _ => rfl⟩
  known := nofun
  service := nofun
  restarts := nofun

/-- A request changes what is tracked only if it submits something new. -/
theorem accept
    (accurate : Accurate state approved) (request : Request)
    (finished : state.service = []) :
    Accurate (state.accept request)
      (approve state (.request request) (state.accept request) approved) := by
  have unchanged (service : List Operation)
      (noStop : ∀ topoId, .stop topoId ∈ service →
        service = [.stop topoId] ∧ state.cluster.status topoId ≠ none) :
      Accurate { state with service := service } approved :=
    { tracked := accurate.tracked
      known := accurate.known
      service := noStop
      restarts := accurate.restarts }
  cases request with
  | submit topoId spec =>
      by_cases existed : state.Existed topoId
      · simp only [State.accept, approve, if_pos existed]
        exact accurate
      · simp only [State.accept, approve, if_neg existed]
        have statuses :=
          @Cluster.status_submit state.cluster topoId spec
        exact
          { tracked := by
              intro other
              change (state.cluster.submit topoId spec).status other = none ↔ _
              rw [statuses, Function.update_apply, Function.update_apply]
              split
              · simp
              · exact accurate.tracked other
            known := by
              change Known (state.cluster.submit topoId spec).status
              rw [statuses]
              exact accurate.known.update topoId (by simp)
            service := by
              intro other present
              change .stop other ∈ state.service at present
              rw [finished] at present
              cases present
            restarts := accurate.restarts }
  | send topoId => exact unchanged _ (by simp)
  | start topoId =>
      simp only [State.accept]
      split
      · exact unchanged _ (by simp)
      · exact accurate
  | stop topoId =>
      simp only [State.accept]
      split
      · next existed =>
          refine unchanged _ fun other present => ?_
          obtain rfl : other = topoId := by simpa using present
          exact ⟨rfl, existed⟩
      · exact accurate
  | kill topoId =>
      simp only [State.accept]
      split
      · exact unchanged _ (by simp)
      · exact accurate

/-- An operation other than `killTopology` that stops nothing untracked. -/
theorem execute
    (accurate : Accurate state approved) {operation : Operation}
    {members : List String} {cluster : Cluster} {service : List Operation}
    {restarts : List (List Operation)}
    (noKill : ∀ topoId, operation ≠ .kill topoId)
    (current : operation.Current state)
    (executed : operation.execute state.cluster members = some cluster)
    (serves : ∀ topoId, .stop topoId ∈ service →
      service = [.stop topoId] ∧ state.cluster.status topoId ≠ none)
    (noKills : ∀ restart ∈ restarts, ∀ topoId, .kill topoId ∉ restart) :
    Accurate ⟨cluster, service, restarts⟩ approved := by
  have stopsTracked (topoId : String) (isStop : operation = .stop topoId) :
      state.cluster.status topoId ≠ none := by
    subst isStop
    exact current
  have same := effect_eq_none_iff noKill stopsTracked
  have statuses := Operation.status_execute executed
  exact
    { tracked := by
        intro topoId
        change cluster.status topoId = none ↔ _
        rw [statuses, same]
        exact accurate.tracked topoId
      known := by
        change Known cluster.status
        rw [statuses]
        exact accurate.known.effect stopsTracked
      service := by
        intro topoId present
        obtain ⟨only, tracked⟩ := serves topoId present
        refine ⟨only, ?_⟩
        change cluster.status topoId ≠ none
        rw [statuses, ne_eq, same]
        exact tracked
      restarts := noKills }

/-- A topology is killed. -/
theorem kill
    (accurate : Accurate state approved) {members : List String}
    {cluster : Cluster} {service : List Operation} {topoId : String}
    (executed : (Operation.kill topoId).execute state.cluster members =
      some cluster)
    (noStops : ∀ other, .stop other ∉ service) :
    Accurate { state with cluster := cluster, service := service }
      (Function.update approved topoId false) := by
  have statuses := Operation.status_execute executed
  exact
    { tracked := by
        intro other
        change cluster.status other = none ↔ _
        rw [statuses, Operation.effect, Function.update_apply,
          Function.update_apply]
        split
        · simp
        · exact accurate.tracked other
      known := by
        change Known cluster.status
        rw [statuses]
        exact accurate.known.update topoId (by simp)
      service := fun other present => absurd present (noStops other)
      restarts := accurate.restarts }

/-- Every step that stops only tracked topologies keeps the bookkeeping. -/
theorem step
    (accurate : Accurate state approved) {action : Action} {next : State}
    (current : Current state action)
    (stepped : state.advance action = some next) :
    Accurate next (approve state action next approved) := by
  cases State.stepped_of_advance stepped with
  | request request finished => exact accurate.accept request finished
  | serve members operation service cluster isNext executed =>
      have noStops (topoId : String) : .stop topoId ∉ service := by
        intro present
        have isStop : .stop topoId ∈ state.service := by
          rw [isNext]
          exact List.mem_cons_of_mem _ present
        obtain ⟨only, _⟩ := accurate.service topoId isStop
        rw [isNext] at only
        obtain rfl := (List.cons.inj only).2
        cases present
      cases operation with
      | kill topoId =>
          simp only [approve, isNext, List.head?_cons]
          exact accurate.kill executed noStops
      | compile topoId | prepare topoId | start topoId | stop topoId =>
          simp only [approve, isNext, List.head?_cons]
          refine accurate.execute (by simp) ?_ executed
            (fun other present => absurd present (noStops other))
            accurate.restarts
          first
            | trivial
            | exact (accurate.service topoId
                (isNext ▸ List.mem_cons_self)).2
  | nodeFail =>
      exact
        { tracked := accurate.tracked
          known := accurate.known
          service := accurate.service
          restarts := by
            intro restart present topoId isKill
            rcases List.mem_append.mp present with isOld | isNew
            · exact accurate.restarts restart isOld topoId isKill
            · obtain rfl := List.mem_singleton.mp isNew
              simp [State.restart] at isKill }
  | resume index members operation restart cluster isNext executed =>
      have isRestart := List.mem_of_getElem? isNext
      refine accurate.execute ?_ (current _ isNext operation rfl) executed
        accurate.service ?_
      · rintro topoId rfl
        exact accurate.restarts _ isRestart topoId List.mem_cons_self
      · intro other present topoId isKill
        rcases List.mem_or_eq_of_mem_set present with isOld | rfl
        · exact accurate.restarts other isOld topoId isKill
        · exact accurate.restarts _ isRestart topoId
            (List.mem_cons_of_mem _ isKill)

theorem faithful
    (accurate : Accurate state approved) : Faithful state approved where
  tracked := by
    intro topoId
    have same := accurate.tracked topoId
    by_cases present : topoId ∈ state.cluster.nimbus.topoStats.topoIds
    · simpa [Cluster.status, TopoStats.getTopoStatus, present] using same
    · simpa [Cluster.status, TopoStats.getTopoStatus, present] using same
  known := by
    intro topoId present
    have isKnown := accurate.known topoId
    simp only [Cluster.status, TopoStats.getTopoStatus, if_pos present,
      ne_eq, Option.some.injEq] at isKnown
    cases status : (state.cluster.nimbus.topoStats.tracker topoId).status with
    | unset => exact absurd status isKnown
    | pending | idle | preparing | ready | running => decide
  resubmitted := by
    intro topoId spec isGone
    have untracked : ¬ state.Existed topoId := by
      rw [State.Existed, not_not]
      exact (accurate.tracked topoId).mpr isGone
    rw [State.accept, if_neg untracked]
    change (state.cluster.submit topoId spec).status topoId = _
    rw [Cluster.status_submit, Function.update_self]

/-- Stopping a topology that is gone makes Nimbus track it. -/
theorem not_faithful
    (accurate : Accurate state approved) {action : Action} {next : State}
    (outdated : ¬ Current state action)
    (stepped : state.advance action = some next) :
    ¬ Faithful next (approve state action next approved) := by
  intro faithful
  cases State.stepped_of_advance stepped with
  | request request finished => exact outdated trivial
  | serve members operation service cluster isNext executed =>
      exact outdated trivial
  | nodeFail => exact outdated trivial
  | resume index members operation restart cluster isNext executed =>
      cases operation with
      | stop topoId =>
          have gone : state.cluster.status topoId = none := by
            by_contra tracked
            apply outdated
            intro other found operation isHead
            obtain rfl := Option.some.inj (isNext.symm.trans found)
            obtain rfl := Option.some.inj isHead
            exact tracked
          have created : cluster.status topoId = some .unset := by
            rw [Operation.status_execute executed, Operation.effect,
              Function.update_self, gone]
            rfl
          have isKey : topoId ∈ cluster.nimbus.topoStats.topoIds :=
            (TopoStats.getTopoStatus_eq_some_iff.mp created).1
          have isApproved := (faithful.tracked topoId).mp isKey
          rw [show approve state _ _ approved topoId = approved topoId from rfl,
            (accurate.tracked topoId).mp gone] at isApproved
          cases isApproved
      | compile topoId | prepare topoId | start topoId | kill topoId =>
          apply outdated
          intro other found operation isHead
          obtain rfl := Option.some.inj (isNext.symm.trans found)
          obtain rfl := Option.some.inj isHead
          trivial

end Accurate

/-! ## Runs -/

/-- The restart threads of a run stop only tracked topologies exactly if, in
every state on the way, the tracked topologies are the approved ones. -/
theorem every_current_iff_faithful
    {id : String} {trace : List Action}
    {finish : State × (String → Bool)}
    (runs : (approvedSystem id).Runs (approvedSystem id).initial trace
      finish) :
    (approvedSystem id).Every (fun now => Current now.1)
        (approvedSystem id).initial trace ↔
      ∀ front middle, front <+: trace →
        (approvedSystem id).Runs (approvedSystem id).initial front middle →
          Faithful middle.1 middle.2 := by
  apply runs.every_iff_forall_front
    (fun now => Accurate now.1 now.2) (fun now => Faithful now.1 now.2)
  · rintro ⟨state, approved⟩ action ⟨next, after⟩ accurate current stepped
    obtain ⟨moved, rfl⟩ :=
      TransitionSystem.step_recording_eq_some_iff.mp stepped
    exact accurate.step current moved
  · intro now accurate
    exact accurate.faithful
  · rintro ⟨state, approved⟩ action ⟨next, after⟩ accurate outdated stepped
    obtain ⟨moved, rfl⟩ :=
      TransitionSystem.step_recording_eq_some_iff.mp stepped
    exact accurate.not_faithful outdated moved
  · exact Accurate.initial id

/-- A topology is submitted and stopped by a restart, then killed and submitted
again. -/
def submitAgain : List Action :=
  [.request (.submit "t" {}), .nodeFail, .resume 0 ["1", "2"],
    .request (.kill "t"), .serve ["1", "2"], .request (.submit "t" {})]

theorem faithful_of_submitAgain :
    ∃ finish ∈ (approvedSystem "1").run (approvedSystem "1").initial
      submitAgain, Faithful finish.1 finish.2 ∧ finish.2 "t" = true := by
  have every : (approvedSystem "1").Every (fun now => Current now.1)
      (approvedSystem "1").initial submitAgain := by
    decide
  obtain ⟨finish, runs, approved⟩ :
      ∃ finish ∈ (approvedSystem "1").run (approvedSystem "1").initial
        submitAgain, finish.2 "t" = true := by
    decide
  exact ⟨finish, runs, (every_current_iff_faithful runs).mp every submitAgain
    finish (List.prefix_refl _) runs, approved⟩

/-- A topology is killed before the restart thread stops it. -/
def stopKilled : List Action :=
  [.request (.submit "t" {}), .nodeFail, .request (.kill "t"),
    .serve ["1", "2"], .resume 0 ["1", "2"]]

/-- The killed topology is tracked again. -/
theorem not_faithful_of_stopKilled :
    ¬ ∀ (id : String) (trace : List Action)
      (finish : State × (String → Bool)),
      (approvedSystem id).Runs (approvedSystem id).initial trace finish →
        Faithful finish.1 finish.2 := by
  intro claim
  obtain ⟨finish, runs, isKey, killed⟩ :
      ∃ finish ∈ (approvedSystem "1").run (approvedSystem "1").initial
        stopKilled,
        "t" ∈ finish.1.cluster.nimbus.topoStats.topoIds ∧
          finish.2 "t" = false := by
    decide
  have faithful := claim "1" stopKilled finish runs
  rw [(faithful.tracked "t").mp isKey] at killed
  cases killed

end Crane
end CraneSps
