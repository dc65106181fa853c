import CraneSps.Crane.Workers

/-!
# Workers of topologies that are gone

`killTopology` kills the workers of a topology only if it is running, and only
those of the current supervisors.  As long as that covers all of them, every
worker belongs to a topology that is still tracked.
-/

namespace CraneSps
namespace Crane

/-! ## Nodes that fail -/

/-- What can happen to Nimbus and to the nodes of its supervisors. -/
inductive NodeAction
  | nimbus (action : Action)
  /-- A node fails; the next supervisor on it will be a new one. -/
  | crash (id : String)
  deriving DecidableEq

/-- The supervisor of a node fails with its workers. -/
def Cluster.crash (cluster : Cluster) (id : String) : Cluster :=
  { cluster with
    supervisor := Function.update cluster.supervisor id Supervisor.initial }

/-- One step of Nimbus or the failure of another node. -/
def State.nodeStep (state : State) : NodeAction → Option State
  | .nimbus action => state.advance action
  | .crash id =>
      if id = state.cluster.nimbus.id then none
      else some { state with cluster := state.cluster.crash id }

/-- Nimbus on a node, with supervisors on nodes that may fail. -/
def fallibleSystem (id : String) : TransitionSystem State NodeAction where
  initial := State.initial id
  step := State.nodeStep

/-! ## Owners -/

/-- A worker, by its supervisor and its port, with the topology that it was
created for. -/
structure Owner where
  id : String
  port : Nat
  topoId : String
  deriving DecidableEq

/-- The operation that is carried out in a step, and its membership list. -/
def State.operation? (state : State) :
    Action → Option (Operation × List String)
  | .serve members =>
      state.service.head?.map fun operation => (operation, members)
  | .resume index members =>
      (state.restarts[index]?.bind List.head?).map fun operation =>
        (operation, members)
  | _ => none

/-- The workers for which ports have been given away. -/
def issued (before after : Cluster) (topoId : String) : List Owner :=
  after.nimbus.supervisors.flatMap fun id =>
    (List.range' (before.supervisor id).port
        ((after.supervisor id).port - (before.supervisor id).port)).map
      fun port => ⟨id, port, topoId⟩

/-- The owners after an operation: `prepareTopology` creates workers. -/
def Operation.owners
    (before after : Cluster) (owners : List Owner) : Operation → List Owner
  | .prepare topoId => owners ++ issued before after topoId
  | _ => owners

/-- The owners after a step. -/
def recordOwners
    (state : State) (action : NodeAction) (next : State)
    (owners : List Owner) : List Owner :=
  match action with
  | .nimbus action =>
      match state.operation? action with
      | some (operation, _) =>
          operation.owners state.cluster next.cluster owners
      | none => owners
  | .crash id => owners.filter fun owner => owner.id != id

/-- The system with the owners of all workers. -/
def ownedSystem (id : String) :
    TransitionSystem (State × List Owner) NodeAction :=
  (fallibleSystem id).recording [] recordOwners

/-- Every worker belongs to a topology that is tracked. -/
def NoOrphans (cluster : Cluster) (owners : List Owner) : Prop :=
  ∀ id workerId port, (cluster.supervisor id).Has workerId port →
    ∃ topoId ∈ cluster.nimbus.topoStats.topoIds, ⟨id, port, topoId⟩ ∈ owners

/-- The worker still exists. -/
def Owner.Alive (owner : Owner) (cluster : Cluster) : Prop :=
  ∃ name ∈ (cluster.spec owner.topoId).names,
    (cluster.supervisor owner.id).Has
      (Supervisor.createWorkerId owner.topoId name) owner.port

instance (owner : Owner) (cluster : Cluster) :
    Decidable (owner.Alive cluster) := by
  unfold Owner.Alive
  infer_instance

/-- A topology is killed only while it is running on current supervisors, or
without any workers. -/
def Operation.Sweeps
    (cluster : Cluster) (owners : List Owner) (members : List String) :
    Operation → Prop
  | .kill topoId =>
      topoId ∈ cluster.nimbus.topoStats.topoIds →
        ∀ owner ∈ owners, owner.topoId = topoId → owner.Alive cluster →
          cluster.status topoId = some .running ∧ owner.id ∈ members ∧
            owner.id ≠ cluster.nimbus.id
  | _ => True

instance (cluster : Cluster) (owners : List Owner) (members : List String)
    (operation : Operation) :
    Decidable (operation.Sweeps cluster owners members) := by
  rcases operation <;> unfold Operation.Sweeps <;> infer_instance

/-- Every `killTopology` finds all workers of its topology. -/
def Sweeps (now : State × List Owner) : NodeAction → Prop
  | .nimbus action =>
      ∀ executed ∈ now.1.operation? action,
        executed.1.Sweeps now.1.cluster now.2 executed.2
  | .crash _ => True

instance (now : State × List Owner) (action : NodeAction) :
    Decidable (Sweeps now action) := by
  unfold Sweeps
  split <;> infer_instance

/-! ## The invariant -/

/-- Every worker belongs to a tracked topology and is kept under the key of one
of its names. -/
structure Owned (cluster : Cluster) (owners : List Owner) : Prop where
  owned : ∀ id workerId port, (cluster.supervisor id).Has workerId port →
    ∃ topoId ∈ cluster.nimbus.topoStats.topoIds,
      ⟨id, port, topoId⟩ ∈ owners ∧
        ∃ name ∈ (cluster.spec topoId).names,
          workerId = Supervisor.createWorkerId topoId name
  issued : ∀ owner ∈ owners, owner.port < (cluster.supervisor owner.id).port
  single : ∀ owner ∈ owners, ∀ other ∈ owners,
    owner.id = other.id → owner.port = other.port →
      owner.topoId = other.topoId

/-- The owners that are recorded have the ports that were given away. -/
theorem mem_issued_iff
    {before after : Cluster} {topoId : String} {owner : Owner} :
    owner ∈ issued before after topoId ↔
      owner.id ∈ after.nimbus.supervisors ∧
        (before.supervisor owner.id).port ≤ owner.port ∧
        owner.port < (after.supervisor owner.id).port ∧
        owner.topoId = topoId := by
  obtain ⟨id, port, owned⟩ := owner
  simp only [issued, List.mem_flatMap, List.mem_map, List.mem_range'_1,
    Owner.mk.injEq]
  constructor
  · rintro ⟨_, isSupervisor, _, inRange, rfl, rfl, rfl⟩
    exact ⟨isSupervisor, inRange.1, by omega, rfl⟩
  · rintro ⟨isSupervisor, above, below, rfl⟩
    exact ⟨id, isSupervisor, port, ⟨above, by omega⟩, rfl, rfl, rfl⟩

namespace Owned

variable {cluster next : Cluster} {owners : List Owner}

theorem noOrphans
    (owned : Owned cluster owners) : NoOrphans cluster owners := by
  intro id workerId port has
  obtain ⟨topoId, isTracked, isOwner, _⟩ := owned.owned id workerId port has
  exact ⟨topoId, isTracked, isOwner⟩

/-- No workers are created, and no topology is forgotten. -/
theorem mono
    (owned : Owned cluster owners)
    (fewer : ∀ id workerId port, (next.supervisor id).Has workerId port →
      (cluster.supervisor id).Has workerId port)
    (ports : ∀ id, (next.supervisor id).port = (cluster.supervisor id).port)
    (tracked : ∀ topoId ∈ cluster.nimbus.topoStats.topoIds,
      topoId ∈ next.nimbus.topoStats.topoIds ∧
        next.spec topoId = cluster.spec topoId) :
    Owned next owners where
  owned := by
    intro id workerId port has
    obtain ⟨topoId, isTracked, isOwner, isKey⟩ :=
      owned.owned id workerId port (fewer id workerId port has)
    obtain ⟨stillTracked, sameSpec⟩ := tracked topoId isTracked
    refine ⟨topoId, stillTracked, isOwner, ?_⟩
    rw [sameSpec]
    exact isKey
  issued := by
    intro owner isOwner
    rw [ports]
    exact owned.issued owner isOwner
  single := owned.single

section Operations

variable {members : List String} {topoId : String}

/-- What is tracked remains tracked with its specification. -/
theorem tracked_execute
    {operation : Operation}
    (executed : operation.execute cluster members = some next)
    (notKilled : operation ≠ .kill topoId)
    (isTracked : topoId ∈ cluster.nimbus.topoStats.topoIds) :
    topoId ∈ next.nimbus.topoStats.topoIds ∧
      next.spec topoId = cluster.spec topoId := by
  rw [Cluster.mem_topoIds_iff] at isTracked ⊢
  rw [Operation.status_execute executed]
  exact ⟨Operation.effect_ne_none notKilled isTracked,
    Operation.spec_execute executed notKilled⟩

/-- Workers are created for a tracked topology only. -/
theorem prepare
    (owned : Owned cluster owners)
    (executed : (Operation.prepare topoId).execute cluster members =
      some next) :
    Owned next (owners ++ Crane.issued cluster next topoId) where
  owned := by
    intro id workerId port has
    rcases Cluster.has_prepareTopology executed has with
      isOld | ⟨isSupervisor, ⟨name, isName, isKey⟩, above, below⟩
    · obtain ⟨other, isTracked, isOwner, isKey⟩ :=
        owned.owned id workerId port isOld
      obtain ⟨stillTracked, sameSpec⟩ :=
        tracked_execute executed nofun isTracked
      refine ⟨other, stillTracked, List.mem_append_left _ isOwner, ?_⟩
      rw [sameSpec]
      exact isKey
    · have isTracked : topoId ∈ cluster.nimbus.topoStats.topoIds := by
        by_contra untracked
        rw [Cluster.spec, TopoStats.getTopoSpec,
          cluster.nimbus.topoStats.absent topoId untracked] at isName
        cases isName
      obtain ⟨stillTracked, sameSpec⟩ :=
        tracked_execute executed nofun isTracked
      refine ⟨topoId, stillTracked, List.mem_append_right _ ?_, name, ?_,
        isKey⟩
      · exact mem_issued_iff.mpr ⟨isSupervisor, above, below, rfl⟩
      · rw [sameSpec]
        exact isName
  issued := by
    intro owner isOwner
    rcases List.mem_append.mp isOwner with isOld | isNew
    · exact Nat.lt_of_lt_of_le (owned.issued owner isOld)
        (Cluster.port_le_prepareTopology executed)
    · exact (mem_issued_iff.mp isNew).2.2.1
  single := by
    intro owner isOwner other isOther sameId samePort
    rcases List.mem_append.mp isOwner with isOld | isNew
    · rcases List.mem_append.mp isOther with isOldToo | isNewToo
      · exact owned.single owner isOld other isOldToo sameId samePort
      · have below := owned.issued owner isOld
        have above := (mem_issued_iff.mp isNewToo).2.1
        rw [sameId, samePort] at below
        exact absurd below (Nat.not_lt.mpr above)
    · rcases List.mem_append.mp isOther with isOldToo | isNewToo
      · have below := owned.issued other isOldToo
        have above := (mem_issued_iff.mp isNew).2.1
        rw [sameId, samePort] at above
        exact absurd below (Nat.not_lt.mpr above)
      · rw [(mem_issued_iff.mp isNew).2.2.2,
          (mem_issued_iff.mp isNewToo).2.2.2]

/-- All workers of a topology are killed with it. -/
theorem kill
    (owned : Owned cluster owners)
    (sweeps : (Operation.kill topoId).Sweeps cluster owners members) :
    Owned (cluster.killTopology topoId members) owners where
  owned := by
    intro id workerId port has
    obtain ⟨before, spared⟩ := Cluster.has_killTopology.mp has
    obtain ⟨other, isTracked, isOwner, name, isName, isKey⟩ :=
      owned.owned id workerId port before
    have differs : Operation.kill topoId ≠ .kill other := by
      rintro ⟨⟩
      have alive : (⟨id, port, topoId⟩ : Owner).Alive cluster :=
        ⟨name, isName, isKey ▸ before⟩
      exact spared (sweeps isTracked _ isOwner rfl alive) name isName isKey
    obtain ⟨stillTracked, sameSpec⟩ :=
      tracked_execute rfl differs isTracked
    refine ⟨other, stillTracked, isOwner, name, ?_, isKey⟩
    rw [sameSpec]
    exact isName
  issued := by
    intro owner isOwner
    rw [Cluster.port_killTopology]
    exact owned.issued owner isOwner
  single := owned.single

/-- Every operation keeps the workers of tracked topologies only. -/
theorem execute
    (owned : Owned cluster owners) {operation : Operation}
    (sweeps : operation.Sweeps cluster owners members)
    (executed : operation.execute cluster members = some next) :
    Owned next (operation.owners cluster next owners) := by
  cases operation with
  | compile topoId =>
      obtain rfl := Option.some.inj executed
      exact owned.mono (fun _ _ _ has => has) (fun _ => rfl)
        fun _ isTracked => tracked_execute executed nofun isTracked
  | prepare topoId => exact owned.prepare executed
  | start topoId =>
      obtain rfl := Option.some.inj executed
      exact owned.mono (fun _ _ _ has => Cluster.has_startTopology.mp has)
        (fun _ => Cluster.port_startTopology)
        fun _ isTracked => tracked_execute executed nofun isTracked
  | stop topoId =>
      obtain rfl := Option.some.inj executed
      exact owned.mono (fun _ _ _ has => (Cluster.has_stopTopology.mp has).1)
        (fun _ => Cluster.port_stopTopology)
        fun _ isTracked => tracked_execute executed nofun isTracked
  | kill topoId =>
      obtain rfl := Option.some.inj executed
      exact owned.kill sweeps

/-- If a worker survives its topology, it is an orphan. -/
theorem not_noOrphans
    (owned : Owned cluster owners) {operation : Operation}
    (misses : ¬ operation.Sweeps cluster owners members)
    (executed : operation.execute cluster members = some next) :
    ¬ NoOrphans next (operation.owners cluster next owners) := by
  cases operation with
  | compile topoId | prepare topoId | start topoId | stop topoId =>
      exact absurd trivial misses
  | kill topoId =>
      obtain rfl := Option.some.inj executed
      intro noOrphans
      apply misses
      rintro isTracked owner isOwner rfl ⟨name, isName, has⟩
      by_contra missed
      have survives : ((cluster.killTopology owner.topoId members).supervisor
          owner.id).Has (Supervisor.createWorkerId owner.topoId name)
            owner.port :=
        Cluster.has_killTopology.mpr ⟨has, fun reached => absurd reached missed⟩
      obtain ⟨other, stillTracked, alsoOwner⟩ :=
        noOrphans _ _ _ survives
      have same := owned.single owner isOwner _ alsoOwner rfl rfl
      rw [Cluster.mem_topoIds_iff, Cluster.status_killTopology] at stillTracked
      apply stillTracked
      rw [same]
      exact Function.update_self _ _ _

end Operations

theorem initial (id : String) : Owned (State.initial id).cluster [] where
  owned := by
    intro other workerId port has
    exact absurd has Supervisor.not_has_initial
  issued := nofun
  single := nofun

/-- A request changes no worker. -/
theorem accept
    {state : State} (owned : Owned state.cluster owners) (request : Request) :
    Owned (state.accept request).cluster owners := by
  cases request with
  | submit topoId spec =>
      simp only [State.accept]
      split
      · exact owned
      · next untracked =>
          refine owned.mono (fun _ _ _ has => has) (fun _ => rfl) ?_
          intro other isTracked
          have differs : other ≠ topoId := by
            rintro rfl
            exact untracked (Cluster.mem_topoIds_iff.mp isTracked)
          constructor
          · rw [Cluster.mem_topoIds_iff] at isTracked ⊢
            change (state.cluster.submit topoId spec).status other ≠ none
            rw [Cluster.status_submit, Function.update_of_ne differs]
            exact isTracked
          · refine TopoStats.getTopoSpec_setTopoStatus.trans ?_
            rw [TopoStats.setTopoSpec, TopoStats.getTopoSpec,
              TopoStats.tracker_set, if_neg differs]
            rfl
  | send topoId => exact owned
  | start topoId | stop topoId | kill topoId =>
      simp only [State.accept]
      split <;> exact owned

/-- The workers of a node that fails are gone. -/
theorem crash
    (owned : Owned cluster owners) (id : String) :
    Owned (cluster.crash id) (owners.filter fun owner => owner.id != id) where
  owned := by
    intro other workerId port has
    unfold Cluster.crash at has
    by_cases same : other = id
    · subst same
      simp only [Function.update_self] at has
      exact absurd has Supervisor.not_has_initial
    · simp only [Function.update_of_ne same] at has
      obtain ⟨topoId, isTracked, isOwner, isKey⟩ :=
        owned.owned other workerId port has
      refine ⟨topoId, isTracked, ?_, isKey⟩
      simpa [same] using isOwner
  issued := by
    intro owner isOwner
    rw [List.mem_filter, bne_iff_ne] at isOwner
    unfold Cluster.crash
    simp only [Function.update_of_ne isOwner.2]
    exact owned.issued owner isOwner.1
  single := by
    intro owner isOwner other isOther
    exact owned.single owner (List.mem_filter.mp isOwner).1 other
      (List.mem_filter.mp isOther).1

end Owned

/-! ## Runs -/

section Runs

variable {state next : State} {owners : List Owner}

/-- An action of Nimbus carries out an operation or changes no worker. -/
theorem executes_or_keeps
    {action : Action} (stepped : state.Stepped action next) :
    (∃ operation members,
      state.operation? action = some (operation, members) ∧
        operation.execute state.cluster members = some next.cluster) ∨
    state.operation? action = none ∧
      ∀ owners, Owned state.cluster owners → Owned next.cluster owners := by
  cases stepped with
  | request request finished =>
      exact .inr ⟨rfl, fun owners owned => owned.accept request⟩
  | serve members operation service cluster isNext executed =>
      refine .inl ⟨operation, members, ?_, executed⟩
      simp [State.operation?, isNext]
  | nodeFail => exact .inr ⟨rfl, fun owners owned => owned⟩
  | resume index members operation restart cluster isNext executed =>
      refine .inl ⟨operation, members, ?_, executed⟩
      simp [State.operation?, isNext]

/-- A step that sweeps keeps the workers of tracked topologies only. -/
theorem Owned.step
    (owned : Owned state.cluster owners) {action : NodeAction}
    (sweeps : Sweeps (state, owners) action)
    (stepped : state.nodeStep action = some next) :
    Owned next.cluster (recordOwners state action next owners) := by
  cases action with
  | nimbus action =>
      rcases executes_or_keeps (State.stepped_of_advance stepped) with
        ⟨operation, members, isOperation, executed⟩ | ⟨isNone, keeps⟩
      · simp only [recordOwners, isOperation]
        exact owned.execute (sweeps _ isOperation) executed
      · simp only [recordOwners, isNone]
        exact keeps owners owned
  | crash id =>
      obtain ⟨_, isNext⟩ := Option.ite_none_left_eq_some.mp stepped
      obtain rfl := Option.some.inj isNext
      exact owned.crash id

/-- A step that does not sweep leaves an orphan. -/
theorem Owned.not_noOrphans_step
    (owned : Owned state.cluster owners) {action : NodeAction}
    (misses : ¬ Sweeps (state, owners) action)
    (stepped : state.nodeStep action = some next) :
    ¬ NoOrphans next.cluster (recordOwners state action next owners) := by
  cases action with
  | nimbus action =>
      rcases executes_or_keeps (State.stepped_of_advance stepped) with
        ⟨operation, members, isOperation, executed⟩ | ⟨isNone, _⟩
      · simp only [recordOwners, isOperation]
        refine owned.not_noOrphans (fun sweeps => misses ?_) executed
        intro other isOther
        obtain rfl := Option.some.inj (isOperation.symm.trans isOther)
        exact sweeps
      · refine absurd ?_ misses
        intro other isOther
        rw [isNone] at isOther
        cases isOther
  | crash id => exact absurd trivial misses

/-- In a run every `killTopology` finds all workers of its topology exactly if
no state on the way has an orphan. -/
theorem every_sweeps_iff_noOrphans
    {id : String} {trace : List NodeAction} {finish : State × List Owner}
    (runs : (ownedSystem id).Runs (ownedSystem id).initial trace finish) :
    (ownedSystem id).Every Sweeps (ownedSystem id).initial trace ↔
      ∀ front middle, front <+: trace →
        (ownedSystem id).Runs (ownedSystem id).initial front middle →
          NoOrphans middle.1.cluster middle.2 := by
  apply runs.every_iff_forall_front
    (fun now => Owned now.1.cluster now.2)
    (fun now => NoOrphans now.1.cluster now.2)
  · rintro ⟨state, owners⟩ action ⟨next, after⟩ owned sweeps stepped
    obtain ⟨moved, rfl⟩ :=
      TransitionSystem.step_recording_eq_some_iff.mp stepped
    exact owned.step sweeps moved
  · intro now owned
    exact owned.noOrphans
  · rintro ⟨state, owners⟩ action ⟨next, after⟩ owned misses stepped
    obtain ⟨moved, rfl⟩ :=
      TransitionSystem.step_recording_eq_some_iff.mp stepped
    exact owned.not_noOrphans_step misses moved
  · exact Owned.initial id

end Runs

/-- A topology with one spout. -/
def oneSpout : TopologySpec where
  spoutSpecs := [{ name := "s" }]

/-- It is killed while it is running. -/
def killRunning : List NodeAction :=
  [.nimbus (.request (.submit "t" oneSpout)), .nimbus (.request (.start "t")),
    .nimbus (.serve ["1", "2"]), .nimbus (.serve ["1", "2"]),
    .nimbus (.request (.kill "t")), .nimbus (.serve ["1", "2"])]

theorem noOrphans_of_killRunning :
    ∃ finish ∈ (ownedSystem "1").run (ownedSystem "1").initial killRunning,
      finish.2 = [⟨"2", 3000, "t"⟩] ∧
        NoOrphans finish.1.cluster finish.2 := by
  have every : (ownedSystem "1").Every Sweeps (ownedSystem "1").initial
      killRunning := by
    decide
  obtain ⟨finish, runs, created⟩ :
      ∃ finish ∈ (ownedSystem "1").run (ownedSystem "1").initial killRunning,
        finish.2 = [⟨"2", 3000, "t"⟩] := by
    decide
  exact ⟨finish, runs, created, (every_sweeps_iff_noOrphans runs).mp every
    killRunning finish (List.prefix_refl _) runs⟩

/-- A restart thread prepares a topology, and it is killed before the thread
starts it. -/
def killReady : List NodeAction :=
  [.nimbus (.request (.submit "t" oneSpout)), .nimbus .nodeFail,
    .nimbus (.resume 0 ["1", "2"]), .nimbus (.resume 0 ["1", "2"]),
    .nimbus (.request (.kill "t")), .nimbus (.serve ["1", "2"])]

/-- Its worker is left behind. -/
theorem not_noOrphans_of_killReady :
    ¬ ∀ (id : String) (trace : List NodeAction) (finish : State × List Owner),
      (ownedSystem id).Runs (ownedSystem id).initial trace finish →
        NoOrphans finish.1.cluster finish.2 := by
  intro claim
  obtain ⟨finish, runs, has, gone⟩ :
      ∃ finish ∈ (ownedSystem "1").run (ownedSystem "1").initial killReady,
        (finish.1.cluster.supervisor "2").Has "ipc:///tmp/ts" 3000 ∧
          finish.1.cluster.nimbus.topoStats.topoIds = [] := by
    decide
  obtain ⟨topoId, isTracked, _⟩ :=
    claim "1" killReady finish runs "2" "ipc:///tmp/ts" 3000 has
  rw [gone] at isTracked
  cases isTracked

end Crane
end CraneSps
