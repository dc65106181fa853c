import CraneSps.Crane.Nimbus
import CraneSps.Foundation.TransitionSystem

/-!
# Requests and restarts

The service thread of Nimbus handles one request after the other.  Every
failure of a node starts a thread that stops all topologies and then prepares
and starts them again.  The threads are interleaved between whole operations,
and each operation finds at least one supervisor.
-/

namespace CraneSps
namespace Crane

/-- The requests of clients that change something. -/
inductive Request
  | submit (topoId : String) (spec : TopologySpec)
  | send (topoId : String)
  | start (topoId : String)
  | stop (topoId : String)
  | kill (topoId : String)
  deriving DecidableEq

/-- The operations of Nimbus. -/
inductive Operation
  | compile (topoId : String)
  | prepare (topoId : String)
  | start (topoId : String)
  | stop (topoId : String)
  | kill (topoId : String)
  deriving DecidableEq

/-- Carry out an operation. -/
def Operation.execute
    (cluster : Cluster) (members : List String) : Operation → Option Cluster
  | .compile topoId => some (cluster.compileTopology topoId)
  | .prepare topoId => cluster.prepareTopology topoId members
  | .start topoId => some (cluster.startTopology topoId members)
  | .stop topoId => some (cluster.stopTopology topoId members)
  | .kill topoId => some (cluster.killTopology topoId members)

/-- Nimbus with its threads. -/
structure State where
  cluster : Cluster
  /-- What the service thread still has to do for its request. -/
  service : List Operation
  /-- What each restart thread still has to do. -/
  restarts : List (List Operation)

/-- What can happen. -/
inductive Action
  | request (request : Request)
  /-- The next operation of the service thread. -/
  | serve (members : List String)
  /-- `handle(NodeFailEvent)`, up to the list of the topologies. -/
  | nodeFail
  /-- The next operation of a restart thread. -/
  | resume (index : Nat) (members : List String)
  deriving DecidableEq

namespace State

/-- Nimbus has been started on a node, and a supervisor on every other. -/
def initial (id : String) : State where
  cluster :=
    { nimbus := Nimbus.initial id
      supervisor := fun _ => Supervisor.initial }
  service := []
  restarts := []

variable (state : State)

/-- The topology is tracked. -/
def Existed (topoId : String) : Prop :=
  state.cluster.nimbus.topoStats.getTopoStatus topoId ≠ none

instance (topoId : String) : Decidable (state.Existed topoId) := by
  unfold Existed
  infer_instance

/-- A request is received and answered. -/
def accept : Request → State
  | .submit topoId spec =>
      if state.Existed topoId then state
      else { state with cluster := state.cluster.submit topoId spec }
  | .send topoId =>
      { state with
        service := [.compile topoId, .prepare topoId, .start topoId] }
  | .start topoId =>
      if state.Existed topoId then
        { state with service := [.prepare topoId, .start topoId] }
      else state
  | .stop topoId =>
      if state.Existed topoId then
        { state with service := [.stop topoId] }
      else state
  | .kill topoId =>
      if state.Existed topoId then
        { state with service := [.kill topoId] }
      else state

/-- The operations of a restart thread. -/
def restart : List Operation :=
  let topoIds := state.cluster.nimbus.topoStats.getAllTopoIds
  topoIds.map .stop ++
    topoIds.flatMap fun topoId => [.prepare topoId, .start topoId]

/-- There is a supervisor among the members. -/
def Supervised (members : List String) : Prop :=
  ∃ id ∈ members, id ≠ state.cluster.nimbus.id

instance (members : List String) : Decidable (state.Supervised members) := by
  unfold Supervised
  infer_instance

/-- One step. -/
def step : Action → Option State
  | .request request =>
      if state.service = [] then some (state.accept request) else none
  | .serve members =>
      match state.service with
      | operation :: service =>
          if state.Supervised members then
            (operation.execute state.cluster members).map fun cluster =>
              { state with cluster := cluster, service := service }
          else none
      | [] => none
  | .nodeFail =>
      some { state with restarts := state.restarts ++ [state.restart] }
  | .resume index members =>
      match state.restarts[index]? with
      | some (operation :: restart) =>
          if state.Supervised members then
            (operation.execute state.cluster members).map fun cluster =>
              { state with
                cluster := cluster
                restarts := state.restarts.set index restart }
          else none
      | _ => none

/-- One step, where an operation may also find no supervisor. -/
def advance : Action → Option State
  | .serve members =>
      match state.service with
      | operation :: service =>
          (operation.execute state.cluster members).map fun cluster =>
            { state with cluster := cluster, service := service }
      | [] => none
  | .resume index members =>
      match state.restarts[index]? with
      | some (operation :: restart) =>
          (operation.execute state.cluster members).map fun cluster =>
            { state with
              cluster := cluster
              restarts := state.restarts.set index restart }
      | _ => none
  | action => state.step action

/-- The steps by what happens in them. -/
inductive Stepped : Action → State → Prop
  | request (request : Request) (finished : state.service = []) :
      Stepped (.request request) (state.accept request)
  | serve (members : List String) (operation : Operation)
      (service : List Operation) (cluster : Cluster)
      (isNext : state.service = operation :: service)
      (executed : operation.execute state.cluster members = some cluster) :
      Stepped (.serve members)
        { state with cluster := cluster, service := service }
  | nodeFail :
      Stepped .nodeFail
        { state with restarts := state.restarts ++ [state.restart] }
  | resume (index : Nat) (members : List String) (operation : Operation)
      (restart : List Operation) (cluster : Cluster)
      (isNext : state.restarts[index]? = some (operation :: restart))
      (executed : operation.execute state.cluster members = some cluster) :
      Stepped (.resume index members)
        { state with
          cluster := cluster
          restarts := state.restarts.set index restart }

section Steps

variable {state} {action : Action} {next : State}

/-- A step with a supervisor is a step. -/
theorem advance_of_step
    (stepped : state.step action = some next) :
    state.advance action = some next := by
  cases action with
  | request request => exact stepped
  | serve members =>
      simp only [step] at stepped
      simp only [advance]
      split at stepped
      · exact (Option.ite_none_right_eq_some.mp stepped).2
      · cases stepped
  | nodeFail => exact stepped
  | resume index members =>
      simp only [step] at stepped
      simp only [advance]
      split at stepped
      · exact (Option.ite_none_right_eq_some.mp stepped).2
      · cases stepped

/-- Every step is one of them. -/
theorem stepped_of_advance
    (stepped : state.advance action = some next) :
    state.Stepped action next := by
  cases action with
  | request request =>
      simp only [advance, step, Option.ite_none_right_eq_some,
        Option.some.injEq] at stepped
      obtain ⟨finished, rfl⟩ := stepped
      exact .request request finished
  | serve members =>
      simp only [advance] at stepped
      split at stepped
      · next operation service isNext =>
          obtain ⟨cluster, executed, rfl⟩ := Option.map_eq_some_iff.mp stepped
          exact .serve members operation service cluster isNext executed
      · cases stepped
  | nodeFail =>
      obtain rfl := Option.some.inj stepped
      exact .nodeFail
  | resume index members =>
      simp only [advance] at stepped
      split at stepped
      · next operation restart isNext =>
          obtain ⟨cluster, executed, rfl⟩ := Option.map_eq_some_iff.mp stepped
          exact .resume index members operation restart cluster isNext
            executed
      · cases stepped

end Steps

end State

/-- Nimbus on a node. -/
def craneSystem (id : String) : TransitionSystem State Action where
  initial := State.initial id
  step := State.step

/-- Nimbus on a node that may be left without supervisors. -/
def nimbusSystem (id : String) : TransitionSystem State Action where
  initial := State.initial id
  step := State.advance

end Crane
end CraneSps
