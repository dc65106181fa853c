import CraneSps.Foundation.Levels
import CraneSps.Streaming.Progress

/-!
# Termination

If the connections form no cycle, the tuples that are on the way are processed
in finitely many steps, whatever the order of the steps is and however many
tuples a bolt produces for one.  As the network makes a step as long as
something is on the way, it comes to rest when nothing is.
-/

namespace CraneSps
namespace Streaming

open Crane (Tuple CraneTuple GroupingScheme)

/-- What the steps of a bolt have to do with its input.  A tuple costs less in
every queue than in the one before, and the messages that are left to receive
cost more than their tuples. -/
def ChildImpl.inputAmount {Fields : Type} (child : ChildImpl Fields) : Nat :=
  7 * child.received.length + 6 * child.inData.length +
    2 * child.localStream.length +
    if child.running then 1 else if child.localStream = [] then 0 else 2

/-- What is left to do with the output. -/
def ChildImpl.outputAmount {Fields : Type} (child : ChildImpl Fields) : Nat :=
  3 * child.emitting.length + 2 * child.outData.length + child.batch.length

/-- What a worker has left to do without its connections. -/
def ChildImpl.parts {Fields : Type} (child : ChildImpl Fields) : Nat → Nat
  | 0 => child.inputAmount
  | 1 => child.outputAmount
  | 2 => child.outgoing.length
  | _ => 0

/-- What is left to do with the messages of a connection. -/
def channelAmount (messages : List (List CraneTuple)) : Nat :=
  (messages.map fun tuples => 7 * tuples.length + 1).sum

namespace Deployment

variable (deployment : Deployment)

/-- All connections of the workers. -/
def connections : List Connection :=
  Dataflow.connections deployment.shape
    (deployment.workers.flatMap fun worker =>
      (List.range (deployment.groups worker).length).map (worker, ·))

/-- The receivers have higher ranks than the senders, and all ranks are below a
bound. -/
structure Ranked (rank : String → Nat) (height : Nat) : Prop where
  below : ∀ worker ∈ deployment.workers, rank worker < height
  raises : ∀ (connection : Connection) (receiver : String),
    deployment.address connection = some receiver →
      rank connection.1.1 < rank receiver

/-- What is left to do with the messages to a worker. -/
def incoming
    (channel : Connection → List (List CraneTuple)) (worker : String) : Nat :=
  (deployment.connections.map fun connection =>
    if deployment.address connection = some worker then
      channelAmount (channel connection)
    else 0).sum

variable {deployment}

/-- What is left to do by a worker before its input is in the queues of others,
in the order in which it is done. -/
def State.parts
    (state : State deployment) (worker : String) (part : Nat) : Nat :=
  (state.child worker).parts part +
    if part = 0 then deployment.incoming state.channel worker else 0

/-- What is left to do on each level. -/
def State.amount
    (rank : String → Nat) (state : State deployment) : Nat → Nat :=
  Levels.amount deployment.workers rank 3 state.parts

theorem Leads.mem_connections
    {connection : Connection} (leads : deployment.Leads connection) :
    connection ∈ deployment.connections := by
  obtain ⟨isWorker, receiver, _, isAddress, _⟩ := leads
  obtain ⟨⟨sender, index⟩, dest⟩ := connection
  obtain ⟨group, isGroup, isConnection⟩ :=
    Option.bind_eq_some_iff.mp isAddress
  obtain ⟨groupInside, _⟩ := List.getElem?_eq_some_iff.mp isGroup
  obtain ⟨inside, _⟩ := List.getElem?_eq_some_iff.mp isConnection
  apply Dataflow.mem_connections.mpr
  constructor
  · exact List.mem_flatMap.mpr ⟨sender, isWorker, List.mem_map.mpr
      ⟨index, List.mem_range.mpr groupInside, rfl⟩⟩
  · rw [size_shape isGroup]
    exact inside

end Deployment

/-! ## Steps of a thread -/

section Threads

variable {base : TopologyNodeBase} {isBolt : Bool}
variable {undefined : String → GroupingScheme}
variable {groups : List Crane.InternalConnectionGroup}
variable {child next : ChildImpl base.Fields} {step : ThreadStep}

/-- A step of a thread leaves less to do. -/
theorem lowers_of_stepped
    (stepped : child.Stepped base isBolt undefined groups step next)
    (notSpout : step ≠ .nextTuple) :
    Levels.Lowers 3 next.parts child.parts := by
  cases stepped with
  | nextTuple => exact absurd rfl notSpout
  | popInData isFirst isBolt collecting =>
      refine ⟨0, by decide, ?_, nofun⟩
      simp only [ChildImpl.parts, ChildImpl.inputAmount, isFirst, collecting,
        List.length_cons, List.length_append, List.length_nil,
        Bool.false_eq_true, if_false, List.append_eq_nil_iff,
        List.cons_ne_self, and_false]
      split <;> omega
  | startRunning collected someTuple collecting =>
      refine ⟨0, by decide, ?_, nofun⟩
      simp [ChildImpl.parts, ChildImpl.inputAmount, collecting, someTuple]
  | runOnTuple isFirst running emitted isRun =>
      refine ⟨0, by decide, ?_, nofun⟩
      simp [ChildImpl.parts, ChildImpl.inputAmount, running, isFirst]
  | pushOutData isFirst =>
      refine ⟨1, by decide, ?_, ?_⟩
      · simp only [ChildImpl.parts, ChildImpl.outputAmount, isFirst,
          List.length_cons, List.length_append, List.length_nil]
        omega
      · intro lower isLower
        obtain rfl := Nat.lt_one_iff.mp isLower
        exact Nat.le_refl _
  | stopRunning noTuple emitted running =>
      refine ⟨0, by decide, ?_, nofun⟩
      simp [ChildImpl.parts, ChildImpl.inputAmount, running, noTuple]
  | popOutData isFirst allSent =>
      refine ⟨1, by decide, ?_, ?_⟩
      · simp only [ChildImpl.parts, ChildImpl.outputAmount, isFirst,
          List.length_cons, List.length_append, List.length_nil]
        omega
      · intro lower isLower
        obtain rfl := Nat.lt_one_iff.mp isLower
        exact Nat.le_refl _
  | createMessages allRead someTuple allSent isSent =>
      refine ⟨1, by decide, ?_, ?_⟩
      · have positive := List.length_pos_iff.mpr someTuple
        simp only [ChildImpl.parts, ChildImpl.outputAmount, List.length_nil]
        omega
      · intro lower isLower
        obtain rfl := Nat.lt_one_iff.mp isLower
        exact Nat.le_refl _
  | pushInData isFirst =>
      refine ⟨0, by decide, ?_, nofun⟩
      simp only [ChildImpl.parts, ChildImpl.inputAmount, isFirst,
        List.length_cons, List.length_append, List.length_nil]
      omega

end Threads

/-! ## Steps of the network -/

namespace Deployment

variable {deployment : Deployment} {state next : State deployment}
variable {undefined : String → GroupingScheme} {action : Action}
variable {rank : String → Nat} {height : Nat}

/-- A step of a worker leaves less to do. -/
theorem Ranked.lowers_thread
    (ranked : deployment.Ranked rank height) {worker : String}
    {step : ThreadStep} {child : ChildImpl (deployment.node worker).Fields}
    (isWorker : worker ∈ deployment.workers)
    (stepped : (state.child worker).Stepped (deployment.node worker)
      (deployment.isBolt worker) undefined (deployment.groups worker) step
      child)
    (notSpout : step ≠ .nextTuple) :
    Levels.Lowers (3 * height)
      (State.amount rank
        { state with child := Function.update state.child worker child })
      (state.amount rank) := by
  apply Levels.lowers_amount isWorker (ranked.below worker isWorker)
  · obtain ⟨part, inside, less, notMore⟩ := lowers_of_stepped stepped notSpout
    refine ⟨part, inside, ?_, fun lower below => ?_⟩
    · simp only [State.parts, Function.update_self]
      exact Nat.add_lt_add_right less _
    · simp only [State.parts, Function.update_self]
      exact Nat.add_le_add_right (notMore lower below) _
  · intro other _ differs
    right
    intro part
    simp only [State.parts, Function.update_of_ne differs]
    exact Nat.le_refl _

/-- The messages on other connections are not for a worker. -/
theorem incoming_of_not_leads
    {channel after : Connection → List (List CraneTuple)}
    {connection : Connection} {worker : String}
    (same : ∀ other ≠ connection, after other = channel other)
    (notLeads : deployment.address connection ≠ some worker) :
    deployment.incoming after worker = deployment.incoming channel worker := by
  rw [incoming, incoming]
  congr 1
  apply List.map_congr_left
  intro other _
  by_cases isConnection : other = connection
  · subst isConnection
    rw [if_neg notLeads, if_neg notLeads]
  · rw [same other isConnection]

/-- A message that is sent leaves less to do, as its receiver has a higher
rank. -/
theorem Ranked.lowers_send
    (ranked : deployment.Ranked rank height) (confined : state.Confined)
    {worker : String} {group index : Nat} {tuples : List CraneTuple}
    {outgoing : List ((Nat × Nat) × List CraneTuple)}
    (isFirst : (state.child worker).outgoing =
      ((group, index), tuples) :: outgoing) :
    Levels.Lowers (3 * height)
      (State.amount rank
        { child := Function.update state.child worker
            { state.child worker with outgoing := outgoing }
          channel := Function.update state.channel ((worker, group), index)
            (state.channel ((worker, group), index) ++ [tuples]) })
      (state.amount rank) := by
  have leads := confined.outgoing worker _ (isFirst ▸ List.mem_cons_self)
  obtain ⟨isWorker, receiver, _, isAddress, _⟩ := leads
  have raises := ranked.raises _ _ isAddress
  have unchanged (other : String) (differs : other ≠ receiver) :
      deployment.incoming (Function.update state.channel
          ((worker, group), index)
          (state.channel ((worker, group), index) ++ [tuples])) other =
        deployment.incoming state.channel other := by
    refine incoming_of_not_leads
      (fun _ another => Function.update_of_ne another _ _) ?_
    rw [isAddress]
    exact fun same => differs (Option.some.inj same).symm
  apply Levels.lowers_amount isWorker (ranked.below worker isWorker)
  · have notReceiver : worker ≠ receiver := by
      rintro rfl
      exact Nat.lt_irrefl _ raises
    refine ⟨2, by decide, ?_, fun lower below => ?_⟩
    · simp [State.parts, ChildImpl.parts, isFirst]
    · simp only [State.parts, Function.update_self,
        unchanged worker notReceiver]
      match lower, below with
      | 0, _ => exact Nat.le_refl _
      | 1, _ => exact Nat.le_refl _
  · intro other _ differs
    by_cases isReceiver : other = receiver
    · left
      rw [isReceiver]
      exact raises
    · right
      intro part
      simp only [State.parts, Function.update_of_ne differs,
        unchanged other isReceiver]
      exact Nat.le_refl _

/-- A message that is received leaves less to do. -/
theorem Ranked.lowers_recv
    (ranked : deployment.Ranked rank height) (confined : state.Confined)
    {worker : String} {connection : Connection} {tuples : List CraneTuple}
    {messages : List (List CraneTuple)}
    (isFirst : state.channel connection = tuples :: messages)
    (isWorker : worker ∈ deployment.workers)
    (leads : deployment.address connection = some worker)
    (allPushed : (state.child worker).received = []) :
    Levels.Lowers (3 * height)
      (State.amount rank
        { child := Function.update state.child worker
            { state.child worker with received := tuples.map ofMessage }
          channel := Function.update state.channel connection messages })
      (state.amount rank) := by
  have someMessage : state.channel connection ≠ [] := by
    rw [isFirst]
    exact List.cons_ne_nil _ _
  have isConnection := (confined.channel connection someMessage).mem_connections
  apply Levels.lowers_amount isWorker (ranked.below worker isWorker)
  · refine ⟨0, by decide, ?_, nofun⟩
    have received : deployment.incoming
          (Function.update state.channel connection messages) worker +
        (7 * tuples.length + 1) ≤
          deployment.incoming state.channel worker := by
      refine Levels.sum_add_le_sum isConnection ?_ fun other _ => ?_
      · simp only [leads, if_true, Function.update_self, isFirst,
          channelAmount, List.map_cons, List.sum_cons]
        omega
      · by_cases same : other = connection
        · subst same
          simp only [leads, if_true, Function.update_self, isFirst,
            channelAmount, List.map_cons, List.sum_cons]
          omega
        · rw [Function.update_of_ne same]
    simp only [State.parts, ChildImpl.parts, ChildImpl.inputAmount,
      Function.update_self, allPushed, List.length_map, List.length_nil,
      if_true]
    omega
  · intro other _ differs
    right
    intro part
    have unchanged : deployment.incoming
        (Function.update state.channel connection messages) other =
          deployment.incoming state.channel other := by
      refine incoming_of_not_leads
        (fun _ another => Function.update_of_ne another _ _) ?_
      rw [leads]
      exact fun same => differs (Option.some.inj same).symm
    simp only [State.parts, Function.update_of_ne differs, unchanged]
    exact Nat.le_refl _

/-- A step that is none of the loop of a spout leaves less to do. -/
theorem Ranked.lowers_of_stepped
    (ranked : deployment.Ranked rank height) (confined : state.Confined)
    (stepped : state.Stepped undefined action next)
    (isBoltStep : action.IsBoltStep) :
    Levels.Lowers (3 * height) (next.amount rank) (state.amount rank) := by
  cases stepped with
  | thread isWorker stepped =>
      refine ranked.lowers_thread isWorker stepped ?_
      rintro rfl
      exact isBoltStep
  | send isFirst => exact ranked.lowers_send confined isFirst
  | recv isFirst isWorker leads allPushed =>
      exact ranked.lowers_recv confined isFirst isWorker leads allPushed

/-- A step that is none of the loop of a spout. -/
def State.BoltStep
    (undefined : String → GroupingScheme) (state next : State deployment) :
    Prop :=
  ∃ action : Action, action.IsBoltStep ∧
    state.advance undefined action = some next

/-- There is no infinite sequence of such steps. -/
theorem Ranked.acc_boltStep
    (ranked : deployment.Ranked rank height) (closed : deployment.Closed)
    (confined : state.Confined) :
    Acc (fun next state => State.BoltStep undefined state next) state := by
  have preserved (state next : State deployment) (confined : state.Confined)
      (stepped : state.BoltStep undefined next) : next.Confined := by
    obtain ⟨action, _, isStep⟩ := stepped
    exact confined.advance closed (State.stepped_of_advance isStep)
  have lowers (state next : State deployment) (confined : state.Confined)
      (stepped : state.BoltStep undefined next) :
      Levels.Lowers (3 * height) (next.amount rank) (state.amount rank) := by
    obtain ⟨action, isBoltStep, isStep⟩ := stepped
    exact ranked.lowers_of_stepped confined (State.stepped_of_advance isStep)
      isBoltStep
  exact Levels.acc_of_lowers preserved lowers state confined

end Deployment

/-! ## The end of a run -/

section Ends

variable {deployment : Deployment} {accepts : String → Tuple → Prop}
variable {undefined : String → GroupingScheme} {rank : String → Nat}
variable {height : Nat} {state next : Deployment.State deployment}
variable {history : History} {action : Deployment.Action}

/-- Only the loop of a spout produces its tuples. -/
theorem Accounted.produced_of_boltStep
    (accounted : Accounted state history)
    (stepped : state.Stepped undefined action next)
    (isBoltStep : action.IsBoltStep) {worker : String}
    (isSpout : deployment.isBolt worker = false) :
    (History.record undefined state action next history worker).produced =
      (history worker).produced := by
  cases stepped with
  | @thread sender step child isWorker stepped =>
      simp only [History.record, Function.update_self]
      by_cases same : worker = sender
      · subst same
        rw [Function.update_self]
        cases stepped with
        | nextTuple => exact absurd isBoltStep id
        | runOnTuple isFirst =>
            have noTuple := ((accounted.children worker).spout isSpout).2.2.1
            rw [isFirst] at noTuple
            cases noTuple
        | popInData | startRunning | pushOutData | stopRunning | popOutData
        | createMessages | pushInData => rfl
      · rw [Function.update_of_ne same]
  | send => rfl
  | @recv receiver connection =>
      simp only [History.record]
      by_cases same : worker = receiver
      · subst same
        rw [Function.update_self]
      · rw [Function.update_of_ne same]

/-- If the loops of the spouts make no more steps, the network comes to rest,
and everything that holds when it has is inevitable. -/
theorem Sound.inevitable
    (sound : Sound accepts state history) (closed : deployment.Closed)
    (typed : deployment.Typed accepts)
    (ranked : deployment.Ranked rank height)
    {goal : Deployment.State deployment → Prop}
    (atEnd : ∀ finish after, Sound accepts finish after → finish.Quiet →
      (∀ worker, deployment.isBolt worker = false →
        (after worker).produced = (history worker).produced) →
      goal finish) :
    Levels.Inevitable (Deployment.State.BoltStep undefined) goal state := by
  let invariant (finish : Deployment.State deployment) : Prop :=
    ∃ after, Sound accepts finish after ∧
      ∀ worker, deployment.isBolt worker = false →
        (after worker).produced = (history worker).produced
  apply @Levels.inevitable_of_acc _ _ invariant
  · rintro before next ⟨after, sound, same⟩ ⟨action, isBoltStep, isStep⟩
    have stepped := Deployment.State.stepped_of_advance isStep
    refine ⟨_, sound.advance closed typed stepped, fun worker isSpout => ?_⟩
    rw [sound.accounted.produced_of_boltStep stepped isBoltStep isSpout]
    exact same worker isSpout
  · rintro finish ⟨after, sound, same⟩ stuck
    have blocked : Sound.Blocked undefined finish := by
      intro action isBoltStep
      by_contra enabled
      obtain ⟨next, isStep⟩ := Option.ne_none_iff_exists'.mp enabled
      exact stuck next ⟨action, isBoltStep, isStep⟩
    exact atEnd finish after sound
      (sound.quiet_of_blocked closed typed blocked) same
  · exact ranked.acc_boltStep closed sound.confined
  · exact ⟨history, sound, fun _ _ => rfl⟩

end Ends

/-- After every run, if the loops of the spouts make no more steps, the network
comes to rest, whatever the order of the other steps is, and then nothing is on
the way. -/
theorem comesToRest
    (undefined : String → GroupingScheme) (deployment : Deployment)
    (accepts : String → Tuple → Prop) (rank : String → Nat) (height : Nat)
    (closed : deployment.Closed) (typed : deployment.Typed accepts)
    (ranked : deployment.Ranked rank height)
    (trace : List Deployment.Action) (state : Deployment.State deployment)
    (runs : (Deployment.network undefined deployment).Runs
      (.initial deployment) trace state) :
    Levels.Inevitable (Deployment.State.BoltStep undefined)
      Deployment.State.Quiet state := by
  obtain ⟨history, recorded⟩ := Deployment.exists_recorded runs
  have sound := Sound.of_runs closed typed recorded
  exact sound.inevitable closed typed ranked fun _ _ _ quiet _ => quiet

/-- Only the spout has a group, which leads to the bolt. -/
theorem mem_groups_ticker
    {worker : String} {group : Crane.InternalConnectionGroup}
    (inGroups : group ∈ ticker.groups worker) :
    worker = "s" ∧ group = ⟨"b", "FieldGrouping", ["b"]⟩ := by
  simp only [ticker] at inGroups
  split at inGroups
  next isSpout => exact ⟨isSpout, List.mem_singleton.mp inGroups⟩
  next => cases inGroups

theorem comesToRest_ticker :
    ∃ state, (Deployment.network (fun _ => .default) ticker).Runs
        (.initial ticker) tick state ∧
      Levels.Inevitable (Deployment.State.BoltStep fun _ => .default)
        Deployment.State.Quiet state := by
  obtain ⟨state, history, recorded⟩ := exists_tick
  have runs := (TransitionSystem.runs_iff_exists_recording _).mpr
    ⟨history, recorded⟩
  refine ⟨state, runs, comesToRest _ ticker (fun _ _ => True)
    (fun worker => if worker = "s" then 0 else 1) 2 ?_ ?_ ?_ tick state runs⟩
  · constructor
    · decide
    · intro worker _ group inGroups
      obtain ⟨_, rfl⟩ := mem_groups_ticker inGroups
      exact ⟨.inr rfl, nofun⟩
    · intro worker _ group inGroups receiver isReceiver
      obtain ⟨_, rfl⟩ := mem_groups_ticker inGroups
      obtain rfl := List.mem_singleton.mp isReceiver
      decide
  · constructor
    · intro worker _ _ node tuple _
      exact Option.some_ne_none _
    · intro worker _ _ node tuple next tuples _ isRun produced isProduced
      obtain ⟨_, rfl⟩ := Prod.mk.inj (Option.some.inj isRun)
      cases isProduced
    · intro worker _ _ node next tuple isNext
      obtain ⟨_, rfl⟩ := Prod.mk.inj (Option.some.inj isNext)
      exact ⟨nofun, fun _ _ _ _ => trivial⟩
  · constructor
    · decide
    · intro connection receiver leads
      obtain ⟨group, isGroup, isReceiver⟩ := Option.bind_eq_some_iff.mp leads
      obtain ⟨isSpout, rfl⟩ := mem_groups_ticker
        (List.mem_of_getElem? isGroup)
      obtain rfl := List.mem_singleton.mp (List.mem_of_getElem? isReceiver)
      simp [isSpout]

end Streaming
end CraneSps
