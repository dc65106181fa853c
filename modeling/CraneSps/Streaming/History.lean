import CraneSps.Crane.FieldGrouping
import CraneSps.Streaming.Network

/-!
# What has happened to the tuples

Beside the state of a network we record what every worker has received, run on,
produced and given to its groups.  Along a run no queue loses a tuple, invents
one or changes the order: what has been received is what has been run on,
followed by what is in the queues, and what has been given to a connection is
what has been received from it, followed by what is on the way.
-/

namespace CraneSps
namespace Streaming

open Crane (Tuple CraneTuple Message InternalConnectionGroup GroupingScheme
  dataSend sendGroup)

/-- What has happened in a worker. -/
structure WorkerHistory where
  /-- What has been received, with the connections. -/
  arrived : List (Connection × Tuple) := []
  /-- What `runOnTuple` has been called with. -/
  consumed : List Tuple := []
  /-- What the user's code has produced. -/
  produced : List Tuple := []
  /-- What has been in a batch. -/
  sent : List Tuple := []
  /-- What has been given to each group, with the connections. -/
  assigned : Nat → List (Nat × Tuple) := fun _ => []

/-- The connections that a group chooses for the tuples of a batch. -/
def assign
    (undefined : String → GroupingScheme) (draw : Nat) (stream : List Tuple)
    (group : InternalConnectionGroup) : List (Nat × Tuple) :=
  let size := group.connections.length
  match (Crane.parseGroupingString group.grouping).getD
      (undefined group.grouping) with
  | .shuffle => stream.map fun tuple => (Crane.selectRandom draw size, tuple)
  | .field => stream.map fun tuple => (tuple.hashed size, tuple)
  | _ => []

/-- What a step of a thread adds to the history of its worker. -/
def WorkerHistory.record
    {Fields : Type} (undefined : String → GroupingScheme)
    (groups : List InternalConnectionGroup) (child next : ChildImpl Fields)
    (history : WorkerHistory) : ThreadStep → WorkerHistory
  | .nextTuple =>
      { history with produced := history.produced ++ next.emitting }
  | .runOnTuple =>
      { history with
        consumed := history.consumed ++ child.localStream.take 1
        produced := history.produced ++ next.emitting }
  | .createMessages draws =>
      { history with
        sent := history.sent ++ child.batch
        assigned := fun index =>
          history.assigned index ++
            (groups[index]?.map fun group =>
              assign undefined (draws index) child.batch group).getD [] }
  | _ => history

/-- The histories of all workers. -/
abbrev History := String → WorkerHistory

namespace History

variable {deployment : Deployment}

/-- What a step adds. -/
def record
    (undefined : String → GroupingScheme)
    (state : Deployment.State deployment) (action : Deployment.Action)
    (next : Deployment.State deployment) (history : History) : History :=
  match action with
  | .thread worker step =>
      Function.update history worker
        ((history worker).record undefined (deployment.groups worker)
          (state.child worker) (next.child worker) step)
  | .send _ => history
  | .recv worker connection =>
      Function.update history worker
        { history worker with
          arrived := (history worker).arrived ++
            (next.child worker).received.map (connection, ·) }

end History

/-- The network with its history. -/
def Deployment.recorded
    (undefined : String → GroupingScheme) (deployment : Deployment) :
    TransitionSystem (Deployment.State deployment × History)
      Deployment.Action :=
  (Deployment.network undefined deployment).recording (fun _ => {})
    (History.record undefined)

/-- Every run has a history. -/
theorem Deployment.exists_recorded
    {undefined : String → GroupingScheme} {deployment : Deployment}
    {trace : List Deployment.Action} {state : Deployment.State deployment}
    (runs : (Deployment.network undefined deployment).Runs
      (.initial deployment) trace state) :
    ∃ history, (deployment.recorded undefined).Runs
      (deployment.recorded undefined).initial trace (state, history) :=
  (TransitionSystem.runs_iff_exists_recording _).mp runs

/-- The methods of a class as a transducer. -/
def TopologyNodeBase.transducer
    (base : TopologyNodeBase) : Transducer base.Fields Tuple Tuple where
  initial := base.createObject
  step := base.runOnTuple

/-- A number of calls of `nextTuple`. -/
def TopologyNodeBase.emit (base : TopologyNodeBase) :
    Nat → Option (base.Fields × List Tuple)
  | 0 => some (base.createObject, [])
  | count + 1 =>
      (base.emit count).bind fun (node, tuples) =>
        (base.nextTuple node).map fun (next, tuple) =>
          (next, tuples ++ [tuple])

/-- What the history of a worker says about its queues. -/
structure ChildAccounted
    (base : TopologyNodeBase) (isBolt : Bool)
    (groups : List InternalConnectionGroup)
    (child : ChildImpl base.Fields) (history : WorkerHistory) : Prop where
  arrived : history.arrived.map Prod.snd =
    history.consumed ++ child.localStream ++ child.inData ++ child.received
  produced : history.produced =
    history.sent ++ child.batch ++ child.outData ++ child.emitting
  bolt : isBolt = true →
    base.transducer.run history.consumed = some (child.node, history.produced)
  spout : isBolt = false →
    base.emit history.produced.length = some (child.node, history.produced) ∧
      history.consumed = [] ∧ child.localStream = [] ∧ child.running = false
  assigned : ∀ (index : Nat) (group : InternalConnectionGroup),
    groups[index]? = some group → group.Known →
      (history.assigned index).map Prod.snd = history.sent
  inside : ∀ (index : Nat) (group : InternalConnectionGroup),
    groups[index]? = some group → group.connections ≠ [] →
      ∀ route ∈ history.assigned index, route.1 < group.connections.length
  hashed : ∀ (index : Nat) (group : InternalConnectionGroup),
    groups[index]? = some group → group.grouping = "FieldGrouping" →
      ∀ route ∈ history.assigned index,
        route.1 = route.2.hashed group.connections.length

/-- What the histories say about the queues of all workers and about all
connections. -/
structure Accounted
    {deployment : Deployment} (state : Deployment.State deployment)
    (history : History) : Prop where
  children : ∀ worker,
    ChildAccounted (deployment.node worker) (deployment.isBolt worker)
      (deployment.groups worker) (state.child worker) (history worker)
  origin : ∀ worker, ∀ entry ∈ (history worker).arrived,
    deployment.address entry.1 = some worker
  inOrder : ∀ (connection : Connection) (worker : String),
    deployment.address connection = some worker →
      ((history connection.1.1).assigned connection.1.2).group connection.2 =
        (history worker).arrived.group connection ++
          (state.channel connection).flatten.map ofMessage ++
          ((state.child connection.1.1).outgoing.group
            (connection.1.2, connection.2)).flatten.map ofMessage

/-! ## Messages -/

section Messages

variable {undefined : String → GroupingScheme} {draw : Nat}
variable {stream : List Tuple} {group : InternalConnectionGroup}
variable {messages : List Message}

@[simp] theorem ofMessage_toMessage (tuple : Tuple) :
    ofMessage tuple.toMessage = tuple :=
  rfl

@[simp] theorem map_ofMessage_toMessage (stream : List Tuple) :
    (stream.map Tuple.toMessage).map ofMessage = stream := by
  rw [List.map_map]
  exact List.map_id stream

/-- The tuples of a batch that has been addressed have first fields. -/
theorem fields_of_address
    {size : Nat} {addressed : List (Nat × Tuple)}
    (isAddressed : Crane.address stream size = some addressed) :
    ∀ tuple ∈ stream, tuple.data ≠ [] := by
  unfold Crane.address at isAddressed
  induction stream generalizing addressed with
  | nil => exact nofun
  | cons tuple stream inductionHypothesis =>
      rw [List.mapM_cons] at isAddressed
      obtain ⟨first, isFirst, others⟩ :=
        Option.bind_eq_some_iff.mp isAddressed
      obtain ⟨rest, isRest, _⟩ := Option.bind_eq_some_iff.mp others
      refine List.forall_mem_cons.mpr ⟨?_, ?_⟩
      · intro noField
        rw [noField] at isFirst
        cases isFirst
      · exact inductionHypothesis isRest

/-- Every connection gets the tuples that are assigned to it. -/
theorem received_sendGroup
    (isSent : sendGroup undefined draw stream group = some messages)
    (dest : Nat) :
    Crane.received messages dest =
      ((assign undefined draw stream group).group dest).map
        Tuple.toMessage := by
  unfold sendGroup at isSent
  unfold assign
  cases scheme : (Crane.parseGroupingString group.grouping).getD
      (undefined group.grouping) with
  | shuffle =>
      simp only [scheme] at isSent
      obtain rfl := Option.some.inj isSent
      simp only [List.group_map_pair, Crane.received, List.filter_cons,
        List.filter_nil, decide_eq_true_eq]
      split
      · simp [Crane.createTupleBatchMessage]
      · simp
  | field =>
      simp only [scheme] at isSent
      obtain ⟨addressed, isAddressed, rfl⟩ := Option.map_eq_some_iff.mp isSent
      have fields := fields_of_address isAddressed
      obtain rfl := Option.some.inj
        (isAddressed.symm.trans (Crane.address_eq fields))
      rw [Crane.received_hashed, List.group, List.filter_map, List.map_map,
        List.map_map]
      rfl
  | all | default =>
      simp only [scheme] at isSent
      obtain rfl := Option.some.inj isSent
      rfl

/-- The messages of one group and those of the groups after it. -/
theorem group_numbered_cons
    (first : Nat) (messages : List Message) (sent : List (List Message))
    (key : Nat × Nat) :
    (numbered first (messages :: sent)).group key =
      (if first = key.1 then
        (messages.filter fun message => message.1 = key.2).map Prod.snd
      else []) ++ (numbered (first + 1) sent).group key := by
  rw [numbered, List.group_append, List.group, List.filter_map, List.map_map]
  congr 1
  obtain ⟨index, dest⟩ := key
  by_cases same : first = index
  · simp [Function.comp_def, same]
  · simp [Function.comp_def, same]

/-- No group has a smaller number than the first. -/
theorem group_numbered_of_lt
    {first index : Nat} (before : index < first) (dest : Nat)
    (sent : List (List Message)) :
    (numbered first sent).group (index, dest) = [] := by
  induction sent generalizing first with
  | nil => rfl
  | cons messages sent inductionHypothesis =>
      rw [group_numbered_cons, if_neg (Nat.ne_of_gt before), List.nil_append]
      exact inductionHypothesis (Nat.lt_succ_of_lt before)

/-- The messages of one group for one connection. -/
theorem flatten_group_numbered
    (first index dest : Nat) (sent : List (List Message)) :
    ((numbered first sent).group (first + index, dest)).flatten =
      Crane.received (sent.getD index []) dest := by
  induction sent generalizing first index with
  | nil => rfl
  | cons messages sent inductionHypothesis =>
      rw [group_numbered_cons]
      cases index with
      | zero =>
          rw [Nat.add_zero, if_pos rfl,
            group_numbered_of_lt (Nat.lt_succ_self first), List.append_nil]
          exact List.flatMap_def.symm
      | succ index =>
          have differs : first ≠ first + (index + 1) := by omega
          have later := inductionHypothesis (first + 1) index
          rw [Nat.add_right_comm, Nat.add_assoc] at later
          rw [if_neg differs, List.nil_append, later, List.getD_cons_succ]

end Messages

end Streaming
end CraneSps
