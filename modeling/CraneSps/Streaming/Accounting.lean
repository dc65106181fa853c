import CraneSps.Streaming.History

/-!
# No queue loses a tuple

Every step keeps what the histories say about the queues.  A step of a thread
moves a tuple from one queue of its worker to the next, and only the one that
creates the messages of a round also matters for the connections.
-/

namespace CraneSps
namespace Streaming

open Crane (Tuple CraneTuple Message InternalConnectionGroup GroupingScheme
  dataSend sendGroup)

/-! ## Assignments -/

section Assignments

variable {undefined : String → GroupingScheme} {draw : Nat}
variable {stream : List Tuple} {group : InternalConnectionGroup}

/-- A known grouping assigns every tuple once. -/
theorem map_snd_assign (known : group.Known) :
    (assign undefined draw stream group).map Prod.snd = stream := by
  rcases known with isShuffle | isField
  · simp [assign, isShuffle, Crane.parseGroupingString, Function.comp_def]
  · simp [assign, isField, Crane.parseGroupingString, Function.comp_def]

/-- Only existing connections are chosen. -/
theorem lt_of_mem_assign
    (connected : group.connections ≠ []) {route : Nat × Tuple}
    (isRoute : route ∈ assign undefined draw stream group) :
    route.1 < group.connections.length := by
  have positive := List.length_pos_iff.mpr connected
  unfold assign at isRoute
  split at isRoute
  next =>
    obtain ⟨_, _, rfl⟩ := List.mem_map.mp isRoute
    exact Nat.mod_lt _ positive
  next =>
    obtain ⟨_, _, rfl⟩ := List.mem_map.mp isRoute
    exact Nat.mod_lt _ positive
  next => cases isRoute

/-- With field grouping the first field is hashed. -/
theorem hashed_of_mem_assign
    (isField : group.grouping = "FieldGrouping") {route : Nat × Tuple}
    (isRoute : route ∈ assign undefined draw stream group) :
    route.1 = route.2.hashed group.connections.length := by
  have parsed : Crane.parseGroupingString group.grouping = some .field := by
    rw [isField]
    rfl
  rw [assign, parsed] at isRoute
  obtain ⟨_, _, rfl⟩ := List.mem_map.mp isRoute
  rfl

end Assignments

/-! ## Threads -/

section Threads

variable {base : TopologyNodeBase} {isBolt : Bool}
variable {undefined : String → GroupingScheme}
variable {groups : List InternalConnectionGroup}
variable {child next : ChildImpl base.Fields} {history : WorkerHistory}
variable {step : ThreadStep}

@[simp] theorem WorkerHistory.arrived_record :
    (history.record undefined groups child next step).arrived =
      history.arrived := by
  cases step <;> rfl

/-- A round adds what it assigns to a group. -/
theorem WorkerHistory.assigned_record_createMessages
    {draws : Nat → Nat} {index : Nat} {group : InternalConnectionGroup}
    (isGroup : groups[index]? = some group) :
    (history.record undefined groups child next
        (.createMessages draws)).assigned index =
      history.assigned index ++
        assign undefined (draws index) child.batch group := by
  simp [WorkerHistory.record, isGroup]

namespace ChildAccounted

/-- Only a round gives tuples to the groups. -/
theorem of_assigned
    (accounted : ChildAccounted base isBolt groups child history)
    {after : WorkerHistory}
    (sameSent : after.sent = history.sent)
    (sameAssigned : after.assigned = history.assigned)
    (arrived : after.arrived.map Prod.snd =
      after.consumed ++ next.localStream ++ next.inData ++ next.received)
    (produced : after.produced =
      after.sent ++ next.batch ++ next.outData ++ next.emitting)
    (bolt : isBolt = true →
      base.transducer.run after.consumed = some (next.node, after.produced))
    (spout : isBolt = false →
      base.emit after.produced.length = some (next.node, after.produced) ∧
        after.consumed = [] ∧ next.localStream = [] ∧
        next.running = false) :
    ChildAccounted base isBolt groups next after where
  arrived := arrived
  produced := produced
  bolt := bolt
  spout := spout
  assigned := by
    rw [sameSent, sameAssigned]
    exact accounted.assigned
  inside := by
    rw [sameAssigned]
    exact accounted.inside
  hashed := by
    rw [sameAssigned]
    exact accounted.hashed

/-- A worker that has just been created. -/
theorem initial :
    ChildAccounted base isBolt groups { node := base.createObject } {} where
  arrived := rfl
  produced := rfl
  bolt := fun _ => rfl
  spout := fun _ => ⟨rfl, rfl, rfl, rfl⟩
  assigned := fun _ _ _ _ => rfl
  inside := nofun
  hashed := nofun

/-- A round assigns its batch to all groups. -/
theorem createMessages
    (accounted : ChildAccounted base isBolt groups child history)
    {draws : Nat → Nat} {outgoing : List ((Nat × Nat) × List CraneTuple)} :
    ChildAccounted base isBolt groups
      { child with batch := [], outgoing := outgoing }
      (history.record undefined groups child
        { child with batch := [], outgoing := outgoing }
        (.createMessages draws)) where
  arrived := accounted.arrived
  produced := by
    refine accounted.produced.trans ?_
    simp [WorkerHistory.record]
  bolt := accounted.bolt
  spout := accounted.spout
  assigned := by
    intro index group isGroup known
    rw [WorkerHistory.assigned_record_createMessages isGroup, List.map_append,
      accounted.assigned index group isGroup known, map_snd_assign known]
    rfl
  inside := by
    intro index group isGroup connected route isRoute
    rw [WorkerHistory.assigned_record_createMessages isGroup] at isRoute
    rcases List.mem_append.mp isRoute with isOld | isNew
    · exact accounted.inside index group isGroup connected route isOld
    · exact lt_of_mem_assign connected isNew
  hashed := by
    intro index group isGroup isField route isRoute
    rw [WorkerHistory.assigned_record_createMessages isGroup] at isRoute
    rcases List.mem_append.mp isRoute with isOld | isNew
    · exact accounted.hashed index group isGroup isField route isOld
    · exact hashed_of_mem_assign isField isNew

/-- A step of a thread moves a tuple from one queue to the next. -/
theorem thread
    (accounted : ChildAccounted base isBolt groups child history)
    (stepped : child.Stepped base isBolt undefined groups step next) :
    ChildAccounted base isBolt groups next
      (history.record undefined groups child next step) := by
  have arrived := accounted.arrived
  have produced := accounted.produced
  cases stepped with
  | @nextTuple node tuple isSpout emitted isNext =>
      obtain ⟨isEmitted, consumed, noTuple, collecting⟩ :=
        accounted.spout isSpout
      refine accounted.of_assigned rfl rfl arrived ?_ ?_ ?_
      · simp [WorkerHistory.record, produced, emitted]
      · intro isBolt
        rw [isSpout] at isBolt
        cases isBolt
      · intro _
        refine ⟨?_, consumed, noTuple, collecting⟩
        simp [WorkerHistory.record, TopologyNodeBase.emit, isEmitted, isNext]
  | @popInData tuple inData isFirst isBolt collecting =>
      refine accounted.of_assigned rfl rfl ?_ produced accounted.bolt ?_
      · simp [WorkerHistory.record, arrived, isFirst]
      · intro isSpout
        rw [isBolt] at isSpout
        cases isSpout
  | startRunning collected someTuple collecting =>
      refine accounted.of_assigned rfl rfl arrived produced accounted.bolt ?_
      intro isSpout
      exact absurd (accounted.spout isSpout).2.2.1 someTuple
  | @runOnTuple node tuple localStream tuples isFirst running emitted isRun =>
      have notSpout : isBolt ≠ false := by
        intro isSpout
        have noTuple := (accounted.spout isSpout).2.2.1
        rw [isFirst] at noTuple
        cases noTuple
      refine accounted.of_assigned rfl rfl ?_ ?_ ?_ ?_
      · simp [WorkerHistory.record, arrived, isFirst]
      · simp [WorkerHistory.record, produced, emitted]
      · intro isBolt
        have before := accounted.bolt isBolt
        simp only [WorkerHistory.record, isFirst, List.take_succ_cons,
          List.take_zero]
        exact Transducer.run_concat before isRun
      · exact fun isSpout => absurd isSpout notSpout
  | @pushOutData tuple emitting isFirst =>
      refine accounted.of_assigned rfl rfl arrived ?_ accounted.bolt
        accounted.spout
      simp [WorkerHistory.record, produced, isFirst]
  | stopRunning noTuple emitted running =>
      refine accounted.of_assigned rfl rfl arrived produced accounted.bolt ?_
      intro isSpout
      obtain ⟨isEmitted, consumed, _, _⟩ := accounted.spout isSpout
      exact ⟨isEmitted, consumed, noTuple, rfl⟩
  | @popOutData tuple outData isFirst allSent =>
      refine accounted.of_assigned rfl rfl arrived ?_ accounted.bolt
        accounted.spout
      simp [WorkerHistory.record, produced, isFirst]
  | createMessages allRead someTuple allSent isSent =>
      exact accounted.createMessages
  | @pushInData tuple received isFirst =>
      refine accounted.of_assigned rfl rfl ?_ produced accounted.bolt
        accounted.spout
      simp [WorkerHistory.record, arrived, isFirst]

/-- A message is received. -/
theorem recv
    (accounted : ChildAccounted base isBolt groups child history)
    (allPushed : child.received = []) (connection : Connection)
    (tuples : List Tuple) :
    ChildAccounted base isBolt groups { child with received := tuples }
      { history with
        arrived := history.arrived ++ tuples.map (connection, ·) } := by
  refine accounted.of_assigned rfl rfl ?_ accounted.produced accounted.bolt
    accounted.spout
  have arrived := accounted.arrived
  rw [allPushed, List.append_nil] at arrived
  rw [List.map_append, arrived, List.map_map]
  exact congrArg _ (List.map_id tuples)

end ChildAccounted

end Threads

/-! ## Networks -/

namespace Accounted

variable {undefined : String → GroupingScheme} {deployment : Deployment}
variable {state next : Deployment.State deployment} {history : History}
variable {action : Deployment.Action} {worker : String}

theorem initial : Accounted (.initial deployment) fun _ => {} where
  children := fun _ => ChildAccounted.initial
  origin := nofun
  inOrder := fun _ _ _ => rfl

/-- What a round of a worker adds to a connection is what it sends there. -/
theorem group_createMessages
    {child : ChildImpl (deployment.node worker).Fields}
    {draws : Nat → Nat} {sent : List (List Message)} {index dest : Nat}
    {before : WorkerHistory} {receiver : String}
    (isSent : dataSend undefined child.batch draws
      (deployment.groups worker) = some sent)
    (leads : deployment.address ((worker, index), dest) = some receiver) :
    ((before.record undefined (deployment.groups worker) child
        { child with batch := [], outgoing := numbered 0 sent }
        (.createMessages draws)).assigned index).group dest =
      (before.assigned index).group dest ++
        ((numbered 0 sent).group (index, dest)).flatten.map ofMessage := by
  obtain ⟨group, isGroup, _⟩ := Option.bind_eq_some_iff.mp leads
  have messages := Crane.sendGroup_of_dataSend isSent isGroup
  have here := flatten_group_numbered 0 index dest sent
  rw [Nat.zero_add] at here
  rw [WorkerHistory.assigned_record_createMessages isGroup,
    List.group_append, here, received_sendGroup messages,
    map_ofMessage_toMessage]

/-- A step of a thread adds the same to the assignments of a connection and to
the messages that are left to send. -/
theorem group_thread
    {child : ChildImpl (deployment.node worker).Fields} {step : ThreadStep}
    {before : WorkerHistory} {index dest : Nat} {receiver : String}
    (stepped : (state.child worker).Stepped (deployment.node worker)
      (deployment.isBolt worker) undefined (deployment.groups worker) step
      child)
    (leads : deployment.address ((worker, index), dest) = some receiver)
    {front : List Tuple}
    (isFront : (before.assigned index).group dest =
      front ++ ((state.child worker).outgoing.group
        (index, dest)).flatten.map ofMessage) :
    ((before.record undefined (deployment.groups worker)
        (state.child worker) child step).assigned index).group dest =
      front ++ (child.outgoing.group (index, dest)).flatten.map
        ofMessage := by
  cases stepped with
  | createMessages allRead someTuple allSent isSent =>
      rw [group_createMessages isSent leads, isFront, allSent]
      simp
  | nextTuple | popInData | startRunning | runOnTuple | pushOutData
  | stopRunning | popOutData | pushInData =>
      exact isFront

theorem thread
    (accounted : Accounted state history)
    {child : ChildImpl (deployment.node worker).Fields} {step : ThreadStep}
    (stepped : (state.child worker).Stepped (deployment.node worker)
      (deployment.isBolt worker) undefined (deployment.groups worker) step
      child) :
    Accounted
      { state with child := Function.update state.child worker child }
      (Function.update history worker
        ((history worker).record undefined (deployment.groups worker)
          (state.child worker) child step)) := by
  have arrived (other : String) :
      (Function.update history worker
        ((history worker).record undefined (deployment.groups worker)
          (state.child worker) child step) other).arrived =
        (history other).arrived := by
    by_cases same : other = worker
    · subst same
      rw [Function.update_self, WorkerHistory.arrived_record]
    · rw [Function.update_of_ne same]
  refine ⟨fun other => ?_, fun other => ?_,
    fun connection receiver leads => ?_⟩
  · by_cases same : other = worker
    · subst same
      simp only [Function.update_self]
      exact (accounted.children other).thread stepped
    · simp only [Function.update_of_ne same]
      exact accounted.children other
  · rw [arrived]
    exact accounted.origin other
  · have before := accounted.inOrder connection receiver leads
    rw [arrived]
    obtain ⟨⟨sender, index⟩, dest⟩ := connection
    by_cases same : sender = worker
    · subst same
      simp only [Function.update_self]
      exact group_thread stepped leads before
    · simp only [Function.update_of_ne same]
      exact before

/-- The first message that is left to send goes to its connection. -/
theorem send
    (accounted : Accounted state history) {group index : Nat}
    {tuples : List CraneTuple}
    {outgoing : List ((Nat × Nat) × List CraneTuple)}
    (isFirst : (state.child worker).outgoing =
      ((group, index), tuples) :: outgoing) :
    Accounted
      { child := Function.update state.child worker
          { state.child worker with outgoing := outgoing }
        channel := Function.update state.channel ((worker, group), index)
          (state.channel ((worker, group), index) ++ [tuples]) }
      history := by
  refine ⟨fun other => ?_, accounted.origin,
    fun connection receiver leads => ?_⟩
  · by_cases same : other = worker
    · subst same
      simp only [Function.update_self]
      exact (accounted.children other).of_assigned rfl rfl
        (accounted.children other).arrived (accounted.children other).produced
        (accounted.children other).bolt (accounted.children other).spout
    · simp only [Function.update_of_ne same]
      exact accounted.children other
  · have before := accounted.inOrder connection receiver leads
    obtain ⟨⟨sender, number⟩, dest⟩ := connection
    by_cases same : sender = worker
    · subst same
      rw [isFirst, List.group_cons] at before
      simp only [Function.update_self]
      rw [before]
      by_cases sameKey : (group, index) = (number, dest)
      · obtain ⟨rfl, rfl⟩ := Prod.mk.inj sameKey
        simp
      · have differs : ((sender, number), dest) ≠ ((sender, group), index) :=
          fun same => sameKey (by
            simp only [Prod.mk.injEq] at same
            rw [same.1.2, same.2])
        rw [if_neg sameKey, Function.update_of_ne differs]
    · have differs : ((sender, number), dest) ≠ ((worker, group), index) :=
        fun alike => same (Prod.mk.inj (Prod.mk.inj alike).1).1
      simp only [Function.update_of_ne same, Function.update_of_ne differs]
      exact before

/-- The first message of a connection is received. -/
theorem recv
    (accounted : Accounted state history) {connection : Connection}
    {tuples : List CraneTuple} {messages : List (List CraneTuple)}
    (isFirst : state.channel connection = tuples :: messages)
    (leads : deployment.address connection = some worker)
    (allPushed : (state.child worker).received = []) :
    Accounted
      { child := Function.update state.child worker
          { state.child worker with received := tuples.map ofMessage }
        channel := Function.update state.channel connection messages }
      (Function.update history worker
        { history worker with
          arrived := (history worker).arrived ++
            (tuples.map ofMessage).map (connection, ·) }) := by
  have assigned (other : String) :
      (Function.update history worker
        { history worker with
          arrived := (history worker).arrived ++
            (tuples.map ofMessage).map (connection, ·) } other).assigned =
        (history other).assigned := by
    by_cases same : other = worker
    · subst same
      rw [Function.update_self]
    · rw [Function.update_of_ne same]
  have outgoing (other : String) :
      (Function.update state.child worker
        { state.child worker with received := tuples.map ofMessage }
          other).outgoing = (state.child other).outgoing := by
    by_cases same : other = worker
    · subst same
      rw [Function.update_self]
    · rw [Function.update_of_ne same]
  refine ⟨fun other => ?_, fun other => ?_,
    fun another receiver alsoLeads => ?_⟩
  · by_cases same : other = worker
    · subst same
      simp only [Function.update_self]
      exact (accounted.children other).recv allPushed connection _
    · simp only [Function.update_of_ne same]
      exact accounted.children other
  · by_cases same : other = worker
    · subst same
      rw [Function.update_self]
      intro entry isEntry
      rcases List.mem_append.mp isEntry with isOld | isNew
      · exact accounted.origin other entry isOld
      · obtain ⟨_, _, rfl⟩ := List.mem_map.mp isNew
        exact leads
    · rw [Function.update_of_ne same]
      exact accounted.origin other
  · have before := accounted.inOrder another receiver alsoLeads
    rw [assigned, outgoing, before]
    by_cases same : another = connection
    · subst same
      obtain rfl : worker = receiver :=
        Option.some.inj (leads.symm.trans alsoLeads)
      simp only [Function.update_self, isFirst, List.group_append,
        List.group_map_pair, if_true, List.flatten_cons, List.map_append,
        List.append_assoc]
    · simp only [Function.update_of_ne same]
      by_cases sameReceiver : receiver = worker
      · subst sameReceiver
        rw [Function.update_self, List.group_append, List.group_map_pair,
          if_neg (Ne.symm same), List.append_nil]
      · rw [Function.update_of_ne sameReceiver]

/-- Every step keeps the accounts. -/
theorem advance
    (accounted : Accounted state history)
    (stepped : state.Stepped undefined action next) :
    Accounted next (History.record undefined state action next history) := by
  cases stepped with
  | thread isWorker stepped =>
      simp only [History.record, Function.update_self]
      exact accounted.thread stepped
  | send isFirst => exact accounted.send isFirst
  | recv isFirst isWorker leads allPushed =>
      simp only [History.record, Function.update_self]
      exact accounted.recv isFirst leads allPushed

/-- In every run the histories account for all queues. -/
theorem of_runs
    {trace : List Deployment.Action}
    (runs : (Deployment.recorded undefined deployment).Runs
      (.initial deployment, fun _ => {}) trace (state, history)) :
    Accounted state history := by
  refine runs.invariant (fun (state, history) => Accounted state history) ?_
    initial
  rintro ⟨before, recorded⟩ action ⟨after, more⟩ accounted stepped
  obtain ⟨isStep, rfl⟩ :=
    TransitionSystem.step_recording_eq_some_iff.mp stepped
  exact accounted.advance (Deployment.State.stepped_of_advance isStep)

end Accounted

end Streaming
end CraneSps
