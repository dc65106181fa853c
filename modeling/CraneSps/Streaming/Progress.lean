import CraneSps.Streaming.Delivery

/-!
# Progress

Every connection leads to a bolt, and the workers send each other only tuples
that their bolts can process.  Then no worker ever does something undefined,
and as long as something is on the way, a thread other than the loop of a spout
can make a step.
-/

namespace CraneSps
namespace Streaming

open Crane (Tuple CraneTuple Message InternalConnectionGroup GroupingScheme
  dataSend sendGroup)

namespace Deployment

variable (deployment : Deployment)

/-- The workers have groups that are known, and that lead to bolts, and there
is room for messages. -/
structure Closed : Prop where
  roomy : 0 < deployment.capacity
  known : ∀ worker ∈ deployment.workers,
    ∀ group ∈ deployment.groups worker,
      group.Known ∧ group.connections ≠ []
  bolts : ∀ worker ∈ deployment.workers,
    ∀ group ∈ deployment.groups worker,
      ∀ receiver ∈ group.connections,
        receiver ∈ deployment.workers ∧ deployment.isBolt receiver = true

/-- What a worker may produce: tuples with a first field, which all receivers
accept. -/
def Sendable
    (accepts : String → Tuple → Prop) (worker : String) (tuple : Tuple) :
    Prop :=
  tuple.data ≠ [] ∧
    ∀ group ∈ deployment.groups worker,
      ∀ receiver ∈ group.connections, accepts receiver tuple

/-- The classes process what they accept, and produce what they may. -/
structure Typed (accepts : String → Tuple → Prop) : Prop where
  runs : ∀ worker ∈ deployment.workers, deployment.isBolt worker = true →
    ∀ node tuple, accepts worker tuple →
      (deployment.node worker).runOnTuple node tuple ≠ none
  produces : ∀ worker ∈ deployment.workers,
    deployment.isBolt worker = true →
    ∀ node tuple next tuples, accepts worker tuple →
      (deployment.node worker).runOnTuple node tuple = some (next, tuples) →
        ∀ produced ∈ tuples, deployment.Sendable accepts worker produced
  spouts : ∀ worker ∈ deployment.workers,
    deployment.isBolt worker = false →
    ∀ node next tuple,
      (deployment.node worker).nextTuple node = some (next, tuple) →
        deployment.Sendable accepts worker tuple

/-- A connection from a worker to a bolt. -/
def Leads (connection : Connection) : Prop :=
  connection.1.1 ∈ deployment.workers ∧
    ∃ receiver ∈ deployment.workers,
      deployment.address connection = some receiver ∧
        deployment.isBolt receiver = true

/-- The step is not one of the loop of a spout. -/
def Action.IsBoltStep : Action → Prop
  | .thread _ .nextTuple => False
  | _ => True

variable {deployment}

/-- Only the workers do something, and all messages go to bolts. -/
structure State.Confined (state : State deployment) : Prop where
  idle : ∀ worker ∉ deployment.workers,
    state.child worker = { node := (deployment.node worker).createObject }
  outgoing : ∀ worker, ∀ message ∈ (state.child worker).outgoing,
    deployment.Leads ((worker, message.1.1), message.1.2)
  channel : ∀ connection, state.channel connection ≠ [] →
    deployment.Leads connection

end Deployment

/-! ## Messages go to bolts -/

section Messages

variable {undefined : String → GroupingScheme} {draws : Nat → Nat}
variable {stream : List Tuple} {groups : List InternalConnectionGroup}
variable {group : InternalConnectionGroup} {messages : List Message}
variable {sent : List (List Message)}

/-- A message of a known group has a connection. -/
theorem lt_of_mem_sendGroup
    {draw : Nat} (known : group.Known) (connected : group.connections ≠ [])
    (isSent : sendGroup undefined draw stream group = some messages) :
    ∀ message ∈ messages, message.1 < group.connections.length := by
  have positive := List.length_pos_iff.mpr connected
  rcases known with isShuffle | isField
  · have parsed : Crane.parseGroupingString group.grouping = some .shuffle := by
      rw [isShuffle]
      rfl
    rw [sendGroup, parsed] at isSent
    obtain rfl := Option.some.inj isSent
    intro message isMessage
    obtain rfl := List.mem_singleton.mp isMessage
    exact Nat.mod_lt _ positive
  · have parsed : Crane.parseGroupingString group.grouping = some .field := by
      rw [isField]
      rfl
    rw [sendGroup, parsed] at isSent
    obtain ⟨addressed, isAddressed, rfl⟩ := Option.map_eq_some_iff.mp isSent
    obtain rfl := Option.some.inj (isAddressed.symm.trans
      (Crane.address_eq (fields_of_address isAddressed)))
    intro message isMessage
    rcases Crane.mem_foldl_addTuple isMessage with isOld | isNew
    · cases isOld
    · rw [List.map_map] at isNew
      obtain ⟨tuple, _, same⟩ := List.mem_map.mp isNew
      rw [← same]
      exact Crane.destination_lt positive _

/-- Every message of a round is one of its group. -/
theorem exists_of_mem_numbered
    {first : Nat} {message : (Nat × Nat) × List CraneTuple}
    (isMessage : message ∈ numbered first sent) :
    ∃ index messages, sent[index]? = some messages ∧
      message.1.1 = first + index ∧ (message.1.2, message.2) ∈ messages := by
  induction sent generalizing first with
  | nil => cases isMessage
  | cons messages sent inductionHypothesis =>
      rcases List.mem_append.mp isMessage with isFirst | isLater
      · obtain ⟨original, isOriginal, rfl⟩ := List.mem_map.mp isFirst
        exact ⟨0, messages, rfl, rfl, isOriginal⟩
      · obtain ⟨index, later, isIndex, isGroup, isOriginal⟩ :=
          inductionHypothesis isLater
        refine ⟨index + 1, later, isIndex, ?_, isOriginal⟩
        rw [isGroup]
        omega

/-- A round has messages for existing groups only. -/
theorem length_dataSend
    (isSent : dataSend undefined stream draws groups = some sent) :
    sent.length = groups.length := by
  induction groups generalizing draws sent with
  | nil =>
      obtain rfl := Option.some.inj isSent
      rfl
  | cons group groups inductionHypothesis =>
      simp only [dataSend, Option.bind_eq_some_iff,
        Option.map_eq_some_iff] at isSent
      obtain ⟨messages, _, rest, isRest, rfl⟩ := isSent
      rw [List.length_cons, List.length_cons, inductionHypothesis isRest]

end Messages

namespace Deployment

variable {deployment : Deployment} {state next : State deployment}
variable {undefined : String → GroupingScheme} {action : Action}
variable {worker : String}

/-- The messages of a round go to bolts. -/
theorem Closed.leads
    (closed : deployment.Closed) (isWorker : worker ∈ deployment.workers)
    {stream : List Tuple} {draws : Nat → Nat} {sent : List (List Message)}
    (isSent : dataSend undefined stream draws (deployment.groups worker) =
      some sent) :
    ∀ message ∈ numbered 0 sent,
      deployment.Leads ((worker, message.1.1), message.1.2) := by
  intro message isMessage
  obtain ⟨index, messages, atIndex, isGroup, isOriginal⟩ :=
    exists_of_mem_numbered isMessage
  rw [Nat.zero_add] at isGroup
  obtain ⟨inside, _⟩ := List.getElem?_eq_some_iff.mp atIndex
  rw [length_dataSend isSent] at inside
  have found := List.getElem?_eq_getElem inside
  have inGroups := List.getElem_mem inside
  generalize (deployment.groups worker)[index] = group at found inGroups
  obtain ⟨known, connected⟩ := closed.known worker isWorker group inGroups
  have ofGroup := Crane.sendGroup_of_dataSend isSent found
  rw [List.getD_eq_getElem?_getD, atIndex, Option.getD_some] at ofGroup
  have valid := lt_of_mem_sendGroup known connected ofGroup _ isOriginal
  have isReceiver := List.getElem_mem valid
  obtain ⟨present, isBolt⟩ := closed.bolts worker isWorker group inGroups _
    isReceiver
  refine ⟨isWorker, _, present, ?_, isBolt⟩
  simp [address, isGroup, found, List.getElem?_eq_getElem valid]

theorem State.Confined.initial : (State.initial deployment).Confined where
  idle := fun _ _ => rfl
  outgoing := nofun
  channel := fun _ someMessage => absurd rfl someMessage

/-- A step of a thread creates messages to bolts only. -/
theorem Closed.outgoing_thread
    (closed : deployment.Closed) (isWorker : worker ∈ deployment.workers)
    {child after : ChildImpl (deployment.node worker).Fields}
    {step : ThreadStep}
    (stepped : child.Stepped (deployment.node worker)
      (deployment.isBolt worker) undefined (deployment.groups worker) step
      after)
    (before : ∀ message ∈ child.outgoing,
      deployment.Leads ((worker, message.1.1), message.1.2)) :
    ∀ message ∈ after.outgoing,
      deployment.Leads ((worker, message.1.1), message.1.2) := by
  cases stepped with
  | createMessages _ _ _ isSent => exact closed.leads isWorker isSent
  | nextTuple | popInData | startRunning | runOnTuple | pushOutData
  | stopRunning | popOutData | pushInData => exact before

/-- Every step keeps the messages on their connections. -/
theorem State.Confined.advance
    (closed : deployment.Closed) (confined : state.Confined)
    (stepped : state.Stepped undefined action next) : next.Confined := by
  cases stepped with
  | @thread worker step child isWorker stepped =>
      refine ⟨fun other notWorker => ?_, fun other => ?_, confined.channel⟩
      · have differs : other ≠ worker := by
          rintro rfl
          exact notWorker isWorker
        simp only [Function.update_of_ne differs]
        exact confined.idle other notWorker
      · by_cases same : other = worker
        · subst same
          simp only [Function.update_self]
          exact closed.outgoing_thread isWorker stepped
            (confined.outgoing other)
        · simp only [Function.update_of_ne same]
          exact confined.outgoing other
  | @send worker group index tuples outgoing isFirst =>
      have leads := confined.outgoing worker
      rw [isFirst] at leads
      refine ⟨fun other notWorker => ?_, fun other => ?_,
        fun connection someMessage => ?_⟩
      · have differs : other ≠ worker := by
          rintro rfl
          exact notWorker (leads _ List.mem_cons_self).1
        simp only [Function.update_of_ne differs]
        exact confined.idle other notWorker
      · by_cases same : other = worker
        · subst same
          simp only [Function.update_self]
          exact fun message isMessage =>
            leads message (List.mem_cons_of_mem _ isMessage)
        · simp only [Function.update_of_ne same]
          exact confined.outgoing other
      · by_cases same : connection = ((worker, group), index)
        · subst same
          exact leads _ List.mem_cons_self
        · simp only [Function.update_of_ne same] at someMessage
          exact confined.channel connection someMessage
  | @recv worker connection tuples messages isFirst isWorker =>
      refine ⟨fun other notWorker => ?_, fun other => ?_,
        fun another someMessage => ?_⟩
      · have differs : other ≠ worker := by
          rintro rfl
          exact notWorker isWorker
        simp only [Function.update_of_ne differs]
        exact confined.idle other notWorker
      · by_cases same : other = worker
        · subst same
          simp only [Function.update_self]
          exact confined.outgoing other
        · simp only [Function.update_of_ne same]
          exact confined.outgoing other
      · by_cases same : another = connection
        · subst same
          refine confined.channel another ?_
          rw [isFirst]
          exact List.cons_ne_nil _ _
        · simp only [Function.update_of_ne same] at someMessage
          exact confined.channel another someMessage

end Deployment

/-! ## Tuples that can be processed -/

/-- The accounts are kept, messages go to bolts, and everything that has been
produced can be processed. -/
structure Sound
    {deployment : Deployment} (accepts : String → Tuple → Prop)
    (state : Deployment.State deployment) (history : History) : Prop where
  accounted : Accounted state history
  confined : state.Confined
  silent : ∀ worker ∉ deployment.workers, history worker = {}
  sendable : ∀ worker ∈ deployment.workers,
    ∀ tuple ∈ (history worker).produced,
      deployment.Sendable accepts worker tuple

namespace Sound

variable {deployment : Deployment} {accepts : String → Tuple → Prop}
variable {undefined : String → GroupingScheme}
variable {state next : Deployment.State deployment} {history : History}
variable {action : Deployment.Action} {worker : String}

theorem initial :
    Sound accepts (.initial deployment) fun _ => {} where
  accounted := .initial
  confined := .initial
  silent := fun _ _ => rfl
  sendable := fun _ _ _ isProduced => nomatch isProduced

/-- Who has sent a tuple that has been received, and to which group. -/
theorem exists_sender
    (sound : Sound accepts state history) {entry : Connection × Tuple}
    (isEntry : entry ∈ (history worker).arrived) :
    entry.1.1.1 ∈ deployment.workers ∧
      ∃ group ∈ deployment.groups entry.1.1.1,
        (deployment.groups entry.1.1.1)[entry.1.1.2]? = some group ∧
          worker ∈ group.connections := by
  have leads := sound.accounted.origin worker entry isEntry
  obtain ⟨group, isGroup, isAddress⟩ := Option.bind_eq_some_iff.mp leads
  refine ⟨?_, group, List.mem_of_getElem? isGroup, isGroup,
    List.mem_of_getElem? isAddress⟩
  by_contra notWorker
  have assigned := sound.accounted.mem_assigned isEntry
  rw [sound.silent _ notWorker] at assigned
  cases assigned

/-- A tuple that has been received can be processed. -/
theorem accepts_of_arrived
    (sound : Sound accepts state history) (closed : deployment.Closed)
    {entry : Connection × Tuple}
    (isEntry : entry ∈ (history worker).arrived) :
    accepts worker entry.2 := by
  obtain ⟨isSender, group, inGroups, isGroup, isReceiver⟩ :=
    sound.exists_sender isEntry
  have known := (closed.known _ isSender group inGroups).1
  have assigned := sound.accounted.mem_assigned isEntry
  have sent := (sound.accounted.children entry.1.1.1).assigned _ group isGroup
    known
  refine (sound.sendable _ isSender entry.2 ?_).2 group inGroups worker
    isReceiver
  rw [sound.accounted.produced_eq, ← sent]
  exact List.mem_append_left _ (List.mem_map.mpr ⟨_, assigned, rfl⟩)

/-- A tuple that waits in a bolt can be processed. -/
theorem accepts_of_localStream
    (sound : Sound accepts state history) (closed : deployment.Closed)
    (worker : String) {tuple : Tuple}
    (isTuple : tuple ∈ (state.child worker).localStream) :
    accepts worker tuple := by
  have arrived := sound.accounted.read_eq worker
  have isRead : tuple ∈ history.dataflow.read worker := by
    rw [arrived, ChildImpl.waiting]
    simp [isTuple]
  obtain ⟨entry, isEntry, rfl⟩ := List.mem_map.mp isRead
  exact sound.accepts_of_arrived closed isEntry

/-- A step of a thread produces what can be processed. -/
theorem sendable_thread
    (sound : Sound accepts state history) (closed : deployment.Closed)
    (typed : deployment.Typed accepts) (isWorker : worker ∈ deployment.workers)
    {step : ThreadStep}
    {child : ChildImpl (deployment.node worker).Fields}
    (stepped : (state.child worker).Stepped (deployment.node worker)
      (deployment.isBolt worker) undefined (deployment.groups worker) step
      child) :
    ∀ tuple ∈ ((history worker).record undefined (deployment.groups worker)
        (state.child worker) child step).produced,
      deployment.Sendable accepts worker tuple := by
  have before := sound.sendable worker isWorker
  cases stepped with
  | nextTuple isSpout emitted isNext =>
      intro tuple isTuple
      rcases List.mem_append.mp isTuple with isOld | isNew
      · exact before tuple isOld
      · obtain rfl := List.mem_singleton.mp isNew
        exact typed.spouts worker isWorker isSpout _ _ _ isNext
  | runOnTuple isFirst running emitted isRun =>
      have isBolt : deployment.isBolt worker = true := by
        by_contra notBolt
        have noTuple := ((sound.accounted.children worker).spout
          (Bool.eq_false_of_not_eq_true notBolt)).2.2.1
        rw [isFirst] at noTuple
        cases noTuple
      have accepted := sound.accepts_of_localStream closed worker
        (isFirst ▸ List.mem_cons_self)
      intro tuple isTuple
      rcases List.mem_append.mp isTuple with isOld | isNew
      · exact before tuple isOld
      · exact typed.produces worker isWorker isBolt _ _ _ _ accepted isRun
          tuple isNew
  | popInData | startRunning | pushOutData | stopRunning | popOutData
  | createMessages | pushInData => exact before

/-- Every step leaves the network sound. -/
theorem advance
    (sound : Sound accepts state history) (closed : deployment.Closed)
    (typed : deployment.Typed accepts)
    (stepped : state.Stepped undefined action next) :
    Sound accepts next
      (History.record undefined state action next history) where
  accounted := sound.accounted.advance stepped
  confined := sound.confined.advance closed stepped
  silent := by
    intro other notWorker
    cases stepped with
    | @thread worker step child isWorker stepped =>
        have differs : other ≠ worker := by
          rintro rfl
          exact notWorker isWorker
        exact (Function.update_of_ne differs _ _).trans
          (sound.silent other notWorker)
    | send => exact sound.silent other notWorker
    | @recv worker connection tuples messages isFirst isWorker =>
        have differs : other ≠ worker := by
          rintro rfl
          exact notWorker isWorker
        exact (Function.update_of_ne differs _ _).trans
          (sound.silent other notWorker)
  sendable := by
    intro other isOther
    cases stepped with
    | @thread worker step child isWorker stepped =>
        simp only [History.record, Function.update_self]
        by_cases same : other = worker
        · subst same
          rw [Function.update_self]
          exact sound.sendable_thread closed typed isWorker stepped
        · rw [Function.update_of_ne same]
          exact sound.sendable other isOther
    | send => exact sound.sendable other isOther
    | @recv worker connection tuples messages =>
        simp only [History.record]
        by_cases same : other = worker
        · subst same
          rw [Function.update_self]
          exact sound.sendable other isOther
        · rw [Function.update_of_ne same]
          exact sound.sendable other isOther

/-- In every run the network is sound. -/
theorem of_runs
    (closed : deployment.Closed) (typed : deployment.Typed accepts)
    {trace : List Deployment.Action}
    (runs : (deployment.recorded undefined).Runs
      (deployment.recorded undefined).initial trace (state, history)) :
    Sound accepts state history := by
  refine runs.invariant (fun (state, history) => Sound accepts state history)
    ?_ initial
  rintro ⟨before, recorded⟩ action ⟨after, more⟩ sound stepped
  obtain ⟨isStep, rfl⟩ :=
    TransitionSystem.step_recording_eq_some_iff.mp stepped
  exact sound.advance closed typed
    (Deployment.State.stepped_of_advance isStep)

/-! ## Steps that can be made -/

/-- No thread can make a step other than those of the loops of spouts. -/
def Blocked
    (undefined : String → GroupingScheme)
    (state : Deployment.State deployment) : Prop :=
  ∀ action : Deployment.Action, action.IsBoltStep →
    state.advance undefined action = none

section Blocked

variable (blocked : Blocked undefined state)

include blocked

/-- The threads of a worker are blocked. -/
theorem step_eq_none
    (isWorker : worker ∈ deployment.workers) (step : ThreadStep)
    (isBoltStep : (Deployment.Action.thread worker step).IsBoltStep) :
    (state.child worker).step (deployment.node worker)
      (deployment.isBolt worker) undefined (deployment.groups worker) step =
        none := by
  have isBlocked := blocked _ isBoltStep
  rw [Deployment.State.advance, if_pos isWorker] at isBlocked
  exact Option.map_eq_none_iff.mp isBlocked

theorem received_of_blocked (isWorker : worker ∈ deployment.workers) :
    (state.child worker).received = [] := by
  have isBlocked := step_eq_none blocked isWorker .pushInData trivial
  simp only [ChildImpl.step] at isBlocked
  split at isBlocked
  next noTuple => exact noTuple
  next => cases isBlocked

theorem emitting_of_blocked (isWorker : worker ∈ deployment.workers) :
    (state.child worker).emitting = [] := by
  have isBlocked := step_eq_none blocked isWorker .pushOutData trivial
  simp only [ChildImpl.step] at isBlocked
  split at isBlocked
  next noTuple => exact noTuple
  next => cases isBlocked

theorem channel_of_blocked
    (sound : Sound accepts state history) (connection : Connection) :
    state.channel connection = [] := by
  by_contra someMessage
  obtain ⟨_, receiver, isWorker, leads, _⟩ :=
    sound.confined.channel connection someMessage
  have isBlocked := blocked (.recv receiver connection) trivial
  simp only [Deployment.State.advance] at isBlocked
  split at isBlocked
  next noMessage => exact someMessage noMessage
  next =>
    rw [if_pos ⟨isWorker, leads,
      received_of_blocked blocked isWorker⟩] at isBlocked
    cases isBlocked

/-- No worker waits for room, as the connections are empty. -/
theorem outgoing_of_blocked
    (sound : Sound accepts state history) (closed : deployment.Closed)
    (worker : String) : (state.child worker).outgoing = [] := by
  have isBlocked := blocked (.send worker) trivial
  simp only [Deployment.State.advance] at isBlocked
  split at isBlocked
  next noMessage => exact noMessage
  next =>
    rw [channel_of_blocked blocked sound, List.length_nil,
      if_pos closed.roomy] at isBlocked
    cases isBlocked

theorem outData_of_blocked
    (sound : Sound accepts state history) (closed : deployment.Closed)
    (isWorker : worker ∈ deployment.workers) :
    (state.child worker).outData = [] := by
  have isBlocked := step_eq_none blocked isWorker .popOutData trivial
  simp only [ChildImpl.step] at isBlocked
  split at isBlocked
  next noTuple => exact noTuple
  next =>
    rw [if_pos (outgoing_of_blocked blocked sound closed worker)] at isBlocked
    cases isBlocked

theorem batch_of_blocked
    (sound : Sound accepts state history) (closed : deployment.Closed)
    (isWorker : worker ∈ deployment.workers) :
    (state.child worker).batch = [] := by
  by_contra someTuple
  have isBlocked := step_eq_none blocked isWorker
    (.createMessages fun _ => 0) trivial
  have fields : ∀ tuple ∈ (state.child worker).batch, tuple.data ≠ [] := by
    intro tuple isTuple
    refine (sound.sendable worker isWorker tuple ?_).1
    rw [sound.accounted.produced_eq, ChildImpl.unsent]
    simp [isTuple]
  obtain ⟨sent, isSent⟩ := Crane.exists_dataSend fields undefined
    (fun _ => 0) (deployment.groups worker)
  rw [ChildImpl.step, if_pos ⟨outData_of_blocked blocked sound closed isWorker, someTuple,
    outgoing_of_blocked blocked sound closed worker⟩, isSent] at isBlocked
  cases isBlocked

/-- A bolt that is blocked waits for tuples. -/
theorem bolt_of_blocked
    (sound : Sound accepts state history) (closed : deployment.Closed)
    (typed : deployment.Typed accepts) (isWorker : worker ∈ deployment.workers)
    (isBolt : deployment.isBolt worker = true) :
    (state.child worker).inData = [] ∧
      (state.child worker).localStream = [] := by
  have emitted := emitting_of_blocked blocked isWorker
  cases isRunning : (state.child worker).running with
  | false =>
      have collected : (state.child worker).inData = [] := by
        have isBlocked := step_eq_none blocked isWorker .popInData trivial
        simp only [ChildImpl.step] at isBlocked
        split at isBlocked
        next noTuple => exact noTuple
        next =>
          rw [if_pos ⟨isBolt, isRunning⟩] at isBlocked
          cases isBlocked
      refine ⟨collected, ?_⟩
      by_contra someTuple
      have isBlocked := step_eq_none blocked isWorker .startRunning trivial
      have enabled := And.intro collected (And.intro someTuple isRunning)
      rw [ChildImpl.step, if_pos enabled] at isBlocked
      cases isBlocked
  | true =>
      exfalso
      have noTuple : (state.child worker).localStream = [] := by
        have isBlocked := step_eq_none blocked isWorker .runOnTuple trivial
        simp only [ChildImpl.step] at isBlocked
        split at isBlocked
        next noTuple => exact noTuple
        next tuple localStream isFirst =>
          rw [if_pos ⟨isRunning, emitted⟩, Option.map_eq_none_iff] at isBlocked
          have accepted := sound.accepts_of_localStream closed worker
            (isFirst ▸ List.mem_cons_self)
          exact absurd isBlocked
            (typed.runs worker isWorker isBolt _ tuple accepted)
      have isBlocked := step_eq_none blocked isWorker .stopRunning trivial
      rw [ChildImpl.step, if_pos ⟨noTuple, emitted, isRunning⟩] at isBlocked
      cases isBlocked

end Blocked

/-- No tuples are sent to a spout. -/
theorem waiting_spout
    (sound : Sound accepts state history) (closed : deployment.Closed)
    (isSpout : deployment.isBolt worker = false) :
    (state.child worker).waiting = [] := by
  have nothing : (history worker).arrived = [] := by
    apply List.eq_nil_iff_forall_not_mem.mpr
    intro entry isEntry
    obtain ⟨isSender, group, inGroups, _, isReceiver⟩ :=
      sound.exists_sender isEntry
    have isBolt := (closed.bolts _ isSender group inGroups worker
      isReceiver).2
    rw [isSpout] at isBolt
    cases isBolt
  have arrived : (history worker).arrived.map Prod.snd = _ :=
    sound.accounted.read_eq worker
  rw [nothing] at arrived
  exact (List.append_eq_nil_iff.mp arrived.symm).2

/-- If all threads but the loops of spouts are blocked, nothing is on the
way. -/
theorem quiet_of_blocked
    (sound : Sound accepts state history) (closed : deployment.Closed)
    (typed : deployment.Typed accepts) (blocked : Blocked undefined state) :
    state.Quiet := by
  have input (worker : String) :
      (state.child worker).inData = [] ∧
        (state.child worker).localStream = [] := by
    by_cases isWorker : worker ∈ deployment.workers
    · cases isBolt : deployment.isBolt worker with
      | true => exact bolt_of_blocked blocked sound closed typed isWorker isBolt
      | false =>
          have nothing := sound.waiting_spout closed isBolt
          rw [ChildImpl.waiting, List.append_eq_nil_iff,
            List.append_eq_nil_iff] at nothing
          exact ⟨nothing.1.2, nothing.1.1⟩
    · rw [sound.confined.idle worker isWorker]
      exact ⟨rfl, rfl⟩
  have idle {Item : Type}
      (queue : {Fields : Type} → ChildImpl Fields → List Item)
      (unused : ∀ {Fields : Type} (node : Fields), queue { node := node } = [])
      (atWorker : ∀ worker ∈ deployment.workers,
        queue (state.child worker) = [])
      (worker : String) : queue (state.child worker) = [] := by
    by_cases isWorker : worker ∈ deployment.workers
    · exact atWorker worker isWorker
    · rw [sound.confined.idle worker isWorker]
      exact unused _
  exact
    { inData := fun worker => (input worker).1
      outData := idle ChildImpl.outData (fun _ => rfl)
        fun worker => outData_of_blocked blocked sound closed
      received := idle ChildImpl.received (fun _ => rfl)
        fun worker => received_of_blocked blocked
      localStream := fun worker => (input worker).2
      emitting := idle ChildImpl.emitting (fun _ => rfl)
        fun worker => emitting_of_blocked blocked
      batch := idle ChildImpl.batch (fun _ => rfl)
        fun worker => batch_of_blocked blocked sound closed
      outgoing := outgoing_of_blocked blocked sound closed
      channel := channel_of_blocked blocked sound }

end Sound

end Streaming
end CraneSps
