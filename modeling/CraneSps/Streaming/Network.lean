import CraneSps.Crane.Grouping
import CraneSps.Foundation.RunLength
import CraneSps.Foundation.TransitionSystem
import CraneSps.Foundation.Transducer
import Mathlib.Logic.Function.Basic

/-!
# Workers that process tuples

The process of a worker has three threads.  One receives batches and pushes
their tuples to `inData`, one moves them to a stream of its own and runs the
code of a user on each, which pushes tuples to `outData`, and one reads
`outData` and sends what it has read to all connection groups.  The two streams
are queues without a lock, and a connection is a queue of messages.  A
connection has room for a limited number of messages, and sending waits for
room.

Every access to a queue that two threads share is a step here, so that a run is
any interleaving of the threads of all workers.  A worker that has not been
started is one whose turn has not come.
-/

namespace CraneSps
namespace Streaming

open Crane (Tuple CraneTuple Message InternalConnectionGroup GroupingScheme
  dataSend)

/-- A class derived from `TopologyNodeBase`, with the fields of its objects.  A
method is `none` where its behaviour is undefined. -/
structure TopologyNodeBase where
  Fields : Type
  /-- `create_object`. -/
  createObject : Fields
  /-- The fields afterwards, and what is pushed to the stream. -/
  runOnTuple : Fields → Tuple → Option (Fields × List Tuple)
  /-- `SpoutBase::nextTuple`, for which every class is cast to a spout. -/
  nextTuple : Fields → Option (Fields × Tuple)
  /-- The lines that an object has written to a file, as lists of fields. -/
  outFile : Fields → List (List (List UInt8)) := fun _ => []

/-- The connection groups of a worker, which is known by its address. -/
abbrev Port := String × Nat

/-- A connection of a connection group. -/
abbrev Connection := Port × Nat

/-- `Worker::ChildImpl` with the local variables of its threads. -/
structure ChildImpl (Fields : Type) where
  node : Fields
  inData : List Tuple := []
  outData : List Tuple := []
  /-- The tuples of a received batch that have not been pushed. -/
  received : List Tuple := []
  /-- `localStream` of `dataProcessThread`. -/
  localStream : List Tuple := []
  /-- The second of its two loops is running. -/
  running : Bool := false
  /-- The tuples that the user's code has not pushed yet. -/
  emitting : List Tuple := []
  /-- `localStream` of `dataSendThread`. -/
  batch : List Tuple := []
  /-- The messages of its round that have not been sent, by group and
  connection. -/
  outgoing : List ((Nat × Nat) × List CraneTuple) := []

/-- The steps of the threads that touch no connection. -/
inductive ThreadStep
  /-- The loop of a spout. -/
  | nextTuple
  | popInData
  /-- `inData` is found empty. -/
  | startRunning
  | runOnTuple
  | pushOutData
  | stopRunning
  | popOutData
  /-- `outData` is found empty. -/
  | createMessages (draws : Nat → Nat)
  | pushInData

/-- The tuple in a message. -/
def ofMessage (message : CraneTuple) : Tuple where
  id := message.id
  data := message.data

/-- The messages of a round in the order in which they are sent. -/
def numbered (group : Nat) :
    List (List Message) → List ((Nat × Nat) × List CraneTuple)
  | [] => []
  | messages :: sent =>
      (messages.map fun message => ((group, message.1), message.2)) ++
        numbered (group + 1) sent

namespace ChildImpl

/-- A step of a thread. -/
def step
    (base : TopologyNodeBase) (isBolt : Bool)
    (undefined : String → GroupingScheme)
    (groups : List InternalConnectionGroup) (child : ChildImpl base.Fields) :
    ThreadStep → Option (ChildImpl base.Fields)
  | .nextTuple =>
      if isBolt = false ∧ child.emitting = [] then
        (base.nextTuple child.node).map fun (node, tuple) =>
          { child with node := node, emitting := [tuple] }
      else none
  | .popInData =>
      match child.inData with
      | [] => none
      | tuple :: inData =>
          if isBolt = true ∧ child.running = false then
            some
              { child with
                inData := inData
                localStream := child.localStream ++ [tuple] }
          else none
  | .startRunning =>
      if child.inData = [] ∧ child.localStream ≠ [] ∧
          child.running = false then
        some { child with running := true }
      else none
  | .runOnTuple =>
      match child.localStream with
      | [] => none
      | tuple :: localStream =>
          if child.running = true ∧ child.emitting = [] then
            (base.runOnTuple child.node tuple).map fun (node, tuples) =>
              { child with
                node := node
                localStream := localStream
                emitting := tuples }
          else none
  | .pushOutData =>
      match child.emitting with
      | [] => none
      | tuple :: emitting =>
          some
            { child with
              outData := child.outData ++ [tuple]
              emitting := emitting }
  | .stopRunning =>
      if child.localStream = [] ∧ child.emitting = [] ∧
          child.running = true then
        some { child with running := false }
      else none
  | .popOutData =>
      match child.outData with
      | [] => none
      | tuple :: outData =>
          if child.outgoing = [] then
            some
              { child with
                outData := outData
                batch := child.batch ++ [tuple] }
          else none
  | .createMessages draws =>
      if child.outData = [] ∧ child.batch ≠ [] ∧ child.outgoing = [] then
        (dataSend undefined child.batch draws groups).map fun sent =>
          { child with batch := [], outgoing := numbered 0 sent }
      else none
  | .pushInData =>
      match child.received with
      | [] => none
      | tuple :: received =>
          some
            { child with
              inData := child.inData ++ [tuple]
              received := received }

/-- What a step of a thread does. -/
inductive Stepped
    (base : TopologyNodeBase) (isBolt : Bool)
    (undefined : String → GroupingScheme)
    (groups : List InternalConnectionGroup) (child : ChildImpl base.Fields) :
    ThreadStep → ChildImpl base.Fields → Prop
  | nextTuple
      {node : base.Fields} {tuple : Tuple} (isSpout : isBolt = false)
      (emitted : child.emitting = [])
      (isNext : base.nextTuple child.node = some (node, tuple)) :
      Stepped base isBolt undefined groups child .nextTuple
        { child with node := node, emitting := [tuple] }
  | popInData
      {tuple : Tuple} {inData : List Tuple}
      (isFirst : child.inData = tuple :: inData) (isBolt : isBolt = true)
      (collecting : child.running = false) :
      Stepped base _ undefined groups child .popInData
        { child with
          inData := inData
          localStream := child.localStream ++ [tuple] }
  | startRunning
      (collected : child.inData = []) (someTuple : child.localStream ≠ [])
      (collecting : child.running = false) :
      Stepped base isBolt undefined groups child .startRunning
        { child with running := true }
  | runOnTuple
      {node : base.Fields} {tuple : Tuple} {localStream tuples : List Tuple}
      (isFirst : child.localStream = tuple :: localStream)
      (running : child.running = true) (emitted : child.emitting = [])
      (isRun : base.runOnTuple child.node tuple = some (node, tuples)) :
      Stepped base isBolt undefined groups child .runOnTuple
        { child with
          node := node
          localStream := localStream
          emitting := tuples }
  | pushOutData
      {tuple : Tuple} {emitting : List Tuple}
      (isFirst : child.emitting = tuple :: emitting) :
      Stepped base isBolt undefined groups child .pushOutData
        { child with
          outData := child.outData ++ [tuple]
          emitting := emitting }
  | stopRunning
      (noTuple : child.localStream = []) (emitted : child.emitting = [])
      (running : child.running = true) :
      Stepped base isBolt undefined groups child .stopRunning
        { child with running := false }
  | popOutData
      {tuple : Tuple} {outData : List Tuple}
      (isFirst : child.outData = tuple :: outData)
      (allSent : child.outgoing = []) :
      Stepped base isBolt undefined groups child .popOutData
        { child with
          outData := outData
          batch := child.batch ++ [tuple] }
  | createMessages
      {draws : Nat → Nat} {sent : List (List Message)}
      (allRead : child.outData = []) (someTuple : child.batch ≠ [])
      (allSent : child.outgoing = [])
      (isSent : dataSend undefined child.batch draws groups = some sent) :
      Stepped base isBolt undefined groups child (.createMessages draws)
        { child with batch := [], outgoing := numbered 0 sent }
  | pushInData
      {tuple : Tuple} {received : List Tuple}
      (isFirst : child.received = tuple :: received) :
      Stepped base isBolt undefined groups child .pushInData
        { child with
          inData := child.inData ++ [tuple]
          received := received }

section Steps

variable {base : TopologyNodeBase} {isBolt : Bool}
variable {undefined : String → GroupingScheme}
variable {groups : List InternalConnectionGroup}
variable {child next : ChildImpl base.Fields} {action : ThreadStep}

theorem stepped_of_step
    (isStep : child.step base isBolt undefined groups action = some next) :
    child.Stepped base isBolt undefined groups action next := by
  cases action with
  | nextTuple =>
      obtain ⟨⟨isSpout, emitted⟩, isSome⟩ :=
        Option.ite_none_right_eq_some.mp isStep
      obtain ⟨_, isNext, rfl⟩ := Option.map_eq_some_iff.mp isSome
      exact .nextTuple isSpout emitted isNext
  | popInData =>
      simp only [step] at isStep
      split at isStep
      next => cases isStep
      next isFirst =>
        obtain ⟨⟨isBolt, collecting⟩, isSome⟩ :=
          Option.ite_none_right_eq_some.mp isStep
        obtain rfl := Option.some.inj isSome
        exact .popInData isFirst isBolt collecting
  | startRunning =>
      obtain ⟨⟨collected, someTuple, collecting⟩, isSome⟩ :=
        Option.ite_none_right_eq_some.mp isStep
      obtain rfl := Option.some.inj isSome
      exact .startRunning collected someTuple collecting
  | runOnTuple =>
      simp only [step] at isStep
      split at isStep
      next => cases isStep
      next isFirst =>
        obtain ⟨⟨running, emitted⟩, isSome⟩ :=
          Option.ite_none_right_eq_some.mp isStep
        obtain ⟨_, isRun, rfl⟩ := Option.map_eq_some_iff.mp isSome
        exact .runOnTuple isFirst running emitted isRun
  | pushOutData =>
      simp only [step] at isStep
      split at isStep
      next => cases isStep
      next isFirst =>
        obtain rfl := Option.some.inj isStep
        exact .pushOutData isFirst
  | stopRunning =>
      obtain ⟨⟨noTuple, emitted, running⟩, isSome⟩ :=
        Option.ite_none_right_eq_some.mp isStep
      obtain rfl := Option.some.inj isSome
      exact .stopRunning noTuple emitted running
  | popOutData =>
      simp only [step] at isStep
      split at isStep
      next => cases isStep
      next isFirst =>
        obtain ⟨allSent, isSome⟩ :=
          Option.ite_none_right_eq_some.mp isStep
        obtain rfl := Option.some.inj isSome
        exact .popOutData isFirst allSent
  | createMessages draws =>
      obtain ⟨⟨allRead, someTuple, allSent⟩, isSome⟩ :=
        Option.ite_none_right_eq_some.mp isStep
      obtain ⟨_, isSent, rfl⟩ := Option.map_eq_some_iff.mp isSome
      exact .createMessages allRead someTuple allSent isSent
  | pushInData =>
      simp only [step] at isStep
      split at isStep
      next => cases isStep
      next isFirst =>
        obtain rfl := Option.some.inj isStep
        exact .pushInData isFirst

end Steps

end ChildImpl

/-! ## Networks -/

/-- The workers of a topology by their addresses, each with the class in its
library and with the connection groups it has been configured with. -/
structure Deployment where
  workers : List String
  node : String → TopologyNodeBase
  isBolt : String → Bool
  groups : String → List InternalConnectionGroup
  /-- How many messages a connection has room for. -/
  capacity : Nat

namespace Deployment

variable (deployment : Deployment)

/-- The address that a connection leads to. -/
def address (connection : Connection) : Option String :=
  (deployment.groups connection.1.1)[connection.1.2]?.bind fun group =>
    group.connections[connection.2]?

/-- All workers, and the messages on their connections. -/
structure State where
  child : (worker : String) → ChildImpl (deployment.node worker).Fields
  channel : Connection → List (List CraneTuple)

/-- A step of a thread, or a message that is sent or received. -/
inductive Action
  | thread (worker : String) (step : ThreadStep)
  | send (worker : String)
  | recv (worker : String) (connection : Connection)

variable {deployment}

/-- One more step. -/
def State.advance
    (undefined : String → GroupingScheme) (state : State deployment) :
    Action → Option (State deployment)
  | .thread worker step =>
      if worker ∈ deployment.workers then
        ((state.child worker).step (deployment.node worker)
          (deployment.isBolt worker) undefined (deployment.groups worker)
          step).map fun next =>
            { state with child := Function.update state.child worker next }
      else none
  | .send worker =>
      match (state.child worker).outgoing with
      | [] => none
      | ((group, index), tuples) :: outgoing =>
          if (state.channel ((worker, group), index)).length <
              deployment.capacity then
            some
              { child := Function.update state.child worker
                  { state.child worker with outgoing := outgoing }
                channel := Function.update state.channel
                  ((worker, group), index)
                  (state.channel ((worker, group), index) ++ [tuples]) }
          else none
  | .recv worker connection =>
      match state.channel connection with
      | [] => none
      | tuples :: messages =>
          if worker ∈ deployment.workers ∧
              deployment.address connection = some worker ∧
              (state.child worker).received = [] then
            some
              { child := Function.update state.child worker
                  { state.child worker with
                    received := tuples.map ofMessage }
                channel := Function.update state.channel connection
                  messages }
          else none

/-- The workers have just been created. -/
def State.initial (deployment : Deployment) : State deployment where
  child := fun worker => { node := (deployment.node worker).createObject }
  channel := fun _ => []

/-- The workers of a topology that has been started. -/
def network
    (undefined : String → GroupingScheme) (deployment : Deployment) :
    TransitionSystem (State deployment) Action where
  initial := .initial deployment
  step := State.advance undefined

/-- What a step does. -/
inductive State.Stepped
    (undefined : String → GroupingScheme) (state : State deployment) :
    Action → State deployment → Prop
  | thread
      {worker : String} {step : ThreadStep}
      {child : ChildImpl (deployment.node worker).Fields}
      (isWorker : worker ∈ deployment.workers)
      (stepped : (state.child worker).Stepped (deployment.node worker)
        (deployment.isBolt worker) undefined (deployment.groups worker) step
        child) :
      Stepped undefined state (.thread worker step)
        { state with child := Function.update state.child worker child }
  | send
      {worker : String} {group index : Nat} {tuples : List CraneTuple}
      {outgoing : List ((Nat × Nat) × List CraneTuple)}
      (isFirst : (state.child worker).outgoing =
        ((group, index), tuples) :: outgoing)
      (room : (state.channel ((worker, group), index)).length <
        deployment.capacity) :
      Stepped undefined state (.send worker)
        { child := Function.update state.child worker
            { state.child worker with outgoing := outgoing }
          channel := Function.update state.channel ((worker, group), index)
            (state.channel ((worker, group), index) ++ [tuples]) }
  | recv
      {worker : String} {connection : Connection} {tuples : List CraneTuple}
      {messages : List (List CraneTuple)}
      (isFirst : state.channel connection = tuples :: messages)
      (isWorker : worker ∈ deployment.workers)
      (leads : deployment.address connection = some worker)
      (allPushed : (state.child worker).received = []) :
      Stepped undefined state (.recv worker connection)
        { child := Function.update state.child worker
            { state.child worker with received := tuples.map ofMessage }
          channel := Function.update state.channel connection messages }

theorem State.stepped_of_advance
    {undefined : String → GroupingScheme} {state next : State deployment}
    {action : Action} (advanced : state.advance undefined action = some next) :
    state.Stepped undefined action next := by
  cases action with
  | thread worker step =>
      obtain ⟨isWorker, isSome⟩ :=
        Option.ite_none_right_eq_some.mp advanced
      obtain ⟨child, isStep, rfl⟩ := Option.map_eq_some_iff.mp isSome
      exact .thread isWorker (ChildImpl.stepped_of_step isStep)
  | send worker =>
      simp only [State.advance] at advanced
      split at advanced
      next => cases advanced
      next isFirst =>
        obtain ⟨room, isSome⟩ := Option.ite_none_right_eq_some.mp advanced
        obtain rfl := Option.some.inj isSome
        exact .send isFirst room
  | recv worker connection =>
      simp only [State.advance] at advanced
      split at advanced
      next => cases advanced
      next isFirst =>
        obtain ⟨⟨isWorker, leads, allPushed⟩, isSome⟩ :=
          Option.ite_none_right_eq_some.mp advanced
        obtain rfl := Option.some.inj isSome
        exact .recv isFirst isWorker leads allPushed

end Deployment

end Streaming
end CraneSps
