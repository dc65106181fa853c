import CraneSps.Election.Candidate
import CraneSps.Foundation.TransitionSystem
import Mathlib.Data.Finset.Basic
import Mathlib.Data.List.Basic

/-!
# The nodes of a group running the election protocol

One transition is one of the steps in which the threads of `Candidate` can
interleave: an election thread from its `started` check to the spawning of its
request threads, the same thread after the join of these, a service thread
handling a request, a request thread receiving the reply or timing out, and a
crash.  The membership list an election thread reads is part of the action, so
a run may give every node its own view at every moment.

A request thread counts a confirmation, compares the counters and sets the
leader in three steps: each locks for itself, so the request threads of a node
can interleave between them.

Threads and requests are kept in lists that only grow, so an index names one
of them for the rest of the run.
-/

namespace CraneSps
namespace Election

variable {Id : Type} [LinearOrder Id]

/-- Where an election thread stands. -/
inductive Phase
  /-- Before the `started` check, asleep for its three seconds. -/
  | spawned
  /-- In `sendElectionStart`, joining its request threads. -/
  | joining
  /-- Returned, or gone with its node. -/
  | finished
  deriving DecidableEq

/-- A thread running `Candidate::Impl::electionThread`. -/
structure ElectionThread (Id : Type) where
  node : Id
  phase : Phase
  deriving DecidableEq

/-- The state of a request message. -/
inductive Delivery
  | inFlight
  /-- Handled by the target, which has sent its reply. -/
  | handled
  | lost
  deriving DecidableEq

/-- The state of the request thread that sent a message. -/
inductive Outcome
  | waiting
  /-- The confirmation has been counted, the counters are yet to be
  compared. -/
  | counted
  /-- The counters were equal, `setNewLeader` is yet to be called. -/
  | installing
  /-- The reply arrived, and the thread has ended. -/
  | answered
  /-- The thread has ended without a reply. -/
  | timedOut
  deriving DecidableEq

namespace Outcome

/-- The thread has not ended. -/
def running : Outcome → Bool
  | .waiting | .counted | .installing => true
  | .answered | .timedOut => false

/-- The thread has received its reply. -/
def replied : Outcome → Bool
  | .counted | .installing | .answered => true
  | .waiting | .timedOut => false

/-- The thread ends together with its node. -/
def ended : Outcome → Outcome
  | .waiting | .timedOut => .timedOut
  | .counted | .installing | .answered => .answered

@[simp] theorem running_ended (outcome : Outcome) :
    outcome.ended.running = false := by
  cases outcome <;> rfl

@[simp] theorem replied_ended (outcome : Outcome) :
    outcome.ended.replied = outcome.replied := by
  cases outcome <;> rfl

end Outcome

/-- A thread running `requestElectionStartThread` or `sendElectedThread`,
together with its message. -/
structure Request (Id : Type) where
  /-- The election thread that spawned it. -/
  thread : Nat
  sender : Id
  target : Id
  message : ElectionRequest Id
  delivery : Delivery
  outcome : Outcome
  deriving DecidableEq

/-- The nodes, their threads and their messages. -/
structure Network (Id : Type) where
  candidate : Id → Candidate Id
  /-- The nodes that have not crashed. -/
  live : Finset Id
  threads : List (ElectionThread Id)
  requests : List (Request Id)

/-- What can happen next. -/
inductive Action (Id : Type)
  /-- `Candidate::start` spawns an election thread. -/
  | start (node : Id)
  /-- `Candidate::handle(NodeFailEvent)`. -/
  | nodeFail (node failed : Id)
  /-- An election thread wakes up and reads the given membership list. -/
  | electionThread (thread : Nat) (membershipList : List Id)
  /-- The request threads of `sendElectionStart` have been joined. -/
  | joined (thread : Nat) (membershipList : List Id)
  /-- The service thread of the target handles a request. -/
  | handle (request : Nat)
  /-- A request thread receives its reply. -/
  | receive (request : Nat)
  /-- A request thread that has counted a confirmation calls
  `allConfirmationsReceived`. -/
  | test (request : Nat)
  /-- A request thread whose test succeeded calls `setNewLeader`. -/
  | install (request : Nat)
  /-- The receive timeout of a request thread runs out. -/
  | timeout (request : Nat)
  /-- A message nobody waits for, or to a crashed node, disappears. -/
  | lose (request : Nat)
  | crash (node : Id)
  deriving DecidableEq

namespace Network

/-- A group in which no thread has been started yet. -/
def initial (nodes : Finset Id) : Network Id where
  candidate := fun _ => {}
  live := nodes
  threads := []
  requests := []

/-- Replace the election state of one node. -/
def setCandidate
    (network : Network Id) (node : Id) (candidate : Candidate Id) :
    Network Id :=
  { network with
    candidate := Function.update network.candidate node candidate }

/-- `Candidate::startElection`: spawn an election thread. -/
def startElection (network : Network Id) (node : Id) : Network Id :=
  { network with
    threads := network.threads ++ [{ node := node, phase := .spawned }] }

/-- Move an election thread to another phase. -/
def setPhase
    (network : Network Id) (thread : Nat) (node : Id) (phase : Phase) :
    Network Id :=
  { network with
    threads := network.threads.set thread { node := node, phase := phase } }

/-- `Candidate::Impl::sendToNodes`: one request thread for each node. -/
def sendToNodes
    (network : Network Id) (thread : Nat) (sender : Id)
    (nodes : List Id) (message : ElectionRequest Id) : Network Id :=
  { network with
    requests := network.requests ++ nodes.map fun target =>
      { thread := thread, sender := sender, target := target
        message := message, delivery := .inFlight, outcome := .waiting } }

/-- `Candidate::Impl::sendElected`; the request threads are detached. -/
def sendElected
    (network : Network Id) (thread : Nat) (node : Id)
    (membershipList : List Id) : Network Id :=
  network.sendToNodes thread node membershipList (.newLeader node)

/-- Replace a request. -/
def setRequest
    (network : Network Id) (index : Nat) (request : Request Id) :
    Network Id :=
  { network with requests := network.requests.set index request }

/-- `Candidate::Impl::electionThread` from the check on. -/
def electionThread
    (network : Network Id) (thread : Nat) (node : Id)
    (membershipList : List Id) : Network Id :=
  let candidate := network.candidate node
  if candidate.started then
    network.setPhase thread node .finished
  else
    let candidate := { candidate with started := true }
    if minElement membershipList = some node then
      ((network.setCandidate node
          (candidate.expectConfirmations membershipList.length)).setPhase
            thread node .finished).sendElected thread node membershipList
    else
      ((network.setCandidate node { candidate with okReceived := false }
        ).setPhase thread node .joining).sendToNodes thread node
          (lowerIds membershipList node) .electionStart

/-- `Candidate::Impl::sendElectionStart` after the join. -/
def afterJoin
    (network : Network Id) (thread : Nat) (node : Id)
    (membershipList : List Id) : Network Id :=
  if (network.candidate node).okReceived then
    network.setPhase thread node .finished
  else
    (network.setPhase thread node .finished).sendElected thread node
      membershipList

/-- The service thread of the target handles a request and replies. -/
def handleRequest
    (network : Network Id) (index : Nat) (request : Request Id) :
    Network Id :=
  let replied := network.setRequest index
    { request with delivery := .handled }
  match request.message with
  | .electionStart => replied.startElection request.target
  | .newLeader leader =>
      replied.setCandidate request.target
        ((network.candidate request.target).processNewLeader
          request.target leader)

/-- A request thread processes the reply to its message: the handler of an
OK, or the handler of a confirmation up to its test. -/
def receiveReply
    (network : Network Id) (index : Nat) (request : Request Id) :
    Network Id :=
  let candidate := network.candidate request.sender
  match request.message with
  | .electionStart =>
      (network.setRequest index { request with outcome := .answered }
        ).setCandidate request.sender candidate.processOkMessage
  | .newLeader _ =>
      (network.setRequest index { request with outcome := .counted }
        ).setCandidate request.sender candidate.onElectionConfirmationReceive

/-- The test in the handler of a confirmation. -/
def testConfirmations
    (network : Network Id) (index : Nat) (request : Request Id) :
    Network Id :=
  if (network.candidate request.sender).allConfirmationsReceived then
    network.setRequest index { request with outcome := .installing }
  else
    network.setRequest index { request with outcome := .answered }

/-- The rest of the handler of a confirmation. -/
def installSender
    (network : Network Id) (index : Nat) (request : Request Id) :
    Network Id :=
  (network.setRequest index { request with outcome := .answered }
    ).setCandidate request.sender
      ((network.candidate request.sender).setNewLeader request.sender)

/-- A crash ends every thread of the node. -/
def crashNode (network : Network Id) (node : Id) : Network Id :=
  { network with
    live := network.live.erase node
    threads := network.threads.map fun thread =>
      if thread.node = node then { thread with phase := .finished }
      else thread
    requests := network.requests.map fun request =>
      if request.sender = node then
        { request with outcome := request.outcome.ended }
      else request }

/-- All request threads that an election thread joins have ended. -/
def Joined (network : Network Id) (thread : Nat) : Prop :=
  ∀ request ∈ network.requests,
    request.thread = thread → request.message = .electionStart →
      request.outcome.running = false

instance (network : Network Id) (thread : Nat) :
    Decidable (network.Joined thread) :=
  inferInstanceAs (Decidable (∀ request ∈ network.requests, _))

/-- One step of the group. -/
def step (network : Network Id) : Action Id → Option (Network Id)
  | .start node =>
      if node ∈ network.live then some (network.startElection node) else none
  | .nodeFail node failed =>
      if node ∈ network.live then
        if (network.candidate node).leaderId = some failed then
          some (network.startElection node)
        else some network
      else none
  | .electionThread index membershipList =>
      match network.threads[index]? with
      | some ⟨node, .spawned⟩ =>
          -- the thread polls until the list is non-empty
          if membershipList = [] then none
          else some (network.electionThread index node membershipList)
      | _ => none
  | .joined index membershipList =>
      match network.threads[index]? with
      | some ⟨node, .joining⟩ =>
          if network.Joined index then
            some (network.afterJoin index node membershipList)
          else none
      | _ => none
  | .handle index =>
      match network.requests[index]? with
      | some request =>
          if request.delivery = .inFlight ∧ request.target ∈ network.live then
            some (network.handleRequest index request)
          else none
      | none => none
  | .receive index =>
      match network.requests[index]? with
      | some request =>
          if request.delivery = .handled ∧ request.outcome = .waiting then
            some (network.receiveReply index request)
          else none
      | none => none
  | .test index =>
      match network.requests[index]? with
      | some request =>
          if request.outcome = .counted then
            some (network.testConfirmations index request)
          else none
      | none => none
  | .install index =>
      match network.requests[index]? with
      | some request =>
          if request.outcome = .installing then
            some (network.installSender index request)
          else none
      | none => none
  | .timeout index =>
      match network.requests[index]? with
      | some request =>
          if request.outcome = .waiting then
            some (network.setRequest index
              { request with outcome := .timedOut })
          else none
      | none => none
  | .lose index =>
      match network.requests[index]? with
      | some request =>
          if request.delivery = .inFlight ∧
              (request.outcome = .timedOut ∨ request.target ∉ network.live) then
            some (network.setRequest index { request with delivery := .lost })
          else none
      | none => none
  | .crash node =>
      if node ∈ network.live then some (network.crashNode node) else none

end Network

/-- The election protocol on a group of nodes. -/
def protocol (nodes : Finset Id) :
    TransitionSystem (Network Id) (Action Id) where
  initial := Network.initial nodes
  step := Network.step

end Election
end CraneSps
