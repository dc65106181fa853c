import CraneSps.Election.Network

/-!
# What one step of the election protocol can do

`Transition` lists the outcomes of `Network.step` together with the guards that
select them, and `transition_of_step` says that there are no others.  The
invariants of this directory are proved by cases on it; none of them unfolds
the step function again.
-/

namespace CraneSps
namespace Election
namespace Network

/-! ## Effects on the single components -/

section Components

variable {Id : Type} (network : Network Id) (index thread : Nat) (node : Id)
variable (candidate : Candidate Id) (phase : Phase) (request : Request Id)
variable (nodes : List Id) (message : ElectionRequest Id)

@[simp] theorem startElection_live :
    (network.startElection node).live = network.live := rfl

@[simp] theorem startElection_candidate :
    (network.startElection node).candidate = network.candidate := rfl

@[simp] theorem startElection_requests :
    (network.startElection node).requests = network.requests := rfl

@[simp] theorem startElection_threads :
    (network.startElection node).threads =
      network.threads ++ [⟨node, .spawned⟩] := rfl

@[simp] theorem setPhase_live :
    (network.setPhase thread node phase).live = network.live := rfl

@[simp] theorem setPhase_candidate :
    (network.setPhase thread node phase).candidate = network.candidate := rfl

@[simp] theorem setPhase_requests :
    (network.setPhase thread node phase).requests = network.requests := rfl

@[simp] theorem setPhase_threads :
    (network.setPhase thread node phase).threads =
      network.threads.set thread ⟨node, phase⟩ := rfl

@[simp] theorem sendToNodes_live :
    (network.sendToNodes thread node nodes message).live =
      network.live := rfl

@[simp] theorem sendToNodes_candidate :
    (network.sendToNodes thread node nodes message).candidate =
      network.candidate := rfl

@[simp] theorem sendToNodes_threads :
    (network.sendToNodes thread node nodes message).threads =
      network.threads := rfl

@[simp] theorem setRequest_live :
    (network.setRequest index request).live = network.live := rfl

@[simp] theorem setRequest_candidate :
    (network.setRequest index request).candidate = network.candidate := rfl

@[simp] theorem setRequest_threads :
    (network.setRequest index request).threads = network.threads := rfl

@[simp] theorem setRequest_requests :
    (network.setRequest index request).requests =
      network.requests.set index request := rfl

variable [LinearOrder Id]

@[simp] theorem setCandidate_live :
    (network.setCandidate node candidate).live = network.live := rfl

@[simp] theorem setCandidate_threads :
    (network.setCandidate node candidate).threads = network.threads := rfl

@[simp] theorem setCandidate_requests :
    (network.setCandidate node candidate).requests = network.requests := rfl

@[simp] theorem setCandidate_candidate :
    (network.setCandidate node candidate).candidate =
      Function.update network.candidate node candidate := rfl

@[simp] theorem crashNode_live :
    (network.crashNode node).live = network.live.erase node := rfl

@[simp] theorem crashNode_candidate :
    (network.crashNode node).candidate = network.candidate := rfl

end Components

/-- What holds of the election state of a node still does after an update,
provided that the new state has the property if it is the one of that node. -/
theorem update_preserves
    {Id : Type} [DecidableEq Id] {candidate : Id → Candidate Id}
    {node updated : Id} {state : Candidate Id}
    (property : Candidate Id → Prop)
    (before : property (candidate node))
    (after : updated = node → property state) :
    property (Function.update candidate updated state node) := by
  by_cases same : updated = node
  · rw [same, Function.update_self]
    exact after same
  · rw [Function.update_of_ne (Ne.symm same)]
    exact before

/-! ## Looking up threads after an update -/

section Lookup

variable {Id : Type} {network : Network Id} {index position : Nat}
variable {node other : Id} {phase before : Phase} {entry : ElectionThread Id}

/-- Spawning a thread keeps every thread where it is. -/
theorem startElection_lookup
    (found : network.threads[position]? = some entry) :
    (network.startElection node).threads[position]? = some entry := by
  have bound := (List.getElem?_eq_some_iff.mp found).1
  rw [startElection_threads, List.getElem?_append_left bound]
  exact found

/-- A thread past its check was there before another one was spawned. -/
theorem startElection_lookup_iff
    (passed : phase ≠ .spawned) :
    (network.startElection node).threads[position]? =
        some ⟨other, phase⟩ ↔
      network.threads[position]? = some ⟨other, phase⟩ := by
  constructor
  · intro found
    rw [startElection_threads] at found
    by_cases bound : position < network.threads.length
    · rwa [List.getElem?_append_left bound] at found
    · rw [List.getElem?_append_right (Nat.le_of_not_lt bound),
        List.getElem?_singleton] at found
      split at found
      · exact absurd (congrArg ElectionThread.phase
          (Option.some.inj found)).symm passed
      · simp at found
  · exact startElection_lookup

/-- A thread whose phase changes is found in its new phase. -/
theorem setPhase_lookup_self
    (found : network.threads[index]? = some entry) :
    (network.setPhase index node phase).threads[index]? =
      some ⟨node, phase⟩ := by
  have bound := (List.getElem?_eq_some_iff.mp found).1
  rw [setPhase_threads, List.getElem?_set_self bound]

theorem setPhase_lookup_of_ne (different : position ≠ index) :
    (network.setPhase index node phase).threads[position]? =
      network.threads[position]? := by
  rw [setPhase_threads, List.getElem?_set_ne different.symm]

/-- The threads that are in a phase after another thread has left it. -/
theorem setPhase_lookup_iff
    {wanted : Phase} (left : phase ≠ wanted) :
    (network.setPhase index node phase).threads[position]? =
        some ⟨other, wanted⟩ ↔
      position ≠ index ∧
        network.threads[position]? = some ⟨other, wanted⟩ := by
  by_cases same : position = index
  · subst same
    simp only [ne_eq, not_true_eq_false, false_and, iff_false]
    intro found
    rw [setPhase_threads, List.getElem?_set] at found
    simp only [if_true] at found
    split at found
    · exact left (congrArg ElectionThread.phase (Option.some.inj found))
    · simp at found
  · rw [setPhase_lookup_of_ne same]
    simp [same]

end Lookup

/-- The message a new request thread sends. -/
def freshRequest {Id : Type}
    (thread : Nat) (sender : Id) (message : ElectionRequest Id)
    (target : Id) : Request Id where
  thread := thread
  sender := sender
  target := target
  message := message
  delivery := .inFlight
  outcome := .waiting

@[simp] theorem sendToNodes_requests
    {Id : Type} (network : Network Id) (thread : Nat) (node : Id)
    (nodes : List Id) (message : ElectionRequest Id) :
    (network.sendToNodes thread node nodes message).requests =
      network.requests ++ nodes.map (freshRequest thread node message) := rfl

theorem mem_sendToNodes_requests
    {Id : Type} {network : Network Id} {thread : Nat} {node : Id}
    {nodes : List Id} {message : ElectionRequest Id} {request : Request Id} :
    request ∈ (network.sendToNodes thread node nodes message).requests ↔
      request ∈ network.requests ∨
        ∃ target ∈ nodes, freshRequest thread node message target =
          request := by
  rw [sendToNodes_requests, List.mem_append, List.mem_map]

/-! ## The test of a request thread -/

section Test

variable {Id : Type} {network : Network Id}
variable {index : Nat} {request : Request Id}

theorem testConfirmations_of_last
    (last : (network.candidate request.sender).exptectedConfirmationCount =
      (network.candidate request.sender).receivedConfirmationCount) :
    network.testConfirmations index request =
      network.setRequest index { request with outcome := .installing } := by
  simp [testConfirmations, Candidate.allConfirmationsReceived, last]

theorem testConfirmations_of_not_last
    (notLast : (network.candidate request.sender).exptectedConfirmationCount ≠
      (network.candidate request.sender).receivedConfirmationCount) :
    network.testConfirmations index request =
      network.setRequest index { request with outcome := .answered } := by
  simp [testConfirmations, Candidate.allConfirmationsReceived, notLast]

end Test

/-! ## The outcomes of a step -/

variable {Id : Type} [LinearOrder Id]
variable {network next : Network Id} {action : Action Id}

/-- The network after a thread has passed its check at the smallest node. -/
def claimSmallest
    (network : Network Id) (thread : Nat) (node : Id)
    (membershipList : List Id) : Network Id :=
  ((network.setCandidate node
      ({ network.candidate node with started := true }.expectConfirmations
        membershipList.length)).setPhase thread node .finished).sendElected
    thread node membershipList

/-- The network after a thread has passed its check at another node. -/
def askLowerIds
    (network : Network Id) (thread : Nat) (node : Id)
    (membershipList : List Id) : Network Id :=
  ((network.setCandidate node
      { network.candidate node with started := true, okReceived := false }
    ).setPhase thread node .joining).sendToNodes thread node
      (lowerIds membershipList node) .electionStart

/-- Every outcome of a step, with what selects it. -/
inductive Transition (network : Network Id) : Action Id → Network Id → Prop
  | start {node : Id}
      (alive : node ∈ network.live) :
      Transition network (.start node) (network.startElection node)
  | leaderFailed {node failed : Id}
      (alive : node ∈ network.live)
      (leads : (network.candidate node).leaderId = some failed) :
      Transition network (.nodeFail node failed) (network.startElection node)
  | otherFailed {node failed : Id}
      (alive : node ∈ network.live) :
      Transition network (.nodeFail node failed) network
  | alreadyStarted {index : Nat} {node : Id} {membershipList : List Id}
      (found : network.threads[index]? = some ⟨node, .spawned⟩)
      (started : (network.candidate node).started = true) :
      Transition network (.electionThread index membershipList)
        (network.setPhase index node .finished)
  | smallest {index : Nat} {node : Id} {membershipList : List Id}
      (found : network.threads[index]? = some ⟨node, .spawned⟩)
      (idle : (network.candidate node).started = false)
      (isMin : minElement membershipList = some node) :
      Transition network (.electionThread index membershipList)
        (network.claimSmallest index node membershipList)
  | notSmallest {index : Nat} {node : Id} {membershipList : List Id}
      (found : network.threads[index]? = some ⟨node, .spawned⟩)
      (idle : (network.candidate node).started = false)
      (nonempty : membershipList ≠ [])
      (notMin : minElement membershipList ≠ some node) :
      Transition network (.electionThread index membershipList)
        (network.askLowerIds index node membershipList)
  | joinedOk {index : Nat} {node : Id} {membershipList : List Id}
      (found : network.threads[index]? = some ⟨node, .joining⟩)
      (joined : network.Joined index)
      (ok : (network.candidate node).okReceived = true) :
      Transition network (.joined index membershipList)
        (network.setPhase index node .finished)
  | joinedNoOk {index : Nat} {node : Id} {membershipList : List Id}
      (found : network.threads[index]? = some ⟨node, .joining⟩)
      (joined : network.Joined index)
      (noOk : (network.candidate node).okReceived = false) :
      Transition network (.joined index membershipList)
        ((network.setPhase index node .finished).sendElected index node
          membershipList)
  | handleStart {index : Nat} {request : Request Id}
      (found : network.requests[index]? = some request)
      (isStart : request.message = .electionStart)
      (inFlight : request.delivery = .inFlight)
      (alive : request.target ∈ network.live) :
      Transition network (.handle index)
        ((network.setRequest index { request with delivery := .handled }
          ).startElection request.target)
  | handleNewLeader {index : Nat} {request : Request Id} {leader : Id}
      (found : network.requests[index]? = some request)
      (isNewLeader : request.message = .newLeader leader)
      (inFlight : request.delivery = .inFlight)
      (alive : request.target ∈ network.live) :
      Transition network (.handle index)
        ((network.setRequest index { request with delivery := .handled }
          ).setCandidate request.target
            ((network.candidate request.target).processNewLeader
              request.target leader))
  | receiveOk {index : Nat} {request : Request Id}
      (found : network.requests[index]? = some request)
      (isStart : request.message = .electionStart)
      (handled : request.delivery = .handled)
      (waiting : request.outcome = .waiting) :
      Transition network (.receive index)
        ((network.setRequest index { request with outcome := .answered }
          ).setCandidate request.sender
            (network.candidate request.sender).processOkMessage)
  | receiveConfirm {index : Nat} {request : Request Id} {leader : Id}
      (found : network.requests[index]? = some request)
      (isNewLeader : request.message = .newLeader leader)
      (handled : request.delivery = .handled)
      (waiting : request.outcome = .waiting) :
      Transition network (.receive index)
        ((network.setRequest index { request with outcome := .counted }
          ).setCandidate request.sender
            (network.candidate request.sender).onElectionConfirmationReceive)
  | testLast {index : Nat} {request : Request Id}
      (found : network.requests[index]? = some request)
      (counted : request.outcome = .counted)
      (last : (network.candidate request.sender).exptectedConfirmationCount =
        (network.candidate request.sender).receivedConfirmationCount) :
      Transition network (.test index)
        (network.setRequest index { request with outcome := .installing })
  | testNotLast {index : Nat} {request : Request Id}
      (found : network.requests[index]? = some request)
      (counted : request.outcome = .counted)
      (notLast :
        (network.candidate request.sender).exptectedConfirmationCount ≠
          (network.candidate request.sender).receivedConfirmationCount) :
      Transition network (.test index)
        (network.setRequest index { request with outcome := .answered })
  | install {index : Nat} {request : Request Id}
      (found : network.requests[index]? = some request)
      (installing : request.outcome = .installing) :
      Transition network (.install index)
        ((network.setRequest index { request with outcome := .answered }
          ).setCandidate request.sender
            ((network.candidate request.sender).setNewLeader request.sender))
  | timeout {index : Nat} {request : Request Id}
      (found : network.requests[index]? = some request)
      (waiting : request.outcome = .waiting) :
      Transition network (.timeout index)
        (network.setRequest index { request with outcome := .timedOut })
  | lose {index : Nat} {request : Request Id}
      (found : network.requests[index]? = some request)
      (inFlight : request.delivery = .inFlight)
      (unwanted : request.outcome = .timedOut ∨
        request.target ∉ network.live) :
      Transition network (.lose index)
        (network.setRequest index { request with delivery := .lost })
  | crash {node : Id}
      (alive : node ∈ network.live) :
      Transition network (.crash node) (network.crashNode node)

theorem electionThread_of_started
    {thread : Nat} {node : Id} {membershipList : List Id}
    (started : (network.candidate node).started = true) :
    network.electionThread thread node membershipList =
      network.setPhase thread node .finished := by
  simp [electionThread, started]

theorem electionThread_of_min
    {thread : Nat} {node : Id} {membershipList : List Id}
    (idle : (network.candidate node).started = false)
    (isMin : minElement membershipList = some node) :
    network.electionThread thread node membershipList =
      network.claimSmallest thread node membershipList := by
  simp [electionThread, idle, isMin, claimSmallest]

theorem electionThread_of_not_min
    {thread : Nat} {node : Id} {membershipList : List Id}
    (idle : (network.candidate node).started = false)
    (notMin : minElement membershipList ≠ some node) :
    network.electionThread thread node membershipList =
      network.askLowerIds thread node membershipList := by
  simp [electionThread, idle, notMin, askLowerIds]

theorem handleRequest_of_start
    {index : Nat} {request : Request Id}
    (isStart : request.message = .electionStart) :
    network.handleRequest index request =
      (network.setRequest index { request with delivery := .handled }
        ).startElection request.target := by
  simp [handleRequest, isStart]

theorem handleRequest_of_newLeader
    {index : Nat} {request : Request Id} {leader : Id}
    (isNewLeader : request.message = .newLeader leader) :
    network.handleRequest index request =
      (network.setRequest index { request with delivery := .handled }
        ).setCandidate request.target
          ((network.candidate request.target).processNewLeader
            request.target leader) := by
  simp [handleRequest, isNewLeader]

theorem receiveReply_of_start
    {index : Nat} {request : Request Id}
    (isStart : request.message = .electionStart) :
    network.receiveReply index request =
      (network.setRequest index { request with outcome := .answered }
        ).setCandidate request.sender
          (network.candidate request.sender).processOkMessage := by
  simp [receiveReply, isStart]

theorem receiveReply_of_newLeader
    {index : Nat} {request : Request Id} {leader : Id}
    (isNewLeader : request.message = .newLeader leader) :
    network.receiveReply index request =
      (network.setRequest index { request with outcome := .counted }
        ).setCandidate request.sender
          (network.candidate request.sender).onElectionConfirmationReceive :=
    by
  simp [receiveReply, isNewLeader]

/-- Every step is one of the listed transitions. -/
theorem transition_of_step
    (stepped : network.step action = some next) :
    network.Transition action next := by
  cases action with
  | start node =>
      simp only [step, Option.ite_none_right_eq_some, Option.some.injEq]
        at stepped
      obtain ⟨alive, rfl⟩ := stepped
      exact .start alive
  | nodeFail node failed =>
      simp only [step, Option.ite_none_right_eq_some] at stepped
      obtain ⟨alive, outcome⟩ := stepped
      split at outcome
      · next leads =>
          obtain rfl := Option.some.inj outcome
          exact .leaderFailed alive leads
      · obtain rfl := Option.some.inj outcome
        exact .otherFailed alive
  | electionThread index membershipList =>
      simp only [step] at stepped
      split at stepped
      · next node found =>
          split at stepped
          · simp at stepped
          · next nonempty =>
              obtain rfl := Option.some.inj stepped
              cases idle : (network.candidate node).started with
              | true =>
                  rw [electionThread_of_started idle]
                  exact .alreadyStarted found idle
              | false =>
                  by_cases isMin : minElement membershipList = some node
                  · rw [electionThread_of_min idle isMin]
                    exact .smallest found idle isMin
                  · rw [electionThread_of_not_min idle isMin]
                    exact .notSmallest found idle nonempty isMin
      · simp at stepped
  | joined index membershipList =>
      simp only [step] at stepped
      split at stepped
      · next node found =>
          simp only [Option.ite_none_right_eq_some, Option.some.injEq]
            at stepped
          obtain ⟨joined, rfl⟩ := stepped
          cases ok : (network.candidate node).okReceived with
          | true =>
              have outcome : network.afterJoin index node membershipList =
                  network.setPhase index node .finished := by
                simp [afterJoin, ok]
              rw [outcome]
              exact .joinedOk found joined ok
          | false =>
              have outcome : network.afterJoin index node membershipList =
                  (network.setPhase index node .finished).sendElected index
                    node membershipList := by
                simp [afterJoin, ok]
              rw [outcome]
              exact .joinedNoOk found joined ok
      · simp at stepped
  | handle index =>
      simp only [step] at stepped
      split at stepped
      · next request found =>
          simp only [Option.ite_none_right_eq_some, Option.some.injEq]
            at stepped
          obtain ⟨⟨inFlight, alive⟩, rfl⟩ := stepped
          cases message : request.message with
          | electionStart =>
              rw [handleRequest_of_start message]
              exact .handleStart found message inFlight alive
          | newLeader leader =>
              rw [handleRequest_of_newLeader message]
              exact .handleNewLeader found message inFlight alive
      · simp at stepped
  | receive index =>
      simp only [step] at stepped
      split at stepped
      · next request found =>
          simp only [Option.ite_none_right_eq_some, Option.some.injEq]
            at stepped
          obtain ⟨⟨handled, waiting⟩, rfl⟩ := stepped
          cases message : request.message with
          | electionStart =>
              rw [receiveReply_of_start message]
              exact .receiveOk found message handled waiting
          | newLeader leader =>
              rw [receiveReply_of_newLeader message]
              exact .receiveConfirm found message handled waiting
      · simp at stepped
  | test index =>
      simp only [step] at stepped
      split at stepped
      · next request found =>
          simp only [Option.ite_none_right_eq_some, Option.some.injEq]
            at stepped
          obtain ⟨counted, rfl⟩ := stepped
          by_cases last :
              (network.candidate request.sender).exptectedConfirmationCount =
                (network.candidate request.sender).receivedConfirmationCount
          · rw [testConfirmations_of_last last]
            exact .testLast found counted last
          · rw [testConfirmations_of_not_last last]
            exact .testNotLast found counted last
      · simp at stepped
  | install index =>
      simp only [step] at stepped
      split at stepped
      · next request found =>
          simp only [Option.ite_none_right_eq_some, Option.some.injEq]
            at stepped
          obtain ⟨installing, rfl⟩ := stepped
          exact .install found installing
      · simp at stepped
  | timeout index =>
      simp only [step] at stepped
      split at stepped
      · next request found =>
          simp only [Option.ite_none_right_eq_some, Option.some.injEq]
            at stepped
          obtain ⟨waiting, rfl⟩ := stepped
          exact .timeout found waiting
      · simp at stepped
  | lose index =>
      simp only [step] at stepped
      split at stepped
      · next request found =>
          simp only [Option.ite_none_right_eq_some, Option.some.injEq]
            at stepped
          obtain ⟨⟨inFlight, unwanted⟩, rfl⟩ := stepped
          exact .lose found inFlight unwanted
      · simp at stepped
  | crash node =>
      simp only [step, Option.ite_none_right_eq_some, Option.some.injEq]
        at stepped
      obtain ⟨alive, rfl⟩ := stepped
      exact .crash alive

/-! ## A handler without interruption -/

section Uninterrupted

variable (nodes : Finset Id) {index : Nat} {request : Request Id}

/-- The network after the handler of a confirmation. -/
def confirmed
    (network : Network Id) (index : Nat) (request : Request Id) :
    Network Id :=
  (network.setRequest index { request with outcome := .answered }
    ).setCandidate request.sender
      ((network.candidate request.sender).processConfirm request.sender)

/-- A confirmation that fills the expected count, if no other thread
interrupts its handler. -/
theorem run_processConfirm_of_last
    {leader : Id} (found : network.requests[index]? = some request)
    (isNewLeader : request.message = .newLeader leader)
    (handled : request.delivery = .handled)
    (waiting : request.outcome = .waiting)
    (last : (network.candidate request.sender).exptectedConfirmationCount =
      (network.candidate request.sender).receivedConfirmationCount + 1) :
    (protocol nodes).run network
        [.receive index, .test index, .install index] =
      some (network.confirmed index request) := by
  obtain ⟨bound, isRequest⟩ := List.getElem?_eq_some_iff.mp found
  simp [protocol, step, isRequest, handled, waiting, receiveReply, isNewLeader,
    bound, testConfirmations, installSender,
    Candidate.allConfirmationsReceived,
    Candidate.onElectionConfirmationReceive, last, confirmed,
    Candidate.processConfirm_of_last _ _ last, setCandidate, setRequest]

/-- Any other confirmation, if no other thread interrupts its handler. -/
theorem run_processConfirm_of_not_last
    {leader : Id} (found : network.requests[index]? = some request)
    (isNewLeader : request.message = .newLeader leader)
    (handled : request.delivery = .handled)
    (waiting : request.outcome = .waiting)
    (notLast : (network.candidate request.sender
        ).exptectedConfirmationCount ≠
      (network.candidate request.sender).receivedConfirmationCount + 1) :
    (protocol nodes).run network [.receive index, .test index] =
      some (network.confirmed index request) := by
  obtain ⟨bound, isRequest⟩ := List.getElem?_eq_some_iff.mp found
  simp [protocol, step, isRequest, handled, waiting, receiveReply, isNewLeader,
    bound, testConfirmations,
    Candidate.allConfirmationsReceived,
    Candidate.onElectionConfirmationReceive, notLast, confirmed,
    Candidate.processConfirm_of_not_last _ _ notLast, setCandidate, setRequest]

end Uninterrupted

end Network
end Election
end CraneSps
