import CraneSps.Election.WellFormed
import CraneSps.Foundation.ListUpdate
import Mathlib.Data.Finset.Dedup

/-!
# Agreement in failure-free runs

The nodes of the group all read the same membership list, nothing crashes and
nothing is lost.  If a node never starts a round while one of its own earlier
rounds is still waiting to test `okReceived`, then only the smallest node ever
claims leadership.  Without that separation a node can claim against an OK it
has received: the second round clears the flag the first one is about to test.
-/

namespace CraneSps
namespace Election
namespace Network

variable {Id : Type} [LinearOrder Id]
variable {members : List Id} {network next : Network Id} {action : Action Id}

/-- Every claim ever sent carries the smallest id of the list, and every node
reports that id or none. -/
structure Agreement (members : List Id) (network : Network Id) : Prop where
  claims : ∀ request ∈ network.requests, ∀ leader,
    request.message = .newLeader leader → minElement members = some leader
  leaders : ∀ node, ∀ leader ∈ (network.candidate node).leaderId,
    minElement members = some leader

/-- The steps of a run without failures in which every node reads the same
list. -/
def FailureFree (members : List Id) : Action Id → Prop
  | .electionThread _ membershipList => membershipList = members
  | .joined _ membershipList => membershipList = members
  | .timeout _ | .lose _ | .crash _ => False
  | .start _ | .nodeFail _ _ | .handle _ | .receive _ | .test _
  | .install _ => True

instance (members : List Id) (action : Action Id) :
    Decidable (FailureFree members action) := by
  rcases action <;> unfold FailureFree <;> infer_instance

/-- No election thread of the node is between resetting `okReceived` and
testing it. -/
def NoRoundAt (network : Network Id) (node : Id) : Prop :=
  ∀ thread ∈ network.threads, thread ≠ ⟨node, .joining⟩

instance (network : Network Id) (node : Id) :
    Decidable (network.NoRoundAt node) :=
  inferInstanceAs (Decidable (∀ thread ∈ network.threads, _))

/-- An election thread passes its check only when no other round of its node
is running. -/
def SeparateRounds (network : Network Id) : Action Id → Prop
  | .electionThread index _ =>
      ∀ entry ∈ network.threads[index]?,
        (network.candidate entry.node).started = false →
          network.NoRoundAt entry.node
  | _ => True

instance (network : Network Id) (action : Action Id) :
    Decidable (SeparateRounds network action) := by
  rcases action <;> unfold SeparateRounds <;> infer_instance

/-- What failure-free runs with separate rounds preserve. -/
structure RoundInvariant
    (members : List Id) (network : Network Id) : Prop where
  live : ∀ node ∈ network.live, node ∈ members
  threadNode : ∀ thread ∈ network.threads, thread.node ∈ members
  target : ∀ request ∈ network.requests, request.target ∈ members
  claim : ∀ request ∈ network.requests, ∀ leader,
    request.message = .newLeader leader → minElement members = some leader
  reported : ∀ node, ∀ leader ∈ (network.candidate node).leaderId,
    minElement members = some leader
  oneRound : ∀ (first second : Nat) (node : Id),
    network.threads[first]? = some ⟨node, .joining⟩ →
      network.threads[second]? = some ⟨node, .joining⟩ → first = second
  asked : ∀ (index : Nat) (node : Id),
    network.threads[index]? = some ⟨node, .joining⟩ →
    ∃ request ∈ network.requests,
      request.thread = index ∧ request.message = .electionStart
  patient : ∀ request ∈ network.requests, request.outcome ≠ .timedOut
  answered : ∀ request ∈ network.requests,
    request.message = .electionStart → request.outcome = .answered →
      network.threads[request.thread]? = some ⟨request.sender, .joining⟩ →
        (network.candidate request.sender).okReceived = true

/-- A node of the list other than the smallest one has somebody to ask. -/
theorem exists_mem_lowerIds
    {node : Id} (isMember : node ∈ members)
    (notMin : minElement members ≠ some node) :
    ∃ lower, lower ∈ lowerIds members node := by
  obtain ⟨least, isLeast⟩ : ∃ least, minElement members = some least :=
    Option.isSome_iff_exists.mp (List.isSome_min?_of_mem isMember)
  obtain ⟨present, smallest⟩ := List.min?_eq_some_iff.mp isLeast
  have different : least ≠ node := fun same => notMin (same ▸ isLeast)
  refine ⟨least, ?_⟩
  simpa [lowerIds, present] using
    lt_of_le_of_ne (smallest node isMember) different

/-- A round has just begun or has been running before. -/
theorem joining_of_askLowerIds
    {index position : Nat} {node owner : Id}
    (found : network.threads[index]? = some ⟨node, .spawned⟩)
    (joining : (network.askLowerIds index node members).threads[position]? =
      some ⟨owner, .joining⟩) :
    (position = index ∧ owner = node) ∨
      network.threads[position]? = some ⟨owner, .joining⟩ := by
  by_cases same : position = index
  · subst same
    have here :
        (network.askLowerIds position node members).threads[position]? =
          some ⟨node, .joining⟩ :=
      setPhase_lookup_self found
    rw [here] at joining
    exact .inl ⟨rfl,
      (congrArg ElectionThread.node (Option.some.inj joining)).symm⟩
  · exact .inr ((setPhase_lookup_of_ne same).symm.trans joining)

namespace RoundInvariant

theorem initial (members : List Id) :
    RoundInvariant members (Network.initial members.toFinset) where
  live := by simp [Network.initial]
  threadNode := by simp [Network.initial]
  target := by simp [Network.initial]
  claim := by simp [Network.initial]
  reported := by simp [Network.initial]
  oneRound := by simp [Network.initial]
  asked := by simp [Network.initial]
  patient := by simp [Network.initial]
  answered := by simp [Network.initial]

/-- The invariant gives the agreement. -/
theorem agreement (invariant : RoundInvariant members network) :
    Agreement members network where
  claims := invariant.claim
  leaders := invariant.reported

/-- The threads change, and none of them begins to wait. -/
theorem setThreads
    (invariant : RoundInvariant members network)
    {threads : List (ElectionThread Id)}
    (threadNode : ∀ thread ∈ threads, thread.node ∈ members)
    (joining : ∀ (index : Nat) (node : Id),
      threads[index]? = some ⟨node, .joining⟩ →
        network.threads[index]? = some ⟨node, .joining⟩) :
    RoundInvariant members { network with threads := threads } where
  live := invariant.live
  threadNode := threadNode
  target := invariant.target
  claim := invariant.claim
  reported := invariant.reported
  oneRound := fun first second node foundFirst foundSecond =>
    invariant.oneRound first second node (joining first node foundFirst)
      (joining second node foundSecond)
  asked := fun index node found =>
    invariant.asked index node (joining index node found)
  patient := invariant.patient
  answered := fun request present isStart isAnswered found =>
    invariant.answered request present isStart isAnswered
      (joining request.thread request.sender found)

/-- Spawning an election thread. -/
theorem startElection
    (invariant : RoundInvariant members network)
    {node : Id} (isMember : node ∈ members) :
    RoundInvariant members (network.startElection node) := by
  refine invariant.setThreads (fun thread present => ?_)
    fun index owner found => ?_
  · rcases List.mem_append.mp present with present | isNew
    · exact invariant.threadNode thread present
    · rw [List.mem_singleton.mp isNew]
      exact isMember
  · exact (startElection_lookup_iff (by decide)).mp found

/-- An election thread returns. -/
theorem finish
    (invariant : RoundInvariant members network)
    {index : Nat} {node : Id} {phase : Phase}
    (found : network.threads[index]? = some ⟨node, phase⟩) :
    RoundInvariant members (network.setPhase index node .finished) := by
  refine invariant.setThreads (fun thread present => ?_)
    fun position owner foundOwner => ?_
  · rcases List.mem_or_eq_of_mem_set present with present | rfl
    · exact invariant.threadNode thread present
    · exact invariant.threadNode ⟨node, phase⟩ (List.mem_of_getElem? found)
  · exact ((setPhase_lookup_iff (by decide)).mp foundOwner).2

/-- A node changes its election state without losing an OK. -/
theorem setCandidate
    (invariant : RoundInvariant members network)
    {node : Id} {candidate : Candidate Id}
    (keepsOk : (network.candidate node).okReceived = true →
      candidate.okReceived = true)
    (reports : ∀ leader ∈ candidate.leaderId,
      minElement members = some leader) :
    RoundInvariant members (network.setCandidate node candidate) where
  live := invariant.live
  threadNode := invariant.threadNode
  target := invariant.target
  claim := invariant.claim
  reported := by
    intro other
    exact update_preserves
      (fun state => ∀ leader ∈ state.leaderId,
        minElement members = some leader)
      (invariant.reported other) fun _ => reports
  oneRound := invariant.oneRound
  asked := invariant.asked
  patient := invariant.patient
  answered := by
    intro request present isStart isAnswered found
    have ok := invariant.answered request present isStart isAnswered found
    refine update_preserves (fun state => state.okReceived = true) ok
      fun same => ?_
    rw [same] at keepsOk
    exact keepsOk ok

/-- A request makes progress. -/
theorem setRequest
    (invariant : RoundInvariant members network)
    {index : Nat} {request updated : Request Id}
    (found : network.requests[index]? = some request)
    (sameThread : updated.thread = request.thread)
    (sameSender : updated.sender = request.sender)
    (sameTarget : updated.target = request.target)
    (sameMessage : updated.message = request.message)
    (patient : updated.outcome ≠ .timedOut)
    (ok : updated.outcome = .answered → updated.message = .electionStart →
      request.outcome = .answered ∨
        (network.candidate request.sender).okReceived = true) :
    RoundInvariant members (network.setRequest index updated) := by
  have present : request ∈ network.requests := List.mem_of_getElem? found
  have origin : ∀ current ∈ (network.setRequest index updated).requests,
      current ∈ network.requests ∨ current = updated := fun current isMember =>
    List.mem_or_eq_of_mem_set isMember
  refine
    { live := invariant.live
      threadNode := invariant.threadNode
      target := ?_
      claim := ?_
      reported := invariant.reported
      oneRound := invariant.oneRound
      asked := ?_
      patient := ?_
      answered := ?_ }
  · intro current isMember
    rcases origin current isMember with old | rfl
    · exact invariant.target current old
    · rw [sameTarget]
      exact invariant.target request present
  · intro current isMember leader isClaim
    rcases origin current isMember with old | rfl
    · exact invariant.claim current old leader isClaim
    · exact invariant.claim request present leader (sameMessage ▸ isClaim)
  · intro position node joining
    obtain ⟨asking, isMember, ofThread, isStart⟩ :=
      invariant.asked position node joining
    by_cases same : asking = request
    · subst same
      have bound := (List.getElem?_eq_some_iff.mp found).1
      exact ⟨updated, List.mem_set bound updated, sameThread.trans ofThread,
        sameMessage.trans isStart⟩
    · exact ⟨asking, List.mem_set_of_ne isMember found same, ofThread,
        isStart⟩
  · intro current isMember
    rcases origin current isMember with old | rfl
    · exact invariant.patient current old
    · exact patient
  · intro current isMember isStart isAnswered joining
    rcases origin current isMember with old | rfl
    · exact invariant.answered current old isStart isAnswered joining
    · rw [setRequest_candidate]
      rcases ok isAnswered isStart with before | received
      · rw [sameSender]
        rw [setRequest_threads, sameThread, sameSender] at joining
        exact invariant.answered request present (sameMessage ▸ isStart)
          before joining
      · rwa [sameSender]

/-- The request thread of a claim moves on. -/
theorem setOutcome_of_claim
    (invariant : RoundInvariant members network)
    {index : Nat} {request : Request Id} {leader : Id}
    (found : network.requests[index]? = some request)
    (isNewLeader : request.message = .newLeader leader)
    {outcome : Outcome} (patient : outcome ≠ .timedOut) :
    RoundInvariant members
      (network.setRequest index { request with outcome := outcome }) := by
  refine invariant.setRequest found rfl rfl rfl rfl patient
    fun _ isStart => ?_
  rw [isNewLeader] at isStart
  nomatch isStart

/-- The smallest node sends its claim. -/
theorem sendElected
    (invariant : RoundInvariant members network)
    {node : Id} (isMin : minElement members = some node) (index : Nat) :
    RoundInvariant members (network.sendElected index node members) := by
  refine
    { live := invariant.live
      threadNode := invariant.threadNode
      target := ?_
      claim := ?_
      reported := invariant.reported
      oneRound := invariant.oneRound
      asked := ?_
      patient := ?_
      answered := ?_ }
  · intro request present
    rcases mem_sendToNodes_requests.mp present with
      old | ⟨target, isMember, rfl⟩
    · exact invariant.target request old
    · exact isMember
  · intro request present leader isClaim
    rcases mem_sendToNodes_requests.mp present with
      old | ⟨target, isMember, rfl⟩
    · exact invariant.claim request old leader isClaim
    · obtain rfl : node = leader := ElectionRequest.newLeader.inj isClaim
      exact isMin
  · intro position owner joining
    obtain ⟨request, present, ofThread⟩ :=
      invariant.asked position owner joining
    exact ⟨request, List.mem_append_left _ present, ofThread⟩
  · intro request present
    rcases mem_sendToNodes_requests.mp present with
      old | ⟨target, isMember, rfl⟩
    · exact invariant.patient request old
    · exact Outcome.noConfusion
  · intro request present isStart isAnswered joining
    rcases mem_sendToNodes_requests.mp present with
      old | ⟨target, isMember, rfl⟩
    · exact invariant.answered request old isStart isAnswered joining
    · exact absurd isAnswered Outcome.noConfusion

/-- A node other than the smallest one starts a round. -/
theorem askLowerIds
    (invariant : RoundInvariant members network)
    (wellFormed : network.WellFormed)
    {index : Nat} {node : Id}
    (found : network.threads[index]? = some ⟨node, .spawned⟩)
    (notMin : minElement members ≠ some node)
    (noRound : network.NoRoundAt node) :
    RoundInvariant members (network.askLowerIds index node members) := by
  have isMember : node ∈ members :=
    invariant.threadNode _ (List.mem_of_getElem? found)
  have rounds : ∀ {position : Nat} {owner : Id},
      (network.askLowerIds index node members).threads[position]? =
          some ⟨owner, .joining⟩ →
        (position = index ∧ owner = node) ∨
          (owner ≠ node ∧
            network.threads[position]? = some ⟨owner, .joining⟩) := by
    intro position owner joining
    refine (joining_of_askLowerIds found joining).imp_right fun before => ?_
    refine ⟨?_, before⟩
    rintro rfl
    exact noRound _ (List.mem_of_getElem? before) rfl
  refine
    { live := invariant.live
      threadNode := ?_
      target := ?_
      claim := ?_
      reported := ?_
      oneRound := ?_
      asked := ?_
      patient := ?_
      answered := ?_ }
  · intro thread present
    rcases List.mem_or_eq_of_mem_set present with old | rfl
    · exact invariant.threadNode thread old
    · exact isMember
  · intro request present
    rcases mem_sendToNodes_requests.mp present with
      old | ⟨target, isLower, rfl⟩
    · exact invariant.target request old
    · exact (List.mem_filter.mp isLower).1
  · intro request present leader isClaim
    rcases mem_sendToNodes_requests.mp present with
      old | ⟨target, isLower, rfl⟩
    · exact invariant.claim request old leader isClaim
    · cases isClaim
  · intro other
    exact update_preserves
      (fun state => ∀ leader ∈ state.leaderId,
        minElement members = some leader)
      (invariant.reported other) fun _ => invariant.reported node
  · intro first second owner foundFirst foundSecond
    rcases rounds foundFirst with ⟨rfl, rfl⟩ | ⟨different, beforeFirst⟩
    · rcases rounds foundSecond with ⟨rfl, _⟩ | ⟨different, _⟩
      · rfl
      · exact absurd rfl different
    · rcases rounds foundSecond with ⟨_, same⟩ | ⟨_, beforeSecond⟩
      · exact absurd same different
      · exact invariant.oneRound first second owner beforeFirst beforeSecond
  · intro position owner joining
    rw [Network.askLowerIds, sendToNodes_requests]
    rcases rounds joining with ⟨rfl, rfl⟩ | ⟨_, before⟩
    · obtain ⟨lower, isLower⟩ := exists_mem_lowerIds isMember notMin
      exact ⟨freshRequest position owner .electionStart lower,
        List.mem_append_right _ (List.mem_map_of_mem isLower), rfl, rfl⟩
    · obtain ⟨request, present, ofThread⟩ :=
        invariant.asked position owner before
      exact ⟨request, List.mem_append_left _ present, ofThread⟩
  · intro request present
    rcases mem_sendToNodes_requests.mp present with
      old | ⟨target, isLower, rfl⟩
    · exact invariant.patient request old
    · exact Outcome.noConfusion
  · intro request present isStart isAnswered joining
    rcases mem_sendToNodes_requests.mp present with
      old | ⟨target, isLower, rfl⟩
    · rcases rounds joining with ⟨here, _⟩ | ⟨different, before⟩
      · exact absurd here (wellFormed.thread_ne_of_spawned old found)
      · exact update_preserves (fun state => state.okReceived = true)
          (invariant.answered request old isStart isAnswered before)
          fun same => absurd same.symm different
    · exact absurd isAnswered Outcome.noConfusion

/-- A thread whose request threads have all ended was told OK. -/
theorem okReceived_of_joined
    (invariant : RoundInvariant members network)
    (wellFormed : network.WellFormed)
    {index : Nat} {node : Id}
    (found : network.threads[index]? = some ⟨node, .joining⟩)
    (joined : network.Joined index) :
    (network.candidate node).okReceived = true := by
  obtain ⟨request, present, ofThread, isStart⟩ :=
    invariant.asked index node found
  have sameNode : request.sender = node :=
    wellFormed.sender_of_thread present (ofThread ▸ found)
  have isAnswered : request.outcome = .answered := by
    cases outcome : request.outcome with
    | waiting =>
        have ended := joined request present ofThread isStart
        rw [outcome] at ended
        nomatch ended
    | counted =>
        have claims := wellFormed.confirming request present (.inl outcome)
        rw [isStart] at claims
        nomatch claims
    | installing =>
        have claims := wellFormed.confirming request present (.inr outcome)
        rw [isStart] at claims
        nomatch claims
    | answered => rfl
    | timedOut => exact absurd outcome (invariant.patient request present)
  rw [← sameNode]
  apply invariant.answered request present isStart isAnswered
  rw [ofThread, sameNode]
  exact found

/-- Every step of a failure-free run with separate rounds keeps the
invariant. -/
theorem step
    (invariant : RoundInvariant members network)
    (wellFormed : network.WellFormed)
    (failureFree : FailureFree members action)
    (separate : SeparateRounds network action)
    (stepped : network.step action = some next) :
    RoundInvariant members next := by
  cases transition_of_step stepped with
  | start alive =>
      exact invariant.startElection (invariant.live _ alive)
  | leaderFailed alive leads =>
      exact invariant.startElection (invariant.live _ alive)
  | otherFailed alive => exact invariant
  | alreadyStarted found started => exact invariant.finish found
  | @smallest index node membershipList found idle isMin =>
      obtain rfl : membershipList = members := failureFree
      unfold claimSmallest
      refine RoundInvariant.sendElected ?_ isMin index
      refine RoundInvariant.finish ?_ found
      exact invariant.setCandidate (fun ok => ok)
        (invariant.reported node)
  | @notSmallest index node membershipList found idle nonempty notMin =>
      obtain rfl : membershipList = members := failureFree
      exact invariant.askLowerIds wellFormed found notMin
        (separate ⟨node, .spawned⟩ found idle)
  | joinedOk found joined ok => exact invariant.finish found
  | joinedNoOk found joined noOk =>
      have ok := invariant.okReceived_of_joined wellFormed found joined
      rw [noOk] at ok
      exact Bool.noConfusion ok
  | @handleStart index request found isStart inFlight alive =>
      have present := List.mem_of_getElem? found
      refine RoundInvariant.startElection ?_ (invariant.target _ present)
      exact invariant.setRequest found rfl rfl rfl rfl
        (invariant.patient request present)
        fun isAnswered _ => .inl isAnswered
  | @handleNewLeader index request leader found isNewLeader inFlight alive =>
      have present := List.mem_of_getElem? found
      have isMin := invariant.claim _ present _ isNewLeader
      refine RoundInvariant.setCandidate ?_ (fun ok => by simpa using ok) ?_
      · exact invariant.setRequest found rfl rfl rfl rfl
          (invariant.patient request present)
          fun isAnswered _ => .inl isAnswered
      intro reported isReported
      rcases Candidate.leaderId_of_processNewLeader isReported with
        before | rfl
      · exact invariant.reported _ _ before
      · exact isMin
  | @receiveOk index request found isStart handled waiting =>
      have ok : RoundInvariant members (network.setCandidate request.sender
          (network.candidate request.sender).processOkMessage) :=
        invariant.setCandidate (fun _ => rfl)
          (invariant.reported request.sender)
      exact ok.setRequest found rfl rfl rfl rfl Outcome.noConfusion
        fun _ _ => .inr (by simp [Candidate.processOkMessage,
          Candidate.setOkReceived])
  | @receiveConfirm index request leader found isNewLeader handled waiting =>
      refine RoundInvariant.setCandidate ?_ (fun ok => ok)
        (invariant.reported request.sender)
      exact invariant.setOutcome_of_claim found isNewLeader (by decide)
  | @testLast index request found counted last =>
      have claims := wellFormed.confirming request
        (List.mem_of_getElem? found) (.inl counted)
      exact invariant.setOutcome_of_claim found claims (by decide)
  | @testNotLast index request found counted notLast =>
      have claims := wellFormed.confirming request
        (List.mem_of_getElem? found) (.inl counted)
      exact invariant.setOutcome_of_claim found claims (by decide)
  | @install index request found installing =>
      have present := List.mem_of_getElem? found
      have claims := wellFormed.confirming request present (.inr installing)
      refine RoundInvariant.setCandidate ?_ (fun ok => by simpa using ok) ?_
      · exact invariant.setOutcome_of_claim found claims (by decide)
      · intro reported isReported
        obtain rfl : request.sender = reported := by simpa using isReported
        exact invariant.claim request present request.sender claims
  | timeout found waiting => exact failureFree.elim
  | lose found inFlight unwanted => exact failureFree.elim
  | crash alive => exact failureFree.elim

end RoundInvariant

/-- In every failure-free run whose nodes keep their rounds apart, all claims
and all reported leaders are the smallest id. -/
theorem agreement_of_separateRounds
    (members : List Id) (trace : List (Action Id)) (network : Network Id)
    (every : (protocol members.toFinset).Every
      (fun state action =>
        FailureFree members action ∧ SeparateRounds state action)
      (protocol members.toFinset).initial trace)
    (runs : (protocol members.toFinset).Runs
      (protocol members.toFinset).initial trace network) :
    Agreement members network := by
  have invariant := every.invariant runs
    (fun state => state.WellFormed ∧ RoundInvariant members state)
    (fun _ _ _ before meets stepped =>
      ⟨before.1.step stepped,
        before.2.step before.1 meets.1 meets.2 stepped⟩)
    ⟨WellFormed.initial, RoundInvariant.initial members⟩
  exact invariant.2.agreement

/-- Three nodes start, the second asks the first before the first claims, and
all confirmations arrive. -/
def orderlyElection : List (Action Nat) :=
  [.start 1, .start 2, .electionThread 1 [1, 2, 3], .handle 0, .receive 0,
    .joined 1 [1, 2, 3], .electionThread 0 [1, 2, 3],
    .handle 1, .handle 2, .handle 3, .receive 1, .receive 2, .test 1,
    .receive 3, .test 3, .test 2, .install 3, .install 2]

theorem agreement_of_orderlyElection :
    ∃ network, (protocol {1, 2, 3}).Runs (protocol {1, 2, 3}).initial
        orderlyElection network ∧
      (network.candidate 3).leaderId = some 1 ∧
      Agreement [1, 2, 3] network := by
  have runs := (Option.some_get (show ((protocol {1, 2, 3}).run
    (protocol {1, 2, 3}).initial orderlyElection).isSome by decide)).symm
  exact ⟨_, runs, by decide,
    agreement_of_separateRounds [1, 2, 3] orderlyElection _ (by decide) runs⟩

/-- The second node passes its check twice: its first round is answered OK,
the claim of the first node clears `started`, its second round clears
`okReceived`, and the first round then tests the cleared flag. -/
def overlappingRounds : List (Action Nat) :=
  [.start 1, .start 2, .start 3,
    .electionThread 2 [1, 2, 3], .handle 1,
    .electionThread 1 [1, 2, 3], .handle 2, .receive 2,
    .electionThread 0 [1, 2, 3], .handle 4,
    .electionThread 3 [1, 2, 3], .joined 1 [1, 2, 3]]

/-- Failure-free runs do not agree in general: node 2 claims against the OK of
node 1. -/
theorem not_agreement_of_failureFree :
    ¬ ∀ (members : List Nat) (trace : List (Action Nat))
        (network : Network Nat),
      (protocol members.toFinset).Every
          (fun _ action => FailureFree members action)
          (protocol members.toFinset).initial trace →
        (protocol members.toFinset).Runs
          (protocol members.toFinset).initial trace network →
        Agreement members network := by
  intro agrees
  have reaches : ((protocol {1, 2, 3}).run (protocol {1, 2, 3}).initial
      overlappingRounds).isSome = true := by decide
  obtain ⟨network, runs⟩ := Option.isSome_iff_exists.mp reaches
  have agreement := agrees [1, 2, 3] overlappingRounds network
    (by decide) runs
  have claimed : ∃ request ∈ network.requests,
      request.message = .newLeader 2 := by
    have everywhere : ∀ reached ∈ (protocol {1, 2, 3}).run
        (protocol {1, 2, 3}).initial overlappingRounds,
        ∃ request ∈ reached.requests, request.message = .newLeader 2 := by
      decide
    exact everywhere network runs
  obtain ⟨request, present, isClaim⟩ := claimed
  have smallest := agreement.claims request present 2 isClaim
  exact absurd smallest (by decide)

end Network
end Election
end CraneSps
