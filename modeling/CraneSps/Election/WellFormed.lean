import CraneSps.Election.Transition

/-!
# Invariants of every run of the election protocol

These hold whatever crashes, whatever times out and whichever membership lists
are read: a request belongs to an election thread of its sender that has
passed its check, a claim carries the id of its sender and its thread has
returned, a reply that was received had been sent, only the threads of claims
count confirmations, and every node has raised a `LeaderElectedEvent` for the
leader it reports.
-/

namespace CraneSps
namespace Election
namespace Network

variable {Id : Type} {nodes : Finset Id}
variable {network next : Network Id} {action : Action Id}

/-- The bookkeeping that every step preserves. -/
structure WellFormed (network : Network Id) : Prop where
  owner : ∀ request ∈ network.requests, ∃ phase, phase ≠ .spawned ∧
    network.threads[request.thread]? = some ⟨request.sender, phase⟩
  claim : ∀ request ∈ network.requests, ∀ leader,
    request.message = .newLeader leader → leader = request.sender
  returned : ∀ request ∈ network.requests, ∀ leader,
    request.message = .newLeader leader →
      network.threads[request.thread]? = some ⟨request.sender, .finished⟩
  acknowledged : ∀ request ∈ network.requests,
    request.outcome.replied = true → request.delivery = .handled
  confirming : ∀ request ∈ network.requests,
    request.outcome = .counted ∨ request.outcome = .installing →
      request.message = .newLeader request.sender
  coherent : ∀ node, (network.candidate node).Coherent

namespace WellFormed

theorem initial : WellFormed (Network.initial nodes) where
  owner := by simp [Network.initial]
  claim := by simp [Network.initial]
  returned := by simp [Network.initial]
  acknowledged := by simp [Network.initial]
  confirming := by simp [Network.initial]
  coherent := by
    intro node
    exact ⟨rfl, by simp [Network.initial]⟩

/-- The thread of a request belongs to its sender. -/
theorem sender_of_thread
    (wellFormed : network.WellFormed)
    {request : Request Id} (present : request ∈ network.requests)
    {node : Id} {phase : Phase}
    (found : network.threads[request.thread]? = some ⟨node, phase⟩) :
    request.sender = node := by
  obtain ⟨current, _, foundOwner⟩ := wellFormed.owner request present
  rw [found] at foundOwner
  exact (congrArg ElectionThread.node (Option.some.inj foundOwner)).symm

/-- A thread that has not passed its check has sent nothing. -/
theorem thread_ne_of_spawned
    (wellFormed : network.WellFormed)
    {request : Request Id} (present : request ∈ network.requests)
    {index : Nat} {node : Id}
    (found : network.threads[index]? = some ⟨node, .spawned⟩) :
    request.thread ≠ index := by
  intro same
  obtain ⟨phase, passed, foundOwner⟩ := wellFormed.owner request present
  rw [same, found] at foundOwner
  exact passed (congrArg ElectionThread.phase
    (Option.some.inj foundOwner)).symm

theorem startElection
    (wellFormed : network.WellFormed) (node : Id) :
    (network.startElection node).WellFormed where
  owner := by
    intro request present
    obtain ⟨phase, passed, found⟩ := wellFormed.owner request present
    exact ⟨phase, passed, startElection_lookup found⟩
  claim := wellFormed.claim
  returned := by
    intro request present leader isClaim
    exact startElection_lookup
      (wellFormed.returned request present leader isClaim)
  acknowledged := wellFormed.acknowledged
  confirming := wellFormed.confirming
  coherent := wellFormed.coherent

/-- A running thread changes its phase. -/
theorem setPhase
    (wellFormed : network.WellFormed)
    {index : Nat} {node : Id} {before after : Phase}
    (found : network.threads[index]? = some ⟨node, before⟩)
    (running : before ≠ .finished) (passed : after ≠ .spawned) :
    (network.setPhase index node after).WellFormed where
  owner := by
    intro request present
    obtain ⟨phase, isPast, foundOwner⟩ := wellFormed.owner request present
    by_cases same : request.thread = index
    · have sameNode : request.sender = node :=
        wellFormed.sender_of_thread present (same ▸ found)
      refine ⟨after, passed, ?_⟩
      rw [same, sameNode]
      exact setPhase_lookup_self found
    · exact ⟨phase, isPast, (setPhase_lookup_of_ne same).trans foundOwner⟩
  claim := wellFormed.claim
  returned := by
    intro request present leader isClaim
    have isFinished := wellFormed.returned request present leader isClaim
    have different : request.thread ≠ index := by
      intro same
      rw [same, found] at isFinished
      exact running (congrArg ElectionThread.phase
        (Option.some.inj isFinished))
    exact (setPhase_lookup_of_ne different).trans isFinished
  acknowledged := wellFormed.acknowledged
  confirming := wellFormed.confirming
  coherent := wellFormed.coherent

theorem setRequest
    (wellFormed : network.WellFormed)
    {index : Nat} {request updated : Request Id}
    (found : network.requests[index]? = some request)
    (sameThread : updated.thread = request.thread)
    (sameSender : updated.sender = request.sender)
    (sameMessage : updated.message = request.message)
    (acknowledged : updated.outcome.replied = true →
      updated.delivery = .handled)
    (confirming : updated.outcome = .counted ∨
      updated.outcome = .installing →
        updated.message = .newLeader updated.sender) :
    (network.setRequest index updated).WellFormed := by
  have present : request ∈ network.requests := List.mem_of_getElem? found
  refine
    { owner := ?_
      claim := ?_
      returned := ?_
      acknowledged := ?_
      confirming := ?_
      coherent := wellFormed.coherent }
  · intro current isMember
    rcases List.mem_or_eq_of_mem_set isMember with old | rfl
    · exact wellFormed.owner current old
    · rw [sameThread, sameSender]
      exact wellFormed.owner request present
  · intro current isMember leader isClaim
    rcases List.mem_or_eq_of_mem_set isMember with old | rfl
    · exact wellFormed.claim current old leader isClaim
    · rw [sameSender]
      exact wellFormed.claim request present leader (sameMessage ▸ isClaim)
  · intro current isMember leader isClaim
    rcases List.mem_or_eq_of_mem_set isMember with old | rfl
    · exact wellFormed.returned current old leader isClaim
    · rw [sameThread, sameSender]
      exact wellFormed.returned request present leader
        (sameMessage ▸ isClaim)
  · intro current isMember isAnswered
    rcases List.mem_or_eq_of_mem_set isMember with old | rfl
    · exact wellFormed.acknowledged current old isAnswered
    · exact acknowledged isAnswered
  · intro current isMember confirms
    rcases List.mem_or_eq_of_mem_set isMember with old | rfl
    · exact wellFormed.confirming current old confirms
    · exact confirming confirms

/-- A message is handled or lost. -/
theorem setDelivery
    (wellFormed : network.WellFormed)
    {index : Nat} {request : Request Id}
    (found : network.requests[index]? = some request) (delivery : Delivery)
    (acknowledged : request.outcome.replied = true → delivery = .handled) :
    (network.setRequest index { request with delivery := delivery }
      ).WellFormed :=
  wellFormed.setRequest found rfl rfl rfl acknowledged
    (wellFormed.confirming request (List.mem_of_getElem? found))

/-- A request thread moves on. -/
theorem setOutcome
    (wellFormed : network.WellFormed)
    {index : Nat} {request : Request Id}
    (found : network.requests[index]? = some request) (outcome : Outcome)
    (acknowledged : outcome.replied = true → request.delivery = .handled)
    (confirming : outcome = .counted ∨ outcome = .installing →
      request.message = .newLeader request.sender) :
    (network.setRequest index { request with outcome := outcome }
      ).WellFormed :=
  wellFormed.setRequest found rfl rfl rfl acknowledged confirming

theorem sendToNodes
    (wellFormed : network.WellFormed)
    {index : Nat} {node : Id} {phase : Phase}
    (found : network.threads[index]? = some ⟨node, phase⟩)
    (passed : phase ≠ .spawned)
    (targets : List Id) {message : ElectionRequest Id}
    (own : ∀ leader, message = .newLeader leader →
      leader = node ∧ phase = .finished) :
    (network.sendToNodes index node targets message).WellFormed := by
  refine
    { owner := ?_
      claim := ?_
      returned := ?_
      acknowledged := ?_
      confirming := ?_
      coherent := wellFormed.coherent }
  · intro request present
    rcases mem_sendToNodes_requests.mp present with
      old | ⟨target, isMember, rfl⟩
    · exact wellFormed.owner request old
    · exact ⟨phase, passed, found⟩
  · intro request present leader isClaim
    rcases mem_sendToNodes_requests.mp present with
      old | ⟨target, isMember, rfl⟩
    · exact wellFormed.claim request old leader isClaim
    · exact (own leader isClaim).1
  · intro request present leader isClaim
    rcases mem_sendToNodes_requests.mp present with
      old | ⟨target, isMember, rfl⟩
    · exact wellFormed.returned request old leader isClaim
    · obtain ⟨-, rfl⟩ := own leader isClaim
      exact found
  · intro request present isAnswered
    rcases mem_sendToNodes_requests.mp present with
      old | ⟨target, isMember, rfl⟩
    · exact wellFormed.acknowledged request old isAnswered
    · cases isAnswered
  · intro request present confirms
    rcases mem_sendToNodes_requests.mp present with
      old | ⟨target, isMember, rfl⟩
    · exact wellFormed.confirming request old confirms
    · rcases confirms with counted | installing
      · cases counted
      · cases installing

/-- A thread changes its phase and sends a batch of requests. -/
theorem setPhase_sendToNodes
    (wellFormed : network.WellFormed)
    {index : Nat} {node : Id} {before after : Phase}
    (found : network.threads[index]? = some ⟨node, before⟩)
    (running : before ≠ .finished) (passed : after ≠ .spawned)
    (targets : List Id) {message : ElectionRequest Id}
    (own : ∀ leader, message = .newLeader leader →
      leader = node ∧ after = .finished) :
    ((network.setPhase index node after).sendToNodes index node targets
      message).WellFormed :=
  (wellFormed.setPhase found running passed).sendToNodes
    (setPhase_lookup_self found) passed targets own

variable [LinearOrder Id]

theorem setCandidate
    (wellFormed : network.WellFormed)
    {node : Id} {candidate : Candidate Id}
    (coherent : candidate.Coherent) :
    (network.setCandidate node candidate).WellFormed where
  owner := wellFormed.owner
  claim := wellFormed.claim
  returned := wellFormed.returned
  acknowledged := wellFormed.acknowledged
  confirming := wellFormed.confirming
  coherent := by
    intro other
    exact update_preserves Candidate.Coherent (wellFormed.coherent other)
      fun _ => coherent

/-- The request a crash leaves in place of another one. -/
theorem mem_crashNode_requests
    {node : Id} {request : Request Id}
    (present : request ∈ (network.crashNode node).requests) :
    ∃ old ∈ network.requests, request = old ∨
      (old.sender = node ∧
        request = { old with outcome := old.outcome.ended }) := by
  obtain ⟨old, isMember, rfl⟩ := List.mem_map.mp present
  refine ⟨old, isMember, ?_⟩
  split
  · next sent => exact .inr ⟨sent, rfl⟩
  · exact .inl rfl

/-- A crash leaves every thread in its place, past its check if it was. -/
theorem crashNode_lookup
    (node : Id) {other : Id} {index : Nat} {phase : Phase}
    (found : network.threads[index]? = some ⟨other, phase⟩) :
    (network.crashNode node).threads[index]? =
      some ⟨other, if other = node then .finished else phase⟩ := by
  simp only [crashNode, List.getElem?_map, found, Option.map_some]
  split <;> rfl

theorem crashNode
    (wellFormed : network.WellFormed) (node : Id) :
    (network.crashNode node).WellFormed where
  owner := by
    intro request present
    obtain ⟨old, isMember, origin⟩ := mem_crashNode_requests present
    obtain ⟨phase, passed, found⟩ := wellFormed.owner old isMember
    refine ⟨if old.sender = node then .finished else phase, ?_, ?_⟩
    · split
      · decide
      · exact passed
    · rcases origin with rfl | ⟨_, rfl⟩ <;> exact crashNode_lookup node found
  claim := by
    intro request present leader isClaim
    obtain ⟨old, isMember, origin⟩ := mem_crashNode_requests present
    rcases origin with rfl | ⟨_, rfl⟩
    · exact wellFormed.claim request isMember leader isClaim
    · exact wellFormed.claim old isMember leader isClaim
  returned := by
    intro request present leader isClaim
    obtain ⟨old, isMember, origin⟩ := mem_crashNode_requests present
    have found : network.threads[old.thread]? =
        some ⟨old.sender, .finished⟩ := by
      apply wellFormed.returned old isMember leader
      rcases origin with rfl | ⟨_, rfl⟩ <;> exact isClaim
    have stays := crashNode_lookup node found
    rw [ite_self] at stays
    rcases origin with rfl | ⟨_, rfl⟩ <;> exact stays
  acknowledged := by
    intro request present isAnswered
    obtain ⟨old, isMember, rfl | ⟨_, rfl⟩⟩ :=
      mem_crashNode_requests present
    · exact wellFormed.acknowledged request isMember isAnswered
    · exact wellFormed.acknowledged old isMember
        ((Outcome.replied_ended old.outcome).symm.trans isAnswered)
  confirming := by
    intro request present confirms
    obtain ⟨old, isMember, rfl | ⟨_, rfl⟩⟩ :=
      mem_crashNode_requests present
    · exact wellFormed.confirming request isMember confirms
    · exact absurd confirms (by cases old.outcome <;> simp [Outcome.ended])
  coherent := wellFormed.coherent

/-- Every step keeps the bookkeeping. -/
theorem step
    (wellFormed : network.WellFormed)
    (stepped : network.step action = some next) :
    next.WellFormed := by
  cases transition_of_step stepped with
  | start alive => exact wellFormed.startElection _
  | leaderFailed alive leads => exact wellFormed.startElection _
  | otherFailed alive => exact wellFormed
  | alreadyStarted found started =>
      exact wellFormed.setPhase found (by decide) (by decide)
  | @smallest index node membershipList found idle isMin =>
      have counted : ({ network.candidate node with started := true
          }.expectConfirmations membershipList.length).Coherent :=
        ⟨(wellFormed.coherent node).previous,
          (wellFormed.coherent node).raised⟩
      exact (wellFormed.setCandidate counted).setPhase_sendToNodes found
        (by decide) (by decide) membershipList
        fun _ isClaim => ⟨(ElectionRequest.newLeader.inj isClaim).symm, rfl⟩
  | @notSmallest index node membershipList found idle nonempty notMin =>
      have reset : Candidate.Coherent { network.candidate node with
          started := true, okReceived := false } :=
        ⟨(wellFormed.coherent node).previous,
          (wellFormed.coherent node).raised⟩
      exact (wellFormed.setCandidate reset).setPhase_sendToNodes found
        (by decide) (by decide) _ fun _ isClaim => nomatch isClaim
  | joinedOk found joined ok =>
      exact wellFormed.setPhase found (by decide) (by decide)
  | joinedNoOk found joined noOk =>
      exact wellFormed.setPhase_sendToNodes found (by decide) (by decide) _
        fun _ isClaim => ⟨(ElectionRequest.newLeader.inj isClaim).symm, rfl⟩
  | handleStart found isStart inFlight alive =>
      refine WellFormed.startElection ?_ _
      exact wellFormed.setDelivery found .handled fun _ => rfl
  | @handleNewLeader index request leader found isNewLeader inFlight alive =>
      refine WellFormed.setCandidate ?_ ?_
      · exact wellFormed.setDelivery found .handled fun _ => rfl
      · unfold Candidate.processNewLeader
        split
        · exact (wellFormed.coherent request.target).setNewLeader leader
        · exact wellFormed.coherent request.target
  | @receiveOk index request found isStart handled waiting =>
      refine WellFormed.setCandidate ?_
        ⟨(wellFormed.coherent request.sender).previous,
          (wellFormed.coherent request.sender).raised⟩
      exact wellFormed.setOutcome found .answered (fun _ => handled) (by simp)
  | @receiveConfirm index request leader found isNewLeader handled waiting =>
      refine WellFormed.setCandidate ?_
        ⟨(wellFormed.coherent request.sender).previous,
          (wellFormed.coherent request.sender).raised⟩
      have present := List.mem_of_getElem? found
      refine wellFormed.setOutcome found .counted (fun _ => handled)
        fun _ => ?_
      rw [isNewLeader, wellFormed.claim request present leader isNewLeader]
  | @testLast index request found counted last =>
      have present := List.mem_of_getElem? found
      exact wellFormed.setOutcome found .installing
        (fun _ => wellFormed.acknowledged request present
          (by rw [counted]; rfl))
        fun _ => wellFormed.confirming request present (.inl counted)
  | @testNotLast index request found counted notLast =>
      have present := List.mem_of_getElem? found
      exact wellFormed.setOutcome found .answered
        (fun _ => wellFormed.acknowledged request present
          (by rw [counted]; rfl))
        (by simp)
  | @install index request found installing =>
      have present := List.mem_of_getElem? found
      refine WellFormed.setCandidate ?_
        ((wellFormed.coherent request.sender).setNewLeader request.sender)
      exact wellFormed.setOutcome found .answered
        (fun _ => wellFormed.acknowledged request present
          (by rw [installing]; rfl))
        (by simp)
  | @timeout index request found waiting =>
      exact wellFormed.setOutcome found .timedOut
        (fun replied => nomatch replied) (by simp)
  | @lose index request found inFlight unwanted =>
      refine wellFormed.setDelivery found .lost fun replied => ?_
      have handled := wellFormed.acknowledged request
        (List.mem_of_getElem? found) replied
      rw [inFlight] at handled
      nomatch handled
  | crash alive => exact wellFormed.crashNode _

/-- A thread that has returned never runs again. -/
theorem finished_stays
    {index : Nat} {node : Id}
    (finished : network.threads[index]? = some ⟨node, .finished⟩)
    (stepped : network.step action = some next) :
    next.threads[index]? = some ⟨node, .finished⟩ := by
  have otherThread : ∀ {position : Nat} {owner : Id} {phase : Phase},
      network.threads[position]? = some ⟨owner, phase⟩ →
        phase ≠ .finished → index ≠ position := by
    intro position owner phase found running same
    rw [same, found] at finished
    exact running (congrArg ElectionThread.phase (Option.some.inj finished))
  cases transition_of_step stepped with
  | start | leaderFailed | handleStart => exact startElection_lookup finished
  | otherFailed | handleNewLeader | receiveOk | receiveConfirm | testLast
  | testNotLast | install | timeout | lose => exact finished
  | alreadyStarted found | smallest found | notSmallest found
  | joinedOk found | joinedNoOk found =>
      exact (setPhase_lookup_of_ne
        (otherThread found (by decide))).trans finished
  | @crash node alive =>
      have stays := crashNode_lookup node finished
      rwa [ite_self] at stays

/-- Every run is well formed at its end. -/
theorem of_runs
    {trace : List (Action Id)}
    (runs : (protocol nodes).Runs (protocol nodes).initial trace network) :
    network.WellFormed :=
  runs.invariant WellFormed
    (fun _ _ _ before stepped => before.step stepped) initial

end WellFormed

end Network
end Election
end CraneSps
