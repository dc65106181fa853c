import CraneSps.Election.Counters

/-!
# Completion of claims

A claim installs its node exactly when one of its request threads finds the
received count equal to the expected one.  This happens in every run in which
the counters fit the number of requests when the claim is made and nothing
spoils them afterwards.  The no-OK branch does not set the counters, so its
claims need not complete.
-/

namespace CraneSps
namespace Election
namespace Network

variable {Id : Type} {nodes : Finset Id}
variable {network next : Network Id} {action : Action Id}
variable {claim : Claim Id}

/-- The node is installed, or the counters can still bring it. -/
def Progress
    (candidate : Candidate Id) (node : Id) (threads : Outcome → Nat) : Prop :=
  candidate.Installed node ∨ candidate.Confirmable threads

/-- The counters a claim starts with fit the number of its requests. -/
def ClaimFits
    (network : Network Id) (action : Action Id) (claim : Claim Id) : Prop :=
  (network.candidate claim.node).Installed claim.node ∨
    ((network.countersOf claim action).2 <
        (network.countersOf claim action).1 ∧
      (network.countersOf claim action).1 ≤
        (network.countersOf claim action).2 + claim.membershipList.length)

/-- The state of a claim between its sending and the end of its requests. -/
structure Pending (claim : Claim Id) (network : Network Id) : Prop where
  wellFormed : network.WellFormed
  finished : network.threads[claim.thread]? = some ⟨claim.node, .finished⟩
  progress : Progress (network.candidate claim.node) claim.node
    (network.standing (ofThread claim.thread))

namespace Pending

/-- A claim with fitting counters starts out pending. -/
theorem of_claimStep
    (wellFormed : next.WellFormed)
    (claimStep : ClaimStep network next action claim)
    (fits : ClaimFits network action claim) :
    Pending claim next where
  wellFormed := wellFormed
  finished := claimStep.finished
  progress := by
    have sent : claim.membershipList.length ≤
        next.standing (ofThread claim.thread) .waiting :=
      length_le_standing claimStep.requests (beq_self_eq_true claim.thread)
    rcases fits with installed | ⟨below, enough⟩
    · exact .inl (claimStep.installed installed)
    · right
      right
      right
      rw [claimStep.expected, claimStep.received]
      omega

variable {index : Nat} {request : Request Id}

/-- The threads of another node do not belong to the claim. -/
theorem foreign_of_sender
    (pending : Pending claim network)
    (found : network.requests[index]? = some request)
    (other : request.sender ≠ claim.node) :
    ofThread claim.thread request.thread request.sender = false := by
  by_contra isMine
  exact other (sender_of_ofThread pending.wellFormed pending.finished
    (List.mem_of_getElem? found) (by simpa using isMine))

/-- A thread that has counted a confirmation tests the counters. -/
theorem testNotLast
    (pending : Pending claim network)
    (found : network.requests[index]? = some request)
    (counted : request.outcome = .counted)
    (notLast : (network.candidate request.sender).exptectedConfirmationCount ≠
      (network.candidate request.sender).receivedConfirmationCount) :
    Progress (network.candidate claim.node) claim.node
      ((network.setRequest index { request with outcome := .answered }
        ).standing (ofThread claim.thread)) := by
  refine pending.progress.imp_right
    (confirmable_testNotLast found counted fun isMine => ?_)
  rw [← sender_of_ofThread pending.wellFormed pending.finished
    (List.mem_of_getElem? found) isMine]
  exact notLast

/-- When every request of the claim has ended, the claimant is installed. -/
theorem installed
    (pending : Pending claim network)
    (ended : network.ClaimEnded claim.thread) :
    (network.candidate claim.node).Installed claim.node := by
  rcases pending.progress with installed | confirmable
  · exact installed
  · obtain ⟨outcome, running, positive⟩ := confirmable.exists_running
    obtain ⟨request, present, isMine, isClaim, isOutcome⟩ :=
      exists_of_standing_pos positive
    have noneRuns := ended request present (by simpa [ofThread] using isMine)
      isClaim
    rw [isOutcome, running] at noneRuns
    cases noneRuns

end Pending

variable [LinearOrder Id]

instance (candidate : Candidate Id) (node : Id) :
    Decidable (candidate.Installed node) := by
  unfold Candidate.Installed
  infer_instance

instance (candidate : Candidate Id) (node : Id) (threads : Outcome → Nat) :
    Decidable (Progress candidate node threads) := by
  unfold Progress
  infer_instance

instance (network : Network Id) (action : Action Id) (claim : Claim Id) :
    Decidable (ClaimFits network action claim) := by
  unfold ClaimFits
  infer_instance

/-- The claimant stays alive and handles no claim of another node. -/
def Undisturbed (node : Id) (network : Network Id) : Action Id → Prop
  | .handle index => ∀ request ∈ network.requests[index]?,
      request.target = node → request.isClaim = true →
        request.sender = node
  | .crash crashed => crashed ≠ node
  | _ => True

instance (node : Id) (network : Network Id) (action : Action Id) :
    Decidable (Undisturbed node network action) := by
  rcases action <;> unfold Undisturbed <;> infer_instance

/-- The claim has installed its node, or one of its threads is about to. -/
def Assured (claim : Claim Id) (network : Network Id) : Prop :=
  (network.candidate claim.node).Installed claim.node ∨
    0 < network.standing (ofThread claim.thread) .installing

instance (claim : Claim Id) (network : Network Id) :
    Decidable (Assured claim network) := by
  unfold Assured
  infer_instance

/-- Until the claim is assured, no smallest-id branch of the node resets the
counters, a request times out only while the remaining ones still suffice, no
confirmation is counted between the last expected one and its test, and the
last expected one is one of the claim. -/
def CountersKept
    (claim : Claim Id) (network : Network Id) : Action Id → Prop
  | .receive index => ∀ request ∈ network.requests[index]?,
      request.sender = claim.node → request.isClaim = true →
        Assured claim network ∨
          ((network.candidate claim.node).receivedConfirmationCount <
              (network.candidate claim.node).exptectedConfirmationCount ∧
            (request.thread = claim.thread ∨
              (network.candidate claim.node).receivedConfirmationCount + 1 <
                (network.candidate claim.node).exptectedConfirmationCount))
  | .timeout index => ∀ request ∈ network.requests[index]?,
      request.standsAt (ofThread claim.thread) .waiting = true →
        Progress (network.candidate claim.node) claim.node
          (oneFewer (network.standing (ofThread claim.thread)))
  | .electionThread index membershipList =>
      ∀ entry ∈ network.threads[index]?, entry = ⟨claim.node, .spawned⟩ →
        (network.candidate claim.node).started = false →
          minElement membershipList = some claim.node →
            Assured claim network
  | _ => True

instance (claim : Claim Id) (network : Network Id) (action : Action Id) :
    Decidable (CountersKept claim network action) := by
  rcases action <;> unfold CountersKept <;> infer_instance

/-- The smallest-id branch always starts with fitting counters. -/
theorem claimFits_of_smallest
    {index : Nat} {membershipList : List Id}
    (claims : network.claimOf (.electionThread index membershipList) =
      some claim) :
    ClaimFits network (.electionThread index membershipList) claim := by
  right
  simp only [claimOf] at claims
  split at claims
  · simp only [Option.ite_none_right_eq_some, Option.some.injEq] at claims
    obtain ⟨⟨_, isMin⟩, rfl⟩ := claims
    have nonempty : membershipList ≠ [] := by
      rintro rfl
      simp [minElement] at isMin
    have positive := List.length_pos_iff.mpr nonempty
    simp only [countersOf]
    omega
  · simp at claims

namespace Pending

variable {index : Nat} {request : Request Id}

/-- The node itself passes a check as the smallest one only when the claim is
assured. -/
theorem claimSmallest
    (pending : Pending claim network)
    {node : Id} {membershipList : List Id}
    (kept : CountersKept claim network
      (.electionThread index membershipList))
    (found : network.threads[index]? = some ⟨node, .spawned⟩)
    (idle : (network.candidate node).started = false)
    (isMin : minElement membershipList = some node) :
    Progress
      ((network.claimSmallest index node membershipList).candidate
        claim.node) claim.node
      ((network.claimSmallest index node membershipList).standing
        (ofThread claim.thread)) := by
  have counted : (network.claimSmallest index node membershipList
      ).standing (ofThread claim.thread) =
        network.standing (ofThread claim.thread) :=
    standing_sendToNodes (.inl (beq_false_of_ne
      (thread_ne_of_running pending.finished found (by decide))))
  rw [counted]
  refine update_preserves (fun state => Progress state claim.node _)
    pending.progress fun same => ?_
  subst same
  rcases kept _ found rfl idle isMin with installed | installing
  · left
    simpa [Candidate.Installed, Candidate.expectConfirmations] using installed
  · exact .inr (.inl installing)

/-- An election thread that asks the lower ids does not touch the counters. -/
theorem askLowerIds
    (pending : Pending claim network)
    (index : Nat) (node : Id) (membershipList : List Id) :
    Progress
      ((network.askLowerIds index node membershipList).candidate claim.node)
      claim.node
      ((network.askLowerIds index node membershipList).standing
        (ofThread claim.thread)) := by
  have counted : (network.askLowerIds index node membershipList
      ).standing (ofThread claim.thread) =
        network.standing (ofThread claim.thread) :=
    standing_sendToNodes (.inr rfl)
  rw [counted]
  refine update_preserves (fun state => Progress state claim.node _)
    pending.progress fun same => ?_
  subst same
  exact pending.progress

/-- The node handles no claim but its own. -/
theorem handleNewLeader
    (pending : Pending claim network) {leader : Id}
    (undisturbed : Undisturbed claim.node network (.handle index))
    (found : network.requests[index]? = some request)
    (isNewLeader : request.message = .newLeader leader) :
    Progress
      (Function.update network.candidate request.target
        ((network.candidate request.target).processNewLeader
          request.target leader) claim.node) claim.node
      (network.standing (ofThread claim.thread)) := by
  refine update_preserves (fun state => Progress state claim.node _)
    pending.progress fun same => ?_
  have own : leader = request.target :=
    (pending.wellFormed.claim request (List.mem_of_getElem? found)
      leader isNewLeader).trans
      ((undisturbed request found same
        (Request.isClaim_of_newLeader isNewLeader)).trans same.symm)
  rw [own, Candidate.processNewLeader_own, same]
  exact pending.progress

/-- A confirmation is counted, whether it belongs to this claim or not. -/
theorem receiveConfirm
    (pending : Pending claim network)
    (kept : CountersKept claim network (.receive index))
    (found : network.requests[index]? = some request)
    (isClaim : request.isClaim = true)
    (waiting : request.outcome = .waiting) :
    Progress
      (Function.update network.candidate request.sender
        (network.candidate request.sender).onElectionConfirmationReceive
        claim.node) claim.node
      ((network.setRequest index { request with outcome := .counted }
        ).standing (ofThread claim.thread)) := by
  have progress := pending.progress
  by_cases same : request.sender = claim.node
  · rw [update_at_sender same
      fun node => (network.candidate node).onElectionConfirmationReceive]
    rcases kept request found same isClaim with
      (installed | installing) | ⟨below, ownOrNotLast⟩
    · exact .inl installed
    · right
      left
      exact installing.trans_le
        (standing_le_setOutcome found (by rw [waiting]; decide))
    · refine progress.imp (fun installed => installed) fun confirmable => ?_
      cases isMine : ofThread claim.thread request.thread request.sender with
      | true =>
          exact confirmable_receive found waiting isMine isClaim confirmable
            (.inr below)
      | false =>
          rw [standing_setOutcome_of_foreign found (.inl isMine)]
          apply confirmable.count
          exact ownOrNotLast.resolve_left (ne_of_beq_false isMine)
  · rw [Function.update_of_ne (Ne.symm same),
      standing_setOutcome_of_foreign found
        (.inl (pending.foreign_of_sender found same))]
    exact progress

/-- A thread that has found the counters equal installs its node. -/
theorem install
    (pending : Pending claim network)
    (found : network.requests[index]? = some request) :
    Progress
      (Function.update network.candidate request.sender
        ((network.candidate request.sender).setNewLeader request.sender)
        claim.node) claim.node
      ((network.setRequest index { request with outcome := .answered }
        ).standing (ofThread claim.thread)) := by
  by_cases same : request.sender = claim.node
  · left
    rw [update_at_sender same
      fun node => (network.candidate node).setNewLeader node]
    exact (pending.wellFormed.coherent claim.node).installed_setNewLeader
      claim.node
  · rw [Function.update_of_ne (Ne.symm same),
      standing_setOutcome_of_foreign found
        (.inl (pending.foreign_of_sender found same))]
    exact pending.progress

/-- A request of the claim times out only while the others suffice. -/
theorem timeout
    (pending : Pending claim network)
    (kept : CountersKept claim network (.timeout index))
    (found : network.requests[index]? = some request)
    (waiting : request.outcome = .waiting) :
    Progress (network.candidate claim.node) claim.node
      ((network.setRequest index { request with outcome := .timedOut }
        ).standing (ofThread claim.thread)) := by
  cases waits : request.standsAt (ofThread claim.thread) .waiting with
  | true =>
      exact (kept request found waits).imp_right
        (confirmable_timeout found waiting)
  | false =>
      refine pending.progress.imp_right fun confirmable =>
        confirmable.mono fun outcome => ?_
      by_cases same : outcome = .waiting
      · rw [same]
        have balance := @standing_balance _ network (ofThread claim.thread)
          index request .waiting .timedOut found
        simp only [waits, Bool.false_eq_true, if_false] at balance
        omega
      · exact standing_le_setOutcome found
          (by rw [waiting]; exact Ne.symm same)

/-- The requests of a node that crashes belong to other claims. -/
theorem crashNode
    (pending : Pending claim network) {node : Id}
    (undisturbed : Undisturbed claim.node network (.crash node)) :
    (network.crashNode node).standing (ofThread claim.thread) =
      network.standing (ofThread claim.thread) := by
  apply standing_crashNode
  intro request present sent
  by_contra isMine
  apply undisturbed
  rw [← sent]
  exact sender_of_ofThread pending.wellFormed pending.finished present
    (by simpa using isMine)

/-- Every step that keeps the counters keeps the claim pending. -/
theorem step
    (pending : Pending claim network)
    (undisturbed : Undisturbed claim.node network action)
    (kept : CountersKept claim network action)
    (stepped : network.step action = some next) :
    Pending claim next := by
  refine
    { wellFormed := pending.wellFormed.step stepped
      finished := WellFormed.finished_stays pending.finished stepped
      progress := ?_ }
  have progress := pending.progress
  cases transition_of_step stepped with
  | start | leaderFailed | otherFailed | alreadyStarted | joinedOk =>
      exact progress
  | smallest found idle isMin =>
      exact pending.claimSmallest kept found idle isMin
  | @notSmallest index node membershipList =>
      exact pending.askLowerIds index node membershipList
  | @joinedNoOk index node membershipList found joined noOk =>
      have counted : ((network.setPhase index node .finished).sendElected
          index node membershipList).standing (ofThread claim.thread) =
            network.standing (ofThread claim.thread) :=
        standing_sendToNodes (.inl (beq_false_of_ne
          (thread_ne_of_running pending.finished found (by decide))))
      rwa [counted]
  | @handleStart index request found isStart inFlight alive =>
      change Progress _ _ ((network.setRequest index _).standing _)
      rw [standing_setDelivery found]
      exact progress
  | @handleNewLeader index request leader found isNewLeader inFlight alive =>
      change Progress _ _ ((network.setRequest index _).standing _)
      rw [standing_setDelivery found]
      exact pending.handleNewLeader undisturbed found isNewLeader
  | @receiveOk index request found isStart handled waiting =>
      change Progress _ _ ((network.setRequest index _).standing _)
      rw [standing_setOutcome_of_foreign found (.inr isStart)]
      refine update_preserves (fun state => Progress state claim.node _)
        progress fun same => ?_
      rw [same]
      exact progress
  | receiveConfirm found isNewLeader handled waiting =>
      exact pending.receiveConfirm kept found
        (Request.isClaim_of_newLeader isNewLeader) waiting
  | @testLast index request found counted last =>
      have claims := pending.wellFormed.confirming request
        (List.mem_of_getElem? found) (.inl counted)
      exact progress.imp_right (confirmable_testLast found
        (Request.isClaim_of_newLeader claims))
  | testNotLast found counted notLast =>
      exact pending.testNotLast found counted notLast
  | install found => exact pending.install found
  | timeout found waiting => exact pending.timeout kept found waiting
  | @lose index request found inFlight unwanted =>
      rw [standing_setDelivery found]
      exact progress
  | crash =>
      rw [pending.crashNode undisturbed]
      exact progress

end Pending

/-- A claim whose counters fit installs its node once all its requests have
ended, provided that no timeout and no second smallest-id branch of the node
spoils the counters meanwhile. -/
theorem installed_of_claimFits
    (nodes : Finset Id) (before after : List (Action Id))
    (network claimed final : Network Id)
    (action : Action Id) (claim : Claim Id)
    (reached : (protocol nodes).Runs (protocol nodes).initial before network)
    (claims : network.claimOf action = some claim)
    (stepped : network.step action = some claimed)
    (continued : (protocol nodes).Runs claimed after final)
    (undisturbed : (protocol nodes).Every (Undisturbed claim.node)
      claimed after)
    (ended : final.ClaimEnded claim.thread)
    (fits : ClaimFits network action claim)
    (kept : (protocol nodes).Every (CountersKept claim) claimed after) :
    (final.candidate claim.node).Installed claim.node := by
  have wellFormed : claimed.WellFormed :=
    (WellFormed.of_runs reached).step stepped
  have claimStep : ClaimStep network claimed action claim :=
    claimStep_of_step claims stepped
  have pending : Pending claim final :=
    (undisturbed.and kept).invariant continued (Pending claim)
      (fun _ _ _ pending meets step => pending.step meets.1 meets.2 step)
      (Pending.of_claimStep wellFormed claimStep fits)
  exact pending.installed ended

/-- Both of two members handle a claim, and its threads count and test the two
confirmations one after the other. -/
def bothConfirm : List (Action Nat) :=
  [.handle 0, .handle 1, .receive 0, .test 0, .receive 1, .test 1, .install 1]

/-- The first of two nodes announces itself and both confirm. -/
theorem installed_of_confirmedClaim :
    ∃ network claimed final : Network Nat,
      (protocol {1, 2}).Runs (protocol {1, 2}).initial [.start 1] network ∧
      network.step (.electionThread 0 [1, 2]) = some claimed ∧
      (protocol {1, 2}).Runs claimed bothConfirm final ∧
      (final.candidate 1).Installed 1 := by
  obtain ⟨network, reached, claims, fits, claimed, stepped, final, continued,
      undisturbed, ended, kept⟩ :
      ∃ network ∈ (protocol {1, 2}).run (protocol {1, 2}).initial [.start 1],
        network.claimOf (.electionThread 0 [1, 2]) =
          some ⟨0, 1, [1, 2]⟩ ∧
        ClaimFits network (.electionThread 0 [1, 2]) ⟨0, 1, [1, 2]⟩ ∧
        ∃ claimed ∈ network.step (.electionThread 0 [1, 2]),
        ∃ final ∈ (protocol {1, 2}).run claimed bothConfirm,
          (protocol {1, 2}).Every (Undisturbed 1) claimed bothConfirm ∧
          final.ClaimEnded 0 ∧
          (protocol {1, 2}).Every (CountersKept ⟨0, 1, [1, 2]⟩) claimed
            bothConfirm := by
    decide
  exact ⟨network, claimed, final, reached, stepped, continued,
    installed_of_claimFits {1, 2} _ _ network claimed final _ ⟨0, 1, [1, 2]⟩
      reached claims stepped continued undisturbed ended fits kept⟩

/-- The smallest node has crashed.  The request to it times out, so the second
node claims in the branch that leaves the expected count at zero. -/
def desertedElection : List (Action Nat) :=
  [.crash 1, .start 2, .electionThread 0 [1, 2], .timeout 0]

/-- A claim need not complete: after its own confirmation and the timeout for
the crashed member, node 2 still reports no leader. -/
theorem not_installed_of_claimEnded :
    ¬ ∀ (nodes : Finset Nat) (before after : List (Action Nat))
        (network claimed final : Network Nat)
        (action : Action Nat) (claim : Claim Nat),
      (protocol nodes).Runs (protocol nodes).initial before network →
        network.claimOf action = some claim →
        network.step action = some claimed →
        (protocol nodes).Runs claimed after final →
        (protocol nodes).Every (Undisturbed claim.node) claimed after →
        final.ClaimEnded claim.thread →
        (final.candidate claim.node).Installed claim.node := by
  intro completes
  obtain ⟨network, reached, claims, claimed, stepped, final, continued,
      undisturbed, ended, missing⟩ :
      ∃ network ∈ (protocol {1, 2}).run (protocol {1, 2}).initial
          desertedElection,
        network.claimOf (.joined 0 [1, 2]) = some ⟨0, 2, [1, 2]⟩ ∧
        ∃ claimed ∈ network.step (.joined 0 [1, 2]),
        ∃ final ∈ (protocol {1, 2}).run claimed
            [.handle 2, .receive 2, .test 2, .timeout 1],
          (protocol {1, 2}).Every (Undisturbed 2) claimed
            [.handle 2, .receive 2, .test 2, .timeout 1] ∧
          final.ClaimEnded 0 ∧ ¬ (final.candidate 2).Installed 2 := by
    decide
  exact missing (completes {1, 2} _ _ network claimed final _ _ reached claims
    stepped continued undisturbed ended)

end Network
end Election
end CraneSps
