import CraneSps.Election.WellFormed
import CraneSps.Foundation.ListUpdate

/-!
# Claims

A claim is one execution of `sendElected`, either in the smallest-id branch of
`electionThread`, which sets the two confirmation counters, or in the no-OK
branch of `sendElectionStart`, which leaves them as earlier rounds left them.
Its requests stay in the list of the network, so the confirmations that are
still to come can be counted.
-/

namespace CraneSps
namespace Election

variable {Id : Type}

/-- The thread, the node and the members addressed by a `sendElected`. -/
structure Claim (Id : Type) where
  thread : Nat
  node : Id
  membershipList : List Id
  deriving DecidableEq

namespace Request

/-- The request announces a new leader. -/
def isClaim (request : Request Id) : Bool :=
  match request.message with
  | .newLeader _ => true
  | .electionStart => false

theorem isClaim_of_newLeader
    {request : Request Id} {leader : Id}
    (isNewLeader : request.message = .newLeader leader) :
    request.isClaim = true := by
  simp [isClaim, isNewLeader]

theorem not_isClaim_of_start
    {request : Request Id}
    (isStart : request.message = .electionStart) :
    request.isClaim = false := by
  simp [isClaim, isStart]

theorem newLeader_of_isClaim
    {request : Request Id} (claims : request.isClaim = true) :
    ∃ leader, request.message = .newLeader leader := by
  cases message : request.message with
  | electionStart => simp [isClaim, message] at claims
  | newLeader leader => exact ⟨leader, rfl⟩

/-- A claim among the given ones whose request thread stands at the given
point. -/
def standsAt
    (mine : Nat → Id → Bool) (outcome : Outcome) (request : Request Id) :
    Bool :=
  mine request.thread request.sender && request.isClaim &&
    request.outcome == outcome

/-- A request of the given claiming thread without a processed reply. -/
def lacksReply (thread : Nat) (request : Request Id) : Bool :=
  request.thread == thread && request.isClaim && !request.outcome.replied

theorem standsAt_iff
    {mine : Nat → Id → Bool} {outcome : Outcome} {request : Request Id} :
    request.standsAt mine outcome = true ↔
      mine request.thread request.sender = true ∧ request.isClaim = true ∧
        request.outcome = outcome := by
  simp only [standsAt, Bool.and_eq_true, beq_iff_eq, and_assoc]

end Request

namespace Network

variable {nodes : Finset Id} {network next : Network Id} {action : Action Id}
variable {claim : Claim Id}

/-- The requests of one election thread. -/
def ofThread (thread : Nat) : Nat → Id → Bool :=
  fun owner _ => owner == thread

/-- The requests of one node. -/
def ofNode [DecidableEq Id] (node : Id) : Nat → Id → Bool :=
  fun _ sender => sender == node

/-- How many request threads of the given claims stand at each point. -/
def standing
    (network : Network Id) (mine : Nat → Id → Bool) (outcome : Outcome) :
    Nat :=
  network.requests.countP (Request.standsAt mine outcome)

/-- Members of a claim whose confirmation has not been counted. -/
def unansweredClaims (network : Network Id) (thread : Nat) : Nat :=
  network.requests.countP (Request.lacksReply thread)

/-- Every request thread of a claim has ended. -/
def ClaimEnded (network : Network Id) (thread : Nat) : Prop :=
  ∀ request ∈ network.requests, request.thread = thread →
    request.isClaim = true → request.outcome.running = false

instance (network : Network Id) (thread : Nat) :
    Decidable (network.ClaimEnded thread) :=
  inferInstanceAs (Decidable (∀ request ∈ network.requests, _))

/-! ## Counting requests across a step -/

/-- Only the given claims satisfy the predicate, however far they have been
delivered. -/
structure OnClaims
    (mine : Nat → Id → Bool) (holds : Request Id → Bool) : Prop where
  isMine : ∀ request, holds request = true →
    mine request.thread request.sender = true
  isClaim : ∀ request, holds request = true → request.isClaim = true
  delivered : ∀ request delivery,
    holds { request with delivery := delivery } = holds request

theorem onClaims_standsAt
    (mine : Nat → Id → Bool) (outcome : Outcome) :
    OnClaims mine (Request.standsAt mine outcome) where
  isMine := fun _ stands => (Request.standsAt_iff.mp stands).1
  isClaim := fun _ stands => (Request.standsAt_iff.mp stands).2.1
  delivered := fun _ _ => rfl

theorem onClaims_lacksReply (thread : Nat) :
    OnClaims (ofThread thread)
      (Request.lacksReply thread : Request Id → Bool) where
  isMine := by
    intro request lacks
    simp only [Request.lacksReply, Bool.and_eq_true] at lacks
    exact lacks.1.1
  isClaim := by
    intro request lacks
    simp only [Request.lacksReply, Bool.and_eq_true] at lacks
    exact lacks.1.2
  delivered := fun _ _ => rfl

namespace OnClaims

variable {mine : Nat → Id → Bool} {index : Nat} {holds : Request Id → Bool}
variable {request : Request Id}

theorem eq_false_of_start
    (onClaims : OnClaims mine holds)
    (isStart : request.message = .electionStart) :
    holds request = false := by
  by_contra counts
  have claims := onClaims.isClaim request (by simpa using counts)
  rw [Request.not_isClaim_of_start isStart] at claims
  nomatch claims

theorem eq_false_of_foreign
    (onClaims : OnClaims mine holds)
    (foreign : mine request.thread request.sender = false) :
    holds request = false := by
  by_contra counts
  have isMine := onClaims.isMine request (by simpa using counts)
  rw [foreign] at isMine
  nomatch isMine

/-- The messages of others and the `ELECTION_START`s do not count. -/
theorem sendToNodes
    (onClaims : OnClaims mine holds)
    {node : Id} {targets : List Id} {message : ElectionRequest Id}
    (foreign : mine index node = false ∨ message = .electionStart) :
    (network.sendToNodes index node targets message).requests.countP holds =
      network.requests.countP holds := by
  rw [sendToNodes_requests, List.countP_append, Nat.add_eq_left,
    List.countP_eq_zero]
  intro request present
  obtain ⟨target, _, rfl⟩ := List.mem_map.mp present
  rcases foreign with notMine | isStart
  · rw [onClaims.eq_false_of_foreign notMine]
    exact Bool.false_ne_true
  · rw [onClaims.eq_false_of_start isStart]
    exact Bool.false_ne_true

/-- A message is delivered or lost. -/
theorem setDelivery
    (onClaims : OnClaims mine holds)
    (found : network.requests[index]? = some request) (delivery : Delivery) :
    (network.setRequest index { request with delivery := delivery }
      ).requests.countP holds = network.requests.countP holds :=
  List.countP_set_of_eq holds found (onClaims.delivered request delivery)

/-- The request thread of another message moves on. -/
theorem setOutcome
    (onClaims : OnClaims mine holds)
    (found : network.requests[index]? = some request)
    (foreign : mine request.thread request.sender = false ∨
      request.message = .electionStart) (outcome : Outcome) :
    (network.setRequest index { request with outcome := outcome }
      ).requests.countP holds = network.requests.countP holds := by
  apply List.countP_set_of_eq holds found
  rcases foreign with notMine | isStart
  · have updated : holds { request with outcome := outcome } = false :=
      onClaims.eq_false_of_foreign notMine
    rw [updated, onClaims.eq_false_of_foreign notMine]
  · have updated : holds { request with outcome := outcome } = false :=
      onClaims.eq_false_of_start isStart
    rw [updated, onClaims.eq_false_of_start isStart]

end OnClaims

/-! ## Where the request threads stand -/

section Standing

variable {mine : Nat → Id → Bool} {index : Nat} {request : Request Id}
variable {outcome moved : Outcome}

theorem standing_sendToNodes
    {node : Id} {targets : List Id} {message : ElectionRequest Id}
    (foreign : mine index node = false ∨ message = .electionStart) :
    (network.sendToNodes index node targets message).standing mine =
      network.standing mine := by
  funext outcome
  exact (onClaims_standsAt mine outcome).sendToNodes foreign

theorem standing_le_append
    {sent : List (Request Id)}
    (sends : next.requests = network.requests ++ sent) (outcome : Outcome) :
    network.standing mine outcome ≤ next.standing mine outcome := by
  rw [standing, standing, sends, List.countP_append]
  exact Nat.le_add_right _ _

/-- All requests of a new claim wait for their replies. -/
theorem length_le_standing
    {thread : Nat} {node : Id} {membershipList : List Id}
    (sends : next.requests = network.requests ++
      membershipList.map (freshRequest thread node (.newLeader node)))
    (isMine : mine thread node = true) :
    membershipList.length ≤ next.standing mine .waiting := by
  have all : (membershipList.map (freshRequest thread node
      (.newLeader node))).countP (Request.standsAt mine .waiting) =
        membershipList.length := by
    rw [List.countP_map, List.countP_eq_length.mpr]
    intro target _
    exact Request.standsAt_iff.mpr ⟨isMine, rfl, rfl⟩
  rw [standing, sends, List.countP_append, all]
  exact Nat.le_add_left _ _

theorem standing_setDelivery
    (found : network.requests[index]? = some request) (delivery : Delivery) :
    (network.setRequest index { request with delivery := delivery }
      ).standing mine = network.standing mine := by
  funext outcome
  exact (onClaims_standsAt mine outcome).setDelivery found delivery

theorem standing_setOutcome_of_foreign
    (found : network.requests[index]? = some request)
    (foreign : mine request.thread request.sender = false ∨
      request.message = .electionStart) :
    (network.setRequest index { request with outcome := moved }
      ).standing mine = network.standing mine := by
  funext outcome
  exact (onClaims_standsAt mine outcome).setOutcome found foreign moved

/-- A point that the request thread neither leaves nor reaches. -/
theorem standing_setOutcome_of_ne
    (found : network.requests[index]? = some request)
    (before : request.outcome ≠ outcome) (after : moved ≠ outcome) :
    (network.setRequest index { request with outcome := moved }
      ).standing mine outcome = network.standing mine outcome := by
  apply List.countP_set_of_eq (Request.standsAt mine outcome) found
  simp only [Request.standsAt, beq_false_of_ne before,
    beq_false_of_ne after, Bool.and_false]

/-- What the move of a request thread changes at a point. -/
theorem standing_balance
    (found : network.requests[index]? = some request) :
    (network.setRequest index { request with outcome := moved }
      ).standing mine outcome +
        (if request.standsAt mine outcome then 1 else 0) =
      network.standing mine outcome +
        (if Request.standsAt mine outcome { request with outcome := moved }
          then 1 else 0) :=
  List.countP_set_balance (Request.standsAt mine outcome) found

/-- A point at which the request thread did not stand. -/
theorem standing_le_setOutcome
    (found : network.requests[index]? = some request)
    (before : request.outcome ≠ outcome) :
    network.standing mine outcome ≤
      (network.setRequest index { request with outcome := moved }
        ).standing mine outcome := by
  have uncounted : request.standsAt mine outcome = false := by
    simp only [Request.standsAt, beq_false_of_ne before, Bool.and_false]
  have balance := @standing_balance _ network mine index request outcome
    moved found
  simp only [uncounted, Bool.false_eq_true, if_false] at balance
  omega

/-- A point that the request thread does not reach. -/
theorem standing_setOutcome_le
    (found : network.requests[index]? = some request)
    (after : moved ≠ outcome) :
    (network.setRequest index { request with outcome := moved }
      ).standing mine outcome ≤ network.standing mine outcome := by
  have uncounted : Request.standsAt mine outcome
      { request with outcome := moved } = false := by
    simp only [Request.standsAt, beq_false_of_ne after, Bool.and_false]
  have balance := @standing_balance _ network mine index request outcome
    moved found
  simp only [uncounted, Bool.false_eq_true, if_false] at balance
  omega

/-- The point that a request thread leaves. -/
theorem standing_le_leave
    (found : network.requests[index]? = some request)
    (leaves : moved ≠ outcome) :
    network.standing mine outcome - 1 ≤
      (network.setRequest index { request with outcome := moved }
        ).standing mine outcome := by
  have gone : Request.standsAt mine outcome
      { request with outcome := moved } = false := by
    simp only [Request.standsAt, beq_false_of_ne leaves, Bool.and_false]
  have balance := @standing_balance _ network mine index request outcome
    moved found
  rw [gone] at balance
  split at balance <;> simp at balance <;> omega

/-- The point that the request thread of one of the claims reaches. -/
theorem standing_reach
    (found : network.requests[index]? = some request)
    (isMine : mine request.thread request.sender = true)
    (isClaim : request.isClaim = true) :
    0 < (network.setRequest index { request with outcome := moved }
      ).standing mine moved := by
  have bound := (List.getElem?_eq_some_iff.mp found).1
  apply List.countP_pos_iff.mpr
  exact ⟨_, List.mem_set bound _,
    Request.standsAt_iff.mpr ⟨isMine, isClaim, rfl⟩⟩

/-- A thread is running if it stands where threads run. -/
theorem exists_of_standing_pos
    (positive : 0 < network.standing mine outcome) :
    ∃ request ∈ network.requests,
      mine request.thread request.sender = true ∧
        request.isClaim = true ∧ request.outcome = outcome := by
  obtain ⟨request, present, stands⟩ := List.countP_pos_iff.mp positive
  exact ⟨request, present, Request.standsAt_iff.mp stands⟩

end Standing

/-- A thread that is still running is not the one of a claim. -/
theorem thread_ne_of_running
    {thread position : Nat} {node owner : Id} {phase : Phase}
    (finished : network.threads[thread]? = some ⟨node, .finished⟩)
    (found : network.threads[position]? = some ⟨owner, phase⟩)
    (running : phase ≠ .finished) :
    position ≠ thread := by
  rintro rfl
  rw [finished] at found
  exact running
    (congrArg ElectionThread.phase (Option.some.inj found)).symm

/-- The requests of a claim that has been sent come from its node. -/
theorem sender_of_ofThread
    (wellFormed : network.WellFormed)
    {thread : Nat} {node : Id} {phase : Phase} {request : Request Id}
    (owned : network.threads[thread]? = some ⟨node, phase⟩)
    (present : request ∈ network.requests)
    (isMine : ofThread thread request.thread request.sender = true) :
    request.sender = node := by
  obtain rfl : request.thread = thread := by simpa [ofThread] using isMine
  exact wellFormed.sender_of_thread present owned

/-- The expected and the received count with which a claim starts: only the
smallest-id branch assigns them. -/
def countersOf (network : Network Id) (claim : Claim Id) :
    Action Id → Nat × Nat
  | .electionThread _ _ => (claim.membershipList.length, 0)
  | _ =>
      ((network.candidate claim.node).exptectedConfirmationCount,
        (network.candidate claim.node).receivedConfirmationCount)

/-- What a claiming step does. -/
structure ClaimStep
    (network next : Network Id) (action : Action Id) (claim : Claim Id) :
    Prop where
  running : ∃ phase, phase ≠ .finished ∧
    network.threads[claim.thread]? = some ⟨claim.node, phase⟩
  finished : next.threads[claim.thread]? = some ⟨claim.node, .finished⟩
  requests : next.requests = network.requests ++
    claim.membershipList.map (freshRequest claim.thread claim.node
      (.newLeader claim.node))
  expected : (next.candidate claim.node).exptectedConfirmationCount =
    (network.countersOf claim action).1
  received : (next.candidate claim.node).receivedConfirmationCount =
    (network.countersOf claim action).2
  installed : (network.candidate claim.node).Installed claim.node →
    (next.candidate claim.node).Installed claim.node
  others : ∀ node, node ≠ claim.node →
    next.candidate node = network.candidate node

variable [LinearOrder Id]

/-- A crash of another node changes no count that its own requests do not
enter. -/
theorem countP_crashNode
    (holds : Request Id → Bool) {node : Id}
    (unaffected : ∀ request ∈ network.requests, request.sender = node →
      holds { request with outcome := request.outcome.ended } =
        holds request) :
    (network.crashNode node).requests.countP holds =
      network.requests.countP holds := by
  simp only [crashNode]
  rw [List.countP_map]
  apply List.countP_congr
  intro request present
  simp only [Function.comp_apply]
  split
  · next sent => rw [unaffected request present sent]
  · rfl

theorem standing_crashNode
    {mine : Nat → Id → Bool} {node : Id}
    (foreign : ∀ request ∈ network.requests, request.sender = node →
      mine request.thread request.sender = false) :
    (network.crashNode node).standing mine = network.standing mine := by
  funext outcome
  apply countP_crashNode
  intro request present sent
  simp only [Request.standsAt, foreign request present sent, Bool.false_and]

/-- A crash leaves no further thread where threads run. -/
theorem standing_crashNode_le
    {mine : Nat → Id → Bool} (node : Id) {outcome : Outcome}
    (running : outcome.running = true) :
    (network.crashNode node).standing mine outcome ≤
      network.standing mine outcome := by
  simp only [standing, crashNode, List.countP_map]
  apply List.countP_mono_left
  intro request _
  simp only [Function.comp_apply]
  split
  · intro stands
    obtain ⟨_, _, isOutcome⟩ := Request.standsAt_iff.mp stands
    have ended := Outcome.running_ended request.outcome
    rw [show request.outcome.ended = outcome from isOutcome, running] at ended
    cases ended
  · exact fun stands => stands

/-- The sender of a request changes its election state. -/
theorem update_at_sender
    {request : Request Id} {node : Id} (same : request.sender = node)
    (effect : Id → Candidate Id) :
    Function.update network.candidate request.sender
      (effect request.sender) node = effect node := by
  rw [same, Function.update_self]

/-- The claim an action makes, if it reaches `sendElected`. -/
def claimOf (network : Network Id) : Action Id → Option (Claim Id)
  | .electionThread index membershipList =>
      match network.threads[index]? with
      | some ⟨node, .spawned⟩ =>
          if (network.candidate node).started = false ∧
              minElement membershipList = some node then
            some ⟨index, node, membershipList⟩
          else none
      | _ => none
  | .joined index membershipList =>
      match network.threads[index]? with
      | some ⟨node, .joining⟩ =>
          if network.Joined index ∧
              (network.candidate node).okReceived = false then
            some ⟨index, node, membershipList⟩
          else none
      | _ => none
  | _ => none

/-- A claiming step, read off the transitions. -/
theorem claimStep_of_step
    (claims : network.claimOf action = some claim)
    (stepped : network.step action = some next) :
    ClaimStep network next action claim := by
  cases transition_of_step stepped with
  | @smallest index node membershipList found idle isMin =>
      simp only [claimOf, found, idle, isMin, and_self, if_true,
        Option.some.injEq] at claims
      subst claims
      exact
        { running := ⟨.spawned, by decide, found⟩
          finished := setPhase_lookup_self found
          requests := rfl
          expected := by
            simp [claimSmallest, sendElected, countersOf,
              Candidate.expectConfirmations]
          received := by
            simp [claimSmallest, sendElected, countersOf,
              Candidate.expectConfirmations]
          installed := by
            intro installed
            simpa [claimSmallest, sendElected, Candidate.Installed,
              Candidate.expectConfirmations] using installed
          others := by
            intro other different
            simp [claimSmallest, sendElected, different] }
  | @joinedNoOk index node membershipList found joined noOk =>
      simp only [claimOf, found, joined, noOk, and_self, if_true,
        Option.some.injEq] at claims
      subst claims
      exact
        { running := ⟨.joining, by decide, found⟩
          finished := setPhase_lookup_self found
          requests := rfl
          expected := rfl
          received := rfl
          installed := fun installed => installed
          others := fun _ _ => rfl }
  | alreadyStarted found started =>
      simp [claimOf, found, started] at claims
  | notSmallest found idle nonempty notMin =>
      simp [claimOf, found, notMin] at claims
  | joinedOk found joined ok => simp [claimOf, found, ok] at claims
  | start | leaderFailed | otherFailed | handleStart | handleNewLeader
  | receiveOk | receiveConfirm | testLast | testNotLast | install | timeout
  | lose | crash =>
      simp [claimOf] at claims

end Network
end Election
end CraneSps
