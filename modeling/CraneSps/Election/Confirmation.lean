import CraneSps.Election.Claim

/-!
# What an installation confirms

Confirmations carry no round number, so the handler that finds the counts
equal cannot tell to which claim they belong.  If the replies to all earlier
claims have been processed or given up when a claim is made, and the counters
do not let it complete early, then the node installs itself only after every
member the claim was sent to has handled it.
-/

namespace CraneSps
namespace Election
namespace Network

variable {Id : Type} {nodes : Finset Id}
variable {network next : Network Id} {action : Action Id}
variable {claim : Claim Id}

/-- Every member of the claim has processed its `NEW_LEADER` message. -/
def ProcessedByAll (network : Network Id) (claim : Claim Id) : Prop :=
  ∀ target ∈ claim.membershipList, ∃ request ∈ network.requests,
    request.thread = claim.thread ∧ request.isClaim = true ∧
      request.target = target ∧ request.delivery = .handled

/-- The handler of a confirmation calls `setNewLeader` with the node's own
id. -/
def Installs (network : Network Id) (node : Id) : Action Id → Prop
  | .install index => ∃ request ∈ network.requests[index]?,
      request.sender = node
  | _ => False

instance [DecidableEq Id] (network : Network Id) (claim : Claim Id) :
    Decidable (network.ProcessedByAll claim) :=
  inferInstanceAs (Decidable (∀ target ∈ claim.membershipList, _))

instance [DecidableEq Id]
    (network : Network Id) (node : Id) (action : Action Id) :
    Decidable (network.Installs node action) := by
  rcases action <;> unfold Installs <;> infer_instance

/-- The counters cannot meet before all the given requests have been
answered. -/
def NotEarly (expected received unanswered : Nat) : Prop :=
  expected ≤ received ∨ received + unanswered ≤ expected

instance (expected received unanswered : Nat) :
    Decidable (NotEarly expected received unanswered) := by
  unfold NotEarly
  infer_instance

/-- The threads of all earlier claims of the node have ended, and the counters
the claim starts with cannot meet early. -/
def FreshCounters
    (network : Network Id) (action : Action Id) (claim : Claim Id) : Prop :=
  (∀ request ∈ network.requests, request.sender = claim.node →
      request.isClaim = true → request.outcome.running = false) ∧
    NotEarly (network.countersOf claim action).1
      (network.countersOf claim action).2 claim.membershipList.length

instance [DecidableEq Id]
    (network : Network Id) (action : Action Id) (claim : Claim Id) :
    Decidable (FreshCounters network action claim) := by
  unfold FreshCounters
  infer_instance

/-- The requests of a claim as long as it is the last one of its node. -/
structure Current (claim : Claim Id) (network : Network Id) : Prop where
  running : ∀ request ∈ network.requests, request.sender = claim.node →
    request.isClaim = true → request.outcome.running = true →
      request.thread = claim.thread
  covers : ∀ target ∈ claim.membershipList, ∃ request ∈ network.requests,
    request.thread = claim.thread ∧ request.isClaim = true ∧
      request.target = target

namespace Current

/-- Only the requests matter. -/
theorem of_requests
    (current : Current claim network)
    (same : next.requests = network.requests) :
    Current claim next where
  running := same ▸ current.running
  covers := same ▸ current.covers

/-- A request makes progress. -/
theorem setRequest
    (current : Current claim network)
    {index : Nat} {request updated : Request Id}
    (found : network.requests[index]? = some request)
    (replaced : next.requests = network.requests.set index updated)
    (sameThread : updated.thread = request.thread)
    (sameSender : updated.sender = request.sender)
    (sameTarget : updated.target = request.target)
    (sameMessage : updated.message = request.message)
    (stillRuns : updated.outcome.running = true →
      request.outcome.running = true) :
    Current claim next := by
  have sameKind : updated.isClaim = request.isClaim := by
    simp only [Request.isClaim, sameMessage]
  refine { running := ?_, covers := ?_ }
  · intro entry present sent claims runs
    rw [replaced] at present
    rcases List.mem_or_eq_of_mem_set present with old | rfl
    · exact current.running entry old sent claims runs
    · rw [sameThread]
      exact current.running request (List.mem_of_getElem? found)
        (sameSender ▸ sent) (sameKind ▸ claims) (stillRuns runs)
  · intro target isMember
    obtain ⟨entry, present, ofThread, claims, toTarget⟩ :=
      current.covers target isMember
    rw [replaced]
    by_cases same : entry = request
    · subst same
      have bound := (List.getElem?_eq_some_iff.mp found).1
      exact ⟨updated, List.mem_set bound updated, sameThread.trans ofThread,
        sameKind.trans claims, sameTarget.trans toTarget⟩
    · exact ⟨entry, List.mem_set_of_ne present found same, ofThread, claims,
        toTarget⟩

/-- Requests are sent that are no claims of this node. -/
theorem sendToNodes
    (current : Current claim network)
    {index : Nat} {node : Id} {targets : List Id}
    {message : ElectionRequest Id}
    (foreign : node = claim.node → message = .electionStart)
    (sends : next.requests = network.requests ++
      targets.map (freshRequest index node message)) :
    Current claim next := by
  refine { running := ?_, covers := ?_ }
  · intro request present sent claims runs
    rw [sends, List.mem_append, List.mem_map] at present
    rcases present with old | ⟨target, _, rfl⟩
    · exact current.running request old sent claims runs
    · rw [Request.not_isClaim_of_start (foreign sent)] at claims
      nomatch claims
  · intro target isMember
    obtain ⟨request, present, rest⟩ := current.covers target isMember
    rw [sends]
    exact ⟨request, List.mem_append_left _ present, rest⟩

/-- A node crashes. -/
theorem crashNode
    [LinearOrder Id]
    (current : Current claim network) (node : Id) :
    Current claim (network.crashNode node) := by
  refine { running := ?_, covers := ?_ }
  · intro request present sent claims runs
    obtain ⟨old, isMember, rfl | ⟨_, rfl⟩⟩ :=
      WellFormed.mem_crashNode_requests present
    · exact current.running request isMember sent claims runs
    · have ended := Outcome.running_ended old.outcome
      nomatch runs.symm.trans ended
  · intro target isMember
    obtain ⟨request, present, ofThread, claims, toTarget⟩ :=
      current.covers target isMember
    refine ⟨_, List.mem_map_of_mem present, ?_⟩
    split <;> exact ⟨ofThread, claims, toTarget⟩

end Current

/-! ## Counting the members that have not confirmed -/

section Answering

variable {thread index : Nat} {request : Request Id} {moved : Outcome}

/-- A request of the claim whose reply arrives is no longer counted. -/
theorem unansweredClaims_reply
    (found : network.requests[index]? = some request)
    (ofThread : request.thread = thread)
    (isClaim : request.isClaim = true)
    (waiting : request.outcome = .waiting) :
    (network.setRequest index { request with outcome := .counted }
      ).unansweredClaims thread + 1 = network.unansweredClaims thread := by
  have lacks : request.lacksReply thread = true := by
    simp [Request.lacksReply, ofThread, isClaim, waiting, Outcome.replied]
  have replied : Request.lacksReply thread
      { request with outcome := .counted } = false := by
    simp [Request.lacksReply, Outcome.replied]
  have balance : (network.requests.set index
      { request with outcome := .counted }).countP
        (Request.lacksReply thread) +
      (if request.lacksReply thread then 1 else 0) =
        network.requests.countP (Request.lacksReply thread) +
          (if Request.lacksReply thread { request with outcome := .counted }
            then 1 else 0) :=
    List.countP_set_balance (Request.lacksReply thread) found
  rw [lacks, replied] at balance
  exact balance

/-- A thread moves on whose reply was there before or still is not. -/
theorem unansweredClaims_of_replied
    (found : network.requests[index]? = some request)
    (same : moved.replied = request.outcome.replied) :
    (network.setRequest index { request with outcome := moved }
      ).unansweredClaims thread = network.unansweredClaims thread := by
  apply List.countP_set_of_eq (Request.lacksReply thread) found
  simp only [Request.lacksReply, same]
  rfl

end Answering

/-- No thread tests equal counters before all these requests have been
answered, and none has done so. -/
structure TestsLate
    (candidate : Candidate Id) (threads : Outcome → Nat) (unanswered : Nat) :
    Prop where
  counters : candidate.exptectedConfirmationCount <
      candidate.receivedConfirmationCount ∨
    (candidate.exptectedConfirmationCount =
        candidate.receivedConfirmationCount ∧ threads .counted = 0) ∨
      candidate.receivedConfirmationCount + unanswered ≤
        candidate.exptectedConfirmationCount
  installing : 0 < threads .installing → unanswered = 0

namespace TestsLate

variable {candidate : Candidate Id} {before after : Outcome → Nat}
variable {unanswered : Nat}

/-- Only the counters of the node matter. -/
theorem of_counters
    {other : Candidate Id} (testsLate : TestsLate candidate before unanswered)
    (sameExpected : other.exptectedConfirmationCount =
      candidate.exptectedConfirmationCount)
    (sameReceived : other.receivedConfirmationCount =
      candidate.receivedConfirmationCount) :
    TestsLate other before unanswered where
  counters := by
    rw [sameExpected, sameReceived]
    exact testsLate.counters
  installing := testsLate.installing

/-- Threads that leave do no harm. -/
theorem mono
    (testsLate : TestsLate candidate before unanswered)
    (counted : after .counted ≤ before .counted)
    (installing : after .installing ≤ before .installing) :
    TestsLate candidate after unanswered where
  counters := by
    rcases testsLate.counters with passed | ⟨equal, none⟩ | enough
    · exact .inl passed
    · exact .inr (.inl ⟨equal, by omega⟩)
    · exact .inr (.inr enough)
  installing := fun positive => testsLate.installing (by omega)

/-- One of the requests is answered and counted. -/
theorem reply
    (testsLate : TestsLate candidate before (unanswered + 1))
    (installing : after .installing ≤ before .installing) :
    TestsLate candidate.onElectionConfirmationReceive after unanswered where
  counters := by
    simp only [Candidate.onElectionConfirmationReceive]
    rcases testsLate.counters with passed | ⟨equal, none⟩ | enough <;> omega
  installing := fun positive => by
    have impossible := testsLate.installing (by omega)
    omega

/-- A thread that tests equal counters does so after all replies. -/
theorem noneLeft
    (testsLate : TestsLate candidate before unanswered)
    (counted : 0 < before .counted)
    (last : candidate.exptectedConfirmationCount =
      candidate.receivedConfirmationCount) :
    unanswered = 0 := by
  rcases testsLate.counters with passed | ⟨_, none⟩ | enough <;> omega

end TestsLate

/-- The tests of the claim's node come late. -/
def Late (claim : Claim Id) (network : Network Id) : Prop :=
  TestsLate (network.candidate claim.node)
    (network.standing (ofThread claim.thread))
    (network.unansweredClaims claim.thread)

namespace Late

/-- Nothing that counts has changed. -/
theorem of_same
    (late : Late claim network)
    (candidate : TestsLate (network.candidate claim.node)
        (network.standing (ofThread claim.thread))
        (network.unansweredClaims claim.thread) →
      TestsLate (next.candidate claim.node)
        (network.standing (ofThread claim.thread))
        (network.unansweredClaims claim.thread))
    (sameStanding : next.standing (ofThread claim.thread) =
      network.standing (ofThread claim.thread))
    (sameCount : next.unansweredClaims claim.thread =
      network.unansweredClaims claim.thread) :
    Late claim next := by
  rw [Late, sameStanding, sameCount]
  exact candidate late

variable {index : Nat} {request : Request Id}

theorem setDelivery
    (late : Late claim network)
    (found : network.requests[index]? = some request) (delivery : Delivery) :
    Late claim
      (network.setRequest index { request with delivery := delivery }) :=
  late.of_same (fun same => same) (standing_setDelivery found delivery)
    ((onClaims_lacksReply claim.thread).setDelivery found delivery)

/-- A thread moves on that neither counts nor installs. -/
theorem setOutcome
    (late : Late claim network)
    (found : network.requests[index]? = some request) {moved : Outcome}
    (same : moved.replied = request.outcome.replied)
    (notCounted : moved ≠ .counted) (notInstalling : moved ≠ .installing) :
    Late claim
      (network.setRequest index { request with outcome := moved }) := by
  rw [Late, unansweredClaims_of_replied found same]
  exact TestsLate.mono late (standing_setOutcome_le found notCounted)
    (standing_setOutcome_le found notInstalling)

/-- The thread of another message moves on. -/
theorem setOutcome_of_foreign
    (late : Late claim network)
    (found : network.requests[index]? = some request)
    (foreign : ofThread claim.thread request.thread request.sender = false ∨
      request.message = .electionStart) (moved : Outcome) :
    Late claim
      (network.setRequest index { request with outcome := moved }) :=
  late.of_same (fun same => same) (standing_setOutcome_of_foreign found foreign)
    ((onClaims_lacksReply claim.thread).setOutcome found foreign moved)

theorem sendToNodes
    (late : Late claim network)
    {node : Id} {targets : List Id} {message : ElectionRequest Id}
    (foreign : ofThread claim.thread index node = false ∨
      message = .electionStart) :
    Late claim (network.sendToNodes index node targets message) :=
  late.of_same (fun same => same) (standing_sendToNodes foreign)
    ((onClaims_lacksReply claim.thread).sendToNodes foreign)

end Late

/-- The state of a claim until the next claim of its node. -/
structure Counted (claim : Claim Id) (network : Network Id) : Prop where
  wellFormed : network.WellFormed
  finished : network.threads[claim.thread]? = some ⟨claim.node, .finished⟩
  current : Current claim network
  late : Late claim network

/-- A thread that has not returned has claimed nothing yet. -/
theorem countP_of_running
    (wellFormed : network.WellFormed)
    {thread : Nat} {node : Id} {phase : Phase}
    (running : phase ≠ .finished)
    (found : network.threads[thread]? = some ⟨node, phase⟩)
    {holds : Request Id → Bool} (onClaims : OnClaims (ofThread thread) holds) :
    network.requests.countP holds = 0 := by
  apply List.countP_eq_zero.mpr
  intro request present counts
  obtain ⟨leader, isNewLeader⟩ :=
    Request.newLeader_of_isClaim (onClaims.isClaim request counts)
  have returned := wellFormed.returned request present leader isNewLeader
  obtain rfl : request.thread = thread := by
    simpa [ofThread] using onClaims.isMine request counts
  rw [found] at returned
  exact running (congrArg ElectionThread.phase (Option.some.inj returned))

namespace Counted

/-- A claim with fresh counters starts out counted. -/
theorem of_claimStep
    (before : network.WellFormed) (after : next.WellFormed)
    (claimStep : ClaimStep network next action claim)
    (fresh : FreshCounters network action claim) :
    Counted claim next := by
  obtain ⟨phase, running, found⟩ := claimStep.running
  have noneAt : ∀ outcome : Outcome, outcome ≠ .waiting →
      next.standing (ofThread claim.thread) outcome = 0 := by
    intro outcome notWaiting
    have noneSent : (claim.membershipList.map (freshRequest claim.thread
        claim.node (.newLeader claim.node))).countP
          (Request.standsAt (ofThread claim.thread) outcome) = 0 := by
      rw [List.countP_map, List.countP_eq_zero]
      intro target _ stands
      exact notWaiting (Request.standsAt_iff.mp stands).2.2.symm
    rw [standing, claimStep.requests, List.countP_append, noneSent,
      countP_of_running before running found (onClaims_standsAt _ _)]
  refine
    { wellFormed := after
      finished := claimStep.finished
      current := { running := ?_, covers := ?_ }
      late := { counters := ?_, installing := ?_ } }
  · intro request present sent claims runs
    rw [claimStep.requests, List.mem_append, List.mem_map] at present
    rcases present with old | ⟨target, _, rfl⟩
    · have ended := runs.symm.trans (fresh.1 request old sent claims)
      cases ended
    · rfl
  · intro target isMember
    refine ⟨freshRequest claim.thread claim.node (.newLeader claim.node)
      target, ?_, rfl, rfl, rfl⟩
    rw [claimStep.requests]
    exact List.mem_append_right _ (List.mem_map_of_mem isMember)
  · have sent : next.unansweredClaims claim.thread =
        claim.membershipList.length := by
      have all : (claim.membershipList.map (freshRequest claim.thread
          claim.node (.newLeader claim.node))).countP
            (Request.lacksReply claim.thread) =
          claim.membershipList.length := by
        rw [List.countP_map, List.countP_eq_length.mpr]
        intro target _
        simp [Request.lacksReply, freshRequest, Request.isClaim,
          Outcome.replied]
      rw [unansweredClaims, claimStep.requests, List.countP_append, all,
        countP_of_running before running found (onClaims_lacksReply _),
        Nat.zero_add]
    rw [claimStep.expected, claimStep.received, sent,
      noneAt .counted (by decide)]
    have notEarly := fresh.2
    unfold NotEarly at notEarly
    omega
  · rw [noneAt .installing (by decide)]
    exact fun positive => absurd positive (lt_irrefl 0)

/-- Equal counters are tested after the last reply. -/
theorem testLast
    (counted : Counted claim network)
    {index : Nat} {request : Request Id}
    (found : network.requests[index]? = some request)
    (isCounted : request.outcome = .counted)
    (last : (network.candidate request.sender).exptectedConfirmationCount =
      (network.candidate request.sender).receivedConfirmationCount) :
    Late claim
      (network.setRequest index { request with outcome := .installing }) := by
  have present := List.mem_of_getElem? found
  have late := counted.late
  cases isMine : ofThread claim.thread request.thread request.sender with
  | false => exact late.setOutcome_of_foreign found (.inl isMine) .installing
  | true =>
      have sent : request.sender = claim.node :=
        sender_of_ofThread counted.wellFormed counted.finished present isMine
      have claims := Request.isClaim_of_newLeader
        (counted.wellFormed.confirming request present (.inl isCounted))
      have some : 0 < network.standing (ofThread claim.thread) .counted :=
        List.countP_pos_iff.mpr ⟨request, present,
          Request.standsAt_iff.mpr ⟨isMine, claims, isCounted⟩⟩
      rw [sent] at last
      have none := late.noneLeft some last
      have sameCount : (network.setRequest index
          { request with outcome := .installing }).unansweredClaims
            claim.thread = network.unansweredClaims claim.thread :=
        unansweredClaims_of_replied found (by rw [isCounted]; rfl)
      rw [Late, sameCount]
      refine { counters := .inr (.inr ?_), installing := fun _ => none }
      rw [none, Nat.add_zero]
      exact last.ge

end Counted

variable [LinearOrder Id]

/-- A node changes its election state without touching the counters of the
claim's node. -/
theorem Late.setCandidate
    (late : Late claim network) {node : Id} {candidate : Candidate Id}
    (sameExpected : node = claim.node →
      candidate.exptectedConfirmationCount =
        (network.candidate node).exptectedConfirmationCount)
    (sameReceived : node = claim.node →
      candidate.receivedConfirmationCount =
        (network.candidate node).receivedConfirmationCount) :
    Late claim (network.setCandidate node candidate) :=
  update_preserves (fun state => TestsLate state _ _) late fun same => by
    subst same
    exact TestsLate.of_counters late (sameExpected rfl) (sameReceived rfl)

namespace Counted

variable {index : Nat} {request : Request Id}

/-- A confirmation of this node belongs to the claim. -/
theorem receiveConfirm
    (counted : Counted claim network)
    (found : network.requests[index]? = some request)
    (isClaim : request.isClaim = true)
    (waiting : request.outcome = .waiting) :
    Late claim ((network.setRequest index { request with outcome := .counted }
      ).setCandidate request.sender
        (network.candidate request.sender).onElectionConfirmationReceive) := by
  have present := List.mem_of_getElem? found
  have late := counted.late
  by_cases same : request.sender = claim.node
  · have ofClaim : request.thread = claim.thread :=
      counted.current.running request present same isClaim
        (by rw [waiting]; rfl)
    rw [Late, ← unansweredClaims_reply found ofClaim isClaim waiting] at late
    rw [Late, setCandidate_candidate, setRequest_candidate,
      update_at_sender same
        fun node => (network.candidate node).onElectionConfirmationReceive]
    exact late.reply (standing_setOutcome_le found (by decide))
  · have foreign : ofThread claim.thread request.thread request.sender =
        false := by
      by_contra isMine
      exact same (sender_of_ofThread counted.wellFormed counted.finished
        present (by simpa using isMine))
    refine Late.setCandidate ?_ (fun isNode => absurd isNode same)
      fun isNode => absurd isNode same
    exact late.setOutcome_of_foreign found (.inl foreign) .counted

/-- Every step other than a further claim of the node keeps the claim
counted. -/
theorem step
    (counted : Counted claim network)
    (noFurther : ∀ later ∈ network.claimOf action, later.node ≠ claim.node)
    (stepped : network.step action = some next) :
    Counted claim next := by
  have current := counted.current
  have late := counted.late
  suffices kept : Current claim next ∧ Late claim next from
    { wellFormed := counted.wellFormed.step stepped
      finished := WellFormed.finished_stays counted.finished stepped
      current := kept.1
      late := kept.2 }
  cases transition_of_step stepped with
  | start | leaderFailed | otherFailed | alreadyStarted | joinedOk =>
      exact ⟨current.of_requests rfl, late⟩
  | @smallest index node membershipList found idle isMin =>
      have different : node ≠ claim.node := by
        apply noFurther ⟨index, node, membershipList⟩
        simp [claimOf, found, idle, isMin]
      have foreign : index ≠ claim.thread :=
        thread_ne_of_running counted.finished found (by decide)
      refine ⟨current.sendToNodes (fun same => absurd same different) rfl, ?_⟩
      refine Late.sendToNodes ?_ (.inl (beq_false_of_ne foreign))
      exact late.setCandidate (fun same => absurd same different)
        fun same => absurd same different
  | @notSmallest index node membershipList =>
      refine ⟨current.sendToNodes (fun _ => rfl) rfl, ?_⟩
      refine Late.sendToNodes ?_ (.inr rfl)
      exact late.setCandidate (fun _ => rfl) fun _ => rfl
  | @joinedNoOk index node membershipList found joined noOk =>
      have different : node ≠ claim.node := by
        apply noFurther ⟨index, node, membershipList⟩
        simp [claimOf, found, joined, noOk]
      have foreign : index ≠ claim.thread :=
        thread_ne_of_running counted.finished found (by decide)
      refine ⟨current.sendToNodes (fun same => absurd same different) rfl, ?_⟩
      refine Late.sendToNodes ?_ (.inl (beq_false_of_ne foreign))
      exact late
  | @handleStart index request found isStart inFlight alive =>
      exact ⟨current.setRequest found rfl rfl rfl rfl rfl id,
        late.setDelivery found .handled⟩
  | @handleNewLeader index request leader found isNewLeader inFlight alive =>
      refine ⟨current.setRequest found rfl rfl rfl rfl rfl id, ?_⟩
      exact (late.setDelivery found .handled).setCandidate (by simp) (by simp)
  | @receiveOk index request found isStart handled waiting =>
      refine ⟨current.setRequest found rfl rfl rfl rfl rfl
        fun runs => absurd runs Bool.false_ne_true, ?_⟩
      refine Late.setCandidate ?_ (fun _ => rfl) fun _ => rfl
      exact late.setOutcome_of_foreign found (.inr isStart) .answered
  | @receiveConfirm index request leader found isNewLeader handled waiting =>
      refine ⟨current.setRequest found rfl rfl rfl rfl rfl fun _ => ?_, ?_⟩
      · rw [waiting]
        rfl
      · exact counted.receiveConfirm found
          (Request.isClaim_of_newLeader isNewLeader) waiting
  | @testLast index request found isCounted last =>
      refine ⟨current.setRequest found rfl rfl rfl rfl rfl fun _ => ?_,
        counted.testLast found isCounted last⟩
      rw [isCounted]
      rfl
  | @testNotLast index request found isCounted notLast =>
      refine ⟨current.setRequest found rfl rfl rfl rfl rfl
        fun runs => absurd runs Bool.false_ne_true, ?_⟩
      exact late.setOutcome found (by rw [isCounted]; rfl) (by decide)
        (by decide)
  | @install index request found installing =>
      refine ⟨current.setRequest found rfl rfl rfl rfl rfl
        fun runs => absurd runs Bool.false_ne_true, ?_⟩
      refine Late.setCandidate ?_ (by simp) (by simp)
      exact late.setOutcome found (by rw [installing]; rfl) (by decide)
        (by decide)
  | @timeout index request found waiting =>
      refine ⟨current.setRequest found rfl rfl rfl rfl rfl
        fun runs => absurd runs Bool.false_ne_true, ?_⟩
      exact late.setOutcome found (by rw [waiting]; rfl) (by decide)
        (by decide)
  | @lose index request found inFlight unwanted =>
      exact ⟨current.setRequest found rfl rfl rfl rfl rfl id,
        late.setDelivery found .lost⟩
  | @crash node alive =>
      refine ⟨current.crashNode node, ?_⟩
      have sameCount : (network.crashNode node).unansweredClaims
          claim.thread = network.unansweredClaims claim.thread := by
        apply countP_crashNode
        intro request present sent
        simp only [Request.lacksReply, Outcome.replied_ended]
        rfl
      rw [Late, sameCount]
      exact TestsLate.mono late (standing_crashNode_le node rfl)
        (standing_crashNode_le node rfl)

/-- The node installs itself only after the last reply to the claim. -/
theorem processedByAll
    (counted : Counted claim network)
    (installs : network.Installs claim.node action)
    (stepped : network.step action = some next) :
    network.ProcessedByAll claim := by
  cases transition_of_step stepped with
  | @install index request found installing =>
      obtain ⟨same, isThis, sent⟩ := installs
      obtain rfl := Option.some.inj (found.symm.trans isThis)
      have present := List.mem_of_getElem? found
      have claims := Request.isClaim_of_newLeader
        (counted.wellFormed.confirming request present (.inr installing))
      have ofClaim : request.thread = claim.thread :=
        counted.current.running request present sent claims
          (by rw [installing]; rfl)
      have noneLeft : network.unansweredClaims claim.thread = 0 := by
        apply counted.late.installing
        exact List.countP_pos_iff.mpr ⟨request, present,
          Request.standsAt_iff.mpr ⟨by simp [ofThread, ofClaim], claims,
            installing⟩⟩
      intro target isMember
      obtain ⟨entry, isEntry, ofThread, isClaim, toTarget⟩ :=
        counted.current.covers target isMember
      refine ⟨entry, isEntry, ofThread, isClaim, toTarget, ?_⟩
      have answered := List.countP_eq_zero.mp noneLeft entry isEntry
      have replied : entry.outcome.replied = true := by
        simpa [Request.lacksReply, ofThread, isClaim] using answered
      exact counted.wellFormed.acknowledged entry isEntry replied
  | _ => exact installs.elim

end Counted

/-- A claim that starts with fresh counters installs its node only when every
member it was sent to has handled it. -/
theorem processedByAll_of_freshCounters
    (nodes : Finset Id) (before after : List (Action Id))
    (network claimed current installed : Network Id)
    (action install : Action Id) (claim : Claim Id)
    (reached : (protocol nodes).Runs (protocol nodes).initial before network)
    (claims : network.claimOf action = some claim)
    (stepped : network.step action = some claimed)
    (continued : (protocol nodes).Runs claimed after current)
    (noFurther : (protocol nodes).Every
      (fun state later => ∀ further ∈ state.claimOf later,
        further.node ≠ claim.node) claimed after)
    (installs : current.Installs claim.node install)
    (installStep : current.step install = some installed)
    (fresh : FreshCounters network action claim) :
    current.ProcessedByAll claim := by
  have wellFormed : network.WellFormed := WellFormed.of_runs reached
  have claimStep : ClaimStep network claimed action claim :=
    claimStep_of_step claims stepped
  have counted : Counted claim current :=
    noFurther.invariant continued (Counted claim)
      (fun _ _ _ before noClaim step => before.step noClaim step)
      (Counted.of_claimStep wellFormed (wellFormed.step stepped) claimStep
        fresh)
  exact counted.processedByAll installs installStep

/-- The claim of the first of two nodes is confirmed by both. -/
theorem processedByAll_of_confirmedClaim :
    ∃ network claimed current installed : Network Nat,
      (protocol {1, 2}).Runs (protocol {1, 2}).initial [.start 1] network ∧
      network.step (.electionThread 0 [1, 2]) = some claimed ∧
      (protocol {1, 2}).Runs claimed
        [.handle 0, .handle 1, .receive 1, .receive 0, .test 1] current ∧
      current.step (.install 1) = some installed ∧
      current.ProcessedByAll ⟨0, 1, [1, 2]⟩ := by
  obtain ⟨network, reached, claims, fresh, claimed, stepped, current,
      continued, noFurther, installs, installed, installStep, _⟩ :
      ∃ network ∈ (protocol {1, 2}).run (protocol {1, 2}).initial [.start 1],
        network.claimOf (.electionThread 0 [1, 2]) =
          some ⟨0, 1, [1, 2]⟩ ∧
        FreshCounters network (.electionThread 0 [1, 2]) ⟨0, 1, [1, 2]⟩ ∧
        ∃ claimed ∈ network.step (.electionThread 0 [1, 2]),
        ∃ current ∈ (protocol {1, 2}).run claimed
            [.handle 0, .handle 1, .receive 1, .receive 0, .test 1],
          (protocol {1, 2}).Every (fun state later =>
            ∀ further ∈ state.claimOf later, further.node ≠ 1) claimed
              [.handle 0, .handle 1, .receive 1, .receive 0, .test 1] ∧
          current.Installs 1 (.install 1) ∧
          ∃ installed ∈ current.step (.install 1), True := by
    decide
  exact ⟨network, claimed, current, installed, reached, stepped, continued,
    installStep,
    processedByAll_of_freshCounters {1, 2} _ _ network claimed current
      installed _ _ ⟨0, 1, [1, 2]⟩ reached claims stepped continued noFurther
      installs installStep fresh⟩

/-- Node 2 claims for the members 2 and 3, of which 3 has crashed, so that one
of two confirmations is counted.  Node 1 takes over and crashes, and node 2
starts a round in which nobody answers. -/
def leftoverConfirmation : List (Action Nat) :=
  [.start 2, .electionThread 0 [2, 3], .crash 3, .handle 0, .receive 0,
    .test 0, .timeout 1, .start 1, .electionThread 1 [1, 2], .handle 3,
    .crash 1, .nodeFail 2 1, .electionThread 2 [1, 2, 4], .timeout 4]

/-- An installation need not be confirmed by all: the count left over from the
first claim lets node 2 install itself on its own confirmation, before member
4 has handled the claim. -/
theorem not_processedByAll_of_installs :
    ¬ ∀ (nodes : Finset Nat) (before after : List (Action Nat))
        (network claimed current installed : Network Nat)
        (action install : Action Nat) (claim : Claim Nat),
      (protocol nodes).Runs (protocol nodes).initial before network →
        network.claimOf action = some claim →
        network.step action = some claimed →
        (protocol nodes).Runs claimed after current →
        (protocol nodes).Every (fun state later =>
          ∀ further ∈ state.claimOf later, further.node ≠ claim.node)
            claimed after →
        current.Installs claim.node install →
        current.step install = some installed →
        current.ProcessedByAll claim := by
  intro full
  obtain ⟨network, reached, claims, claimed, stepped, current, continued,
      noFurther, installs, missing, installed, installStep, _⟩ :
      ∃ network ∈ (protocol {1, 2, 3, 4}).run (protocol {1, 2, 3, 4}).initial
          leftoverConfirmation,
        network.claimOf (.joined 2 [2, 4]) = some ⟨2, 2, [2, 4]⟩ ∧
        ∃ claimed ∈ network.step (.joined 2 [2, 4]),
        ∃ current ∈ (protocol {1, 2, 3, 4}).run claimed
            [.handle 5, .receive 5, .test 5],
          (protocol {1, 2, 3, 4}).Every (fun state later =>
            ∀ further ∈ state.claimOf later, further.node ≠ 2) claimed
              [.handle 5, .receive 5, .test 5] ∧
          current.Installs 2 (.install 5) ∧
          ¬ current.ProcessedByAll ⟨2, 2, [2, 4]⟩ ∧
          ∃ installed ∈ current.step (.install 5), True := by
    decide
  exact missing (full {1, 2, 3, 4} _ _ network claimed current installed _ _ _
    reached claims stepped continued noFurther installs installStep)

end Network
end Election
end CraneSps
