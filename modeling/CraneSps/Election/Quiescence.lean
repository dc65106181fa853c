import CraneSps.Election.Counters
import Mathlib.Data.Finset.Max

/-!
# Rounds that end

`started` is set by an election thread and cleared only by `setNewLeader`, so
a node is free for its next round only if some `NEW_LEADER` message or its own
confirmations reach it.  The invariant of this module names what a started
node can still hope for: confirmations of its own claim, a claim of another
node under way to it, or the least live node, which has been asked or is about
to run an election thread.  A step that takes the last of these away blocks
the node for good.
-/

namespace CraneSps
namespace Election

variable {Id : Type}

/-- The request announces another node to the given one. -/
def Request.Announces (node : Id) (request : Request Id) : Prop :=
  request.target = node ∧ request.sender ≠ node ∧ request.isClaim = true

/-- The request of one node asks another one to start an election. -/
def Request.Asks (node least : Id) (request : Request Id) : Prop :=
  request.sender = node ∧ request.target = least ∧
    request.message = .electionStart

namespace Network

variable {network next : Network Id}

/-! ## Messages under way -/

/-- A message of the given kind has been sent and not been handled. -/
def UnderWay (network : Network Id) (kind : Request Id → Prop) : Prop :=
  ∃ request ∈ network.requests, request.delivery = .inFlight ∧ kind request

instance (network : Network Id) (kind : Request Id → Prop)
    [DecidablePred kind] : Decidable (network.UnderWay kind) :=
  inferInstanceAs (Decidable (∃ request ∈ network.requests, _))

namespace UnderWay

variable {kind : Request Id → Prop}

theorem append
    (underWay : network.UnderWay kind) {sent : List (Request Id)}
    (sends : next.requests = network.requests ++ sent) :
    next.UnderWay kind := by
  obtain ⟨request, present, rest⟩ := underWay
  refine ⟨request, ?_, rest⟩
  rw [sends]
  exact List.mem_append_left _ present

/-- Sending a message puts it under way. -/
theorem of_send
    {index : Nat} {node target : Id} {targets : List Id}
    {message : ElectionRequest Id}
    (sends : next.requests = network.requests ++
      targets.map (freshRequest index node message))
    (isTarget : target ∈ targets)
    (isKind : kind (freshRequest index node message target)) :
    next.UnderWay kind := by
  refine ⟨freshRequest index node message target, ?_, rfl, isKind⟩
  rw [sends]
  exact List.mem_append_right _ (List.mem_map_of_mem isTarget)

/-- Another message is handled or lost. -/
theorem set_of_not
    (underWay : network.UnderWay kind)
    {index : Nat} {request updated : Request Id}
    (found : network.requests[index]? = some request)
    (replaced : next.requests = network.requests.set index updated)
    (other : request.delivery = .inFlight → ¬ kind request) :
    next.UnderWay kind := by
  obtain ⟨entry, present, inFlight, isKind⟩ := underWay
  have different : entry ≠ request := by
    rintro rfl
    exact other inFlight isKind
  refine ⟨entry, ?_, inFlight, isKind⟩
  rw [replaced]
  exact List.mem_set_of_ne present found different

/-- The request thread of a message ends while the message stays. -/
theorem set_outcome
    (underWay : network.UnderWay kind)
    {index : Nat} {request updated : Request Id}
    (found : network.requests[index]? = some request)
    (replaced : next.requests = network.requests.set index updated)
    (sameDelivery : updated.delivery = request.delivery)
    (sameKind : kind request → kind updated) :
    next.UnderWay kind := by
  obtain ⟨entry, present, inFlight, isKind⟩ := underWay
  by_cases same : entry = request
  · subst same
    have bound := (List.getElem?_eq_some_iff.mp found).1
    refine ⟨updated, ?_, sameDelivery.trans inFlight, sameKind isKind⟩
    rw [replaced]
    exact List.mem_set bound updated
  · refine ⟨entry, ?_, inFlight, isKind⟩
    rw [replaced]
    exact List.mem_set_of_ne present found same

/-- A crash stops no message. -/
theorem crashNode
    [LinearOrder Id]
    (underWay : network.UnderWay kind) (node : Id)
    (sameKind : ∀ request, kind request →
      kind { request with outcome := request.outcome.ended }) :
    (network.crashNode node).UnderWay kind := by
  obtain ⟨request, present, inFlight, isKind⟩ := underWay
  refine ⟨_, List.mem_map_of_mem present, ?_⟩
  split
  · exact ⟨inFlight, sameKind request isKind⟩
  · exact ⟨inFlight, isKind⟩

end UnderWay

/-- A running thread stays when another one moves on. -/
theorem mem_threads_of_set
    {index : Nat} {thread old updated : ElectionThread Id}
    (present : thread ∈ network.threads)
    (found : network.threads[index]? = some old)
    (different : thread ≠ old)
    (replaced : next.threads = network.threads.set index updated) :
    thread ∈ next.threads := by
  rw [replaced]
  exact List.mem_set_of_ne present found different

variable [LinearOrder Id]

/-! ## What a started node can hope for -/

/-- The least live node. -/
def Least (network : Network Id) (node : Id) : Prop :=
  node ∈ network.live ∧ ∀ other ∈ network.live, node ≤ other

instance (network : Network Id) (node : Id) :
    Decidable (network.Least node) := by
  unfold Least
  infer_instance

theorem Least.unique
    {first second : Id}
    (isFirst : network.Least first) (isSecond : network.Least second) :
    first = second :=
  le_antisymm (isFirst.2 second isSecond.1) (isSecond.2 first isFirst.1)

theorem exists_least
    {node : Id} (isLive : node ∈ network.live) :
    ∃ least, network.Least least := by
  have nonempty : network.live.Nonempty := ⟨node, isLive⟩
  exact ⟨network.live.min' nonempty, network.live.min'_mem nonempty,
    fun other isOther => network.live.min'_le other isOther⟩

/-- The least node stays the least one when another node crashes. -/
theorem Least.of_crashNode
    {node least : Id} (isLeast : (network.crashNode node).Least least)
    (notLeast : ¬ network.Least node) :
    network.Least least := by
  have leastLive := (Finset.mem_erase.mp isLeast.1).2
  have others : ∀ other ∈ network.live, other ≠ node → least ≤ other :=
    fun other isOther different =>
      isLeast.2 other (Finset.mem_erase.mpr ⟨different, isOther⟩)
  refine ⟨leastLive, fun other isOther => ?_⟩
  by_cases same : other = node
  · subst same
    by_contra above
    apply notLeast
    refine ⟨isOther, fun third isThird => ?_⟩
    by_cases isSame : third = other
    · exact isSame ▸ le_refl third
    · exact (le_of_not_ge above).trans (others third isThird isSame)
  · exact others other isOther same

/-- The node's own claim can still complete, or a claim of another node is
under way to it. -/
def Covered (network : Network Id) (node : Id) : Prop :=
  (network.candidate node).Confirmable (network.standing (ofNode node)) ∨
    network.UnderWay (Request.Announces node)

instance (node : Id) : DecidablePred (Request.Announces node) := by
  intro request
  unfold Request.Announces
  infer_instance

instance (node least : Id) : DecidablePred (Request.Asks node least) := by
  intro request
  unfold Request.Asks
  infer_instance

instance (network : Network Id) (node : Id) :
    Decidable (network.Covered node) := by
  unfold Covered
  infer_instance

/-- The node is covered, or the least node has been asked by it or is about to
run an election thread. -/
def Promised (network : Network Id) (least node : Id) : Prop :=
  network.Covered node ∨
    (node ≠ least ∧
      (network.UnderWay (Request.Asks node least) ∨
        ⟨least, .spawned⟩ ∈ network.threads))

/-- Every started live node is promised the end of its round. -/
structure Hopeful (network : Network Id) : Prop where
  wellFormed : network.WellFormed
  promised : ∀ least, network.Least least → ∀ node ∈ network.live,
    (network.candidate node).started = true → network.Promised least node

/-- No thread is left to run and no message is under way. -/
structure Quiet (network : Network Id) : Prop where
  threads : ∀ thread ∈ network.threads, thread.phase = .finished
  ended : ∀ request ∈ network.requests, request.outcome.running = false
  delivered : ∀ request ∈ network.requests, request.delivery ≠ .inFlight

instance (network : Network Id) : Decidable network.Quiet :=
  decidable_of_iff
    ((∀ thread ∈ network.threads, thread.phase = .finished) ∧
      (∀ request ∈ network.requests, request.outcome.running = false) ∧
        ∀ request ∈ network.requests, request.delivery ≠ .inFlight)
    ⟨fun ⟨threads, ended, delivered⟩ => ⟨threads, ended, delivered⟩,
      fun quiet => ⟨quiet.threads, quiet.ended, quiet.delivered⟩⟩

/-- A thread that finds `started` set at the least node returns only while
all other started nodes are covered. -/
def ReturnsOrderly (network : Network Id) (node : Id) : Prop :=
  network.Least node → ∀ other ∈ network.live, other ≠ node →
    (network.candidate other).started = true → network.Covered other

/-- The least node claims to all started nodes; any other node either is the
smallest of its list or asks the least one. -/
def PassesOrderly
    (network : Network Id) (node : Id) (membershipList : List Id) : Prop :=
  if network.Least node then
    minElement membershipList = some node ∧
      ∀ other ∈ network.live, (network.candidate other).started = true →
        other ∈ membershipList
  else
    minElement membershipList = some node ∨
      ∃ least ∈ membershipList, network.Least least

/-- A confirmation that the node still needs does not time out. -/
def TimesOutOrderly (network : Network Id) (node : Id) : Prop :=
  (network.candidate node).started = true →
    (network.candidate node).Confirmable (network.standing (ofNode node)) →
      (network.candidate node).Confirmable
          (oneFewer (network.standing (ofNode node))) ∨
        network.UnderWay (Request.Announces node)

/-- No confirmation is counted between the last one that a started node
expects and its test. -/
def CountsOrderly (network : Network Id) (node : Id) : Prop :=
  (network.candidate node).started = true →
    (network.candidate node).exptectedConfirmationCount =
        (network.candidate node).receivedConfirmationCount →
      0 < network.standing (ofNode node) .counted →
        0 < network.standing (ofNode node) .installing ∨
          network.UnderWay (Request.Announces node)

/-- The least node crashes only if no election has been asked of it. -/
def CrashesOrderly (network : Network Id) (node : Id) : Prop :=
  network.Least node →
    ⟨node, .spawned⟩ ∉ network.threads ∧
      ∀ other ∈ network.live, ¬ network.UnderWay (Request.Asks other node)

instance (network : Network Id) (node : Id) :
    Decidable (network.ReturnsOrderly node) := by
  unfold ReturnsOrderly
  infer_instance

instance (network : Network Id) (node : Id) (membershipList : List Id) :
    Decidable (network.PassesOrderly node membershipList) := by
  unfold PassesOrderly
  infer_instance

instance (network : Network Id) (node : Id) :
    Decidable (network.TimesOutOrderly node) := by
  unfold TimesOutOrderly
  infer_instance

instance (network : Network Id) (node : Id) :
    Decidable (network.CountsOrderly node) := by
  unfold CountsOrderly
  infer_instance

instance (network : Network Id) (node : Id) :
    Decidable (network.CrashesOrderly node) := by
  unfold CrashesOrderly
  infer_instance

/-- The steps after which every started node still has something to hope
for. -/
def Orderly (network : Network Id) : Action Id → Prop
  | .electionThread index membershipList =>
      ∀ entry ∈ network.threads[index]?,
        if (network.candidate entry.node).started = true then
          network.ReturnsOrderly entry.node
        else network.PassesOrderly entry.node membershipList
  | .lose index => ∀ request ∈ network.requests[index]?,
      request.target ∉ network.live
  | .receive index => ∀ request ∈ network.requests[index]?,
      request.isClaim = true → network.CountsOrderly request.sender
  | .timeout index => ∀ request ∈ network.requests[index]?,
      request.isClaim = true → network.TimesOutOrderly request.sender
  | .crash node => network.CrashesOrderly node
  | _ => True

instance (network : Network Id) (action : Action Id) :
    Decidable (Orderly network action) := by
  rcases action <;> unfold Orderly <;> infer_instance

/-! ## Keeping the promises -/

/-- Messages are sent, and the node keeps its election state. -/
theorem Covered.append
    {node : Id} (covered : network.Covered node)
    (sameCandidate : next.candidate node = network.candidate node)
    {sent : List (Request Id)}
    (sends : next.requests = network.requests ++ sent) :
    next.Covered node := by
  rcases covered with confirmable | announced
  · left
    rw [sameCandidate]
    exact confirmable.mono (standing_le_append sends)
  · exact .inr (announced.append sends)

/-- Messages are sent and threads move on, and the node keeps its election
state. -/
theorem Promised.append
    {least node : Id} (promised : network.Promised least node)
    (sameCandidate : next.candidate node = network.candidate node)
    {sent : List (Request Id)}
    (sends : next.requests = network.requests ++ sent)
    (spawned : node ≠ least → ⟨least, .spawned⟩ ∈ network.threads →
      next.Covered node ∨ ⟨least, .spawned⟩ ∈ next.threads) :
    next.Promised least node := by
  rcases promised with covered | ⟨different, asked | isSpawned⟩
  · exact .inl (covered.append sameCandidate sends)
  · exact .inr ⟨different, .inl (asked.append sends)⟩
  · rcases spawned different isSpawned with covered | stays
    · exact .inl covered
    · exact .inr ⟨different, .inr stays⟩

/-- A message changes its state, and the threads stay. -/
theorem Promised.set
    {least node : Id} (promised : network.Promised least node)
    (sameThreads : next.threads = network.threads)
    (confirmable : (network.candidate node).Confirmable
      (network.standing (ofNode node)) → next.Covered node)
    (announced : network.UnderWay (Request.Announces node) →
      next.UnderWay (Request.Announces node))
    (asked : network.UnderWay (Request.Asks node least) →
      next.UnderWay (Request.Asks node least)) :
    next.Promised least node := by
  rcases promised with (confirms | announces) | ⟨different, asks | spawned⟩
  · exact .inl (confirmable confirms)
  · exact .inl (.inr (announced announces))
  · exact .inr ⟨different, .inl (asked asks)⟩
  · exact .inr ⟨different, .inr (sameThreads ▸ spawned)⟩

namespace Hopeful

theorem initial (nodes : Finset Id) : Hopeful (Network.initial nodes) where
  wellFormed := WellFormed.initial
  promised := by
    intro least isLeast node isLive started
    nomatch started

/-- Nothing can be hoped for in a quiet group, so nobody is started. -/
theorem not_started_of_quiet
    (hopeful : network.Hopeful) (quiet : network.Quiet)
    {node : Id} (isLive : node ∈ network.live) :
    (network.candidate node).started = false := by
  by_contra isStarted
  have started : (network.candidate node).started = true := by
    simpa using isStarted
  obtain ⟨least, isLeast⟩ := exists_least isLive
  rcases hopeful.promised least isLeast node isLive started with
    (confirmable | ⟨request, present, inFlight, _⟩) |
      ⟨_, ⟨request, present, inFlight, _⟩ | spawned⟩
  · obtain ⟨outcome, running, positive⟩ := confirmable.exists_running
    obtain ⟨request, present, _, _, isOutcome⟩ :=
      exists_of_standing_pos positive
    have ended := quiet.ended request present
    rw [isOutcome, running] at ended
    nomatch ended
  · exact quiet.delivered request present inFlight
  · exact quiet.delivered request present inFlight
  · nomatch quiet.threads _ spawned

/-- A thread passes its check at the smallest node of its list. -/
theorem claimSmallest
    (hopeful : network.Hopeful)
    {index : Nat} {node : Id} {membershipList : List Id}
    (found : network.threads[index]? = some ⟨node, .spawned⟩)
    (isMin : minElement membershipList = some node)
    (passes : network.PassesOrderly node membershipList)
    {least : Id} (isLeast : network.Least least)
    {other : Id} (isLive : other ∈ network.live)
    (started : ((network.claimSmallest index node membershipList).candidate
      other).started = true) :
    (network.claimSmallest index node membershipList).Promised least
      other := by
  have sends : (network.claimSmallest index node membershipList).requests =
      network.requests ++ membershipList.map
        (freshRequest index node (.newLeader node)) := rfl
  by_cases same : other = node
  · subst same
    have isMember : other ∈ membershipList :=
      (List.min?_eq_some_iff.mp isMin).1
    have sent : membershipList.length ≤ (network.claimSmallest index other
        membershipList).standing (ofNode other) .waiting :=
      length_le_standing sends (beq_self_eq_true other)
    have positive := List.length_pos_of_mem isMember
    left
    left
    right
    right
    simp only [Network.claimSmallest, sendElected,
      sendToNodes_candidate, setPhase_candidate, setCandidate_candidate,
      Function.update_self, Candidate.expectConfirmations]
    exact ⟨positive, by simpa [Network.claimSmallest, sendElected,
      Candidate.expectConfirmations] using sent⟩
  · have unchanged : (network.claimSmallest index node membershipList
        ).candidate other = network.candidate other :=
      Function.update_of_ne same _ _
    rw [unchanged] at started
    apply (hopeful.promised least isLeast other isLive started).append
      unchanged sends
    intro different spawned
    by_cases isNode : least = node
    · subst isNode
      have listed : other ∈ membershipList := by
        rw [PassesOrderly, if_pos isLeast] at passes
        exact passes.2 other isLive started
      left
      right
      exact UnderWay.of_send sends listed
        ⟨rfl, Ne.symm same, rfl⟩
    · right
      apply mem_threads_of_set spawned found ?_ rfl
      intro isSame
      exact isNode (congrArg ElectionThread.node isSame)

/-- A thread passes its check at a node that asks the least one. -/
theorem askLowerIds
    (hopeful : network.Hopeful)
    {index : Nat} {node : Id} {membershipList : List Id}
    (found : network.threads[index]? = some ⟨node, .spawned⟩)
    (notMin : minElement membershipList ≠ some node)
    (passes : network.PassesOrderly node membershipList)
    {least : Id} (isLeast : network.Least least)
    {other : Id} (isLive : other ∈ network.live)
    (started : ((network.askLowerIds index node membershipList).candidate
      other).started = true) :
    (network.askLowerIds index node membershipList).Promised least other := by
  have sends : (network.askLowerIds index node membershipList).requests =
      network.requests ++ (lowerIds membershipList node).map
        (freshRequest index node .electionStart) := rfl
  have notLeast : ¬ network.Least node := by
    intro isNode
    rw [PassesOrderly, if_pos isNode] at passes
    exact notMin passes.1
  rw [PassesOrderly, if_neg notLeast] at passes
  obtain ⟨asked, listed, isAsked⟩ := passes.resolve_left notMin
  obtain rfl : asked = least := isAsked.unique isLeast
  have different : node ≠ asked := by
    rintro rfl
    exact notLeast isLeast
  by_cases same : other = node
  · subst same
    have lower : asked ∈ lowerIds membershipList other := by
      simpa [lowerIds, listed] using
        lt_of_le_of_ne (isLeast.2 other isLive) different.symm
    exact .inr ⟨different, .inl (UnderWay.of_send sends lower
      ⟨rfl, rfl, rfl⟩)⟩
  · have unchanged : (network.askLowerIds index node membershipList
        ).candidate other = network.candidate other :=
      Function.update_of_ne same _ _
    rw [unchanged] at started
    apply (hopeful.promised asked isLeast other isLive started).append
      unchanged sends
    intro _ spawned
    right
    apply mem_threads_of_set spawned found ?_ rfl
    intro isSame
    exact different (congrArg ElectionThread.node isSame).symm

/-- A thread returns at its check. -/
theorem alreadyStarted
    (hopeful : network.Hopeful)
    {index : Nat} {node : Id}
    (found : network.threads[index]? = some ⟨node, .spawned⟩)
    (returns : network.ReturnsOrderly node)
    {least : Id} (isLeast : network.Least least)
    {other : Id} (isLive : other ∈ network.live)
    (started : (network.candidate other).started = true) :
    (network.setPhase index node .finished).Promised least other := by
  refine (hopeful.promised least isLeast other isLive started).append rfl
    (List.append_nil _).symm ?_
  intro different spawned
  by_cases isNode : least = node
  · subst isNode
    left
    exact returns isLeast other isLive different started
  · right
    apply mem_threads_of_set spawned found ?_ rfl
    intro isSame
    exact isNode (congrArg ElectionThread.node isSame)

/-- A node crashes. -/
theorem crashNode
    (hopeful : network.Hopeful) {node : Id}
    (crashes : network.CrashesOrderly node)
    {least : Id} (isLeast : (network.crashNode node).Least least)
    {other : Id} (isLive : other ∈ (network.crashNode node).live)
    (started : (network.candidate other).started = true) :
    (network.crashNode node).Promised least other := by
  obtain ⟨isOther, wasLive⟩ := Finset.mem_erase.mp isLive
  obtain ⟨leastStays, leastLive⟩ := Finset.mem_erase.mp isLeast.1
  have sameCount : (network.crashNode node).standing (ofNode other) =
      network.standing (ofNode other) := by
    apply standing_crashNode
    intro request present sent
    rw [sent]
    exact beq_false_of_ne (Ne.symm isOther)
  have covered : network.Covered other →
      (network.crashNode node).Covered other := by
    rintro (confirmable | announced)
    · left
      rw [sameCount]
      exact confirmable
    · exact .inr (announced.crashNode node fun request announces => announces)
  by_cases wasLeast : network.Least node
  · obtain ⟨noThread, noRequest⟩ := crashes wasLeast
    rcases hopeful.promised node wasLeast other wasLive started with
      isCovered | ⟨_, asked | spawned⟩
    · exact .inl (covered isCovered)
    · exact absurd asked (noRequest other wasLive)
    · exact absurd spawned noThread
  · have wasFirst := isLeast.of_crashNode wasLeast
    rcases hopeful.promised least wasFirst other wasLive started with
      isCovered | ⟨different, asked | spawned⟩
    · exact .inl (covered isCovered)
    · exact .inr ⟨different, .inl
        (asked.crashNode node fun request asks => asks)⟩
    · refine .inr ⟨different, .inr ?_⟩
      refine List.mem_map.mpr ⟨_, spawned, ?_⟩
      rw [if_neg leastStays]

/-- An `ELECTION_START` is handled: what was asked of the least node is now a
thread of it. -/
theorem handleStart
    (hopeful : network.Hopeful)
    {index : Nat} {request : Request Id}
    (found : network.requests[index]? = some request)
    (isStart : request.message = .electionStart)
    {least : Id} (isLeast : network.Least least)
    {node : Id} (isLive : node ∈ network.live)
    (started : (network.candidate node).started = true) :
    ((network.setRequest index { request with delivery := .handled }
      ).startElection request.target).Promised least node := by
  have notClaim := Request.not_isClaim_of_start isStart
  rcases hopeful.promised least isLeast node isLive started with
    (confirmable | announced) | ⟨different, asked | spawned⟩
  · left
    left
    change Candidate.Confirmable _ ((network.setRequest index _).standing _)
    rw [standing_setDelivery found]
    exact confirmable
  · left
    right
    refine announced.set_of_not found rfl fun _ announces => ?_
    rw [announces.2.2] at notClaim
    nomatch notClaim
  · right
    by_cases asks : Request.Asks node least request
    · refine ⟨different, .inr (List.mem_append_right _ ?_)⟩
      rw [asks.2.1]
      exact List.mem_singleton_self _
    · exact ⟨different, .inl (asked.set_of_not found rfl fun _ => asks)⟩
  · exact .inr ⟨different, .inr (List.mem_append_left _ spawned)⟩

/-- A `NEW_LEADER` is handled: it clears the flag of its target, unless that
is its sender. -/
theorem handleNewLeader
    (hopeful : network.Hopeful)
    {index : Nat} {request : Request Id} {leader : Id}
    (found : network.requests[index]? = some request)
    (isNewLeader : request.message = .newLeader leader)
    {least : Id} (isLeast : network.Least least)
    {node : Id} (isLive : node ∈ network.live)
    (started : (((network.setRequest index
      { request with delivery := .handled }).setCandidate request.target
        ((network.candidate request.target).processNewLeader request.target
          leader)).candidate node).started = true) :
    ((network.setRequest index { request with delivery := .handled }
      ).setCandidate request.target
        ((network.candidate request.target).processNewLeader request.target
          leader)).Promised least node := by
  have isSender : leader = request.sender :=
    hopeful.wellFormed.claim request (List.mem_of_getElem? found) leader
      isNewLeader
  have unchanged : Function.update network.candidate request.target
      ((network.candidate request.target).processNewLeader request.target
        leader) node = network.candidate node := by
    by_cases same : request.target = node
    · subst same
      by_cases own : leader = request.target
      · rw [own, Candidate.processNewLeader_own, Function.update_eq_self]
      · simp [Candidate.processNewLeader_of_ne _ own] at started
    · exact Function.update_of_ne (Ne.symm same) _ _
  have notAnnounced : ¬ Request.Announces node request := by
    rintro ⟨rfl, foreign, _⟩
    have cleared := started
    rw [setCandidate_candidate, Function.update_self,
      Candidate.processNewLeader_of_ne _ (isSender ▸ foreign),
      Candidate.setNewLeader_started] at cleared
    nomatch cleared
  have before : (network.candidate node).started = true := by
    rw [← unchanged]
    exact started
  refine (hopeful.promised least isLeast node isLive before).set rfl ?_ ?_ ?_
  · intro confirmable
    left
    change Candidate.Confirmable (Function.update network.candidate _ _ node)
      ((network.setRequest index _).standing _)
    rw [standing_setDelivery found, unchanged]
    exact confirmable
  · intro announced
    exact announced.set_of_not found rfl fun _ => notAnnounced
  · intro asked
    refine asked.set_of_not found rfl fun _ asks => ?_
    nomatch isNewLeader.symm.trans asks.2.2

/-- A request thread moves on, and its node may change its election state.
Nothing that is under way is touched. -/
theorem move
    (hopeful : network.Hopeful)
    {index : Nat} {request : Request Id} {candidate : Candidate Id}
    {moved : Outcome}
    (found : network.requests[index]? = some request)
    {least : Id} (isLeast : network.Least least)
    {node : Id} (isLive : node ∈ network.live)
    (started : ((network.setCandidate request.sender candidate).candidate
      node).started = true)
    (atSender : request.sender = node → candidate.started = true →
      (network.candidate node).started = true ∧
        ((network.candidate node).Confirmable
            (network.standing (ofNode node)) →
          candidate.Confirmable
              ((network.setRequest index { request with outcome := moved }
                ).standing (ofNode node)) ∨
            network.UnderWay (Request.Announces node))) :
    ((network.setRequest index { request with outcome := moved }
      ).setCandidate request.sender candidate).Promised least node := by
  have announces : network.UnderWay (Request.Announces node) →
      ((network.setRequest index { request with outcome := moved }
        ).setCandidate request.sender candidate).UnderWay
          (Request.Announces node) := fun announced =>
    announced.set_outcome found rfl rfl fun isKind => isKind
  have asks : network.UnderWay (Request.Asks node least) →
      ((network.setRequest index { request with outcome := moved }
        ).setCandidate request.sender candidate).UnderWay
          (Request.Asks node least) := fun asked =>
    asked.set_outcome found rfl rfl fun isKind => isKind
  by_cases same : request.sender = node
  · subst same
    rw [setCandidate_candidate, Function.update_self] at started
    obtain ⟨before, confirmable⟩ := atSender rfl started
    refine (hopeful.promised least isLeast _ isLive before).set rfl
      (fun confirms => ?_) announces asks
    rcases confirmable confirms with remains | announced
    · left
      rw [setCandidate_candidate, Function.update_self]
      exact remains
    · exact .inr (announces announced)
  · rw [setCandidate_candidate, Function.update_of_ne (Ne.symm same)]
      at started
    refine (hopeful.promised least isLeast _ isLive started).set rfl
      (fun confirms => .inl ?_) announces asks
    change Candidate.Confirmable (Function.update network.candidate _ _ node)
      ((network.setRequest index _).standing _)
    rw [Function.update_of_ne (Ne.symm same),
      standing_setOutcome_of_foreign found (.inl (beq_false_of_ne same))]
    exact confirms

/-- A request thread moves on and leaves the election state as it is. -/
theorem moveOn
    (hopeful : network.Hopeful)
    {index : Nat} {request : Request Id} {moved : Outcome}
    (found : network.requests[index]? = some request)
    {least : Id} (isLeast : network.Least least)
    {node : Id} (isLive : node ∈ network.live)
    (started : (network.candidate node).started = true)
    (confirmable : request.sender = node →
      (network.candidate node).Confirmable
          (network.standing (ofNode node)) →
        (network.candidate node).Confirmable
            ((network.setRequest index { request with outcome := moved }
              ).standing (ofNode node)) ∨
          network.UnderWay (Request.Announces node)) :
    (network.setRequest index { request with outcome := moved }).Promised
      least node := by
  have unchanged : (network.setRequest index { request with outcome := moved }
      ).setCandidate request.sender (network.candidate request.sender) =
        network.setRequest index { request with outcome := moved } := by
    simp [setCandidate, setRequest]
  rw [← unchanged]
  apply hopeful.move found isLeast isLive
  · simpa using started
  · rintro rfl isStarted
    exact ⟨isStarted, confirmable rfl⟩

/-- A confirmation is counted: the counts have met or the others remain
sufficient. -/
theorem receiveConfirm
    (hopeful : network.Hopeful)
    {index : Nat} {request : Request Id}
    (counts : request.isClaim = true →
      network.CountsOrderly request.sender)
    (found : network.requests[index]? = some request)
    (isClaim : request.isClaim = true)
    (waiting : request.outcome = .waiting)
    {least : Id} (isLeast : network.Least least)
    {node : Id} (isLive : node ∈ network.live)
    (started : (((network.setRequest index
      { request with outcome := .counted }).setCandidate request.sender
        (network.candidate request.sender).onElectionConfirmationReceive
          ).candidate node).started = true) :
    ((network.setRequest index { request with outcome := .counted }
      ).setCandidate request.sender
        (network.candidate request.sender).onElectionConfirmationReceive
      ).Promised least node := by
  apply hopeful.move found isLeast isLive started
  rintro rfl isStarted
  refine ⟨isStarted, fun confirms => ?_⟩
  by_cases undecided :
      0 < network.standing (ofNode request.sender) .installing ∨
        (network.candidate request.sender).receivedConfirmationCount <
          (network.candidate request.sender).exptectedConfirmationCount
  · left
    exact confirmable_receive found waiting (beq_self_eq_true request.sender)
      isClaim confirms undecided
  · rcases confirms with installing | ⟨equal, counted⟩ | ⟨below, _⟩
    · exact absurd (.inl installing) undecided
    · exact .inr ((counts isClaim isStarted equal counted).resolve_left
        fun installing => undecided (.inl installing))
    · exact absurd (.inr below) undecided

/-- A request thread gives up. -/
theorem timeout
    (hopeful : network.Hopeful)
    {index : Nat} {request : Request Id}
    (timesOut : request.isClaim = true →
      network.TimesOutOrderly request.sender)
    (found : network.requests[index]? = some request)
    (waiting : request.outcome = .waiting)
    {least : Id} (isLeast : network.Least least)
    {node : Id} (isLive : node ∈ network.live)
    (started : (network.candidate node).started = true) :
    (network.setRequest index { request with outcome := .timedOut }
      ).Promised least node := by
  apply hopeful.moveOn found isLeast isLive started
  rintro rfl confirms
  cases isClaim : request.isClaim with
  | false =>
      left
      obtain isStart : request.message = .electionStart := by
        cases message : request.message with
        | electionStart => rfl
        | newLeader leader =>
            rw [Request.isClaim_of_newLeader message] at isClaim
            nomatch isClaim
      rw [standing_setOutcome_of_foreign found (.inr isStart)]
      exact confirms
  | true =>
      exact (timesOut isClaim started confirms).imp_left
        (confirmable_timeout found waiting)

/-- A message to a crashed node disappears. -/
theorem lose
    (hopeful : network.Hopeful)
    {index : Nat} {request : Request Id}
    (found : network.requests[index]? = some request)
    (gone : request.target ∉ network.live)
    {least : Id} (isLeast : network.Least least)
    {node : Id} (isLive : node ∈ network.live)
    (started : (network.candidate node).started = true) :
    (network.setRequest index { request with delivery := .lost }
      ).Promised least node := by
  refine (hopeful.promised least isLeast node isLive started).set rfl ?_ ?_ ?_
  · intro confirmable
    left
    rw [standing_setDelivery found]
    exact confirmable
  · intro announced
    refine announced.set_of_not found rfl fun _ announces => ?_
    exact gone (announces.1 ▸ isLive)
  · intro asked
    refine asked.set_of_not found rfl fun _ asks => ?_
    exact gone (asks.2.1 ▸ isLeast.1)

/-- Every orderly step keeps the promises. -/
theorem step
    (hopeful : network.Hopeful)
    {action : Action Id}
    (orderly : network.Orderly action)
    (stepped : network.step action = some next) :
    Hopeful next := by
  refine
    { wellFormed := hopeful.wellFormed.step stepped
      promised := ?_ }
  intro least isLeast node isLive started
  cases transition_of_step stepped with
  | start | leaderFailed =>
      refine (hopeful.promised least isLeast node isLive started).append rfl
        (List.append_nil _).symm ?_
      intro _ spawned
      exact .inr (List.mem_append_left _ spawned)
  | otherFailed => exact hopeful.promised least isLeast node isLive started
  | alreadyStarted found isStarted =>
      have returns := orderly _ found
      rw [if_pos isStarted] at returns
      exact hopeful.alreadyStarted found returns isLeast isLive started
  | smallest found idle isMin =>
      have passes := orderly _ found
      rw [if_neg (by simp [idle])] at passes
      exact hopeful.claimSmallest found isMin passes isLeast isLive started
  | notSmallest found idle nonempty notMin =>
      have passes := orderly _ found
      rw [if_neg (by simp [idle])] at passes
      exact hopeful.askLowerIds found notMin passes isLeast isLive started
  | joinedOk found joined ok =>
      refine (hopeful.promised least isLeast node isLive started).append rfl
        (List.append_nil _).symm ?_
      intro _ spawned
      right
      exact mem_threads_of_set spawned found (by simp) rfl
  | joinedNoOk found joined noOk =>
      refine (hopeful.promised least isLeast node isLive started).append rfl
        (sendToNodes_requests _ _ _ _ _) ?_
      intro _ spawned
      right
      exact mem_threads_of_set spawned found (by simp) rfl
  | handleStart found isStart inFlight alive =>
      exact hopeful.handleStart found isStart isLeast isLive started
  | handleNewLeader found isNewLeader inFlight alive =>
      exact hopeful.handleNewLeader found isNewLeader isLeast isLive started
  | receiveOk found isStart handled waiting =>
      apply hopeful.move found isLeast isLive started
      rintro rfl isStarted
      refine ⟨isStarted, fun confirms => .inl ?_⟩
      rw [standing_setOutcome_of_foreign found (.inr isStart)]
      exact confirms
  | receiveConfirm found isNewLeader handled waiting =>
      exact hopeful.receiveConfirm (orderly _ found) found
        (Request.isClaim_of_newLeader isNewLeader) waiting isLeast isLive
        started
  | testLast found counted last =>
      have claims := hopeful.wellFormed.confirming _
        (List.mem_of_getElem? found) (.inl counted)
      apply hopeful.moveOn found isLeast isLive started
      intro _ confirms
      exact .inl (confirmable_testLast found
        (Request.isClaim_of_newLeader claims) confirms)
  | testNotLast found counted notLast =>
      apply hopeful.moveOn found isLeast isLive started
      rintro rfl confirms
      exact .inl (confirmable_testNotLast found counted (fun _ => notLast)
        confirms)
  | install found installing =>
      apply hopeful.move found isLeast isLive started
      intro _ isStarted
      nomatch isStarted
  | timeout found waiting =>
      exact hopeful.timeout (orderly _ found) found waiting isLeast isLive
        started
  | lose found inFlight unwanted =>
      exact hopeful.lose found (orderly _ found) isLeast isLive started
  | crash alive =>
      exact hopeful.crashNode orderly isLeast isLive started

end Hopeful

/-- In every run of orderly steps, a group that has become quiet has no
started live node. -/
theorem not_started_of_orderly
    (nodes : Finset Id) (trace : List (Action Id)) (network : Network Id)
    (orderly : (protocol nodes).Every Orderly (protocol nodes).initial trace)
    (runs : (protocol nodes).Runs (protocol nodes).initial trace network)
    (quiet : network.Quiet) :
    ∀ node ∈ network.live, (network.candidate node).started = false := by
  have hopeful : network.Hopeful :=
    orderly.invariant runs Hopeful
      (fun _ _ _ before meets stepped => before.step meets stepped)
      (Hopeful.initial nodes)
  intro node isLive
  exact hopeful.not_started_of_quiet quiet isLive

/-- Node 2 asks node 1, whose thread for this request returns at its check
because the claim that node 1 has sent in the meantime covers node 2. -/
def coveredElection : List (Action Nat) :=
  [.start 1, .start 2, .electionThread 1 [1, 2], .handle 0, .receive 0,
    .joined 1 [1, 2], .electionThread 0 [1, 2], .electionThread 2 [1, 2],
    .handle 1, .handle 2, .receive 1, .receive 2, .test 1, .test 2,
    .install 1, .install 2]

theorem not_started_of_coveredElection :
    ∃ network, (protocol {1, 2}).Runs (protocol {1, 2}).initial
        coveredElection network ∧
      ∀ node ∈ network.live, (network.candidate node).started = false := by
  obtain ⟨network, runs, quiet⟩ : ∃ network ∈ (protocol {1, 2}).run
      (protocol {1, 2}).initial coveredElection, network.Quiet := by
    decide
  exact ⟨network, runs, not_started_of_orderly {1, 2} coveredElection network
    (by decide) runs quiet⟩

/-- Node 1 answers OK and crashes before its election thread wakes up. -/
def brokenPromise : List (Action Nat) :=
  [.start 2, .electionThread 0 [1, 2], .handle 0, .receive 0,
    .joined 0 [1, 2], .crash 1]

/-- A quiet group can have a started node: node 2 got its OK and nobody will
ever clear its flag. -/
theorem not_idle_of_quiet :
    ¬ ∀ (nodes : Finset Nat) (trace : List (Action Nat))
        (network : Network Nat),
      (protocol nodes).Runs (protocol nodes).initial trace network →
        network.Quiet →
        ∀ node ∈ network.live, (network.candidate node).started = false := by
  intro idle
  obtain ⟨network, runs, quiet, isLive, started⟩ :
      ∃ network ∈ (protocol {1, 2}).run (protocol {1, 2}).initial
          brokenPromise,
        network.Quiet ∧ 2 ∈ network.live ∧
          (network.candidate 2).started = true := by
    decide
  have cleared := idle {1, 2} brokenPromise network runs quiet 2 isLive
  rw [started] at cleared
  nomatch cleared

end Network
end Election
end CraneSps
