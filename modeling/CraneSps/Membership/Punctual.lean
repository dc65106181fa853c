import CraneSps.Membership.Timed

/-!
# What a group in time knows

In a group that keeps its promises, what a node has counted is known to every
running node as soon as the heartbeats of the connections between them have
been merged.  So the entry of a running member is never older than that, and
the entry of a crashed member is removed once and for all.
-/

namespace CraneSps
namespace Membership
namespace Timed

variable {Id : Type} [LinearOrder Id]

/-- The failures of a member that a node has reported. -/
def failuresOf (timed : Timed Id) (id other : Id) : List (Failure Id) :=
  timed.gossip.failures.filter fun failure =>
    failure.observer = id ∧ failure.id = other

/-- A node has an entry of a member that it has last updated at a time. -/
structure Present
    (timing : Timing Id) (hops : Nat) (timed : Timed Id) (id other : Id)
    (member : Member Id) (time : Int) : Prop where
  found : (timed.gossip.node id).memberMap.find other = some member
  count : member.count = timed.known id other
  lastUpdate : member.lastUpdate = time + timing.offset id
  started : 0 ≤ time
  past : time ≤ timed.now
  reached : time ≤ timed.lastRound other + timing.reach hops
  sound : member.count ≤ timed.knownAt other other time
  fresh : timed.lastRound id < time + Member.cleanUpAge
  unreported : timed.failuresOf id other = []

/-- A node has removed a crashed member and reported this once. -/
structure Gone (timed : Timed Id) (id other : Id) : Prop where
  crashed : timed.gossip.crashed other = true
  missing : (timed.gossip.node id).memberMap.find other = none
  silent : timed.lastRound other + Member.cleanUpAge ≤ timed.now
  reported : (timed.failuresOf id other).length = 1

/-- What the nodes have known in the course of time. -/
structure Recollected (timing : Timing Id) (timed : Timed Id) : Prop where
  mono : ∀ id ∈ timing.members, ∀ other ∈ timing.members, ∀ time later,
    time ≤ later → timed.knownAt id other time ≤ timed.knownAt id other later
  settled : ∀ id ∈ timing.members, ∀ other ∈ timing.members, ∀ time,
    timed.lastRound id ≤ time →
      timed.knownAt id other time = timed.known id other
  own : ∀ id ∈ timing.members, timed.known id id = timed.gossip.ownCount id
  rounds : ∀ id ∈ timing.members,
    0 ≤ timed.lastRound id ∧ timed.lastRound id ≤ timed.now
  before : ∀ id ∈ timing.members, ∀ time, 0 ≤ time →
    time < timed.lastRound id → timed.knownAt id id time < timed.known id id
  periodic : ∀ id ∈ timing.members, ∀ time, 0 ≤ time →
    time + timing.period ≤ timed.lastRound id →
      timed.knownAt id id time < timed.knownAt id id (time + timing.period)

/-- What has become of the heartbeats. -/
structure Carried
    (timing : Timing Id) (hops : Nat) (timed : Timed Id) : Prop where
  logged : timed.log.length = timed.gossip.sent.length
  past : ∀ index sender time message, timed.Sent index sender time message →
    time ≤ timed.now
  announced : ∀ id ∈ timing.members, ∀ other ∈ timing.members, ∀ time,
    0 ≤ time → time ≤ timed.now → ∃ index earlier message record,
      timed.Sent index id earlier message ∧ earlier ≤ time ∧
        message.members.find other = some record ∧
          timed.knownAt id other time ≤ record.count
  transit : ∀ index sender time message,
    timed.Sent index sender time message →
      ∀ id, timed.Runs timing id → sender ∈ timing.connections id →
        (id, index) ∈ timed.pending ∨
          (message.members ∈ (timed.gossip.node id).membersQueue ∧
            timed.lastRound id ≤ time + timing.delay) ∨
          ∀ other ∈ timing.members, ∀ record ∈ message.members.find other,
            record.count ≤ timed.known id other
  queued : ∀ id, timed.Runs timing id →
    ∀ map ∈ (timed.gossip.node id).membersQueue,
      ∃ index sender time message, timed.Sent index sender time message ∧
        map = message.members ∧ timed.lastRound id ≤ time + timing.delay
  recent : ∀ index sender time message,
    timed.Sent index sender time message → ∀ other ∈ timing.members,
      ∀ record ∈ message.members.find other,
        time < timed.lastRound other + timing.reach hops + Member.timeoutAge

/-- What holds in every state of a group that keeps its promises. -/
structure Punctual
    (timing : Timing Id) (hops : Nat) (timed : Timed Id) : Prop where
  faithful : timed.gossip.Faithful
  staying : ∀ id, (timed.gossip.node id).isStopped = false
  reach : timed.WithinReach timing hops
  onTime : timed.OnTime timing timed.now
  recollected : Recollected timing timed
  carried : Carried timing hops timed
  hop : ∀ id, timed.Runs timing id → ∀ middle ∈ timing.members,
    middle ∈ timing.connections id → ∀ other ∈ timing.members, ∀ time,
      time ≤ timed.now → 0 ≤ time - timing.hop →
        timed.knownAt middle other (time - timing.hop) ≤
          timed.knownAt id other time
  entries : ∀ id, timed.Runs timing id → ∀ other ∈ timing.members,
    (∃ member time, Present timing hops timed id other member time) ∨
      Gone timed id other

variable {timing : Timing Id} {hops : Nat} {timed next : Timed Id}
variable {id other : Id}

/-! ## What is known over some connections -/

theorem Within.of_runs {distance : Nat}
    (runs : ∀ other, timed.Runs timing other → next.Runs timing other)
    (within : timed.Within timing id distance other) :
    next.Within timing id distance other := by
  induction distance generalizing other with
  | zero => exact within
  | succ distance inductionHypothesis =>
      rcases within with nearer | ⟨otherRuns, middle, connected, nearer⟩
      · exact .inl (inductionHypothesis nearer)
      · exact .inr ⟨runs other otherRuns, middle, connected,
          inductionHypothesis nearer⟩

theorem WithinReach.of_runs
    (reach : timed.WithinReach timing hops)
    (runs : ∀ other, timed.Runs timing other ↔ next.Runs timing other) :
    next.WithinReach timing hops :=
  fun id isMember other otherRuns =>
    (reach id isMember other ((runs other).mpr otherRuns)).of_runs
      fun other => (runs other).mp

namespace Punctual

variable (punctual : Punctual timing hops timed)
include punctual

/-- What a member has counted is known over so many connections after the time
they take. -/
theorem knownAt_le_of_within
    {distance : Nat} (isMember : id ∈ timing.members)
    (within : timed.Within timing id distance other)
    (positive : 0 ≤ timing.hop) {time later : Int} (started : 0 ≤ time)
    (reached : time + timing.reach distance ≤ later)
    (past : later ≤ timed.now) :
    timed.knownAt id id time ≤ timed.knownAt other id later := by
  have isOther {distance : Nat} {other : Id}
      (within : timed.Within timing id distance other) :
      other ∈ timing.members := by
    induction distance with
    | zero => exact within ▸ isMember
    | succ distance inductionHypothesis =>
        rcases within with nearer | ⟨runs, _⟩
        · exact inductionHypothesis nearer
        · exact runs.1
  induction distance generalizing other later with
  | zero =>
      obtain rfl : other = id := within
      refine punctual.recollected.mono other isMember other isMember _ _ ?_
      rw [Timing.reach] at reached
      omega
  | succ distance inductionHypothesis =>
      rw [Timing.reach_succ] at reached
      rcases within with nearer | ⟨runs, middle, connected, within⟩
      · exact inductionHypothesis nearer (by omega) past
      · have known := inductionHypothesis within
          (show time + timing.reach distance ≤ later - timing.hop by omega)
          (by omega)
        have nonneg : 0 ≤ timing.reach distance :=
          Int.mul_nonneg (Int.natCast_nonneg distance) positive
        exact known.trans (punctual.hop other runs middle (isOther within)
          connected id isMember later past (by omega))

/-- Nobody leaves. -/
theorem leaving_eq_false {member : Member Id}
    (recorded : timed.gossip.Recorded member) : member.leaving = false := by
  by_contra leaves
  rw [Bool.not_eq_false] at leaves
  have finished := ((punctual.faithful.vouched member recorded).2 leaves).1
  have stopped := punctual.faithful.stopped member.id finished
  rw [punctual.staying] at stopped
  nomatch stopped

theorem unfinished (id : Id) :
    (timed.gossip.node id).senderFinished = false := by
  by_contra finished
  rw [Bool.not_eq_false] at finished
  have stopped := punctual.faithful.stopped id finished
  rw [punctual.staying] at stopped
  nomatch stopped

end Punctual

/-! ## Time passes -/

theorem Recollected.known_later (recollected : Recollected timing timed)
    (isMember : id ∈ timing.members) (otherMember : other ∈ timing.members)
    {time : Int} (later : timed.now ≤ time) :
    timed.knownAt id other time = timed.known id other :=
  recollected.settled id isMember other otherMember time
    ((recollected.rounds id isMember).2.trans later)

namespace Punctual

variable (punctual : Punctual timing hops timed)
include punctual

/-- A heartbeat that must have been merged has been merged. -/
theorem merged_of_overdue {index : Nat} {sender : Id} {time later : Int}
    {message : HeartBeat Id} (sent : timed.Sent index sender time message)
    (runs : timed.Runs timing id) (connected : sender ∈ timing.connections id)
    (onTime : timed.OnTime timing later)
    (overdue : time + timing.hop ≤ later) :
    ∀ other ∈ timing.members, ∀ record ∈ message.members.find other,
      record.count ≤ timed.known id other := by
  unfold Timing.hop at overdue
  have round := onTime.1 id runs.1 runs.2
  rcases punctual.carried.transit index sender time message sent id runs
    connected with underWay | ⟨_, waits⟩ | merged
  · have arrives := onTime.2 (id, index) underWay runs.2 (sender, time) sent.1
    have bounds := punctual.recollected.rounds id runs.1
    have round := punctual.onTime.1 id runs.1 runs.2
    change later ≤ time + timing.delay at arrives
    omega
  · omega
  · exact merged

theorem pass (timely : timing.Timely hops) {time : Int}
    (later : timed.now ≤ time) (onTime : timed.OnTime timing time) :
    Punctual timing hops { timed with now := time } := by
  have recollected := punctual.recollected
  have known {id other : Id} (isMember : id ∈ timing.members)
      (otherMember : other ∈ timing.members) :
      ({ timed with now := time } : Timed Id).known id other =
        timed.known id other :=
    recollected.known_later isMember otherMember later
  refine
    { faithful := punctual.faithful
      staying := punctual.staying
      reach := ?_
      onTime := onTime
      recollected :=
        { mono := recollected.mono
          settled := fun id isMember other otherMember time isLater =>
            (recollected.settled id isMember other otherMember time
              isLater).trans (known isMember otherMember).symm
          own := fun id isMember =>
            (known isMember isMember).trans (recollected.own id isMember)
          rounds := fun id isMember =>
            ⟨(recollected.rounds id isMember).1,
              (recollected.rounds id isMember).2.trans later⟩
          before := fun id isMember earlier started isBefore =>
            (recollected.before id isMember earlier started isBefore).trans_eq
              (known isMember isMember).symm
          periodic := recollected.periodic }
      carried :=
        { logged := punctual.carried.logged
          past := fun index sender sentTime message sent =>
            (punctual.carried.past index sender sentTime message sent).trans
              later
          announced := ?_
          transit := ?_
          queued := punctual.carried.queued
          recent := punctual.carried.recent }
      hop := ?_
      entries := ?_ }
  · exact punctual.reach.of_runs fun _ => Iff.rfl
  · intro id isMember other otherMember earlier started isEarlier
    have bounds := recollected.rounds id isMember
    rcases le_total earlier timed.now with past | isLater
    · exact punctual.carried.announced id isMember other otherMember earlier
        started past
    · obtain ⟨index, sentTime, message, record, sent, before, found, most⟩ :=
        punctual.carried.announced id isMember other otherMember timed.now
          (bounds.1.trans bounds.2) le_rfl
      refine ⟨index, sentTime, message, record, sent, before.trans isLater,
        found, ?_⟩
      change timed.knownAt id other earlier ≤ record.count
      rw [recollected.known_later isMember otherMember isLater]
      exact most
  · intro index sender sentTime message sent id runs connected
    refine (punctual.carried.transit index sender sentTime message sent id runs
      connected).imp_right fun done => done.imp_right fun merged => ?_
    intro other otherMember record found
    rw [known runs.1 otherMember]
    exact merged other otherMember record found
  · intro id runs middle middleMember connected other otherMember late isLate
      started
    rcases le_total late timed.now with past | isLater
    · exact punctual.hop id runs middle middleMember connected other
        otherMember late past started
    · have round := onTime.1 id runs.1 runs.2
      have bounds := recollected.rounds id runs.1
      have isEarlier : late - timing.hop ≤ timed.now := by
        have delay := timely.delay
        unfold Timing.hop
        change late ≤ time at isLate
        omega
      obtain ⟨index, sentTime, message, record, sent, before, found, most⟩ :=
        punctual.carried.announced middle middleMember other otherMember
          (late - timing.hop) started isEarlier
      have merged := punctual.merged_of_overdue sent runs connected onTime
        (show sentTime + timing.hop ≤ time by
          change late ≤ time at isLate
          omega) other otherMember record found
      change timed.knownAt middle other (late - timing.hop) ≤
        timed.knownAt id other late
      rw [recollected.known_later runs.1 otherMember isLater]
      exact most.trans merged
  · intro id runs other otherMember
    rcases punctual.entries id runs other otherMember with
      ⟨member, updated, present⟩ | gone
    · exact .inl ⟨member, updated,
        { found := present.found
          count := present.count.trans (known runs.1 otherMember).symm
          lastUpdate := present.lastUpdate
          started := present.started
          past := present.past.trans later
          reached := present.reached
          sound := present.sound
          fresh := present.fresh
          unreported := present.unreported }⟩
    · exact .inr ⟨gone.crashed, gone.missing, gone.silent.trans later,
        gone.reported⟩

/-! ## Heartbeats arrive and nodes crash -/

/-- A received heartbeat waits for the next round. -/
theorem receive {index : Nat} {message : HeartBeat Id}
    (underWay : (id, index) ∈ timed.pending)
    (isSent : timed.gossip.sent[index]? = some message)
    (running : timed.gossip.crashed id = false) :
    Punctual timing hops
      { timed with
        gossip := timed.gossip.setNode id
          ((timed.gossip.node id).process message).1
        pending := timed.pending.erase (id, index) } := by
  have carried := punctual.carried
  have maps (owner : Id) : ((timed.gossip.setNode id
      ((timed.gossip.node id).process message).1).node owner).memberMap =
        (timed.gossip.node owner).memberMap :=
    Gossip.setNode_congr DMember.memberMap rfl
  have stopped (owner : Id) : ((timed.gossip.setNode id
      ((timed.gossip.node id).process message).1).node owner).isStopped =
        (timed.gossip.node owner).isStopped :=
    Gossip.setNode_congr DMember.isStopped rfl
  have atNode : (timed.gossip.setNode id
      ((timed.gossip.node id).process message).1).node id =
        ((timed.gossip.node id).process message).1 :=
    Function.update_self _ _ _
  have atOther (owner : Id) (differs : owner ≠ id) : (timed.gossip.setNode id
      ((timed.gossip.node id).process message).1).node owner =
        timed.gossip.node owner := Function.update_of_ne differs _ _
  have waits (owner : Id) (map : MemberMap Id)
      (isQueued : map ∈ (timed.gossip.node owner).membersQueue) :
      map ∈ ((timed.gossip.setNode id ((timed.gossip.node id).process
        message).1).node owner).membersQueue := by
    by_cases same : owner = id
    · subst same
      rw [atNode]
      exact List.mem_append_left _ isQueued
    · rwa [atOther owner same]
  -- the round that merges the heartbeat is still to come
  have inTime (sender : Id) (time : Int)
      (sent : timed.log[index]? = some (sender, time))
      (isMember : id ∈ timing.members) :
      timed.lastRound id ≤ time + timing.delay := by
    have arrives := punctual.onTime.2 (id, index) underWay running
      (sender, time) sent
    exact (punctual.recollected.rounds id isMember).2.trans arrives
  refine
    { faithful := punctual.faithful.receive (List.mem_of_getElem? isSent)
      staying := fun owner => (stopped owner).trans (punctual.staying owner)
      reach := punctual.reach.of_runs fun _ => Iff.rfl
      onTime := ⟨punctual.onTime.1, fun entry isPending =>
        punctual.onTime.2 entry (List.mem_of_mem_erase isPending)⟩
      recollected :=
        { mono := punctual.recollected.mono
          settled := punctual.recollected.settled
          own := punctual.recollected.own
          rounds := punctual.recollected.rounds
          before := punctual.recollected.before
          periodic := punctual.recollected.periodic }
      carried :=
        { logged := carried.logged
          past := carried.past
          announced := carried.announced
          transit := ?_
          queued := ?_
          recent := carried.recent }
      hop := punctual.hop
      entries := ?_ }
  · intro other sender time late sent receiver runs connected
    rcases carried.transit other sender time late sent receiver runs connected
      with isPending | ⟨isQueued, round⟩ | merged
    · by_cases isThis : (receiver, other) = (id, index)
      · obtain ⟨rfl, rfl⟩ := Prod.mk.inj isThis
        obtain rfl := Option.some.inj (isSent.symm.trans sent.2)
        refine .inr (.inl ⟨?_, inTime sender time sent.1 runs.1⟩)
        change _ ∈ ((timed.gossip.setNode receiver ((timed.gossip.node
          receiver).process message).1).node receiver).membersQueue
        rw [atNode]
        exact List.mem_append_right _ List.mem_cons_self
      · exact .inl ((List.mem_erase_of_ne isThis).mpr isPending)
    · exact .inr (.inl ⟨waits receiver _ isQueued, round⟩)
    · exact .inr (.inr merged)
  · intro owner runs map isQueued
    by_cases same : owner = id
    · subst same
      change map ∈ ((timed.gossip.setNode owner ((timed.gossip.node
        owner).process message).1).node owner).membersQueue at isQueued
      rw [atNode] at isQueued
      rcases List.mem_append.mp isQueued with isOld | isNew
      · exact carried.queued owner runs map isOld
      · obtain rfl := List.mem_singleton.mp isNew
        obtain ⟨bound, _⟩ := List.getElem?_eq_some_iff.mp isSent
        obtain ⟨⟨sender, time⟩, isLogged⟩ : ∃ entry,
            timed.log[index]? = some entry :=
          ⟨_, List.getElem?_eq_getElem (carried.logged ▸ bound)⟩
        exact ⟨index, sender, time, message, ⟨isLogged, isSent⟩, rfl,
          inTime sender time isLogged runs.1⟩
    · change map ∈ ((timed.gossip.setNode id ((timed.gossip.node id).process
        message).1).node owner).membersQueue at isQueued
      rw [atOther owner same] at isQueued
      exact carried.queued owner runs map isQueued
  · intro owner runs other otherMember
    rcases punctual.entries owner runs other otherMember with
      ⟨member, updated, present⟩ | gone
    · exact .inl ⟨member, updated,
        { present with
          found := (congrArg (SortedMap.find · other) (maps owner)).trans
            present.found }⟩
    · exact .inr { gone with
        missing := (congrArg (SortedMap.find · other) (maps owner)).trans
          gone.missing }

/-- A crash changes nothing but who is running. -/
theorem crash
    (reach : WithinReach timing { timed with
      gossip := { timed.gossip with
        crashed := Function.update timed.gossip.crashed id true } } hops) :
    Punctual timing hops { timed with
      gossip := { timed.gossip with
        crashed := Function.update timed.gossip.crashed id true } } := by
  have wasRunning {owner : Id}
      (runs : Function.update timed.gossip.crashed id true owner = false) :
      timed.gossip.crashed owner = false := by
    rw [Function.update_apply] at runs
    split at runs
    · nomatch runs
    · exact runs
  have stays {owner : Id} (crashed : timed.gossip.crashed owner = true) :
      Function.update timed.gossip.crashed id true owner = true := by
    rw [Function.update_apply]
    split
    · rfl
    · exact crashed
  refine
    { faithful := punctual.faithful.crash _
      staying := punctual.staying
      reach := reach
      onTime := ⟨fun owner isMember runs =>
          punctual.onTime.1 owner isMember (wasRunning runs),
        fun entry isPending runs =>
          punctual.onTime.2 entry isPending (wasRunning runs)⟩
      recollected :=
        { mono := punctual.recollected.mono
          settled := punctual.recollected.settled
          own := punctual.recollected.own
          rounds := punctual.recollected.rounds
          before := punctual.recollected.before
          periodic := punctual.recollected.periodic }
      carried :=
        { logged := punctual.carried.logged
          past := punctual.carried.past
          announced := punctual.carried.announced
          transit := fun index sender time message sent owner runs =>
            punctual.carried.transit index sender time message sent owner
              ⟨runs.1, wasRunning runs.2⟩
          queued := fun owner runs =>
            punctual.carried.queued owner ⟨runs.1, wasRunning runs.2⟩
          recent := punctual.carried.recent }
      hop := fun owner runs =>
        punctual.hop owner ⟨runs.1, wasRunning runs.2⟩
      entries := ?_ }
  intro owner runs other otherMember
  rcases punctual.entries owner ⟨runs.1, wasRunning runs.2⟩ other otherMember
    with ⟨member, updated, present⟩ | gone
  · exact .inl ⟨member, updated, { present with }⟩
  · exact .inr { gone with crashed := stays gone.crashed }

/-! ## How old entries are -/

section Age

variable (timely : timing.Timely hops) (runs : timed.Runs timing id)
variable (otherMember : other ∈ timing.members)
variable {member : Member Id} {time : Int}
variable (present : Present timing hops timed id other member time)
include timely runs otherMember present

/-- An entry is as new as what has been known for long enough. -/
theorem knownAt_le_count {earlier : Int} (started : 0 ≤ earlier)
    (reached : earlier + timing.reach hops ≤ timed.now) :
    timed.knownAt other other earlier ≤ member.count := by
  have positive : 0 ≤ timing.hop := by
    have period := timely.period
    have delay := timely.delay
    unfold Timing.hop
    omega
  rw [present.count]
  exact punctual.knownAt_le_of_within otherMember
    (punctual.reach other otherMember id runs) positive started reached le_rfl

/-- A node that has counted a round after the last update of its entry is
heard of in time. -/
theorem now_lt_of_round
    (counts : time + timing.period ≤ timed.lastRound other) :
    timed.now < time + timing.period + timing.reach hops := by
  by_contra late
  have known := punctual.knownAt_le_count timely runs otherMember present
    (show 0 ≤ time + timing.period by
      have started := present.started
      have period := timely.period
      omega) (by omega)
  have more := punctual.recollected.periodic other otherMember time
    present.started counts
  have sound := present.sound
  omega

/-- The entry of a running member is never timed out. -/
theorem now_le_of_running (running : timed.gossip.crashed other = false) :
    timed.now ≤ time + timing.period + timing.reach hops := by
  by_contra late
  have round := punctual.onTime.1 other otherMember running
  have far := timely.hop_le_reach
  have delay := timely.delay
  unfold Timing.hop at far
  have inTime := punctual.now_lt_of_round timely runs otherMember present
    (by omega)
  omega

/-- A member whose entry is cleaned up has crashed, and its last round was not
after the last update. -/
theorem silent_of_cleanUpAge (old : time + Member.cleanUpAge ≤ timed.now) :
    timed.gossip.crashed other = true ∧ timed.lastRound other ≤ time := by
  have fast := timely.fast
  have far := timely.hop_le_reach
  have delay := timely.delay
  rw [Timing.reach_succ] at fast
  unfold Member.cleanUpAge at old
  unfold Timing.hop at far fast
  constructor
  · by_contra running
    rw [Bool.not_eq_true] at running
    have recent := punctual.now_le_of_running timely runs otherMember present
      running
    omega
  · by_contra later
    have bounds := punctual.recollected.rounds other otherMember
    by_cases counts : time + timing.period ≤ timed.lastRound other
    · have inTime := punctual.now_lt_of_round timely runs otherMember present
        counts
      omega
    · -- its last round is known by now, but the entry is older
      have known := punctual.knownAt_le_count timely runs otherMember present
        bounds.1 (by omega)
      rw [punctual.recollected.settled other otherMember other otherMember _
        le_rfl] at known
      have more := punctual.recollected.before other otherMember time
        present.started (by omega)
      have sound := present.sound
      omega

/-- An entry is only renewed while the last round is not known. -/
theorem now_le_of_newer {count : Int} (newer : member.count < count)
    (vouched : count ≤ timed.gossip.ownCount other) :
    timed.now ≤ timed.lastRound other + timing.reach hops := by
  by_contra late
  have bounds := punctual.recollected.rounds other otherMember
  have known := punctual.knownAt_le_count timely runs otherMember present
    bounds.1 (by omega)
  rw [punctual.recollected.settled other otherMember other otherMember _
    le_rfl, punctual.recollected.own other otherMember] at known
  omega

end Age

/-- The age of an entry is an ordinary number. -/
theorem now_lt_of_present {member : Member Id} {time : Int}
    (runs : timed.Runs timing id)
    (present : Present timing hops timed id other member time) :
    timed.now < time + Member.cleanUpAge + timing.period := by
  have round := punctual.onTime.1 id runs.1 runs.2
  have fresh := present.fresh
  omega

/-- Nothing that waits at a node tells of a member that is gone. -/
theorem recordsOf_eq_nil_of_gone (timely : timing.Timely hops)
    (runs : timed.Runs timing id) (otherMember : other ∈ timing.members)
    (gone : Gone timed id other) :
    recordsOf (timed.gossip.node id).membersQueue other = [] := by
  rw [recordsOf, List.filterMap_eq_nil_iff]
  intro map isQueued
  rw [Option.eq_none_iff_forall_ne_some]
  intro record found
  obtain ⟨index, sender, time, message, sent, rfl, waits⟩ :=
    punctual.carried.queued id runs map isQueued
  have recent := punctual.carried.recent index sender time message sent other
    otherMember record found
  have round := punctual.onTime.1 id runs.1 runs.2
  have silent := gone.silent
  have fast := timely.fast
  rw [Timing.reach_succ] at fast
  unfold Timing.hop at fast
  unfold Member.cleanUpAge at silent
  unfold Member.timeoutAge at recent
  omega

end Punctual

end Timed
end Membership
end CraneSps
