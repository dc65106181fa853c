import CraneSps.Membership.Rounds

/-!
# Failures are detected, and nothing else

From a group whose members have just heard of each other on, in every run in
which rounds and heartbeats are in time and every running member stays within
reach: a member that is running is in every running member's map, and nobody
reports it; a member that has crashed is removed and reported exactly once, and
at a time that is bounded from both sides.
-/

namespace CraneSps
namespace Membership
namespace Timed

variable {Id : Type} [LinearOrder Id]
variable {timing : Timing Id} {hops : Nat} {timed next start : Timed Id}
variable {id other : Id}

/-! ## Steps -/

/-- What a step can do. -/
theorem step_cases {action : TimedAction Id}
    (stepped : timed.step timing action = some next) :
    (∃ time, action = .pass time ∧ timed.now ≤ time ∧
        timed.OnTime timing time ∧ next = { timed with now := time }) ∨
      (∃ id, action = .heartbeat id ∧ timed.Runs timing id ∧
        next = timed.afterRound timing id) ∨
      (∃ id index message, action = .receive id index ∧
        (id, index) ∈ timed.pending ∧
        timed.gossip.sent[index]? = some message ∧
        timed.gossip.crashed id = false ∧
        next = { timed with
          gossip := timed.gossip.setNode id
            ((timed.gossip.node id).process message).1
          pending := timed.pending.erase (id, index) }) ∨
      ∃ id, action = .crash id ∧ next = { timed with
        gossip := { timed.gossip with
          crashed := Function.update timed.gossip.crashed id true } } := by
  cases action with
  | pass time =>
      simp only [step, Option.ite_none_right_eq_some, Option.some.injEq]
        at stepped
      obtain ⟨⟨later, onTime⟩, rfl⟩ := stepped
      exact .inl ⟨time, rfl, later, onTime, rfl⟩
  | heartbeat id =>
      simp only [step, Option.ite_none_right_eq_some, Option.map_eq_some_iff,
        Gossip.step, Option.ite_none_left_eq_some, Bool.or_eq_true, not_or,
        Bool.not_eq_true, Option.some.injEq] at stepped
      obtain ⟨isMember, _, ⟨⟨running, _⟩, rfl⟩, rfl⟩ := stepped
      exact .inr (.inl ⟨id, rfl, ⟨isMember, running⟩, rfl⟩)
  | receive id index =>
      simp only [step, Option.ite_none_right_eq_some,
        Option.map_eq_some_iff] at stepped
      obtain ⟨underWay, gossip, received, rfl⟩ := stepped
      simp only [Gossip.step] at received
      split at received
      · next message isSent =>
          rw [Option.ite_none_left_eq_some, Option.some.injEq,
            Bool.not_eq_true] at received
          obtain ⟨running, rfl⟩ := received
          exact .inr (.inr (.inl ⟨id, index, message, rfl, underWay, isSent,
            running, rfl⟩))
      · cases received
  | crash id =>
      obtain rfl := Option.some.inj stepped
      exact .inr (.inr (.inr ⟨id, rfl, rfl⟩))

/-- Every step keeps what holds of a group that keeps its promises. -/
theorem Punctual.step {action : TimedAction Id}
    (punctual : Punctual timing hops timed) (timely : timing.Timely hops)
    (connected : timed.Connected timing hops action)
    (stepped : timed.step timing action = some next) :
    Punctual timing hops next := by
  rcases step_cases stepped with
    ⟨time, rfl, later, onTime, rfl⟩ | ⟨id, rfl, runs, rfl⟩ |
      ⟨id, index, message, rfl, underWay, isSent, running, rfl⟩ |
      ⟨id, rfl, rfl⟩
  · exact punctual.pass timely later onTime
  · exact punctual.afterRound timely runs
  · exact punctual.receive underWay isSent running
  · exact punctual.crash (connected _ stepped)

/-- A group whose members have just heard of each other keeps its promises. -/
theorem Formed.punctual (formed : timed.Formed timing)
    (timely : timing.Timely hops) (reach : timed.WithinReach timing hops) :
    Punctual timing hops timed := by
  have period := timely.period
  have delay := timely.delay
  have far := timely.reach_nonneg
  have known {id other : Id} (isMember : id ∈ timing.members)
      (otherMember : other ∈ timing.members) (time later : Int) :
      timed.knownAt id other time = timed.knownAt id other later := by
    obtain ⟨member, _, _, count⟩ :=
      formed.acquainted id isMember other otherMember
    rw [count, count]
  have own {id : Id} (isMember : id ∈ timing.members) (time : Int) :
      timed.knownAt id id time = timed.gossip.ownCount id := by
    obtain ⟨member, found, _, count⟩ := formed.acquainted id isMember id isMember
    rw [count, formed.faithful.own id member found]
  refine
    { faithful := formed.faithful
      staying := formed.staying
      reach := reach
      onTime := ⟨fun id isMember _ => ?_, fun entry isPending _ sent isSent =>
        ?_⟩
      recollected :=
        { mono := fun id isMember other otherMember time later _ =>
            (known isMember otherMember time later).le
          settled := fun id isMember other otherMember time _ =>
            known isMember otherMember time timed.now
          own := fun id isMember => own isMember timed.now
          rounds := fun id isMember => ?_
          before := fun id isMember time started isBefore => ?_
          periodic := fun id isMember time started isPast => ?_ }
      carried :=
        { logged := formed.logged
          past := fun index sender time message sent =>
            (formed.merged index sender time message sent).1.trans
              formed.now.ge
          announced := ?_
          transit := ?_
          queued := fun id runs map isQueued => ?_
          recent := ?_ }
      hop := fun id runs middle middleMember connected other otherMember time
        past started => ?_
      entries := fun id runs other otherMember => ?_ }
  · rw [formed.now, formed.lastRound id isMember]
    omega
  · obtain ⟨sender, isLogged⟩ := formed.pending entry isPending
    obtain rfl := Option.some.inj (isLogged.symm.trans isSent)
    rw [formed.now]
    change (0 : Int) ≤ 0 + timing.delay
    omega
  · rw [formed.now, formed.lastRound id isMember]
    exact ⟨le_rfl, le_rfl⟩
  · rw [formed.lastRound id isMember] at isBefore
    omega
  · rw [formed.lastRound id isMember] at isPast
    omega
  · intro id isMember other otherMember time started _
    obtain ⟨index, message, sent, same⟩ := formed.announced id isMember
    obtain ⟨member, found, _, count⟩ :=
      formed.acquainted id isMember other otherMember
    exact ⟨index, 0, message, member, sent, started,
      (same other otherMember).trans found, (count time).le⟩
  · intro index sender time message sent id runs connected
    exact ((formed.merged index sender time message sent).2 id runs.1
      connected).imp_right .inr
  · rw [formed.idle id runs.1] at isQueued
    nomatch isQueued
  · intro index sender time message sent other otherMember record _
    have past := (formed.merged index sender time message sent).1
    rw [formed.lastRound other otherMember, Member.timeoutAge]
    omega
  · rw [formed.now] at past
    unfold Timing.hop at started
    omega
  · obtain ⟨member, found, updated, count⟩ :=
      formed.acquainted id runs.1 other otherMember
    have isOther : member.id = other := SortedMap.key_of_find found
    refine .inl ⟨member, 0,
      { found := found
        count := (count timed.now).symm
        lastUpdate := by rw [updated, Int.zero_add]
        started := le_rfl
        past := formed.now.ge
        reached := ?_
        sound := ?_
        fresh := ?_
        unreported := ?_ }⟩
    · rw [formed.lastRound other otherMember]
      omega
    · rw [own otherMember]
      have vouched := (formed.faithful.vouched member
        (.entry id (isOther.symm ▸ found))).1
      rwa [isOther] at vouched
    · rw [formed.lastRound id runs.1, Member.cleanUpAge]
      omega
    · rw [failuresOf, List.filter_eq_nil_iff]
      intro failure isFailure
      have never := formed.unreported failure isFailure
      rw [decide_eq_true_eq]
      rintro ⟨rfl, rfl⟩
      exact never runs.1 otherMember

/-! ## What is reported -/

/-- Only members that have crashed have been reported. -/
def ReportsCrashes (timing : Timing Id) (timed : Timed Id) : Prop :=
  ∀ failure ∈ timed.gossip.failures, failure.observer ∈ timing.members →
    failure.id ∈ timing.members → timed.gossip.crashed failure.id = true

theorem ReportsCrashes.step {action : TimedAction Id}
    (sound : timed.ReportsCrashes timing)
    (punctual : Punctual timing hops timed) (timely : timing.Timely hops)
    (stepped : timed.step timing action = some next) :
    next.ReportsCrashes timing := by
  rcases step_cases stepped with
    ⟨time, rfl, later, onTime, rfl⟩ | ⟨id, rfl, runs, rfl⟩ |
      ⟨id, index, message, rfl, underWay, isSent, running, rfl⟩ |
      ⟨id, rfl, rfl⟩
  · exact sound
  · intro failure isFailure observerMember isMember
    rcases List.mem_append.mp isFailure with old | isNew
    · exact sound failure old observerMember isMember
    · obtain ⟨failed, _, rfl⟩ := List.mem_map.mp isNew
      have isReported : _ ∈ (timed.afterRound timing id).failuresOf id failed :=
        List.mem_filter.mpr ⟨isFailure, decide_eq_true ⟨rfl, rfl⟩⟩
      rcases (punctual.heard timely runs isMember).entry with
        ⟨member, time, present⟩ | gone
      · rw [present.unreported] at isReported
        nomatch isReported
      · exact gone.crashed
  · exact sound
  · intro failure isFailure observerMember isMember
    have before := sound failure isFailure observerMember isMember
    change Function.update timed.gossip.crashed id true failure.id = true
    rw [Function.update_apply]
    split
    · rfl
    · exact before

/-- What a running node knows about a member, and has reported about it. -/
structure Detects
    (timing : Timing Id) (hops : Nat) (timed : Timed Id) (id other : Id) :
    Prop where
  /-- A member that has not crashed is in the map. -/
  accurate : timed.gossip.crashed other = false →
    other ∈ (timed.gossip.node id).membershipList
  /-- It leaves the map only when nothing has been heard for long. -/
  patient : other ∉ (timed.gossip.node id).membershipList →
    timed.lastRound other + Member.cleanUpAge ≤ timed.now
  /-- It does so some time after its last round. -/
  complete : timed.gossip.crashed other = true →
    timed.lastRound other + timing.reach hops + timing.period +
        Member.cleanUpAge ≤ timed.now →
      other ∉ (timed.gossip.node id).membershipList
  /-- It is reported once, when it leaves the map. -/
  once : (timed.failuresOf id other).length =
    if other ∈ (timed.gossip.node id).membershipList then 0 else 1

theorem Punctual.detects (punctual : Punctual timing hops timed)
    (runs : timed.Runs timing id) (otherMember : other ∈ timing.members) :
    Detects timing hops timed id other := by
  rcases punctual.entries id runs other otherMember with
    ⟨member, time, present⟩ | gone
  · have listed : other ∈ (timed.gossip.node id).membershipList :=
      DMember.mem_membershipList_iff.mpr ⟨member, present.found⟩
    refine
      { accurate := fun _ => listed
        patient := fun missing => absurd listed missing
        complete := fun _ late => ?_
        once := by rw [present.unreported, if_pos listed]; rfl }
    have age := punctual.now_lt_of_present runs present
    have reached := present.reached
    omega
  · have missing : other ∉ (timed.gossip.node id).membershipList := by
      rw [DMember.mem_membershipList_iff, gone.missing]
      rintro ⟨member, found⟩
      nomatch found
    exact
      { accurate := fun running => by
          rw [gone.crashed] at running
          nomatch running
        patient := fun _ => gone.silent
        complete := fun _ _ => missing
        once := by rw [gone.reported, if_neg missing] }

/-- What holds in every state of a run. -/
theorem punctual_of_runs {trace : List (TimedAction Id)}
    (timely : timing.Timely hops) (formed : start.Formed timing)
    (reach : start.WithinReach timing hops)
    (runs : (timedGossip timing start).Runs start trace timed)
    (connected : (timedGossip timing start).Every
      (Connected timing hops) start trace) :
    Punctual timing hops timed ∧ timed.ReportsCrashes timing := by
  refine connected.invariant runs
    (fun timed => Punctual timing hops timed ∧ timed.ReportsCrashes timing)
    (fun _ _ _ both connected stepped =>
      ⟨both.1.step timely connected stepped,
        both.2.step both.1 timely stepped⟩)
    ⟨formed.punctual timely reach, ?_⟩
  intro failure isFailure observerMember isMember
  exact absurd isMember (formed.unreported failure isFailure observerMember)

/-- In every run of a group in which rounds and heartbeats are in time and all
running members stay within reach, running members are in each other's maps
and are never reported, and a crashed member is removed and reported exactly
once, not before its last round has become too old and not later than the
promises of the group allow. -/
theorem detects_of_runs
    {trace : List (TimedAction Id)}
    (timely : timing.Timely hops) (formed : start.Formed timing)
    (reach : start.WithinReach timing hops)
    (runs : (timedGossip timing start).Runs start trace timed)
    (connected : (timedGossip timing start).Every
      (Connected timing hops) start trace) :
    timed.ReportsCrashes timing ∧
      ∀ id, timed.Runs timing id → ∀ other ∈ timing.members,
        Detects timing hops timed id other := by
  obtain ⟨punctual, sound⟩ :=
    punctual_of_runs timely formed reach runs connected
  exact ⟨sound, fun _ runs _ otherMember => punctual.detects runs otherMember⟩

/-! ## A group that has formed -/

/-- A group at the time 0, with what has been sent until then. -/
def gathered (gossip : Gossip Id) (log : List (Id × Int))
    (pending : List (Id × Nat)) : Timed Id where
  gossip := gossip
  now := 0
  lastRound := fun _ => 0
  log := log
  pending := pending
  knownAt := fun id other _ =>
    ((gossip.node id).memberMap.find other).elim 0 Member.count

/-- Only a stop stops a node. -/
theorem isStopped_of_step {gossip next : Gossip Id} {action : GossipAction Id}
    (stepped : gossip.step action = some next) (noStop : action ≠ .stop id) :
    (next.node id).isStopped = (gossip.node id).isStopped := by
  cases action with
  | heartbeat other now =>
      simp only [Gossip.step, Option.ite_none_left_eq_some,
        Option.some.injEq] at stepped
      obtain ⟨_, rfl⟩ := stepped
      exact Gossip.setNode_congr DMember.isStopped rfl
  | receive other index =>
      simp only [Gossip.step] at stepped
      split at stepped
      · rw [Option.ite_none_left_eq_some, Option.some.injEq] at stepped
        obtain ⟨_, rfl⟩ := stepped
        exact Gossip.setNode_congr DMember.isStopped rfl
      · cases stepped
  | ping other =>
      simp only [Gossip.step, Option.ite_none_left_eq_some] at stepped
      obtain ⟨_, stepped⟩ := stepped
      split at stepped <;> obtain rfl := Option.some.inj stepped <;> rfl
  | checkAvailability other indices now =>
      simp only [Gossip.step, Option.ite_none_left_eq_some,
        Option.some.injEq] at stepped
      obtain ⟨_, rfl⟩ := stepped
      exact Gossip.setNode_congr DMember.isStopped rfl
  | stop other =>
      have differs : id ≠ other := fun same => noStop (same ▸ rfl)
      simp only [Gossip.step, Option.ite_none_left_eq_some,
        Option.some.injEq] at stepped
      obtain ⟨_, rfl⟩ := stepped
      rw [Gossip.setNode_node, Function.update_of_ne differs]
  | crash other =>
      obtain rfl := Option.some.inj stepped
      rfl

theorem isStopped_of_runs {trace : List (GossipAction Id)}
    {before final : Gossip Id}
    (runs : Membership.gossip.Runs before trace final)
    (noStop : ∀ id, .stop id ∉ trace) (id : Id) :
    (final.node id).isStopped = (before.node id).isStopped := by
  induction trace generalizing before with
  | nil =>
      obtain rfl := TransitionSystem.runs_nil_iff.mp runs
      rfl
  | cons action trace inductionHypothesis =>
      obtain ⟨next, stepped, rest⟩ := TransitionSystem.runs_cons_iff.mp runs
      rw [inductionHypothesis rest fun id isLater =>
        noStop id (List.mem_cons_of_mem action isLater)]
      exact isStopped_of_step stepped fun isStop =>
        noStop id (isStop ▸ List.mem_cons_self)

/-- A group that has gossiped without a stop has formed if all members have
merged or are about to get what has been sent. -/
theorem formed_gathered {trace : List (GossipAction Id)}
    {gossip : Gossip Id} {log : List (Id × Int)} {pending : List (Id × Nat)}
    (runs : Membership.gossip.Runs Gossip.initial trace gossip)
    (noStop : ∀ id, .stop id ∉ trace)
    (running : ∀ id ∈ timing.members, gossip.crashed id = false)
    (logged : log.length = gossip.sent.length)
    (acquainted : ∀ id ∈ timing.members, ∀ other ∈ timing.members,
      ∃ member ∈ (gossip.node id).memberMap.find other,
        member.lastUpdate = timing.offset id)
    (idle : ∀ id ∈ timing.members, (gossip.node id).membersQueue = [])
    (announced : ∀ id ∈ timing.members, ∃ index ∈ List.range log.length,
      log[index]? = some (id, 0) ∧ ∃ message ∈ gossip.sent[index]?,
        ∀ other ∈ timing.members, message.members.find other =
          (gossip.node id).memberMap.find other)
    (merged : ∀ index ∈ List.range log.length, ∀ entry ∈ log[index]?,
      entry.2 ≤ 0 ∧ ∀ message ∈ gossip.sent[index]?,
        ∀ receiver ∈ timing.members, entry.1 ∈ timing.connections receiver →
          (receiver, index) ∈ pending ∨ ∀ other ∈ timing.members,
            ∀ record ∈ message.members.find other, record.count ≤
              ((gossip.node receiver).memberMap.find other).elim 0
                Member.count)
    (underWay : ∀ entry ∈ pending, ∃ sent ∈ log[entry.2]?, sent.2 = 0)
    (unreported : ∀ failure ∈ gossip.failures,
      failure.observer ∈ timing.members → failure.id ∉ timing.members) :
    (gathered gossip log pending).Formed timing where
  faithful := Gossip.faithful_of_runs runs
  staying := isStopped_of_runs runs noStop
  running := running
  now := rfl
  lastRound := fun _ _ => rfl
  logged := logged
  acquainted := by
    intro id isMember other otherMember
    obtain ⟨member, found, updated⟩ :=
      acquainted id isMember other otherMember
    refine ⟨member, found, updated, fun time => ?_⟩
    change Option.elim _ _ _ = _
    rw [show (gossip.node id).memberMap.find other = some member from found]
    rfl
  idle := idle
  announced := by
    intro id isMember
    obtain ⟨index, _, isLogged, message, isSent, same⟩ :=
      announced id isMember
    exact ⟨index, message, ⟨isLogged, isSent⟩, same⟩
  merged := by
    rintro index sender time message ⟨isLogged, isSent⟩
    obtain ⟨bound, _⟩ := List.getElem?_eq_some_iff.mp isLogged
    obtain ⟨past, carried⟩ := merged index (List.mem_range.mpr bound)
      (sender, time) isLogged
    exact ⟨past, carried message isSent⟩
  pending := by
    intro entry isPending
    obtain ⟨⟨sender, time⟩, isLogged, rfl⟩ := underWay entry isPending
    exact ⟨sender, isLogged⟩
  unreported := unreported

/-! Two nodes, of which the first one crashes at the time 0. -/

def pairTiming : Timing Nat where
  members := [1, 2]
  connections := fun id => [3 - id]
  offset := fun id => 1000 * id
  period := 900000000
  delay := 50000000

def pairMeeting : List (GossipAction Nat) :=
  [.heartbeat 1 (-499999000), .heartbeat 2 (-499998000), .receive 1 1,
    .receive 2 0, .heartbeat 1 1000, .heartbeat 2 2000]

def pair : Timed Nat :=
  gathered ((Membership.gossip.run Gossip.initial pairMeeting).getD Gossip.initial)
    [(1, -500000000), (2, -500000000), (1, 0), (2, 0)] [(2, 2), (1, 3)]

/-- The second node goes on until it has found out. -/
def pairTrace : List (TimedAction Nat) :=
  [.crash 1, .pass 50000000, .receive 2 2, .pass 900000000, .heartbeat 2,
    .pass 1800000000, .heartbeat 2, .pass 2700000000, .heartbeat 2,
    .pass 3600000000, .heartbeat 2, .pass 4500000000, .heartbeat 2,
    .pass 5400000000, .heartbeat 2]

theorem pair_formed : pair.Formed pairTiming :=
  formed_gathered
    (show Membership.gossip.Runs Gossip.initial pairMeeting _ from rfl)
    (by simp [pairMeeting]) (by decide) (by decide) (by decide) (by decide) (by decide) (by decide)
    (by decide) (by decide)

theorem detects_of_runs_pair :
    ∃ timed, (timedGossip pairTiming pair).Runs pair pairTrace timed ∧
      timed.failuresOf 2 1 = [⟨2, 1, false⟩] ∧
      Detects pairTiming 1 timed 2 1 := by
  obtain ⟨timed, runs, reported, others⟩ :
      ∃ timed ∈ (timedGossip pairTiming pair).run pair pairTrace,
        timed.failuresOf 2 1 = [⟨2, 1, false⟩] ∧
          timed.Runs pairTiming 2 := by
    decide +kernel
  refine ⟨timed, runs, reported, ?_⟩
  exact (detects_of_runs (by decide) pair_formed (by decide) runs
    (by decide +kernel)).2 2 others 1 (by decide)

end Timed
end Membership
end CraneSps
