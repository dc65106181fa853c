import CraneSps.Foundation.ListUpdate
import CraneSps.Membership.Counts

/-!
# Gossip in time

The rounds and heartbeats of a group of nodes that neither join nor leave, with
a time that all of them share.  Every running node begins its next round within
a period, and every heartbeat reaches the running nodes that are connected to
its sender within a delay; time only passes as far as both allow.  The clocks
of the nodes run alike, but need not agree.
-/

namespace CraneSps
namespace Membership

/-- What is promised about a group. -/
structure Timing (Id : Type) where
  members : List Id
  /-- The nodes whose heartbeats a node receives. -/
  connections : Id → List Id
  /-- How far the clock of a node is ahead of the time. -/
  offset : Id → Int
  /-- The longest time between two rounds of a running node. -/
  period : Int
  /-- The longest time between the sending of a heartbeat and its arrival. -/
  delay : Int

namespace Timing

variable {Id : Type} (timing : Timing Id)

/-- After this time a heartbeat has been merged. -/
def hop : Int :=
  timing.period + timing.delay + 1

/-- After this time the heartbeats of so many connections have been merged. -/
def reach (hops : Nat) : Int :=
  hops * timing.hop

/-- Members that are within reach are heard of before they time out. -/
structure Timely (hops : Nat) : Prop where
  period : 0 < timing.period
  delay : 0 ≤ timing.delay
  several : 1 ≤ hops
  fast : timing.reach (hops + 1) ≤ 2000000000

instance (hops : Nat) : Decidable (timing.Timely hops) :=
  decidable_of_iff
    (0 < timing.period ∧ 0 ≤ timing.delay ∧ 1 ≤ hops ∧
      timing.reach (hops + 1) ≤ 2000000000)
    ⟨fun all => ⟨all.1, all.2.1, all.2.2.1, all.2.2.2⟩,
      fun timely => ⟨timely.period, timely.delay, timely.several,
        timely.fast⟩⟩

theorem reach_succ (hops : Nat) :
    timing.reach (hops + 1) = timing.reach hops + timing.hop := by
  rw [reach, reach, Int.natCast_succ, Int.add_mul, Int.one_mul]

variable {timing} {hops : Nat}

theorem Timely.hop_le_reach (timely : timing.Timely hops) :
    timing.hop ≤ timing.reach hops := by
  have positive : 0 < timing.hop := by
    have period := timely.period
    have delay := timely.delay
    unfold hop
    omega
  obtain ⟨fewer, rfl⟩ := Nat.exists_eq_add_of_le' timely.several
  rw [reach_succ, reach]
  have nonneg : 0 ≤ (fewer : Int) * timing.hop :=
    Int.mul_nonneg (Int.natCast_nonneg fewer) positive.le
  omega

theorem Timely.reach_nonneg (timely : timing.Timely hops) :
    0 ≤ timing.reach hops := by
  have far := timely.hop_le_reach
  have period := timely.period
  have delay := timely.delay
  unfold hop at far
  omega

end Timing

/-- The state of the group. -/
structure Timed (Id : Type) [LinearOrder Id] where
  gossip : Gossip Id
  now : Int
  /-- The time of each node's last round. -/
  lastRound : Id → Int
  /-- The sender and the time of each heartbeat that has been sent. -/
  log : List (Id × Int)
  /-- The receivers and the indices of the heartbeats that are under way. -/
  pending : List (Id × Nat)
  /-- The greatest count of another node that a node had known at a time: no
  part of the code, only of what is said about it. -/
  knownAt : Id → Id → Int → Int

/-- What can happen in the group. -/
inductive TimedAction (Id : Type)
  | pass (time : Int)
  | heartbeat (id : Id)
  | receive (id : Id) (index : Nat)
  | crash (id : Id)
  deriving DecidableEq

/-! ## Ages -/

namespace Member

variable {Id : Type} {now : Int} {member : Member Id}

/-- From this age on a member is timed out. -/
def timeoutAge : Int := 2001000000

/-- From this age on it is cleaned up. -/
def cleanUpAge : Int := 4001000000

theorem duration_eq (past : member.lastUpdate ≤ now)
    (recent : now - member.lastUpdate < 2000000000000000) :
    member.duration now = (now - member.lastUpdate) / 1000000 := by
  rw [duration, Int.tdiv_eq_ediv_of_nonneg (by omega)]
  exact Int.bmod_eq_of_le (by omega) (by omega)

theorem isTimedOut_iff (past : member.lastUpdate ≤ now)
    (recent : now - member.lastUpdate < 2000000000000000) :
    member.isTimedOut now = true ↔ timeoutAge ≤ now - member.lastUpdate := by
  rw [isTimedOut, duration_eq past recent, decide_eq_true_eq, tFail,
    timeoutAge]
  omega

theorem shouldBeCleanUp_iff (past : member.lastUpdate ≤ now)
    (recent : now - member.lastUpdate < 2000000000000000)
    (stays : member.leaving = false) :
    member.shouldBeCleanUp now = true ↔
      cleanUpAge ≤ now - member.lastUpdate := by
  rw [shouldBeCleanUp, duration_eq past recent, stays, Bool.not_false,
    Bool.and_true, decide_eq_true_eq, tFail, tCleanup, cleanUpAge]
  omega

/-- A record that has just been updated is not timed out. -/
theorem isTimedOut_of_now (updated : member.lastUpdate = now) :
    member.isTimedOut now = false := by
  rw [isTimedOut, duration, updated, Int.sub_self]
  rfl

end Member

/-! ## One round, entry by entry -/

/-- What a merge makes of an entry: the entry, or a newer one that has been
updated now; it is as new as all records. -/
theorem foldl_mergeEntry_cases {Id : Type} (now : Int) (member : Member Id)
    (records : List (Member Id)) :
    ∃ merged, records.foldl (mergeEntry now) (some member) = some merged ∧
      (merged = member ∨
        (member.count < merged.count ∧ merged.lastUpdate = now)) ∧
      ∀ record ∈ records, record.count ≤ merged.count := by
  obtain ⟨merged, isMerged, grows, _⟩ :=
    foldl_mergeEntry_some now member records
  refine ⟨merged, isMerged, ?_, fun record isRecord =>
    count_le_foldl_mergeEntry isMerged isRecord⟩
  rcases grows with same | newer
  · exact .inl same
  · refine .inr ⟨newer, ?_⟩
    rcases foldl_mergeEntry_lastUpdate isMerged with same | updated
    · obtain rfl := Option.some.inj same
      exact absurd newer (lt_irrefl _)
    · exact updated

variable {Id : Type} [LinearOrder Id]

/-- A message carries the entries that are not timed out. -/
theorem DMember.find_members_message {node : DMember Id} {id : Id}
    {now : Int} :
    (node.heartbeat now).message.members.find id =
      ((node.updateMembers now).1.memberMap.find id).filter fun member =>
        member.leaving || !member.isTimedOut now := by
  let effect (old : Option (Member Id)) (record : Member Id) :
      Option (Member Id) := some (old.getD record)
  have isolated : ∀ (map : MemberMap Id) (record : Member Id) (id : Id),
      (map.insertNew record).find id =
        if id = record.id then effect (map.find id) record
        else map.find id := fun _ _ _ => SortedMap.find_insertNew
  have kept : (node.heartbeat now).message.members =
      ((node.updateMembers now).1.memberMap.filter fun member =>
        member.leaving || !member.isTimedOut now).entries.foldl
          SortedMap.insertNew .empty := rfl
  rw [kept, SortedMap.find_foldl isolated, SortedMap.find_filter]
  cases (node.updateMembers now).1.memberMap.find id with
  | none => rfl
  | some member => cases Option.filter _ (some member) <;> rfl

namespace Timed

variable (timing : Timing Id) (timed : Timed Id)

/-- The node is a member and has not crashed. -/
def Runs (id : Id) : Prop :=
  id ∈ timing.members ∧ timed.gossip.crashed id = false

instance (id : Id) : Decidable (timed.Runs timing id) := by
  unfold Runs
  infer_instance

/-- Neither a round nor an arrival is overdue at the time. -/
def OnTime (time : Int) : Prop :=
  (∀ id ∈ timing.members, timed.gossip.crashed id = false →
    time ≤ timed.lastRound id + timing.period) ∧
  ∀ entry ∈ timed.pending, timed.gossip.crashed entry.1 = false →
    ∀ sent ∈ timed.log[entry.2]?, time ≤ sent.2 + timing.delay

instance (time : Int) : Decidable (timed.OnTime timing time) := by
  unfold OnTime
  infer_instance

/-- A round of a node, after which its heartbeat is on the way to the members
that are connected to it. -/
def beat (id : Id) (gossip : Gossip Id) : Timed Id where
  gossip := gossip
  now := timed.now
  lastRound := Function.update timed.lastRound id timed.now
  log := timed.log ++ [(id, timed.now)]
  pending := timed.pending ++
    (timing.members.filter fun receiver =>
      id ∈ timing.connections receiver).map fun receiver =>
        (receiver, timed.gossip.sent.length)
  knownAt := Function.update timed.knownAt id fun other time =>
    if timed.now ≤ time then
      ((gossip.node id).memberMap.find other).elim
        (timed.knownAt id other timed.now) Member.count
    else timed.knownAt id other time

/-- One step of the group. -/
def step : TimedAction Id → Option (Timed Id)
  | .pass time =>
      if timed.now ≤ time ∧ timed.OnTime timing time then
        some { timed with now := time }
      else none
  | .heartbeat id =>
      if id ∈ timing.members then
        (timed.gossip.step (.heartbeat id
          (timed.now + timing.offset id))).map (timed.beat timing id)
      else none
  | .receive id index =>
      if (id, index) ∈ timed.pending then
        (timed.gossip.step (.receive id index)).map fun gossip =>
          { timed with
            gossip := gossip
            pending := timed.pending.erase (id, index) }
      else none
  | .crash id =>
      (timed.gossip.step (.crash id)).map fun gossip =>
        { timed with gossip := gossip }

/-- What a node has sent reaches the other one over at most so many
connections of running nodes. -/
def Within (id : Id) : Nat → Id → Prop
  | 0, other => other = id
  | hops + 1, other =>
      Within id hops other ∨
        (timed.Runs timing other ∧
          ∃ middle ∈ timing.connections other, Within id hops middle)

instance Within.decidable (id : Id) :
    (hops : Nat) → (other : Id) → Decidable (timed.Within timing id hops other)
  | 0, _ => inferInstanceAs (Decidable (_ = id))
  | hops + 1, _ =>
      have := Within.decidable id hops
      inferInstanceAs (Decidable (_ ∨ _))

/-- No member is further from a running one. -/
def WithinReach (hops : Nat) : Prop :=
  ∀ id ∈ timing.members, ∀ other, timed.Runs timing other →
    timed.Within timing id hops other

instance (hops : Nat) : Decidable (timed.WithinReach timing hops) :=
  decidable_of_iff
    (∀ id ∈ timing.members, ∀ other ∈ timing.members,
      timed.gossip.crashed other = false →
        timed.Within timing id hops other)
    ⟨fun all id isMember other runs => all id isMember other runs.1 runs.2,
      fun reach id isMember other otherMember running =>
        reach id isMember other ⟨otherMember, running⟩⟩

/-- Crashes leave every running member within reach of every other. -/
def Connected (hops : Nat) (timed : Timed Id) : TimedAction Id → Prop
  | .crash id =>
      ∀ next ∈ timed.step timing (.crash id), next.WithinReach timing hops
  | _ => True

instance (hops : Nat) (timed : Timed Id) :
    (action : TimedAction Id) → Decidable (Connected timing hops timed action)
  | .crash id => inferInstanceAs (Decidable
      (∀ next ∈ timed.step timing (.crash id), next.WithinReach timing hops))
  | .pass _ | .heartbeat _ | .receive _ _ => inferInstanceAs (Decidable True)

/-- What a node has found out about another one. -/
def known (id other : Id) : Int :=
  timed.knownAt id other timed.now

/-- The heartbeat at an index, with its sender and time. -/
def Sent (index : Nat) (sender : Id) (time : Int) (message : HeartBeat Id) :
    Prop :=
  timed.log[index]? = some (sender, time) ∧
    timed.gossip.sent[index]? = some message

/-- All members have just had a round in which they heard of each other, and
the heartbeats of this round are on the way. -/
structure Formed : Prop where
  faithful : timed.gossip.Faithful
  staying : ∀ id, (timed.gossip.node id).isStopped = false
  running : ∀ id ∈ timing.members, timed.gossip.crashed id = false
  now : timed.now = 0
  lastRound : ∀ id ∈ timing.members, timed.lastRound id = 0
  /-- What has been sent before has been merged or is in the queue. -/
  logged : timed.log.length = timed.gossip.sent.length
  acquainted : ∀ id ∈ timing.members, ∀ other ∈ timing.members,
    ∃ member, (timed.gossip.node id).memberMap.find other = some member ∧
      member.lastUpdate = timing.offset id ∧
        ∀ time, timed.knownAt id other time = member.count
  idle : ∀ id ∈ timing.members, (timed.gossip.node id).membersQueue = []
  announced : ∀ id ∈ timing.members, ∃ index message,
    timed.Sent index id 0 message ∧
      ∀ other ∈ timing.members,
        message.members.find other =
          (timed.gossip.node id).memberMap.find other
  merged : ∀ index sender time message, timed.Sent index sender time message →
    time ≤ 0 ∧ ∀ receiver ∈ timing.members,
      sender ∈ timing.connections receiver →
        (receiver, index) ∈ timed.pending ∨
          ∀ other ∈ timing.members,
            ∀ record ∈ message.members.find other,
              record.count ≤ timed.known receiver other
  pending : ∀ entry ∈ timed.pending, ∃ sender, timed.log[entry.2]? =
    some (sender, 0)
  unreported : ∀ failure ∈ timed.gossip.failures,
    failure.observer ∈ timing.members → failure.id ∉ timing.members

end Timed

/-- The group, from a given state. -/
def timedGossip (timing : Timing Id) (start : Timed Id) :
    TransitionSystem (Timed Id) (TimedAction Id) where
  initial := start
  step := Timed.step timing

end Membership
end CraneSps
