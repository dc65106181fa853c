import CraneSps.Membership.Connection
import CraneSps.Membership.Detection

/-!
# Detection in a ring

In a group whose nodes are connected as `updateConnection` connects them, what
a node sends goes around the ring of the sorted members.  With few crashes it
is nowhere late, so the group detects them, and nothing else.
-/

namespace CraneSps
namespace Membership

variable {Id : Type} [LinearOrder Id]

/-- The nodes have updated their connections with the sorted list of the
members. -/
structure Timing.InRing
    (timing : Timing Id) (introducerAddress : Id) (maxFail : Nat) : Prop where
  sorted : timing.members.Pairwise (· < ·)
  connections : ∀ id, timing.connections id =
    (updateConnection introducerAddress timing.members id maxFail).getD []

/-- Nodes that update their connections when a heartbeat tells them to do so
are connected in a ring: the list that they make of it is sorted. -/
theorem Timing.InRing.of_heartbeat
    {timing : Timing Id} {introducerAddress : Id} {maxFail : Nat}
    (sender : DMember Id) (now : Int)
    (updates : ∀ id ∈ timing.members, ∃ node : DMember Id,
      (node.process (sender.heartbeat now).message).2 = some timing.members)
    (several : timing.members ≠ [])
    (connections : ∀ id, timing.connections id =
      (updateConnection introducerAddress timing.members id maxFail).getD
        []) :
    timing.InRing introducerAddress maxFail where
  sorted := by
    obtain ⟨id, isMember⟩ := List.exists_mem_of_ne_nil _ several
    obtain ⟨node, updated⟩ := updates id isMember
    simp only [DMember.process, Option.ite_none_right_eq_some,
      Option.some.injEq] at updated
    rw [← updated.2]
    exact sender.sorted_memberAddresses now
  connections := connections

namespace Timed

/-- The members that have crashed. -/
def crashedMembers (timing : Timing Id) (timed : Timed Id) : List Id :=
  timing.members.filter timed.gossip.crashed

variable {introducerAddress : Id} {maxFail failures hops : Nat}
variable {timing : Timing Id} {timed next start : Timed Id} {id other : Id}

/-! ## How far the members are apart -/

/-- A heartbeat goes backwards over the connections. -/
theorem Within.of_reachedIn
    (reached : ReachedIn (fun other middle => middle ∈ timing.connections other)
      {other | timed.Runs timing other} hops other id) :
    timed.Within timing id hops other := by
  induction hops generalizing other with
  | zero => exact reached
  | succ hops inductionHypothesis =>
      rcases reached with nearer | ⟨runs, middle, connected, nearer⟩
      · exact .inl (inductionHypothesis nearer)
      · exact .inr ⟨runs, middle, connected, inductionHypothesis nearer⟩

theorem mem_connections_of_subscribes
    (ring : timing.InRing introducerAddress maxFail)
    (several : timing.members.length ≠ 1)
    (subscribes : Subscribes timing.members maxFail other id) :
    id ∈ timing.connections other := by
  rw [ring.connections, updateConnection, if_neg several]
  exact List.mem_cons_of_mem introducerAddress subscribes

/-- In a ring that is short enough for its failures, everything that is sent
comes everywhere in time. -/
theorem withinReach_of_few (ring : timing.InRing introducerAddress maxFail)
    (tolerated : failures ≤ maxFail) (some : 1 ≤ hops)
    (short : timing.members.length - 1 + failures ≤ hops * (maxFail + 1))
    (few : (timed.crashedMembers timing).length ≤ failures) :
    timed.WithinReach timing hops := by
  intro id isMember other runs
  have otherMember := runs.1
  apply Within.of_reachedIn
  by_cases same : other = id
  · subst same
    exact .refl hops other
  have several : timing.members.length ≠ 1 := by
    intro single
    obtain ⟨only, isOnly⟩ := List.length_eq_one_iff.mp single
    rw [isOnly, List.mem_singleton] at isMember otherMember
    exact same (otherMember.trans isMember.symm)
  by_cases complete : timing.members.length ≤ maxFail + 1
  · exact .of_edge runs (mem_connections_of_subscribes ring several
      ((subscribes_iff_of_short complete).mpr ⟨isMember, Ne.symm same⟩)) some
  · let places := ((timing.members.filter timed.gossip.crashed).map
      (memberIndex timing.members)).toFinset
    have fewPlaces : places.card ≤ failures :=
      (List.toFinset_card_le _).trans (by rw [List.length_map]; exact few)
    have isPlace {id : Id} (isMember : id ∈ timing.members) :
        memberIndex timing.members id ∈ places ↔
          timed.gossip.crashed id = true := by
      rw [List.mem_toFinset, List.mem_map]
      constructor
      · rintro ⟨failed, isFailed, sameIndex⟩
        obtain ⟨failedMember, crashed⟩ := List.mem_filter.mp isFailed
        rwa [← memberIndex_inj failedMember isMember sameIndex]
      · intro crashed
        exact ⟨id, List.mem_filter.mpr ⟨isMember, crashed⟩, rfl⟩
    have alive : memberIndex timing.members other ∉ places := by
      rw [isPlace otherMember, runs.2]
      exact Bool.false_ne_true
    have around : ReachedIn (RingGraph.Edge _ (maxFail + 1)) _ hops
        (memberIndex timing.members other) (memberIndex timing.members id) :=
      RingGraph.reachedIn (show places.card < maxFail + 1 by omega)
        (memberIndex_lt otherMember) alive (memberIndex_lt isMember) (by omega)
    refine around.of_numbering (memberIndex timing.members) ?_ ?_ ?_
      (show other ∈ {id | id ∈ timing.members} from otherMember)
      (show id ∈ {id | id ∈ timing.members} from isMember)
    · intro source isSource node isEdge
      have inside : node < timing.members.length := by
        obtain ⟨steps, _, _, rfl⟩ := isEdge
        exact RingGraph.back_lt (by omega)
      have isIndex : memberIndex timing.members timing.members[node] = node :=
        ring.sorted.nodup.idxOf_getElem node inside
      refine ⟨timing.members[node], List.getElem_mem inside, isIndex, ?_⟩
      apply mem_connections_of_subscribes ring several
      refine (subscribes_iff_of_long ring.sorted.nodup (by omega)).mpr
        ⟨List.getElem_mem inside, ?_⟩
      rwa [isIndex]
    · intro node isNode ⟨_, remains⟩
      refine ⟨isNode, ?_⟩
      rw [isPlace isNode, Bool.not_eq_true] at remains
      exact remains
    · intro first isFirst second isSecond sameIndex
      exact memberIndex_inj isFirst isSecond sameIndex

/-! ## Crashes -/

/-- Who has crashed stays crashed. -/
theorem crashed_of_step {action : TimedAction Id}
    (stepped : timed.step timing action = some next)
    (crashed : timed.gossip.crashed id = true) :
    next.gossip.crashed id = true := by
  rcases step_cases stepped with
    ⟨time, rfl, later, onTime, rfl⟩ | ⟨id, rfl, runs, rfl⟩ |
      ⟨id, index, message, rfl, underWay, isSent, running, rfl⟩ |
      ⟨id, rfl, rfl⟩
  · exact crashed
  · exact crashed
  · exact crashed
  · exact (Gossip.SameMaps.crash id).crashed _ crashed

theorem crashed_of_runs {trace : List (TimedAction Id)}
    {before : Timed Id}
    (runs : (timedGossip timing start).Runs before trace timed)
    (crashed : before.gossip.crashed id = true) :
    timed.gossip.crashed id = true :=
  runs.invariant (fun timed => timed.gossip.crashed id = true)
    (fun _ _ _ crashed stepped => crashed_of_step stepped crashed) crashed

/-- As many members have crashed as at the end, or fewer. -/
theorem crashedMembers_le_of_runs {trace : List (TimedAction Id)}
    {before : Timed Id}
    (runs : (timedGossip timing start).Runs before trace timed) :
    (before.crashedMembers timing).length ≤
      (timed.crashedMembers timing).length :=
  (List.monotone_filter_right timing.members fun _ crashed =>
    crashed_of_runs runs crashed).length_le

/-- In a run in the course of which few members crash, all running members
stay within reach. -/
theorem every_connected_of_few {trace : List (TimedAction Id)}
    {before : Timed Id}
    (reaches : ∀ timed : Timed Id,
      (timed.crashedMembers timing).length ≤ failures →
        timed.WithinReach timing hops)
    (runs : (timedGossip timing start).Runs before trace timed)
    (few : (timed.crashedMembers timing).length ≤ failures) :
    (timedGossip timing start).Every (Connected timing hops) before trace := by
  induction trace generalizing before with
  | nil => trivial
  | cons action trace inductionHypothesis =>
      obtain ⟨next, stepped, rest⟩ := TransitionSystem.runs_cons_iff.mp runs
      have isNext : ∀ other ∈ before.step timing action, other = next :=
        fun other isStep => Option.some.inj (isStep.symm.trans stepped)
      refine ⟨?_, fun other isStep => ?_⟩
      · cases action with
        | crash id =>
            intro other isStep
            rw [isNext other isStep]
            exact reaches next ((crashedMembers_le_of_runs rest).trans few)
        | _ => trivial
      · rw [isNext other isStep]
        exact inductionHypothesis rest

/-- A group of nodes that are connected by `updateConnection`, of which no
more crash than are to be tolerated, and whose size, with the crashes added, is
not more than what so many hops get over: it detects every crash, once, and
nothing else. -/
theorem detects_of_few {trace : List (TimedAction Id)}
    (ring : timing.InRing introducerAddress maxFail)
    (tolerated : failures ≤ maxFail)
    (short : timing.members.length - 1 + failures ≤ hops * (maxFail + 1))
    (timely : timing.Timely hops) (formed : start.Formed timing)
    (runs : (timedGossip timing start).Runs start trace timed)
    (few : (timed.crashedMembers timing).length ≤ failures) :
    timed.ReportsCrashes timing ∧
      ∀ id, timed.Runs timing id → ∀ other ∈ timing.members,
        Detects timing hops timed id other := by
  have reaches (timed : Timed Id) :
      (timed.crashedMembers timing).length ≤ failures →
        timed.WithinReach timing hops :=
    withinReach_of_few ring tolerated timely.several short
  obtain ⟨punctual, sound⟩ := punctual_of_runs timely formed
    (reaches start ((crashedMembers_le_of_runs runs).trans few)) runs
    (every_connected_of_few reaches runs few)
  exact ⟨sound, fun _ runs _ otherMember => punctual.detects runs otherMember⟩

/-! Five nodes with the connections of the program, which sends a heartbeat
every half second.  The last two of them crash at the time 0. -/

def fiveTiming : Timing Nat where
  members := [1, 2, 3, 4, 5]
  connections := fun id => (updateConnection 1 [1, 2, 3, 4, 5] id 2).getD []
  offset := fun id => 1000 * id
  period := 600000000
  delay := 60000000

def fiveMeeting : List (GossipAction Nat) :=
  fiveTiming.members.map (fun id => .heartbeat id (1000 * id - 500000000)) ++
    (fiveTiming.members.flatMap fun id =>
      (List.range 5).map fun index => .receive id index) ++
    fiveTiming.members.map fun id => .heartbeat id (1000 * id)

def five : Timed Nat :=
  gathered ((Membership.gossip.run Gossip.initial fiveMeeting).getD
      Gossip.initial)
    (fiveTiming.members.map (fun id => (id, -500000000)) ++
      fiveTiming.members.map fun id => (id, 0))
    (fiveTiming.members.flatMap fun receiver =>
      (fiveTiming.connections receiver).map fun sender =>
        (receiver, sender + 4))

/-- The other ones go on until they have found out. -/
def fiveTrace : List (TimedAction Nat) :=
  [.crash 4, .crash 5, .pass 60000000] ++
    ([1, 2, 3].flatMap fun receiver =>
      (fiveTiming.connections receiver).map fun sender =>
        .receive receiver (sender + 4)) ++
    (List.range 10).flatMap fun round =>
      [.pass ((round + 1) * 600000000), .heartbeat 1, .heartbeat 2,
        .heartbeat 3, .receive 1 (3 * round + 10), .receive 1 (3 * round + 12),
        .receive 2 (3 * round + 10), .receive 3 (3 * round + 10),
        .receive 3 (3 * round + 11)]

theorem five_formed : five.Formed fiveTiming :=
  formed_gathered
    (show Membership.gossip.Runs Gossip.initial fiveMeeting _ from rfl)
    (by simp [fiveMeeting]) (by decide +kernel) (by decide +kernel)
    (by decide +kernel) (by decide +kernel) (by decide +kernel)
    (by decide +kernel) (by decide +kernel) (by decide +kernel)

theorem detects_of_few_five :
    ∃ timed, (timedGossip fiveTiming five).Runs five fiveTrace timed ∧
      (∀ id ∈ [1, 2, 3], ∀ other ∈ [4, 5],
        timed.failuresOf id other = [⟨id, other, false⟩]) ∧
      Detects fiveTiming 2 timed 1 4 := by
  obtain ⟨timed, runs, reported, runner, few⟩ :
      ∃ timed ∈ (timedGossip fiveTiming five).run five fiveTrace,
        (∀ id ∈ [1, 2, 3], ∀ other ∈ [4, 5],
          timed.failuresOf id other = [⟨id, other, false⟩]) ∧
          timed.Runs fiveTiming 1 ∧
            (timed.crashedMembers fiveTiming).length ≤ 2 := by
    decide +kernel
  refine ⟨timed, runs, reported, ?_⟩
  exact (detects_of_few
    (show fiveTiming.InRing 1 2 from ⟨by decide, fun _ => rfl⟩) le_rfl
    (by decide) (by decide) five_formed runs few).2 1 runner 4 (by decide)

end Timed
end Membership
end CraneSps
