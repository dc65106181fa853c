import CraneSps.Membership.OwnEntry
import CraneSps.Membership.Timed

/-!
# Groups whose counts are integers of 32 bits

The nodes of `Gossip` count as far as they like, those of the code with an
`int` that wraps.  As long as no node has begun round 2 ^ 31, there is no
difference: the two groups make the same runs.  So what is said of the runs of
`Gossip` and of a group in time is true of the code for 34 years of rounds that
are half a second apart.
-/

namespace CraneSps
namespace Membership

variable {Id : Type} [LinearOrder Id]

/-- The action is a round of the node. -/
def GossipAction.isRound (id : Id) : GossipAction Id → Bool
  | .heartbeat other _ => other == id
  | _ => false

/-- The number of rounds of a node. -/
def rounds (id : Id) (trace : List (GossipAction Id)) : Nat :=
  trace.countP (GossipAction.isRound id)

namespace Gossip

variable (state : Gossip Id)

/-- A round that counts with an `int`. -/
def heartbeat32 (id : Id) (now : Int) : Gossip Id :=
  let readings : Readings := ⟨now, now, now, now⟩
  let round := (state.node id).iterate readings
  let removed := ((state.node id).mergedAt readings).memberMap.entries.filter
    fun member => member.id != id &&
      (member.shouldBeCleanUp now || member.leaving)
  { state.setNode id round.node with
    sent := state.sent ++ [round.message]
    ownCount := Function.update state.ownCount id
      (((state.node id).selfNode.count + 1).bmod (2 ^ 32))
    removals := state.removals ++ removed.map fun member => ⟨id, member⟩
    failures := state.failures ++ round.failed.map fun failed =>
      ⟨id, failed, (state.node failed).senderFinished⟩ }

/-- One step of a group that counts with `int`s. -/
def step32 : GossipAction Id → Option (Gossip Id)
  | .heartbeat id now =>
      if state.crashed id || (state.node id).senderFinished then none
      else some (state.heartbeat32 id now)
  | action => state.step action

variable {state} {start finish next : Gossip Id} {id : Id} {now : Int}
variable {action : GossipAction Id} {trace : List (GossipAction Id)}

/-- A count that fits is counted alike. -/
theorem heartbeat32_eq
    (fits : IsInt32 ((state.node id).selfNode.count + 1)) :
    state.heartbeat32 id now = state.heartbeat id now := by
  have sameRound := DMember.iterate_eq_heartbeat now fits
  have sameMap := DMember.mergedAt_eq_merged now fits
  simp only [heartbeat32, sameRound, sameMap, fits.bmod_eq]
  rfl

/-- No node reaches the largest `int` in the rounds of the trace. -/
def Counts32 (state : Gossip Id) (trace : List (GossipAction Id)) : Prop :=
  ∀ id, 0 ≤ state.ownCount id ∧ state.ownCount id + rounds id trace < 2 ^ 31

theorem rounds_cons (id : Id) (action : GossipAction Id) :
    rounds id (action :: trace) =
      rounds id trace + if action.isRound id then 1 else 0 :=
  List.countP_cons

/-- Then the next step is the same. -/
theorem Counts32.step_eq
    (counts : state.Counts32 (action :: trace)) (faithful : Faithful state) :
    state.step32 action = state.step action := by
  cases action with
  | heartbeat id now =>
      simp only [step32, step]
      split
      · rfl
      · next able =>
          have running : (state.node id).senderFinished = false := by
            simpa using (Bool.or_eq_false_iff.mp
              (Bool.eq_false_of_not_eq_true able)).2
          rw [heartbeat32_eq]
          have own := faithful.selfNode_count running
          obtain ⟨nonneg, few⟩ := counts id
          rw [rounds_cons] at few
          simp only [GossipAction.isRound, beq_self_eq_true, if_true] at few
          exact ⟨by omega, by omega⟩
  | _ => rfl

/-- And the rounds that are left are counted from there. -/
theorem Counts32.of_step
    (counts : state.Counts32 (action :: trace)) (faithful : Faithful state)
    (stepped : state.step action = some next) : next.Counts32 trace := by
  intro id
  obtain ⟨nonneg, few⟩ := counts id
  rw [rounds_cons] at few
  rcases step_cases stepped with
    ⟨beating, now, rfl, _, running, rfl⟩ | ⟨_, sameMaps⟩
  · rw [faithful.heartbeat_ownCount running]
    by_cases same : id = beating
    · subst same
      simp only [GossipAction.isRound, beq_self_eq_true, if_true] at few
      rw [Function.update_self]
      omega
    · rw [Function.update_of_ne same]
      omega
  · rw [sameMaps.ownCount]
    omega

end Gossip

/-- The group that counts with `int`s, from its start. -/
def gossip32 : TransitionSystem (Gossip Id) (GossipAction Id) where
  initial := Gossip.initial
  step := Gossip.step32

namespace Gossip

variable {start finish : Gossip Id} {trace : List (GossipAction Id)}

/-- As long as the counts fit, the two groups make the same runs. -/
theorem runs_gossip32_iff_of_faithful
    (faithful : Faithful start) (counts : start.Counts32 trace) :
    gossip32.Runs start trace finish ↔ gossip.Runs start trace finish := by
  induction trace generalizing start with
  | nil => exact Iff.rfl
  | cons action trace inductionHypothesis =>
      have sameStep : gossip32.step start action = gossip.step start action :=
        counts.step_eq faithful
      rw [TransitionSystem.runs_cons_iff, TransitionSystem.runs_cons_iff,
        sameStep]
      refine exists_congr fun next => and_congr_right fun stepped => ?_
      exact inductionHypothesis (faithful.step stepped)
        (counts.of_step faithful stepped)

/-- From the start of the nodes, as long as none has begun round 2 ^ 31. -/
theorem runs_gossip32_iff
    (few : ∀ id : Id, rounds id trace < 2 ^ 31) :
    gossip32.Runs Gossip.initial trace finish ↔
      gossip.Runs Gossip.initial trace finish := by
  apply runs_gossip32_iff_of_faithful .initial
  intro id
  have bound := few id
  change (0 : Int) ≤ 0 ∧ 0 + (rounds id trace : Int) < 2 ^ 31
  omega

end Gossip

/-! ## Groups in time -/

namespace Timed

variable {timing : Timing Id} {first start timed next : Timed Id}
variable {action : TimedAction Id} {trace : List (TimedAction Id)}

/-- The number of rounds of a node. -/
def rounds (id : Id) (trace : List (TimedAction Id)) : Nat :=
  trace.countP fun action => action = .heartbeat id

/-- A step lets time pass or is a step of the nodes. -/
theorem gossip_of_step (stepped : timed.step timing action = some next) :
    (next.gossip = timed.gossip ∧ ∀ id, action ≠ .heartbeat id) ∨
      ∃ happens, timed.gossip.step happens = some next.gossip ∧
        ∀ id, happens.isRound id = decide (action = .heartbeat id) := by
  cases action with
  | pass time =>
      simp only [step, Option.ite_none_right_eq_some,
        Option.some.injEq] at stepped
      obtain ⟨_, rfl⟩ := stepped
      exact .inl ⟨rfl, nofun⟩
  | heartbeat id =>
      simp only [step, Option.ite_none_right_eq_some,
        Option.map_eq_some_iff] at stepped
      obtain ⟨_, gossip, happens, rfl⟩ := stepped
      refine .inr ⟨_, happens, fun other => ?_⟩
      simp [GossipAction.isRound, beq_eq_decide]
  | receive id index =>
      simp only [step, Option.ite_none_right_eq_some,
        Option.map_eq_some_iff] at stepped
      obtain ⟨_, gossip, happens, rfl⟩ := stepped
      exact .inr ⟨_, happens, fun _ => rfl⟩
  | crash id =>
      simp only [step, Option.map_eq_some_iff] at stepped
      obtain ⟨gossip, happens, rfl⟩ := stepped
      exact .inr ⟨_, happens, fun _ => rfl⟩

/-- What happens among the nodes of a group in time can happen without it. -/
theorem exists_runs_gossip
    (runs : (timedGossip timing first).Runs start trace timed) :
    ∃ happened, Membership.gossip.Runs start.gossip happened timed.gossip ∧
      ∀ id, Membership.rounds id happened = rounds id trace := by
  induction trace generalizing start with
  | nil =>
      obtain rfl := TransitionSystem.runs_nil_iff.mp runs
      exact ⟨[], rfl, fun _ => rfl⟩
  | cons action trace inductionHypothesis =>
      obtain ⟨middle, stepped, rest⟩ := TransitionSystem.runs_cons_iff.mp runs
      obtain ⟨happened, continues, sameRounds⟩ := inductionHypothesis rest
      rcases gossip_of_step stepped with
        ⟨same, noRound⟩ | ⟨event, happens, isRound⟩
      · refine ⟨happened, same ▸ continues, fun id => ?_⟩
        rw [sameRounds id, rounds, rounds, List.countP_cons_of_neg]
        simpa using noRound id
      · refine ⟨event :: happened, TransitionSystem.runs_cons_iff.mpr
          ⟨_, happens, continues⟩, fun id => ?_⟩
        rw [Gossip.rounds_cons, sameRounds id, isRound id, rounds, rounds,
          List.countP_cons]

/-- So it can happen with `int`s, as long as the counts fit. -/
theorem exists_runs_gossip32
    (faithful : start.gossip.Faithful)
    (few : ∀ id, 0 ≤ start.gossip.ownCount id ∧
      start.gossip.ownCount id + rounds id trace < 2 ^ 31)
    (runs : (timedGossip timing first).Runs start trace timed) :
    ∃ happened, gossip32.Runs start.gossip happened timed.gossip := by
  obtain ⟨happened, happens, sameRounds⟩ := exists_runs_gossip runs
  refine ⟨happened, (Gossip.runs_gossip32_iff_of_faithful faithful
    fun id => ?_).mpr happens⟩
  rw [sameRounds id]
  exact few id

end Timed
end Membership
end CraneSps
