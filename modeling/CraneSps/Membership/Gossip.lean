import CraneSps.Foundation.TransitionSystem
import CraneSps.Membership.DMember
import Mathlib.Logic.Function.Basic

/-!
# Nodes that gossip

Any number of nodes, started once, whose heartbeats and replies to pings can
be lost, delayed, repeated and reordered: a message that has been sent can be
received by any node, any number of times, at any later time.  The clock of
each round is arbitrary as well.
-/

namespace CraneSps
namespace Membership

variable {Id : Type} [LinearOrder Id]

/-- A `NodeFailEvent`. -/
structure Failure (Id : Type) where
  observer : Id
  id : Id
  /-- The node had already sent its leaving record. -/
  afterLeave : Bool
  deriving DecidableEq

/-- An entry of another node that a node has removed from its map. -/
structure Removal (Id : Type) where
  observer : Id
  member : Member Id
  deriving DecidableEq

/-- The nodes and what they have sent. -/
structure Gossip (Id : Type) [LinearOrder Id] where
  node : Id → DMember Id
  crashed : Id → Bool
  sent : List (HeartBeat Id)
  acks : List (PingAck Id)
  /-- The count that each node has last given itself: like the next two
  fields no part of the code, only of what is said about it. -/
  ownCount : Id → Int
  removals : List (Removal Id)
  failures : List (Failure Id)

/-- What can happen among the nodes. -/
inductive GossipAction (Id : Type)
  /-- A round of the heartbeat thread. -/
  | heartbeat (id : Id) (now : Int)
  /-- A node receives a heartbeat that has been sent. -/
  | receive (id : Id) (index : Nat)
  /-- A node is pinged. -/
  | ping (id : Id)
  /-- The introducer has collected some replies to its pings. -/
  | checkAvailability (id : Id) (indices : List Nat) (now : Int)
  | stop (id : Id)
  | crash (id : Id)
  deriving DecidableEq

namespace Gossip

/-- Nothing has happened yet. -/
def initial : Gossip Id where
  node := DMember.new
  crashed := fun _ => false
  sent := []
  acks := []
  ownCount := fun _ => 0
  removals := []
  failures := []

variable (state : Gossip Id)

/-- Replace a node. -/
def setNode (id : Id) (node : DMember Id) : Gossip Id :=
  { state with node := Function.update state.node id node }

/-- The entries of other nodes that a round of a node removes. -/
def removedBy (id : Id) (now : Int) : List (Member Id) :=
  ((state.node id).merged now).memberMap.entries.filter fun member =>
    member.id != id && (member.shouldBeCleanUp now || member.leaving)

/-- A round of a node. -/
def heartbeat (id : Id) (now : Int) : Gossip Id :=
  let round := (state.node id).heartbeat now
  { state.setNode id round.node with
    sent := state.sent ++ [round.message]
    ownCount := Function.update state.ownCount id
      ((state.node id).selfNode.count + 1)
    removals := state.removals ++
      (state.removedBy id now).map fun member => ⟨id, member⟩
    failures := state.failures ++ round.failed.map fun failed =>
      ⟨id, failed, (state.node failed).senderFinished⟩ }

/-- One step of the group. -/
def step : GossipAction Id → Option (Gossip Id)
  | .heartbeat id now =>
      if state.crashed id || (state.node id).senderFinished then none
      else some (state.heartbeat id now)
  | .receive id index =>
      match state.sent[index]? with
      | some message =>
          if state.crashed id then none
          else some (state.setNode id ((state.node id).process message).1)
      | none => none
  | .ping id =>
      if state.crashed id then none
      else
        match (state.node id).replyPingRequest with
        | some ack => some { state with acks := state.acks ++ [ack] }
        -- without an entry of its own the node follows a null pointer
        | none =>
            some { state with crashed := Function.update state.crashed id true }
  | .checkAvailability id indices now =>
      if state.crashed id then none
      else
        some (state.setNode id ((state.node id).checkAvailability now
          (indices.filterMap fun index => state.acks[index]?)))
  | .stop id =>
      if state.crashed id then none
      else some (state.setNode id (state.node id).stop)
  | .crash id =>
      some { state with crashed := Function.update state.crashed id true }

/-! ## What a step can do -/

variable {state} {next : Gossip Id} {id other : Id}

/-- Only queues, flags and replies to pings differ. -/
structure SameMaps (state next : Gossip Id) : Prop where
  maps : ∀ id, (next.node id).memberMap = (state.node id).memberMap
  finished : ∀ id,
    (next.node id).senderFinished = (state.node id).senderFinished
  crashed : ∀ id, state.crashed id = true → next.crashed id = true
  ownCount : next.ownCount = state.ownCount
  removals : next.removals = state.removals
  failures : next.failures = state.failures

theorem setNode_node (node : DMember Id) :
    (state.setNode id node).node = Function.update state.node id node := rfl

theorem heartbeat_node (id : Id) (now : Int) :
    (state.heartbeat id now).node =
      Function.update state.node id ((state.node id).heartbeat now).node := rfl

/-- A node that is replaced keeps what the new one keeps. -/
theorem setNode_congr {Value : Type} (field : DMember Id → Value)
    {node : DMember Id} (same : field node = field (state.node id)) :
    field ((state.setNode id node).node other) = field (state.node other) := by
  rw [setNode_node]
  by_cases this : other = id
  · subst this
    rw [Function.update_self, same]
  · rw [Function.update_of_ne this]

theorem SameMaps.setNode {node : DMember Id}
    (sameMap : node.memberMap = (state.node id).memberMap)
    (sameFinished : node.senderFinished = (state.node id).senderFinished) :
    SameMaps state (state.setNode id node) where
  maps := fun _ => setNode_congr DMember.memberMap sameMap
  finished := fun _ => setNode_congr DMember.senderFinished sameFinished
  crashed := fun _ down => down
  ownCount := rfl
  removals := rfl
  failures := rfl

/-- A crash leaves the nodes as they are. -/
theorem SameMaps.crash (id : Id) :
    SameMaps state
      { state with crashed := Function.update state.crashed id true } where
  maps := fun _ => rfl
  finished := fun _ => rfl
  crashed := by
    intro other down
    by_cases same : other = id
    · subst same
      exact Function.update_self _ _ _
    · exact (Function.update_of_ne same _ _).trans down
  ownCount := rfl
  removals := rfl
  failures := rfl

/-- A step is a round of a running node, or it leaves all maps alone. -/
theorem step_cases {action : GossipAction Id}
    (stepped : state.step action = some next) :
    (∃ id now, action = .heartbeat id now ∧ state.crashed id = false ∧
        (state.node id).senderFinished = false ∧
        next = state.heartbeat id now) ∨
      ((∀ id now, action ≠ .heartbeat id now) ∧ SameMaps state next) := by
  cases action with
  | heartbeat id now =>
      simp only [step, Option.ite_none_left_eq_some, Bool.or_eq_true,
        not_or, Bool.not_eq_true, Option.some.injEq] at stepped
      obtain ⟨⟨running, unfinished⟩, rfl⟩ := stepped
      exact .inl ⟨id, now, rfl, running, unfinished, rfl⟩
  | receive id index =>
      simp only [step] at stepped
      split at stepped
      · rw [Option.ite_none_left_eq_some, Option.some.injEq] at stepped
        obtain ⟨_, rfl⟩ := stepped
        exact .inr ⟨nofun, .setNode rfl rfl⟩
      · cases stepped
  | ping id =>
      simp only [step, Option.ite_none_left_eq_some] at stepped
      obtain ⟨_, stepped⟩ := stepped
      split at stepped
      · obtain rfl := Option.some.inj stepped
        exact .inr ⟨nofun, ⟨fun _ => rfl, fun _ => rfl, fun _ down => down,
          rfl, rfl, rfl⟩⟩
      · obtain rfl := Option.some.inj stepped
        exact .inr ⟨nofun, .crash id⟩
  | checkAvailability id indices now =>
      simp only [step, Option.ite_none_left_eq_some, Option.some.injEq]
        at stepped
      obtain ⟨_, rfl⟩ := stepped
      exact .inr ⟨nofun, .setNode rfl rfl⟩
  | stop id =>
      simp only [step, Option.ite_none_left_eq_some, Option.some.injEq]
        at stepped
      obtain ⟨_, rfl⟩ := stepped
      exact .inr ⟨nofun, .setNode rfl rfl⟩
  | crash id =>
      obtain rfl := Option.some.inj stepped
      exact .inr ⟨nofun, .crash id⟩

end Gossip

/-- The group, from its start. -/
def gossip : TransitionSystem (Gossip Id) (GossipAction Id) where
  initial := Gossip.initial
  step := Gossip.step

end Membership
end CraneSps
