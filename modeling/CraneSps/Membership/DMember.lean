import CraneSps.Membership.Member
import Mathlib.Data.List.Sort

/-!
# The membership service of one node

`DMember` without its sockets.  Received maps wait in a queue until the next
round of the heartbeat thread, which holds the locks of the queue and of the
stop flag: it counts its own heartbeat, merges what is in the queue, removes
the members that have failed, and builds the next heartbeat message.  A round
takes no time here: all readings of the clock in it are the same.
-/

namespace CraneSps
namespace Membership

/-- The state of `DMember::Impl`. -/
structure DMember (Id : Type) [LinearOrder Id] where
  id : Id
  memberMap : MemberMap Id
  membersQueue : List (MemberMap Id)
  updateOnNextHeartbeat : Bool
  isStopped : Bool
  /-- The heartbeat thread has ended. -/
  senderFinished : Bool

/-- The `HEARTBEAT` message; its members have the fields of a record. -/
structure HeartBeat (Id : Type) where
  memberlist : List (Member Id)
  updateConnection : Bool
  deriving DecidableEq

/-- The `PING_ACK` message. -/
structure PingAck (Id : Type) where
  id : Id
  count : Int
  deriving DecidableEq

variable {Id : Type} [LinearOrder Id]

/-! ## Messages -/

namespace HeartBeat

/-- The map that is built from a received message. -/
def members (heartbeat : HeartBeat Id) : MemberMap Id :=
  heartbeat.memberlist.foldl SortedMap.insertNew .empty

/-- The sorted list of the members that are not leaving. -/
def memberAddresses (heartbeat : HeartBeat Id) : List Id :=
  (heartbeat.memberlist.filterMap fun member =>
    match heartbeat.members.find member.id with
    | some record => if record.leaving then none else some member.id
    | none => none).insertionSort (· ≤ ·)

end HeartBeat

/-- The record that the introducer makes of a reply to a ping. -/
def PingAck.member (now : Int) (ack : PingAck Id) : Member Id where
  id := ack.id
  count := ack.count
  lastUpdate := now
  leaving := false

namespace DMember

/-- A node that has just been started. -/
def new (id : Id) : DMember Id where
  id := id
  memberMap := .empty
  membersQueue := []
  updateOnNextHeartbeat := false
  isStopped := false
  senderFinished := false

variable (node : DMember Id)

/-- `checkIfLeaving`. -/
def checkIfLeaving (id : Id) : Bool :=
  match node.memberMap.find id with
  | some member => member.leaving
  | none => true

/-- `membershipList`. -/
def membershipList : List Id :=
  node.memberMap.entries.map Member.id

/-- `pushMembersToQueue`. -/
def pushMembersToQueue (members : MemberMap Id) : DMember Id :=
  { node with membersQueue := node.membersQueue ++ [members] }

/-- `process(HeartBeat)`; besides the node, the list that the connections are
updated with, if they are. -/
def process (heartbeat : HeartBeat Id) : DMember Id × Option (List Id) :=
  let needToUpdate := heartbeat.updateConnection ||
    heartbeat.memberlist.any fun member =>
      member.leaving && !node.checkIfLeaving member.id
  (node.pushMembersToQueue heartbeat.members,
    if needToUpdate then some heartbeat.memberAddresses else none)

/-- `replyPingRequest`, which needs an entry of the node itself. -/
def replyPingRequest : Option (PingAck Id) :=
  (node.memberMap.find node.id).map fun member => ⟨node.id, member.count⟩

/-- `checkAvailability` of the introducer, with the replies it gets. -/
def checkAvailability (now : Int) (acks : List (PingAck Id)) : DMember Id :=
  let memberMap := (acks.map (PingAck.member now)).foldl SortedMap.insertNew
    .empty
  { node.pushMembersToQueue memberMap with updateOnNextHeartbeat := true }

/-- `stop`, up to the wait for the heartbeat thread. -/
def stop : DMember Id :=
  { node with isStopped := true }

/-! ## A round of the heartbeat thread -/

/-- The entry of the node itself, which is made when it is missing. -/
def selfNode : Member Id :=
  (node.memberMap.find node.id).getD ⟨node.id, 0, 0, false⟩

/-- The first part of `updateMembers`. -/
def updateSelf (now : Int) : DMember Id :=
  { node with
    memberMap := node.memberMap.insert
      (node.selfNode.update (node.selfNode.count + 1) now node.isStopped) }

/-- The second part of `updateMembers`. -/
def mergeQueue (now : Int) : DMember Id :=
  { node with
    memberMap := node.membersQueue.foldl (mergeMap now) node.memberMap
    membersQueue := [] }

/-- The members that `updateMembers` finds to have failed. -/
def deleteCandidates (now : Int) : List Id :=
  (node.memberMap.entries.filter (Member.shouldBeCleanUp now)).map Member.id

/-- The end of `updateMembers`. -/
def cleanUp (now : Int) : DMember Id :=
  { node with
    memberMap := node.memberMap.filter fun member =>
      !member.shouldBeCleanUp now }

/-- The node when it looks for failed members. -/
def merged (now : Int) : DMember Id :=
  (node.updateSelf now).mergeQueue now

/-- `updateMembers`, with the ids of its `NodeFailEvent`s. -/
def updateMembers (now : Int) : DMember Id × List Id :=
  ((node.merged now).cleanUp now, (node.merged now).deleteCandidates now)

/-- `createHeartbeatMessage`: members that are timed out but not cleaned up
yet are left out, and leaving members are removed. -/
def createHeartbeatMessage (now : Int) : DMember Id × HeartBeat Id :=
  ({ node with
      memberMap := node.memberMap.filter fun member => !member.leaving
      updateOnNextHeartbeat := false },
    { memberlist := node.memberMap.entries.filter fun member =>
        member.leaving || !member.isTimedOut now
      updateConnection := node.updateOnNextHeartbeat })

/-- What a round leaves behind, sends, and reports. -/
structure Round (Id : Type) [LinearOrder Id] where
  node : DMember Id
  message : HeartBeat Id
  failed : List Id

/-- A round of `heartbeatsSendThread`, which is the last one after a stop. -/
def heartbeat (now : Int) : Round Id :=
  let updated := node.updateMembers now
  let created := updated.1.createHeartbeatMessage now
  { node := { created.1 with senderFinished := node.isStopped }
    message := created.2
    failed := updated.2 }

/-! ## Key by key -/

variable {node} {id : Id} {now : Int}

theorem selfNode_id : node.selfNode.id = node.id := by
  unfold selfNode
  cases found : node.memberMap.find node.id with
  | none => rfl
  | some member => exact SortedMap.key_of_find found

theorem find_updateSelf :
    (node.updateSelf now).memberMap.find id =
      if id = node.id then
        some (node.selfNode.update (node.selfNode.count + 1) now
          node.isStopped)
      else node.memberMap.find id := by
  change (node.memberMap.insert _).find id = _
  rw [SortedMap.find_insert, Member.update_id, selfNode_id]

/-- After the merge an entry is what the waiting records make of it. -/
theorem find_merged :
    (node.merged now).memberMap.find id =
      (recordsOf node.membersQueue id).foldl (mergeEntry now)
        ((node.updateSelf now).memberMap.find id) :=
  find_foldl_mergeMap _

theorem find_updateMembers :
    (node.updateMembers now).1.memberMap.find id =
      ((node.merged now).memberMap.find id).filter fun member =>
        !member.shouldBeCleanUp now :=
  SortedMap.find_filter

/-- The entries that a round leaves are those that are neither cleaned up nor
leaving. -/
theorem find_heartbeat :
    (node.heartbeat now).node.memberMap.find id =
      (((node.merged now).memberMap.find id).filter fun member =>
        !member.shouldBeCleanUp now).filter fun member => !member.leaving := by
  change ((node.updateMembers now).1.memberMap.filter _).find id = _
  rw [SortedMap.find_filter, find_updateMembers]

/-- An entry that a round leaves. -/
theorem find_heartbeat_eq_some_iff {member : Member Id} :
    (node.heartbeat now).node.memberMap.find id = some member ↔
      (node.merged now).memberMap.find id = some member ∧
        member.shouldBeCleanUp now = false ∧ member.leaving = false := by
  rw [find_heartbeat, Option.filter_eq_some_iff, Option.filter_eq_some_iff,
    Bool.not_eq_true', Bool.not_eq_true', and_assoc]

/-- An event names a member that has failed. -/
theorem mem_failed_iff :
    id ∈ (node.heartbeat now).failed ↔
      ∃ member, (node.merged now).memberMap.find id = some member ∧
        member.shouldBeCleanUp now = true := by
  change id ∈ ((node.merged now).memberMap.entries.filter _).map _ ↔ _
  simp only [List.mem_map, List.mem_filter]
  constructor
  · rintro ⟨member, ⟨isEntry, fails⟩, rfl⟩
    exact ⟨member, SortedMap.find_of_mem isEntry, fails⟩
  · rintro ⟨member, found, fails⟩
    exact ⟨member, ⟨SortedMap.mem_of_find found, fails⟩,
      SortedMap.key_of_find found⟩

theorem mem_membershipList_iff :
    id ∈ node.membershipList ↔ ∃ member, node.memberMap.find id = some member := by
  rw [membershipList, List.mem_map]
  constructor
  · rintro ⟨member, isEntry, rfl⟩
    exact ⟨member, SortedMap.find_of_mem isEntry⟩
  · rintro ⟨member, found⟩
    exact ⟨member, SortedMap.mem_of_find found, SortedMap.key_of_find found⟩

/-- The records of a message are entries of the node after the merge. -/
theorem find_of_mem_message {member : Member Id}
    (isRecord : member ∈ (node.heartbeat now).message.memberlist) :
    (node.merged now).memberMap.find member.id = some member := by
  obtain ⟨isEntry, _⟩ := List.mem_filter.mp isRecord
  have found : (node.updateMembers now).1.memberMap.find member.id =
      some member := SortedMap.find_of_mem isEntry
  rw [find_updateMembers, Option.filter_eq_some_iff] at found
  exact found.1

end DMember

/-! ## Received messages -/

/-- A map that is filled without replacing anything has only the given
values. -/
theorem mem_of_find_foldl_insertNew
    {values : List (Member Id)} {map : MemberMap Id} {id : Id}
    {member : Member Id}
    (found : (values.foldl SortedMap.insertNew map).find id = some member) :
    map.find id = some member ∨ member ∈ values := by
  induction values generalizing map with
  | nil => exact .inl found
  | cons value values inductionHypothesis =>
      rcases inductionHypothesis found with earlier | later
      · rw [SortedMap.find_insertNew] at earlier
        split at earlier
        · cases old : map.find id with
          | none =>
              rw [old, Option.getD_none, Option.some.injEq] at earlier
              exact .inr (List.mem_cons.mpr (.inl earlier.symm))
          | some previous =>
              rw [old, Option.getD_some] at earlier
              exact .inl earlier
        · exact .inl earlier
      · exact .inr (List.mem_cons_of_mem value later)

/-- The entries of a received map are records of the message. -/
theorem HeartBeat.mem_of_find_members
    {heartbeat : HeartBeat Id} {id : Id} {member : Member Id}
    (found : heartbeat.members.find id = some member) :
    member ∈ heartbeat.memberlist :=
  (mem_of_find_foldl_insertNew found).resolve_left nofun

/-- The list that the connections are updated with is strictly sorted if the
message names no member twice. -/
theorem HeartBeat.sorted_memberAddresses
    {heartbeat : HeartBeat Id}
    (distinct : (heartbeat.memberlist.map Member.id).Nodup) :
    heartbeat.memberAddresses.Pairwise (· < ·) := by
  have ordered : heartbeat.memberAddresses.Pairwise (· ≤ ·) :=
    List.pairwise_insertionSort (· ≤ ·) _
  have nodup : heartbeat.memberAddresses.Nodup := by
    rw [memberAddresses, (List.perm_insertionSort (· ≤ ·) _).nodup_iff,
      List.Nodup, List.pairwise_filterMap]
    refine (List.pairwise_map.mp distinct).imp ?_
    intro first second differs address isFirst address' isSecond same
    split at isFirst
    · split at isFirst
      · cases isFirst
      · split at isSecond
        · split at isSecond
          · cases isSecond
          · obtain rfl := Option.some.inj isFirst
            exact differs (same.trans (Option.some.inj isSecond).symm)
        · cases isSecond
    · cases isFirst
  exact ordered.imp₂ (fun _ _ below differs => lt_of_le_of_ne below differs)
    nodup

/-- The connections that a heartbeat of a round asks for are computed from a
strictly sorted list. -/
theorem DMember.sorted_memberAddresses (node : DMember Id) (now : Int) :
    (node.heartbeat now).message.memberAddresses.Pairwise (· < ·) :=
  HeartBeat.sorted_memberAddresses
    ((List.filter_sublist.map Member.id).nodup
      (node.updateMembers now).1.memberMap.nodup_keys)

end Membership
end CraneSps
