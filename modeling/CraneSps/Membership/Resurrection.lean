import CraneSps.Membership.Counts

/-!
# Removed members and old records

A node keeps no memory of a member that it has removed, so an old record of the
member brings it back.  As long as every newcomer is newer than what has been
removed before, an entry that appears after a removal is newer as well, and a
member that was removed because it left does not come back at all.
-/

namespace CraneSps
namespace Membership
namespace Gossip

variable {Id : Type} [LinearOrder Id]

/-- After a removal only newer entries appear, a member that has left is never
added again, and its leaving is not taken for a failure. -/
structure StaysRemoved (state : Gossip Id) : Prop where
  newer : ∀ removal ∈ state.removals,
    ∀ entry ∈ (state.node removal.observer).memberMap.find removal.member.id,
      removal.member.count < entry.count
  gone : ∀ removal ∈ state.removals, removal.member.leaving = true →
    (state.node removal.observer).memberMap.find removal.member.id = none
  unreported : ∀ failure ∈ state.failures, failure.afterLeave = false

/-- The round of a node takes up a member that it has removed only from a
newer record, and it merges a newer record of every member that has left and
would be cleaned up. -/
structure FreshRound (state : Gossip Id) (id : Id) (now : Int) : Prop where
  newcomers : ∀ removal ∈ state.removals, removal.observer = id →
    (state.node id).memberMap.find removal.member.id = none →
    ∀ record ∈ newcomer
      (recordsOf (state.node id).membersQueue removal.member.id),
      removal.member.count < record.count
  departed : ∀ member ∈ (state.node id).memberMap.entries,
    (state.node member.id).senderFinished = true →
    member.shouldBeCleanUp now = true →
    ∃ record ∈ recordsOf (state.node id).membersQueue member.id,
      member.count < record.count

/-- All rounds are fresh. -/
def Fresh (state : Gossip Id) : GossipAction Id → Prop
  | .heartbeat id now => FreshRound state id now
  | _ => True

instance (state : Gossip Id) (id : Id) (now : Int) :
    Decidable (FreshRound state id now) :=
  decidable_of_iff
    ((∀ removal ∈ state.removals, removal.observer = id →
      (state.node id).memberMap.find removal.member.id = none →
      ∀ record ∈ newcomer
        (recordsOf (state.node id).membersQueue removal.member.id),
        removal.member.count < record.count) ∧
      ∀ member ∈ (state.node id).memberMap.entries,
        (state.node member.id).senderFinished = true →
        member.shouldBeCleanUp now = true →
        ∃ record ∈ recordsOf (state.node id).membersQueue member.id,
          member.count < record.count)
    ⟨fun both => ⟨both.1, both.2⟩, fun fresh => ⟨fresh.1, fresh.2⟩⟩

instance (state : Gossip Id) (action : GossipAction Id) :
    Decidable (Fresh state action) := by
  rcases action <;> unfold Fresh <;> infer_instance

/-- What fresh runs preserve. -/
structure Remembered (state : Gossip Id) : Prop where
  faithful : Faithful state
  foreign : ∀ removal ∈ state.removals,
    removal.member.id ≠ removal.observer
  vouched : ∀ removal ∈ state.removals,
    state.Vouched removal.member.id removal.member.count
      removal.member.leaving
  newer : ∀ removal ∈ state.removals,
    ∀ entry ∈ (state.node removal.observer).memberMap.find removal.member.id,
      removal.member.count < entry.count
  unreported : ∀ failure ∈ state.failures, failure.afterLeave = false

namespace Remembered

variable {state next : Gossip Id} {id : Id} {now : Int}

theorem initial : Remembered (Gossip.initial : Gossip Id) where
  faithful := .initial
  foreign := nofun
  vouched := nofun
  newer := nofun
  unreported := nofun

section Round

variable (remembered : Remembered state)
include remembered

/-- A member that was removed earlier is newer after a fresh round. -/
theorem newer_heartbeat
    (fresh : FreshRound state id now) {removal : Removal Id}
    (isRemoval : removal ∈ state.removals) (observes : removal.observer = id)
    {entry : Member Id}
    (found : ((state.node id).merged now).memberMap.find removal.member.id =
      some entry) :
    removal.member.count < entry.count := by
  rw [DMember.find_merged] at found
  cases before : (state.node id).memberMap.find removal.member.id with
  | some old =>
      have newer := remembered.newer removal isRemoval old
        (observes ▸ before)
      obtain ⟨started, isStarted, grows⟩ :=
        exists_find_updateSelf before now
      rw [isStarted] at found
      obtain ⟨merged, isMerged, more, _⟩ := foldl_mergeEntry_some now started
        (recordsOf (state.node id).membersQueue removal.member.id)
      obtain rfl := Option.some.inj (isMerged.symm.trans found)
      rcases more with rfl | more <;> omega
  | none =>
      have other : removal.member.id ≠ id := by
        rw [← observes]
        exact remembered.foreign removal isRemoval
      rw [DMember.find_updateSelf, remembered.faithful.ids, if_neg other,
        before] at found
      obtain ⟨record, isNewcomer, older⟩ := exists_newcomer found
      have newer := fresh.newcomers removal isRemoval observes before record
        isNewcomer
      omega

/-- A fresh round does not report a member that has left. -/
theorem unreported_heartbeat
    (running : (state.node id).senderFinished = false)
    (fresh : FreshRound state id now) {failed : Id}
    (isFailed : failed ∈ ((state.node id).heartbeat now).failed) :
    (state.node failed).senderFinished = false := by
  by_contra left
  have finished : (state.node failed).senderFinished = true := by
    simpa using left
  have other : failed ≠ id := by
    rintro rfl
    rw [finished] at running
    nomatch running
  obtain ⟨member, found, isOld⟩ := DMember.mem_failed_iff.mp isFailed
  rw [DMember.find_merged, DMember.find_updateSelf, remembered.faithful.ids,
    if_neg other] at found
  rcases foldl_mergeEntry_lastUpdate found with before | updated
  · have isId := SortedMap.key_of_find before
    subst isId
    obtain ⟨record, isRecord, newer⟩ := fresh.departed member
      (SortedMap.mem_of_find before) finished isOld
    rw [before] at found
    have notOlder := count_le_foldl_mergeEntry found isRecord
    omega
  · rw [Member.shouldBeCleanUp_of_now updated] at isOld
    nomatch isOld

theorem heartbeat
    (running : (state.node id).senderFinished = false)
    (fresh : FreshRound state id now) :
    Remembered (state.heartbeat id now) := by
  have isNew : ∀ removal ∈ (state.removedBy id now).map
      (fun member => (⟨id, member⟩ : Removal Id)),
      removal.observer = id ∧ removal.member.id ≠ id ∧
        ((state.node id).merged now).memberMap.find removal.member.id =
          some removal.member ∧
        (removal.member.shouldBeCleanUp now = true ∨
          removal.member.leaving = true) := by
    intro removal isRemoval
    obtain ⟨member, isRemoved, rfl⟩ := List.mem_map.mp isRemoval
    obtain ⟨isEntry, other⟩ := List.mem_filter.mp isRemoved
    rw [Bool.and_eq_true, bne_iff_ne, Bool.or_eq_true] at other
    exact ⟨rfl, other.1, SortedMap.find_of_mem isEntry, other.2⟩
  refine
    { faithful := remembered.faithful.heartbeat running
      foreign := ?_
      vouched := ?_
      newer := ?_
      unreported := ?_ }
  · intro removal isRemoval
    rcases List.mem_append.mp isRemoval with earlier | new
    · exact remembered.foreign removal earlier
    · obtain ⟨observes, other, _⟩ := isNew removal new
      rw [observes]
      exact other
  · intro removal isRemoval
    rcases List.mem_append.mp isRemoval with earlier | new
    · exact remembered.faithful.vouched_heartbeat running
        (remembered.vouched removal earlier)
    · obtain ⟨_, _, found, _⟩ := isNew removal new
      exact remembered.faithful.vouched_heartbeat_of_merged running found
  · intro removal isRemoval entry found
    rw [heartbeat_node] at found
    rcases List.mem_append.mp isRemoval with earlier | new
    · by_cases observes : removal.observer = id
      · rw [observes, Function.update_self] at found
        exact remembered.newer_heartbeat fresh earlier observes
          (DMember.find_heartbeat_eq_some_iff.mp found).1
      · rw [Function.update_of_ne observes] at found
        exact remembered.newer removal earlier entry found
    · -- a round leaves no entry that it has removed
      obtain ⟨observes, _, removed, why⟩ := isNew removal new
      rw [observes, Function.update_self] at found
      obtain ⟨same, notOld, stays⟩ :=
        DMember.find_heartbeat_eq_some_iff.mp found
      obtain rfl := Option.some.inj (removed.symm.trans same)
      rcases why with isOld | leaves
      · rw [notOld] at isOld
        nomatch isOld
      · rw [stays] at leaves
        nomatch leaves
  · intro failure isFailure
    rcases List.mem_append.mp isFailure with earlier | new
    · exact remembered.unreported failure earlier
    · obtain ⟨failed, isFailed, rfl⟩ := List.mem_map.mp new
      exact remembered.unreported_heartbeat running fresh isFailed

end Round

/-- Every fresh step keeps what is known of the removals. -/
theorem step {action : GossipAction Id}
    (remembered : Remembered state) (fresh : Fresh state action)
    (stepped : state.step action = some next) : Remembered next := by
  have faithful := remembered.faithful.step stepped
  rcases step_cases stepped with
    ⟨id, now, rfl, _, running, rfl⟩ | ⟨_, sameMaps⟩
  · exact remembered.heartbeat running fresh
  · refine
      { faithful := faithful
        foreign := ?_
        vouched := ?_
        newer := ?_
        unreported := ?_ }
    · rw [sameMaps.removals]
      exact remembered.foreign
    · intro removal isRemoval
      rw [sameMaps.removals] at isRemoval
      rw [Vouched, sameMaps.ownCount, sameMaps.finished]
      exact remembered.vouched removal isRemoval
    · intro removal isRemoval
      rw [sameMaps.removals] at isRemoval
      rw [sameMaps.maps]
      exact remembered.newer removal isRemoval
    · rw [sameMaps.failures]
      exact remembered.unreported

/-- A member that was removed because it left has no newer record. -/
theorem staysRemoved (remembered : Remembered state) :
    StaysRemoved state where
  newer := remembered.newer
  gone := by
    intro removal isRemoval leaves
    obtain ⟨_, last⟩ := (remembered.vouched removal isRemoval).2 leaves
    cases found : (state.node removal.observer).memberMap.find
        removal.member.id with
    | none => rfl
    | some entry =>
        have newer := remembered.newer removal isRemoval entry found
        have isId := SortedMap.key_of_find found
        have bound := (remembered.faithful.vouched entry
          (.entry removal.observer (isId.symm ▸ found))).1
        rw [isId] at bound
        omega
  unreported := remembered.unreported

end Remembered

/-- In a run of fresh rounds removed members stay removed. -/
theorem staysRemoved_of_fresh
    {trace : List (GossipAction Id)} {state : Gossip Id}
    (every : gossip.Every Fresh Gossip.initial trace)
    (runs : gossip.Runs Gossip.initial trace state) :
    StaysRemoved state := by
  have remembered : Remembered state :=
    every.invariant runs Remembered
      (fun _ _ _ before fresh stepped => before.step fresh stepped)
      Remembered.initial
  exact remembered.staysRemoved

/-! ## Messages that are not overtaken -/

/-- What a record has to be in order to arrive at a node: it is newer than all
that the node has removed for the member. -/
def Newer (state : Gossip Id) (observer : Id) (record : Member Id) : Prop :=
  ∀ removal ∈ state.removals, removal.observer = observer →
    removal.member.id = record.id → removal.member.count < record.count

/-- No record of a member arrives after the member has been removed for a newer
one, and of a member that has left a node hears before its entry is old. -/
def InOrder (state : Gossip Id) : GossipAction Id → Prop
  | .receive id index => ∀ message ∈ state.sent[index]?,
      ∀ record ∈ message.memberlist, record.leaving = false →
        state.Newer id record
  | .checkAvailability id indices now => ∀ index ∈ indices,
      ∀ ack ∈ state.acks[index]?, state.Newer id (ack.member now)
  | .heartbeat id now => ∀ member ∈ (state.node id).memberMap.entries,
      (state.node member.id).senderFinished = true →
        member.shouldBeCleanUp now = true →
          ∃ record ∈ recordsOf (state.node id).membersQueue member.id,
            member.count < record.count
  | _ => True

instance (state : Gossip Id) (observer : Id) (record : Member Id) :
    Decidable (state.Newer observer record) := by
  unfold Newer
  infer_instance

instance (state : Gossip Id) (action : GossipAction Id) :
    Decidable (InOrder state action) := by
  rcases action <;> unfold InOrder <;> infer_instance

/-- What waits at a node is newer than what it has removed. -/
def Queued (state : Gossip Id) : Prop :=
  ∀ id, ∀ map ∈ (state.node id).membersQueue, ∀ memberId record,
    map.find memberId = some record → record.leaving = false →
      state.Newer id record

namespace Queued

variable {state next : Gossip Id} {id : Id} {now : Int}

theorem initial : Queued (Gossip.initial : Gossip Id) := nofun

/-- A map is put into the queue of a node. -/
theorem setNode
    (queued : Queued state) {map : MemberMap Id} {node : DMember Id}
    (queues : node.membersQueue = (state.node id).membersQueue ++ [map])
    (newer : ∀ memberId record, map.find memberId = some record →
      record.leaving = false → state.Newer id record) :
    Queued (state.setNode id node) := by
  intro other waiting isWaiting
  rw [setNode_node] at isWaiting
  by_cases same : other = id
  · subst same
    rw [Function.update_self, queues, List.mem_append] at isWaiting
    rcases isWaiting with earlier | isNew
    · exact queued other waiting earlier
    · obtain rfl := List.mem_singleton.mp isNew
      exact newer
  · rw [Function.update_of_ne same] at isWaiting
    exact queued other waiting isWaiting

/-- A round empties the queue of its node and removes members there only. -/
theorem heartbeat (queued : Queued state) :
    Queued (state.heartbeat id now) := by
  intro other map isWaiting memberId record found stays removal isRemoval
    observes
  rw [heartbeat_node] at isWaiting
  by_cases same : other = id
  · subst same
    rw [Function.update_self] at isWaiting
    cases isWaiting
  · rw [Function.update_of_ne same] at isWaiting
    rcases List.mem_append.mp isRemoval with earlier | isNew
    · exact queued other map isWaiting memberId record found stays removal
        earlier observes
    · obtain ⟨member, _, rfl⟩ := List.mem_map.mp isNew
      exact absurd observes.symm same

theorem step {action : GossipAction Id}
    (queued : Queued state) (inOrder : InOrder state action)
    (stepped : state.step action = some next) : Queued next := by
  cases action with
  | heartbeat id now =>
      simp only [Gossip.step, Option.ite_none_left_eq_some,
        Option.some.injEq] at stepped
      obtain ⟨_, rfl⟩ := stepped
      exact queued.heartbeat
  | receive id index =>
      simp only [Gossip.step] at stepped
      split at stepped
      · next message isSent =>
          rw [Option.ite_none_left_eq_some, Option.some.injEq] at stepped
          obtain ⟨_, rfl⟩ := stepped
          refine queued.setNode rfl fun memberId record found stays => ?_
          exact inOrder message isSent record
            (HeartBeat.mem_of_find_members found) stays
      · cases stepped
  | ping id =>
      simp only [Gossip.step, Option.ite_none_left_eq_some] at stepped
      obtain ⟨_, stepped⟩ := stepped
      split at stepped <;>
        · obtain rfl := Option.some.inj stepped
          exact queued
  | checkAvailability id indices now =>
      simp only [Gossip.step, Option.ite_none_left_eq_some,
        Option.some.injEq] at stepped
      obtain ⟨_, rfl⟩ := stepped
      refine queued.setNode rfl fun memberId record found _ => ?_
      rcases mem_of_find_foldl_insertNew found with isOld | isRecord
      · cases isOld
      obtain ⟨ack, isAck, rfl⟩ := List.mem_map.mp isRecord
      obtain ⟨index, isIndex, isReply⟩ := List.mem_filterMap.mp isAck
      exact inOrder index isIndex ack isReply
  | stop id =>
      simp only [Gossip.step, Option.ite_none_left_eq_some,
        Option.some.injEq] at stepped
      obtain ⟨_, rfl⟩ := stepped
      intro other map isWaiting
      have sameQueue : ((state.setNode id (state.node id).stop).node
          other).membersQueue = (state.node other).membersQueue :=
        setNode_congr DMember.membersQueue rfl
      exact queued other map (sameQueue ▸ isWaiting)
  | crash id =>
      obtain rfl := Option.some.inj stepped
      exact queued

/-- Then the rounds are fresh. -/
theorem fresh {action : GossipAction Id}
    (queued : Queued state) (inOrder : InOrder state action) :
    Fresh state action := by
  cases action with
  | heartbeat id now =>
      refine { newcomers := ?_, departed := inOrder }
      intro removal isRemoval observes _ record isNewcomer
      have stays : record.leaving = false := by
        simpa using List.find?_some isNewcomer
      obtain ⟨map, isWaiting, found⟩ :=
        List.mem_filterMap.mp (List.mem_of_find?_eq_some isNewcomer)
      exact queued id map isWaiting _ record found stays removal isRemoval
        observes (SortedMap.key_of_find found).symm
  | _ => exact trivial

end Queued

/-- If no message is overtaken by a removal, and leaves are heard of in time,
removed members stay removed. -/
theorem staysRemoved_of_inOrder
    {trace : List (GossipAction Id)} {state : Gossip Id}
    (every : gossip.Every InOrder Gossip.initial trace)
    (runs : gossip.Runs Gossip.initial trace state) :
    StaysRemoved state := by
  obtain ⟨remembered, _⟩ : Remembered state ∧ Queued state :=
    every.invariant runs (fun state => Remembered state ∧ Queued state)
      (fun _ _ _ before inOrder stepped =>
        ⟨before.1.step (before.2.fresh inOrder) stepped,
          before.2.step inOrder stepped⟩)
      ⟨Remembered.initial, Queued.initial⟩
  exact remembered.staysRemoved

/-- The second node hears of the first one and, later, that it leaves. -/
def gracefulLeave : List (GossipAction Nat) :=
  [.heartbeat 1 0, .receive 2 0, .heartbeat 2 100000000, .stop 1,
    .heartbeat 1 500000000, .receive 2 2, .heartbeat 2 600000000]

theorem staysRemoved_gracefulLeave :
    ∃ state ∈ gossip.run Gossip.initial gracefulLeave,
      state.removals ≠ [] ∧ StaysRemoved state := by
  have every : gossip.Every Fresh Gossip.initial gracefulLeave := by decide
  obtain ⟨state, runs, removed⟩ :
      ∃ state ∈ gossip.run Gossip.initial gracefulLeave,
        state.removals ≠ [] := by
    decide
  exact ⟨state, runs, removed, staysRemoved_of_fresh every runs⟩

/-- After that, the first heartbeat arrives once more. -/
def staleHeartbeat : List (GossipAction Nat) :=
  gracefulLeave ++ [.receive 2 0, .heartbeat 2 1100000000]

/-- The node that has left is added again from its older record, and five
seconds later it is reported as failed. -/
theorem not_staysRemoved_of_staleHeartbeat :
    ∃ state ∈ gossip.run Gossip.initial staleHeartbeat,
      ¬ StaysRemoved state ∧
        ∃ later ∈ gossip.run state [.heartbeat 2 6100000000],
          ∃ failure ∈ later.failures,
            failure.id = 1 ∧ failure.afterLeave = true := by
  obtain ⟨state, runs, ⟨removal, isRemoval, entry, found, older⟩, reported⟩ :
      ∃ state ∈ gossip.run Gossip.initial staleHeartbeat,
        (∃ removal ∈ state.removals,
          ∃ entry ∈ (state.node removal.observer).memberMap.find
            removal.member.id, entry.count < removal.member.count) ∧
          ∃ later ∈ gossip.run state [.heartbeat 2 6100000000],
            ∃ failure ∈ later.failures,
              failure.id = 1 ∧ failure.afterLeave = true := by
    decide
  refine ⟨state, runs, fun stays => ?_, reported⟩
  have newer := stays.newer removal isRemoval entry found
  omega

end Gossip
end Membership
end CraneSps
