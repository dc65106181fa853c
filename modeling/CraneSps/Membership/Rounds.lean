import CraneSps.Membership.Punctual

/-!
# A round of a group in time

A round of a running node counts its own heartbeat, merges what waits, removes
the members whose entries are too old, and announces what is left.  Entry by
entry it keeps what holds in a group that keeps its promises.
-/

namespace CraneSps
namespace Membership
namespace Timed

variable {Id : Type} [LinearOrder Id]

/-- The reading of a node's clock. -/
def clock (timing : Timing Id) (timed : Timed Id) (id : Id) : Int :=
  timed.now + timing.offset id

/-- The group after a round of a node. -/
def afterRound (timing : Timing Id) (timed : Timed Id) (id : Id) : Timed Id :=
  timed.beat timing id (timed.gossip.heartbeat id (timed.clock timing id))

/-- What a node announces in its round. -/
def announcement (timing : Timing Id) (timed : Timed Id) (id : Id) :
    HeartBeat Id :=
  ((timed.gossip.node id).heartbeat (timed.clock timing id)).message

/-- The entries of a node when it looks for failed members. -/
def mergedMap (timing : Timing Id) (timed : Timed Id) (id : Id) :
    MemberMap Id :=
  ((timed.gossip.node id).merged (timed.clock timing id)).memberMap

variable {timing : Timing Id} {hops : Nat} {timed : Timed Id}
variable {id other owner : Id} {member : Member Id} {time : Int}

/-! ## What a round changes -/

theorem node_afterRound_self :
    (timed.afterRound timing id).gossip.node id =
      ((timed.gossip.node id).heartbeat (timed.clock timing id)).node :=
  Function.update_self _ _ _

theorem node_afterRound_of_ne (differs : owner ≠ id) :
    (timed.afterRound timing id).gossip.node owner =
      timed.gossip.node owner :=
  Function.update_of_ne differs _ _

theorem lastRound_afterRound_self :
    (timed.afterRound timing id).lastRound id = timed.now :=
  Function.update_self _ _ _

theorem lastRound_afterRound_of_ne (differs : owner ≠ id) :
    (timed.afterRound timing id).lastRound owner = timed.lastRound owner :=
  Function.update_of_ne differs _ _

theorem knownAt_afterRound_of_ne (differs : owner ≠ id) :
    (timed.afterRound timing id).knownAt owner = timed.knownAt owner :=
  Function.update_of_ne differs _ _

theorem knownAt_afterRound_self (time : Int) :
    (timed.afterRound timing id).knownAt id other time =
      if timed.now ≤ time then
        (((timed.afterRound timing id).gossip.node id).memberMap.find
          other).elim (timed.known id other) Member.count
      else timed.knownAt id other time :=
  congrFun (congrFun (Function.update_self id _ timed.knownAt) other) time

/-- What a node knows is the count of its entry. -/
theorem known_afterRound_self :
    (timed.afterRound timing id).known id other =
      (((timed.afterRound timing id).gossip.node id).memberMap.find
        other).elim (timed.known id other) Member.count := by
  rw [known, knownAt_afterRound_self]
  exact if_pos le_rfl

/-- From now on the node knows what it knows now. -/
theorem knownAt_afterRound_of_le (later : timed.now ≤ time) :
    (timed.afterRound timing id).knownAt id other time =
      (timed.afterRound timing id).known id other := by
  rw [knownAt_afterRound_self, if_pos later, known_afterRound_self]

/-- A round does not change what has been known before. -/
theorem knownAt_afterRound_of_lt (earlier : time < timed.now) :
    (timed.afterRound timing id).knownAt owner other time =
      timed.knownAt owner other time := by
  by_cases same : owner = id
  · subst same
    rw [knownAt_afterRound_self, if_neg (by omega)]
  · rw [knownAt_afterRound_of_ne same]

theorem known_afterRound_of_ne (differs : owner ≠ id) :
    (timed.afterRound timing id).known owner other =
      timed.known owner other := by
  rw [known, knownAt_afterRound_of_ne differs]
  rfl

/-- The entries that a round leaves are those that are not cleaned up. -/
theorem find_afterRound_self :
    ((timed.afterRound timing id).gossip.node id).memberMap.find other =
      (((timed.mergedMap timing id).find other).filter fun member =>
        !member.shouldBeCleanUp (timed.clock timing id)).filter
          fun member => !member.leaving := by
  rw [node_afterRound_self, DMember.find_heartbeat]
  rfl

theorem find_announcement :
    (timed.announcement timing id).members.find other =
      (((timed.mergedMap timing id).find other).filter fun member =>
        !member.shouldBeCleanUp (timed.clock timing id)).filter
          fun member =>
            member.leaving || !member.isTimedOut (timed.clock timing id) := by
  rw [announcement, DMember.find_members_message, DMember.find_updateMembers]
  rfl

theorem failuresOf_afterRound_of_ne (differs : owner ≠ id) :
    (timed.afterRound timing id).failuresOf owner other =
      timed.failuresOf owner other := by
  change (timed.gossip.failures ++ _).filter _ = timed.gossip.failures.filter _
  rw [List.filter_append, List.append_right_eq_self,
    List.filter_eq_nil_iff]
  intro failure isNew
  obtain ⟨failed, _, rfl⟩ := List.mem_map.mp isNew
  simpa using fun same => absurd same.symm differs

/-- A round reports a failure for an entry that it cleans up. -/
theorem length_failuresOf_afterRound :
    ((timed.afterRound timing id).failuresOf id other).length =
      (timed.failuresOf id other).length +
        (((timed.mergedMap timing id).find other).filter fun member =>
          member.shouldBeCleanUp (timed.clock timing id)).toList.length := by
  have added : (timed.afterRound timing id).failuresOf id other =
      timed.failuresOf id other ++
        (((timed.mergedMap timing id).entries.filter fun member =>
          member.shouldBeCleanUp (timed.clock timing id)).filter
            fun member => decide (member.id = other)).map fun member =>
              ⟨id, member.id, (timed.gossip.node member.id).senderFinished⟩ := by
    change (timed.gossip.failures ++ (List.map Member.id _).map _).filter _ = _
    rw [List.filter_append, List.map_map, List.filter_map]
    congr 2
    refine List.filter_congr fun member _ => ?_
    simp
  rw [added, List.length_append, List.length_map, ← SortedMap.find_filter,
    ← SortedMap.filter_entries]
  rfl

/-- The heartbeats after a round are the old ones and the new one. -/
theorem sent_afterRound_iff
    (logged : timed.log.length = timed.gossip.sent.length)
    {index : Nat} {sender : Id} {message : HeartBeat Id} :
    (timed.afterRound timing id).Sent index sender time message ↔
      timed.Sent index sender time message ∨
        (index = timed.gossip.sent.length ∧ sender = id ∧ time = timed.now ∧
          message = timed.announcement timing id) := by
  change (timed.log ++ [(id, timed.now)])[index]? = _ ∧
    (timed.gossip.sent ++ [timed.announcement timing id])[index]? = _ ↔ _
  rw [Sent]
  rcases lt_trichotomy index timed.gossip.sent.length with old | rfl | beyond
  · rw [List.getElem?_append_left (logged ▸ old),
      List.getElem?_append_left old, or_iff_left]
    rintro ⟨rfl, _⟩
    exact lt_irrefl _ old
  · rw [List.getElem?_concat_length, ← logged, List.getElem?_concat_length]
    simp [eq_comm, and_assoc]
  · rw [List.getElem?_eq_none (by simp; omega),
      List.getElem?_eq_none (by simp; omega),
      List.getElem?_eq_none (logged ▸ beyond.le)]
    simp only [reduceCtorEq, and_self, false_and, false_or, false_iff]
    rintro ⟨rfl, _⟩
    exact lt_irrefl _ beyond

theorem mem_log_afterRound {index : Nat} {entry : Id × Int}
    (isLogged : entry ∈ (timed.afterRound timing id).log[index]?) :
    entry ∈ timed.log[index]? ∨ entry = (id, timed.now) := by
  change entry ∈ (timed.log ++ [(id, timed.now)])[index]? at isLogged
  rw [List.getElem?_append] at isLogged
  split at isLogged
  · exact .inl isLogged
  · exact .inr (List.mem_singleton.mp (List.mem_of_getElem? isLogged))

/-! ## One entry -/

/-- What a round makes of the entry of a member. -/
structure Heard
    (timing : Timing Id) (hops : Nat) (timed : Timed Id) (id other : Id) :
    Prop where
  entry : (∃ member time, Present timing hops (timed.afterRound timing id) id
      other member time) ∨
    Gone (timed.afterRound timing id) id other
  grows : timed.known id other ≤ (timed.afterRound timing id).known id other
  merged : ∀ record ∈ recordsOf (timed.gossip.node id).membersQueue other,
    record.count ≤ (timed.afterRound timing id).known id other
  told : (timed.afterRound timing id).known id other = timed.known id other ∨
    ∃ record, (timed.announcement timing id).members.find other =
        some record ∧
      (timed.afterRound timing id).known id other ≤ record.count
  recent : ∀ record ∈ (timed.announcement timing id).members.find other,
    timed.now < (timed.afterRound timing id).lastRound other +
      timing.reach hops + Member.timeoutAge

/-- An entry that is not cleaned up stays, and is announced until it is timed
out. -/
theorem kept_of_mergedMap
    (found : (timed.mergedMap timing id).find other = some member)
    (stays : member.leaving = false)
    (kept : member.shouldBeCleanUp (timed.clock timing id) = false) :
    ((timed.afterRound timing id).gossip.node id).memberMap.find other =
        some member ∧
      (timed.afterRound timing id).known id other = member.count ∧
      ((timed.afterRound timing id).failuresOf id other).length =
        (timed.failuresOf id other).length ∧
      (timed.announcement timing id).members.find other =
        if member.isTimedOut (timed.clock timing id) then none
        else some member := by
  have remains : ((timed.afterRound timing id).gossip.node id).memberMap.find
      other = some member := by
    rw [find_afterRound_self, found]
    simp [Option.filter, kept, stays]
  refine ⟨remains, ?_, ?_, ?_⟩
  · rw [known_afterRound_self, remains]
    rfl
  · rw [length_failuresOf_afterRound, found]
    simp [Option.filter, kept]
  · rw [find_announcement, found]
    cases out : member.isTimedOut (timed.clock timing id) <;>
      simp [Option.filter, kept, stays, out]

/-- An entry that is cleaned up is removed and reported. -/
theorem removed_of_mergedMap
    (found : (timed.mergedMap timing id).find other = some member)
    (fails : member.shouldBeCleanUp (timed.clock timing id) = true) :
    ((timed.afterRound timing id).gossip.node id).memberMap.find other =
        none ∧
      (timed.afterRound timing id).known id other = timed.known id other ∧
      ((timed.afterRound timing id).failuresOf id other).length =
        (timed.failuresOf id other).length + 1 ∧
      (timed.announcement timing id).members.find other = none := by
  have removed : ((timed.afterRound timing id).gossip.node id).memberMap.find
      other = none := by
    rw [find_afterRound_self, found]
    simp [Option.filter, fails]
  refine ⟨removed, ?_, ?_, ?_⟩
  · rw [known_afterRound_self, removed]
    rfl
  · rw [length_failuresOf_afterRound, found]
    simp [Option.filter, fails]
  · rw [find_announcement, found]
    simp [Option.filter, fails]

namespace Punctual

variable (punctual : Punctual timing hops timed)
include punctual

/-- A member that is not there after the merge is not there after the
round. -/
theorem heard_of_gone (timely : timing.Timely hops)
    (runs : timed.Runs timing id) (otherMember : other ∈ timing.members)
    (gone : Gone timed id other) : Heard timing hops timed id other := by
  have differs : other ≠ id := by
    rintro rfl
    have running := runs.2
    rw [gone.crashed] at running
    nomatch running
  have silent := punctual.recordsOf_eq_nil_of_gone timely runs otherMember gone
  have missing : (timed.mergedMap timing id).find other = none := by
    rw [mergedMap, DMember.find_merged, silent, DMember.find_updateSelf,
      punctual.faithful.ids, if_neg differs]
    exact gone.missing
  have missingAfter : ((timed.afterRound timing id).gossip.node
      id).memberMap.find other = none := by
    rw [find_afterRound_self, missing]
    rfl
  have sameKnown : (timed.afterRound timing id).known id other =
      timed.known id other := by
    rw [known_afterRound_self, missingAfter]
    rfl
  have unannounced : (timed.announcement timing id).members.find other =
      none := by
    rw [find_announcement, missing]
    rfl
  refine
    { entry := .inr
        { crashed := gone.crashed
          missing := missingAfter
          silent := ?_
          reported := ?_ }
      grows := sameKnown.ge
      merged := ?_
      told := .inl sameKnown
      recent := ?_ }
  · rw [lastRound_afterRound_of_ne differs]
    exact gone.silent
  · rw [length_failuresOf_afterRound, missing]
    exact gone.reported
  · rw [silent]
    exact fun record isRecord => nomatch isRecord
  · rw [unannounced]
    exact fun record isRecord => nomatch isRecord

/-- A round of a node refreshes its own entry. -/
theorem heard_self (timely : timing.Timely hops)
    (runs : timed.Runs timing id)
    (present : Present timing hops timed id id member time) :
    Heard timing hops timed id id := by
  obtain ⟨own, found, counted, updated, stays⟩ : ∃ own,
      (timed.mergedMap timing id).find id = some own ∧
        own.count = timed.gossip.ownCount id + 1 ∧
        own.lastUpdate = timed.clock timing id ∧ own.leaving = false :=
    ⟨_, punctual.faithful.find_merged_self (punctual.unfinished id), rfl, rfl,
      punctual.staying id⟩
  have known : timed.known id id = timed.gossip.ownCount id :=
    punctual.recollected.own id runs.1
  obtain ⟨remains, count, reported, announced⟩ := kept_of_mergedMap found
    stays (Member.shouldBeCleanUp_of_now updated)
  have bounds := punctual.recollected.rounds id runs.1
  have reach := timely.reach_nonneg
  rw [Member.isTimedOut_of_now updated] at announced
  refine
    { entry := .inl ⟨_, timed.now,
        { found := remains
          count := count.symm
          lastUpdate := updated
          started := bounds.1.trans bounds.2
          past := le_rfl
          reached := ?_
          sound := ?_
          fresh := ?_
          unreported := ?_ }⟩
      grows := ?_
      merged := fun record isRecord => ?_
      told := .inr ⟨_, announced, count.le⟩
      recent := fun record _ => ?_ }
  · rw [lastRound_afterRound_self]
    omega
  · exact count.ge
  · rw [lastRound_afterRound_self, Member.cleanUpAge]
    omega
  · rw [present.unreported] at reported
    exact List.length_eq_zero_iff.mp reported
  · omega
  · have vouched := (punctual.faithful.vouched_of_mem_recordsOf isRecord).1
    omega
  · rw [lastRound_afterRound_self, Member.timeoutAge]
    omega

section Other

variable (timely : timing.Timely hops) (runs : timed.Runs timing id)
variable (otherMember : other ∈ timing.members) (differs : other ≠ id)
variable (present : Present timing hops timed id other member time)
include timely runs otherMember differs present

/-- A newer record refreshes the entry of a member. -/
theorem heard_of_newer {new : Member Id}
    (found : (timed.mergedMap timing id).find other = some new)
    (newer : member.count < new.count)
    (updated : new.lastUpdate = timed.clock timing id)
    (most : ∀ record ∈ recordsOf (timed.gossip.node id).membersQueue other,
      record.count ≤ new.count) :
    Heard timing hops timed id other := by
  have vouched := punctual.faithful.vouched_of_find_merged differs found
  have inTime := punctual.now_le_of_newer timely runs otherMember present
    newer vouched.1
  have stays : new.leaving = false := by
    by_contra leaves
    have finished := (vouched.2 (Bool.eq_true_of_not_eq_false leaves)).1
    rw [punctual.unfinished] at finished
    nomatch finished
  obtain ⟨remains, count, reported, announced⟩ := kept_of_mergedMap found
    stays (Member.shouldBeCleanUp_of_now updated)
  have bounds := punctual.recollected.rounds id runs.1
  have was := present.count
  rw [Member.isTimedOut_of_now updated] at announced
  refine
    { entry := .inl ⟨new, timed.now,
        { found := remains
          count := count.symm
          lastUpdate := updated
          started := bounds.1.trans bounds.2
          past := le_rfl
          reached := ?_
          sound := ?_
          fresh := ?_
          unreported := ?_ }⟩
      grows := by omega
      merged := fun record isRecord => (most record isRecord).trans count.ge
      told := .inr ⟨new, announced, count.le⟩
      recent := fun record _ => ?_ }
  · rw [lastRound_afterRound_of_ne differs]
    exact inTime
  · rw [knownAt_afterRound_of_ne differs]
    exact vouched.1.trans (punctual.recollected.own other otherMember).ge
  · rw [lastRound_afterRound_self, Member.cleanUpAge]
    omega
  · rw [present.unreported] at reported
    exact List.length_eq_zero_iff.mp reported
  · rw [lastRound_afterRound_of_ne differs, Member.timeoutAge]
    omega

/-- Without a newer record an entry stays until it is too old. -/
theorem heard_of_same
    (found : (timed.mergedMap timing id).find other = some member)
    (most : ∀ record ∈ recordsOf (timed.gossip.node id).membersQueue other,
      record.count ≤ member.count) :
    Heard timing hops timed id other := by
  have isOther : member.id = other := SortedMap.key_of_find found
  have stays : member.leaving = false := punctual.leaving_eq_false
    (.entry id (isOther.symm ▸ present.found))
  have updated := present.lastUpdate
  have past := present.past
  have age := punctual.now_lt_of_present runs present
  have fast := timely.fast
  have far := timely.hop_le_reach
  have delay := timely.delay
  rw [Timing.reach_succ] at fast
  unfold Timing.hop at far fast
  unfold Member.cleanUpAge at age
  have cleaned : member.shouldBeCleanUp (timed.clock timing id) = true ↔ _ :=
    Member.shouldBeCleanUp_iff (by unfold clock; omega)
      (by unfold clock; omega) stays
  have out : member.isTimedOut (timed.clock timing id) = true ↔ _ :=
    Member.isTimedOut_iff (by unfold clock; omega) (by unfold clock; omega)
  have was := present.count
  have elapsed : timed.clock timing id - member.lastUpdate =
      timed.now - time := by
    unfold clock
    omega
  rw [elapsed] at cleaned out
  by_cases old : Member.cleanUpAge ≤ timed.now - time
  · obtain ⟨removed, sameKnown, reported, unannounced⟩ :=
      removed_of_mergedMap found (cleaned.mpr old)
    have silent := punctual.silent_of_cleanUpAge timely runs otherMember
      present (by omega)
    refine
      { entry := .inr
          { crashed := silent.1
            missing := removed
            silent := ?_
            reported := ?_ }
        grows := sameKnown.ge
        merged := fun record isRecord => (most record isRecord).trans ?_
        told := .inl sameKnown
        recent := ?_ }
    · rw [lastRound_afterRound_of_ne differs]
      change _ ≤ timed.now
      omega
    · rw [reported, present.unreported]
      rfl
    · rw [was, sameKnown]
    · rw [unannounced]
      exact fun record isRecord => nomatch isRecord
  · obtain ⟨remains, count, reported, announced⟩ := kept_of_mergedMap found
      stays (by rw [← Bool.not_eq_true, cleaned]; exact old)
    refine
      { entry := .inl ⟨member, time,
          { found := remains
            count := count.symm
            lastUpdate := present.lastUpdate
            started := present.started
            past := present.past
            reached := ?_
            sound := ?_
            fresh := ?_
            unreported := ?_ }⟩
        grows := (was.symm.trans count.symm).le
        merged := fun record isRecord => (most record isRecord).trans count.ge
        told := .inl (count.trans was)
        recent := ?_ }
    · rw [lastRound_afterRound_of_ne differs]
      exact present.reached
    · rw [knownAt_afterRound_of_ne differs]
      exact present.sound
    · rw [lastRound_afterRound_self]
      omega
    · rw [present.unreported] at reported
      exact List.length_eq_zero_iff.mp reported
    · intro record isRecord
      rw [announced] at isRecord
      split at isRecord
      · nomatch isRecord
      · next inTime =>
          rw [out] at inTime
          have reached := present.reached
          rw [lastRound_afterRound_of_ne differs]
          omega

end Other

/-- A round keeps what holds of an entry. -/
theorem heard (timely : timing.Timely hops) (runs : timed.Runs timing id)
    (otherMember : other ∈ timing.members) :
    Heard timing hops timed id other := by
  rcases punctual.entries id runs other otherMember with
    ⟨member, time, present⟩ | gone
  · by_cases differs : other = id
    · subst differs
      exact punctual.heard_self timely runs present
    · have start : ((timed.gossip.node id).updateSelf
          (timed.clock timing id)).memberMap.find other = some member := by
        rw [DMember.find_updateSelf, punctual.faithful.ids, if_neg differs]
        exact present.found
      obtain ⟨new, isNew, same | ⟨newer, updated⟩, most⟩ :=
        foldl_mergeEntry_cases (timed.clock timing id) member
          (recordsOf (timed.gossip.node id).membersQueue other)
      · subst same
        exact punctual.heard_of_same timely runs otherMember differs present
          (by rw [mergedMap, DMember.find_merged, start, isNew]) most
      · exact punctual.heard_of_newer timely runs otherMember differs present
          (by rw [mergedMap, DMember.find_merged, start, isNew]) newer updated
          most
  · exact punctual.heard_of_gone timely runs otherMember gone

/-! ## All entries -/

/-- Nothing that has been known is unknown after a round. -/
theorem knownAt_le_afterRound (timely : timing.Timely hops)
    (runs : timed.Runs timing id) (ownerMember : owner ∈ timing.members)
    (otherMember : other ∈ timing.members) (time : Int) :
    timed.knownAt owner other time ≤
      (timed.afterRound timing id).knownAt owner other time := by
  by_cases same : owner = id
  · subst same
    rcases lt_or_ge time timed.now with earlier | later
    · rw [knownAt_afterRound_of_lt earlier]
    · rw [knownAt_afterRound_of_le later,
        punctual.recollected.known_later ownerMember otherMember later]
      exact (punctual.heard timely runs otherMember).grows
  · rw [knownAt_afterRound_of_ne same]

theorem lastRound_le_afterRound (id : Id) (otherMember : other ∈ timing.members) :
    timed.lastRound other ≤ (timed.afterRound timing id).lastRound other := by
  by_cases same : other = id
  · subst same
    rw [lastRound_afterRound_self]
    exact (punctual.recollected.rounds other otherMember).2
  · rw [lastRound_afterRound_of_ne same]

/-- The entries of the other nodes stay as they are. -/
theorem entry_of_ne (timely : timing.Timely hops)
    (runs : timed.Runs timing id) (ownerRuns : timed.Runs timing owner)
    (otherMember : other ∈ timing.members) (differs : owner ≠ id) :
    (∃ member time, Present timing hops (timed.afterRound timing id) owner
        other member time) ∨
      Gone (timed.afterRound timing id) owner other := by
  rcases punctual.entries owner ownerRuns other otherMember with
    ⟨member, time, present⟩ | gone
  · have later : timed.lastRound other ≤ _ :=
      punctual.lastRound_le_afterRound id otherMember
    have reached := present.reached
    refine .inl ⟨member, time,
      { found := ?_
        count := ?_
        lastUpdate := present.lastUpdate
        started := present.started
        past := present.past
        reached := by omega
        sound := ?_
        fresh := ?_
        unreported := ?_ }⟩
    · rw [node_afterRound_of_ne differs]
      exact present.found
    · rw [known_afterRound_of_ne differs]
      exact present.count
    · exact present.sound.trans (punctual.knownAt_le_afterRound timely runs
        otherMember otherMember time)
    · rw [lastRound_afterRound_of_ne differs]
      exact present.fresh
    · rw [failuresOf_afterRound_of_ne differs]
      exact present.unreported
  · have isNot : other ≠ id := by
      rintro rfl
      have running := runs.2
      rw [gone.crashed] at running
      nomatch running
    refine .inr
      { crashed := gone.crashed
        missing := ?_
        silent := ?_
        reported := ?_ }
    · rw [node_afterRound_of_ne differs]
      exact gone.missing
    · rw [lastRound_afterRound_of_ne isNot]
      exact gone.silent
    · rw [failuresOf_afterRound_of_ne differs]
      exact gone.reported

/-- A node knows how many rounds it has counted. -/
theorem known_afterRound_own (id : Id) :
    (timed.afterRound timing id).known id id =
      timed.gossip.ownCount id + 1 := by
  have found : (timed.mergedMap timing id).find id = some
      ((timed.gossip.node id).selfNode.update (timed.gossip.ownCount id + 1)
        (timed.clock timing id) (timed.gossip.node id).isStopped) :=
    punctual.faithful.find_merged_self (punctual.unfinished id)
  exact (kept_of_mergedMap found (punctual.staying id)
    (Member.shouldBeCleanUp_of_now rfl)).2.1

/-- What is known in the course of time after a round. -/
theorem recollected_afterRound (timely : timing.Timely hops)
    (runs : timed.Runs timing id) :
    Recollected timing (timed.afterRound timing id) := by
  have recollected := punctual.recollected
  have bounds := recollected.rounds id runs.1
  have onTime := punctual.onTime.1 id runs.1 runs.2
  -- the node counts one more round
  have counted : timed.known id id <
      (timed.afterRound timing id).known id id := by
    rw [punctual.known_afterRound_own, recollected.own id runs.1]
    exact Int.lt_succ _
  have before : ∀ time, time < timed.now →
      timed.knownAt id id time < (timed.afterRound timing id).known id id :=
    fun time earlier => (recollected.mono id runs.1 id runs.1 time timed.now
      earlier.le).trans_lt counted
  refine
    { mono := ?_
      settled := ?_
      own := ?_
      rounds := ?_
      before := ?_
      periodic := ?_ }
  · intro owner ownerMember other otherMember time later isLater
    by_cases same : owner = id
    · subst same
      rcases lt_or_ge time timed.now with earlier | late
      · rw [knownAt_afterRound_of_lt earlier]
        exact (recollected.mono owner ownerMember other otherMember time later
          isLater).trans (punctual.knownAt_le_afterRound timely runs
            ownerMember otherMember later)
      · rw [knownAt_afterRound_of_le late,
          knownAt_afterRound_of_le (late.trans isLater)]
    · rw [knownAt_afterRound_of_ne same]
      exact recollected.mono owner ownerMember other otherMember time later
        isLater
  · intro owner ownerMember other otherMember time later
    by_cases same : owner = id
    · subst same
      rw [lastRound_afterRound_self] at later
      exact knownAt_afterRound_of_le later
    · rw [lastRound_afterRound_of_ne same] at later
      rw [knownAt_afterRound_of_ne same, known_afterRound_of_ne same]
      exact recollected.settled owner ownerMember other otherMember time later
  · intro owner ownerMember
    change _ = (timed.gossip.heartbeat id _).ownCount owner
    rw [punctual.faithful.heartbeat_ownCount (punctual.unfinished id)]
    by_cases same : owner = id
    · subst same
      rw [Function.update_self, punctual.known_afterRound_own]
    · rw [Function.update_of_ne same, known_afterRound_of_ne same]
      exact recollected.own owner ownerMember
  · intro owner ownerMember
    have earlier := recollected.rounds owner ownerMember
    by_cases same : owner = id
    · subst same
      rw [lastRound_afterRound_self]
      exact ⟨earlier.1.trans earlier.2, le_rfl⟩
    · rw [lastRound_afterRound_of_ne same]
      exact earlier
  · intro owner ownerMember time started isBefore
    by_cases same : owner = id
    · subst same
      rw [lastRound_afterRound_self] at isBefore
      rw [knownAt_afterRound_of_lt isBefore]
      exact before time isBefore
    · rw [lastRound_afterRound_of_ne same] at isBefore
      rw [knownAt_afterRound_of_ne same, known_afterRound_of_ne same]
      exact recollected.before owner ownerMember time started isBefore
  · intro owner ownerMember time started isPast
    have period := timely.period
    by_cases same : owner = id
    · subst same
      rw [lastRound_afterRound_self] at isPast
      rw [knownAt_afterRound_of_lt (by omega)]
      rcases lt_or_ge (time + timing.period) timed.now with earlier | now
      · rw [knownAt_afterRound_of_lt earlier]
        by_cases counts : time + timing.period ≤ timed.lastRound owner
        · exact recollected.periodic owner ownerMember time started counts
        · -- the round before this one was within a period after the time
          rw [recollected.settled owner ownerMember owner ownerMember
            (time + timing.period) (by omega)]
          exact recollected.before owner ownerMember time started (by omega)
      · rw [knownAt_afterRound_of_le now]
        exact before time (by omega)
    · rw [lastRound_afterRound_of_ne same] at isPast
      rw [knownAt_afterRound_of_ne same]
      exact recollected.periodic owner ownerMember time started isPast

/-- What has become of the heartbeats after a round. -/
theorem carried_afterRound (timely : timing.Timely hops)
    (runs : timed.Runs timing id) :
    Carried timing hops (timed.afterRound timing id) := by
  have carried := punctual.carried
  have recollected := punctual.recollected
  have bounds := recollected.rounds id runs.1
  have isSent {index : Nat} {sender : Id} {time : Int}
      {message : HeartBeat Id}
      (sent : timed.Sent index sender time message) :
      (timed.afterRound timing id).Sent index sender time message :=
    (sent_afterRound_iff carried.logged).mpr (.inl sent)
  refine
    { logged := ?_
      past := ?_
      announced := ?_
      transit := ?_
      queued := ?_
      recent := ?_ }
  · change (timed.log ++ _).length = (timed.gossip.sent ++ _).length
    rw [List.length_append, List.length_append, carried.logged]
    rfl
  · intro index sender time message sent
    rcases (sent_afterRound_iff carried.logged).mp sent with
      old | ⟨_, _, rfl, _⟩
    · exact carried.past index sender time message old
    · exact le_rfl
  · intro owner ownerMember other otherMember time started past
    -- what has been known before has been announced before
    have asBefore (same : (timed.afterRound timing id).knownAt owner other
        time = timed.knownAt owner other time) :
        ∃ index earlier message record,
          (timed.afterRound timing id).Sent index owner earlier message ∧
            earlier ≤ time ∧ message.members.find other = some record ∧
              (timed.afterRound timing id).knownAt owner other time ≤
                record.count := by
      obtain ⟨index, earlier, message, record, sent, rest⟩ :=
        carried.announced owner ownerMember other otherMember time started past
      exact ⟨index, earlier, message, record, isSent sent, same ▸ rest⟩
    by_cases same : owner = id
    · subst same
      rcases lt_or_ge time timed.now with earlier | late
      · exact asBefore (knownAt_afterRound_of_lt earlier)
      · rcases (punctual.heard timely runs otherMember).told with
          sameKnown | ⟨record, found, most⟩
        · apply asBefore
          rw [knownAt_afterRound_of_le late, sameKnown,
            recollected.known_later ownerMember otherMember late]
        · refine ⟨timed.gossip.sent.length, timed.now, _, record,
            (sent_afterRound_iff carried.logged).mpr
              (.inr ⟨rfl, rfl, rfl, rfl⟩), late, found, ?_⟩
          rw [knownAt_afterRound_of_le late]
          exact most
    · exact asBefore (congrFun (congrFun (knownAt_afterRound_of_ne same) _) _)
  · intro index sender time message sent receiver receiverRuns connected
    rcases (sent_afterRound_iff carried.logged).mp sent with
      old | ⟨rfl, rfl, rfl, rfl⟩
    · rcases carried.transit index sender time message old receiver
        receiverRuns connected with underWay | ⟨isQueued, waits⟩ | merged
      · exact .inl (List.mem_append_left _ underWay)
      · by_cases same : receiver = id
        · subst same
          refine .inr (.inr fun other otherMember record found => ?_)
          apply (punctual.heard timely runs otherMember).merged
          exact List.mem_filterMap.mpr ⟨_, isQueued, found⟩
        · refine .inr (.inl ?_)
          rw [node_afterRound_of_ne same, lastRound_afterRound_of_ne same]
          exact ⟨isQueued, waits⟩
      · refine .inr (.inr fun other otherMember record found => ?_)
        exact (merged other otherMember record found).trans
          (punctual.knownAt_le_afterRound timely runs receiverRuns.1
            otherMember timed.now)
    · refine .inl (List.mem_append_right _ (List.mem_map.mpr
        ⟨receiver, List.mem_filter.mpr ⟨receiverRuns.1, ?_⟩, rfl⟩))
      exact decide_eq_true connected
  · intro owner ownerRuns map isQueued
    by_cases same : owner = id
    · subst same
      rw [node_afterRound_self] at isQueued
      nomatch isQueued
    · rw [node_afterRound_of_ne same] at isQueued
      rw [lastRound_afterRound_of_ne same]
      obtain ⟨index, sender, time, message, sent, rest⟩ :=
        carried.queued owner ownerRuns map isQueued
      exact ⟨index, sender, time, message, isSent sent, rest⟩
  · intro index sender time message sent other otherMember record found
    rcases (sent_afterRound_iff carried.logged).mp sent with
      old | ⟨_, _, rfl, rfl⟩
    · have recent := carried.recent index sender time message old other
        otherMember record found
      have later : timed.lastRound other ≤ _ :=
        punctual.lastRound_le_afterRound id otherMember
      omega
    · exact (punctual.heard timely runs otherMember).recent record found

theorem afterRound (timely : timing.Timely hops)
    (runs : timed.Runs timing id) :
    Punctual timing hops (timed.afterRound timing id) where
  faithful := punctual.faithful.heartbeat (punctual.unfinished id)
  staying := by
    intro owner
    by_cases same : owner = id
    · subst same
      rw [node_afterRound_self]
      exact punctual.staying owner
    · rw [node_afterRound_of_ne same]
      exact punctual.staying owner
  reach := punctual.reach.of_runs fun _ => Iff.rfl
  onTime := by
    constructor
    · intro owner ownerMember running
      by_cases same : owner = id
      · subst same
        rw [lastRound_afterRound_self]
        have period := timely.period
        change timed.now ≤ timed.now + timing.period
        omega
      · rw [lastRound_afterRound_of_ne same]
        exact punctual.onTime.1 owner ownerMember running
    · intro entry isPending running sent isLogged
      rcases mem_log_afterRound isLogged with old | rfl
      · rcases List.mem_append.mp isPending with underWay | isNew
        · exact punctual.onTime.2 entry underWay running sent old
        · obtain ⟨receiver, _, rfl⟩ := List.mem_map.mp isNew
          rw [← punctual.carried.logged, List.getElem?_length] at old
          nomatch old
      · have delay := timely.delay
        change timed.now ≤ timed.now + timing.delay
        omega
  recollected := punctual.recollected_afterRound timely runs
  carried := punctual.carried_afterRound timely runs
  hop := by
    intro owner ownerRuns middle middleMember connected other otherMember time
      past started
    have positive : 0 < timing.hop := by
      have period := timely.period
      have delay := timely.delay
      unfold Timing.hop
      omega
    change time ≤ timed.now at past
    rw [knownAt_afterRound_of_lt (by omega)]
    exact (punctual.hop owner ownerRuns middle middleMember connected other
      otherMember time past started).trans (punctual.knownAt_le_afterRound
        timely runs ownerRuns.1 otherMember time)
  entries := by
    intro owner ownerRuns other otherMember
    by_cases same : owner = id
    · subst same
      exact (punctual.heard timely runs otherMember).entry
    · exact punctual.entry_of_ne timely runs ownerRuns otherMember same

end Punctual

end Timed
end Membership
end CraneSps
