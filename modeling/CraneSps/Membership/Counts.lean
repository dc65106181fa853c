import CraneSps.Membership.Gossip

/-!
# Heartbeat counts are never ahead of their node

Whatever is recorded of a node, in a map, in a queue or in a message, has at
most the count that the node has given itself, and a leaving record has its
last count.  A merge refreshes an entry only together with its count, so the
entry of a node that counts no more is refreshed a bounded number of times.
-/

namespace CraneSps
namespace Membership

variable {Id : Type} [LinearOrder Id]

namespace Gossip

/-- The record is in a map, in a queue or in a message. -/
inductive Recorded (state : Gossip Id) (member : Member Id) : Prop
  | entry (owner : Id)
      (found : (state.node owner).memberMap.find member.id = some member)
  | queued (owner : Id) (map : MemberMap Id)
      (waiting : map ∈ (state.node owner).membersQueue)
      (found : map.find member.id = some member)
  | sent (message : HeartBeat Id) (isSent : message ∈ state.sent)
      (carried : member ∈ message.memberlist)

/-- A count and a leaving mark that a record of the node may have. -/
def Vouched (state : Gossip Id) (id : Id) (count : Int) (leaving : Bool) :
    Prop :=
  count ≤ state.ownCount id ∧
    (leaving = true →
      (state.node id).senderFinished = true ∧ count = state.ownCount id)

/-- What holds in every reachable state. -/
structure Faithful (state : Gossip Id) : Prop where
  ids : ∀ id, (state.node id).id = id
  own : ∀ id member, (state.node id).memberMap.find id = some member →
    member.count = state.ownCount id
  unknown : ∀ id, (state.node id).memberMap.find id = none →
    (state.node id).senderFinished = true ∨ state.ownCount id = 0
  stopped : ∀ id, (state.node id).senderFinished = true →
    (state.node id).isStopped = true
  vouched : ∀ member, state.Recorded member →
    state.Vouched member.id member.count member.leaving
  acked : ∀ ack ∈ state.acks, ack.count ≤ state.ownCount ack.id

variable {state next : Gossip Id} {id other : Id} {now : Int}
variable {member : Member Id}

namespace Faithful

theorem initial : Faithful (Gossip.initial : Gossip Id) where
  ids := fun _ => rfl
  own := nofun
  unknown := fun _ _ => .inr rfl
  stopped := nofun
  vouched := by
    rintro member (⟨_, found⟩ | ⟨_, _, waiting, _⟩ | ⟨_, isSent, _⟩)
    · cases found
    · cases waiting
    · cases isSent
  acked := nofun

/-! ## A round -/

section Round

variable (faithful : Faithful state)
include faithful

/-- The node starts from the count it has given itself. -/
theorem selfNode_count (runs : (state.node id).senderFinished = false) :
    (state.node id).selfNode.count = state.ownCount id := by
  rw [DMember.selfNode, faithful.ids]
  cases found : (state.node id).memberMap.find id with
  | some member => exact faithful.own id member found
  | none =>
      rcases faithful.unknown id found with finished | nothing
      · rw [finished] at runs
        nomatch runs
      · exact nothing.symm

/-- The waiting records of a node may have the counts they have. -/
theorem vouched_of_mem_recordsOf
    (isRecord : member ∈ recordsOf (state.node id).membersQueue other) :
    state.Vouched other member.count member.leaving := by
  obtain ⟨map, waiting, found⟩ := List.mem_filterMap.mp isRecord
  obtain rfl := SortedMap.key_of_find found
  exact faithful.vouched member (.queued id map waiting found)

/-- No record changes what a node says of itself. -/
theorem find_merged_self (runs : (state.node id).senderFinished = false) :
    ((state.node id).merged now).memberMap.find id =
      some ((state.node id).selfNode.update (state.ownCount id + 1) now
        (state.node id).isStopped) := by
  rw [DMember.find_merged, DMember.find_updateSelf, faithful.ids,
    if_pos rfl, faithful.selfNode_count runs]
  apply foldl_mergeEntry_of_le
  intro record isRecord
  exact (faithful.vouched_of_mem_recordsOf isRecord).1.trans
    (Int.le_of_lt (Int.lt_succ _))

/-- What a node knows of the others may be recorded. -/
theorem vouched_of_find_merged (differs : other ≠ id)
    (found : ((state.node id).merged now).memberMap.find other =
      some member) :
    state.Vouched other member.count member.leaving := by
  rw [DMember.find_merged, DMember.find_updateSelf, faithful.ids,
    if_neg differs] at found
  refine @foldl_mergeEntry_of_forall Id now member _ (state.Vouched other) _
    (fun old known => ?_)
    (fun record isRecord => faithful.vouched_of_mem_recordsOf isRecord) found
  obtain rfl := SortedMap.key_of_find known
  exact faithful.vouched old (.entry id known)

/-- The node counts one more heartbeat. -/
theorem heartbeat_ownCount (runs : (state.node id).senderFinished = false) :
    (state.heartbeat id now).ownCount =
      Function.update state.ownCount id (state.ownCount id + 1) := by
  change Function.update _ _ _ = _
  rw [faithful.selfNode_count runs]

/-- What may be recorded before a round may be recorded after it. -/
theorem vouched_heartbeat {count : Int} {leaving : Bool}
    (runs : (state.node id).senderFinished = false)
    (vouched : state.Vouched other count leaving) :
    (state.heartbeat id now).Vouched other count leaving := by
  rw [Vouched, faithful.heartbeat_ownCount runs]
  by_cases same : other = id
  · subst same
    rw [Function.update_self]
    refine ⟨vouched.1.trans (Int.le_of_lt (Int.lt_succ _)), ?_⟩
    intro isLeaving
    rw [(vouched.2 isLeaving).1] at runs
    nomatch runs
  · have sameNode : (state.heartbeat id now).node other = state.node other :=
      Function.update_of_ne same _ _
    rw [Function.update_of_ne same, sameNode]
    exact vouched

/-- The entries of a node after its merge may be recorded after the round. -/
theorem vouched_heartbeat_of_merged
    (runs : (state.node id).senderFinished = false)
    (found : ((state.node id).merged now).memberMap.find other =
      some member) :
    (state.heartbeat id now).Vouched other member.count member.leaving := by
  by_cases same : other = id
  · subst same
    rw [faithful.find_merged_self runs, Option.some.injEq] at found
    subst found
    rw [Vouched, faithful.heartbeat_ownCount runs, Function.update_self]
    refine ⟨le_rfl, fun isStopped => ⟨?_, rfl⟩⟩
    change (Function.update state.node other _ other).senderFinished = true
    rw [Function.update_self]
    exact isStopped
  · exact faithful.vouched_heartbeat runs
      (faithful.vouched_of_find_merged same found)

/-- A node still has its own count. -/
theorem own_heartbeat (runs : (state.node id).senderFinished = false)
    (found : ((state.heartbeat id now).node other).memberMap.find other =
      some member) :
    member.count = (state.heartbeat id now).ownCount other := by
  rw [state.heartbeat_node] at found
  rw [faithful.heartbeat_ownCount runs]
  by_cases same : other = id
  · subst same
    rw [Function.update_self, DMember.find_heartbeat_eq_some_iff,
      faithful.find_merged_self runs, Option.some.injEq] at found
    rw [Function.update_self, ← found.1]
    rfl
  · rw [Function.update_of_ne same] at found ⊢
    exact faithful.own other member found

/-- The own entry stays unless the round is the last one. -/
theorem unknown_heartbeat (runs : (state.node id).senderFinished = false)
    (missing : ((state.heartbeat id now).node other).memberMap.find other =
      none) :
    ((state.heartbeat id now).node other).senderFinished = true ∨
      (state.heartbeat id now).ownCount other = 0 := by
  rw [state.heartbeat_node] at missing ⊢
  rw [faithful.heartbeat_ownCount runs]
  by_cases same : other = id
  · subst same
    rw [Function.update_self] at missing ⊢
    have self := @find_merged_self Id _ state other now faithful runs
    cases stops : (state.node other).isStopped with
    | true => exact .inl stops
    | false =>
        rw [stops] at self
        have stays := DMember.find_heartbeat_eq_some_iff.mpr
          ⟨self, Member.shouldBeCleanUp_of_now rfl, rfl⟩
        rw [stays] at missing
        cases missing
  · rw [Function.update_of_ne same] at missing ⊢
    rw [Function.update_of_ne same]
    exact faithful.unknown other missing

/-- A record after the round is an entry after the merge or was there
before. -/
theorem vouched_of_recorded (runs : (state.node id).senderFinished = false)
    (recorded : (state.heartbeat id now).Recorded member) :
    (state.heartbeat id now).Vouched member.id member.count
      member.leaving := by
  cases recorded with
  | entry owner found =>
      rw [state.heartbeat_node] at found
      by_cases same : owner = id
      · subst same
        rw [Function.update_self, DMember.find_heartbeat_eq_some_iff] at found
        exact faithful.vouched_heartbeat_of_merged runs found.1
      · rw [Function.update_of_ne same] at found
        exact faithful.vouched_heartbeat runs
          (faithful.vouched member (.entry owner found))
  | queued owner map waiting found =>
      rw [state.heartbeat_node] at waiting
      by_cases same : owner = id
      · subst same
        rw [Function.update_self] at waiting
        cases waiting
      · rw [Function.update_of_ne same] at waiting
        exact faithful.vouched_heartbeat runs
          (faithful.vouched member (.queued owner map waiting found))
  | sent message isSent carried =>
      rcases List.mem_append.mp isSent with earlier | new
      · exact faithful.vouched_heartbeat runs
          (faithful.vouched member (.sent message earlier carried))
      · obtain rfl := List.mem_singleton.mp new
        exact faithful.vouched_heartbeat_of_merged runs
          (DMember.find_of_mem_message carried)

theorem heartbeat (runs : (state.node id).senderFinished = false) :
    Faithful (state.heartbeat id now) where
  ids := by
    intro other
    rw [state.heartbeat_node]
    by_cases same : other = id
    · subst same
      rw [Function.update_self]
      exact faithful.ids other
    · rw [Function.update_of_ne same]
      exact faithful.ids other
  own := fun _ _ found => faithful.own_heartbeat runs found
  unknown := fun _ missing => faithful.unknown_heartbeat runs missing
  stopped := by
    intro other finished
    rw [state.heartbeat_node] at finished ⊢
    by_cases same : other = id
    · subst same
      rw [Function.update_self] at finished ⊢
      exact finished
    · rw [Function.update_of_ne same] at finished ⊢
      exact faithful.stopped other finished
  vouched := fun _ recorded => faithful.vouched_of_recorded runs recorded
  acked := by
    intro ack isAck
    have before : state.Vouched ack.id ack.count false :=
      ⟨faithful.acked ack isAck, nofun⟩
    exact (faithful.vouched_heartbeat runs before).1

end Round

/-! ## The other steps -/

/-- A map that is queued must have vouched entries. -/
theorem queue_append {map : MemberMap Id}
    (vouched : ∀ member : Member Id, map.find member.id = some member →
      state.Vouched member.id member.count member.leaving) :
    ∀ waiting ∈ (state.node id).membersQueue ++ [map],
      waiting ∈ (state.node id).membersQueue ∨
        ∀ member : Member Id, waiting.find member.id = some member →
          state.Vouched member.id member.count member.leaving := by
  intro waiting isWaiting
  rcases List.mem_append.mp isWaiting with earlier | new
  · exact .inl earlier
  · obtain rfl := List.mem_singleton.mp new
    exact .inr vouched

section Other

variable (faithful : Faithful state)
include faithful

/-- A node changes its flags or gets a map of records that may exist. -/
theorem setNode {node : DMember Id}
    (sameId : node.id = id)
    (sameMap : node.memberMap = (state.node id).memberMap)
    (sameFinished : node.senderFinished = (state.node id).senderFinished)
    (stopped : (state.node id).isStopped = true → node.isStopped = true)
    (waiting : ∀ map ∈ node.membersQueue,
      map ∈ (state.node id).membersQueue ∨
        ∀ member : Member Id, map.find member.id = some member →
          state.Vouched member.id member.count member.leaving) :
    Faithful (state.setNode id node) := by
  have finished : ∀ other, ((state.setNode id node).node other).senderFinished =
      (state.node other).senderFinished :=
    fun _ => setNode_congr DMember.senderFinished sameFinished
  have maps : ∀ other, ((state.setNode id node).node other).memberMap =
      (state.node other).memberMap :=
    fun _ => setNode_congr DMember.memberMap sameMap
  have vouch : ∀ {other count leaving}, state.Vouched other count leaving →
      (state.setNode id node).Vouched other count leaving := by
    intro other count leaving vouched
    rw [Vouched, finished]
    exact vouched
  refine
    { ids := ?_
      own := ?_
      unknown := ?_
      stopped := ?_
      vouched := ?_
      acked := faithful.acked }
  · intro other
    rw [setNode_congr DMember.id (sameId.trans (faithful.ids id).symm),
      faithful.ids]
  · intro other member found
    rw [maps] at found
    exact faithful.own other member found
  · intro other missing
    rw [maps] at missing
    rw [finished]
    exact faithful.unknown other missing
  · intro other isFinished
    rw [finished] at isFinished
    have before := faithful.stopped other isFinished
    rw [setNode_node]
    by_cases same : other = id
    · subst same
      rw [Function.update_self]
      exact stopped before
    · rw [Function.update_of_ne same]
      exact before
  · intro member recorded
    apply vouch
    cases recorded with
    | entry owner found =>
        rw [maps] at found
        exact faithful.vouched member (.entry owner found)
    | queued owner map isWaiting found =>
        rw [setNode_node] at isWaiting
        by_cases same : owner = id
        · subst same
          rw [Function.update_self] at isWaiting
          rcases waiting map isWaiting with earlier | new
          · exact faithful.vouched member (.queued owner map earlier found)
          · exact new member found
        · rw [Function.update_of_ne same] at isWaiting
          exact faithful.vouched member (.queued owner map isWaiting found)
    | sent message isSent carried =>
        exact faithful.vouched member (.sent message isSent carried)

/-- A node receives a heartbeat. -/
theorem receive {message : HeartBeat Id} (isSent : message ∈ state.sent) :
    Faithful (state.setNode id ((state.node id).process message).1) := by
  refine faithful.setNode (faithful.ids id) rfl rfl (fun stops => stops)
    (queue_append fun member found => ?_)
  exact faithful.vouched member
    (.sent message isSent (HeartBeat.mem_of_find_members found))

/-- The introducer gets the replies to its pings. -/
theorem checkAvailability {acks : List (PingAck Id)}
    (areAcks : ∀ ack ∈ acks, ack ∈ state.acks) :
    Faithful (state.setNode id
      ((state.node id).checkAvailability now acks)) := by
  refine faithful.setNode (faithful.ids id) rfl rfl (fun stops => stops)
    (queue_append fun member found => ?_)
  rcases mem_of_find_foldl_insertNew found with nothing | isMember
  · cases nothing
  · obtain ⟨ack, isAck, rfl⟩ := List.mem_map.mp isMember
    exact ⟨faithful.acked ack (areAcks ack isAck), nofun⟩

/-- A node replies to a ping with its own count. -/
theorem ping {ack : PingAck Id}
    (replies : (state.node id).replyPingRequest = some ack) :
    Faithful { state with acks := state.acks ++ [ack] } := by
  refine
    { ids := faithful.ids
      own := faithful.own
      unknown := faithful.unknown
      stopped := faithful.stopped
      vouched := ?_
      acked := ?_ }
  · rintro member (⟨owner, found⟩ | ⟨owner, map, waiting, found⟩ |
      ⟨message, isSent, carried⟩)
    · exact faithful.vouched member (.entry owner found)
    · exact faithful.vouched member (.queued owner map waiting found)
    · exact faithful.vouched member (.sent message isSent carried)
  · intro other isAck
    rcases List.mem_append.mp isAck with earlier | new
    · exact faithful.acked other earlier
    · obtain rfl := List.mem_singleton.mp new
      rw [DMember.replyPingRequest, faithful.ids, Option.map_eq_some_iff]
        at replies
      obtain ⟨member, found, rfl⟩ := replies
      exact (faithful.own id member found).le

theorem crash (crashed : Id → Bool) :
    Faithful { state with crashed := crashed } where
  ids := faithful.ids
  own := faithful.own
  unknown := faithful.unknown
  stopped := faithful.stopped
  vouched := by
    rintro member (⟨owner, found⟩ | ⟨owner, map, waiting, found⟩ |
      ⟨message, isSent, carried⟩)
    · exact faithful.vouched member (.entry owner found)
    · exact faithful.vouched member (.queued owner map waiting found)
    · exact faithful.vouched member (.sent message isSent carried)
  acked := faithful.acked

/-- Every step keeps the records faithful. -/
theorem step {action : GossipAction Id}
    (stepped : state.step action = some next) : Faithful next := by
  cases action with
  | heartbeat id now =>
      simp only [Gossip.step, Option.ite_none_left_eq_some, Bool.or_eq_true,
        not_or, Bool.not_eq_true, Option.some.injEq] at stepped
      obtain ⟨⟨_, runs⟩, rfl⟩ := stepped
      exact faithful.heartbeat runs
  | receive id index =>
      simp only [Gossip.step] at stepped
      split at stepped
      · next message isMessage =>
          rw [Option.ite_none_left_eq_some, Option.some.injEq] at stepped
          obtain ⟨_, rfl⟩ := stepped
          exact faithful.receive (List.mem_of_getElem? isMessage)
      · cases stepped
  | ping id =>
      simp only [Gossip.step, Option.ite_none_left_eq_some] at stepped
      obtain ⟨_, stepped⟩ := stepped
      split at stepped
      · next ack replies =>
          obtain rfl := Option.some.inj stepped
          exact faithful.ping replies
      · obtain rfl := Option.some.inj stepped
        exact faithful.crash _
  | checkAvailability id indices now =>
      simp only [Gossip.step, Option.ite_none_left_eq_some,
        Option.some.injEq] at stepped
      obtain ⟨_, rfl⟩ := stepped
      apply faithful.checkAvailability
      intro ack isAck
      obtain ⟨index, _, found⟩ := List.mem_filterMap.mp isAck
      exact List.mem_of_getElem? found
  | stop id =>
      simp only [Gossip.step, Option.ite_none_left_eq_some,
        Option.some.injEq] at stepped
      obtain ⟨_, rfl⟩ := stepped
      exact faithful.setNode (faithful.ids id) rfl rfl (fun _ => rfl)
        fun map waiting => .inl waiting
  | crash id =>
      obtain rfl := Option.some.inj stepped
      exact faithful.crash _

end Other

end Faithful

/-! ## Runs -/

theorem faithful_of_runs {trace : List (GossipAction Id)}
    (runs : gossip.Runs Gossip.initial trace state) : Faithful state :=
  runs.invariant Faithful (fun _ _ _ faithful stepped => faithful.step stepped)
    Faithful.initial

/-- The node counts no more. -/
def Silent (state : Gossip Id) (id : Id) : Prop :=
  state.crashed id = true ∨ (state.node id).senderFinished = true

theorem Silent.step {action : GossipAction Id}
    (silent : state.Silent other) (stepped : state.step action = some next) :
    next.ownCount other = state.ownCount other ∧ next.Silent other := by
  rcases step_cases stepped with
    ⟨id, now, _, running, unfinished, rfl⟩ | ⟨_, sameMaps⟩
  · have differs : other ≠ id := by
      rintro rfl
      rcases silent with down | finished
      · rw [running] at down
        nomatch down
      · rw [unfinished] at finished
        nomatch finished
    refine ⟨Function.update_of_ne differs _ _, ?_⟩
    rw [Silent, heartbeat_node, Function.update_of_ne differs]
    exact silent
  · refine ⟨congrFun sameMaps.ownCount other, ?_⟩
    rw [Silent, sameMaps.finished]
    exact silent.imp_left (sameMaps.crashed other)

/-- A silent node has counted its last heartbeat. -/
theorem Silent.ownCount_eq {trace : List (GossipAction Id)}
    (silent : state.Silent other) (runs : gossip.Runs state trace next) :
    next.ownCount other = state.ownCount other := by
  have settled := runs.invariant
    (fun later => later.ownCount other = state.ownCount other ∧
      later.Silent other)
    (fun later action after before stepped => by
      obtain ⟨sameCount, stillSilent⟩ := before.2.step stepped
      exact ⟨sameCount.trans before.1, stillSilent⟩)
    ⟨rfl, silent⟩
  exact settled.1

/-! ## Refreshing an entry -/

/-- How often a step refreshes an entry by a merge. -/
def refreshesAt (observer id : Id) (state : Gossip Id) :
    GossipAction Id → Nat
  | .heartbeat beating now =>
      if beating = observer then
        (((state.node observer).updateSelf now).memberMap.find id).elim 0
          fun member =>
            refreshes now member
              (recordsOf (state.node observer).membersQueue id)
      else 0
  | _ => 0

/-- The entry is there before and after the step. -/
def Stays (observer id : Id) (state : Gossip Id) (action : GossipAction Id) :
    Prop :=
  ((state.node observer).memberMap.find id).isSome = true ∧
    (state.step action).all (fun next =>
      ((next.node observer).memberMap.find id).isSome) = true

instance (observer id : Id) (state : Gossip Id) (action : GossipAction Id) :
    Decidable (Stays observer id state action) := by
  unfold Stays
  infer_instance

/-- The count of an entry, if there is one. -/
def recordedCount (observer id : Id) (state : Gossip Id) : Int :=
  (((state.node observer).memberMap.find id).map Member.count).getD 0

/-- A merge changes an entry only together with its count. -/
theorem merged_eq_or_lt {node : DMember Id} {old new : Member Id}
    (before : (node.updateSelf now).memberMap.find id = some old)
    (after : (node.merged now).memberMap.find id = some new) :
    new = old ∨ old.count < new.count := by
  rw [DMember.find_merged, before] at after
  obtain ⟨merged, isMerged, grows, _⟩ :=
    foldl_mergeEntry_some now old (recordsOf node.membersQueue id)
  rw [isMerged, Option.some.injEq] at after
  exact after ▸ grows

/-- A node never lowers the count of an entry when it counts its own. -/
theorem exists_find_updateSelf {node : DMember Id}
    (found : node.memberMap.find id = some member) (now : Int) :
    ∃ started, (node.updateSelf now).memberMap.find id = some started ∧
      member.count ≤ started.count := by
  rw [DMember.find_updateSelf]
  by_cases self : id = node.id
  · subst self
    refine ⟨_, if_pos rfl, ?_⟩
    rw [DMember.selfNode, found]
    exact Int.le_of_lt (Int.lt_succ _)
  · exact ⟨member, (if_neg self).trans found, le_rfl⟩

/-- The count of an entry that stays pays for every refresh. -/
theorem Stays.add_refreshesAt_le {observer : Id} {action : GossipAction Id}
    (stays : Stays observer id state action)
    (stepped : state.step action = some next) :
    recordedCount observer id state + refreshesAt observer id state action ≤
      recordedCount observer id next := by
  obtain ⟨before, after⟩ := stays
  obtain ⟨member, found⟩ := Option.isSome_iff_exists.mp before
  rw [stepped, Option.all_some] at after
  obtain ⟨member', found'⟩ := Option.isSome_iff_exists.mp after
  rw [recordedCount, recordedCount, found, found']
  change member.count + _ ≤ member'.count
  have unmoved : (next.node observer).memberMap =
      (state.node observer).memberMap → member.count + (0 : Nat) ≤
        member'.count := by
    intro same
    rw [same, found, Option.some.injEq] at found'
    rw [found']
    exact (Int.add_zero _).le
  rcases step_cases stepped with
    ⟨beating, now, rfl, _, _, rfl⟩ | ⟨noRound, sameMaps⟩
  · rw [refreshesAt]
    by_cases same : beating = observer
    · subst same
      rw [heartbeat_node, Function.update_self,
        DMember.find_heartbeat_eq_some_iff, DMember.find_merged] at found'
      obtain ⟨started, isStarted, grows⟩ := exists_find_updateSelf found now
      obtain ⟨merged, isMerged, _, paid⟩ := foldl_mergeEntry_some now started
        (recordsOf (state.node beating).membersQueue id)
      rw [isStarted, isMerged, Option.some.injEq] at found'
      rw [if_pos rfl, isStarted, ← found'.1]
      exact (Int.add_le_add_right grows _).trans paid
    · rw [if_neg same]
      apply unmoved
      rw [heartbeat_node, Function.update_of_ne (Ne.symm same)]
  · have free : refreshesAt observer id state action = 0 := by
      cases action with
      | heartbeat beating now => exact absurd rfl (noRound beating now)
      | _ => rfl
    rw [free]
    exact unmoved (sameMaps.maps observer)

/-- In every reachable state a node's own entry has the count it has given
itself; no map, queue, message or reply to a ping has a greater one; a leaving
record belongs to a node that has stopped, and has its last count; a merge
changes an entry only together with its count; and from the state in which a
node has counted its last heartbeat, an entry that stays in a map is refreshed
at most as often as its count is behind. -/
theorem counts_sound
    {trace more : List (GossipAction Id)} {state later : Gossip Id}
    (runs : gossip.Runs Gossip.initial trace state)
    (continues : gossip.Runs state more later) :
    (∀ id member, (state.node id).memberMap.find id = some member →
      member.count = state.ownCount id) ∧
    (∀ member, state.Recorded member →
      member.count ≤ state.ownCount member.id) ∧
    (∀ ack ∈ state.acks, ack.count ≤ state.ownCount ack.id) ∧
    (∀ member, state.Recorded member → member.leaving = true →
      (state.node member.id).isStopped = true ∧
        member.count = later.ownCount member.id) ∧
    (∀ observer now id old new,
      ((state.node observer).updateSelf now).memberMap.find id = some old →
      ((state.node observer).merged now).memberMap.find id = some new →
      new = old ∨ old.count < new.count) ∧
    (∀ observer id member,
      (state.node observer).memberMap.find id = some member →
      state.Silent id →
      gossip.Every (Stays observer id) state more →
      gossip.total (refreshesAt observer id) state more ≤
        state.ownCount id - member.count) := by
  have faithful := faithful_of_runs runs
  refine ⟨faithful.own, fun member recorded =>
    (faithful.vouched member recorded).1, faithful.acked, ?_, ?_, ?_⟩
  · intro member recorded isLeaving
    obtain ⟨finished, last⟩ := (faithful.vouched member recorded).2 isLeaving
    refine ⟨faithful.stopped member.id finished, ?_⟩
    rw [last, Silent.ownCount_eq (.inr finished) continues]
  · intro observer now id old new before after
    exact merged_eq_or_lt before after
  · intro observer id member found silent every
    have paid : recordedCount observer id state + _ ≤
        recordedCount observer id later :=
      every.add_total_le continues fun _ _ _ stays stepped =>
        stays.add_refreshesAt_le stepped
    have kept := every.invariant continues
      (fun final => ((final.node observer).memberMap.find id).isSome = true)
      (fun _ _ _ _ stays stepped => by
        have after := stays.2
        rwa [show Gossip.step _ _ = _ from stepped, Option.all_some] at after)
      (found ▸ rfl)
    obtain ⟨last, isLast⟩ := Option.isSome_iff_exists.mp kept
    have faithfulLater : Faithful later :=
      continues.invariant Faithful
        (fun _ _ _ before stepped => before.step stepped) faithful
    have isId := SortedMap.key_of_find isLast
    have bound := (faithfulLater.vouched last
      (.entry observer (isId.symm ▸ isLast))).1
    rw [isId, silent.ownCount_eq continues] at bound
    rw [recordedCount, recordedCount, found, isLast] at paid
    change member.count + _ ≤ last.count at paid
    omega

/-- Two nodes; of the three heartbeats that the first one sends before it
crashes the second one has received the first. -/
def twoNodes : List (GossipAction Nat) :=
  [.heartbeat 1 0, .receive 2 0, .heartbeat 2 0, .heartbeat 1 500000000,
    .heartbeat 1 1000000000, .crash 1]

/-- The last two heartbeats arrive after the crash, in reverse order. -/
def lateHeartbeat : List (GossipAction Nat) :=
  [.receive 2 3, .receive 2 2, .heartbeat 2 1500000000]

theorem counts_sound_twoNodes :
    ∃ state ∈ gossip.run Gossip.initial twoNodes,
      ∃ later ∈ gossip.run state lateHeartbeat,
        (∃ member ∈ (state.node 2).memberMap.find 1, member.count = 1) ∧
          (∀ member, state.Recorded member → member.id = 1 →
            member.count ≤ 3) ∧
          (∃ member ∈ (later.node 2).memberMap.find 1, member.count = 3) ∧
          (gossip.total (refreshesAt 2 1) state lateHeartbeat : Int) ≤
            3 - 1 := by
  obtain ⟨state, runs, later, continues, count, silent, every, last,
      member, isMember, first⟩ :
      ∃ state ∈ gossip.run Gossip.initial twoNodes,
        ∃ later ∈ gossip.run state lateHeartbeat,
          state.ownCount 1 = 3 ∧ state.crashed 1 = true ∧
            gossip.Every (Stays 2 1) state lateHeartbeat ∧
            (∃ member ∈ (later.node 2).memberMap.find 1, member.count = 3) ∧
            ∃ member ∈ (state.node 2).memberMap.find 1, member.count = 1 := by
    decide
  obtain ⟨_, bounded, _, _, _, refreshed⟩ := counts_sound runs continues
  have few := refreshed 2 1 member isMember (.inl silent) every
  rw [count, first] at few
  refine ⟨state, runs, later, continues, ⟨member, isMember, first⟩,
    fun record recorded isFirst => ?_, last, few⟩
  have bound := bounded record recorded
  rwa [isFirst, count] at bound

end Gossip

end Membership
end CraneSps
