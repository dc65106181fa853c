import CraneSps.Foundation.ListUpdate
import CraneSps.Membership.Departure
import Mathlib.Algebra.Group.Int.Defs

/-!
# The entry of the node itself

A node counts up its own entry in every iteration, and merges it with what it
hears about itself like any other entry.  Between the lookup and the creation
of the entry, and before, there is only a null pointer for it.
-/

namespace CraneSps
namespace Membership

variable {Id : Type} [LinearOrder Id]

/-- The count can be held by an `int32`. -/
def IsInt32 (count : Int) : Prop :=
  -2 ^ 31 ≤ count ∧ count < 2 ^ 31

instance (count : Int) : Decidable (IsInt32 count) := by
  unfold IsInt32
  infer_instance

/-- Such a count does not wrap. -/
theorem IsInt32.bmod_eq {count : Int} (fits : IsInt32 count) :
    count.bmod (2 ^ 32) = count := by
  obtain ⟨above, below⟩ := fits
  apply Int.bmod_eq_of_le
  · omega
  · omega

/-- The readings of the clock in an iteration, each for one of its parts. -/
structure Readings where
  updated : Int
  merged : Int
  cleaned : Int
  created : Int
  deriving DecidableEq

namespace DMember

variable (node : DMember Id)

/-- The own entry, counted up as an `int`. -/
def counted (now : Int) : Member Id :=
  node.selfNode.update ((node.selfNode.count + 1).bmod (2 ^ 32)) now
    node.isStopped

/-- The node before it looks for failed members. -/
def mergedAt (readings : Readings) : DMember Id :=
  { node with
    memberMap := node.memberMap.insert (node.counted readings.updated)
  }.mergeQueue readings.merged

/-- An iteration of `heartbeatsSendThread`. -/
def iterate (readings : Readings) : Round Id :=
  let merged := node.mergedAt readings
  let created :=
    (merged.cleanUp readings.cleaned).createHeartbeatMessage readings.created
  { node := { created.1 with senderFinished := node.isStopped }
    message := created.2
    failed := merged.deleteCandidates readings.cleaned }

/-- `process(HeartBeat)` looks at the own entry: the members that are leaving
are looked at up to the first that was not known to leave. -/
def checksOwnEntry (heartbeat : HeartBeat Id) : Bool :=
  let leavingNodes :=
    (heartbeat.memberlist.filter Member.leaving).map Member.id
  decide (node.id ∈ leavingNodes) &&
    (leavingNodes.takeWhile fun id => id != node.id).all node.checkIfLeaving

variable {node} {readings : Readings}

theorem mergedAt_eq_merged
    (now : Int) (fits : IsInt32 (node.selfNode.count + 1)) :
    node.mergedAt ⟨now, now, now, now⟩ = node.merged now := by
  rw [mergedAt, counted, fits.bmod_eq]
  rfl

/-- Without an overflow and without delays an iteration is a round. -/
theorem iterate_eq_heartbeat
    (now : Int) (fits : IsInt32 (node.selfNode.count + 1)) :
    node.iterate ⟨now, now, now, now⟩ = node.heartbeat now := by
  simp only [iterate, mergedAt_eq_merged now fits]
  rfl

/-- The own entry after the merge. -/
def ownMerged (node : DMember Id) (readings : Readings) :
    Option (Member Id) :=
  (recordsOf node.membersQueue node.id).foldl (mergeEntry readings.merged)
    (some (node.counted readings.updated))

theorem counted_id (now : Int) : (node.counted now).id = node.id := by
  rw [counted, Member.update_id, selfNode_id]

theorem find_mergedAt_self :
    (node.mergedAt readings).memberMap.find node.id =
      node.ownMerged readings := by
  refine (find_foldl_mergeMap _).trans ?_
  rw [SortedMap.find_insert, counted_id, if_pos rfl]
  rfl

/-- The own entry after an iteration. -/
theorem find_iterate_self :
    (node.iterate readings).node.memberMap.find node.id =
      ((node.ownMerged readings).filter fun member =>
        !member.shouldBeCleanUp readings.cleaned).filter fun member =>
          !member.leaving := by
  rw [← find_mergedAt_self, ← SortedMap.find_filter]
  exact SortedMap.find_filter

/-- What a heartbeat says of the node itself. -/
theorem find_of_mem_iterate
    {member : Member Id}
    (isRecord : member ∈ (node.iterate readings).message.memberlist)
    (isOwn : member.id = node.id) :
    node.ownMerged readings = some member := by
  obtain ⟨isEntry, _⟩ := List.mem_filter.mp isRecord
  have found := SortedMap.find_of_mem isEntry
  change ((node.mergedAt readings).memberMap.filter _).find member.id =
    some member at found
  rw [SortedMap.find_filter, isOwn, find_mergedAt_self,
    Option.filter_eq_some_iff] at found
  exact found.1

end DMember

omit [LinearOrder Id] in
/-- An entry is refreshed by newer records only. -/
theorem lastUpdate_foldl_mergeEntry
    {now : Int} {member merged : Member Id} {records : List (Member Id)}
    (isMerged : records.foldl (mergeEntry now) (some member) = some merged) :
    merged.lastUpdate =
      if ∃ record ∈ records, member.count < record.count then now
      else member.lastUpdate := by
  induction records generalizing member with
  | nil =>
      obtain rfl := Option.some.inj isMerged
      simp
  | cons record records inductionHypothesis =>
      have later := inductionHypothesis isMerged
      rw [later]
      by_cases newer : member.count < record.count
      · have refreshed : (member.updateFrom now record).lastUpdate = now := by
          rw [Member.updateFrom, if_pos newer]
        rw [refreshed, ite_self, if_pos ⟨record, List.mem_cons_self, newer⟩]
      · have kept : member.updateFrom now record = member := by
          rw [Member.updateFrom, if_neg newer]
        simp only [kept, List.exists_mem_cons_iff, newer, false_or]

/-! ## The threads of a node -/

/-- A node with its ping, receiving and heartbeat threads. -/
structure OwnNode (Id : Type) [LinearOrder Id] where
  node : DMember Id
  /-- The heartbeat thread holds its locks and has looked up the own entry,
  which leaves a null pointer if there is none. -/
  updating : Bool
  /-- The heartbeat that the receiving thread has looked through and is about
  to put into the queue. -/
  received : Option (HeartBeat Id)
  /-- A null pointer has been dereferenced, which is the end. -/
  dereferenced : Bool
  /-- The own entry after each iteration. -/
  entries : List (Option (Member Id))
  sent : List (HeartBeat Id)

/-- What the threads can do. -/
inductive OwnAction (Id : Type)
  /-- The ping thread replies. -/
  | ping
  /-- The receiving thread looks through a heartbeat. -/
  | receive (heartbeat : HeartBeat Id)
  /-- It gets the lock of the queue. -/
  | enqueue
  /-- The introducer has collected the replies to its pings. -/
  | checkAvailability (now : Int) (acks : List (PingAck Id))
  /-- The heartbeat thread begins an iteration. -/
  | lookUp
  /-- It carries out the rest. -/
  | iterate (readings : Readings)
  deriving DecidableEq

namespace OwnNode

/-- A node that has just been started. -/
def initial (id : Id) : OwnNode Id where
  node := .new id
  updating := false
  received := none
  dereferenced := false
  entries := []
  sent := []

variable (own : OwnNode Id)

/-- The own entry is a null pointer, or there is none. -/
def Absent : Prop :=
  own.node.memberMap.find own.node.id = none

instance : Decidable own.Absent := by
  unfold Absent
  infer_instance

/-- The rest of an iteration. -/
def iterate (readings : Readings) : OwnNode Id :=
  let round := own.node.iterate readings
  { own with
    node := round.node
    updating := false
    entries := own.entries ++ [round.node.memberMap.find own.node.id]
    sent := own.sent ++ [round.message] }

/-- One step of a thread while the process is alive. -/
def advance : OwnAction Id → Option (OwnNode Id)
  | .ping =>
      match own.node.replyPingRequest with
      | some _ => some own
      | none => some { own with dereferenced := true }
  | .receive heartbeat =>
      if own.received = none ∧
          ∀ member ∈ heartbeat.memberlist, IsInt32 member.count then
        if own.updating ∧ own.Absent ∧
            own.node.checksOwnEntry heartbeat then
          some { own with dereferenced := true }
        else some { own with received := some heartbeat }
      else none
  | .enqueue =>
      match own.received with
      | some heartbeat =>
          if own.updating then none
          else
            some
              { own with
                node := (own.node.process heartbeat).1
                received := none }
      | none => none
  | .checkAvailability now acks =>
      if own.updating = false ∧ ∀ ack ∈ acks, IsInt32 ack.count then
        some { own with node := own.node.checkAvailability now acks }
      else none
  | .lookUp =>
      if own.updating then none else some { own with updating := true }
  | .iterate readings =>
      if own.updating then some (own.iterate readings) else none

/-- One step of a thread. -/
def step (action : OwnAction Id) : Option (OwnNode Id) :=
  if own.dereferenced then none else own.advance action

end OwnNode

/-- The threads of a node, from its start. -/
def ownSystem (id : Id) : TransitionSystem (OwnNode Id) (OwnAction Id) where
  initial := .initial id
  step := OwnNode.step

/-- The node has always kept its own entry, with a count that grows, and has
never said that it leaves. -/
structure Permanent (own : OwnNode Id) : Prop where
  alive : own.dereferenced = false
  present : ∀ entry ∈ own.entries,
    ∃ member, entry = some member ∧ member.leaving = false
  grows : own.entries.Pairwise fun earlier later =>
    ∀ first ∈ earlier, ∀ second ∈ later, first.count < second.count
  silent : ∀ heartbeat ∈ own.sent, ∀ member ∈ heartbeat.memberlist,
    member.id = own.node.id → member.leaving = false

/-- The own entry can be counted up, it is not told to leave by a record that
prevails, and the iteration does not take long enough to clean it up. -/
structure KeepsOwnEntry (node : DMember Id) (readings : Readings) : Prop where
  fits : node.selfNode.count + 1 < 2 ^ 31
  stays : ∀ newest ∈ prevailing
      (some (node.selfNode.update (node.selfNode.count + 1) readings.updated
        false))
      (recordsOf node.membersQueue node.id),
    newest.leaving = false
  punctual :
    (node.selfNode.update (node.selfNode.count + 1)
      (if ∃ record ∈ recordsOf node.membersQueue node.id,
          node.selfNode.count + 1 < record.count then
        readings.merged
      else readings.updated)
      false).shouldBeCleanUp readings.cleaned = false

/-- Nobody asks for the own entry before there is one, and every iteration
keeps it. -/
def KeepsEntry (own : OwnNode Id) : OwnAction Id → Prop
  | .ping => ¬ own.Absent
  | .receive heartbeat =>
      own.updating = true → own.Absent →
        own.node.checksOwnEntry heartbeat = false
  | .iterate readings => KeepsOwnEntry own.node readings
  | _ => True

instance (node : DMember Id) (readings : Readings) :
    Decidable (KeepsOwnEntry node readings) :=
  decidable_of_iff
    (node.selfNode.count + 1 < 2 ^ 31 ∧
      (∀ newest ∈ prevailing
          (some (node.selfNode.update (node.selfNode.count + 1)
            readings.updated false))
          (recordsOf node.membersQueue node.id),
        newest.leaving = false) ∧
      (node.selfNode.update (node.selfNode.count + 1)
        (if ∃ record ∈ recordsOf node.membersQueue node.id,
            node.selfNode.count + 1 < record.count then
          readings.merged
        else readings.updated)
        false).shouldBeCleanUp readings.cleaned = false)
    ⟨fun all => ⟨all.1, all.2.1, all.2.2⟩, fun keeps =>
      ⟨keeps.fits, keeps.stays, keeps.punctual⟩⟩

instance (own : OwnNode Id) (action : OwnAction Id) :
    Decidable (KeepsEntry own action) := by
  cases action <;> unfold KeepsEntry <;> infer_instance

/-! ## An iteration -/

section Iteration

variable {node : DMember Id} {readings : Readings}

omit [LinearOrder Id] in
theorem shouldBeCleanUp_congr
    {first second : Member Id} (now : Int)
    (sameUpdate : first.lastUpdate = second.lastUpdate)
    (sameLeaving : first.leaving = second.leaving) :
    first.shouldBeCleanUp now = second.shouldBeCleanUp now := by
  rw [Member.shouldBeCleanUp, Member.duration, sameUpdate, sameLeaving]
  rfl

/-- A running node counts up its entry as long as it can. -/
theorem counted_of_fits
    (running : node.isStopped = false)
    (isInt : IsInt32 node.selfNode.count)
    (fits : node.selfNode.count + 1 < 2 ^ 31) (now : Int) :
    node.counted now =
      node.selfNode.update (node.selfNode.count + 1) now false := by
  have isNext : IsInt32 (node.selfNode.count + 1) :=
    ⟨isInt.1.trans (Int.le_of_lt (Int.lt_succ _)), fits⟩
  rw [DMember.counted, isNext.bmod_eq, running]

/-- The merged own entry is leaving exactly if a leaving record prevails, and it
is as old as the last newer record. -/
theorem exists_ownMerged
    (running : node.isStopped = false)
    (isInt : IsInt32 node.selfNode.count)
    (fits : node.selfNode.count + 1 < 2 ^ 31) :
    ∃ merged, node.ownMerged readings = some merged ∧
      node.selfNode.count < merged.count ∧
      (merged.leaving = false ↔
        ∀ newest ∈ prevailing
            (some (node.selfNode.update (node.selfNode.count + 1)
              readings.updated false))
            (recordsOf node.membersQueue node.id),
          newest.leaving = false) ∧
      merged.lastUpdate =
        if ∃ record ∈ recordsOf node.membersQueue node.id,
            node.selfNode.count + 1 < record.count then
          readings.merged
        else readings.updated := by
  have counts := counted_of_fits running isInt fits readings.updated
  obtain ⟨merged, isMerged, grows, _⟩ := foldl_mergeEntry_some
    readings.merged (node.counted readings.updated)
    (recordsOf node.membersQueue node.id)
  have marks := mark_merged readings.merged
    (some (node.counted readings.updated))
    (recordsOf node.membersQueue node.id)
  rw [isMerged, counts] at marks
  obtain ⟨newest, isNewest, sameMark⟩ := Option.map_eq_some_iff.mp marks.symm
  have stamps := lastUpdate_foldl_mergeEntry isMerged
  rw [counts] at grows stamps
  refine ⟨merged, isMerged, ?_, ?_, stamps⟩
  · rcases grows with rfl | more
    · exact Int.lt_succ _
    · exact Int.lt_trans (Int.lt_succ _) more
  · have sameLeaving : newest.leaving = merged.leaving :=
      congrArg Prod.snd sameMark
    rw [isNewest, ← sameLeaving]
    simp

/-- An iteration keeps the own entry, with a greater count. -/
theorem KeepsOwnEntry.exists_find
    (keeps : KeepsOwnEntry node readings)
    (running : node.isStopped = false)
    (isInt : IsInt32 node.selfNode.count) :
    ∃ member, node.ownMerged readings = some member ∧
      (node.iterate readings).node.memberMap.find node.id = some member ∧
      member.leaving = false ∧ node.selfNode.count < member.count := by
  obtain ⟨merged, isMerged, grows, leaves, stamps⟩ :=
    @exists_ownMerged _ _ node readings running isInt keeps.fits
  have stays := leaves.mpr keeps.stays
  have fresh : merged.shouldBeCleanUp readings.cleaned = false :=
    (shouldBeCleanUp_congr _ stamps stays).trans keeps.punctual
  refine ⟨merged, isMerged, ?_, stays, grows⟩
  rw [DMember.find_iterate_self, isMerged,
    Option.filter_some_pos (by simp [fresh]),
    Option.filter_some_pos (by simp [stays])]

/-- If an iteration keeps the own entry, with a greater count where that is
possible, it meets the conditions. -/
theorem keepsOwnEntry_of_find
    {member : Member Id}
    (running : node.isStopped = false)
    (isInt : IsInt32 node.selfNode.count)
    (fits : node.selfNode.count + 1 < 2 ^ 31)
    (found : (node.iterate readings).node.memberMap.find node.id =
      some member) :
    KeepsOwnEntry node readings := by
  obtain ⟨merged, isMerged, _, leaves, stamps⟩ :=
    @exists_ownMerged _ _ node readings running isInt fits
  rw [DMember.find_iterate_self, isMerged, Option.filter_eq_some_iff,
    Option.filter_eq_some_iff, Bool.not_eq_true', Bool.not_eq_true'] at found
  obtain ⟨⟨same, fresh⟩, stays⟩ := found
  obtain rfl := Option.some.inj same
  exact ⟨fits, leaves.mp stays,
    (shouldBeCleanUp_congr _ stamps.symm stays.symm).trans fresh⟩

/-- The counts in the entry remain representable. -/
theorem isInt32_ownMerged
    {member : Member Id}
    (queued : ∀ record ∈ recordsOf node.membersQueue node.id,
      IsInt32 record.count)
    (isMerged : node.ownMerged readings = some member) :
    IsInt32 member.count := by
  refine @foldl_mergeEntry_of_forall Id readings.merged member _
    (fun count _ => IsInt32 count) _ ?_ queued isMerged
  intro old isOld
  obtain rfl := Option.some.inj isOld
  have above := @Int.le_bmod (node.selfNode.count + 1) (2 ^ 32) (by decide)
  have below := @Int.bmod_lt (node.selfNode.count + 1) (2 ^ 32) (by decide)
  constructor
  · exact above
  · exact below

end Iteration

/-! ## Runs -/

/-- What is known as long as the own entry has been kept. -/
structure Kept (own : OwnNode Id) : Prop where
  running : own.node.isStopped = false
  last : own.node.memberMap.find own.node.id = own.entries.getLast?.join
  ownInt : IsInt32 own.node.selfNode.count
  queued : ∀ record ∈ recordsOf own.node.membersQueue own.node.id,
    IsInt32 record.count
  waiting : ∀ heartbeat ∈ own.received, ∀ member ∈ heartbeat.memberlist,
    IsInt32 member.count
  permanent : Permanent own

namespace Kept

variable {own next : OwnNode Id} {readings : Readings}

theorem initial (id : Id) : Kept (OwnNode.initial id) where
  running := rfl
  last := rfl
  ownInt := by
    change IsInt32 0
    decide
  queued := nofun
  waiting := nofun
  permanent :=
    { alive := rfl
      present := nofun
      grows := List.Pairwise.nil
      silent := nofun }

/-- The count that is counted up next is the greatest. -/
theorem count_le_selfNode
    (kept : Kept own) {entry : Option (Member Id)}
    (isEntry : entry ∈ own.entries) {member : Member Id}
    (isMember : member ∈ entry) :
    member.count ≤ own.node.selfNode.count := by
  obtain ⟨alive, present, grows, silent⟩ := kept.permanent
  have last := kept.last
  rcases List.eq_nil_or_concat own.entries with
    nothing | ⟨entries, final, isConcat⟩
  · rw [nothing] at isEntry
    cases isEntry
  · rw [List.concat_eq_append] at isConcat
    rw [isConcat] at last present grows isEntry
    obtain ⟨own, rfl, _⟩ := present final (by simp)
    rw [List.getLast?_concat, Option.join_some] at last
    rw [DMember.selfNode, last, Option.getD_some]
    rcases List.mem_append.mp isEntry with earlier | isFinal
    · have below := (List.pairwise_append.mp grows).2.2 entry earlier _
        (List.mem_singleton_self _) member isMember own rfl
      exact Int.le_of_lt below
    · obtain rfl := List.mem_singleton.mp isFinal
      obtain rfl := Option.some.inj isMember
      exact Int.le_refl _

/-- More records are waiting. -/
theorem enqueue
    (kept : Kept own) {map : MemberMap Id}
    (fits : ∀ record ∈ map.find own.node.id, IsInt32 record.count)
    {received : Option (HeartBeat Id)} {updateOnNextHeartbeat : Bool}
    (waiting : ∀ heartbeat ∈ received, ∀ member ∈ heartbeat.memberlist,
      IsInt32 member.count) :
    Kept
      { own with
        node :=
          { own.node with
            membersQueue := own.node.membersQueue ++ [map]
            updateOnNextHeartbeat := updateOnNextHeartbeat }
        received := received } where
  running := kept.running
  last := kept.last
  ownInt := kept.ownInt
  queued := by
    intro record isRecord
    simp only [recordsOf, List.filterMap_append, List.mem_append,
      List.filterMap_cons, List.filterMap_nil] at isRecord
    rcases isRecord with isOld | isNew
    · exact kept.queued record isOld
    · cases found : map.find own.node.id with
      | none =>
          rw [found] at isNew
          cases isNew
      | some new =>
          rw [found] at isNew
          obtain rfl := List.mem_singleton.mp isNew
          exact fits _ found
  waiting := waiting
  permanent :=
    { alive := kept.permanent.alive
      present := kept.permanent.present
      grows := kept.permanent.grows
      silent := kept.permanent.silent }

/-- An iteration that meets the conditions keeps the own entry. -/
theorem iterate
    (kept : Kept own) (keeps : KeepsOwnEntry own.node readings) :
    Kept (own.iterate readings) := by
  obtain ⟨member, isMerged, found, stays, grows⟩ :=
    keeps.exists_find kept.running kept.ownInt
  have isOwn : (own.iterate readings).node.memberMap.find
      (own.iterate readings).node.id = some member := found
  have last : (own.iterate readings).entries = own.entries ++ [some member] :=
    congrArg (fun entry => own.entries ++ [entry]) found
  have selfNode : (own.iterate readings).node.selfNode = member := by
    rw [DMember.selfNode, isOwn, Option.getD_some]
  refine
    { running := kept.running
      last := ?_
      ownInt := ?_
      queued := nofun
      waiting := kept.waiting
      permanent :=
        { alive := kept.permanent.alive
          present := ?_
          grows := ?_
          silent := ?_ } }
  · rw [isOwn, last, List.getLast?_concat]
    rfl
  · rw [selfNode]
    exact isInt32_ownMerged kept.queued isMerged
  · rw [last]
    intro entry isEntry
    rcases List.mem_append.mp isEntry with isOld | isNew
    · exact kept.permanent.present entry isOld
    · exact ⟨member, List.mem_singleton.mp isNew, stays⟩
  · rw [last]
    refine List.pairwise_append.mpr ⟨kept.permanent.grows,
      List.pairwise_singleton _ _, ?_⟩
    intro entry isEntry new isNew first isFirst second isSecond
    obtain rfl := List.mem_singleton.mp isNew
    obtain rfl := Option.some.inj isSecond
    have below := kept.count_le_selfNode isEntry isFirst
    omega
  · intro heartbeat isSent record isRecord isSelf
    rcases List.mem_append.mp isSent with isOld | isNew
    · exact kept.permanent.silent heartbeat isOld record isRecord isSelf
    · obtain rfl := List.mem_singleton.mp isNew
      have same := DMember.find_of_mem_iterate isRecord isSelf
      obtain rfl := Option.some.inj (same.symm.trans isMerged)
      exact stays

/-- If an iteration leaves everything permanent, it meets the conditions. -/
theorem keepsOwnEntry
    (kept : Kept own) (permanent : Permanent (own.iterate readings)) :
    KeepsOwnEntry own.node readings := by
  obtain ⟨member, found, _⟩ := permanent.present
    ((own.node.iterate readings).node.memberMap.find own.node.id)
    (List.mem_append_right _ (List.mem_singleton_self _))
  refine keepsOwnEntry_of_find kept.running kept.ownInt ?_ found
  by_contra tooMany
  -- The greatest count is that of an entry, and no other one is greater.
  have isEntry : some own.node.selfNode ∈ own.entries := by
    cases isOwn : own.node.memberMap.find own.node.id with
    | none =>
        rw [DMember.selfNode, isOwn, Option.getD_none] at tooMany
        exact absurd (show (0 : Int) + 1 < 2 ^ 31 by decide) tooMany
    | some old =>
        have last := kept.last
        rw [isOwn, eq_comm, Option.join_eq_some_iff] at last
        rw [DMember.selfNode, isOwn, Option.getD_some]
        exact List.mem_of_getLast? last
  have grows := (List.pairwise_append.mp permanent.grows).2.2 _ isEntry _
    (List.mem_singleton_self _) own.node.selfNode rfl member found
  have fits : IsInt32 member.count := by
    rw [DMember.find_iterate_self, Option.filter_eq_some_iff,
      Option.filter_eq_some_iff] at found
    exact isInt32_ownMerged kept.queued found.1.1
  exact tooMany (Int.lt_of_le_of_lt grows fits.2)

/-- Every step that meets the conditions keeps the own entry. -/
theorem step
    {action : OwnAction Id} (kept : Kept own)
    (keeps : KeepsEntry own action) (stepped : own.step action = some next) :
    Kept next := by
  rw [OwnNode.step, if_neg (by simp [kept.permanent.alive])] at stepped
  cases action with
  | ping =>
      simp only [OwnNode.advance] at stepped
      obtain ⟨member, isOwn⟩ := Option.ne_none_iff_exists'.mp keeps
      rw [DMember.replyPingRequest, isOwn] at stepped
      obtain rfl := Option.some.inj stepped
      exact kept
  | receive heartbeat =>
      simp only [OwnNode.advance] at stepped
      rw [Option.ite_none_right_eq_some] at stepped
      obtain ⟨⟨_, fits⟩, stepped⟩ := stepped
      split at stepped
      next checks =>
        rw [keeps checks.1 checks.2.1] at checks
        exact absurd checks.2.2 Bool.false_ne_true
      next =>
        obtain rfl := Option.some.inj stepped
        refine { kept with waiting := ?_, permanent := { kept.permanent with } }
        intro other isReceived
        obtain rfl := Option.some.inj isReceived
        exact fits
  | enqueue =>
      simp only [OwnNode.advance] at stepped
      split at stepped
      next heartbeat isReceived =>
        rw [Option.ite_none_left_eq_some] at stepped
        obtain ⟨_, stepped⟩ := stepped
        obtain rfl := Option.some.inj stepped
        refine kept.enqueue (fun record found => ?_) nofun
        exact kept.waiting heartbeat isReceived record
          (HeartBeat.mem_of_find_members found)
      next => cases stepped
  | checkAvailability now acks =>
      simp only [OwnNode.advance] at stepped
      rw [Option.ite_none_right_eq_some] at stepped
      obtain ⟨⟨_, fits⟩, stepped⟩ := stepped
      obtain rfl := Option.some.inj stepped
      refine kept.enqueue (fun record found => ?_) kept.waiting
      rcases mem_of_find_foldl_insertNew found with isOld | isNew
      · cases isOld
      · obtain ⟨ack, isAck, rfl⟩ := List.mem_map.mp isNew
        exact fits ack isAck
  | lookUp =>
      simp only [OwnNode.advance] at stepped
      rw [Option.ite_none_left_eq_some] at stepped
      obtain rfl := Option.some.inj stepped.2
      exact { kept with permanent := { kept.permanent with } }
  | iterate readings =>
      simp only [OwnNode.advance] at stepped
      rw [Option.ite_none_right_eq_some] at stepped
      obtain rfl := Option.some.inj stepped.2
      exact kept.iterate keeps

/-- Every other step breaks what was permanent. -/
theorem breaks
    {action : OwnAction Id} (kept : Kept own)
    (fails : ¬ KeepsEntry own action)
    (stepped : own.step action = some next) : ¬ Permanent next := by
  rw [OwnNode.step, if_neg (by simp [kept.permanent.alive])] at stepped
  intro permanent
  cases action with
  | ping =>
      simp only [OwnNode.advance] at stepped
      have absent : own.Absent := by
        by_contra present
        exact fails present
      rw [DMember.replyPingRequest, absent] at stepped
      obtain rfl := Option.some.inj stepped
      exact Bool.noConfusion permanent.alive
  | receive heartbeat =>
      simp only [OwnNode.advance] at stepped
      rw [Option.ite_none_right_eq_some] at stepped
      obtain ⟨_, stepped⟩ := stepped
      split at stepped
      next =>
        obtain rfl := Option.some.inj stepped
        exact Bool.noConfusion permanent.alive
      next unchecked =>
        apply fails
        intro updating absent
        by_contra checks
        exact unchecked ⟨updating, absent, by simpa using checks⟩
  | enqueue | checkAvailability now acks | lookUp => exact fails trivial
  | iterate readings =>
      simp only [OwnNode.advance] at stepped
      rw [Option.ite_none_right_eq_some] at stepped
      obtain rfl := Option.some.inj stepped.2
      exact fails (kept.keepsOwnEntry permanent)

end Kept

/-- For all heartbeats and all orders of the steps of the threads, the node
keeps its own entry all the time exactly if nobody asks for the entry before
there is one and every iteration keeps it. -/
theorem ownEntry_permanent_iff
    (id : Id) (trace : List (OwnAction Id)) (final : OwnNode Id)
    (runs : (ownSystem id).Runs (OwnNode.initial id) trace final) :
    (ownSystem id).Every KeepsEntry (OwnNode.initial id) trace ↔
      ∀ front middle, front <+: trace →
        (ownSystem id).Runs (OwnNode.initial id) front middle →
        Permanent middle :=
  runs.every_iff_forall_front Kept Permanent
    (fun _ _ _ kept keeps stepped => kept.step keeps stepped)
    (fun _ kept => kept.permanent)
    (fun _ _ _ kept fails stepped => kept.breaks fails stepped)
    (Kept.initial id)

/-- An iteration in which the clock does not move. -/
def readings (now : Int) : Readings :=
  { updated := now, merged := now, cleaned := now, created := now }

/-- The node hears an old record of itself, and is pinged. -/
def startedNode : List (OwnAction Nat) :=
  [.lookUp, .iterate (readings 0), .ping,
    .receive { memberlist := [⟨1, 7, 0, false⟩], updateConnection := false },
    .enqueue, .lookUp, .ping, .iterate (readings 500000000)]

theorem ownEntry_permanent_startedNode :
    ∃ final ∈ (ownSystem 1).run (OwnNode.initial 1) startedNode,
      final.entries =
          [some ⟨1, 1, 0, false⟩, some ⟨1, 7, 500000000, false⟩] ∧
        ∀ front middle, front <+: startedNode →
          (ownSystem 1).Runs (OwnNode.initial 1) front middle →
          Permanent middle := by
  obtain ⟨final, runs, entries, every⟩ :
      ∃ final ∈ (ownSystem 1).run (OwnNode.initial 1) startedNode,
        final.entries =
            [some ⟨1, 1, 0, false⟩, some ⟨1, 7, 500000000, false⟩] ∧
          (ownSystem 1).Every KeepsEntry (OwnNode.initial 1) startedNode := by
    decide
  exact ⟨final, runs, entries,
    (ownEntry_permanent_iff 1 startedNode final runs).mp every⟩

/-- The node has left before, and its old leave is still being relayed when it
has joined again. -/
def rejoinedNode : List (OwnAction Nat) :=
  [.lookUp, .iterate (readings 0),
    .receive { memberlist := [⟨1, 40, 0, true⟩], updateConnection := false },
    .enqueue, .lookUp, .iterate (readings 500000000)]

/-- A ping before the first iteration finds a null pointer, and a node that has
joined again announces its leave once more. -/
theorem ownEntry_not_permanent :
    (∃ final ∈ (ownSystem 1).run (OwnNode.initial 1) [.ping],
      ¬ Permanent final) ∧
    ∃ final ∈ (ownSystem 1).run (OwnNode.initial 1) rejoinedNode,
      final.entries = [some ⟨1, 1, 0, false⟩, none] ∧
        (∃ heartbeat ∈ final.sent, ⟨1, 40, 500000000, true⟩ ∈
          heartbeat.memberlist) ∧
        ¬ Permanent final := by
  constructor
  · obtain ⟨final, runs, crashed⟩ :
        ∃ final ∈ (ownSystem 1).run (OwnNode.initial 1) [.ping],
          final.dereferenced = true := by
      decide
    refine ⟨final, runs, fun permanent => ?_⟩
    rw [permanent.alive] at crashed
    cases crashed
  · obtain ⟨final, runs, entries, announced⟩ :
        ∃ final ∈ (ownSystem 1).run (OwnNode.initial 1) rejoinedNode,
          final.entries = [some ⟨1, 1, 0, false⟩, none] ∧
            ∃ heartbeat ∈ final.sent, ⟨1, 40, 500000000, true⟩ ∈
              heartbeat.memberlist := by
      decide
    refine ⟨final, runs, entries, announced, fun permanent => ?_⟩
    obtain ⟨member, found, _⟩ := permanent.present none (by simp [entries])
    cases found

end Membership
end CraneSps
