import CraneSps.Foundation.TransitionSystem
import CraneSps.Membership.DMember
import Mathlib.Data.List.MinMax

/-!
# Who is told that a member is gone

The subscribers of a node get an event for every member that is cleaned up
after a timeout.  A member whose leaving record has prevailed is removed when
the record is passed on, and nobody gets an event for it.
-/

namespace CraneSps
namespace Membership

variable {Id : Type} [LinearOrder Id]

/-- The subscribers of `NodeFailEvent`. -/
inductive Subscriber
  | candidate
  | dFileMaster
  | nimbus
  deriving DecidableEq

/-! ## Delivering events -/

/-- The events of a round. -/
structure Report (Id : Type) where
  deliveries : List (Subscriber × Id)
  /-- The leaders for which `Candidate::handle` has started a thread. -/
  electionThreads : List Id
  deriving DecidableEq

namespace Report

/-- `handle(NodeFailEvent)` of a subscriber. -/
def handle
    (leader : Option Id) (id : Id) (report : Report Id)
    (subscriber : Subscriber) : Report Id :=
  let delivered :=
    { report with deliveries := report.deliveries ++ [(subscriber, id)] }
  match subscriber with
  | .candidate =>
      if leader = some id then
        { delivered with electionThreads := report.electionThreads ++ [id] }
      else delivered
  | .dFileMaster => delivered
  | .nimbus => delivered

/-- `handleEvent`. -/
def handleEvent
    (eventHandlers : List Subscriber) (leader : Option Id)
    (report : Report Id) (id : Id) : Report Id :=
  eventHandlers.foldl (handle leader id) report

variable {eventHandlers : List Subscriber} {leader : Option Id}
variable {report : Report Id} {failed : List Id} {id : Id}
variable {subscriber : Subscriber}

theorem mem_deliveries_handle {other : Id} {told : Subscriber} :
    (told, id) ∈ (handle leader other report subscriber).deliveries ↔
      (told, id) ∈ report.deliveries ∨ (told = subscriber ∧ id = other) := by
  have delivered : (handle leader other report subscriber).deliveries =
      report.deliveries ++ [(subscriber, other)] := by
    unfold handle
    split
    · split <;> rfl
    · rfl
    · rfl
  rw [delivered, List.mem_append, List.mem_singleton, Prod.mk.injEq]

theorem mem_electionThreads_handle {other : Id} :
    id ∈ (handle leader other report subscriber).electionThreads ↔
      id ∈ report.electionThreads ∨
        (subscriber = .candidate ∧ leader = some id ∧ id = other) := by
  unfold handle
  split
  · split
    · next isLeader =>
        rw [List.mem_append, List.mem_singleton]
        refine or_congr_right ⟨?_, fun started => started.2.2⟩
        rintro rfl
        exact ⟨rfl, isLeader, rfl⟩
    · next notLeader =>
        refine ⟨.inl, fun started => started.resolve_right ?_⟩
        rintro ⟨_, isLeader, rfl⟩
        exact notLeader isLeader
  · simp
  · simp

/-- An event goes to all subscribers. -/
theorem mem_deliveries_handleEvent {other : Id} :
    (subscriber, id) ∈
        (handleEvent eventHandlers leader report other).deliveries ↔
      (subscriber, id) ∈ report.deliveries ∨
        (subscriber ∈ eventHandlers ∧ id = other) := by
  unfold handleEvent
  induction eventHandlers generalizing report with
  | nil => simp
  | cons first rest inductionHypothesis =>
      rw [List.foldl_cons, inductionHypothesis, mem_deliveries_handle,
        List.mem_cons, or_assoc, or_and_right]

theorem mem_electionThreads_handleEvent {other : Id} :
    id ∈ (handleEvent eventHandlers leader report other).electionThreads ↔
      id ∈ report.electionThreads ∨
        (.candidate ∈ eventHandlers ∧ leader = some id ∧ id = other) := by
  unfold handleEvent
  induction eventHandlers generalizing report with
  | nil => simp
  | cons first rest inductionHypothesis =>
      rw [List.foldl_cons, inductionHypothesis, mem_electionThreads_handle,
        List.mem_cons, or_assoc, or_and_right, @eq_comm _ first]

/-- The events of a round go to all subscribers. -/
theorem mem_deliveries :
    (subscriber, id) ∈
        (failed.foldl (handleEvent eventHandlers leader) report).deliveries ↔
      (subscriber, id) ∈ report.deliveries ∨
        (subscriber ∈ eventHandlers ∧ id ∈ failed) := by
  induction failed generalizing report with
  | nil => simp
  | cons first rest inductionHypothesis =>
      rw [List.foldl_cons, inductionHypothesis, mem_deliveries_handleEvent,
        List.mem_cons, or_assoc, and_or_left]

/-- The event that names the leader starts an election. -/
theorem mem_electionThreads :
    id ∈ (failed.foldl (handleEvent eventHandlers leader)
        report).electionThreads ↔
      id ∈ report.electionThreads ∨
        (.candidate ∈ eventHandlers ∧ leader = some id ∧ id ∈ failed) := by
  induction failed generalizing report with
  | nil => simp
  | cons first rest inductionHypothesis =>
      rw [List.foldl_cons, inductionHypothesis,
        mem_electionThreads_handleEvent, List.mem_cons, or_assoc,
        and_or_left, and_or_left]

end Report

/-! ## The prevailing record -/

/-- Of the entry of a member and the waiting records, those that count: an
unknown member is not taken up from a leaving record. -/
def considered (entry : Option (Member Id)) (records : List (Member Id)) :
    List (Member Id) :=
  match entry with
  | some member => member :: records
  | none => records.dropWhile Member.leaving

/-- The first of the newest records. -/
def prevailing (entry : Option (Member Id)) (records : List (Member Id)) :
    Option (Member Id) :=
  (considered entry records).foldl
    (List.argAux fun next newest => newest.count < next.count) none

/-- What merging takes from a record. -/
def mark (member : Member Id) : Int × Bool :=
  (member.count, member.leaving)

omit [LinearOrder Id] in
/-- Merging chooses the record that the maximum chooses. -/
theorem mark_foldl_mergeEntry
    {now : Int} {member record : Member Id} (records : List (Member Id))
    (sameMark : mark member = mark record) :
    (records.foldl (mergeEntry now) (some member)).map mark =
      (records.foldl (List.argAux fun next newest =>
        newest.count < next.count) (some record)).map mark := by
  have sameCount : member.count = record.count := congrArg Prod.fst sameMark
  induction records generalizing member record with
  | nil => exact congrArg some sameMark
  | cons next records inductionHypothesis =>
      rw [List.foldl_cons, List.foldl_cons, mergeEntry]
      rcases Member.updateFrom_cases now member next with
        ⟨notNewer, same⟩ | ⟨newer, count, leaving⟩
      · have notAbove : ¬ record.count < next.count := by omega
        have keeps : List.argAux (fun next newest : Member Id =>
            newest.count < next.count) (some record) next = some record :=
          if_neg notAbove
        rw [keeps, same]
        exact inductionHypothesis sameMark sameCount
      · have above : record.count < next.count := by omega
        have takes : List.argAux (fun next newest : Member Id =>
            newest.count < next.count) (some record) next = some next :=
          if_pos above
        rw [takes]
        exact inductionHypothesis (Prod.ext count leaving) count

omit [LinearOrder Id] in
/-- A merged entry has the mark of the record that prevails. -/
theorem mark_merged
    (now : Int) (entry : Option (Member Id)) (records : List (Member Id)) :
    (records.foldl (mergeEntry now) entry).map mark =
      (prevailing entry records).map mark := by
  cases entry with
  | some member => exact mark_foldl_mergeEntry records rfl
  | none =>
      induction records with
      | nil => rfl
      | cons record records inductionHypothesis =>
          rw [List.foldl_cons, mergeEntry, prevailing, considered]
          cases leaves : record.leaving with
          | true =>
              rw [if_pos rfl, List.dropWhile_cons_of_pos leaves]
              exact inductionHypothesis
          | false =>
              rw [if_neg Bool.false_ne_true, List.dropWhile_cons_of_neg
                (Bool.not_eq_true _ ▸ leaves)]
              exact mark_foldl_mergeEntry records
                (congrArg (Prod.mk record.count) leaves.symm)

/-! ## Runs of one node -/

/-- The removal of another member. -/
structure Departure (Id : Type) where
  id : Id
  /-- Who had subscribed at that time. -/
  eventHandlers : List Subscriber
  /-- The leader at that time. -/
  leader : Option Id
  /-- The events of the round. -/
  report : Report Id
  deriving DecidableEq

/-- A node, its subscribers, and the leader that its `Candidate` knows. -/
structure Watch (Id : Type) [LinearOrder Id] where
  node : DMember Id
  eventHandlers : List Subscriber
  leader : Option Id
  /-- All removals so far: no part of the code, only of what is said about
  it. -/
  departures : List (Departure Id)

/-- What can happen at the node; the messages are arbitrary. -/
inductive WatchAction (Id : Type)
  | receive (heartbeat : HeartBeat Id)
  | checkAvailability (now : Int) (acks : List (PingAck Id))
  /-- A round of the heartbeat thread. -/
  | heartbeat (now : Int)
  | stop
  | subscribe (subscriber : Subscriber)
  /-- The `Candidate` gets to know another leader, or none. -/
  | setLeader (leader : Option Id)
  deriving DecidableEq

/-- The subscribers have got an event for the member, and if it was the leader
an election has been started. -/
structure Noticed (departure : Departure Id) : Prop where
  delivered : ∀ subscriber ∈ departure.eventHandlers,
    (subscriber, departure.id) ∈ departure.report.deliveries
  elects : .candidate ∈ departure.eventHandlers →
    departure.leader = some departure.id →
    departure.id ∈ departure.report.electionThreads

namespace Watch

/-- A node that has just been started. -/
def initial (id : Id) : Watch Id where
  node := .new id
  eventHandlers := []
  leader := none
  departures := []

variable (watch : Watch Id)

/-- The events of a round. -/
def report (now : Int) : Report Id :=
  (watch.node.heartbeat now).failed.foldl
    (Report.handleEvent watch.eventHandlers watch.leader) ⟨[], []⟩

/-- The other members that a round removes. -/
def removedBy (now : Int) : List (Member Id) :=
  (watch.node.merged now).memberMap.entries.filter fun member =>
    member.id != watch.node.id &&
      (member.shouldBeCleanUp now || member.leaving)

/-- The departures of a round. -/
def departed (now : Int) : List (Departure Id) :=
  (watch.removedBy now).map fun member =>
    { id := member.id
      eventHandlers := watch.eventHandlers
      leader := watch.leader
      report := watch.report now }

/-- One step of the node. -/
def step : WatchAction Id → Option (Watch Id)
  | .receive heartbeat =>
      some { watch with node := (watch.node.process heartbeat).1 }
  | .checkAvailability now acks =>
      some { watch with node := watch.node.checkAvailability now acks }
  | .heartbeat now =>
      if watch.node.senderFinished then none
      else
        some
          { watch with
            node := (watch.node.heartbeat now).node
            departures := watch.departures ++ watch.departed now }
  | .stop => some { watch with node := watch.node.stop }
  | .subscribe subscriber =>
      some
        { watch with
          eventHandlers := watch.eventHandlers ++ [subscriber] }
  | .setLeader leader => some { watch with leader := leader }

end Watch

/-- One node, from its start. -/
def watching (id : Id) : TransitionSystem (Watch Id) (WatchAction Id) where
  initial := .initial id
  step := Watch.step

namespace DMember

/-- The ids of the entries and of the waiting records. -/
def heardOf (node : DMember Id) : List Id :=
  node.memberMap.entries.map Member.id ++
    node.membersQueue.flatMap fun map => map.entries.map Member.id

/-- No leaving record of another member prevails. -/
def OthersStay (node : DMember Id) : Prop :=
  ∀ id ∈ node.heardOf, id ≠ node.id →
    ∀ record ∈ prevailing (node.memberMap.find id)
      (recordsOf node.membersQueue id), record.leaving = false

instance (node : DMember Id) : Decidable node.OthersStay := by
  unfold OthersStay
  infer_instance

variable {node : DMember Id} {now : Int} {id : Id} {member : Member Id}

/-- A member that is found after the merge was heard of. -/
theorem mem_heardOf (other : id ≠ node.id)
    (found : (node.merged now).memberMap.find id = some member) :
    id ∈ node.heardOf := by
  rw [find_merged, find_updateSelf, if_neg other] at found
  rw [heardOf, List.mem_append]
  cases known : node.memberMap.find id with
  | some entry =>
      exact .inl (List.mem_map.mpr
        ⟨entry, SortedMap.mem_of_find known, SortedMap.key_of_find known⟩)
  | none =>
      cases records : recordsOf node.membersQueue id with
      | nil =>
          rw [known, records] at found
          nomatch found
      | cons record rest =>
          have isRecord : record ∈ recordsOf node.membersQueue id :=
            records ▸ List.mem_cons_self
          obtain ⟨map, waiting, isEntry⟩ := List.mem_filterMap.mp isRecord
          exact .inr (List.mem_flatMap.mpr ⟨map, waiting, List.mem_map.mpr
            ⟨record, SortedMap.mem_of_find isEntry,
              SortedMap.key_of_find isEntry⟩⟩)

/-- Another member has the mark of its prevailing record. -/
theorem mark_find_merged (other : id ≠ node.id) :
    ((node.merged now).memberMap.find id).map mark =
      (prevailing (node.memberMap.find id)
        (recordsOf node.membersQueue id)).map mark := by
  rw [find_merged, find_updateSelf, if_neg other]
  exact mark_merged now _ _

end DMember

namespace Watch

variable {watch next : Watch Id} {now : Int} {id : Id}

/-- The removed members are those that have failed and those that leave. -/
theorem mem_departed_iff {departure : Departure Id} :
    departure ∈ watch.departed now ↔
      ∃ member, (watch.node.merged now).memberMap.find member.id =
          some member ∧ member.id ≠ watch.node.id ∧
        (member.shouldBeCleanUp now = true ∨ member.leaving = true) ∧
        departure = ⟨member.id, watch.eventHandlers, watch.leader,
          watch.report now⟩ := by
  simp only [departed, removedBy, List.mem_map, List.mem_filter,
    Bool.and_eq_true, bne_iff_ne, Bool.or_eq_true]
  constructor
  · rintro ⟨member, ⟨isEntry, other, why⟩, rfl⟩
    exact ⟨member, SortedMap.find_of_mem isEntry, other, why, rfl⟩
  · rintro ⟨member, found, other, why, rfl⟩
    exact ⟨member, ⟨SortedMap.mem_of_find found, other, why⟩, rfl⟩

/-- The subscribers hear of exactly the members that have failed. -/
theorem mem_report {subscriber : Subscriber} :
    (subscriber, id) ∈ (watch.report now).deliveries ↔
      subscriber ∈ watch.eventHandlers ∧
        id ∈ (watch.node.heartbeat now).failed := by
  rw [report, Report.mem_deliveries]
  exact or_iff_right List.not_mem_nil

/-- A member that has failed is noticed. -/
theorem noticed_of_failed
    (isFailed : id ∈ (watch.node.heartbeat now).failed) :
    Noticed (⟨id, watch.eventHandlers, watch.leader, watch.report now⟩ :
      Departure Id) where
  delivered := fun _ subscribed => mem_report.mpr ⟨subscribed, isFailed⟩
  elects := fun subscribed isLeader =>
    Report.mem_electionThreads.mpr (.inr ⟨subscribed, isLeader, isFailed⟩)

/-- If no leaving record of another member prevails, all departures of a
round are noticed. -/
theorem noticed_of_departed {departure : Departure Id}
    (stay : watch.node.OthersStay)
    (departed : departure ∈ watch.departed now) : Noticed departure := by
  obtain ⟨member, found, other, why, rfl⟩ := mem_departed_iff.mp departed
  refine noticed_of_failed (DMember.mem_failed_iff.mpr
    ⟨member, found, why.resolve_right fun leaves => ?_⟩)
  have sameMark :
      ((watch.node.merged now).memberMap.find member.id).map mark = _ :=
    DMember.mark_find_merged other
  rw [found, Option.map_some, eq_comm, Option.map_eq_some_iff] at sameMark
  obtain ⟨record, prevails, sameMark⟩ := sameMark
  have sameLeaving : record.leaving = member.leaving :=
    congrArg Prod.snd sameMark
  have stays := stay member.id (DMember.mem_heardOf other found) other record
    prevails
  rw [sameLeaving, leaves] at stays
  nomatch stays

/-- A node with a subscriber tells of all departures of a round exactly if no
leaving record of another member prevails in it. -/
theorem departed_noticed_iff (subscribed : watch.eventHandlers ≠ []) :
    (∀ departure ∈ watch.departed now, Noticed departure) ↔
      watch.node.OthersStay := by
  constructor
  · intro noticed id _ other record prevails
    have sameMark : ((watch.node.merged now).memberMap.find id).map mark = _ :=
      DMember.mark_find_merged other
    rw [Option.mem_def.mp prevails, Option.map_some,
      Option.map_eq_some_iff] at sameMark
    obtain ⟨member, found, sameMark⟩ := sameMark
    have sameLeaving : member.leaving = record.leaving :=
      congrArg Prod.snd sameMark
    obtain rfl := SortedMap.key_of_find found
    by_contra leaves
    rw [Bool.not_eq_false, ← sameLeaving] at leaves
    obtain ⟨subscriber, isSubscriber⟩ := List.exists_mem_of_ne_nil _ subscribed
    have delivered := (noticed _ (mem_departed_iff.mpr
      ⟨member, found, other, .inr leaves, rfl⟩)).delivered subscriber
        isSubscriber
    -- a leaving member is not cleaned up
    obtain ⟨same, isSame, isOld⟩ :=
      DMember.mem_failed_iff.mp (mem_report.mp delivered).2
    obtain rfl := Option.some.inj (found.symm.trans isSame)
    rw [Member.shouldBeCleanUp, leaves, Bool.not_true, Bool.and_false] at isOld
    cases isOld
  · intro stay departure departed
    exact noticed_of_departed stay departed

/-- No leaving record of another member prevails in a round. -/
def OthersStay (watch : Watch Id) : WatchAction Id → Prop
  | .heartbeat _ => watch.node.OthersStay
  | _ => True

instance (watch : Watch Id) (action : WatchAction Id) :
    Decidable (OthersStay watch action) := by
  rcases action <;> unfold OthersStay <;> infer_instance

theorem step_noticed {action : WatchAction Id}
    (noticed : ∀ departure ∈ watch.departures, Noticed departure)
    (stay : watch.OthersStay action)
    (stepped : watch.step action = some next) :
    ∀ departure ∈ next.departures, Noticed departure := by
  cases action with
  | heartbeat now =>
      simp only [step, Option.ite_none_left_eq_some, Option.some.injEq]
        at stepped
      obtain ⟨_, rfl⟩ := stepped
      intro departure isDeparture
      rcases List.mem_append.mp isDeparture with earlier | new
      · exact noticed departure earlier
      · exact noticed_of_departed stay new
  | _ =>
      obtain rfl := Option.some.inj stepped
      exact noticed

end Watch

/-- Whatever a node receives: if no leaving record of another member prevails
in any round, all departures are noticed. -/
theorem noticed_of_othersStay
    {id : Id} {trace : List (WatchAction Id)} {watch : Watch Id}
    (every : (watching id).Every Watch.OthersStay (.initial id) trace)
    (runs : (watching id).Runs (.initial id) trace watch) :
    ∀ departure ∈ watch.departures, Noticed departure :=
  every.invariant runs
    (fun watch => ∀ departure ∈ watch.departures, Noticed departure)
    (fun _ _ _ noticed stay stepped => Watch.step_noticed noticed stay stepped)
    nofun

/-- The heartbeat of another node that knows one member. -/
def heartbeatOf (id : Nat) (count : Int) (leaving : Bool) : HeartBeat Nat where
  memberlist := [⟨id, count, 0, leaving⟩]
  updateConnection := false

/-- The leader is heard of, and never again. -/
def silentLeader : List (WatchAction Nat) :=
  [.subscribe .dFileMaster, .subscribe .nimbus, .subscribe .candidate,
    .setLeader (some 1), .receive (heartbeatOf 1 1 false), .heartbeat 0,
    .heartbeat 5000000000]

theorem noticed_silentLeader :
    ∃ watch ∈ (watching 2).run (.initial 2) silentLeader,
      (∃ departure ∈ watch.departures, departure.id = 1) ∧
        ∀ departure ∈ watch.departures, Noticed departure := by
  have every : (watching 2).Every Watch.OthersStay (.initial 2)
      silentLeader := by
    decide
  obtain ⟨watch, runs, departed⟩ :
      ∃ watch ∈ (watching 2).run (.initial 2) silentLeader,
        ∃ departure ∈ watch.departures, departure.id = 1 := by
    decide
  exact ⟨watch, runs, departed, noticed_of_othersStay every runs⟩

/-- The leader is heard of, and leaves. -/
def leavingLeader : List (WatchAction Nat) :=
  [.subscribe .dFileMaster, .subscribe .nimbus, .subscribe .candidate,
    .setLeader (some 1), .receive (heartbeatOf 1 1 false), .heartbeat 0,
    .receive (heartbeatOf 1 2 true), .heartbeat 500000000]

/-- The leader disappears without an event or an election. -/
theorem not_noticed_leavingLeader :
    ∃ watch ∈ (watching 2).run (.initial 2) leavingLeader,
      ∃ departure ∈ watch.departures,
        departure.id = 1 ∧ departure.leader = some 1 ∧
          departure.report.deliveries = [] ∧
          departure.report.electionThreads = [] ∧ ¬ Noticed departure := by
  obtain ⟨watch, runs, departure, isDeparture, isLeader, leader, subscribed,
      silent, unelected⟩ :
      ∃ watch ∈ (watching 2).run (.initial 2) leavingLeader,
        ∃ departure ∈ watch.departures,
          departure.id = 1 ∧ departure.leader = some 1 ∧
            Subscriber.candidate ∈ departure.eventHandlers ∧
            departure.report.deliveries = [] ∧
            departure.report.electionThreads = [] := by
    decide
  refine ⟨watch, runs, departure, isDeparture, isLeader, leader, silent,
    unelected, fun noticed => ?_⟩
  have delivered := noticed.delivered .candidate subscribed
  rw [silent] at delivered
  nomatch delivered

end Membership
end CraneSps
