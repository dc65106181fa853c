import CraneSps.Crane.Nimbus
import CraneSps.Foundation.ListUpdate
import CraneSps.Master.Replication
import CraneSps.Membership.Departure
import Mathlib.Data.String.Basic

/-!
# When the threads of a failure read the membership list

`updateMembers` tells the subscribers of a failure while it is still looking
for other ones, and removes the failed members only after that.  The threads
that the subscribers start read the membership list at times of their own, so
they find the failed member in it if they are faster than the removal.
-/

namespace CraneSps
namespace Membership

open Crane FileTransfer Master

variable {Id : Type} [LinearOrder Id]

/-- Where the heartbeat thread stands in `updateMembers`. -/
inductive Phase (Id : Type)
  /-- Outside of the function. -/
  | idle
  /-- In the loop that looks for failed members. -/
  | scanning (remaining : List (Member Id)) (deleteCandidates : List Id)
  /-- In the loop that removes them. -/
  | erasing (deleteCandidates : List Id)

/-- A thread that handles a `NodeFailEvent`. -/
structure FailThread (Id : Type) where
  subscriber : Subscriber
  event : Id
  /-- The member has joined again since then: no part of the code, only of
  what is said about it. -/
  rejoined : Bool
  deriving DecidableEq

/-- A membership list that a thread has read. -/
structure Reading (Id : Type) where
  thread : FailThread Id
  list : List Id
  deriving DecidableEq

/-- A node in the middle of `updateMembers`, and the threads of failures. -/
structure Reporting (Id : Type) [LinearOrder Id] where
  node : DMember Id
  eventHandlers : List Subscriber
  leader : Option Id
  /-- The clock of the round. -/
  now : Int
  phase : Phase Id
  threads : List (FailThread Id)
  readings : List (Reading Id)

/-- What can happen at the node. -/
inductive ReportingAction (Id : Type)
  | receive (heartbeat : HeartBeat Id)
  | checkAvailability (now : Int) (acks : List (PingAck Id))
  | stop
  | subscribe (subscriber : Subscriber)
  | setLeader (leader : Option Id)
  /-- A round begins: the node counts its heartbeat and merges its queue. -/
  | merge (now : Int)
  /-- The next member is looked at, or there is none left. -/
  | scan
  /-- The next failed member is removed. -/
  | erase
  /-- The heartbeat message is created. -/
  | createHeartbeatMessage
  /-- A thread reads the membership list. -/
  | read (index : Nat)
  deriving DecidableEq

/-- The threads that the subscribers start for an event. -/
def failThreads
    (eventHandlers : List Subscriber) (leader : Option Id) (id : Id) :
    List (FailThread Id) :=
  eventHandlers.filterMap fun subscriber =>
    match subscriber with
    | .candidate =>
        if leader = some id then some ⟨.candidate, id, false⟩ else none
    | .dFileMaster => some ⟨.dFileMaster, id, false⟩
    | .nimbus => some ⟨.nimbus, id, false⟩

/-- The member of the thread is in the second map, but not in the first. -/
def FailThread.afterMerge
    (before after : MemberMap Id) (thread : FailThread Id) : FailThread Id :=
  if (before.find thread.event).isNone && (after.find thread.event).isSome then
    { thread with rejoined := true }
  else thread

/-- The failed members that are not removed yet. -/
def Phase.pending : Phase Id → List Id
  | .idle => []
  | .scanning _ deleteCandidates => deleteCandidates
  | .erasing deleteCandidates => deleteCandidates

/-- The members that are not looked at yet. -/
def Phase.remaining : Phase Id → List (Member Id)
  | .scanning remaining _ => remaining
  | _ => []

namespace Reporting

/-- A node that has just been started. -/
def initial (id : Id) : Reporting Id where
  node := .new id
  eventHandlers := []
  leader := none
  now := 0
  phase := .idle
  threads := []
  readings := []

variable (reporting : Reporting Id)

/-- The beginning of a round. -/
def merge (now : Int) : Reporting Id :=
  let merged := reporting.node.merged now
  { reporting with
    node := merged
    now := now
    phase := .scanning merged.memberMap.entries []
    threads := reporting.threads.map
      (FailThread.afterMerge reporting.node.memberMap merged.memberMap) }

/-- A failed member is found, and the subscribers are told at once. -/
def report
    (id : Id) (remaining : List (Member Id)) (deleteCandidates : List Id) :
    Reporting Id :=
  { reporting with
    phase := .scanning remaining (deleteCandidates ++ [id])
    threads := reporting.threads ++
      failThreads reporting.eventHandlers reporting.leader id }

/-- A failed member is removed. -/
def erase (id : Id) (deleteCandidates : List Id) : Reporting Id :=
  { reporting with
    node :=
      { reporting.node with
        memberMap := reporting.node.memberMap.erase id }
    phase := .erasing deleteCandidates }

/-- One step of the node or of a thread. -/
def step : ReportingAction Id → Option (Reporting Id)
  | .receive heartbeat =>
      some { reporting with node := (reporting.node.process heartbeat).1 }
  | .checkAvailability now acks =>
      some { reporting with node := reporting.node.checkAvailability now acks }
  | .stop => some { reporting with node := reporting.node.stop }
  | .subscribe subscriber =>
      some
        { reporting with
          eventHandlers := reporting.eventHandlers ++ [subscriber] }
  | .setLeader leader => some { reporting with leader := leader }
  | .merge now =>
      match reporting.phase with
      | .idle =>
          if reporting.node.senderFinished then none
          else some (reporting.merge now)
      | _ => none
  | .scan =>
      match reporting.phase with
      | .scanning [] deleteCandidates =>
          some { reporting with phase := .erasing deleteCandidates }
      | .scanning (member :: remaining) deleteCandidates =>
          if member.shouldBeCleanUp reporting.now then
            some (reporting.report member.id remaining deleteCandidates)
          else
            some
              { reporting with
                phase := .scanning remaining deleteCandidates }
      | _ => none
  | .erase =>
      match reporting.phase with
      | .erasing (id :: deleteCandidates) =>
          some (reporting.erase id deleteCandidates)
      | _ => none
  | .createHeartbeatMessage =>
      match reporting.phase with
      | .erasing [] =>
          some
            { reporting with
              node :=
                { (reporting.node.createHeartbeatMessage reporting.now).1 with
                  senderFinished := reporting.node.isStopped }
              phase := .idle }
      | _ => none
  | .read index =>
      match reporting.threads[index]? with
      | some thread =>
          some
            { reporting with
              readings := reporting.readings ++
                [⟨thread, reporting.node.membershipList⟩] }
      | none => none

/-- Every outcome of a step, with what selects it. -/
inductive Transition (reporting : Reporting Id) :
    ReportingAction Id → Reporting Id → Prop
  | receive {heartbeat : HeartBeat Id} :
      Transition reporting (.receive heartbeat)
        { reporting with node := (reporting.node.process heartbeat).1 }
  | checkAvailability {now : Int} {acks : List (PingAck Id)} :
      Transition reporting (.checkAvailability now acks)
        { reporting with node := reporting.node.checkAvailability now acks }
  | stop :
      Transition reporting .stop
        { reporting with node := reporting.node.stop }
  | subscribe {subscriber : Subscriber} :
      Transition reporting (.subscribe subscriber)
        { reporting with
          eventHandlers := reporting.eventHandlers ++ [subscriber] }
  | setLeader {leader : Option Id} :
      Transition reporting (.setLeader leader)
        { reporting with leader := leader }
  | merge {now : Int} (idle : reporting.phase = .idle) :
      Transition reporting (.merge now) (reporting.merge now)
  | startErasing {deleteCandidates : List Id}
      (scanning : reporting.phase = .scanning [] deleteCandidates) :
      Transition reporting .scan
        { reporting with phase := .erasing deleteCandidates }
  | report {member : Member Id} {remaining : List (Member Id)}
      {deleteCandidates : List Id}
      (scanning : reporting.phase =
        .scanning (member :: remaining) deleteCandidates) :
      Transition reporting .scan
        (reporting.report member.id remaining deleteCandidates)
  | pass {member : Member Id} {remaining : List (Member Id)}
      {deleteCandidates : List Id}
      (scanning : reporting.phase =
        .scanning (member :: remaining) deleteCandidates) :
      Transition reporting .scan
        { reporting with phase := .scanning remaining deleteCandidates }
  | erase {id : Id} {deleteCandidates : List Id}
      (erasing : reporting.phase = .erasing (id :: deleteCandidates)) :
      Transition reporting .erase (reporting.erase id deleteCandidates)
  | createHeartbeatMessage (erasing : reporting.phase = .erasing []) :
      Transition reporting .createHeartbeatMessage
        { reporting with
          node :=
            { (reporting.node.createHeartbeatMessage reporting.now).1 with
              senderFinished := reporting.node.isStopped }
          phase := .idle }
  | read {index : Nat} {thread : FailThread Id}
      (isThread : reporting.threads[index]? = some thread) :
      Transition reporting (.read index)
        { reporting with
          readings := reporting.readings ++
            [⟨thread, reporting.node.membershipList⟩] }

variable {reporting}

/-- There are no other steps. -/
theorem transition_of_step
    {action : ReportingAction Id} {next : Reporting Id}
    (stepped : reporting.step action = some next) :
    reporting.Transition action next := by
  cases action with
  | receive heartbeat => exact Option.some.inj stepped ▸ .receive
  | checkAvailability now acks =>
      exact Option.some.inj stepped ▸ .checkAvailability
  | stop => exact Option.some.inj stepped ▸ .stop
  | subscribe subscriber => exact Option.some.inj stepped ▸ .subscribe
  | setLeader leader => exact Option.some.inj stepped ▸ .setLeader
  | merge now =>
      simp only [step] at stepped
      split at stepped
      · next idle =>
          rw [Option.ite_none_left_eq_some, Option.some.injEq] at stepped
          exact stepped.2 ▸ .merge idle
      · cases stepped
  | scan =>
      simp only [step] at stepped
      split at stepped
      · next scanning =>
          exact Option.some.inj stepped ▸ .startErasing scanning
      · next scanning =>
          split at stepped
          · exact Option.some.inj stepped ▸ .report scanning
          · exact Option.some.inj stepped ▸ .pass scanning
      · cases stepped
  | erase =>
      simp only [step] at stepped
      split at stepped
      · next erasing => exact Option.some.inj stepped ▸ .erase erasing
      · cases stepped
  | createHeartbeatMessage =>
      simp only [step] at stepped
      split at stepped
      · next erasing =>
          exact Option.some.inj stepped ▸ .createHeartbeatMessage erasing
      · cases stepped
  | read index =>
      simp only [step] at stepped
      split at stepped
      · next thread isThread => exact Option.some.inj stepped ▸ .read isThread
      · cases stepped

end Reporting

/-- One node and its threads, from the start. -/
def reporting (id : Id) :
    TransitionSystem (Reporting Id) (ReportingAction Id) where
  initial := .initial id
  step := Reporting.step

/-- A thread reads the list after its failed member has been removed. -/
def ReadsLate (state : Reporting Id) : ReportingAction Id → Prop
  | .read index =>
      ∀ thread ∈ state.threads[index]?, thread.event ∉ state.phase.pending
  | _ => True

instance (state : Reporting Id) (action : ReportingAction Id) :
    Decidable (ReadsLate state action) := by
  rcases action <;> unfold ReadsLate <;> infer_instance

namespace Reporting

/-- The member of the thread is about to be removed, or it has been, or it has
joined again. -/
def Accounted (state : Reporting Id) (thread : FailThread Id) : Prop :=
  thread.event ∈ state.phase.pending ∨
    state.node.memberMap.find thread.event = none ∨ thread.rejoined = true

/-- What holds in every reachable state. -/
structure Orderly (state : Reporting Id) : Prop where
  accounted : ∀ thread ∈ state.threads, state.Accounted thread
  present : ∀ id ∈ state.phase.pending,
    ∃ member, state.node.memberMap.find id = some member
  entries : ∀ member ∈ state.phase.remaining,
    state.node.memberMap.find member.id = some member
  distinct : (state.phase.pending ++
    state.phase.remaining.map Member.id).Nodup

namespace Orderly

variable {state next : Reporting Id} {id : Id}

theorem initial : Orderly (Reporting.initial id) where
  accounted := nofun
  present := nofun
  entries := nofun
  distinct := .nil

/-- Queues, flags and readings do not matter, nor that members have been
looked at. -/
theorem of_sublist
    (orderly : Orderly state)
    (sameThreads : next.threads = state.threads)
    (samePending : next.phase.pending = state.phase.pending)
    (sublist : next.phase.remaining.Sublist state.phase.remaining)
    (sameMap : next.node.memberMap = state.node.memberMap) :
    Orderly next where
  accounted := by
    intro thread isThread
    rw [Accounted, samePending, sameMap]
    exact orderly.accounted thread (sameThreads ▸ isThread)
  present := by
    rw [samePending, sameMap]
    exact orderly.present
  entries := by
    rw [sameMap]
    exact fun member isEntry =>
      orderly.entries member (sublist.subset isEntry)
  distinct := by
    rw [samePending]
    exact orderly.distinct.sublist
      ((sublist.map Member.id).append_left _)

/-- The beginning of a round brings back members only with a mark. -/
theorem merge (orderly : Orderly state) (idle : state.phase = .idle)
    (now : Int) : Orderly (state.merge now) where
  accounted := by
    intro thread isThread
    obtain ⟨before, isBefore, rfl⟩ := List.mem_map.mp isThread
    have accounted := orderly.accounted before isBefore
    rw [Accounted, idle] at accounted
    right
    unfold FailThread.afterMerge
    split
    · exact .inr rfl
    · next notNew =>
        refine accounted.resolve_left List.not_mem_nil |>.imp_left
          fun missing => ?_
        rw [missing, Option.isNone_none, Bool.true_and,
          Option.not_isSome_iff_eq_none] at notNew
        exact notNew
  present := nofun
  entries := fun _ isEntry => SortedMap.find_of_mem isEntry
  distinct := (state.node.merged now).memberMap.nodup_keys

/-- A reported member is about to be removed. -/
theorem report
    (orderly : Orderly state) {member : Member Id}
    {remaining : List (Member Id)} {deleteCandidates : List Id}
    (scanning : state.phase =
      .scanning (member :: remaining) deleteCandidates) :
    Orderly (state.report member.id remaining deleteCandidates) where
  accounted := by
    intro thread isThread
    rcases List.mem_append.mp isThread with earlier | new
    · have accounted := orderly.accounted thread earlier
      rw [Accounted, scanning] at accounted
      exact accounted.imp_left (List.mem_append_left _)
    · left
      obtain ⟨subscriber, _, isThread⟩ := List.mem_filterMap.mp new
      have names : thread.event = member.id := by
        cases subscriber with
        | candidate =>
            obtain ⟨_, isThread⟩ := Option.ite_none_right_eq_some.mp isThread
            exact (Option.some.inj isThread) ▸ rfl
        | dFileMaster => exact (Option.some.inj isThread) ▸ rfl
        | nimbus => exact (Option.some.inj isThread) ▸ rfl
      rw [names]
      exact List.mem_append_right _ List.mem_cons_self
  present := by
    have present := orderly.present
    have entries := orderly.entries
    rw [scanning] at present entries
    intro other isPending
    rcases List.mem_append.mp isPending with earlier | new
    · exact present other earlier
    · obtain rfl := List.mem_singleton.mp new
      exact ⟨member, entries member List.mem_cons_self⟩
  entries := by
    have entries := orderly.entries
    rw [scanning] at entries
    exact fun other later => entries other (List.mem_cons_of_mem _ later)
  distinct := by
    have distinct := orderly.distinct
    rw [scanning] at distinct
    exact List.append_cons .. ▸ distinct

/-- Another member is passed over. -/
theorem pass
    (orderly : Orderly state) {member : Member Id}
    {remaining : List (Member Id)} {deleteCandidates : List Id}
    (scanning : state.phase =
      .scanning (member :: remaining) deleteCandidates) :
    Orderly { state with phase := .scanning remaining deleteCandidates } := by
  refine orderly.of_sublist rfl ?_ ?_ rfl
  · rw [scanning]
    rfl
  · rw [scanning]
    exact List.sublist_cons_self member remaining

/-- All members have been looked at. -/
theorem startErasing
    (orderly : Orderly state) {deleteCandidates : List Id}
    (scanning : state.phase = .scanning [] deleteCandidates) :
    Orderly { state with phase := .erasing deleteCandidates } := by
  refine orderly.of_sublist rfl ?_ (List.nil_sublist _) rfl
  rw [scanning]
  rfl

/-- A failed member is removed. -/
theorem erase
    (orderly : Orderly state) {deleteCandidates : List Id}
    (erasing : state.phase = .erasing (id :: deleteCandidates)) :
    Orderly (state.erase id deleteCandidates) := by
  have find : ∀ other,
      (state.erase id deleteCandidates).node.memberMap.find other =
        if other = id then none else state.node.memberMap.find other :=
    fun _ => SortedMap.find_erase
  have distinct := orderly.distinct
  have present := orderly.present
  rw [erasing] at distinct present
  refine
    { accounted := ?_
      present := ?_
      entries := nofun
      distinct := (List.nodup_cons.mp distinct).2 }
  · intro thread isThread
    have accounted := orderly.accounted thread isThread
    rw [Accounted, erasing] at accounted
    rw [Accounted, find]
    rcases accounted with isPending | missing | rejoined
    · rcases List.mem_cons.mp isPending with same | later
      · exact .inr (.inl (if_pos same))
      · exact .inl later
    · right
      left
      split
      · rfl
      · exact missing
    · exact .inr (.inr rejoined)
  · intro other later
    have differs : other ≠ id := by
      rintro rfl
      exact (List.nodup_cons.mp distinct).1 (List.mem_append_left _ later)
    rw [find, if_neg differs]
    exact present other (List.mem_cons_of_mem id later)

/-- The end of a round removes leaving members. -/
theorem createHeartbeatMessage
    (orderly : Orderly state) (erasing : state.phase = .erasing [])
    {senderFinished : Bool} {now : Int} :
    Orderly { state with
      node := { (state.node.createHeartbeatMessage now).1 with
        senderFinished := senderFinished }
      phase := .idle } where
  accounted := by
    intro thread isThread
    have accounted := orderly.accounted thread isThread
    rw [Accounted, erasing] at accounted
    refine .inr ((accounted.resolve_left List.not_mem_nil).imp_left
      fun missing => ?_)
    change (state.node.memberMap.filter _).find thread.event = none
    rw [SortedMap.find_filter, missing, Option.filter_none]
  present := nofun
  entries := nofun
  distinct := .nil

/-- Every step keeps the order. -/
theorem step
    (orderly : Orderly state) {action : ReportingAction Id}
    (stepped : state.step action = some next) : Orderly next := by
  cases transition_of_step stepped with
  | receive | checkAvailability | stop | subscribe | setLeader | read =>
      exact orderly.of_sublist rfl rfl (.refl _) rfl
  | @merge now idle => exact orderly.merge idle now
  | startErasing scanning => exact orderly.startErasing scanning
  | report scanning => exact orderly.report scanning
  | pass scanning => exact orderly.pass scanning
  | erase erasing => exact orderly.erase erasing
  | createHeartbeatMessage erasing =>
      exact orderly.createHeartbeatMessage erasing

end Orderly

variable {state next : Reporting Id} {thread : FailThread Id} {id : Id}

/-- A thread sees its failed member exactly while the member has not been
removed. -/
theorem mem_membershipList_iff
    (orderly : Orderly state) (isThread : thread ∈ state.threads)
    (gone : thread.rejoined = false) :
    thread.event ∈ state.node.membershipList ↔
      thread.event ∈ state.phase.pending := by
  rw [DMember.mem_membershipList_iff]
  constructor
  · rintro ⟨member, found⟩
    rcases orderly.accounted thread isThread with
      isPending | missing | rejoined
    · exact isPending
    · rw [missing] at found
      nomatch found
    · rw [gone] at rejoined
      nomatch rejoined
  · exact orderly.present thread.event

/-- In every run the late readings are exactly those that do not find the
failed member. -/
theorem readsLate_iff {trace : List (ReportingAction Id)} {index : Nat}
    (runs : (reporting id).Runs (.initial id) trace state)
    (isThread : state.threads[index]? = some thread)
    (gone : thread.rejoined = false) :
    ReadsLate state (.read index) ↔
      thread.event ∉ state.node.membershipList := by
  have orderly : Orderly state :=
    runs.invariant Orderly (fun _ _ _ orderly stepped => orderly.step stepped)
      Orderly.initial
  rw [mem_membershipList_iff orderly (List.mem_of_getElem? isThread) gone]
  simp [ReadsLate, isThread]

/-- The lists that have been read do not contain the failed members. -/
def Unlisted (state : Reporting Id) : Prop :=
  ∀ reading ∈ state.readings, reading.thread.rejoined = false →
    reading.thread.event ∉ reading.list

/-- A late reader does not find its failed member. -/
theorem Unlisted.step {action : ReportingAction Id}
    (unlisted : Unlisted state) (orderly : Orderly state)
    (late : ReadsLate state action)
    (stepped : state.step action = some next) : Unlisted next := by
  cases transition_of_step stepped with
  | read isThread =>
      intro reading isReading gone
      rcases List.mem_append.mp isReading with earlier | new
      · exact unlisted reading earlier gone
      · obtain rfl := List.mem_singleton.mp new
        exact (mem_membershipList_iff orderly
          (List.mem_of_getElem? isThread) gone).not.mpr
            (late _ isThread)
  | receive | checkAvailability | stop | subscribe | setLeader | merge
  | startErasing | report | pass | erase | createHeartbeatMessage =>
      exact unlisted

theorem unlisted_of_runs {trace : List (ReportingAction Id)}
    (every : (reporting id).Every ReadsLate (.initial id) trace)
    (runs : (reporting id).Runs (.initial id) trace state) :
    Unlisted state := by
  have both : Unlisted state ∧ Orderly state :=
    every.invariant runs (fun state => Unlisted state ∧ Orderly state)
      (fun _ _ _ before late stepped =>
        ⟨before.1.step before.2 late stepped, before.2.step stepped⟩)
      ⟨nofun, Orderly.initial⟩
  exact both.1

end Reporting

/-- If the threads of a failure read the membership list after the failed
member has been removed, none of them finds it there unless it has joined
again; so it is neither source nor target of a replication that is based on
the list, and no supervisor. -/
theorem unlisted_of_readsLate
    {id : String} {trace : List (ReportingAction String)}
    {state : Reporting String}
    (every : (reporting id).Every ReadsLate (.initial id) trace)
    (runs : (reporting id).Runs (.initial id) trace state) :
    ∀ reading ∈ state.readings, reading.thread.rejoined = false →
      reading.thread.event ∉ reading.list ∧
        (∀ fileMap filename draws command,
          replicateFile fileMap reading.list filename draws =
            some (some command) →
          reading.thread.event ∉ command.targets ∧
            reading.thread.event ≠ command.source) ∧
        ∀ nimbus : Nimbus, reading.thread.event ∉
          (nimbus.updateSupervisors reading.list).supervisors := by
  intro reading isReading gone
  have unlisted := Reporting.unlisted_of_runs every runs reading isReading gone
  refine ⟨unlisted, ?_, ?_⟩
  · intro fileMap filename draws command called
    obtain ⟨_, targets, source, _⟩ := replicateFile_spec called
    refine ⟨fun isTarget => unlisted (targets _ isTarget).1, ?_⟩
    intro isSource
    exact unlisted (isSource ▸ source)
  · intro nimbus isSupervisor
    exact unlisted (List.mem_filter.mp isSupervisor).1

/-- The heartbeat of a node that is not going to send another one. -/
def lastHeartbeat : HeartBeat String where
  memberlist := [⟨"a", 1, 0, false⟩]
  updateConnection := false

/-- A member fails, and its failure is reported in the second round. -/
def reportedFailure : List (ReportingAction String) :=
  [.subscribe .dFileMaster, .receive lastHeartbeat, .merge 0, .scan, .scan,
    .scan, .createHeartbeatMessage, .merge 5000000000, .scan]

/-- The thread of the file master reads the list after the removal. -/
def lateReader : List (ReportingAction String) :=
  reportedFailure ++ [.scan, .scan, .erase, .read 0]

theorem unlisted_lateReader :
    ∃ state ∈ (reporting "b").run (.initial "b") lateReader,
      ∃ reading ∈ state.readings, reading.thread.event = "a" ∧
        "a" ∉ reading.list := by
  have every : (reporting "b").Every ReadsLate (.initial "b") lateReader := by
    decide
  obtain ⟨state, runs, reading, isReading, gone, isFailed⟩ :
      ∃ state ∈ (reporting "b").run (.initial "b") lateReader,
        ∃ reading ∈ state.readings,
          reading.thread.rejoined = false ∧ reading.thread.event = "a" := by
    decide
  have unlisted := (unlisted_of_readsLate every runs reading isReading gone).1
  exact ⟨state, runs, reading, isReading, isFailed, isFailed ▸ unlisted⟩

/-- The same thread reads the list at once. -/
def earlyReader : List (ReportingAction String) :=
  reportedFailure ++ [.read 0]

/-- The failed member is in the list, and it can be drawn as the target for a
file of the other node. -/
theorem listed_of_earlyReader :
    ∃ state ∈ (reporting "b").run (.initial "b") earlyReader,
      ∃ reading ∈ state.readings,
        reading.thread.event = "a" ∧ reading.thread.rejoined = false ∧
          "a" ∈ reading.list ∧
          ∃ outcome ∈ replicateFile
              (FileMap.empty.addToFileMap "b" ⟨"f", "", 0⟩) reading.list "f"
              [0, 1],
            ∃ command ∈ outcome, "a" ∈ command.targets := by
  decide

end Membership
end CraneSps
