import CraneSps.Election.Candidate
import CraneSps.Foundation.TransitionSystem
import CraneSps.Master.Replication
import Mathlib.Data.List.Dedup
import Mathlib.Data.List.Sort

/-!
# The duties of a master

Every election of a node starts another `masterServiceThread`, which tests for
the leader before it waits for a request and not after that, and the thread of
a `NodeFailEvent` does not test at all.  The calls of `setNewLeader`, requests
and failures come at any time.  Each thread makes its calls in its own time,
and waits after every command for the reply.
-/

namespace CraneSps
namespace Master

open FileTransfer

/-- A command, with the nodes it is about. -/
inductive MasterCommand (Id : Type)
  | replicate
      (source : Id) (targets : Finset Id) (filename filepath : String)
  | delete (target : Id) (filename : String)
  | list (target : Id)
  deriving DecidableEq

/-- A request at the socket of the master. -/
inductive MasterRequest (Id : Type)
  | put (id : Id) (info : FileInfo)
  | get (id : Id) (filename filepath : String)
  | delete (filename : String)
  | update (id : Id) (info : FileInfo)
  | list (filename : String)
  deriving DecidableEq

/-- A call that a thread is about to make. -/
inductive Duty (Id : Type)
  | sendListCommand (target : Id)
  | reReplicate
  | replicateFile (filename : String)
  /-- The loop over the members in a `GET`. -/
  | transfer (id : Id) (filename filepath : String)
  | deleteFile (filename : String)
  | sendDeleteCommand (target : Id) (filename : String)
  | addToFileMap (id : Id) (info : FileInfo)
  | deleteFromFileMap (id : Id) (filename : String)
  /-- `fileMap[event.id].clear()`. -/
  | clear (id : Id)
  deriving DecidableEq

/-- What a thread has left to do. -/
structure Work (Id : Type) where
  duties : List (Duty Id)
  /-- The command whose reply it waits for. -/
  awaited : Option (MasterCommand Id) := none

/-- A thread in `masterServiceThread`. -/
inductive MasterThread (Id : Type)
  /-- It is about to test for the leader. -/
  | testing
  /-- It waits for a request. -/
  | receiving
  | handling (work : Work Id)

/-- The threads that send commands. -/
inductive Worker
  | service (index : Nat)
  /-- A thread that has announced the node itself and is in `start`. -/
  | start (index : Nat)
  /-- The thread that holds `rereplicationMutex`. -/
  | nodeFail
  deriving DecidableEq

/-- The thread has got a request and is not done with it. -/
def MasterThread.handles {Id : Type} : MasterThread Id → Bool
  | .handling _ => true
  | .testing | .receiving => false

variable {Id : Type} [LinearOrder Id]

/-- What a call comes to. -/
structure Effect (Id : Type) [DecidableEq Id] where
  fileMap : FileMap Id
  /-- The calls it makes in its turn. -/
  duties : List (Duty Id) := []
  command : Option (MasterCommand Id) := none

/-- Make a call, with the membership list that is read and the draws. -/
def Duty.effect
    (fileMap : FileMap Id) (members : List Id) (draws : List Nat) :
    Duty Id → Option (Effect Id)
  | .sendListCommand target =>
      some { fileMap := fileMap, command := some (.list target) }
  | .reReplicate =>
      some
        { fileMap := fileMap
          duties := (fileMap.memberFiles members).map .replicateFile }
  | .replicateFile filename =>
      (Master.replicateFile fileMap members filename draws).map fun chosen =>
        { fileMap := fileMap
          command := chosen.map fun command =>
            .replicate command.source command.targets filename "" }
  | .transfer id filename filepath =>
      some
        { fileMap := fileMap
          command :=
            (members.find? fun member =>
              fileMap.hasFile member filename).map fun source =>
                .replicate source {id} filename filepath }
  | .deleteFile filename =>
      some
        { fileMap := fileMap
          duties :=
            (members.filter fun member =>
              fileMap.hasFile member filename).flatMap fun target =>
                [.sendDeleteCommand target filename,
                  .deleteFromFileMap target filename] }
  | .sendDeleteCommand target filename =>
      some { fileMap := fileMap, command := some (.delete target filename) }
  | .addToFileMap id info =>
      some { fileMap := fileMap.addToFileMap id info }
  | .deleteFromFileMap id filename =>
      some { fileMap := fileMap.deleteFromFileMap id filename }
  | .clear id => some { fileMap := fileMap.set id [] }

/-- `process(ServiceRequest)`: the calls that it comes to, by the count at its
beginning. -/
def MasterRequest.duties (fileMap : FileMap Id) :
    MasterRequest Id → List (Duty Id)
  | .put id info =>
      if fileMap.countReplicates info.name = 0 then
        [.addToFileMap id info, .replicateFile info.name]
      else []
  | .get id filename filepath =>
      if fileMap.countReplicates filename = 0 then []
      else [.transfer id filename filepath]
  | .delete filename =>
      if fileMap.countReplicates filename = 0 then []
      else [.deleteFile filename]
  | .update id info => [.addToFileMap id info]
  | .list _ => []

/-- The reply to a command; one without files stands for none at all. -/
def MasterCommand.processReply
    (fileMap : FileMap Id) (infos : List FileInfo) :
    MasterCommand Id → FileMap Id
  | .list target => fileMap.processListReply target infos
  | .replicate _ _ _ _ | .delete _ _ => fileMap

/-- A node with its master. -/
structure MasterNode (Id : Type) [LinearOrder Id] where
  id : Id
  /-- `Candidate::leader()`. -/
  leader : Option Id
  previousLeader : Option Id
  /-- The calls of `setNewLeader` that have set the leader and not looked for
  the previous one. -/
  calls : List Id
  fileMap : FileMap Id
  /-- The threads in `masterServiceThread`. -/
  threads : List (MasterThread Id)
  /-- The calls of `start`. -/
  starts : List (Work Id)
  /-- The threads of `handle(NodeFailEvent)` that wait for
  `rereplicationMutex`, with the nodes that have failed. -/
  failures : List Id
  /-- The thread that holds it. -/
  rereplication : Option (Work Id)
  /-- The commands that have been sent, each with the leader at that time: no
  part of the code, only of what is said about it. -/
  sent : List (MasterCommand Id × Option Id)

/-- What can happen at a node. -/
inductive MasterAction (Id : Type)
  /-- `setNewLeader` is called and sets the leader. -/
  | setLeader (leader : Id)
  /-- It raises the `LeaderElectedEvent`, unless the leader is the previous
  one; `start` reads the membership list. -/
  | announce (index : Nat) (members : List Id)
  /-- A `masterServiceThread` tests for the leader. -/
  | test (index : Nat)
  /-- A waiting `masterServiceThread` gets a request. -/
  | receive (index : Nat) (request : MasterRequest Id)
  /-- It catches an exception, or what it gets is no request. -/
  | discard (index : Nat)
  /-- `handle(NodeFailEvent)`. -/
  | nodeFail (id : Id)
  /-- One of its threads gets `rereplicationMutex`. -/
  | lock (index : Nat)
  /-- A thread makes its next call. -/
  | perform (worker : Worker) (members : List Id) (draws : List Nat)
  | reply (worker : Worker) (infos : List FileInfo)
  /-- A thread has nothing left to do. -/
  | finish (worker : Worker)
  deriving DecidableEq

namespace MasterNode

/-- The daemon has been started. -/
def initial (id : Id) : MasterNode Id where
  id := id
  leader := none
  previousLeader := none
  calls := []
  fileMap := .empty
  threads := []
  starts := []
  failures := []
  rereplication := none
  sent := []

variable (node : MasterNode Id)

/-- `setLeader` at the beginning of `setNewLeader`. -/
def setLeader (leader : Id) : MasterNode Id :=
  { node with leader := some leader, calls := node.calls ++ [leader] }

/-- `start`, up to its calls. -/
def start (members : List Id) : MasterNode Id :=
  { node with
    threads := node.threads ++ [.testing]
    starts := node.starts ++
      [{ duties := members.map .sendListCommand ++ [.reReplicate] }] }

/-- The rest of `setNewLeader`, with `handle(LeaderElectedEvent)`. -/
def announce (leader : Id) (members : List Id) : MasterNode Id :=
  if node.previousLeader = some leader then node
  else
    let raised := { node with previousLeader := some leader }
    if leader = node.id then raised.start members else raised

/-- What a thread has left to do. -/
def work : Worker → Option (Work Id)
  | .service index =>
      match node.threads[index]? with
      | some (.handling work) => some work
      | _ => none
  | .start index => node.starts[index]?
  | .nodeFail => node.rereplication

/-- Replace what a thread has left to do. -/
def setWork (worker : Worker) (work : Work Id) : MasterNode Id :=
  match worker with
  | .service index =>
      { node with threads := node.threads.set index (.handling work) }
  | .start index => { node with starts := node.starts.set index work }
  | .nodeFail => { node with rereplication := some work }

/-- A thread leaves what it has done. -/
def leave : Worker → MasterNode Id
  | .service index =>
      { node with threads := node.threads.set index .testing }
  | .start index => { node with starts := node.starts.eraseIdx index }
  | .nodeFail => { node with rereplication := none }

/-- What a thread does for its next call. -/
def perform (worker : Worker) (duties : List (Duty Id)) (effect : Effect Id) :
    MasterNode Id :=
  { node.setWork worker ⟨effect.duties ++ duties, effect.command⟩ with
    fileMap := effect.fileMap
    sent := node.sent ++
      effect.command.toList.map fun command => (command, node.leader) }

/-- One step of a node. -/
def step : MasterAction Id → Option (MasterNode Id)
  | .setLeader leader => some (node.setLeader leader)
  | .announce index members =>
      match node.calls[index]? with
      | some leader =>
          some
            ({ node with calls := node.calls.eraseIdx index }.announce leader
              members)
      | none => none
  | .test index =>
      match node.threads[index]? with
      | some .testing =>
          if node.leader = some node.id then
            some { node with threads := node.threads.set index .receiving }
          else some { node with threads := node.threads.eraseIdx index }
      | _ => none
  | .receive index request =>
      match node.threads[index]? with
      | some .receiving =>
          some
            { node with
              threads := node.threads.set index
                (.handling { duties := request.duties node.fileMap }) }
      | _ => none
  | .discard index =>
      match node.threads[index]? with
      | some .receiving | some (.handling _) =>
          some { node with threads := node.threads.set index .testing }
      | _ => none
  | .nodeFail id => some { node with failures := node.failures ++ [id] }
  | .lock index =>
      match node.failures[index]?, node.rereplication with
      | some id, none =>
          some
            { node with
              failures := node.failures.eraseIdx index
              rereplication := some { duties := [.clear id, .reReplicate] } }
      | _, _ => none
  | .perform worker members draws =>
      match node.work worker with
      | some ⟨duty :: duties, none⟩ =>
          (duty.effect node.fileMap members draws).map
            (node.perform worker duties)
      | _ => none
  | .reply worker infos =>
      match node.work worker with
      | some ⟨duties, some command⟩ =>
          some
            { node.setWork worker ⟨duties, none⟩ with
              fileMap := command.processReply node.fileMap infos }
      | _ => none
  | .finish worker =>
      match node.work worker with
      | some ⟨[], none⟩ => some (node.leave worker)
      | _ => none

/-- The two halves of `setNewLeader`, one right after the other, do what the
candidate does, and a service thread starts for every event that is raised for
the node. -/
theorem announce_setLeader
    {node : MasterNode Id} {candidate : Election.Candidate Id}
    (same : node.previousLeader = candidate.previousLeaderId) (leader : Id)
    (members : List Id) :
    ∃ events,
      (candidate.setNewLeader leader).leaderElectedEvents =
          candidate.leaderElectedEvents ++ events ∧
        ((node.setLeader leader).announce leader members).threads =
          node.threads ++
            (events.filter fun event => event = node.id).map
              (fun _ => MasterThread.testing) ∧
        ((node.setLeader leader).announce leader members).leader =
          (candidate.setNewLeader leader).leaderId ∧
        ((node.setLeader leader).announce leader members).previousLeader =
          (candidate.setNewLeader leader).previousLeaderId := by
  have previous : (node.setLeader leader).previousLeader =
      candidate.previousLeaderId := same
  rw [announce, previous, Election.Candidate.setNewLeader]
  by_cases again : candidate.previousLeaderId = some leader
  · refine ⟨[], ?_⟩
    simp [again, Election.Candidate.setElectionFinished, setLeader, same]
  · refine ⟨[leader], ?_⟩
    by_cases isOwn : leader = node.id
    · subst isOwn
      simp [again, Election.Candidate.setElectionFinished, setLeader, start]
    · simp [again, isOwn, Election.Candidate.setElectionFinished, setLeader]

end MasterNode

/-- A node by itself. -/
def masterSystem (id : Id) :
    TransitionSystem (MasterNode Id) (MasterAction Id) where
  initial := .initial id
  step := MasterNode.step

/-- The call sends a command. -/
def Duty.Sends (fileMap : FileMap Id) (members : List Id) : Duty Id → Prop
  | .sendListCommand _ | .sendDeleteCommand _ _ => True
  | .replicateFile filename => numTargets fileMap members filename ≠ 0
  | .transfer _ filename _ =>
      ∃ member ∈ members, fileMap.hasFile member filename = true
  | .reReplicate | .deleteFile _ | .addToFileMap _ _
  | .deleteFromFileMap _ _ | .clear _ => False

instance (fileMap : FileMap Id) (members : List Id) (duty : Duty Id) :
    Decidable (duty.Sends fileMap members) := by
  cases duty <;> unfold Duty.Sends <;> infer_instance

/-- Nothing but a member to ask, a file without all its replicas and a file to
transfer or to delete makes a thread send a command. -/
theorem Duty.effect_command_ne_none_iff
    {fileMap : FileMap Id} {members : List Id} {draws : List Nat}
    {duty : Duty Id} {effect : Effect Id}
    (made : duty.effect fileMap members draws = some effect) :
    effect.command ≠ none ↔ duty.Sends fileMap members := by
  cases duty with
  | sendListCommand target | sendDeleteCommand target filename =>
      obtain rfl := Option.some.inj made
      exact iff_of_true (Option.some_ne_none _) trivial
  | reReplicate | deleteFile filename | addToFileMap id info
  | deleteFromFileMap id filename | clear id =>
      obtain rfl := Option.some.inj made
      exact iff_of_false (not_not_intro rfl) not_false
  | transfer id filename filepath =>
      obtain rfl := Option.some.inj made
      rw [Duty.Sends, Option.ne_none_iff_isSome, Option.isSome_map,
        List.find?_isSome]
  | replicateFile filename =>
      obtain ⟨chosen, called, rfl⟩ := Option.map_eq_some_iff.mp made
      rw [Duty.Sends, Option.ne_none_iff_isSome, Option.isSome_map,
        ← Option.ne_none_iff_isSome]
      rw [Master.replicateFile] at called
      split at called
      next complete =>
        obtain rfl := Option.some.inj called
        exact iff_of_false (not_not_intro rfl) (not_not_intro complete)
      next missing =>
        obtain ⟨picked, _, called⟩ := Option.bind_eq_some_iff.mp called
        obtain ⟨source, _, rfl⟩ := Option.map_eq_some_iff.mp called
        exact iff_of_true (Option.some_ne_none _) missing

section Steps

variable {node next : MasterNode Id} {worker : Worker}

/-- A service thread with something to do handles a request. -/
theorem MasterNode.mem_threads_of_work
    {index : Nat} {work : Work Id}
    (found : node.work (.service index) = some work) :
    .handling work ∈ node.threads := by
  simp only [MasterNode.work] at found
  split at found
  next thread isThread =>
    obtain rfl := Option.some.inj found
    exact List.mem_of_getElem? isThread
  next => cases found

/-- Every outcome of a step, with what selects it. -/
inductive MasterNode.Transition (node : MasterNode Id) :
    MasterAction Id → MasterNode Id → Prop
  | setLeader {leader : Id} :
      Transition node (.setLeader leader) (node.setLeader leader)
  | announce {index : Nat} {leader : Id} {members : List Id}
      (isCall : node.calls[index]? = some leader) :
      Transition node (.announce index members)
        ({ node with calls := node.calls.eraseIdx index }.announce leader
          members)
  | goOn {index : Nat}
      (found : node.threads[index]? = some .testing)
      (isLeader : node.leader = some node.id) :
      Transition node (.test index)
        { node with threads := node.threads.set index .receiving }
  | stop {index : Nat}
      (found : node.threads[index]? = some .testing)
      (isOther : node.leader ≠ some node.id) :
      Transition node (.test index)
        { node with threads := node.threads.eraseIdx index }
  | receive {index : Nat} {request : MasterRequest Id}
      (found : node.threads[index]? = some .receiving) :
      Transition node (.receive index request)
        { node with
          threads := node.threads.set index
            (.handling { duties := request.duties node.fileMap }) }
  | discard {index : Nat} {thread : MasterThread Id}
      (found : node.threads[index]? = some thread) :
      Transition node (.discard index)
        { node with threads := node.threads.set index .testing }
  | nodeFail {id : Id} :
      Transition node (.nodeFail id)
        { node with failures := node.failures ++ [id] }
  | lock {index : Nat} {id : Id}
      (found : node.failures[index]? = some id)
      (free : node.rereplication = none) :
      Transition node (.lock index)
        { node with
          failures := node.failures.eraseIdx index
          rereplication := some { duties := [.clear id, .reReplicate] } }
  | perform {worker : Worker} {members : List Id} {draws : List Nat}
      {duty : Duty Id} {duties : List (Duty Id)} {effect : Effect Id}
      (found : node.work worker = some ⟨duty :: duties, none⟩)
      (made : duty.effect node.fileMap members draws = some effect) :
      Transition node (.perform worker members draws)
        (node.perform worker duties effect)
  | reply {worker : Worker} {infos : List FileInfo}
      {duties : List (Duty Id)} {command : MasterCommand Id}
      (found : node.work worker = some ⟨duties, some command⟩) :
      Transition node (.reply worker infos)
        { node.setWork worker ⟨duties, none⟩ with
          fileMap := command.processReply node.fileMap infos }
  | finish {worker : Worker}
      (found : node.work worker = some ⟨[], none⟩) :
      Transition node (.finish worker) (node.leave worker)

/-- There are no other steps. -/
theorem MasterNode.transition_of_step
    {action : MasterAction Id} (stepped : node.step action = some next) :
    node.Transition action next := by
  cases action with
  | setLeader leader => exact Option.some.inj stepped ▸ .setLeader
  | announce index members =>
      simp only [MasterNode.step] at stepped
      split at stepped
      · next leader isCall => exact Option.some.inj stepped ▸ .announce isCall
      · cases stepped
  | test index =>
      simp only [MasterNode.step] at stepped
      split at stepped
      · next found =>
          split at stepped
          · next isLeader =>
              exact Option.some.inj stepped ▸ .goOn found isLeader
          · next isOther =>
              exact Option.some.inj stepped ▸ .stop found isOther
      · cases stepped
  | receive index request =>
      simp only [MasterNode.step] at stepped
      split at stepped
      · next found => exact Option.some.inj stepped ▸ .receive found
      · cases stepped
  | discard index =>
      simp only [MasterNode.step] at stepped
      split at stepped
      · next found => exact Option.some.inj stepped ▸ .discard found
      · next work found => exact Option.some.inj stepped ▸ .discard found
      · cases stepped
  | nodeFail id => exact Option.some.inj stepped ▸ .nodeFail
  | lock index =>
      simp only [MasterNode.step] at stepped
      split at stepped
      · next id found free => exact Option.some.inj stepped ▸ .lock found free
      · cases stepped
  | perform worker members draws =>
      simp only [MasterNode.step] at stepped
      split at stepped
      · next duty duties found =>
          obtain ⟨effect, made, isNext⟩ := Option.map_eq_some_iff.mp stepped
          exact isNext ▸ .perform found made
      · cases stepped
  | reply worker infos =>
      simp only [MasterNode.step] at stepped
      split at stepped
      · next found => exact Option.some.inj stepped ▸ .reply found
      · cases stepped
  | finish worker =>
      simp only [MasterNode.step] at stepped
      split at stepped
      · next found => exact Option.some.inj stepped ▸ .finish found
      · cases stepped

end Steps

/-! ## Nodes that are never elected -/

/-- The node has no part in the duties of a master. -/
structure Follower (node : MasterNode Id) : Prop where
  calls : node.id ∉ node.calls
  noFiles : ∀ id, node.fileMap.files id = []
  threads : node.threads = []
  starts : node.starts = []
  rereplication : ∀ work ∈ node.rereplication, work.awaited = none ∧
    ∀ duty ∈ work.duties, duty = .reReplicate ∨ ∃ id, duty = .clear id
  sent : node.sent = []

namespace Follower

variable {node next : MasterNode Id}

theorem initial (id : Id) : Follower (MasterNode.initial id) where
  calls := nofun
  noFiles := fun _ => rfl
  threads := rfl
  starts := rfl
  rereplication := nofun
  sent := rfl

/-- Only the thread of a failure can have anything to do. -/
theorem rereplication_of_work
    (follower : Follower node) {worker : Worker} {work : Work Id}
    (found : node.work worker = some work) :
    worker = .nodeFail ∧ node.rereplication = some work := by
  cases worker with
  | service index =>
      simp only [MasterNode.work, follower.threads, List.getElem?_nil] at found
      cases found
  | start index =>
      simp only [MasterNode.work, follower.starts, List.getElem?_nil] at found
      cases found
  | nodeFail => exact ⟨rfl, found⟩

/-- Without entries there is nothing to replicate. -/
theorem memberFiles_eq_nil
    (follower : Follower node) (members : List Id) :
    node.fileMap.memberFiles members = [] := by
  have nothing : (members.flatMap fun id =>
      (node.fileMap.files id).map FileInfo.name) = [] := by
    simp [follower.noFiles]
  rw [FileMap.memberFiles, nothing]
  rfl

/-- Another leader does not make a follower a master. -/
theorem announce
    (follower : Follower node) {leader : Id} (isOther : leader ≠ node.id)
    (members : List Id) : Follower (node.announce leader members) := by
  simp only [MasterNode.announce, if_neg isOther]
  split
  · exact follower
  · exact { follower with }

/-- The thread of a failure clears an entry that is empty, and then finds no
files. -/
theorem perform
    (follower : Follower node) {duty : Duty Id} {duties : List (Duty Id)}
    {members : List Id} {draws : List Nat} {effect : Effect Id}
    (isWork : node.rereplication = some ⟨duty :: duties, none⟩)
    (made : duty.effect node.fileMap members draws = some effect) :
    Follower (node.perform .nodeFail duties effect) := by
  obtain ⟨_, known⟩ := follower.rereplication _ isWork
  have rest : ∀ later ∈ duties,
      later = .reReplicate ∨ ∃ id, later = .clear id :=
    fun later isLater => known later (List.mem_cons_of_mem _ isLater)
  have noCommand : effect.command = none ∧ effect.duties = [] ∧
      ∀ id, effect.fileMap.files id = [] := by
    rcases known duty List.mem_cons_self with rfl | ⟨id, rfl⟩
    · obtain rfl := Option.some.inj made
      exact ⟨rfl, by rw [follower.memberFiles_eq_nil, List.map_nil],
        follower.noFiles⟩
    · obtain rfl := Option.some.inj made
      refine ⟨rfl, rfl, fun other => ?_⟩
      rw [FileMap.files_set]
      by_cases same : other = id
      · rw [same, Function.update_self]
      · rw [Function.update_of_ne same, follower.noFiles]
  obtain ⟨silent, done, noFiles⟩ := noCommand
  exact
    { calls := follower.calls
      noFiles := noFiles
      threads := follower.threads
      starts := follower.starts
      rereplication := by
        intro work isNext
        obtain rfl := Option.some.inj isNext
        rw [done, silent]
        exact ⟨rfl, rest⟩
      sent := by
        rw [MasterNode.perform, silent, follower.sent]
        rfl }

/-- A step that does not set the node itself leaves it a follower. -/
theorem step
    {action : MasterAction Id} (follower : Follower node)
    (isOther : action ≠ .setLeader node.id)
    (stepped : node.step action = some next) : Follower next := by
  have noThread (index : Nat) : node.threads[index]? = none := by
    rw [follower.threads, List.getElem?_nil]
  cases MasterNode.transition_of_step stepped with
  | @setLeader leader =>
      refine { follower with calls := fun isCall => ?_ }
      rcases List.mem_append.mp isCall with old | new
      · exact follower.calls old
      · exact isOther (congrArg _ (List.mem_singleton.mp new).symm)
  | @announce index leader members isCall =>
      have before : Follower
          { node with calls := node.calls.eraseIdx index } :=
        { follower with
          calls := fun isCall =>
            follower.calls (List.mem_of_mem_eraseIdx isCall) }
      refine before.announce (fun isOwn => ?_) members
      exact follower.calls (isOwn ▸ List.mem_of_getElem? isCall)
  | @goOn index found | @stop index found | @receive index _ found
  | @discard index _ found => cases (noThread index).symm.trans found
  | nodeFail => exact { follower with }
  | @lock index id =>
      refine { follower with rereplication := fun work isWork => ?_ }
      obtain rfl := Option.some.inj isWork
      exact ⟨rfl, by simp⟩
  | perform found made =>
      obtain ⟨rfl, isWork⟩ := follower.rereplication_of_work found
      exact follower.perform isWork made
  | reply found =>
      obtain ⟨_, isWork⟩ := follower.rereplication_of_work found
      cases (follower.rereplication _ isWork).1
  | finish found =>
      obtain ⟨rfl, _⟩ := follower.rereplication_of_work found
      exact { follower with rereplication := nofun }

end Follower

/-- A node that is never set as the leader has no service thread and sends no
command, however many nodes fail. -/
theorem follower_of_never_elected
    {id : Id} {trace : List (MasterAction Id)} {final : MasterNode Id}
    (runs : (masterSystem id).Runs (.initial id) trace final)
    (never : (masterSystem id).Every
      (fun node action => action ≠ .setLeader node.id) (.initial id) trace) :
    final.threads = [] ∧ final.sent = [] := by
  have follower : Follower final :=
    never.invariant runs Follower
      (fun _ _ _ follower isOther stepped => follower.step isOther stepped)
      (Follower.initial id)
  exact ⟨follower.threads, follower.sent⟩

end Master
end CraneSps
