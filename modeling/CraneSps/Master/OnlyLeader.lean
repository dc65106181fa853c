import CraneSps.Master.Duties

/-!
# Only the leader acts as a master

Four kinds of steps let a node act as a master that is not the leader, or let
it do so twice.  Every run without them keeps to the leader, and each of them
ends that.
-/

namespace CraneSps
namespace Master

open FileTransfer

variable {Id : Type} [LinearOrder Id]

/-- Only the leader acts as a master, and it does so once. -/
structure OnlyLeader (node : MasterNode Id) : Prop where
  once : node.threads.length ≤ 1
  handles : ∀ thread ∈ node.threads, thread.handles = true →
    node.leader = some node.id
  commands : ∀ command ∈ node.sent, command.2 = some node.id

instance (node : MasterNode Id) : Decidable (OnlyLeader node) :=
  decidable_of_iff
    (node.threads.length ≤ 1 ∧
      (∀ thread ∈ node.threads, thread.handles = true →
        node.leader = some node.id) ∧
      ∀ command ∈ node.sent, command.2 = some node.id)
    ⟨fun ⟨once, handles, commands⟩ => ⟨once, handles, commands⟩,
      fun ⟨once, handles, commands⟩ => ⟨once, handles, commands⟩⟩

/-- The step does nothing that only the leader should do: no other leader is
set while a request is being handled, the node is not announced while a thread
of an earlier election is alive, no request reaches it and nothing is left to
ask or to replicate when it is not the leader. -/
def AsLeader (node : MasterNode Id) : MasterAction Id → Prop
  | .setLeader leader =>
      leader ≠ node.id → ∀ thread ∈ node.threads, thread.handles = false
  | .announce index _ =>
      node.calls[index]? = some node.id →
        node.previousLeader ≠ some node.id → node.threads = []
  | .receive _ _ => node.leader = some node.id
  | .perform (.service _) _ _ => True
  | .perform worker members _ =>
      ∀ work ∈ node.work worker, ∀ duty ∈ work.duties.head?,
        duty.Sends node.fileMap members → node.leader = some node.id
  | .test _ | .discard _ | .nodeFail _ | .lock _ | .reply _ _
  | .finish _ => True

instance (node : MasterNode Id) (action : MasterAction Id) :
    Decidable (AsLeader node action) := by
  cases action with
  | perform worker members draws =>
      cases worker <;> unfold AsLeader <;> infer_instance
  | _ => unfold AsLeader; infer_instance

section Steps

variable {node next : MasterNode Id} {worker : Worker}

namespace OnlyLeader

/-- No thread is there that was not there before, and none starts to handle. -/
theorem setThreads
    (only : OnlyLeader node) {threads : List (MasterThread Id)}
    (fewer : threads.length ≤ node.threads.length)
    (same : ∀ thread ∈ threads, thread.handles = true →
      node.leader = some node.id) :
    OnlyLeader { node with threads := threads } where
  once := fewer.trans only.once
  handles := same
  commands := only.commands

/-- A thread that is replaced does not matter unless it handles a request. -/
theorem setThread
    (only : OnlyLeader node) (index : Nat) {thread : MasterThread Id}
    (same : thread.handles = true → node.leader = some node.id) :
    OnlyLeader { node with threads := node.threads.set index thread } := by
  refine only.setThreads (List.length_set).le fun other present handles => ?_
  rcases List.mem_or_eq_of_mem_set present with old | rfl
  · exact only.handles other old handles
  · exact same handles

theorem eraseThread (only : OnlyLeader node) (index : Nat) :
    OnlyLeader { node with threads := node.threads.eraseIdx index } :=
  only.setThreads (List.length_eraseIdx_le ..) fun thread present =>
    only.handles thread (List.mem_of_mem_eraseIdx present)

/-- A service thread that handles a request does so as the leader's. -/
theorem leader_of_work
    (only : OnlyLeader node) {index : Nat} {work : Work Id}
    (found : node.work (.service index) = some work) :
    node.leader = some node.id :=
  only.handles _ (MasterNode.mem_threads_of_work found) rfl

theorem setWork
    (only : OnlyLeader node) {old : Work Id}
    (found : node.work worker = some old) (work : Work Id) :
    OnlyLeader (node.setWork worker work) := by
  cases worker with
  | service index =>
      exact only.setThread index fun _ => only.leader_of_work found
  | start index | nodeFail => exact { only with }

theorem leave (only : OnlyLeader node) (worker : Worker) :
    OnlyLeader (node.leave worker) := by
  cases worker with
  | service index => exact only.setThread index nofun
  | start index | nodeFail => exact { only with }

/-- A command that is sent is sent by the leader. -/
theorem perform
    (only : OnlyLeader node) {work : Work Id} {duties : List (Duty Id)}
    {effect : Effect Id} (found : node.work worker = some work)
    (asLeader : effect.command ≠ none → node.leader = some node.id) :
    OnlyLeader (node.perform worker duties effect) where
  once := (only.setWork found _).once
  handles := by
    have kept := only.setWork found ⟨effect.duties ++ duties, effect.command⟩
    cases worker <;> exact kept.handles
  commands := by
    have same : (node.perform worker duties effect).id = node.id := by
      cases worker <;> rfl
    intro command isSent
    rw [same]
    rcases List.mem_append.mp isSent with old | new
    · exact only.commands command old
    · obtain ⟨sent, isCommand, rfl⟩ := List.mem_map.mp new
      exact asLeader (Option.ne_none_iff_exists'.mpr
        ⟨sent, Option.mem_toList.mp isCommand⟩)

/-- A node that announces itself has no service thread yet. -/
theorem announce
    (only : OnlyLeader node) {leader : Id} {members : List Id}
    (first : leader = node.id → node.previousLeader ≠ some node.id →
      node.threads = []) :
    OnlyLeader (node.announce leader members) := by
  unfold MasterNode.announce
  split
  next => exact only
  next differs =>
    split
    next isOwn =>
      subst isOwn
      have none := first rfl differs
      refine { only with once := ?_, handles := ?_ }
      · simp [MasterNode.start, none]
      · simp [MasterNode.start, none, MasterThread.handles]
    next => exact { only with }

/-- Every step of a leader leaves it the only one that acts. -/
theorem step
    {action : MasterAction Id} (only : OnlyLeader node)
    (asLeader : AsLeader node action) (stepped : node.step action = some next) :
    OnlyLeader next := by
  cases MasterNode.transition_of_step stepped with
  | @setLeader leader =>
      refine { only with handles := fun thread present handles => ?_ }
      by_cases isOwn : leader = node.id
      · exact congrArg some isOwn
      · rw [asLeader isOwn thread present] at handles
        cases handles
  | @announce index leader members isCall =>
      have before : OnlyLeader
          { node with calls := node.calls.eraseIdx index } :=
        { only with }
      refine before.announce fun isOwn => ?_
      exact asLeader (isCall.trans (congrArg some isOwn))
  | @goOn index | @discard index => exact only.setThread index nofun
  | @stop index => exact only.eraseThread index
  | @receive index => exact only.setThread index fun _ => asLeader
  | nodeFail | lock => exact { only with }
  | @perform worker members draws duty duties effect found made =>
      refine only.perform found fun sends => ?_
      rw [Duty.effect_command_ne_none_iff made] at sends
      cases worker with
      | service index => exact only.leader_of_work found
      | start index => exact asLeader _ found duty rfl sends
      | nodeFail => exact asLeader _ found duty rfl sends
  | reply found => exact { only.setWork found _ with }
  | @finish worker => exact only.leave worker

/-- Every other step is one that only the leader should make. -/
theorem breaks
    {action : MasterAction Id} (fails : ¬ AsLeader node action)
    (stepped : node.step action = some next) : ¬ OnlyLeader next := by
  intro only
  apply fails
  cases MasterNode.transition_of_step stepped with
  | @setLeader leader =>
      intro isOther thread present
      by_contra handles
      have isLeader := only.handles thread present (by simpa using handles)
      exact isOther (Option.some.inj isLeader)
  | @announce index leader members isCall =>
      intro isOwn differs
      obtain rfl := Option.some.inj (isCall.symm.trans isOwn)
      have once := only.once
      simp only [MasterNode.announce, if_neg differs, if_true,
        MasterNode.start, List.length_append] at once
      exact List.length_eq_zero_iff.mp (Nat.le_zero.mp
        (Nat.le_of_add_le_add_right once))
  | receive found =>
      have bound := (List.getElem?_eq_some_iff.mp found).1
      exact only.handles _ (List.mem_set bound _) rfl
  | @perform worker members draws duty duties effect found made =>
      cases worker with
      | service index => trivial
      | start index | nodeFail =>
          intro work isWork first isFirst sends
          obtain rfl := Option.some.inj (found.symm.trans isWork)
          obtain rfl := Option.some.inj isFirst
          rw [← Duty.effect_command_ne_none_iff made] at sends
          obtain ⟨command, isCommand⟩ := Option.ne_none_iff_exists'.mp sends
          refine only.commands (command, node.leader) ?_
          simp [MasterNode.perform, isCommand]
  | goOn | stop | discard | nodeFail | lock | reply | finish => trivial

theorem initial (id : Id) : OnlyLeader (MasterNode.initial id) where
  once := Nat.zero_le 1
  handles := nofun
  commands := nofun

end OnlyLeader

end Steps

/-- The node is elected, asks both members for their files, lets the file of
the other one be replicated and waits for a request. -/
def elected : List (MasterAction Nat) :=
  [.setLeader 1, .announce 0 [1, 2], .perform (.start 0) [] [],
    .reply (.start 0) [], .perform (.start 0) [] [],
    .reply (.start 0) [⟨"f", "5d41", 3⟩], .perform (.start 0) [1, 2] [],
    .perform (.start 0) [1, 2] [0, 1], .reply (.start 0) [],
    .finish (.start 0), .test 0]

/-- Both members get each other's files, and the other one becomes the leader
before the loop goes on.  Then a third node fails. -/
def replaced : List (MasterAction Nat) :=
  elected ++
    [.receive 0 (.put 1 ⟨"g", "7c21", 5⟩), .perform (.service 0) [] [],
      .perform (.service 0) [1, 2] [1, 0], .reply (.service 0) [],
      .finish (.service 0), .test 0,
      .receive 0 (.update 1 ⟨"f", "5d41", 3⟩), .perform (.service 0) [] [],
      .finish (.service 0), .test 0,
      .receive 0 (.update 2 ⟨"g", "7c21", 5⟩), .perform (.service 0) [] [],
      .finish (.service 0), .setLeader 2, .test 0, .announce 0 [],
      .nodeFail 3, .lock 0, .perform .nodeFail [] [],
      .perform .nodeFail [1, 2] [], .perform .nodeFail [1, 2] [],
      .perform .nodeFail [1, 2] [], .finish .nodeFail]

/-- The other node gets the leader while the thread waits for a request. -/
def formerLeader : List (MasterAction Nat) :=
  elected ++ [.setLeader 2, .announce 0 []]

/-- Only a node without anything to do loses the leadership, it is announced
again when its service thread has ended, and requests and failures come to the
leader. -/
def Settled (node : MasterNode Id) : MasterAction Id → Prop
  | .setLeader leader =>
      leader = node.id ∨
        ((∀ thread ∈ node.threads, thread.handles = false) ∧
          node.id ∉ node.calls ∧ node.starts = [] ∧ node.failures = [] ∧
          node.rereplication = none)
  | .announce index _ =>
      node.calls[index]? = some node.id →
        node.previousLeader ≠ some node.id → node.threads = []
  | .receive _ _ | .nodeFail _ => node.leader = some node.id
  | .test _ | .discard _ | .lock _ | .perform _ _ _ | .reply _ _
  | .finish _ => True

/-- Whoever is at work does it for the leader. -/
structure InTerm (node : MasterNode Id) : Prop where
  only : OnlyLeader node
  calls : node.id ∈ node.calls → node.leader = some node.id
  starts : node.starts ≠ [] → node.leader = some node.id
  failures : node.failures ≠ [] → node.leader = some node.id
  rereplication : node.rereplication ≠ none → node.leader = some node.id

namespace InTerm

variable {node next : MasterNode Id} {action : MasterAction Id}

theorem initial (id : Id) : InTerm (MasterNode.initial id) where
  only := .initial id
  calls := nofun
  starts := (absurd rfl ·)
  failures := (absurd rfl ·)
  rereplication := (absurd rfl ·)

/-- Within a term every step is one for the leader. -/
theorem asLeader
    (inTerm : InTerm node) (settled : Settled node action) :
    AsLeader node action := by
  cases action with
  | setLeader leader =>
      rcases settled with isOwn | ⟨idle, _⟩
      · exact fun isOther => absurd isOwn isOther
      · exact fun _ => idle
  | announce index members | receive index request => exact settled
  | perform worker members draws =>
      cases worker with
      | service index => trivial
      | start index =>
          intro work found _ _ _
          exact inTerm.starts (List.ne_nil_of_mem (List.mem_of_getElem? found))
      | nodeFail =>
          intro work found _ _ _
          exact inTerm.rereplication (Option.ne_none_iff_exists'.mpr
            ⟨work, found⟩)
  | test index | discard index | nodeFail id | lock index
  | reply worker infos | finish worker => trivial

/-- What a thread has left to do does not matter for the term. -/
theorem setWork
    (inTerm : InTerm node) {worker : Worker} {old : Work Id}
    (found : node.work worker = some old) (work : Work Id)
    (only : OnlyLeader (node.setWork worker work)) :
    InTerm (node.setWork worker work) := by
  cases worker with
  | service index => exact { inTerm with only := only }
  | start index =>
      refine { inTerm with only := only, starts := fun _ => ?_ }
      exact inTerm.starts (List.ne_nil_of_mem (List.mem_of_getElem? found))
  | nodeFail =>
      refine { inTerm with only := only, rereplication := fun _ => ?_ }
      exact inTerm.rereplication (Option.ne_none_iff_exists'.mpr ⟨old, found⟩)

/-- An announcement of the node begins with the leadership. -/
theorem announce
    (inTerm : InTerm node) {leader : Id} {members : List Id}
    (only : OnlyLeader (node.announce leader members))
    (called : leader = node.id → node.leader = some node.id) :
    InTerm (node.announce leader members) := by
  unfold MasterNode.announce at only ⊢
  split
  next => exact inTerm
  next differs =>
    rw [if_neg differs] at only
    split
    next isOwn =>
      rw [if_pos isOwn] at only
      exact { inTerm with only := only, starts := fun _ => called isOwn }
    next isOther =>
      rw [if_neg isOther] at only
      exact { inTerm with only := only }

/-- A settled step keeps the term. -/
theorem step
    (inTerm : InTerm node) (settled : Settled node action)
    (stepped : node.step action = some next) : InTerm next := by
  have only := inTerm.only.step (inTerm.asLeader settled) stepped
  cases MasterNode.transition_of_step stepped with
  | @setLeader leader =>
      rcases settled with rfl | ⟨_, notCalled, noStarts, noFailures, free⟩
      · exact
          { only := only
            calls := fun _ => rfl
            starts := fun _ => rfl
            failures := fun _ => rfl
            rereplication := fun _ => rfl }
      · refine
          { only := only
            calls := fun isCall => ?_
            starts := absurd noStarts
            failures := absurd noFailures
            rereplication := absurd free }
        rcases List.mem_append.mp isCall with old | new
        · exact absurd old notCalled
        · exact congrArg some (List.mem_singleton.mp new).symm
  | @announce index leader members isCall =>
      have before : InTerm
          { node with calls := node.calls.eraseIdx index } :=
        { inTerm with
          only := { inTerm.only with }
          calls := fun isLeft =>
            inTerm.calls (List.mem_of_mem_eraseIdx isLeft) }
      refine before.announce only fun isOwn => ?_
      exact inTerm.calls (isOwn ▸ List.mem_of_getElem? isCall)
  | goOn | stop | discard | receive => exact { inTerm with only := only }
  | nodeFail => exact { inTerm with only := only, failures := fun _ => settled }
  | @lock index id found =>
      have isLeader := inTerm.failures
        (List.ne_nil_of_mem (List.mem_of_getElem? found))
      exact
        { inTerm with
          only := only
          failures := fun _ => isLeader
          rereplication := fun _ => isLeader }
  | @perform worker members draws duty duties effect found made =>
      have kept := inTerm.setWork found ⟨effect.duties ++ duties, effect.command⟩
        (inTerm.only.setWork found _)
      exact { kept with only := only }
  | reply found =>
      exact
        { inTerm.setWork found _ (inTerm.only.setWork found _) with
          only := only }
  | @finish worker =>
      cases worker with
      | service index => exact { inTerm with only := only }
      | start index =>
          refine { inTerm with only := only, starts := fun left => ?_ }
          refine inTerm.starts fun none => left ?_
          rw [MasterNode.leave, none, List.eraseIdx_nil]
      | nodeFail =>
          exact
            { inTerm with only := only, rereplication := (absurd rfl ·) }

end InTerm

/-- If terms are kept apart, only the leader acts as a master. -/
theorem onlyLeader_of_settled
    {id : Id} {trace : List (MasterAction Id)} {final : MasterNode Id}
    (runs : (masterSystem id).Runs (.initial id) trace final)
    (settled : (masterSystem id).Every Settled (.initial id) trace) :
    OnlyLeader final :=
  (settled.invariant runs InTerm
    (fun _ _ _ inTerm settled stepped => inTerm.step settled stepped)
    (InTerm.initial id)).only

end Master
end CraneSps
