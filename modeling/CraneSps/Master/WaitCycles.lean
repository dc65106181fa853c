import CraneSps.Foundation.WaitGraph
import CraneSps.Master.Operations

/-!
# Waits of the service threads

Every node has one service thread.  While it handles a `REPLICATE` command it
asks the targets one by one and waits for each reply, which comes from the
service thread of the target.  The service thread of the master and its
re-replication threads have their commands outstanding at the same time, so
that two sources can wait for each other.
-/

namespace CraneSps
namespace Master

/-- A thread that commands replications and waits for the reply. -/
inductive Issuer
  /-- The service thread of the master. -/
  | service
  /-- A thread that has called `start`. -/
  | start (thread : Nat)
  /-- The thread of a `NodeFailEvent` that holds `rereplicationMutex`. -/
  | nodeFail
  deriving DecidableEq

/-- A `REPLICATE` command that has not been replied to. -/
structure Command (Id : Type) where
  issuer : Issuer
  source : Id
  filename : String
  /-- It is empty unless the command is for a `GET`. -/
  filepath : String
  /-- The targets that have not replied. -/
  targets : List Id
  /-- The service thread of the source has received it. -/
  handled : Bool
  deriving DecidableEq

/-! ## Service threads -/

section ServiceThreads

variable {Id : Type}

/-- The service thread of the node handles a command. -/
def Busy (commands : List (Command Id)) (id : Id) : Prop :=
  ∃ command ∈ commands, command.handled = true ∧ command.source = id

instance [DecidableEq Id] (commands : List (Command Id)) (id : Id) :
    Decidable (Busy commands id) := by
  unfold Busy
  infer_instance

/-- The service thread of the first node waits for the reply of the second to
a `SEND_REQ`. -/
def Waits (commands : List (Command Id)) (first second : Id) : Prop :=
  ∃ command ∈ commands,
    command.handled = true ∧ command.source = first ∧
      command.targets.head? = some second

/-- By an outstanding command, the first node has to ask the second. -/
def Pending (commands : List (Command Id)) (first second : Id) : Prop :=
  ∃ command ∈ commands, command.source = first ∧ second ∈ command.targets

/-- What service threads do, each with the place of the command. -/
inductive ThreadAction
  /-- The service thread of the source receives the command. -/
  | handle (index : Nat)
  /-- The service thread of the target that is asked receives the `SEND_REQ`
  and replies. -/
  | answer (index : Nat)
  /-- All targets have replied, and the source replies to the command. -/
  | finish (index : Nat)
  deriving DecidableEq

variable {commands next : List (Command Id)}

/-- A node that waits has to ask. -/
theorem Waits.pending
    {first second : Id} (waits : Waits commands first second) :
    Pending commands first second := by
  obtain ⟨command, present, _, isSource, asked⟩ := waits
  exact ⟨command, present, isSource, List.mem_of_mem_head? asked⟩

section Replaced

variable {index : Nat} {old new : Command Id} {first second : Id}

/-- The edges of a command that is replaced are not more than before. -/
theorem pending_of_set
    (found : commands[index]? = some old)
    (edge : Pending (commands.set index new) first second)
    (same : new.source = old.source)
    (fewer : ∀ target ∈ new.targets, target ∈ old.targets) :
    Pending commands first second := by
  obtain ⟨command, present, rfl, isTarget⟩ := edge
  rcases List.mem_or_eq_of_mem_set present with before | rfl
  · exact ⟨command, before, rfl, isTarget⟩
  · exact ⟨old, List.mem_of_getElem? found, same.symm, fewer second isTarget⟩

/-- An edge stays unless it belongs to the replaced command alone. -/
theorem pending_set
    (found : commands[index]? = some old)
    (edge : Pending commands first second)
    (same : new.source = old.source)
    (kept : second ∈ old.targets → second ∈ new.targets) :
    Pending (commands.set index new) first second := by
  obtain ⟨command, present, rfl, isTarget⟩ := edge
  by_cases isOld : command = old
  · rw [isOld] at isTarget ⊢
    have bound := (List.getElem?_eq_some_iff.mp found).1
    exact ⟨new, List.mem_set bound new, same, kept isTarget⟩
  · exact ⟨command, List.mem_set_of_ne present found isOld, rfl, isTarget⟩

/-- A command without targets has no edges. -/
theorem pending_eraseIdx
    (found : commands[index]? = some old)
    (edge : Pending commands first second) (replied : old.targets = []) :
    Pending (commands.eraseIdx index) first second := by
  obtain ⟨command, present, rfl, isTarget⟩ := edge
  rcases List.eq_or_mem_eraseIdx present found with rfl | other
  · rw [replied] at isTarget
    cases isTarget
  · exact ⟨command, other, rfl, isTarget⟩

end Replaced

/-- A new command adds its edges. -/
theorem pending_append_singleton
    (commands : List (Command Id)) (command : Command Id) :
    Pending (commands ++ [command]) =
      WaitGraph.addEdges (Pending commands) command.source command.targets := by
  funext first second
  apply propext
  simp only [Pending, WaitGraph.addEdges, List.mem_append, List.mem_singleton,
    or_and_right, exists_or, exists_eq_left]
  rw [eq_comm (a := command.source)]

/-- It closes no cycle exactly if no target leads to its source. -/
theorem acyclic_append_iff
    {command : Command Id}
    (acyclic : WaitGraph.Acyclic (Pending commands)) :
    WaitGraph.Acyclic (Pending (commands ++ [command])) ↔
      ∀ target ∈ command.targets,
        ¬ Relation.ReflTransGen (Pending commands) target command.source := by
  rw [pending_append_singleton]
  exact WaitGraph.acyclic_addEdges_iff acyclic

/-- Every outcome of a step of a service thread. -/
inductive ThreadTransition (commands : List (Command Id)) :
    List (Command Id) → Prop
  | handle {index : Nat} {command : Command Id}
      (found : commands[index]? = some command)
      (isNew : command.handled = false)
      (idle : ¬ Busy commands command.source) :
      ThreadTransition commands
        (commands.set index { command with handled := true })
  | answer {index : Nat} {command : Command Id} {target : Id}
      {targets : List Id}
      (found : commands[index]? = some command)
      (handled : command.handled = true)
      (asked : command.targets = target :: targets)
      (idle : ¬ Busy commands target) :
      ThreadTransition commands
        (commands.set index { command with targets := targets })
  | finish {index : Nat} {command : Command Id}
      (found : commands[index]? = some command)
      (handled : command.handled = true)
      (replied : command.targets = []) :
      ThreadTransition commands (commands.eraseIdx index)

namespace ThreadTransition

/-- No step makes a node ask more. -/
theorem pending
    (transition : ThreadTransition commands next) {first second : Id}
    (edge : Pending next first second) : Pending commands first second := by
  cases transition with
  | handle found isNew idle => exact pending_of_set found edge rfl fun _ => id
  | answer found handled asked idle =>
      refine pending_of_set found edge rfl fun target isTarget => ?_
      rw [asked]
      exact List.mem_cons_of_mem _ isTarget
  | finish found handled replied =>
      obtain ⟨command, present, rfl, isTarget⟩ := edge
      exact ⟨command, List.mem_of_mem_eraseIdx present, rfl, isTarget⟩

end ThreadTransition

/-- What is left to do of a command. -/
def Command.work (command : Command Id) : Nat :=
  command.targets.length + if command.handled then 1 else 2

/-- What the service threads still have to do. -/
def work (commands : List (Command Id)) : Nat :=
  (commands.map Command.work).sum

/-- Every step does some of it. -/
theorem ThreadTransition.work_lt
    (transition : ThreadTransition commands next) :
    work next < work commands := by
  rw [work, work]
  cases transition with
  | @handle index command found isNew idle =>
      have balance := @List.sum_map_set_balance _ _ _ _
        { command with handled := true } Command.work found
      simp only [Command.work, isNew, Bool.false_eq_true, if_false, if_true]
        at balance
      omega
  | @answer index command target targets found handled asked idle =>
      have balance := @List.sum_map_set_balance _ _ _ _
        { command with targets := targets } Command.work found
      simp only [Command.work, asked, List.length_cons] at balance
      omega
  | @finish index command found handled replied =>
      have balance := List.sum_map_eraseIdx_balance Command.work found
      simp only [Command.work, handled, if_true] at balance
      omega

variable [DecidableEq Id]

/-- One step of a service thread; those that handle a command receive
nothing. -/
def threadStep (commands : List (Command Id)) :
    ThreadAction → Option (List (Command Id))
  | .handle index =>
      match commands[index]? with
      | some command =>
          if command.handled = true ∨ Busy commands command.source then none
          else some (commands.set index { command with handled := true })
      | none => none
  | .answer index =>
      match commands[index]? with
      | some command =>
          match command.handled, command.targets with
          | true, target :: targets =>
              if Busy commands target then none
              else some (commands.set index { command with targets := targets })
          | _, _ => none
      | none => none
  | .finish index =>
      match commands[index]? with
      | some command =>
          match command.handled, command.targets with
          | true, [] => some (commands.eraseIdx index)
          | _, _ => none
      | none => none

/-- The service threads, without new commands. -/
def serviceThreads : TransitionSystem (List (Command Id)) ThreadAction where
  initial := []
  step := threadStep

/-- No order in which the service threads go on leads to a cycle of waits. -/
def CycleFree (commands : List (Command Id)) : Prop :=
  ∀ schedule finish, serviceThreads.Runs commands schedule finish →
    WaitGraph.Acyclic (Waits finish)

/-- The transitions are the steps. -/
theorem threadTransition_iff :
    ThreadTransition commands next ↔
      ∃ action, threadStep commands action = some next := by
  constructor
  · intro transition
    cases transition with
    | @handle index command found isNew idle =>
        refine ⟨.handle index, ?_⟩
        simp only [threadStep, found]
        rw [if_neg (by simp [isNew, idle])]
    | @answer index command target targets found handled asked idle =>
        refine ⟨.answer index, ?_⟩
        simp only [threadStep, found, handled, asked]
        rw [if_neg idle]
    | @finish index command found handled replied =>
        refine ⟨.finish index, ?_⟩
        simp only [threadStep, found, handled, replied]
  · rintro ⟨action, stepped⟩
    cases action with
    | handle index =>
        simp only [threadStep] at stepped
        split at stepped
        · next command found =>
            rw [Option.ite_none_left_eq_some, not_or,
              Bool.not_eq_true] at stepped
            obtain ⟨⟨isNew, idle⟩, isNext⟩ := stepped
            exact Option.some.inj isNext ▸ .handle found isNew idle
        · cases stepped
    | answer index =>
        simp only [threadStep] at stepped
        split at stepped
        · next command found =>
            split at stepped
            · next target targets handled asked =>
                obtain ⟨idle, isNext⟩ :=
                  Option.ite_none_left_eq_some.mp stepped
                exact Option.some.inj isNext ▸
                  .answer found handled asked idle
            · cases stepped
        · cases stepped
    | finish index =>
        simp only [threadStep] at stepped
        split at stepped
        · next command found =>
            split at stepped
            · next handled replied =>
                exact Option.some.inj stepped ▸ .finish found handled replied
            · cases stepped
        · cases stepped

/-- While the outstanding commands have no cycle, the waits have none. -/
theorem cycleFree_of_acyclic
    (acyclic : WaitGraph.Acyclic (Pending commands)) :
    CycleFree commands := by
  intro schedule finish runs
  refine WaitGraph.Acyclic.mono ?_ fun _ _ => Waits.pending
  refine runs.invariant (fun now => WaitGraph.Acyclic (Pending now)) ?_ acyclic
  intro now action next before stepped
  exact before.mono fun _ _ =>
    (threadTransition_iff.mpr ⟨action, stepped⟩).pending

section Stuck

variable (cyclic : ¬ WaitGraph.Acyclic (Pending commands))
variable (stuck : ∀ next, ThreadTransition commands next →
  WaitGraph.Acyclic (Pending next))

include cyclic stuck

omit [DecidableEq Id] in
/-- No step keeps all edges that can be on a cycle. -/
theorem not_kept_of_stuck
    {next : List (Command Id)} (transition : ThreadTransition commands next) :
    ¬ ∀ first second, Pending commands first second →
      (∃ third, Pending commands second third) →
      Pending next first second :=
  fun kept => WaitGraph.not_acyclic_of_mem_cycle cyclic kept
    (stuck next transition)

/-- The source of every command is busy: otherwise it would receive the
command, and the edges would stay. -/
theorem busy_of_stuck
    {command : Command Id} (present : command ∈ commands) :
    Busy commands command.source := by
  by_contra idle
  obtain ⟨index, found⟩ := List.mem_iff_getElem?.mp present
  have isNew : command.handled = false := by
    rw [← Bool.not_eq_true]
    exact fun handled => idle ⟨command, present, handled, rfl⟩
  exact not_kept_of_stuck cyclic stuck (.handle found isNew idle)
    fun first second edge _ => pending_set found edge rfl id

/-- A busy node waits for a busy one: a node that is asked and idle is the
source of no command, so that no edge to it is on a cycle. -/
theorem waits_of_stuck
    {id : Id} (isBusy : Busy commands id) :
    ∃ next, Busy commands next ∧ Waits commands id next := by
  obtain ⟨command, present, handled, rfl⟩ := isBusy
  obtain ⟨index, found⟩ := List.mem_iff_getElem?.mp present
  cases targets : command.targets with
  | nil =>
      exact (not_kept_of_stuck cyclic stuck (.finish found handled targets)
        fun first second edge _ => pending_eraseIdx found edge targets).elim
  | cons target rest =>
      refine ⟨target, ?_, command, present, handled, rfl, ?_⟩
      · by_contra idle
        refine not_kept_of_stuck cyclic stuck
          (.answer found handled targets idle)
          fun first second edge later => pending_set found edge rfl ?_
        intro isTarget
        rw [targets] at isTarget
        rcases List.mem_cons.mp isTarget with rfl | isRest
        · obtain ⟨third, other, isOther, isSource, _⟩ := later
          exact absurd (isSource ▸ busy_of_stuck cyclic stuck isOther) idle
        · exact isRest
      · rw [targets]
        rfl

/-- The busy nodes wait in a cycle. -/
theorem waits_cyclic_of_stuck :
    ¬ WaitGraph.Acyclic (Waits commands) := by
  obtain ⟨first, target, command, present, _⟩ :
      ∃ first target, Pending commands first target := by
    by_contra none
    refine cyclic fun vertex cycle => ?_
    obtain ⟨next, edge, _⟩ := Relation.TransGen.head'_iff.mp cycle
    exact none ⟨vertex, next, edge⟩
  have isSource : command.source ∈ commands.map Command.source :=
    List.mem_map_of_mem present
  refine WaitGraph.not_acyclic_of_forall_exists isSource
    fun id isSource => ?_
  obtain ⟨other, isOther, rfl⟩ := List.mem_map.mp isSource
  obtain ⟨next, ⟨handling, isHandling, _, rfl⟩, edge⟩ :=
    waits_of_stuck cyclic stuck (busy_of_stuck cyclic stuck isOther)
  exact ⟨_, List.mem_map_of_mem isHandling, edge⟩

end Stuck

/-- A cycle of outstanding commands can become a cycle of waits: the threads
go on as long as a cycle of commands is left. -/
theorem not_cycleFree_of_not_acyclic
    (cyclic : ¬ WaitGraph.Acyclic (Pending commands)) :
    ¬ CycleFree commands := by
  induction isWork : work commands using Nat.strong_induction_on
    generalizing commands with
  | _ amount inductionHypothesis =>
  intro cycleFree
  by_cases advances : ∃ next, ThreadTransition commands next ∧
      ¬ WaitGraph.Acyclic (Pending next)
  · obtain ⟨next, transition, stillCyclic⟩ := advances
    obtain ⟨action, stepped⟩ := threadTransition_iff.mp transition
    refine inductionHypothesis (work next) (isWork ▸ transition.work_lt)
      stillCyclic rfl fun schedule finish runs => ?_
    exact cycleFree (action :: schedule) finish
      (TransitionSystem.runs_cons_iff.mpr ⟨next, stepped, runs⟩)
  · refine waits_cyclic_of_stuck cyclic (fun next transition => ?_)
      (cycleFree [] commands rfl)
    by_contra stillCyclic
    exact advances ⟨next, transition, stillCyclic⟩

end ServiceThreads

/-! ## The master and its commands -/

section Dispatch

variable {Id : Type} [LinearOrder Id]

/-- The master with the commands that have not been replied to. -/
structure Dispatch (Id : Type) [LinearOrder Id] where
  master : State Id
  commands : List (Command Id)

/-- What can happen at the master and at the service threads. -/
inductive DispatchAction (Id : Type)
  /-- Anything at the master but a call of `replicateFile`. -/
  | master (action : Action Id)
  /-- A thread calls `replicateFile`. -/
  | replicate (issuer : Issuer) (filename : String) (draws : List Nat)
  /-- A `GET` request of a node. -/
  | get (id : Id) (filename filepath : String)
  | thread (action : ThreadAction)
  deriving DecidableEq

/-- The service thread of the master does it. -/
def Action.byService : Action Id → Bool
  | .put _ _ | .update _ _ | .delete _ => true
  | _ => false

/-- It is a call of `replicateFile`. -/
def Action.isReplicate : Action Id → Bool
  | .replicate _ => true
  | _ => false

namespace Dispatch

/-- A master that knows no members and no files. -/
def initial : Dispatch Id where
  master := .initial
  commands := []

variable (state : Dispatch Id)

/-- The thread waits for the reply to a command. -/
def Awaits (issuer : Issuer) : Prop :=
  ∃ command ∈ state.commands, command.issuer = issuer

instance (issuer : Issuer) : Decidable (state.Awaits issuer) := by
  unfold Awaits
  infer_instance

/-- The command that `replicateFile` sends; a set of ids is in their order, as
the membership list is. -/
def replicateCommand
    (issuer : Issuer) (filename : String) (command : Replication Id) :
    Command Id where
  issuer := issuer
  source := command.source
  filename := filename
  filepath := ""
  targets := state.master.members.filter fun id => id ∈ command.targets
  handled := false

/-- The command for a `GET`: the first member with the file is the source. -/
def getCommand (id : Id) (filename filepath : String) : Option (Command Id) :=
  if state.master.fileMap.countReplicates filename = 0 then none
  else
    (state.master.members.find? fun member =>
        state.master.fileMap.hasFile member filename).map fun source =>
      { issuer := .service
        source := source
        filename := filename
        filepath := filepath
        targets := [id]
        handled := false }

/-- The command that a step issues. -/
def issued : DispatchAction Id → Option (Command Id)
  | .replicate issuer filename draws =>
      (replicateFile state.master.fileMap state.master.members filename
        draws).join.map (state.replicateCommand issuer filename)
  | .get id filename filepath => state.getCommand id filename filepath
  | .master _ | .thread _ => none

/-- One step. -/
def step (action : DispatchAction Id) : Option (Dispatch Id) :=
  match action with
  | .master masterAction =>
      if masterAction.isReplicate = true ∨
          masterAction.byService = true ∧ state.Awaits .service then none
      else
        (state.master.step masterAction).map fun master =>
          { state with master := master }
  | .replicate issuer filename draws =>
      if state.Awaits issuer ∨
          replicateFile state.master.fileMap state.master.members filename
            draws = none then none
      else
        (state.master.step (.replicate filename)).map fun master =>
          { master := master
            commands := state.commands ++ (state.issued action).toList }
  | .get _ _ _ =>
      if state.Awaits .service then none
      else
        some
          { state with
            commands := state.commands ++ (state.issued action).toList }
  | .thread threadAction =>
      (threadStep state.commands threadAction).map fun commands =>
        { state with commands := commands }

end Dispatch

/-- The master and the service threads. -/
def dispatchSystem : TransitionSystem (Dispatch Id) (DispatchAction Id) where
  initial := Dispatch.initial
  step := Dispatch.step

/-- No target of a new command leads to its source, along the sources and
targets of the outstanding commands. -/
def Orderly (state : Dispatch Id) (action : DispatchAction Id) : Prop :=
  ∀ command ∈ state.issued action, ∀ target ∈ command.targets,
    ¬ Relation.ReflTransGen (Pending state.commands) target command.source

/-- Outstanding are the commands of before, and the one that is issued, unless
a service thread has moved. -/
theorem commands_of_step
    {state next : Dispatch Id} {action : DispatchAction Id}
    (stepped : state.step action = some next) :
    (∃ threadAction,
        threadStep state.commands threadAction = some next.commands ∧
        state.issued action = none) ∨
      next.commands = state.commands ++ (state.issued action).toList := by
  cases action with
  | master masterAction =>
      obtain ⟨_, moved⟩ := Option.ite_none_left_eq_some.mp stepped
      obtain ⟨master, _, rfl⟩ := Option.map_eq_some_iff.mp moved
      exact .inr (List.append_nil _).symm
  | replicate issuer filename draws =>
      obtain ⟨_, moved⟩ := Option.ite_none_left_eq_some.mp stepped
      obtain ⟨master, _, rfl⟩ := Option.map_eq_some_iff.mp moved
      exact .inr rfl
  | get id filename filepath =>
      obtain ⟨_, moved⟩ := Option.ite_none_left_eq_some.mp stepped
      exact .inr (Option.some.inj moved ▸ rfl)
  | thread threadAction =>
      obtain ⟨commands, moved, rfl⟩ := Option.map_eq_some_iff.mp stepped
      exact .inl ⟨threadAction, moved, rfl⟩

/-- In every run all commands are issued orderly exactly if in no state on the
way the service threads wait in a cycle, nor can they come to do so without a
further command. -/
theorem every_orderly_iff_cycleFree
    {trace : List (DispatchAction Id)} {finish : Dispatch Id}
    (runs : dispatchSystem.Runs Dispatch.initial trace finish) :
    dispatchSystem.Every Orderly Dispatch.initial trace ↔
      ∀ front middle, front <+: trace →
        dispatchSystem.Runs Dispatch.initial front middle →
        CycleFree middle.commands := by
  apply runs.every_iff_forall_front
    (fun state => WaitGraph.Acyclic (Pending state.commands))
    (fun state => CycleFree state.commands)
  · intro state action next acyclic orderly stepped
    rcases commands_of_step stepped with ⟨threadAction, moved, _⟩ | appended
    · exact acyclic.mono fun _ _ =>
        (threadTransition_iff.mpr ⟨threadAction, moved⟩).pending
    · rw [appended]
      cases isIssued : state.issued action with
      | none =>
          rw [Option.toList_none, List.append_nil]
          exact acyclic
      | some command =>
          exact (acyclic_append_iff acyclic).mpr (orderly command isIssued)
  · exact fun _ => cycleFree_of_acyclic
  · intro state action next acyclic disorderly stepped
    obtain ⟨command, isIssued, reaches⟩ : ∃ command,
        state.issued action = some command ∧
        ¬ ∀ target ∈ command.targets,
          ¬ Relation.ReflTransGen (Pending state.commands) target
            command.source := by
      by_contra none
      exact disorderly fun command isIssued => by
        by_contra reaches
        exact none ⟨command, isIssued, reaches⟩
    rcases commands_of_step stepped with ⟨_, _, isNone⟩ | appended
    · rw [isIssued] at isNone
      cases isNone
    · rw [appended, isIssued]
      exact not_cycleFree_of_not_acyclic fun stillAcyclic =>
        reaches ((acyclic_append_iff acyclic).mp stillAcyclic)
  · rintro vertex cycle
    obtain ⟨_, ⟨_, present, _⟩, _⟩ := Relation.TransGen.head'_iff.mp cycle
    cases present

/-- The targets of a new command are sources of no command. -/
def Undisturbed (state : Dispatch Id) (action : DispatchAction Id) : Prop :=
  ∀ command ∈ state.issued action, ∀ target ∈ command.targets,
    target ≠ command.source ∧
      ∀ other ∈ state.commands, other.source ≠ target

instance (state : Dispatch Id) (action : DispatchAction Id) :
    Decidable (Undisturbed state action) := by
  unfold Undisturbed
  infer_instance

/-- Then they lead nowhere. -/
theorem Undisturbed.orderly
    {state : Dispatch Id} {action : DispatchAction Id}
    (undisturbed : Undisturbed state action) : Orderly state action := by
  intro command isIssued target isTarget reaches
  obtain ⟨isOther, noSource⟩ := undisturbed command isIssued target isTarget
  rcases reaches.cases_head with same | ⟨next, edge, _⟩
  · exact isOther same
  · obtain ⟨other, present, isSource, _⟩ := edge
    exact noSource other present isSource

/-- A file is put and replicated, and then another node gets it. -/
def putAndGet : List (DispatchAction Nat) :=
  [.master (.join 1), .master (.join 2), .master (.join 3),
    .master (.put 1 ⟨"f", "", 3⟩), .replicate .service "f" [1, 2, 0],
    .thread (.handle 0), .thread (.answer 0), .thread (.answer 0),
    .thread (.finish 0), .get 3 "f" "g", .thread (.handle 0)]

theorem cycleFree_of_putAndGet :
    ∃ finish, dispatchSystem.Runs Dispatch.initial putAndGet finish ∧
      CycleFree finish.commands := by
  have every : dispatchSystem.Every Undisturbed Dispatch.initial putAndGet := by
    decide
  obtain ⟨finish, runs⟩ : ∃ finish,
      dispatchSystem.Runs Dispatch.initial putAndGet finish := by
    refine Option.isSome_iff_exists.mp ?_
    decide
  exact ⟨finish, runs, (every_orderly_iff_cycleFree runs).mp
    (every.imp fun _ _ => Undisturbed.orderly) putAndGet finish
    (List.prefix_refl _) runs⟩

/-- The thread of a failure replicates a file of the second node while a file
of the first one is put. -/
def opposite : List (DispatchAction Nat) :=
  [.master (.join 1), .master (.join 2), .master (.update 2 ⟨"g", "", 3⟩),
    .master (.nodeFail 3), .master (.handleFail 3),
    .master (.put 1 ⟨"f", "", 3⟩), .replicate .nodeFail "g" [0, 1],
    .replicate .service "f" [1, 0], .thread (.handle 0), .thread (.handle 1)]

/-- The service threads of the two nodes wait for each other. -/
theorem not_acyclic_of_opposite :
    ¬ ∀ (trace : List (DispatchAction Nat)) (finish : Dispatch Nat),
      dispatchSystem.Runs Dispatch.initial trace finish →
        WaitGraph.Acyclic (Waits finish.commands) := by
  intro claim
  obtain ⟨finish, runs, outstanding⟩ :
      ∃ finish ∈ dispatchSystem.run Dispatch.initial opposite,
        finish.commands =
          [⟨.nodeFail, 2, "g", "", [1], true⟩,
            ⟨.service, 1, "f", "", [2], true⟩] := by
    decide
  refine claim opposite finish runs 1 ?_
  rw [outstanding]
  exact .tail (.single ⟨_, .tail _ (.head _), rfl, rfl, rfl⟩)
    ⟨_, .head _, rfl, rfl, rfl⟩

end Dispatch

end Master
end CraneSps
