import CraneSps.Foundation.Dataflow
import Mathlib.Data.List.Dedup

/-!
# Operators

An operator reads tokens and writes tokens.  Up to the order, what it has
written depends on what it has read, and it writes more if it reads more.  In a
graph of operators without cycles, what the sources have written therefore
bounds what every operator reads and writes, and determines it if nothing is on
the way.
-/

namespace Dataflow

/-- What is written altogether for what has been read altogether. -/
structure Operator (Token : Type*) where
  write : List Token → List Token
  monotone : ∀ {fewer more : List Token}, fewer.Subperm more →
    (write fewer).Subperm (write more)

variable {Task Token Key : Type*}

namespace Operator

theorem perm_write
    (operator : Operator Token) {tokens others : List Token}
    (same : tokens.Perm others) :
    (operator.write tokens).Perm (operator.write others) :=
  (operator.monotone same.subperm).antisymm
    (operator.monotone same.symm.subperm)

/-- Something is written for each token. -/
def each (write : Token → List Token) : Operator Token where
  write := fun tokens => tokens.flatMap write
  monotone := fun some => subperm_flatMap some write

/-- Something is written for each key, which depends on the number of the
tokens with the key. -/
def counting
    [DecidableEq Key] (key : Token → Key) (write : Key → Nat → List Token)
    (grows : ∀ (wanted : Key) {fewer more : Nat}, fewer ≤ more →
      (write wanted fewer).Sublist (write wanted more)) :
    Operator Token where
  write := fun tokens =>
    (tokens.map key).dedup.flatMap fun wanted =>
      write wanted ((tokens.map key).count wanted)
  monotone := by
    intro fewer more some
    have keys : (fewer.map key).Subperm (more.map key) := subperm_map some key
    have present : (fewer.map key).dedup.Subperm (more.map key).dedup := by
      apply List.subperm_of_subset (List.nodup_dedup _)
      intro wanted isKey
      exact List.mem_dedup.mpr (keys.subset (List.mem_dedup.mp isKey))
    refine (subperm_flatMap present _).trans (List.Sublist.subperm ?_)
    apply List.Sublist.flatMap_right
    intro wanted _
    exact grows wanted (keys.count_le wanted)

end Operator

/-- A way to compare lists that does not depend on the order. -/
structure Compares (related : List Token → List Token → Prop) : Prop where
  perm : ∀ {first second}, first.Perm second → related first second
  trans : ∀ {first second third}, related first second →
    related second third → related first third
  append : ∀ {first second third fourth}, related first second →
    related third fourth → related (first ++ third) (second ++ fourth)
  write : ∀ (operator : Operator Token) {first second},
    related first second →
      related (operator.write first) (operator.write second)

theorem compares_subperm : Compares (@List.Subperm Token) where
  perm := List.Perm.subperm
  trans := List.Subperm.trans
  append := List.Subperm.append
  write := Operator.monotone

theorem compares_perm : Compares (@List.Perm Token) where
  perm := id
  trans := List.Perm.trans
  append := List.Perm.append
  write := Operator.perm_write

variable {related : List Token → List Token → Prop}

theorem Compares.flatMap
    (compares : Compares related) {tasks : List Task}
    {part other : Task → List Token}
    (parts : ∀ task ∈ tasks, related (part task) (other task)) :
    related (tasks.flatMap part) (tasks.flatMap other) := by
  induction tasks with
  | nil => exact compares.perm .nil
  | cons task tasks inductionHypothesis =>
      obtain ⟨here, later⟩ := List.forall_mem_cons.mp parts
      exact compares.append here (inductionHypothesis later)

/-- Tasks that read what others have written. -/
structure OperatorGraph (Task Token : Type*) where
  parents : Task → List Task
  operator : Task → Operator Token

namespace OperatorGraph

variable (graph : OperatorGraph Task Token)
variable (source : Task → Option (List Token))

/-- What a task writes, if only paths of limited length lead to it: a source
does not read anything. -/
def written : Nat → Task → List Token
  | 0, _ => []
  | depth + 1, task =>
      (source task).getD ((graph.operator task).write
        ((graph.parents task).flatMap (written depth)))

/-- What a task reads. -/
def read (depth : Nat) (task : Task) : List Token :=
  (graph.parents task).flatMap (graph.written source depth)

/-- The parents of a task are tasks with lower ranks. -/
def Ordered (tasks : List Task) (rank : Task → Nat) : Prop :=
  ∀ task ∈ tasks, ∀ parent ∈ graph.parents task,
    parent ∈ tasks ∧ rank parent < rank task

/-- What the tasks have read and written is related to what they should have
read and written. -/
structure Solves
    (related : List Token → List Token → Prop) (tasks : List Task)
    (input output : Task → List Token) : Prop where
  sources : ∀ task ∈ tasks, ∀ tokens, source task = some tokens →
    related (output task) tokens
  writes : ∀ task ∈ tasks, source task = none →
    related (output task) ((graph.operator task).write (input task))
  reads : ∀ task ∈ tasks, source task = none →
    related (input task) ((graph.parents task).flatMap output)

variable {graph source} {tasks : List Task} {rank : Task → Nat}
variable {input output : Task → List Token} {task : Task} {depth : Nat}

/-- What the tasks have written is related to what the sources lead to. -/
theorem Solves.written
    (solves : graph.Solves source related tasks input output)
    (compares : Compares related) (ordered : graph.Ordered tasks rank)
    (isTask : task ∈ tasks) (below : rank task < depth) :
    related (output task) (graph.written source depth task) := by
  induction depth generalizing task with
  | zero => cases below
  | succ depth inductionHypothesis =>
      rw [OperatorGraph.written]
      cases isSource : source task with
      | some tokens => exact solves.sources task isTask tokens isSource
      | none =>
          refine compares.trans (solves.writes task isTask isSource) ?_
          refine compares.write _ ?_
          refine compares.trans (solves.reads task isTask isSource) ?_
          refine compares.flatMap fun parent isParent => ?_
          obtain ⟨alsoTask, lower⟩ := ordered task isTask parent isParent
          exact inductionHypothesis alsoTask
            (Nat.lt_of_lt_of_le lower (Nat.lt_succ_iff.mp below))

/-- So is what they have read. -/
theorem Solves.read
    (solves : graph.Solves source related tasks input output)
    (compares : Compares related) (ordered : graph.Ordered tasks rank)
    (isTask : task ∈ tasks) (isOperator : source task = none)
    (below : rank task ≤ depth) :
    related (input task) (graph.read source depth task) := by
  refine compares.trans (solves.reads task isTask isOperator) ?_
  refine compares.flatMap fun parent isParent => ?_
  obtain ⟨alsoTask, lower⟩ := ordered task isTask parent isParent
  exact solves.written compares ordered alsoTask
    (Nat.lt_of_lt_of_le lower below)

/-- The order of the parents does not matter, and it suffices to know what the
sources among the tasks have written. -/
theorem written_perm
    {other : OperatorGraph Task Token} {another : Task → Option (List Token)}
    (inside : ∀ task ∈ tasks, ∀ parent ∈ graph.parents task, parent ∈ tasks)
    (sameOperators : graph.operator = other.operator)
    (parents : ∀ task ∈ tasks,
      (graph.parents task).Perm (other.parents task))
    (sources : ∀ task ∈ tasks, source task = another task)
    (depth : Nat) (isTask : task ∈ tasks) :
    (graph.written source depth task).Perm
      (other.written another depth task) := by
  induction depth generalizing task with
  | zero => exact .nil
  | succ depth inductionHypothesis =>
      rw [written, written, sources task isTask]
      cases another task with
      | some tokens => exact .refl tokens
      | none =>
          rw [Option.getD_none, Option.getD_none, sameOperators]
          apply Operator.perm_write
          exact (parents task isTask).flatMap fun parent isParent =>
            inductionHypothesis (inside task isTask parent isParent)

theorem read_perm
    {other : OperatorGraph Task Token} {another : Task → Option (List Token)}
    (inside : ∀ task ∈ tasks, ∀ parent ∈ graph.parents task, parent ∈ tasks)
    (sameOperators : graph.operator = other.operator)
    (parents : ∀ task ∈ tasks,
      (graph.parents task).Perm (other.parents task))
    (sources : ∀ task ∈ tasks, source task = another task)
    (depth : Nat) (isTask : task ∈ tasks) :
    (graph.read source depth task).Perm (other.read another depth task) :=
  (parents task isTask).flatMap fun parent isParent =>
    written_perm inside sameOperators parents sources depth
      (inside task isTask parent isParent)

end OperatorGraph

end Dataflow
