import CraneSps.Foundation.Copies
import CraneSps.Streaming.Graph
import CraneSps.Streaming.Stateless

/-!
# What a topology computes

The workers of a task together behave like one operator, either because the
class has no state or because field grouping divides the tuples among them.  In
every run the tasks have read and written some of what the graph of the
operators says, and when the workers have come to rest they have read and
written all of it.
-/

namespace CraneSps
namespace Streaming

open Crane (Tuple InternalConnectionGroup GroupingScheme TopologySpec)

/-- The fields of a tuple. -/
abbrev Data := List (List UInt8)

/-- What the workers of a task write to others, and what they print. -/
structure Behaviour where
  operator : Dataflow.Operator Data
  print : Data → List Data

/-- The workers of a class behave so, however the tuples are divided among
them, or if they are divided by the first field. -/
structure Behaves
    (base : TopologyNodeBase) (byField : Bool) (behaviour : Behaviour) :
    Prop where
  writes : ∀ workers : List (List Tuple × List Tuple),
    base.transducer.Ran workers →
    (byField = true → Transducer.Apart firstField workers) →
      ((workers.flatMap Prod.snd).map Tuple.data).Perm
        (behaviour.operator.write
          ((workers.flatMap Prod.fst).map Tuple.data))
  prints : ∀ consumed node produced,
    base.transducer.run consumed = some (node, produced) →
      base.outFile node =
        consumed.flatMap fun tuple => behaviour.print tuple.data

/-! ## The classes that come with the program -/

section Classes

variable {base : TopologyNodeBase} {columns : Nat}

/-- A class without state behaves like what it writes for a tuple, and like
what it prints for it. -/
theorem Behaves.of_writes
    {write : Data → List Data} {print : Data → List Data}
    (writes : Writes base write)
    (prints : ∀ consumed node produced,
      base.transducer.run consumed = some (node, produced) →
        base.outFile node = consumed.flatMap fun tuple => print tuple.data) :
    Behaves base false ⟨.each write, print⟩ where
  writes := by
    intro workers ran _
    have each : ((workers.flatMap Prod.snd).map Tuple.data) =
        workers.flatMap fun worker =>
          worker.1.flatMap fun tuple => write tuple.data := by
      rw [List.map_flatMap]
      apply List.flatMap_congr
      intro worker isWorker
      obtain ⟨node, runs⟩ := ran worker isWorker
      exact writes _ node _ runs
    refine List.Perm.of_eq (each.trans ?_)
    change _ = ((workers.flatMap Prod.fst).map Tuple.data).flatMap write
    rw [List.flatMap_map, List.flatMap_assoc]
  prints := prints

/-- If it does not matter how the tuples are divided, they may be divided by the
first field. -/
theorem Behaves.byField
    {behaviour : Behaviour} (behaves : Behaves base false behaviour)
    (byField : Bool) : Behaves base byField behaviour where
  writes := fun workers ran _ => behaves.writes workers ran nofun
  prints := behaves.prints

/-- A class that writes to no file prints nothing. -/
theorem flatMap_nothing (consumed : List Tuple) :
    ([] : List Data) = consumed.flatMap fun _ => [] := by
  simp

namespace WordCountTopology

/-- The words of the first field are written, one by one. -/
def splitting : Behaviour where
  operator := .each fun data => (tokens (data.headD [])).map fun token => [token]
  print := fun _ => []

/-- The words are counted from one. -/
def counting : Behaviour where
  operator := Transducer.Keyed.operator (fun _ => 0)
    (fun data => data.headD []) countWord
  print := fun _ => []

theorem behaves_EchoBolt : Behaves EchoBolt false splitting := by
  apply Behaves.of_writes
  · intro consumed node produced runs
    rw [data_of_run_EchoBolt rfl runs, List.map_flatMap]
    rfl
  · intro consumed _ _ _
    exact flatMap_nothing consumed

/-- However many workers count, a word is counted by one of them. -/
theorem behaves_WordCountBolt : Behaves WordCountBolt true counting where
  writes := by
    intro workers ran apart
    have written := keyed_WordCountBolt.perm_copies ran (apart rfl)
    refine written.trans (List.Perm.of_eq (Eq.symm ?_))
    refine (Transducer.Keyed.write_operator _ _ _ _).trans ?_
    rw [List.map_map]
    rfl
  prints := fun consumed _ _ _ => flatMap_nothing consumed

end WordCountTopology

theorem FilterTopology.behaves_FilterBolt :
    Behaves FilterBolt false ⟨.each FilterTopology.write, fun _ => []⟩ :=
  .of_writes FilterTopology.writes
    fun consumed _ _ _ => flatMap_nothing consumed

/-- Every line is joined with every word of the local stream. -/
def JoinTopology.joining : Behaviour where
  operator := .each fun data => localStream.map fun str => data ++ [str]
  print := fun _ => []

theorem JoinTopology.behaves_JoinBolt : Behaves JoinBolt false joining :=
  .of_writes JoinTopology.writes
    fun consumed _ _ _ => flatMap_nothing consumed

/-- The first fields of a tuple are printed, and nothing is written. -/
def printing (columns : Nat) : Behaviour where
  operator := .each fun _ => []
  print := fun data => [data.take columns]

theorem behaves_printer : Behaves (printer columns) false (printing columns) := by
  apply Behaves.of_writes
  · intro consumed node produced runs
    have nothing := Transducer.outputs_eq_flatMap (fun _ : Tuple => [])
      (by
        intro file tuple next outputs stepped
        obtain ⟨_, printed⟩ := Option.ite_none_right_eq_some.mp stepped
        exact (Prod.mk.inj (Option.some.inj printed)).2.symm)
      runs
    rw [nothing, List.map_flatMap]
    rfl
  · intro consumed node produced runs
    rw [outFile_of_run_printer rfl runs, List.map_eq_flatMap]

end Classes

end Streaming
end CraneSps
