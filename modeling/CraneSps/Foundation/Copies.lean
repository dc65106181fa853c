import CraneSps.Foundation.Operators
import CraneSps.Foundation.Transducer

/-!
# Copies of a transducer

Several copies of a transducer read a part of the inputs each.  If what is
written for an input does not depend on the state, the copies together write
what one of them would write.  If the transducer is keyed, so do copies that
read all inputs with a key, up to the order.
-/

namespace Transducer

variable {State View Input Output Key Result : Type*}
variable {machine : Transducer State Input Output}
variable {copies : List (List Input × List Output)}

/-- What the copies have written for what they have read. -/
def Ran
    (machine : Transducer State Input Output)
    (copies : List (List Input × List Output)) : Prop :=
  ∀ copy ∈ copies, ∃ final, machine.run copy.1 = some (final, copy.2)

/-- No key has been read by two copies. -/
def Apart
    (key : Input → Key) (copies : List (List Input × List Output)) : Prop :=
  copies.Pairwise fun first second =>
    ∀ input ∈ first.1, ∀ other ∈ second.1, key input ≠ key other

variable [DecidableEq Key]
variable {keyIn : Input → Key} {keyOut : Output → Key}
variable {result : Output → Result} {view : Key → State → View}
variable {part : Key → View → View × List Result}

/-- A part that is applied more often writes more. -/
theorem iterate_sublist
    (part : View → View × List Result) {fewer more : Nat}
    (atMost : fewer ≤ more) (start : View) :
    (iterate part fewer start).Sublist (iterate part more start) := by
  induction fewer generalizing more start with
  | zero => exact List.nil_sublist _
  | succ fewer inductionHypothesis =>
      cases more with
      | zero => cases atMost
      | succ more =>
          exact (List.Sublist.refl _).append
            (inductionHypothesis (Nat.le_of_succ_le_succ atMost) _)

omit [DecidableEq Key] in
/-- An output has the key of an input. -/
theorem Keyed.exists_input
    (keyed : machine.Keyed keyIn keyOut result view part)
    {state final : State} {inputs : List Input} {outputs : List Output}
    (runs : machine.runFrom state inputs = some (final, outputs)) :
    ∀ output ∈ outputs, ∃ input ∈ inputs, keyOut output = keyIn input := by
  induction inputs generalizing state outputs with
  | nil =>
      obtain ⟨_, rfl⟩ := Prod.mk.inj (Option.some.inj runs)
      exact nofun
  | cons input inputs inductionHypothesis =>
      obtain ⟨next, first, rest, stepped, later, rfl⟩ :=
        runFrom_cons_eq_some_iff.mp runs
      intro output isOutput
      rcases List.mem_append.mp isOutput with isFirst | isLater
      · exact ⟨input, List.mem_cons_self,
          keyed.keys _ _ _ _ stepped output isFirst⟩
      · obtain ⟨other, isInput, same⟩ :=
          inductionHypothesis later output isLater
        exact ⟨other, List.mem_cons_of_mem _ isInput, same⟩

/-- The results of one copy for a key. -/
theorem Keyed.filter_copy
    (keyed : machine.Keyed keyIn keyOut result view part)
    {final : State} {inputs : List Input} {outputs : List Output}
    (runs : machine.run inputs = some (final, outputs)) (key : Key) :
    (outputs.filter fun output => keyOut output = key).map result =
      iterate (part key) ((inputs.map keyIn).count key)
        (view key machine.initial) := by
  rw [keyed.filter_outputs runs key, List.count, List.countP_map,
    List.countP_eq_length_filter]
  congr 2

/-- Only one copy has written results for a key. -/
theorem Keyed.filter_copies
    (keyed : machine.Keyed keyIn keyOut result view part)
    (ran : machine.Ran copies) (apart : Apart keyIn copies) (key : Key) :
    ((copies.flatMap Prod.snd).filter fun output =>
        keyOut output = key).map result =
      iterate (part key) (((copies.flatMap Prod.fst).map keyIn).count key)
        (view key machine.initial) := by
  induction copies with
  | nil => rfl
  | cons copy copies inductionHypothesis =>
      obtain ⟨here, later⟩ := List.pairwise_cons.mp apart
      obtain ⟨⟨final, isCopy⟩, others⟩ := List.forall_mem_cons.mp ran
      have others := inductionHypothesis others later
      rw [List.flatMap_cons, List.filter_append, List.map_append, others,
        keyed.filter_copy isCopy, List.flatMap_cons, List.map_append,
        List.count_append]
      by_cases isKey : key ∈ copy.1.map keyIn
      · have elsewhere :
            ((copies.flatMap Prod.fst).map keyIn).count key = 0 := by
          apply List.count_eq_zero.mpr
          intro alsoKey
          obtain ⟨input, isInput, isFirst⟩ := List.mem_map.mp isKey
          obtain ⟨other, isOther, isSecond⟩ := List.mem_map.mp alsoKey
          obtain ⟨second, present, inSecond⟩ := List.mem_flatMap.mp isOther
          exact here second present input isInput other inSecond
            (isFirst.trans isSecond.symm)
        rw [elsewhere]
        exact List.append_nil _
      · rw [List.count_eq_zero.mpr isKey, Nat.zero_add]
        rfl

/-- What copies write that read all inputs with a key. -/
def Keyed.operator
    {Token : Type*} (start : Key → View) (key : Token → Key)
    (part : Key → View → View × List Token) : Dataflow.Operator Token :=
  .counting key (fun wanted count => iterate (part wanted) count (start wanted))
    fun wanted _ _ atMost => iterate_sublist (part wanted) atMost _

theorem Keyed.write_operator
    {Token : Type*} (start : Key → View) (key : Token → Key)
    (part : Key → View → View × List Token) (tokens : List Token) :
    (operator start key part).write tokens =
      (tokens.map key).dedup.flatMap fun wanted =>
        iterate (part wanted) ((tokens.map key).count wanted)
          (start wanted) :=
  rfl

/-- Copies that read all inputs with a key write, up to the order, something
for each key that depends on the number of the inputs with the key. -/
theorem Keyed.perm_copies
    (keyed : machine.Keyed keyIn keyOut result view part)
    (ran : machine.Ran copies) (apart : Apart keyIn copies) :
    ((copies.flatMap Prod.snd).map result).Perm
      (((copies.flatMap Prod.fst).map keyIn).dedup.flatMap fun key =>
        iterate (part key) (((copies.flatMap Prod.fst).map keyIn).count key)
          (view key machine.initial)) := by
  have present : ∀ output ∈ copies.flatMap Prod.snd,
      keyOut output ∈ ((copies.flatMap Prod.fst).map keyIn).dedup := by
    intro output isOutput
    obtain ⟨copy, isCopy, inCopy⟩ := List.mem_flatMap.mp isOutput
    obtain ⟨final, runs⟩ := ran copy isCopy
    obtain ⟨input, isInput, same⟩ := keyed.exists_input runs output inCopy
    rw [same, List.mem_dedup]
    exact List.mem_map.mpr
      ⟨input, List.mem_flatMap.mpr ⟨copy, isCopy, isInput⟩, rfl⟩
  have cut := (List.perm_flatMap_filter keyOut (copies.flatMap Prod.snd)
    (List.nodup_dedup ((copies.flatMap Prod.fst).map keyIn))).map result
  rw [List.filter_eq_self.mpr fun output isOutput =>
    decide_eq_true (present output isOutput), List.map_flatMap] at cut
  refine cut.symm.trans (List.Perm.of_eq ?_)
  apply List.flatMap_congr
  intro key _
  exact keyed.filter_copies ran apart key

end Transducer
