import CraneSps.Master.FileMap
import Mathlib.Data.List.Dedup
import Mathlib.Data.List.Sort

/-!
# Choosing the targets and the source of a replication

`replicateFile` draws random members until it has as many targets as are
missing and a source.  The draws are an argument here, and the loops run out
of them where the code goes on drawing.  A call is well defined exactly if the
holders the map knows are members, at most three, and not none of them.
-/

namespace CraneSps
namespace Master

open FileTransfer

variable {Id : Type}

/-- `static_cast<unsigned int>`. -/
def toUnsigned (value : Int) : Nat :=
  (value % 2 ^ 32).toNat

theorem toUnsigned_of_lt
    {value : Int} (nonneg : 0 ≤ value) (bound : value < 2 ^ 32) :
    (toUnsigned value : Int) = value := by
  unfold toUnsigned
  omega

/-- `members[rand() % numMembers]`. -/
def drawMember (members : List Id) (draw : Nat) : Option Id :=
  members[draw % members.length]?

/-- Every member can be drawn. -/
theorem exists_draw
    {members : List Id} {id : Id} (isMember : id ∈ members) :
    ∃ draw, drawMember members draw = some id := by
  obtain ⟨draw, bound, isDrawn⟩ := List.mem_iff_getElem.mp isMember
  refine ⟨draw, ?_⟩
  rw [drawMember, Nat.mod_eq_of_lt bound, List.getElem?_eq_getElem bound,
    isDrawn]

theorem mem_of_drawMember
    {members : List Id} {draw : Nat} {id : Id}
    (drawn : drawMember members draw = some id) :
    id ∈ members :=
  List.mem_of_getElem? drawn

variable [DecidableEq Id]

/-- The number of targets, an `int`. -/
def numTargets
    (fileMap : FileMap Id) (members : List Id) (filename : String) : Int :=
  min (members.length : Int) 3 - fileMap.countReplicates filename

/-- The target loops: members with the file are drawn again, and a target that
is drawn twice counts once. -/
def pickTargets
    (fileMap : FileMap Id) (members : List Id) (filename : String)
    (wanted : Nat) : Finset Id → List Nat → Option (Finset Id × List Nat)
  | targets, [] => if wanted ≤ targets.card then some (targets, []) else none
  | targets, draw :: draws =>
      if wanted ≤ targets.card then some (targets, draw :: draws)
      else
        match drawMember members draw with
        | some target =>
            if fileMap.hasFile target filename then
              pickTargets fileMap members filename wanted targets draws
            else
              pickTargets fileMap members filename wanted
                (insert target targets) draws
        | none => none

/-- The source loop. -/
def pickSource
    (fileMap : FileMap Id) (members : List Id) (filename : String) :
    List Nat → Option Id
  | [] => none
  | draw :: draws =>
      match drawMember members draw with
      | some source =>
          if fileMap.hasFile source filename then some source
          else pickSource fileMap members filename draws
      | none => none

/-- What is chosen for a replication: the source that gets the `REPLICATE`
command, and the targets it names. -/
structure Replication (Id : Type) where
  source : Id
  targets : Finset Id

/-- `replicateFile`: the outer option is `none` when the draws run out, the
inner one when no command is needed. -/
def replicateFile
    (fileMap : FileMap Id) (members : List Id) (filename : String)
    (draws : List Nat) : Option (Option (Replication Id)) :=
  let missing := numTargets fileMap members filename
  if missing = 0 then some none
  else
    (pickTargets fileMap members filename (toUnsigned missing) ∅ draws).bind
      fun (targets, draws) =>
        (pickSource fileMap members filename draws).map fun source =>
          some { source := source, targets := targets }

/-- The names in the entries of the members, the set of `reReplicate`. -/
def FileMap.memberFiles
    (fileMap : FileMap Id) (members : List Id) : List String :=
  (members.flatMap fun id =>
    (fileMap.files id).map FileInfo.name).dedup.insertionSort (· ≤ ·)

/-- The members that have the file. -/
def memberHolders
    (fileMap : FileMap Id) (members : List Id) (filename : String) : List Id :=
  members.filter fun id => fileMap.hasFile id filename

/-- The targets of a command, if there is one. -/
def commandTargets : Option (Replication Id) → Finset Id
  | some command => command.targets
  | none => ∅

/-- A call of `replicateFile` can finish and chooses what it should. -/
structure WellDefined
    (fileMap : FileMap Id) (members : List Id) (filename : String) :
    Prop where
  nonneg : 0 ≤ numTargets fileMap members filename
  finishes : ∃ draws outcome,
    replicateFile fileMap members filename draws = some outcome
  targets : ∀ draws command,
    replicateFile fileMap members filename draws = some (some command) →
      ∀ target ∈ command.targets,
        target ∈ members ∧ fileMap.hasFile target filename = false
  source : ∀ draws command,
    replicateFile fileMap members filename draws = some (some command) →
      command.source ∈ members ∧
        fileMap.hasFile command.source filename = true
  balance : ∀ draws outcome,
    replicateFile fileMap members filename draws = some outcome →
      (memberHolders fileMap members filename).length +
        (commandTargets outcome).card = min members.length 3

/-- The holders of the file are members, at most three, and there is one if
there are members at all. -/
structure ProperlyHeld
    (fileMap : FileMap Id) (members : List Id) (filename : String) :
    Prop where
  areMembers : ∀ id, fileMap.hasFile id filename = true → id ∈ members
  few : fileMap.countReplicates filename ≤ 3
  held : fileMap.countReplicates filename ≠ 0 ∨ members = []

variable {fileMap : FileMap Id} {members : List Id} {filename : String}

/-! ## The drawing loops -/

/-- The loop ends with as many targets as wanted, all of them drawn members
without the file. -/
theorem pickTargets_spec
    {wanted : Nat} {targets chosen : Finset Id} {draws rest : List Nat}
    (picked : pickTargets fileMap members filename wanted targets draws =
      some (chosen, rest))
    (notMore : targets.card ≤ wanted) :
    chosen.card = wanted ∧ ∀ target ∈ chosen, target ∈ targets ∨
      (target ∈ members ∧ fileMap.hasFile target filename = false) := by
  induction draws generalizing targets with
  | nil =>
      rw [pickTargets] at picked
      split at picked
      · next enough =>
          obtain ⟨rfl, _⟩ := Prod.mk.inj (Option.some.inj picked)
          exact ⟨le_antisymm notMore enough, fun _ isTarget => .inl isTarget⟩
      · cases picked
  | cons draw draws inductionHypothesis =>
      rw [pickTargets] at picked
      split at picked
      · next enough =>
          obtain ⟨rfl, _⟩ := Prod.mk.inj (Option.some.inj picked)
          exact ⟨le_antisymm notMore enough, fun _ isTarget => .inl isTarget⟩
      · next missing =>
          split at picked
          · next target drawn =>
              split at picked
              · exact inductionHypothesis picked notMore
              · next without =>
                  have room : (insert target targets).card ≤ wanted :=
                    (Finset.card_insert_le _ _).trans (by omega)
                  obtain ⟨card, origin⟩ := inductionHypothesis picked room
                  refine ⟨card, fun other isChosen => ?_⟩
                  rcases origin other isChosen with inserted | fresh
                  · rcases Finset.mem_insert.mp inserted with rfl | old
                    · exact .inr ⟨mem_of_drawMember drawn, by simpa using without⟩
                    · exact .inl old
                  · exact .inr fresh
          · cases picked

/-- Suitable draws bring any choice of targets. -/
theorem exists_draws_targets
    (candidates : List Id) (targets : Finset Id) {wanted : Nat}
    (distinct : candidates.Nodup)
    (areMembers : ∀ id ∈ candidates, id ∈ members)
    (without : ∀ id ∈ candidates, fileMap.hasFile id filename = false)
    (fresh : ∀ id ∈ candidates, id ∉ targets)
    (exact : targets.card + candidates.length = wanted) :
    ∃ draws, ∀ rest,
      pickTargets fileMap members filename wanted targets (draws ++ rest) =
        some (candidates.toFinset ∪ targets, rest) := by
  induction candidates generalizing targets with
  | nil =>
      refine ⟨[], fun rest => ?_⟩
      have enough : wanted ≤ targets.card := by simpa using exact.ge
      cases rest <;> simp [pickTargets, enough]
  | cons candidate candidates inductionHypothesis =>
      obtain ⟨draw, drawn⟩ := exists_draw (areMembers candidate (by simp))
      have notTarget : candidate ∉ targets := fresh candidate (by simp)
      obtain ⟨notLater, laterDistinct⟩ := List.nodup_cons.mp distinct
      have counted : (insert candidate targets).card + candidates.length =
          wanted := by
        rw [Finset.card_insert_of_notMem notTarget]
        simp only [List.length_cons] at exact
        omega
      obtain ⟨draws, picked⟩ :=
        inductionHypothesis (insert candidate targets) laterDistinct
          (fun id later => areMembers id (List.mem_cons_of_mem _ later))
          (fun id later => without id (List.mem_cons_of_mem _ later))
          (fun id later => by
            rw [Finset.mem_insert, not_or]
            exact ⟨fun same => notLater (same ▸ later),
              fresh id (List.mem_cons_of_mem _ later)⟩)
          counted
      refine ⟨draw :: draws, fun rest => ?_⟩
      have missing : ¬ wanted ≤ targets.card := by
        simp only [List.length_cons] at exact
        omega
      rw [List.cons_append, pickTargets, if_neg missing]
      simp only [drawn, without candidate List.mem_cons_self]
      rw [List.toFinset_cons, Finset.insert_union, ← Finset.union_insert]
      exact picked rest

theorem pickSource_spec
    {draws : List Nat} {source : Id}
    (picked : pickSource fileMap members filename draws = some source) :
    source ∈ members ∧ fileMap.hasFile source filename = true := by
  induction draws with
  | nil => nomatch picked
  | cons draw draws inductionHypothesis =>
      rw [pickSource] at picked
      split at picked
      · next drawnSource drawn =>
          split at picked
          · next holds =>
              obtain rfl := Option.some.inj picked
              exact ⟨mem_of_drawMember drawn, holds⟩
          · exact inductionHypothesis picked
      · cases picked

theorem exists_draws_source
    {source : Id} (isMember : source ∈ members)
    (holds : fileMap.hasFile source filename = true) :
    ∃ draws, pickSource fileMap members filename draws = some source := by
  obtain ⟨draw, drawn⟩ := exists_draw isMember
  refine ⟨[draw], ?_⟩
  simp [pickSource, drawn, holds]

/-! ## Calls -/

/-- Any choice that carries as many targets as the subtraction says can be
drawn. -/
theorem exists_draws_command
    {targets : Finset Id} {source : Id}
    (missing : numTargets fileMap members filename ≠ 0)
    (card : targets.card =
      toUnsigned (numTargets fileMap members filename))
    (chosen : ∀ target ∈ targets,
      target ∈ members ∧ fileMap.hasFile target filename = false)
    (isMember : source ∈ members)
    (holds : fileMap.hasFile source filename = true) :
    ∃ draws, replicateFile fileMap members filename draws =
      some (some ⟨source, targets⟩) := by
  obtain ⟨draws, picked⟩ : ∃ draws, ∀ rest,
      pickTargets fileMap members filename
          (toUnsigned (numTargets fileMap members filename)) ∅
          (draws ++ rest) =
        some (targets.toList.toFinset ∪ ∅, rest) :=
    exists_draws_targets targets.toList ∅ targets.nodup_toList
      (fun id isTarget => (chosen id (Finset.mem_toList.mp isTarget)).1)
      (fun id isTarget => (chosen id (Finset.mem_toList.mp isTarget)).2)
      (fun id _ => Finset.notMem_empty id)
      (by rw [Finset.card_empty, Finset.length_toList, card, Nat.zero_add])
  obtain ⟨sourceDraws, drawn⟩ := exists_draws_source isMember holds
  refine ⟨draws ++ sourceDraws, ?_⟩
  simp [replicateFile, missing, picked, drawn]

/-- A command carries as many targets as the subtraction says. -/
theorem replicateFile_spec
    {draws : List Nat} {command : Replication Id}
    (called : replicateFile fileMap members filename draws =
      some (some command)) :
    command.targets.card =
        toUnsigned (numTargets fileMap members filename) ∧
      (∀ target ∈ command.targets,
        target ∈ members ∧ fileMap.hasFile target filename = false) ∧
      command.source ∈ members ∧
        fileMap.hasFile command.source filename = true := by
  simp only [replicateFile] at called
  split at called
  · cases called
  · simp only [Option.bind_eq_some_iff, Option.map_eq_some_iff] at called
    obtain ⟨⟨targets, rest⟩, picked, source, drawn, isCommand⟩ := called
    obtain rfl := Option.some.inj isCommand
    obtain ⟨card, chosen⟩ := pickTargets_spec picked (Nat.zero_le _)
    refine ⟨card, fun target isTarget => ?_, pickSource_spec drawn⟩
    rcases chosen target isTarget with nothing | fresh
    · exact absurd nothing (Finset.notMem_empty target)
    · exact fresh

/-- No command is sent exactly when no target is missing. -/
theorem replicateFile_eq_none_iff
    {draws : List Nat}
    {outcome : Option (Replication Id)}
    (called : replicateFile fileMap members filename draws = some outcome) :
    outcome = none ↔ numTargets fileMap members filename = 0 := by
  simp only [replicateFile] at called
  split at called
  · next enough =>
      obtain rfl := Option.some.inj called
      simp [enough]
  · next missing =>
      simp only [Option.bind_eq_some_iff, Option.map_eq_some_iff] at called
      obtain ⟨_, _, _, _, rfl⟩ := called
      simp [missing]

/-- The members with the file are among those the map counts. -/
theorem memberHolders_subset :
    (memberHolders fileMap members filename).toFinset ⊆
      fileMap.holders filename := by
  intro id isHolder
  rw [List.mem_toFinset, memberHolders, List.mem_filter] at isHolder
  exact FileMap.mem_holders_iff.mpr isHolder.2

theorem memberHolders_card
    (distinct : members.Nodup) :
    (memberHolders fileMap members filename).toFinset.card =
      (memberHolders fileMap members filename).length :=
  List.toFinset_card_of_nodup (distinct.filter _)

/-- They are all of them exactly if every holder is a member. -/
theorem memberHolders_length_eq_iff
    (distinct : members.Nodup) :
    (memberHolders fileMap members filename).length =
        fileMap.countReplicates filename ↔
      ∀ id, fileMap.hasFile id filename = true → id ∈ members := by
  rw [← memberHolders_card distinct]
  constructor
  · intro sameCard id holds
    have same := Finset.eq_of_subset_of_card_le memberHolders_subset
      sameCard.ge
    have isHolder : id ∈ (memberHolders fileMap members filename).toFinset :=
      same ▸ FileMap.mem_holders_iff.mpr holds
    rw [List.mem_toFinset, memberHolders, List.mem_filter] at isHolder
    exact isHolder.1
  · intro areMembers
    apply congrArg Finset.card
    refine Finset.Subset.antisymm memberHolders_subset fun id isHolder => ?_
    have holds := FileMap.mem_holders_iff.mp isHolder
    rw [List.mem_toFinset, memberHolders, List.mem_filter]
    exact ⟨areMembers id holds, holds⟩

/-- The members without the file are the others. -/
theorem length_without
    (fileMap : FileMap Id) (members : List Id) (filename : String) :
    (memberHolders fileMap members filename).length +
        (members.filter fun id => !fileMap.hasFile id filename).length =
      members.length :=
  (List.length_eq_length_filter_add
    (fun id => fileMap.hasFile id filename) (l := members)).symm

/-- A properly held file leaves at most as many targets as there are members
without it. -/
theorem ProperlyHeld.numTargets_eq
    (held : ProperlyHeld fileMap members filename)
    (distinct : members.Nodup) :
    ∃ missing : Nat, numTargets fileMap members filename = missing ∧
      (memberHolders fileMap members filename).length + missing =
        min members.length 3 := by
  have all := (memberHolders_length_eq_iff distinct).mpr held.areMembers
  have split := length_without fileMap members filename
  have few := held.few
  unfold numTargets
  refine ⟨min members.length 3 - fileMap.countReplicates filename, ?_, ?_⟩
  · omega
  · omega

/-- A call on a properly held file can finish. -/
theorem ProperlyHeld.finishes
    (held : ProperlyHeld fileMap members filename)
    (distinct : members.Nodup) :
    ∃ draws outcome,
      replicateFile fileMap members filename draws = some outcome := by
  obtain ⟨missing, isMissing, balance⟩ := held.numTargets_eq distinct
  by_cases enough : missing = 0
  · exact ⟨[], none, by simp [replicateFile, isMissing, enough]⟩
  · have unsigned : toUnsigned (numTargets fileMap members filename) =
        missing := by
      have cast := toUnsigned_of_lt
        (show (0 : Int) ≤ numTargets fileMap members filename by omega)
        (by omega)
      omega
    obtain ⟨source, isHolder⟩ : ∃ source,
        source ∈ fileMap.holders filename := by
      rcases held.held with some | none
      · exact Finset.card_ne_zero.mp some
      · rw [none] at balance
        simp at balance
        omega
    have holds := FileMap.mem_holders_iff.mp isHolder
    let candidates := members.filter fun id => !fileMap.hasFile id filename
    have card : (candidates.take missing).toFinset.card = missing := by
      have split :
          (memberHolders fileMap members filename).length +
            candidates.length = members.length :=
        length_without fileMap members filename
      rw [List.toFinset_card_of_nodup
        ((distinct.filter _).sublist (List.take_sublist _ _)),
        List.length_take]
      change min missing candidates.length = missing
      omega
    obtain ⟨draws, called⟩ := exists_draws_command
      (show numTargets fileMap members filename ≠ 0 by omega)
      (card.trans unsigned.symm)
      (fun target isTarget => by
        have isCandidate := List.mem_of_mem_take (List.mem_toFinset.mp isTarget)
        simpa [candidates] using isCandidate)
      (held.areMembers source holds) holds
    exact ⟨draws, _, called⟩

/-- The number of targets of a command is the one computed, unless that is
negative. -/
theorem card_targets
    {draws : List Nat} {command : Replication Id}
    (called : replicateFile fileMap members filename draws =
      some (some command))
    (nonneg : 0 ≤ numTargets fileMap members filename) :
    (command.targets.card : Int) = numTargets fileMap members filename := by
  rw [(replicateFile_spec called).1]
  apply toUnsigned_of_lt nonneg
  unfold numTargets
  omega

/-- A well-defined call is one on a properly held file. -/
theorem WellDefined.properlyHeld
    (wellDefined : WellDefined fileMap members filename)
    (distinct : members.Nodup) :
    ProperlyHeld fileMap members filename := by
  obtain ⟨draws, outcome, called⟩ := wellDefined.finishes
  have nonneg := wellDefined.nonneg
  have balance := wellDefined.balance draws outcome called
  cases outcome with
  | none =>
      have enough := (replicateFile_eq_none_iff called).mp rfl
      simp only [commandTargets, Finset.card_empty] at balance
      unfold numTargets at enough
      refine
        { areMembers := ?_
          few := by omega
          held := ?_ }
      · apply (memberHolders_length_eq_iff distinct).mp
        omega
      · by_cases nobody : members.length = 0
        · exact .inr (List.length_eq_zero_iff.mp nobody)
        · left
          omega
  | some command =>
      have card := card_targets called nonneg
      have source := (replicateFile_spec called).2.2
      simp only [commandTargets] at balance
      unfold numTargets at card
      refine
        { areMembers := ?_
          few := by omega
          held := .inl ?_ }
      · apply (memberHolders_length_eq_iff distinct).mp
        omega
      · exact Finset.card_ne_zero_of_mem
          (FileMap.mem_holders_iff.mpr source.2)

/-- Exactly the calls on properly held files are well defined. -/
theorem wellDefined_iff
    (distinct : members.Nodup) :
    WellDefined fileMap members filename ↔
      ProperlyHeld fileMap members filename := by
  refine ⟨fun wellDefined => wellDefined.properlyHeld distinct,
    fun held => ?_⟩
  obtain ⟨missing, isMissing, balance⟩ := held.numTargets_eq distinct
  have nonneg : 0 ≤ numTargets fileMap members filename := by omega
  exact
    { nonneg := nonneg
      finishes := held.finishes distinct
      targets := fun _ _ called => (replicateFile_spec called).2.1
      source := fun _ _ called => (replicateFile_spec called).2.2
      balance := by
        intro draws outcome called
        cases outcome with
        | none =>
            have enough := (replicateFile_eq_none_iff called).mp rfl
            simp only [commandTargets, Finset.card_empty]
            omega
        | some command =>
            have card := card_targets called nonneg
            simp only [commandTargets]
            omega }

end Master
end CraneSps
