import CraneSps.Foundation.ListUpdate
import CraneSps.Foundation.TransitionSystem
import CraneSps.Master.Replication
import Mathlib.Data.List.Dedup
import Mathlib.Data.List.Sort

/-!
# Runs of the master

The service thread of the master, the threads that handle failures and the
membership list change independently.  A call of `replicateFile` is a step of
its own, so that anything can happen between the decision to make it and the
reading of the membership list in it.
-/

namespace CraneSps
namespace Master

open FileTransfer

variable {Id : Type} [LinearOrder Id]

/-- The master and its view of the group. -/
structure State (Id : Type) [LinearOrder Id] where
  fileMap : FileMap Id
  /-- `DMember::membershipList`, in the order of the ids. -/
  members : List Id
  /-- The nodes of the `NodeFailEvent`s whose threads have not run yet. -/
  failing : List Id
  /-- The calls of `replicateFile` that are about to be made. -/
  calls : List String

/-- What can happen at the master. -/
inductive Action (Id : Type)
  /-- A `PUT` request of a node. -/
  | put (id : Id) (info : FileInfo)
  /-- An `UPDATE` request of a node. -/
  | update (id : Id) (info : FileInfo)
  /-- A `DEL` request. -/
  | delete (filename : String)
  /-- In `start`, the reply of a member to the `LIST` command. -/
  | list (id : Id) (infos : List FileInfo)
  /-- The end of `start`. -/
  | reReplicate
  | join (id : Id)
  /-- A member disappears from the membership list. -/
  | leave (id : Id)
  /-- `handle(NodeFailEvent)` spawns its thread. -/
  | nodeFail (id : Id)
  /-- That thread clears the entry of the node and re-replicates. -/
  | handleFail (id : Id)
  /-- `replicateFile` is called. -/
  | replicate (filename : String)
  deriving DecidableEq

namespace State

/-- A master that knows no members and no files. -/
def initial : State Id where
  fileMap := .empty
  members := []
  failing := []
  calls := []

/-- `reReplicate`, up to its calls. -/
def reReplicate (state : State Id) : State Id :=
  { state with
    calls := state.calls ++ state.fileMap.memberFiles state.members }

/-- One step of the master. -/
def step (state : State Id) : Action Id → Option (State Id)
  | .put id info =>
      if state.fileMap.countReplicates info.name = 0 then
        some
          { state with
            fileMap := state.fileMap.addToFileMap id info
            calls := state.calls ++ [info.name] }
      else some state
  | .update id info =>
      some { state with fileMap := state.fileMap.addToFileMap id info }
  | .delete filename =>
      if state.fileMap.countReplicates filename = 0 then some state
      else
        some
          { state with
            fileMap := state.fileMap.deleteFile state.members filename }
  | .list id infos =>
      some { state with fileMap := state.fileMap.processListReply id infos }
  | .reReplicate => some state.reReplicate
  | .join id =>
      if id ∈ state.members then none
      else
        some
          { state with members := state.members.orderedInsert (· ≤ ·) id }
  | .leave id =>
      if id ∈ state.members then
        some { state with members := state.members.erase id }
      else none
  | .nodeFail id => some { state with failing := state.failing ++ [id] }
  | .handleFail id =>
      if id ∈ state.failing then
        some
          { state with
            fileMap := state.fileMap.set id []
            failing := state.failing.erase id }.reReplicate
      else none
  | .replicate filename =>
      if filename ∈ state.calls then
        some { state with calls := state.calls.erase filename }
      else none

/-- Every outcome of a step, with what selects it. -/
inductive Transition (state : State Id) : Action Id → State Id → Prop
  | approvePut {id : Id} {info : FileInfo}
      (unknown : state.fileMap.countReplicates info.name = 0) :
      Transition state (.put id info)
        { state with
          fileMap := state.fileMap.addToFileMap id info
          calls := state.calls ++ [info.name] }
  | refusePut {id : Id} {info : FileInfo}
      (known : state.fileMap.countReplicates info.name ≠ 0) :
      Transition state (.put id info) state
  | update {id : Id} {info : FileInfo} :
      Transition state (.update id info)
        { state with fileMap := state.fileMap.addToFileMap id info }
  | deleteUnknown {filename : String}
      (unknown : state.fileMap.countReplicates filename = 0) :
      Transition state (.delete filename) state
  | delete {filename : String}
      (known : state.fileMap.countReplicates filename ≠ 0) :
      Transition state (.delete filename)
        { state with
          fileMap := state.fileMap.deleteFile state.members filename }
  | list {id : Id} {infos : List FileInfo} :
      Transition state (.list id infos)
        { state with fileMap := state.fileMap.processListReply id infos }
  | reReplicate : Transition state .reReplicate state.reReplicate
  | join {id : Id} (isNew : id ∉ state.members) :
      Transition state (.join id)
        { state with members := state.members.orderedInsert (· ≤ ·) id }
  | leave {id : Id} (isMember : id ∈ state.members) :
      Transition state (.leave id)
        { state with members := state.members.erase id }
  | nodeFail {id : Id} :
      Transition state (.nodeFail id)
        { state with failing := state.failing ++ [id] }
  | handleFail {id : Id} (isFailing : id ∈ state.failing) :
      Transition state (.handleFail id)
        { state with
          fileMap := state.fileMap.set id []
          failing := state.failing.erase id }.reReplicate
  | replicate {filename : String} (isCall : filename ∈ state.calls) :
      Transition state (.replicate filename)
        { state with calls := state.calls.erase filename }

/-- A step is one of the listed transitions. -/
theorem transition_of_step
    {state next : State Id} {action : Action Id}
    (stepped : state.step action = some next) :
    Transition state action next := by
  cases action with
  | put id info =>
      simp only [step] at stepped
      split at stepped
      · next unknown => exact Option.some.inj stepped ▸ .approvePut unknown
      · next known => exact Option.some.inj stepped ▸ .refusePut known
  | update id info => exact Option.some.inj stepped ▸ .update
  | delete filename =>
      simp only [step] at stepped
      split at stepped
      · next unknown => exact Option.some.inj stepped ▸ .deleteUnknown unknown
      · next known => exact Option.some.inj stepped ▸ .delete known
  | list id infos => exact Option.some.inj stepped ▸ .list
  | reReplicate => exact Option.some.inj stepped ▸ .reReplicate
  | join id =>
      simp only [step, Option.ite_none_left_eq_some, Option.some.injEq]
        at stepped
      obtain ⟨isNew, rfl⟩ := stepped
      exact .join isNew
  | leave id =>
      simp only [step, Option.ite_none_right_eq_some, Option.some.injEq]
        at stepped
      obtain ⟨isMember, rfl⟩ := stepped
      exact .leave isMember
  | nodeFail id => exact Option.some.inj stepped ▸ .nodeFail
  | handleFail id =>
      simp only [step, Option.ite_none_right_eq_some, Option.some.injEq]
        at stepped
      obtain ⟨isFailing, rfl⟩ := stepped
      exact .handleFail isFailing
  | replicate filename =>
      simp only [step, Option.ite_none_right_eq_some, Option.some.injEq]
        at stepped
      obtain ⟨isCall, rfl⟩ := stepped
      exact .replicate isCall

end State

/-- The master, from its start. -/
def system : TransitionSystem (State Id) (Action Id) where
  initial := State.initial
  step := State.step

/-- The node may be registered as a holder without a fourth one. -/
def HasRoom (state : State Id) (id : Id) (filename : String) : Prop :=
  state.fileMap.hasFile id filename = true ∨
    state.fileMap.countReplicates filename < 3

instance (state : State Id) (id : Id) (filename : String) :
    Decidable (HasRoom state id filename) := by
  unfold HasRoom
  infer_instance

/-- Only current members are registered as holders and never a fourth one; a
member leaves with an empty entry unless its failure is going to be handled;
and a file is replicated only when no holder that has left is still registered
for a failure to be handled, and some holder is registered. -/
def Proper (state : State Id) : Action Id → Prop
  | .put id info =>
      state.fileMap.countReplicates info.name = 0 → id ∈ state.members
  | .update id info => id ∈ state.members ∧ HasRoom state id info.name
  | .list id infos =>
      ∀ info ∈ infos, id ∈ state.members ∧ HasRoom state id info.name
  | .leave id => state.fileMap.files id = [] ∨ id ∈ state.failing
  | .replicate filename =>
      (∀ id ∈ state.failing, id ∈ state.members ∨
        state.fileMap.hasFile id filename = false) ∧
        (state.fileMap.countReplicates filename ≠ 0 ∨ state.members = [])
  | _ => True

instance (state : State Id) (action : Action Id) :
    Decidable (Proper state action) := by
  rcases action <;> unfold Proper <;> infer_instance

/-- What proper runs preserve. -/
structure Bounded (state : State Id) : Prop where
  distinct : state.members.Nodup
  known : ∀ id filename, state.fileMap.hasFile id filename = true →
    id ∈ state.members ∨ id ∈ state.failing
  few : ∀ filename, state.fileMap.countReplicates filename ≤ 3

namespace Bounded

variable {state next : State Id} {action : Action Id}

theorem initial : Bounded (State.initial : State Id) where
  distinct := List.nodup_nil
  known := nofun
  few := by
    intro filename
    exact Nat.zero_le 3

/-- The file map changes, and every new holder is a member with room. -/
theorem setFileMap
    (bounded : Bounded state) {fileMap : FileMap Id} (calls : List String)
    (id : Id)
    (origin : ∀ other filename, fileMap.hasFile other filename = true →
      state.fileMap.hasFile other filename = true ∨
        (other = id ∧ id ∈ state.members ∧ HasRoom state id filename)) :
    Bounded { state with fileMap := fileMap, calls := calls } where
  distinct := bounded.distinct
  known := by
    intro other filename holds
    rcases origin other filename holds with old | ⟨rfl, isMember, _⟩
    · exact bounded.known other filename old
    · exact .inl isMember
  few := by
    intro filename
    have subset : fileMap.holders filename ⊆
        insert id (state.fileMap.holders filename) := by
      intro other isHolder
      rw [Finset.mem_insert, FileMap.mem_holders_iff]
      rcases origin other filename (FileMap.mem_holders_iff.mp isHolder) with
        old | ⟨same, _⟩
      · exact .inr old
      · exact .inl same
    by_cases added : fileMap.hasFile id filename = true ∧
        state.fileMap.hasFile id filename = false
    · have room : state.fileMap.countReplicates filename < 3 := by
        rcases origin id filename added.1 with old | ⟨_, _, already | room⟩
        · rw [added.2] at old
          nomatch old
        · rw [added.2] at already
          nomatch already
        · exact room
      have card := (Finset.card_le_card subset).trans
        (Finset.card_insert_le _ _)
      exact card.trans room
    · refine le_trans (Finset.card_le_card ?_) (bounded.few filename)
      intro other isHolder
      have holds := FileMap.mem_holders_iff.mp isHolder
      rcases origin other filename holds with old | ⟨rfl, _⟩
      · exact FileMap.mem_holders_iff.mpr old
      · rw [FileMap.mem_holders_iff]
        by_contra without
        exact added ⟨holds, by simpa using without⟩

/-- Holders only disappear. -/
theorem shrink
    (bounded : Bounded state) {fileMap : FileMap Id} (calls : List String)
    (origin : ∀ other filename, fileMap.hasFile other filename = true →
      state.fileMap.hasFile other filename = true) :
    Bounded { state with fileMap := fileMap, calls := calls } where
  distinct := bounded.distinct
  known := fun other filename holds =>
    bounded.known other filename (origin other filename holds)
  few := by
    intro filename
    refine le_trans (Finset.card_le_card ?_) (bounded.few filename)
    intro other isHolder
    rw [FileMap.mem_holders_iff] at isHolder ⊢
    exact origin other filename isHolder

/-- A member with room is registered. -/
theorem addToFileMap
    (bounded : Bounded state) (calls : List String)
    {id : Id} {info : FileInfo}
    (isMember : id ∈ state.members) (room : HasRoom state id info.name) :
    Bounded
      { state with
        fileMap := state.fileMap.addToFileMap id info, calls := calls } := by
  apply bounded.setFileMap _ id
  intro other filename holds
  rcases FileMap.hasFile_addToFileMap.mp holds with ⟨rfl, rfl⟩ | old
  · exact .inr ⟨rfl, isMember, room⟩
  · exact .inl old

/-- The reply of a member replaces its entry. -/
theorem processListReply
    (bounded : Bounded state) {id : Id} {infos : List FileInfo}
    (listed : ∀ info ∈ infos,
      id ∈ state.members ∧ HasRoom state id info.name) :
    Bounded
      { state with fileMap := state.fileMap.processListReply id infos } := by
  apply bounded.setFileMap _ id
  intro other filename holds
  rw [FileMap.hasFile_processListReply] at holds
  split at holds
  · next replaced =>
      rw [listsFile, List.any_eq_true] at holds
      obtain ⟨info, present, isName⟩ := holds
      rw [beq_iff_eq] at isName
      exact .inr ⟨replaced.1, isName ▸ listed info present⟩
  · exact .inl holds

/-- A new member is added to the list. -/
theorem join
    (bounded : Bounded state) {id : Id} (notMember : id ∉ state.members) :
    Bounded
      { state with members := state.members.orderedInsert (· ≤ ·) id } := by
  have inserted := List.perm_orderedInsert (· ≤ ·) id state.members
  exact
    { distinct := inserted.nodup_iff.mpr
        (List.nodup_cons.mpr ⟨notMember, bounded.distinct⟩)
      known := fun other filename holds =>
        (bounded.known other filename holds).imp_left fun isMember =>
          inserted.mem_iff.mpr (List.mem_cons_of_mem _ isMember)
      few := bounded.few }

/-- A member without an entry, or with a pending failure, disappears. -/
theorem leave
    (bounded : Bounded state) {id : Id}
    (proper : state.fileMap.files id = [] ∨ id ∈ state.failing) :
    Bounded { state with members := state.members.erase id } where
  distinct := bounded.distinct.erase id
  known := by
    intro other filename holds
    rcases bounded.known other filename holds with isMember | isFailing
    · by_cases same : other = id
      · subst same
        rcases proper with without | isFailing
        · rw [FileMap.hasFile, without] at holds
          cases holds
        · exact .inr isFailing
      · exact .inl ((List.mem_erase_of_ne same).mpr isMember)
    · exact .inr isFailing
  few := bounded.few

/-- The entry of a failed node is cleared. -/
theorem handleFail
    (bounded : Bounded state) (id : Id) (calls : List String) :
    Bounded
      { state with
        fileMap := state.fileMap.set id []
        failing := state.failing.erase id
        calls := calls } := by
  have remains : ∀ other filename,
      (state.fileMap.set id []).hasFile other filename = true →
        other ≠ id ∧ state.fileMap.hasFile other filename = true := by
    intro other filename holds
    rw [FileMap.hasFile_set] at holds
    split at holds
    · cases holds
    · next differs => exact ⟨differs, holds⟩
  have cleared : Bounded { state with fileMap := state.fileMap.set id [] } :=
    bounded.shrink state.calls fun other filename holds =>
      (remains other filename holds).2
  refine
    { distinct := bounded.distinct
      known := ?_
      few := cleared.few }
  intro other filename holds
  obtain ⟨differs, old⟩ := remains other filename holds
  exact (bounded.known other filename old).imp_right
    (List.mem_erase_of_ne differs).mpr

/-- Every proper step keeps the bounds. -/
theorem step
    (bounded : Bounded state)
    (proper : Proper state action)
    (stepped : state.step action = some next) :
    Bounded next := by
  cases State.transition_of_step stepped with
  | approvePut unknown =>
      exact bounded.addToFileMap _ (proper unknown) (.inr (by omega))
  | update => exact bounded.addToFileMap _ proper.1 proper.2
  | refusePut | deleteUnknown => exact bounded
  | delete =>
      exact bounded.shrink _ fun _ _ holds =>
        FileMap.hasFile_of_deleteFile holds
  | list => exact bounded.processListReply proper
  | join isNew => exact bounded.join isNew
  | leave => exact bounded.leave proper
  | nodeFail =>
      exact
        { distinct := bounded.distinct
          known := fun other filename holds =>
            (bounded.known other filename holds).imp_right
              (List.mem_append_left _)
          few := bounded.few }
  | handleFail => exact bounded.handleFail _ _
  | reReplicate | replicate =>
      exact bounded.shrink _ fun _ _ holds => holds

/-- Bounds and a proper call leave the file properly held. -/
theorem properlyHeld
    (bounded : Bounded state) {filename : String}
    (proper : Proper state (.replicate filename)) :
    ProperlyHeld state.fileMap state.members filename where
  areMembers := by
    intro id holds
    rcases bounded.known id filename holds with isMember | isFailing
    · exact isMember
    · rcases proper.1 id isFailing with isMember | without
      · exact isMember
      · rw [without] at holds
        cases holds
  few := bounded.few filename
  held := proper.2

end Bounded

/-- After proper steps, proper calls of `replicateFile` are well defined. -/
theorem wellDefined_of_proper
    {trace : List (Action Id)} {state : State Id} {filename : String}
    (every : system.Every Proper State.initial trace)
    (runs : system.Runs State.initial trace state)
    (_ : filename ∈ state.calls)
    (proper : Proper state (.replicate filename)) :
    WellDefined state.fileMap state.members filename := by
  have bounded : Bounded state :=
    every.invariant runs Bounded
      (fun _ _ _ bounded met stepped => bounded.step met stepped)
      Bounded.initial
  exact (wellDefined_iff bounded.distinct).mpr (bounded.properlyHeld proper)

/-- Three nodes; a file is put, replicated to the other two, and replicated
again after the failure of one of them. -/
def handledFailure : List (Action Nat) :=
  [.join 1, .join 2, .join 3,
    .put 1 ⟨"f", "", 0⟩, .replicate "f",
    .update 2 ⟨"f", "", 0⟩, .update 3 ⟨"f", "", 0⟩,
    .nodeFail 3, .leave 3, .handleFail 3]

theorem wellDefined_of_handledFailure :
    ∃ state ∈ system.run State.initial handledFailure,
      "f" ∈ state.calls ∧
        WellDefined state.fileMap state.members "f" := by
  have every : system.Every Proper State.initial handledFailure := by decide
  obtain ⟨state, runs, called, proper⟩ :
      ∃ state ∈ system.run State.initial handledFailure,
        "f" ∈ state.calls ∧ Proper state (.replicate "f") := by
    decide
  exact ⟨state, runs, called, wellDefined_of_proper every runs called proper⟩

/-- The same, after the second node has left without a failure. -/
def silentLeave : List (Action Nat) :=
  [.join 1, .join 2, .join 3,
    .put 1 ⟨"f", "", 0⟩, .replicate "f",
    .update 2 ⟨"f", "", 0⟩, .update 3 ⟨"f", "", 0⟩,
    .leave 2, .nodeFail 3, .leave 3, .handleFail 3]

/-- The number of targets is negative: the node that left is still counted. -/
theorem not_wellDefined_of_leave :
    ¬ ∀ (trace : List (Action Nat)) (state : State Nat) (filename : String),
      system.Runs State.initial trace state →
        filename ∈ state.calls →
          WellDefined state.fileMap state.members filename := by
  intro claim
  obtain ⟨state, runs, called, negative⟩ :
      ∃ state ∈ system.run State.initial silentLeave, "f" ∈ state.calls ∧
        numTargets state.fileMap state.members "f" = -1 := by
    decide
  have nonneg := (claim silentLeave state "f" runs called).nonneg
  omega

end Master
end CraneSps
