import CraneSps.Foundation.TransitionSystem
import CraneSps.Master.Members

/-!
# Files survive failures

The file service with members that come and fail, a master that replicates
again what a failed member had, and new masters that list the files of the
members.  Three nodes register a file, and at most two failures wait to be
handled, so there always are members that have registered what has been put and
not been deleted.  They also have it, as long as no empty file is put and the
shell of a node that gets a file to a path can use the paths.
-/

namespace CraneSps
namespace Master

open FileTransfer

variable {Id : Type} [LinearOrder Id]

namespace FileService

theorem local_iff {path : String} :
    Local path ↔ DFile.fileRoot.toList.isPrefixOf path.toList = false := by
  rw [← Bool.not_eq_true, List.isPrefixOf_iff_prefix]
  constructor
  · rintro isLocal ⟨rest, isPath⟩
    refine isLocal (String.ofList rest) (String.toList_injective ?_)
    rw [DFile.filePath, String.toList_append, String.toList_ofList, isPath]
  · rintro notPrefix filename rfl
    rw [DFile.filePath, String.toList_append] at notPrefix
    exact notPrefix (List.prefix_append _ _)

instance (path : String) : Decidable (Local path) :=
  decidable_of_iff _ local_iff.symm

end FileService

/-- A file service and the failures that its master has not handled. -/
structure Replicas (Id : Type) [LinearOrder Id] where
  service : FileService Id
  failing : List Id
  /-- What has been put and not been deleted: no part of the code, only of
  what is said about it. -/
  contents : String → Option Bytes

/-- What can happen to it, each as a whole. -/
inductive ReplicasAction (Id : Type)
  | put (putter : Id) (filename : String) (content : Bytes)
      (draws : List Nat)
  | get (id : Id) (filename filepath : String)
  | delete (filename : String)
  | join (id : Id)
  | fail (id : Id)
  | handleFail (id : Id) (draws : String → List Nat)
  /-- Another node has been elected. -/
  | start (draws : String → List Nat)

namespace Replicas

/-- Nodes without members and files. -/
def initial (name : Id → String) : Replicas Id where
  service :=
    { members := []
      node := fun id => emptyNode (name id)
      fileMap := .empty }
  failing := []
  contents := fun _ => none

variable (shell : Shell) (state : Replicas Id)

/-- One step of the service. -/
def step : ReplicasAction Id → Option (Replicas Id)
  | .put putter filename content draws =>
      if putter ∈ state.service.members then
        (state.service.put shell putter filename content draws).map
          fun service =>
            { state with
              service := service
              contents :=
                if state.service.fileMap.countReplicates filename = 0 then
                  Function.update state.contents filename (some content)
                else state.contents }
      else none
  | .get id filename filepath =>
      if id ∈ state.service.members then
        some
          { state with
            service := state.service.get shell id filename filepath }
      else none
  | .delete filename =>
      some
        { state with
          service := state.service.delete filename
          contents := Function.update state.contents filename none }
  | .join id =>
      if id ∈ state.service.members then none
      else some { state with service := state.service.join id }
  | .fail id =>
      if id ∈ state.service.members then
        some
          { state with
            service := state.service.fail id
            failing := state.failing ++ [id] }
      else none
  | .handleFail id draws =>
      if id ∈ state.failing then
        ((state.service.clear id).reReplicate shell draws).map
          fun service =>
            { state with
              service := service
              failing := state.failing.erase id }
      else none
  | .start draws =>
      (state.service.list.reReplicate shell draws).map fun service =>
        { state with service := service }

/-- Three members are there for every `PUT` and are left by every failure, no
third failure happens before two are handled, and a node comes back after its
failure has been handled. -/
def Tolerated (state : Replicas Id) : ReplicasAction Id → Prop
  | .put _ _ content _ =>
      3 ≤ state.service.members.length ∧
        List.chunkCount 256000 content.length < 2 ^ 31
  | .get _ _ filepath => FileService.Local filepath ∧ filepath ≠ ""
  | .join id => id ∉ state.failing
  | .fail _ =>
      3 < state.service.members.length ∧ state.failing.length < 2
  | _ => True

instance : (state : Replicas Id) → (action : ReplicasAction Id) →
    Decidable (Tolerated state action)
  | state, .put _ _ content _ => inferInstanceAs (Decidable
      (3 ≤ state.service.members.length ∧
        List.chunkCount 256000 content.length < 2 ^ 31))
  | _, .get _ _ filepath => inferInstanceAs (Decidable
      (FileService.Local filepath ∧ filepath ≠ ""))
  | state, .join id => inferInstanceAs (Decidable (id ∉ state.failing))
  | state, .fail _ => inferInstanceAs (Decidable
      (3 < state.service.members.length ∧ state.failing.length < 2))
  | _, .delete _ => isTrue trivial
  | _, .handleFail _ _ => isTrue trivial
  | _, .start _ => isTrue trivial

/-- Besides, no empty file is put, and the paths of a file that a node gets are
usable. -/
def Guarded (state : Replicas Id) (action : ReplicasAction Id) : Prop :=
  Tolerated state action ∧
    match action with
    | .put _ _ content _ => content ≠ []
    | .get _ filename filepath =>
        shell.usable (DFile.filePath filename) = true ∧
          shell.usable filepath = true
    | _ => True

instance (state : Replicas Id) (action : ReplicasAction Id) :
    Decidable (Guarded shell state action) := by
  rcases action <;> unfold Guarded <;> infer_instance

end Replicas

/-- The service, from its start. -/
def replicas (shell : Shell) (name : Id → String) :
    TransitionSystem (Replicas Id) (ReplicasAction Id) where
  initial := Replicas.initial name
  step := Replicas.step shell

/-! ## Runs -/

namespace Replicas

open FileService

/-- What holds in every state of a tolerated run. -/
structure Safe (state : Replicas Id) : Prop where
  known : Known state.service.alive
  distinct : state.service.members.Nodup
  listed : ∀ id name, state.service.fileMap.hasFile id name = true →
    id ∈ state.service.members ∨ id ∈ state.failing
  apart : ∀ id ∈ state.failing, id ∉ state.service.members
  few : state.failing.length ≤ 2
  enough : ∀ name, state.service.HasHolder name →
    3 ≤ state.service.members.length ∧
      state.service.fileMap.countReplicates name = 3
  standing : ∀ name,
    state.service.HasHolder name ↔ state.contents name ≠ none

/-- Besides, the members have the files. -/
structure Faithful (state : Replicas Id) : Prop where
  consistent : Consistent state.service.alive
  held : state.service.alive.held = state.contents

variable {shell : Shell} {state : Replicas Id} {id : Id}
variable {filename : String} {content : Bytes}

theorem not_registers_initial (name : Id → String) :
    ¬ ((Replicas.initial name).service.node id).Registers filename := by
  rw [DFile.registers_iff]
  rintro ⟨_, nothing, _⟩
  cases nothing

theorem Safe.initial (name : Id → String) : Safe (Replicas.initial name) where
  known :=
    { distinct := fun _ => List.nodup_nil
      known := fun _ _ => iff_of_false nofun (not_registers_initial name)
      members := fun _ _ holds =>
        absurd holds (not_registers_initial name) }
  distinct := List.nodup_nil
  listed := nofun
  apart := nofun
  few := Nat.zero_le 2
  enough := fun _ ⟨_, holds⟩ => absurd holds (not_registers_initial name)
  standing := fun _ => iff_of_false
    (fun ⟨_, holds⟩ => not_registers_initial name holds) (not_not_intro rfl)

theorem Faithful.initial (name : Id → String) :
    Faithful (Replicas.initial name) where
  consistent :=
    { (Safe.initial name).known with
      complete := fun _ _ =>
        iff_of_false (not_not_intro rfl) (not_registers_initial name)
      same := fun _ _ _ holds => absurd holds (not_registers_initial name)
      fetchable := fun _ _ _ present => nomatch present }
  held := rfl

/-- The service has preserved the files. -/
theorem Faithful.preserves
    (faithful : Faithful state) {service : FileService Id} {failing : List Id}
    (preserves : Preserves state.service service) :
    Faithful { state with service := service, failing := failing } := by
  obtain ⟨consistent, held⟩ := preserves.content faithful.consistent
  exact ⟨consistent, held.trans faithful.held⟩

namespace Safe

variable (safe : Safe state)
include safe

/-- With one more failure, some member still has the file. -/
theorem exists_keeper (room : state.failing.length < 2)
    (hasHolder : state.service.HasHolder filename) :
    ∃ other ≠ id, (state.service.node other).Registers filename := by
  have three := (safe.enough filename hasHolder).2
  rw [FileMap.countReplicates] at three
  have gone : (insert id state.failing.toFinset).card < 3 := by
    have inserted := Finset.card_insert_le id state.failing.toFinset
    have listed := state.failing.toFinset_card_le
    omega
  obtain ⟨other, isHolder, remains⟩ :=
    Finset.exists_mem_notMem_of_card_lt_card (three ▸ gone)
  rw [Finset.mem_insert, List.mem_toFinset, not_or] at remains
  have holds := FileMap.mem_holders_iff.mp isHolder
  have isMember := (safe.listed other filename holds).resolve_right remains.2
  exact ⟨other, remains.1, (safe.known.known other filename).mp
    (hasFile_alive.mpr ⟨isMember, holds⟩)⟩

/-- The service has changed, and so have the failures that are left. -/
theorem of_repaired {cleared next : FileService Id} {failing : List Id}
    (cleaning : Steady state.service cleared)
    (repaired : Repaired cleared next cleared.HasHolder)
    (listed : ∀ id name, cleared.fileMap.hasFile id name = true →
      id ∈ state.service.members ∨ id ∈ failing)
    (fewer : failing.Sublist state.failing) :
    Safe { state with service := next, failing := failing } := by
  have steady : Steady state.service next := cleaning.trans repaired.steady
  refine
    { known := steady.known
      distinct := steady.members ▸ safe.distinct
      listed := fun id name holds => ?_
      apart := fun id isFailing => ?_
      few := fewer.length_le.trans safe.few
      enough := fun name hasHolder => ?_
      standing := fun name =>
        (steady.hasHolder name).trans (safe.standing name) }
  · change id ∈ next.members ∨ _
    rw [steady.members]
    rcases repaired.known id name holds with isMember | before
    · exact .inl (cleaning.members ▸ isMember)
    · exact listed id name before
  · change id ∉ next.members
    rw [steady.members]
    exact safe.apart id (fewer.subset isFailing)
  · refine ⟨?_, repaired.full name
      ((repaired.steady.hasHolder name).mp hasHolder)⟩
    change 3 ≤ next.members.length
    rw [steady.members]
    exact (safe.enough name ((steady.hasHolder name).mp hasHolder)).1

theorem put {draws : List Nat} {next : FileService Id}
    (tolerated : Tolerated state (.put id filename content draws))
    (isMember : id ∈ state.service.members)
    (done : state.service.put shell id filename content draws = some next) :
    Safe { state with
      service := next
      contents :=
        if state.service.fileMap.countReplicates filename = 0 then
          Function.update state.contents filename (some content)
        else state.contents } := by
  obtain ⟨three, _⟩ := tolerated
  by_cases nobody : state.service.fileMap.countReplicates filename = 0
  · obtain ⟨_, approvedHolder⟩ :=
      @Known.approve_alive Id _ shell state.service id filename content
        safe.known isMember
    have repaired := safe.known.put_alive isMember three nobody done
    have members : next.members = state.service.members :=
      repaired.steady.members
    have hasHolder (name : String) : next.HasHolder name ↔
        name = filename ∨ state.service.HasHolder name :=
      (repaired.steady.hasHolder name).trans (approvedHolder name)
    rw [if_pos nobody]
    exact
      { known := repaired.steady.known
        distinct := members ▸ safe.distinct
        listed := by
          intro other name holds
          change other ∈ next.members ∨ _
          rw [members]
          rcases repaired.known other name holds with isOld | before
          · exact .inl isOld
          · rcases hasFile_approve.mp before with ⟨rfl, _⟩ | earlier
            · exact .inl isMember
            · exact safe.listed other name earlier
        apart := members ▸ safe.apart
        few := safe.few
        enough := by
          intro name holds
          refine ⟨members ▸ three, ?_⟩
          by_cases isFile : name = filename
          · exact repaired.full name isFile
          · have sameHolders : next.fileMap.holders name =
                state.service.fileMap.holders name := by
              rw [repaired.others name isFile]
              ext other
              rw [FileMap.mem_holders_iff, hasFile_approve,
                FileMap.mem_holders_iff]
              exact or_iff_right fun both => isFile both.2.symm
            change (next.fileMap.holders name).card = 3
            rw [sameHolders]
            exact (safe.enough name
              (((hasHolder name).mp holds).resolve_left isFile)).2
        standing := by
          intro name
          refine (hasHolder name).trans ?_
          change _ ↔ Function.update state.contents filename (some content)
            name ≠ none
          rw [safe.standing, Function.update_apply]
          by_cases isFile : name = filename
          · simp [isFile]
          · simp [isFile] }
  · rw [FileService.put, if_neg nobody] at done
    obtain rfl := Option.some.inj done
    rw [if_neg nobody]
    exact safe

theorem get {filepath : String}
    (tolerated : Tolerated state (.get id filename filepath)) :
    Safe { state with
      service := state.service.get shell id filename filepath } := by
  have same : SameHolders state.service
      (state.service.get shell id filename filepath) :=
    sameHolders_get tolerated.2
  have hasHolder (name : String) :
      (state.service.get shell id filename filepath).HasHolder name ↔
        state.service.HasHolder name :=
    exists_congr fun _ => same.registers_iff
  exact
    { known := by
        refine known_alive (fun other => ?_) fun other name => ?_
        · rw [same.localFiles]
          exact safe.known.distinct other
        · rw [same.registers_iff, same.members, same.fileMap, ← hasFile_alive]
          exact safe.known.known other name
      distinct := same.members ▸ safe.distinct
      listed := by
        intro other name holds
        change other ∈ (state.service.get shell id filename
          filepath).members ∨ _
        rw [same.members]
        exact safe.listed other name (same.fileMap ▸ holds)
      apart := same.members ▸ safe.apart
      few := safe.few
      enough := by
        intro name holds
        change 3 ≤ (state.service.get shell id filename
          filepath).members.length ∧ (state.service.get shell id filename
            filepath).fileMap.countReplicates name = 3
        rw [same.members, same.fileMap]
        exact safe.enough name ((hasHolder name).mp holds)
      standing := fun name =>
        (hasHolder name).trans (safe.standing name) }

theorem delete :
    Safe { state with
      service := state.service.delete filename
      contents := Function.update state.contents filename none } := by
  have deleted : Deleted state.service (state.service.delete filename)
      filename _ := safe.known.delete
  have hasHolder (name : String) :
      (state.service.delete filename).HasHolder name ↔
        name ≠ filename ∧ state.service.HasHolder name :=
    deleted.hasHolder_iff safe.known
  exact
    { known := deleted.known
      distinct := deleted.members ▸ safe.distinct
      listed := by
        intro other name holds
        change other ∈ (state.service.delete filename).members ∨ _
        rw [deleted.members]
        exact safe.listed other name ((deleted.hasFile other name).mp holds).1
      apart := deleted.members ▸ safe.apart
      few := safe.few
      enough := by
        intro name holds
        obtain ⟨differs, before⟩ := (hasHolder name).mp holds
        obtain ⟨three, full⟩ := safe.enough name before
        refine ⟨deleted.members ▸ three, ?_⟩
        rw [← full]
        refine congrArg Finset.card ?_
        ext other
        rw [FileMap.mem_holders_iff, deleted.hasFile,
          FileMap.mem_holders_iff]
        exact and_iff_left fun both => differs both.2
      standing := by
        intro name
        refine (hasHolder name).trans ?_
        change _ ↔ Function.update state.contents filename none name ≠ none
        rw [safe.standing, Function.update_apply]
        by_cases isFile : name = filename
        · simp [isFile]
        · simp [isFile] }

/-- A node that is neither a member nor failing can come. -/
theorem preserves_join (tolerated : Tolerated state (.join id))
    (isNew : id ∉ state.service.members) :
    Preserves state.service (state.service.join id) := by
  refine safe.known.join isNew fun name => ?_
  rw [← Bool.not_eq_true]
  intro holds
  exact (safe.listed id name holds).elim isNew tolerated

theorem join (tolerated : Tolerated state (.join id))
    (isNew : id ∉ state.service.members) :
    Safe { state with service := state.service.join id } := by
  have preserves := safe.preserves_join tolerated isNew
  have isMember (other : Id) : other ∈ (state.service.join id).members ↔
      other = id ∨ other ∈ state.service.members :=
    List.mem_orderedInsert (· ≤ ·)
  exact
    { known := preserves.known
      distinct := (List.perm_orderedInsert (· ≤ ·) id _).nodup_iff.mpr
        (List.nodup_cons.mpr ⟨isNew, safe.distinct⟩)
      listed := by
        intro other name holds
        rcases safe.listed other name holds with isOld | isFailing
        · exact .inl ((isMember other).mpr (.inr isOld))
        · exact .inr isFailing
      apart := by
        intro other isFailing isThere
        rcases (isMember other).mp isThere with rfl | isOld
        · exact tolerated isFailing
        · exact safe.apart other isFailing isOld
      few := safe.few
      enough := by
        intro name holds
        obtain ⟨three, full⟩ :=
          safe.enough name ((preserves.hasHolder name).mp holds)
        refine ⟨?_, full⟩
        change 3 ≤ (state.service.members.orderedInsert (· ≤ ·) id).length
        rw [List.orderedInsert_length]
        omega
      standing := fun name =>
        (preserves.hasHolder name).trans (safe.standing name) }

theorem preserves_fail (tolerated : Tolerated state (.fail id)) :
    Preserves state.service (state.service.fail id) :=
  safe.known.fail safe.distinct fun _ => safe.exists_keeper tolerated.2

theorem fail (tolerated : Tolerated state (.fail id))
    (isMember : id ∈ state.service.members) :
    Safe { state with
      service := state.service.fail id
      failing := state.failing ++ [id] } := by
  have preserves := safe.preserves_fail tolerated
  obtain ⟨four, room⟩ := tolerated
  exact
    { known := preserves.known
      distinct := safe.distinct.erase id
      listed := by
        intro other name holds
        change other ∈ state.service.members.erase id ∨
          other ∈ state.failing ++ [id]
        by_cases same : other = id
        · exact .inr (by simp [same])
        · rcases safe.listed other name holds with isOld | isFailing
          · exact .inl ((List.mem_erase_of_ne same).mpr isOld)
          · exact .inr (List.mem_append_left _ isFailing)
      apart := by
        intro other isFailing isThere
        rcases List.mem_append.mp isFailing with isOld | isNew
        · exact safe.apart other isOld (List.mem_of_mem_erase isThere)
        · obtain rfl := List.mem_singleton.mp isNew
          exact safe.distinct.not_mem_erase isThere
      few := by
        rw [List.length_append]
        exact room
      enough := by
        intro name holds
        refine ⟨?_, (safe.enough name
          ((preserves.hasHolder name).mp holds)).2⟩
        change 3 ≤ (state.service.members.erase id).length
        rw [List.length_erase_of_mem isMember]
        omega
      standing := fun name =>
        (preserves.hasHolder name).trans (safe.standing name) }

/-- After the entry of a failed member has been cleared, no file is known to be
stored more than three times. -/
theorem clear (isFailing : id ∈ state.failing) :
    Steady state.service (state.service.clear id) ∧
      ∀ name, (state.service.clear id).HasHolder name →
        3 ≤ (state.service.clear id).members.length ∧
          (state.service.clear id).fileMap.countReplicates name ≤ 3 := by
  have steady := safe.known.clear (safe.apart id isFailing)
  refine ⟨steady, fun name hasHolder => ?_⟩
  obtain ⟨three, full⟩ :=
    safe.enough name ((steady.hasHolder name).mp hasHolder)
  refine ⟨three, full ▸ Finset.card_le_card fun other isHolder => ?_⟩
  rw [FileMap.mem_holders_iff] at isHolder ⊢
  change (state.service.fileMap.set id []).hasFile other name = true
    at isHolder
  rw [FileMap.hasFile_set] at isHolder
  split at isHolder
  · nomatch isHolder
  · exact isHolder

/-- Nor after the files of the members have been listed. -/
theorem list :
    Steady state.service state.service.list ∧
      ∀ name, state.service.list.HasHolder name →
        3 ≤ state.service.list.members.length ∧
          state.service.list.fileMap.countReplicates name ≤ 3 := by
  have steady := safe.known.list
  refine ⟨steady, fun name hasHolder => ?_⟩
  obtain ⟨three, full⟩ :=
    safe.enough name ((steady.hasHolder name).mp hasHolder)
  refine ⟨three, full ▸ Finset.card_le_card fun other isHolder => ?_⟩
  rw [FileMap.mem_holders_iff] at isHolder ⊢
  obtain ⟨_, holds⟩ := hasFile_list.mp isHolder
  exact (hasFile_alive.mp
    ((safe.known.known other name).mpr holds)).2

/-- What `reReplicate` leaves after the entry of a failed member has been
cleared. -/
theorem repaired_clear {draws : String → List Nat} {next : FileService Id}
    (isFailing : id ∈ state.failing)
    (done : (state.service.clear id).reReplicate shell draws = some next) :
    Repaired (state.service.clear id) next
      (state.service.clear id).HasHolder := by
  obtain ⟨steady, enough⟩ := safe.clear isFailing
  exact steady.known.reReplicate enough done

theorem repaired_list {draws : String → List Nat} {next : FileService Id}
    (done : state.service.list.reReplicate shell draws = some next) :
    Repaired state.service.list next state.service.list.HasHolder := by
  obtain ⟨steady, enough⟩ := safe.list
  exact steady.known.reReplicate enough done

theorem handleFail {draws : String → List Nat} {next : FileService Id}
    (isFailing : id ∈ state.failing)
    (done : (state.service.clear id).reReplicate shell draws = some next) :
    Safe { state with
      service := next
      failing := state.failing.erase id } := by
  refine safe.of_repaired (safe.clear isFailing).1
    (safe.repaired_clear isFailing done) (fun other name holds => ?_)
    List.erase_sublist
  change (state.service.fileMap.set id []).hasFile other name = true at holds
  rw [FileMap.hasFile_set] at holds
  split at holds
  · nomatch holds
  · next differs =>
      exact (safe.listed other name holds).imp_right
        (List.mem_erase_of_ne differs).mpr

theorem start {draws : String → List Nat} {next : FileService Id}
    (done : state.service.list.reReplicate shell draws = some next) :
    Safe { state with service := next } :=
  safe.of_repaired safe.list.1 (safe.repaired_list done)
    (fun _ _ holds => .inl (hasFile_list.mp holds).1)
    (List.Sublist.refl _)

theorem step {action : ReplicasAction Id} {next : Replicas Id}
    (tolerated : Tolerated state action)
    (stepped : state.step shell action = some next) : Safe next := by
  cases action with
  | put putter filename content draws =>
      obtain ⟨isMember, stepped⟩ :=
        Option.ite_none_right_eq_some.mp stepped
      obtain ⟨service, done, rfl⟩ := Option.map_eq_some_iff.mp stepped
      exact safe.put tolerated isMember done
  | get id filename filepath =>
      obtain ⟨_, stepped⟩ := Option.ite_none_right_eq_some.mp stepped
      obtain rfl := Option.some.inj stepped
      exact safe.get tolerated
  | delete filename =>
      obtain rfl := Option.some.inj stepped
      exact safe.delete
  | join id =>
      obtain ⟨isNew, stepped⟩ := Option.ite_none_left_eq_some.mp stepped
      obtain rfl := Option.some.inj stepped
      exact safe.join tolerated isNew
  | fail id =>
      obtain ⟨isMember, stepped⟩ :=
        Option.ite_none_right_eq_some.mp stepped
      obtain rfl := Option.some.inj stepped
      exact safe.fail tolerated isMember
  | handleFail id draws =>
      obtain ⟨isFailing, stepped⟩ :=
        Option.ite_none_right_eq_some.mp stepped
      obtain ⟨service, done, rfl⟩ := Option.map_eq_some_iff.mp stepped
      exact safe.handleFail isFailing done
  | start draws =>
      obtain ⟨service, done, rfl⟩ := Option.map_eq_some_iff.mp stepped
      exact safe.start done

end Safe

namespace Faithful

variable (faithful : Faithful state)
include faithful

theorem put {draws : List Nat} {next : FileService Id}
    (guarded : Guarded shell state (.put id filename content draws))
    (isMember : id ∈ state.service.members)
    (done : state.service.put shell id filename content draws = some next) :
    Faithful { state with
      service := next
      contents :=
        if state.service.fileMap.countReplicates filename = 0 then
          Function.update state.contents filename (some content)
        else state.contents } := by
  obtain ⟨⟨three, fits⟩, nonempty⟩ := guarded
  by_cases nobody : state.service.fileMap.countReplicates filename = 0
  · obtain ⟨approved, held⟩ :=
      @Consistent.approve_alive Id _ shell state.service id filename content
        faithful.consistent isMember nobody ⟨nonempty, fits⟩
    have repaired := faithful.consistent.toKnown.put_alive isMember three
      nobody done
    obtain ⟨consistent, nextHeld⟩ := repaired.steady.content approved
    refine ⟨consistent, ?_⟩
    rw [if_pos nobody, ← faithful.held]
    exact nextHeld.trans held
  · rw [FileService.put, if_neg nobody] at done
    obtain rfl := Option.some.inj done
    rw [if_neg nobody]
    exact faithful

theorem get {filepath : String}
    (guarded : Guarded shell state (.get id filename filepath))
    (isMember : id ∈ state.service.members) :
    Faithful { state with
      service := state.service.get shell id filename filepath } := by
  obtain ⟨⟨isLocal, named⟩, fromUsable, toUsable⟩ := guarded
  have places := @Consistent.get Id _ shell state.service.alive id filename
    filepath faithful.consistent isLocal named fromUsable toUsable
  rw [← alive_get isMember] at places
  exact ⟨places.consistent, places.held.trans faithful.held⟩

theorem delete :
    Faithful { state with
      service := state.service.delete filename
      contents := Function.update state.contents filename none } := by
  have deleted : Deleted state.service (state.service.delete filename)
      filename _ := faithful.consistent.toKnown.delete
  refine ⟨(deleted.content faithful.consistent).1, ?_⟩
  rw [← faithful.held]
  exact deleted.held faithful.consistent

theorem step {action : ReplicasAction Id} {next : Replicas Id}
    (safe : Safe state) (guarded : Guarded shell state action)
    (stepped : state.step shell action = some next) : Faithful next := by
  cases action with
  | put putter filename content draws =>
      obtain ⟨isMember, stepped⟩ :=
        Option.ite_none_right_eq_some.mp stepped
      obtain ⟨service, done, rfl⟩ := Option.map_eq_some_iff.mp stepped
      exact faithful.put guarded isMember done
  | get id filename filepath =>
      obtain ⟨isMember, stepped⟩ :=
        Option.ite_none_right_eq_some.mp stepped
      obtain rfl := Option.some.inj stepped
      exact faithful.get guarded isMember
  | delete filename =>
      obtain rfl := Option.some.inj stepped
      exact faithful.delete
  | join id =>
      obtain ⟨isNew, stepped⟩ := Option.ite_none_left_eq_some.mp stepped
      obtain rfl := Option.some.inj stepped
      exact faithful.preserves (safe.preserves_join guarded.1 isNew)
  | fail id =>
      obtain ⟨_, stepped⟩ := Option.ite_none_right_eq_some.mp stepped
      obtain rfl := Option.some.inj stepped
      exact faithful.preserves (safe.preserves_fail guarded.1)
  | handleFail id draws =>
      obtain ⟨isFailing, stepped⟩ :=
        Option.ite_none_right_eq_some.mp stepped
      obtain ⟨service, done, rfl⟩ := Option.map_eq_some_iff.mp stepped
      exact faithful.preserves ((safe.clear isFailing).1.toPreserves.trans
        (safe.repaired_clear isFailing done).steady.toPreserves)
  | start draws =>
      obtain ⟨service, done, rfl⟩ := Option.map_eq_some_iff.mp stepped
      exact faithful.preserves (safe.list.1.toPreserves.trans
        (safe.repaired_list done).steady.toPreserves)

end Faithful

/-- The members with the file. -/
def replicasOf (state : Replicas Id) (filename : String) : List Id :=
  state.service.members.filter fun id =>
    (state.service.node id).Registers filename

/-- The members have what has been put and not been deleted, and a `GET`
brings it to any of them. -/
structure Survives (shell : Shell) (state : Replicas Id) : Prop where
  held : state.service.held = state.contents
  replicas : ∀ filename, ∀ id ∈ state.replicasOf filename,
    ∃ content, state.contents filename = some content ∧
      (state.service.node id).stored filename = some content
  readable : ∀ id ∈ state.service.members, ∀ filename filepath content,
    state.contents filename = some content →
      Local filepath → filepath ≠ "" →
        shell.usable (DFile.filePath filename) = true →
          shell.usable filepath = true →
        (state.service.node id).disk filepath = none →
          ((state.service.get shell id filename filepath).node id).disk
            filepath = some content

/-- Replication can always end, and leaves every file with three members. -/
structure Repairs (shell : Shell) (state : Replicas Id) : Prop where
  handleFail : ∀ id ∈ state.failing, ∃ draws next,
    state.step shell (.handleFail id draws) = some next
  start : ∃ draws next, state.step shell (.start draws) = some next
  put : ∀ putter ∈ state.service.members, ∀ filename content,
    3 ≤ state.service.members.length →
      List.chunkCount 256000 content.length < 2 ^ 31 →
        ∃ draws next,
          state.step shell (.put putter filename content draws) = some next
  afterStart : ∀ draws next,
    state.step shell (.start draws) = some next →
      ∀ filename, next.contents filename ≠ none →
        (next.replicasOf filename).length = 3
  three : state.failing = [] → ∀ filename,
    state.contents filename ≠ none → (state.replicasOf filename).length = 3

namespace Safe

variable (safe : Safe state)
include safe

/-- A file whose known holders are members is at exactly three of them. -/
theorem length_replicasOf
    (areMembers : ∀ id, state.service.fileMap.hasFile id filename = true →
      id ∈ state.service.members)
    (isStored : state.contents filename ≠ none) :
    (state.replicasOf filename).length = 3 := by
  have hasHolder := (safe.standing filename).mpr isStored
  have sameHolders : state.replicasOf filename =
      memberHolders state.service.fileMap state.service.members filename := by
    refine List.filter_congr fun id isMember => ?_
    rw [Bool.eq_iff_iff, decide_eq_true_eq]
    refine (safe.known.known id filename).symm.trans ?_
    rw [hasFile_alive, and_iff_right isMember]
  rw [sameHolders,
    (memberHolders_length_eq_iff safe.distinct).mpr areMembers]
  exact (safe.enough filename hasHolder).2

/-- There are draws with which `reReplicate` ends. -/
theorem exists_reReplicate {cleared : FileService Id}
    (steady : Steady state.service cleared)
    (enough : ∀ name, cleared.HasHolder name →
      3 ≤ cleared.members.length ∧
        cleared.fileMap.countReplicates name ≤ 3) :
    ∃ draws next, cleared.reReplicate shell draws = some next := by
  have isFile (name : String) :
      name ∈ cleared.memberFiles ↔ cleared.HasHolder name :=
    steady.known.mem_memberFiles
  by_cases nothing : cleared.memberFiles = []
  · exact ⟨fun _ => [], cleared, by rw [reReplicate, nothing]; rfl⟩
  · obtain ⟨first, isFirst⟩ := List.exists_mem_of_ne_nil _ nothing
    exact exists_draws_foldlM steady.known
      (steady.members ▸ safe.distinct)
      (enough first ((isFile first).mp isFirst)).1 nodup_memberFiles
      fun name isName => ⟨(isFile name).mp isName,
        (enough name ((isFile name).mp isName)).2⟩

theorem exists_put {putter : Id}
    (isMember : putter ∈ state.service.members)
    (three : 3 ≤ state.service.members.length) :
    ∃ draws next,
      state.service.put shell putter filename content draws = some next := by
  by_cases nobody : state.service.fileMap.countReplicates filename = 0
  · obtain ⟨approved, hasHolder⟩ :=
      @Known.approve_alive Id _ shell state.service putter filename content
        safe.known isMember
    have once : (state.service.approve shell putter filename
        content).fileMap.countReplicates filename ≤ 3 :=
      countReplicates_approve nobody
    obtain ⟨draws, next, done⟩ :=
      @Known.exists_draws Id _ shell _ filename approved safe.distinct three
        ((hasHolder filename).mpr (.inl rfl)) once
    refine ⟨draws, next, ?_⟩
    rw [FileService.put, if_pos nobody]
    exact done
  · refine ⟨[], state.service, ?_⟩
    rw [FileService.put, if_neg nobody]

theorem repairs : Repairs shell state where
  handleFail := by
    intro id isFailing
    obtain ⟨steady, enough⟩ := safe.clear isFailing
    obtain ⟨draws, next, done⟩ :=
      @exists_reReplicate Id _ shell state safe _ steady enough
    exact ⟨draws, _, (if_pos isFailing).trans
      (Option.map_eq_some_iff.mpr ⟨next, done, rfl⟩)⟩
  start := by
    obtain ⟨steady, enough⟩ := safe.list
    obtain ⟨draws, next, done⟩ :=
      @exists_reReplicate Id _ shell state safe _ steady enough
    exact ⟨draws, _, Option.map_eq_some_iff.mpr ⟨next, done, rfl⟩⟩
  put := by
    intro putter isMember filename content three _
    obtain ⟨draws, next, done⟩ :=
      @exists_put Id _ shell state filename content safe putter isMember
        three
    exact ⟨draws, _, (if_pos isMember).trans
      (Option.map_eq_some_iff.mpr ⟨next, done, rfl⟩)⟩
  afterStart := by
    intro draws next started filename isStored
    obtain ⟨service, done, rfl⟩ := Option.map_eq_some_iff.mp started
    have repaired := safe.repaired_list done
    refine (safe.start done).length_replicasOf (fun id holds => ?_) isStored
    have members : service.members = state.service.members :=
      repaired.steady.members
    change id ∈ service.members
    rw [members]
    rcases repaired.known id filename holds with isMember | listed
    · exact isMember
    · exact (hasFile_list.mp listed).1
  three := by
    intro handled filename isStored
    refine safe.length_replicasOf (fun id holds => ?_) isStored
    refine (safe.listed id filename holds).resolve_right ?_
    rw [handled]
    exact List.not_mem_nil

end Safe

theorem Faithful.survives (faithful : Faithful state) :
    Survives shell state where
  held := held_alive.symm.trans faithful.held
  replicas := by
    intro filename id isReplica
    obtain ⟨_, registered⟩ := List.mem_filter.mp isReplica
    obtain ⟨content, present⟩ := Option.ne_none_iff_exists'.mp
      ((faithful.consistent.complete id filename).mpr
        (of_decide_eq_true registered))
    refine ⟨content, ?_, present⟩
    rw [← faithful.held]
    exact faithful.consistent.held_eq_some_iff.mpr ⟨id, present⟩
  readable := by
    intro id isMember filename filepath content isContent isLocal named
      fromUsable toUsable missing
    have places := @Consistent.get Id _ shell state.service.alive id filename
      filepath faithful.consistent isLocal named fromUsable toUsable
    have atPath := places.atPath id filepath isLocal
    rw [if_pos ⟨rfl, rfl⟩, ← alive_get isMember, faithful.held, isContent]
      at atPath
    change _ = some (((Option.or ((state.service.node id).disk filepath)
      (some content))).getD []) at atPath
    rw [missing] at atPath
    exact atPath

section Runs

variable {name : Id → String} {trace : List (ReplicasAction Id)}

theorem safe_of_runs
    (tolerated : (replicas shell name).Every Tolerated
      (Replicas.initial name) trace)
    (runs : (replicas shell name).Runs (Replicas.initial name) trace state) :
    Safe state :=
  tolerated.invariant runs Safe
    (fun _ _ _ safe met stepped => safe.step met stepped) (Safe.initial name)

/-- In a tolerated run replication never goes on forever for want of draws, and
when all failures have been handled three members have each file. -/
theorem replication_restored
    (tolerated : (replicas shell name).Every Tolerated
      (Replicas.initial name) trace)
    (runs : (replicas shell name).Runs (Replicas.initial name) trace state) :
    Repairs shell state :=
  (safe_of_runs tolerated runs).repairs

/-- Five nodes, of which the first puts a file and fails together with one of
its targets; both failures are handled, and another node gets the file after a
change of the leader. -/
def twoFailures : List (ReplicasAction Nat) :=
  [.join 1, .join 2, .join 3, .join 4, .join 5, .put 1 "f" [7] [1, 2, 0],
    .fail 1, .fail 2, .handleFail 1 fun _ => [1, 0],
    .handleFail 2 fun _ => [2, 0], .start fun _ => [], .get 5 "f" "copy"]

theorem replication_restored_twoFailures :
    ∃ state, (replicas (.strict fun _ => "") fun _ => "").Runs
        (Replicas.initial fun _ => "") twoFailures state ∧
      Repairs (.strict fun _ => "") state := by
  have tolerated : (replicas (.strict fun _ => "") fun _ => "").Every Tolerated
      (Replicas.initial fun _ => "") twoFailures := by
    decide +kernel
  have finishes : ((replicas (.strict fun _ => "") fun _ => "").run
      (Replicas.initial fun _ => "") twoFailures).isSome = true := by
    decide +kernel
  obtain ⟨state, runs⟩ := Option.isSome_iff_exists.mp finishes
  exact ⟨state, runs, replication_restored tolerated runs⟩

end Runs

end Replicas

end Master
end CraneSps
