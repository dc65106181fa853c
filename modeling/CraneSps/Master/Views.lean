import CraneSps.Master.Operations

/-!
# Two views of the holders

`countReplicates` goes over all entries of the file map, while sources, targets
and the victims of a delete are chosen from the membership list.  The two agree
about a file exactly if all its holders are members.  Only the handling of a
failure removes the entry of a node that is no member any more.
-/

namespace CraneSps
namespace Master

open FileTransfer

variable {Id : Type} [LinearOrder Id]

/-- A node is registered only as a member or before its failure is handled, and
it leaves with files in its entry only if its failure is going to be handled. -/
def Attributed (state : State Id) : Action Id → Prop
  | .put id info =>
      state.fileMap.countReplicates info.name = 0 →
        id ∈ state.members ∨ id ∈ state.failing
  | .update id _ => id ∈ state.members ∨ id ∈ state.failing
  | .list id infos => infos ≠ [] → id ∈ state.members ∨ id ∈ state.failing
  | .leave id => state.fileMap.files id = [] ∨ id ∈ state.failing
  | _ => True

instance (state : State Id) (action : Action Id) :
    Decidable (Attributed state action) := by
  rcases action <;> unfold Attributed <;> infer_instance

/-- Every node with a file is a member, or its failure is going to be
handled. -/
def Accounted (state : State Id) : Prop :=
  ∀ id, state.fileMap.files id ≠ [] → id ∈ state.members ∨ id ∈ state.failing

section Entries

variable {fileMap : FileMap Id} {id other : Id} {infos : List FileInfo}

/-- A node with a file has a file with a name. -/
theorem FileMap.exists_hasFile_iff :
    (∃ filename, fileMap.hasFile id filename = true) ↔
      fileMap.files id ≠ [] := by
  simp only [hasFile, listsFile, List.any_eq_true, beq_iff_eq]
  constructor
  · rintro ⟨_, info, present, _⟩
    exact List.ne_nil_of_mem present
  · intro nonempty
    obtain ⟨info, present⟩ := List.exists_mem_of_ne_nil _ nonempty
    exact ⟨info.name, info, present, rfl⟩

/-- Only the added node gets an entry, and it has one afterwards. -/
theorem FileMap.files_addToFileMap_ne_nil {info : FileInfo} :
    (fileMap.addToFileMap id info).files other ≠ [] ↔
      other = id ∨ fileMap.files other ≠ [] := by
  simp only [← exists_hasFile_iff, hasFile_addToFileMap, exists_or]
  exact or_congr_left (by simp)

/-- Only the sender of a reply with files gets an entry. -/
theorem FileMap.files_processListReply_ne_nil :
    (fileMap.processListReply id infos).files other ≠ [] ↔
      (other = id ∧ infos ≠ []) ∨ fileMap.files other ≠ [] := by
  unfold processListReply
  split
  · next nothing => simp [nothing]
  · next listed =>
      rw [updateFileMap, files_set]
      by_cases same : other = id
      · simp [same, listed]
      · simp [same]

/-- A delete gives no node an entry. -/
theorem FileMap.files_ne_nil_of_deleteFile
    {members : List Id} {filename : String}
    (remains : (fileMap.deleteFile members filename).files other ≠ []) :
    fileMap.files other ≠ [] := by
  obtain ⟨name, holds⟩ := exists_hasFile_iff.mpr remains
  exact exists_hasFile_iff.mp ⟨name, hasFile_of_deleteFile holds⟩

end Entries

variable {state next : State Id} {action : Action Id}

theorem Accounted.initial : Accounted (State.initial : State Id) :=
  fun _ nonempty => absurd rfl nonempty

/-- Entries only disappear. -/
theorem Accounted.shrink
    (accounted : Accounted state) {fileMap : FileMap Id} (calls : List String)
    (origin : ∀ id, fileMap.files id ≠ [] → state.fileMap.files id ≠ []) :
    Accounted { state with fileMap := fileMap, calls := calls } :=
  fun id nonempty => accounted id (origin id nonempty)

/-- After one more node has an entry, everything is accounted for exactly if
this node is. -/
theorem Accounted.extend_iff
    (accounted : Accounted state) {fileMap : FileMap Id} (calls : List String)
    (id : Id) {listed : Prop}
    (origin : ∀ other, fileMap.files other ≠ [] ↔
      (other = id ∧ listed) ∨ state.fileMap.files other ≠ []) :
    Accounted { state with fileMap := fileMap, calls := calls } ↔
      (listed → id ∈ state.members ∨ id ∈ state.failing) := by
  constructor
  · intro after holds
    exact after id ((origin id).mpr (.inl ⟨rfl, holds⟩))
  · intro known other nonempty
    rcases (origin other).mp nonempty with ⟨rfl, holds⟩ | old
    · exact known holds
    · exact accounted other old

theorem Accounted.addToFileMap_iff
    (accounted : Accounted state) (calls : List String)
    {id : Id} {info : FileInfo} :
    Accounted
        { state with
          fileMap := state.fileMap.addToFileMap id info, calls := calls } ↔
      id ∈ state.members ∨ id ∈ state.failing := by
  rw [accounted.extend_iff calls id fun other =>
    FileMap.files_addToFileMap_ne_nil.trans
      (or_congr_left (and_iff_left trivial).symm)]
  exact true_imp_iff

/-- After a member has left, everything is accounted for exactly if the member
has no entry or its failure is going to be handled. -/
theorem Accounted.leave_iff
    (accounted : Accounted state) (distinct : state.members.Nodup) {id : Id} :
    Accounted { state with members := state.members.erase id } ↔
      state.fileMap.files id = [] ∨ id ∈ state.failing := by
  constructor
  · intro after
    rw [or_iff_not_imp_left]
    intro nonempty
    rcases after id nonempty with isMember | isFailing
    · exact absurd isMember distinct.not_mem_erase
    · exact isFailing
  · intro proper other nonempty
    rcases accounted other nonempty with isMember | isFailing
    · by_cases same : other = id
      · subst same
        exact .inr (proper.resolve_left nonempty)
      · exact .inl ((List.mem_erase_of_ne same).mpr isMember)
    · exact .inr isFailing

/-- The entry of the failed node is cleared. -/
theorem Accounted.handleFail
    (accounted : Accounted state) (id : Id) (calls : List String) :
    Accounted
      { state with
        fileMap := state.fileMap.set id []
        failing := state.failing.erase id
        calls := calls } := by
  intro other nonempty
  have differs : other ≠ id := by
    rintro rfl
    simp at nonempty
  have old : state.fileMap.files other ≠ [] := by
    simpa [differs] using nonempty
  exact (accounted other old).imp_right (List.mem_erase_of_ne differs).mpr

/-- A step keeps everything accounted for exactly if it is attributed. -/
theorem Accounted.step_iff
    (accounted : Accounted state) (distinct : state.members.Nodup)
    (stepped : state.step action = some next) :
    Accounted next ↔ Attributed state action := by
  cases State.transition_of_step stepped with
  | approvePut unknown =>
      rw [accounted.addToFileMap_iff, Attributed, forall_prop_of_true unknown]
  | refusePut known =>
      exact iff_of_true accounted fun unknown => absurd unknown known
  | update => exact accounted.addToFileMap_iff state.calls
  | deleteUnknown => exact iff_of_true accounted trivial
  | delete =>
      exact iff_of_true
        (accounted.shrink _ fun _ => FileMap.files_ne_nil_of_deleteFile)
        trivial
  | @list id infos =>
      exact accounted.extend_iff state.calls id fun _ =>
        FileMap.files_processListReply_ne_nil
  | @join id =>
      refine iff_of_true (fun other nonempty => ?_) trivial
      exact (accounted other nonempty).imp_left fun isMember =>
        (List.perm_orderedInsert (· ≤ ·) id state.members).mem_iff.mpr
          (List.mem_cons_of_mem _ isMember)
  | leave => exact accounted.leave_iff distinct
  | nodeFail =>
      exact iff_of_true (fun other nonempty =>
        (accounted other nonempty).imp_right (List.mem_append_left _)) trivial
  | handleFail => exact iff_of_true (accounted.handleFail _ _) trivial
  | reReplicate | replicate =>
      exact iff_of_true (accounted.shrink _ fun _ old => old) trivial

/-- The membership list names every member once. -/
theorem nodup_members_step
    (distinct : state.members.Nodup)
    (stepped : state.step action = some next) :
    next.members.Nodup := by
  cases State.transition_of_step stepped with
  | @join id isNew =>
      exact (List.perm_orderedInsert (· ≤ ·) id _).nodup_iff.mpr
        (List.nodup_cons.mpr ⟨isNew, distinct⟩)
  | leave => exact distinct.erase _
  | _ => exact distinct

/-- In a run of attributed steps, once every failure has been handled, the two
views agree about every file. -/
theorem viewsAgree_of_attributed
    {trace : List (Action Id)} {state : State Id}
    (every : system.Every Attributed State.initial trace)
    (runs : system.Runs State.initial trace state)
    (handled : state.failing = []) (filename : String) :
    state.fileMap.countReplicates filename =
      (memberHolders state.fileMap state.members filename).length := by
  obtain ⟨distinct, accounted⟩ : state.members.Nodup ∧ Accounted state :=
    every.invariant runs (fun state => state.members.Nodup ∧ Accounted state)
      (fun _ _ _ before attributed stepped =>
        ⟨nodup_members_step before.1 stepped,
          (before.2.step_iff before.1 stepped).mpr attributed⟩)
      ⟨List.nodup_nil, Accounted.initial⟩
  symm
  rw [memberHolders_length_eq_iff distinct]
  intro id holds
  have nonempty := FileMap.exists_hasFile_iff.mp ⟨filename, holds⟩
  rcases accounted id nonempty with isMember | isFailing
  · exact isMember
  · rw [handled] at isFailing
    nomatch isFailing

/-- Three holders of a file, one of which fails. -/
theorem viewsAgree_of_handledFailure :
    ∃ state ∈ system.run State.initial handledFailure,
      state.failing = [] ∧ state.fileMap.countReplicates "f" =
        (memberHolders state.fileMap state.members "f").length := by
  have every : system.Every Attributed State.initial handledFailure := by
    decide
  obtain ⟨state, runs, handled⟩ :
      ∃ state ∈ system.run State.initial handledFailure,
        state.failing = [] := by
    decide
  exact ⟨state, runs, handled, viewsAgree_of_attributed every runs handled "f"⟩

/-- Three nodes, of which the second one leaves after it has got the file. -/
def gracefulLeave : List (Action Nat) :=
  [.join 1, .join 2, .join 3, .put 1 ⟨"f", "", 0⟩, .replicate "f",
    .update 2 ⟨"f", "", 0⟩, .leave 2]

/-- No failure is left to handle, and the map counts a node that is no member
any more. -/
theorem not_viewsAgree_of_gracefulLeave :
    ∃ state ∈ system.run State.initial gracefulLeave,
      state.failing = [] ∧ state.fileMap.countReplicates "f" = 2 ∧
        (memberHolders state.fileMap state.members "f").length = 1 := by
  decide

end Master
end CraneSps
