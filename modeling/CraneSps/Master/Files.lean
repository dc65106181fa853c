import CraneSps.Foundation.ListUpdate
import CraneSps.Master.Group
import Mathlib.Data.List.Pairwise

/-!
# Stored files and copies under way

The part of a group that concerns the contents of files.  The nodes that have
a file, or the approval to put it, are its holders.  Sound files have one
content under each name, also counting what is under way.
-/

namespace CraneSps
namespace Master

open FileTransfer

/-- The files of a group. -/
structure Files (Id : Type) where
  store : Id → DFile
  approvals : List (Approval Id)
  fetches : List (GroupFetch Id)

namespace Files

variable {Id : Type}

/-- The approval of a `PUT` of the file is on its way to the node. -/
def Pending (files : Files Id) (id : Id) (filename : String) : Prop :=
  ∃ approval ∈ files.approvals,
    approval.putter = id ∧ approval.filename = filename

/-- The node has the file or is going to copy it. -/
def Holds (files : Files Id) (id : Id) (filename : String) : Prop :=
  (files.store id).Registers filename ∨ files.Pending id filename

/-- A content of the file is stored or under way. -/
inductive Copy (files : Files Id) (filename : String) (content : Bytes) : Prop
  | stored (id : Id)
      (present : (files.store id).stored filename = some content)
  | approved (approval : Approval Id)
      (underway : approval ∈ files.approvals)
      (named : approval.filename = filename)
      (ofContent : approval.content = content)
  | fetched (fetch : GroupFetch Id)
      (underway : fetch ∈ files.fetches)
      (named : fetch.client.filename = filename)
      (ofContent : fetch.content = content)

/-- A fetch is going to bring a copy of a file to a node without it. -/
structure Brings (live : List Id) (files : Files Id) (fetch : GroupFetch Id) :
    Prop where
  targetLive : fetch.target ∈ live
  keeps : fetch.client.filepath = ""
  held : ∃ id, files.Holds id fetch.client.filename
  fresh : (files.store fetch.target).stored fetch.client.filename = none
  unapproved : ¬ files.Pending fetch.target fetch.client.filename

/-- The two fetches are for different nodes or of different files. -/
def Apart (fetch other : GroupFetch Id) : Prop :=
  fetch.target = other.target →
    fetch.client.filename ≠ other.client.filename

theorem Apart.symm
    {fetch other : GroupFetch Id} (apart : Apart fetch other) :
    Apart other fetch :=
  fun sameTarget sameName => apart sameTarget.symm sameName.symm

/-- What orderly steps preserve. -/
structure Sound (live : List Id) (files : Files Id) : Prop where
  tidy : ∀ id, (files.store id).Tidy
  holdersLive : ∀ id filename, files.Holds id filename → id ∈ live
  complete : ∀ id filename, (files.store id).Registers filename →
    (files.store id).stored filename ≠ none
  fetching : ∀ fetch ∈ files.fetches, Brings live files fetch
  apart : files.fetches.Pairwise Apart
  oneContent : ∀ filename content other,
    files.Copy filename content → files.Copy filename other →
      content = other
  nonempty : ∀ filename content, files.Copy filename content → content ≠ []
  fits : ∀ filename content, files.Copy filename content →
    List.chunkCount 256000 content.length < 2 ^ 31

/-- A `PUT` is approved. -/
def approve (files : Files Id) (approval : Approval Id) : Files Id :=
  { files with approvals := files.approvals ++ [approval] }

/-- A fetch is started. -/
def ask (files : Files Id) (fetch : GroupFetch Id) : Files Id :=
  { files with fetches := files.fetches ++ [fetch] }

variable {live : List Id} {files : Files Id} {filename : String}

theorem holds_approve
    {approval : Approval Id} {id : Id} :
    (files.approve approval).Holds id filename ↔
      files.Holds id filename ∨
        (approval.putter = id ∧ approval.filename = filename) := by
  simp only [approve, Holds, Pending, List.mem_append, List.mem_singleton,
    or_and_right, exists_or, exists_eq_left, or_assoc]

/-- A copy has a holder. -/
theorem Sound.held
    (sound : Sound live files) {content : Bytes}
    (copy : files.Copy filename content) :
    ∃ id, files.Holds id filename := by
  cases copy with
  | stored id present =>
      refine ⟨id, .inl ((sound.tidy id).registered filename ?_)⟩
      rw [present]
      exact Option.some_ne_none content
  | approved approval underway named ofContent =>
      exact ⟨approval.putter, .inr ⟨approval, underway, rfl, named⟩⟩
  | fetched fetch underway named ofContent =>
      exact named ▸ (sound.fetching fetch underway).held

/-- The first `PUT` of a file may be approved. -/
theorem Sound.approve
    (sound : Sound live files) {approval : Approval Id}
    (isLive : approval.putter ∈ live)
    (nobody : ∀ id, ¬ files.Holds id approval.filename)
    (nonempty : approval.content ≠ [])
    (fits : List.chunkCount 256000 approval.content.length < 2 ^ 31) :
    Sound live (files.approve approval) := by
  have origin : ∀ filename content,
      (files.approve approval).Copy filename content →
        files.Copy filename content ∨
          (approval.filename = filename ∧ approval.content = content) := by
    intro filename content copy
    cases copy with
    | stored id present => exact .inl (.stored id present)
    | approved other underway named ofContent =>
        rcases List.mem_append.mp underway with old | new
        · exact .inl (.approved other old named ofContent)
        · obtain rfl := List.mem_singleton.mp new
          exact .inr ⟨named, ofContent⟩
    | fetched fetch underway named ofContent =>
        exact .inl (.fetched fetch underway named ofContent)
  refine
    { tidy := sound.tidy
      holdersLive := ?_
      complete := sound.complete
      fetching := ?_
      apart := sound.apart
      oneContent := ?_
      nonempty := ?_
      fits := ?_ }
  · intro id filename holds
    rcases holds_approve.mp holds with old | ⟨rfl, _⟩
    · exact sound.holdersLive id filename old
    · exact isLive
  · intro fetch underway
    obtain ⟨targetLive, keeps, ⟨id, held⟩, fresh, unapproved⟩ :=
      sound.fetching fetch underway
    refine ⟨targetLive, keeps, ⟨id, holds_approve.mpr (.inl held)⟩, fresh, ?_⟩
    rintro ⟨other, isApproval, ofTarget, named⟩
    rcases List.mem_append.mp isApproval with old | new
    · exact unapproved ⟨other, old, ofTarget, named⟩
    · obtain rfl := List.mem_singleton.mp new
      exact nobody id (named ▸ held)
  · intro filename content other copy another
    rcases origin filename content copy with old | ⟨rfl, rfl⟩
    · rcases origin filename other another with older | ⟨rfl, rfl⟩
      · exact sound.oneContent filename content other old older
      · obtain ⟨id, holds⟩ := sound.held old
        exact absurd holds (nobody id)
    · rcases origin _ other another with older | ⟨_, rfl⟩
      · obtain ⟨id, holds⟩ := sound.held older
        exact absurd holds (nobody id)
      · rfl
  · intro filename content copy
    rcases origin filename content copy with old | ⟨_, rfl⟩
    · exact sound.nonempty filename content old
    · exact nonempty
  · intro filename content copy
    rcases origin filename content copy with old | ⟨_, rfl⟩
    · exact sound.fits filename content old
    · exact fits

/-- Without a new copy the contents stay unique and small. -/
theorem Sound.of_origin
    (sound : Sound live files) {next : Files Id}
    (origin : ∀ filename content, next.Copy filename content →
      files.Copy filename content)
    (tidy : ∀ id, (next.store id).Tidy)
    (holdersLive : ∀ id filename, next.Holds id filename → id ∈ live)
    (complete : ∀ id filename, (next.store id).Registers filename →
      (next.store id).stored filename ≠ none)
    (fetching : ∀ fetch ∈ next.fetches, Brings live next fetch)
    (apart : next.fetches.Pairwise Apart) : Sound live next where
  tidy := tidy
  holdersLive := holdersLive
  complete := complete
  fetching := fetching
  apart := apart
  oneContent := fun filename content other copy another =>
    sound.oneContent filename content other (origin _ _ copy)
      (origin _ _ another)
  nonempty := fun filename content copy =>
    sound.nonempty filename content (origin _ _ copy)
  fits := fun filename content copy =>
    sound.fits filename content (origin _ _ copy)

/-- A further copy of a file may be fetched. -/
theorem Sound.ask
    (sound : Sound live files) {fetch : GroupFetch Id}
    (brings : Brings live files fetch)
    (apart : ∀ other ∈ files.fetches, Apart other fetch)
    (isCopy : files.Copy fetch.client.filename fetch.content) :
    Sound live (files.ask fetch) := by
  have origin : ∀ filename content,
      (files.ask fetch).Copy filename content →
        files.Copy filename content := by
    intro filename content copy
    cases copy with
    | stored id present => exact .stored id present
    | approved approval underway named ofContent =>
        exact .approved approval underway named ofContent
    | fetched other underway named ofContent =>
        rcases List.mem_append.mp underway with old | new
        · exact .fetched other old named ofContent
        · obtain rfl := List.mem_singleton.mp new
          subst named ofContent
          exact isCopy
  have bring : ∀ other, Brings live files other →
      Brings live (files.ask fetch) other :=
    fun _ ⟨targetLive, keeps, held, fresh, unapproved⟩ =>
      ⟨targetLive, keeps, held, fresh, unapproved⟩
  refine sound.of_origin origin sound.tidy sound.holdersLive sound.complete
    ?_ ?_
  · intro other underway
    rcases List.mem_append.mp underway with old | new
    · exact bring other (sound.fetching other old)
    · obtain rfl := List.mem_singleton.mp new
      exact bring other brings
  · rw [Files.ask, List.pairwise_append]
    refine ⟨sound.apart, List.pairwise_singleton _ _, ?_⟩
    intro other old new isNew
    obtain rfl := List.mem_singleton.mp isNew
    exact apart other old

variable [DecidableEq Id]

/-- A node changes its store. -/
def setStore (files : Files Id) (id : Id) (store : DFile) : Files Id :=
  { files with store := Function.update files.store id store }

/-- The putting node copies the file of an approval. -/
def copyApproved
    (shell : Shell) (files : Files Id) (index : Nat)
    (approval : Approval Id) : Files Id :=
  { files.setStore approval.putter
      ((files.store approval.putter).copyBufferedFile shell
        approval.filename approval.content) with
    approvals := files.approvals.eraseIdx index }

/-- A fetch is finished. -/
def finishFetch
    (shell : Shell) (files : Files Id) (index : Nat)
    (fetch : GroupFetch Id) : Files Id :=
  { files.setStore fetch.target
      (fetch.client.fetchAll shell (files.store fetch.target)
        fetch.content) with
    fetches := files.fetches.eraseIdx index }

/-- A node deletes a file. -/
def delete (files : Files Id) (id : Id) (filename : String) : Files Id :=
  files.setStore id ((files.store id).deleteLocalFile filename)

theorem store_setStore
    {id other : Id} {store : DFile} :
    (files.setStore id store).store other =
      if other = id then store else files.store other := by
  simp [setStore, Function.update_apply]

/-- A store that stays tidy. -/
theorem Sound.tidy_setStore
    (sound : Sound live files) {id : Id} {store : DFile}
    (tidy : store.Tidy) (other : Id) :
    ((files.setStore id store).store other).Tidy := by
  rw [store_setStore]
  split
  · exact tidy
  · exact sound.tidy other

section Copying

variable {shell : Shell} {index : Nat} {approval : Approval Id}

theorem stored_copyApproved
    {id : Id} :
    ((files.copyApproved shell index approval).store id).stored filename =
      if id = approval.putter ∧ filename = approval.filename then
        some approval.content
      else (files.store id).stored filename := by
  rw [copyApproved, store_setStore]
  by_cases same : id = approval.putter
  · subst same
    rw [if_pos rfl, DFile.stored_copyBufferedFile]
    simp
  · simp [same]

theorem registers_copyApproved
    {id : Id} :
    ((files.copyApproved shell index approval).store id).Registers
        filename ↔
      (id = approval.putter ∧ filename = approval.filename) ∨
        (files.store id).Registers filename := by
  rw [copyApproved, store_setStore]
  by_cases same : id = approval.putter
  · subst same
    rw [if_pos rfl, DFile.registers_copyBufferedFile]
    simp
  · simp [same]

/-- The holders remain. -/
theorem holds_copyApproved
    (found : files.approvals[index]? = some approval) {id : Id} :
    (files.copyApproved shell index approval).Holds id filename ↔
      files.Holds id filename := by
  rw [Holds, registers_copyApproved, Holds]
  constructor
  · rintro ((⟨rfl, rfl⟩ | registered) | ⟨other, underway, ofNode, named⟩)
    · exact .inr ⟨approval, List.mem_of_getElem? found, rfl, rfl⟩
    · exact .inl registered
    · exact .inr ⟨other, List.mem_of_mem_eraseIdx underway, ofNode, named⟩
  · rintro (registered | ⟨other, underway, rfl, rfl⟩)
    · exact .inl (.inr registered)
    · rcases List.eq_or_mem_eraseIdx underway found with rfl | remains
      · exact .inl (.inl ⟨rfl, rfl⟩)
      · exact .inr ⟨other, remains, rfl, rfl⟩

theorem Sound.copyApproved
    (sound : Sound live files)
    (found : files.approvals[index]? = some approval) :
    Sound live (files.copyApproved shell index approval) := by
  have underway : approval ∈ files.approvals := List.mem_of_getElem? found
  have origin : ∀ filename content,
      (files.copyApproved shell index approval).Copy filename content →
        files.Copy filename content := by
    intro filename content copy
    cases copy with
    | stored id present =>
        rw [stored_copyApproved] at present
        split at present
        · next isPutter =>
            exact .approved approval underway isPutter.2.symm
              (Option.some.inj present)
        · exact .stored id present
    | approved other isApproval named ofContent =>
        exact .approved other (List.mem_of_mem_eraseIdx isApproval) named
          ofContent
    | fetched fetch isFetch named ofContent =>
        exact .fetched fetch isFetch named ofContent
  refine sound.of_origin origin
    (sound.tidy_setStore (sound.tidy _).copyBufferedFile)
    (fun id filename holds =>
      sound.holdersLive id filename ((holds_copyApproved found).mp holds))
    (fun id filename registered => ?_) (fun fetch isFetch => ?_) sound.apart
  · rw [stored_copyApproved]
    split
    · exact Option.some_ne_none _
    · next differs =>
        exact sound.complete id filename
          ((registers_copyApproved.mp registered).resolve_left differs)
  · obtain ⟨targetLive, keeps, ⟨id, held⟩, fresh, unapproved⟩ :=
      sound.fetching fetch isFetch
    refine
      ⟨targetLive, keeps, ⟨id, (holds_copyApproved found).mpr held⟩, ?_, ?_⟩
    · rw [stored_copyApproved, if_neg]
      · exact fresh
      · rintro ⟨isPutter, named⟩
        exact unapproved ⟨approval, underway, isPutter.symm, named.symm⟩
    · rintro ⟨other, remains, ofTarget, named⟩
      exact unapproved
        ⟨other, List.mem_of_mem_eraseIdx remains, ofTarget, named⟩

end Copying

section Finishing

variable {shell : Shell} {index : Nat} {fetch : GroupFetch Id}

theorem stored_finishFetch
    (keeps : fetch.client.filepath = "") {id : Id} :
    ((files.finishFetch shell index fetch).store id).stored filename =
      if (id = fetch.target ∧ filename = fetch.client.filename) ∧
          fetch.content ≠ [] then
        some (((files.store fetch.target).stored
          fetch.client.filename).getD [] ++ fetch.content)
      else (files.store id).stored filename := by
  rw [finishFetch, store_setStore]
  by_cases same : id = fetch.target
  · subst same
    rw [if_pos rfl, stored_fetchAll keeps]
    simp
  · simp [same]

theorem registers_finishFetch
    (keeps : fetch.client.filepath = "") {id : Id} :
    ((files.finishFetch shell index fetch).store id).Registers filename ↔
      (id = fetch.target ∧ filename = fetch.client.filename) ∨
        (files.store id).Registers filename := by
  rw [finishFetch, store_setStore]
  by_cases same : id = fetch.target
  · subst same
    rw [if_pos rfl, registers_fetchAll keeps]
    simp
  · simp [same]

/-- The target becomes a holder. -/
theorem holds_finishFetch
    (keeps : fetch.client.filepath = "") {id : Id} :
    (files.finishFetch shell index fetch).Holds id filename ↔
      (id = fetch.target ∧ filename = fetch.client.filename) ∨
        files.Holds id filename := by
  rw [Holds, registers_finishFetch keeps, Holds, ← or_assoc]
  exact Iff.rfl

theorem Sound.finishFetch
    (sound : Sound live files)
    (found : files.fetches[index]? = some fetch) :
    Sound live (files.finishFetch shell index fetch) := by
  have underway : fetch ∈ files.fetches := List.mem_of_getElem? found
  obtain ⟨isLive, keepsFile, _, missing, _⟩ := sound.fetching fetch underway
  have nonempty : fetch.content ≠ [] :=
    sound.nonempty _ _ (.fetched fetch underway rfl rfl)
  have origin : ∀ filename content,
      (files.finishFetch shell index fetch).Copy filename content →
        files.Copy filename content := by
    intro filename content copy
    cases copy with
    | stored id present =>
        rw [stored_finishFetch keepsFile] at present
        split at present
        · next isTarget =>
            rw [missing, Option.getD_none, List.nil_append,
              Option.some.injEq] at present
            exact .fetched fetch underway isTarget.1.2.symm present
        · exact .stored id present
    | approved approval isApproval named ofContent =>
        exact .approved approval isApproval named ofContent
    | fetched other isFetch named ofContent =>
        exact .fetched other (List.mem_of_mem_eraseIdx isFetch) named
          ofContent
  refine sound.of_origin origin
    (sound.tidy_setStore ((sound.tidy _).fetchAll keepsFile)) ?_ ?_ ?_
    (sound.apart.sublist (List.eraseIdx_sublist _ _))
  · intro id filename holds
    rcases (holds_finishFetch keepsFile).mp holds with ⟨rfl, _⟩ | old
    · exact isLive
    · exact sound.holdersLive id filename old
  · intro id filename registered
    rw [stored_finishFetch keepsFile]
    split
    · exact Option.some_ne_none _
    · next differs =>
        exact sound.complete id filename
          (((registers_finishFetch keepsFile).mp registered).resolve_left
            fun isTarget => differs ⟨isTarget, nonempty⟩)
  · intro other remains
    obtain ⟨targetLive, keeps, ⟨id, held⟩, fresh, unapproved⟩ :=
      sound.fetching other (List.mem_of_mem_eraseIdx remains)
    have apart : Apart fetch other :=
      sound.apart.rel_eraseIdx (fun _ _ => Apart.symm) found remains
    refine ⟨targetLive, keeps,
      ⟨id, (holds_finishFetch keepsFile).mpr (.inr held)⟩, ?_, unapproved⟩
    rw [stored_finishFetch keepsFile, if_neg]
    · exact fresh
    · rintro ⟨⟨isTarget, named⟩, _⟩
      exact apart isTarget.symm named.symm

end Finishing

section Deleting

variable {target : Id} {deleted : String}

theorem stored_delete
    (sound : Sound live files) {id : Id} :
    ((files.delete target deleted).store id).stored filename =
      if id = target ∧ filename = deleted then none
      else (files.store id).stored filename := by
  rw [delete, store_setStore]
  by_cases same : id = target
  · subst same
    rw [if_pos rfl, DFile.stored_deleteLocalFile (sound.tidy _)]
    simp
  · simp [same]

theorem registers_delete
    (sound : Sound live files) {id : Id} :
    ((files.delete target deleted).store id).Registers filename ↔
      (files.store id).Registers filename ∧
        ¬ (id = target ∧ filename = deleted) := by
  rw [delete, store_setStore]
  by_cases same : id = target
  · subst same
    rw [if_pos rfl, DFile.registers_deleteLocalFile (sound.tidy _).distinct]
    simp
  · simp [same]

/-- The target is no holder any more, unless it has an approval. -/
theorem holds_delete
    (sound : Sound live files)
    (unapproved : ∀ approval ∈ files.approvals, approval.filename ≠ deleted)
    {id : Id} :
    (files.delete target deleted).Holds id filename ↔
      files.Holds id filename ∧ ¬ (id = target ∧ filename = deleted) := by
  rw [Holds, registers_delete sound, Holds]
  constructor
  · rintro (⟨registered, differs⟩ | ⟨approval, underway, ofNode, named⟩)
    · exact ⟨.inl registered, differs⟩
    · refine ⟨.inr ⟨approval, underway, ofNode, named⟩, fun isThis => ?_⟩
      exact unapproved approval underway (named.trans isThis.2)
  · rintro ⟨registered | pending, differs⟩
    · exact .inl ⟨registered, differs⟩
    · exact .inr pending

theorem Sound.delete
    (sound : Sound live files)
    (unapproved : ∀ approval ∈ files.approvals, approval.filename ≠ deleted)
    (unfetched : ∀ fetch ∈ files.fetches,
      fetch.client.filename ≠ deleted) :
    Sound live (files.delete target deleted) := by
  have origin : ∀ filename content,
      (files.delete target deleted).Copy filename content →
        files.Copy filename content := by
    intro filename content copy
    cases copy with
    | stored id present =>
        rw [stored_delete sound] at present
        split at present
        · cases present
        · exact .stored id present
    | approved approval isApproval named ofContent =>
        exact .approved approval isApproval named ofContent
    | fetched fetch isFetch named ofContent =>
        exact .fetched fetch isFetch named ofContent
  refine sound.of_origin origin
    (sound.tidy_setStore (sound.tidy _).deleteLocalFile)
    (fun id filename holds =>
      sound.holdersLive id filename
        ((holds_delete sound unapproved).mp holds).1)
    (fun id filename registered => ?_) (fun fetch isFetch => ?_) sound.apart
  · obtain ⟨before, differs⟩ := (registers_delete sound).mp registered
    rw [stored_delete sound, if_neg differs]
    exact sound.complete id filename before
  · obtain ⟨targetLive, keeps, ⟨id, held⟩, fresh, pending⟩ :=
      sound.fetching fetch isFetch
    refine ⟨targetLive, keeps, ⟨id, ?_⟩, ?_, pending⟩
    · exact (holds_delete sound unapproved).mpr
        ⟨held, fun isThis => unfetched fetch isFetch isThis.2⟩
    · rw [stored_delete sound, if_neg]
      · exact fresh
      · exact fun isThis => unfetched fetch isFetch isThis.2

end Deleting

end Files

end Master
end CraneSps
