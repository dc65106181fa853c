import CraneSps.Master.Tracking

/-!
# Keeping track of the holders

One lemma for each step of the group: if the step is orderly, the masters that
lead keep track of the holders of all files, and what is stored or under way
stays sound.
-/

namespace CraneSps
namespace Master

open FileTransfer

variable {Id : Type} [DecidableEq Id]

namespace Group

variable {live : List Id} {group next : Group Id} {filename : String}
variable {shell : Shell}

theorem setServing_eq
    (group : Group Id) (id : Id) :
    ∃ serving, group.returnThread id = group.setServing id serving := by
  unfold returnThread
  split
  · exact ⟨_, rfl⟩
  · refine ⟨group.serving id, ?_⟩
    rw [setServing, Function.update_eq_self]

/-- A master's map is replaced, the others stay. -/
theorem hasFile_setFileMap
    {master other id : Id} {fileMap : FileMap Id}
    (replaced : other = master → fileMap.hasFile id filename = true)
    (kept : other ≠ master →
      (group.fileMap other).hasFile id filename = true) :
    ((group.setFileMap master fileMap).fileMap other).hasFile id filename =
      true := by
  simp only [setFileMap, Function.update_apply]
  split
  · next same => exact replaced same
  · next differs => exact kept differs

namespace Consistent

/-- The number of waiting threads does not matter. -/
theorem setServing
    (consistent : Consistent live group) (id : Id) (serving : Nat) :
    Consistent live (group.setServing id serving) := by
  exact consistent.extend (Extends.of_files rfl rfl (fun _ leads => leads)
    (fun _ _ _ _ _ accounts => accounts) (fun _ deleting => deleting))
    consistent.sound consistent.leadersLive

theorem returnThread
    (consistent : Consistent live group) (id : Id) :
    Consistent live (group.returnThread id) := by
  obtain ⟨serving, same⟩ := setServing_eq group id
  rw [same]
  exact consistent.setServing id serving

/-- A node learns of another leader. -/
theorem follow
    (consistent : Consistent live group) {id leader : Id}
    (isLive : id ∈ live) (isOther : leader ≠ id) :
    Consistent live
      { group with
        leader := Function.update group.leader id (some leader) } := by
  refine consistent.extend (Extends.of_files rfl rfl (fun master leads => ?_)
    (fun _ _ _ _ _ accounts => accounts) (fun _ deleting => deleting))
    consistent.sound (fun other known => ?_)
  · simp only [Function.update_apply] at leads
    split at leads
    · next same => exact absurd (Option.some.inj leads) (same ▸ isOther)
    · exact leads
  · simp only [Function.update_apply] at known
    split at known
    · next same => exact same ▸ isLive
    · exact consistent.leadersLive other known

/-- A node is elected and is going to ask all holders. -/
theorem elect
    (consistent : Consistent live group) {id : Id} {members : List Id}
    (isLive : id ∈ live)
    (complete : ∀ member ∈ live, member ∉ members →
      (group.store member).localFiles = [] ∧
        ∀ approval ∈ group.approvals, approval.putter ≠ member) :
    Consistent live
      { group with
        leader := Function.update group.leader id (some id)
        rebuilds := group.rebuilds ++ [⟨id, members, none⟩] } := by
  have known : ∀ other filename, group.files.Holds other filename →
      other ∈ members := by
    intro other filename holds
    by_contra outside
    obtain ⟨noFiles, noApproval⟩ := complete other
      (consistent.sound.holdersLive other filename holds) outside
    rcases holds with registered | ⟨approval, underway, ofNode, _⟩
    · obtain ⟨info, present, _⟩ := DFile.registers_iff.mp registered
      change info ∈ (group.store other).localFiles at present
      rw [noFiles] at present
      nomatch present
    · exact noApproval approval underway ofNode
  have accounts : ∀ master other filename,
      group.files.Holds other filename →
      (master ≠ id → group.Accounts master other filename) →
        Accounts
          { group with
            leader := Function.update group.leader id (some id)
            rebuilds := group.rebuilds ++ [⟨id, members, none⟩] }
          master other filename := by
    intro master other filename holds before
    by_cases same : master = id
    · exact .inr (.inl ⟨⟨id, members, none⟩,
        List.mem_append_right _ (List.mem_singleton_self _), same.symm,
        known other filename holds⟩)
    · exact (before same).mono (fun inMap => inMap)
        (List.subset_append_left _ _) (List.Subset.refl _)
  have led : ∀ master, master ≠ id →
      Function.update group.leader id (some id) master = some master →
        group.leader master = some master := by
    intro master differs leads
    rwa [Function.update_of_ne differs] at leads
  exact
    { sound := consistent.sound
      leadersLive := by
        intro other isKnown
        by_cases same : other = id
        · exact same ▸ isLive
        · simp only [Function.update_of_ne same] at isKnown
          exact consistent.leadersLive other isKnown
      tracked := by
        intro filename master leads other holds
        by_cases same : master = id
        · exact ⟨other, holds, accounts master other filename holds
            fun differs => absurd same differs⟩
        · obtain ⟨holder, isHolder, before⟩ :=
            consistent.tracked filename master (led master same leads) other
              holds
          exact ⟨holder, isHolder,
            accounts master holder filename isHolder fun _ => before⟩
      still := fun filename deleting =>
        ⟨(consistent.still filename deleting).withdrawn,
          (consistent.still filename deleting).unapproved,
          (consistent.still filename deleting).unfetched⟩
      allTracked := fun filename deleting master leads other holds =>
        accounts master other filename holds fun differs =>
          consistent.allTracked filename deleting master
            (led master differs leads) other holds
      standing := consistent.standing }

/-! ## Lists -/

/-- A member replies to the `LIST` command. -/
theorem list
    (consistent : Consistent live group) {index : Nat} {master : Id}
    {remaining : List Id} {reply reply' : Option (List FileInfo)}
    (found : group.rebuilds[index]? = some ⟨master, remaining, reply⟩) :
    Consistent live
      { group with
        rebuilds := group.rebuilds.set index ⟨master, remaining, reply'⟩ } := by
  refine consistent.extend (Extends.of_files rfl rfl (fun _ leads => leads)
    (fun other id filename _ _ accounts => ?_) (fun _ deleting => deleting))
    consistent.sound consistent.leadersLive
  rcases accounts with inMap | ⟨rebuild, ongoing, ofMaster, unlisted⟩ | handled
  · exact .inl inMap
  · by_cases same : rebuild = ⟨master, remaining, reply⟩
    · subst same
      exact .inr (.inl ⟨⟨master, remaining, reply'⟩, List.mem_set
        (List.getElem?_eq_some_iff.mp found).1 _, ofMaster, unlisted⟩)
    · exact .inr (.inl ⟨rebuild, List.mem_set_of_ne ongoing found same,
        ofMaster, unlisted⟩)
  · exact .inr (.inr handled)

/-- A reply that lists the files of its sender takes away none of them. -/
theorem hasFile_of_listReply
    {fileMap : FileMap Id} {member other : Id} {infos : List FileInfo}
    (kept : other = member → listsFile infos filename = true)
    (before : other ≠ member → fileMap.hasFile other filename = true) :
    (fileMap.processListReply member infos).hasFile other filename =
      true := by
  rw [FileMap.hasFile_processListReply]
  split
  · next replaced => exact kept replaced.1
  · next unchanged =>
      apply before
      intro same
      have lists := kept same
      have nothing : infos = [] := by
        by_contra listed
        exact unchanged ⟨same, listed⟩
      rw [nothing] at lists
      nomatch lists

/-- The reply of a member replaces what the map has of it. -/
theorem updateFileMap
    (consistent : Consistent live group) {index : Nat} {master member : Id}
    {remaining : List Id} {infos : List FileInfo}
    (found : group.rebuilds[index]? =
      some ⟨master, member :: remaining, some infos⟩)
    (current : ∀ info ∈ (group.store member).localFiles,
      listsFile infos info.name = true)
    (unapproved : ∀ approval ∈ group.approvals, approval.putter ≠ member) :
    Consistent live
      { group.setFileMap master
          ((group.fileMap master).processListReply member infos) with
        rebuilds := group.rebuilds.set index ⟨master, remaining, none⟩ } := by
  have lists : ∀ filename, group.files.Holds member filename →
      listsFile infos filename = true := by
    intro filename holds
    rcases holds with registered | ⟨approval, underway, ofNode, _⟩
    · obtain ⟨info, present, rfl⟩ := DFile.registers_iff.mp registered
      exact current info present
    · exact absurd ofNode (unapproved approval underway)
  refine consistent.extend (Extends.of_files rfl rfl (fun _ leads => leads)
    (fun other id filename _ holds accounts => ?_)
    (fun _ deleting => deleting)) consistent.sound consistent.leadersLive
  have listed : (id ≠ member →
      (group.fileMap master).hasFile id filename = true) →
        ((group.fileMap master).processListReply member infos).hasFile id
          filename = true :=
    hasFile_of_listReply fun same => lists filename (same ▸ holds)
  rcases accounts with inMap | ⟨rebuild, ongoing, ofMaster, unlisted⟩ | handled
  · exact .inl (hasFile_setFileMap
      (fun same => listed fun _ => same ▸ inMap) fun _ => inMap)
  · by_cases isThis : rebuild = ⟨master, member :: remaining, some infos⟩
    · subst isThis
      rcases List.mem_cons.mp unlisted with same | later
      · exact .inl (hasFile_setFileMap
          (fun _ => listed fun differs => absurd same differs)
          fun differs => absurd ofMaster.symm differs)
      · exact .inr (.inl ⟨⟨master, remaining, none⟩, List.mem_set
          (List.getElem?_eq_some_iff.mp found).1 _, ofMaster, later⟩)
    · exact .inr (.inl ⟨rebuild, List.mem_set_of_ne ongoing found isThis,
        ofMaster, unlisted⟩)
  · exact .inr (.inr handled)

/-! ## New holders -/

/-- Adding to a map loses nothing. -/
theorem hasFile_of_add
    {master other id added : Id} {info : FileInfo}
    (inMap : (group.fileMap other).hasFile id filename = true) :
    ((group.setFileMap master
      ((group.fileMap master).addToFileMap added info)).fileMap other).hasFile
        id filename = true :=
  hasFile_setFileMap
    (fun same => FileMap.hasFile_addToFileMap.mpr (.inr (same ▸ inMap)))
    fun _ => inMap

/-- An `UPDATE` is handled. -/
theorem update
    (consistent : Consistent live group) (master id : Id) (info : FileInfo) :
    Consistent live
      (group.setFileMap master
        ((group.fileMap master).addToFileMap id info)) := by
  refine consistent.extend (Extends.of_files rfl rfl (fun _ leads => leads)
    (fun other holder filename _ _ accounts => ?_)
    (fun _ deleting => deleting)) consistent.sound consistent.leadersLive
  exact accounts.imp_left hasFile_of_add

/-- An approved `PUT` gets into the map. -/
theorem addToFileMap
    (consistent : Consistent live group) {index : Nat} {master putter : Id}
    {info : FileInfo}
    (found : group.handlers[index]? =
      some (.registering master putter info)) :
    Consistent live
      { group.setFileMap master
          ((group.fileMap master).addToFileMap putter info) with
        handlers := group.handlers.eraseIdx index } := by
  refine consistent.extend (Extends.of_files rfl rfl (fun _ leads => leads)
    (fun other holder filename _ _ accounts => ?_) ?_)
    consistent.sound consistent.leadersLive
  · rcases accounts with inMap | ongoing | ⟨handled, isHandled, named⟩
    · exact .inl (hasFile_of_add inMap)
    · exact .inr (.inl ongoing)
    · rcases List.eq_or_mem_eraseIdx isHandled found with isThis | remains
      · obtain ⟨rfl, rfl, rfl⟩ := Handler.registering.inj isThis
        exact .inl (hasFile_setFileMap
          (fun _ => FileMap.hasFile_addToFileMap.mpr (.inl ⟨rfl, named⟩))
          fun differs => absurd rfl differs)
      · exact .inr (.inr ⟨handled, remains, named⟩)
  · rintro filename ⟨handler, remains, deletes⟩
    exact ⟨handler, List.mem_of_mem_eraseIdx remains, deletes⟩

/-- A settled master that knows no holder of a file is right. -/
theorem nobody
    (consistent : Consistent live group) {master : Id}
    (isLive : master ∈ live)
    (follows : Follows live group master)
    (settled : ∀ rebuild ∈ group.rebuilds,
      rebuild.master = master → rebuild.remaining = [])
    (unhandled : ∀ handler ∈ group.handlers, handler.filename ≠ filename)
    (unknown : (group.fileMap master).countReplicates filename = 0)
    (id : Id) : ¬ group.files.Holds id filename := by
  intro holds
  obtain ⟨holder, _, accounts⟩ :=
    consistent.tracked filename master (follows master isLive) id holds
  rcases accounts with inMap | ⟨rebuild, ongoing, ofMaster, unlisted⟩ |
    ⟨info, handled, named⟩
  · exact Finset.card_ne_zero_of_mem (FileMap.mem_holders_iff.mpr inMap)
      unknown
  · rw [settled rebuild ongoing ofMaster] at unlisted
    nomatch unlisted
  · exact unhandled _ handled named

/-- A `PUT` of a file without holders is approved. -/
theorem approvePut
    (consistent : Consistent live group) {master putter : Id}
    {info : FileInfo} {content : Bytes}
    (isLive : putter ∈ live)
    (follows : Follows live group master)
    (unhandled : ∀ handler ∈ group.handlers, handler.filename ≠ info.name)
    (nobody : ∀ id, ¬ group.files.Holds id info.name)
    (nonempty : content ≠ [])
    (fits : List.chunkCount 256000 content.length < 2 ^ 31) :
    Consistent live (group.approvePut master putter info content) := by
  have holds_iff : ∀ id filename,
      (group.approvePut master putter info content).files.Holds id filename ↔
        group.files.Holds id filename ∨
          (putter = id ∧ info.name = filename) :=
    fun id filename =>
      (Files.holds_approve :
        (group.files.approve ⟨putter, info.name, content⟩).Holds id
          filename ↔ _)
  have deleting : ∀ filename,
      (group.approvePut master putter info content).Deleting filename →
        group.Deleting filename ∧ info.name ≠ filename := by
    rintro filename ⟨handler, handled, deletes⟩
    rcases List.mem_append.mp handled with old | new
    · refine ⟨⟨handler, old, deletes⟩, fun same => unhandled handler old ?_⟩
      rw [Handler.filename_of_deletes deletes, same]
    · obtain rfl := List.mem_singleton.mp new
      exact deletes.elim
  have accounts : ∀ other id filename, group.Accounts other id filename →
      (group.approvePut master putter info content).Accounts other id
        filename :=
    fun _ _ _ before => before.mono (fun inMap => inMap)
      (List.Subset.refl _) (List.subset_append_left _ _)
  refine
    { sound := consistent.sound.approve isLive nobody nonempty fits
      leadersLive := consistent.leadersLive
      tracked := ?_
      still := ?_
      allTracked := ?_
      standing := ?_ }
  · intro filename other leads id holds
    rcases (holds_iff id filename).mp holds with old | ⟨isPutter, named⟩
    · obtain ⟨holder, isHolder, before⟩ :=
        consistent.tracked filename other leads id old
      exact ⟨holder, (holds_iff holder filename).mpr (.inl isHolder),
        accounts other holder filename before⟩
    · obtain rfl := consistent.eq_of_follows follows leads
      exact ⟨id, holds, .inr (.inr ⟨info, List.mem_append_right _
        (List.mem_singleton.mpr (isPutter ▸ rfl)), named⟩)⟩
  · intro filename isDeleting
    obtain ⟨before, differs⟩ := deleting filename isDeleting
    have still := consistent.still filename before
    refine
      { withdrawn := ?_
        unapproved := ?_
        unfetched := still.unfetched }
    · intro stands
      rcases List.mem_append.mp stands with old | new
      · exact still.withdrawn old
      · exact differs (List.mem_singleton.mp new).symm
    · intro approval underway
      rcases List.mem_append.mp underway with old | new
      · exact still.unapproved approval old
      · obtain rfl := List.mem_singleton.mp new
        exact differs
  · intro filename isDeleting other leads id holds
    obtain ⟨before, differs⟩ := deleting filename isDeleting
    rcases (holds_iff id filename).mp holds with old | ⟨_, named⟩
    · exact accounts other id filename
        (consistent.allTracked filename before other leads id old)
    · exact absurd named differs
  · intro filename stands
    rcases List.mem_append.mp stands with old | new
    · obtain ⟨id, holds⟩ := consistent.standing filename old
      exact ⟨id, (holds_iff id filename).mpr (.inl holds)⟩
    · exact ⟨putter, (holds_iff putter filename).mpr
        (.inr ⟨rfl, (List.mem_singleton.mp new).symm⟩)⟩

/-! ## Copies -/

/-- The putting node copies the file. -/
theorem receiveApproval
    (consistent : Consistent live group) {index : Nat}
    {approval : Approval Id}
    (found : group.approvals[index]? = some approval) :
    Consistent live
      { group.setStore approval.putter
          ((group.store approval.putter).copyBufferedFile shell
            approval.filename approval.content) with
        approvals := group.approvals.eraseIdx index } := by
  have holds_iff : ∀ id filename,
      (group.files.copyApproved shell index approval).Holds id filename ↔
        group.files.Holds id filename :=
    fun _ _ => Files.holds_copyApproved found
  refine consistent.extend ?_ (consistent.sound.copyApproved found)
    consistent.leadersLive
  exact
    { leaders := fun _ leads => leads
      kept := fun id filename => (holds_iff id filename).mpr
      known := fun id filename holds => ⟨id, (holds_iff id filename).mp holds⟩
      accounts := fun _ _ _ _ _ accounts => accounts
      standing := rfl
      deleting := fun _ deleting => deleting
      still := fun filename _ still =>
        { withdrawn := still.withdrawn
          unapproved := fun other remains =>
            still.unapproved other (List.mem_of_mem_eraseIdx remains)
          unfetched := still.unfetched }
      others := fun id filename _ _ => (holds_iff id filename).mp }

/-- A further fetch of a file is started. -/
theorem ask
    (consistent : Consistent live group) {fetch : GroupFetch Id}
    (sound : (group.files.ask fetch).Sound live)
    (undeleted : ∀ handler ∈ group.handlers,
      ¬ handler.Deletes fetch.client.filename) :
    Consistent live { group with fetches := group.fetches ++ [fetch] } := by
  refine consistent.extend ?_ sound consistent.leadersLive
  exact
    { leaders := fun _ leads => leads
      kept := fun _ _ holds => holds
      known := fun id _ holds => ⟨id, holds⟩
      accounts := fun _ _ _ _ _ accounts => accounts
      standing := rfl
      deleting := fun _ deleting => deleting
      still := by
        rintro filename ⟨handler, handled, deletes⟩ still
        refine
          { withdrawn := still.withdrawn
            unapproved := still.unapproved
            unfetched := ?_ }
        intro other underway
        rcases List.mem_append.mp underway with old | new
        · exact still.unfetched other old
        · obtain rfl := List.mem_singleton.mp new
          rintro rfl
          exact undeleted handler handled deletes
      others := fun _ _ _ _ holds => holds }

/-- A node with the complete file asks a target. -/
theorem sendFileRequest
    (consistent : Consistent live group) {source target : Id} {port : Int}
    {client : FetchClient}
    (isLive : target ∈ live)
    (started : (group.store target).processSendRequest
      ((group.store source).sendRequest shell filename port) = some client)
    (registered : (group.store source).Registers filename)
    (alone : ∀ fetch ∈ group.fetches,
      fetch.target = target → fetch.client.filename ≠ filename)
    (unapproved : ∀ approval ∈ group.approvals,
      approval.putter = target → approval.filename ≠ filename)
    (undeleted : ∀ handler ∈ group.handlers, ¬ handler.Deletes filename) :
    Consistent live
      { group with
        fetches := group.fetches ++
          [⟨target, client, client.fetched
            ((group.store source).stored filename)⟩] } := by
  obtain ⟨available, rfl, keeps, isClient⟩ :=
    processSendRequest_eq_some started
  apply consistent.ask _ undeleted
  refine consistent.sound.ask
    { targetLive := isLive
      keeps := keeps
      held := ⟨source, .inl registered⟩
      fresh := ?_
      unapproved := ?_ } (fun fetch underway => alone fetch underway) ?_
  · by_contra present
    exact available
      ((consistent.sound.tidy target).registered client.filename present)
  · rintro ⟨approval, underway, ofTarget, named⟩
    exact unapproved approval underway ofTarget named
  · obtain ⟨content, present⟩ : ∃ content,
        (group.store source).stored client.filename = some content :=
      Option.ne_none_iff_exists'.mp
        (consistent.sound.complete source client.filename registered)
    have copy : group.files.Copy client.filename content :=
      .stored source present
    have fits := consistent.sound.fits _ _ copy
    have whole : client.fetched (some content) = content := by
      rw [isClient content present]
      exact fetched_clientFor fits
    change group.files.Copy client.filename
      (client.fetched ((group.store source).stored client.filename))
    rw [present, whole]
    exact copy

/-- A fetch makes its target a holder. -/
theorem finishFetch
    (consistent : Consistent live group) {index : Nat}
    {fetch : GroupFetch Id}
    (found : group.fetches[index]? = some fetch) :
    Consistent live
      { group.setStore fetch.target
          (fetch.client.fetchAll shell (group.store fetch.target)
            fetch.content) with
        fetches := group.fetches.eraseIdx index } := by
  have underway : fetch ∈ group.fetches := List.mem_of_getElem? found
  have brings : Files.Brings live group.files fetch :=
    consistent.sound.fetching fetch underway
  have holds_iff : ∀ id filename,
      (group.files.finishFetch shell index fetch).Holds id filename ↔
        (id = fetch.target ∧ filename = fetch.client.filename) ∨
          group.files.Holds id filename :=
    fun _ _ => Files.holds_finishFetch brings.keeps
  refine consistent.extend ?_ (consistent.sound.finishFetch found)
    consistent.leadersLive
  exact
    { leaders := fun _ leads => leads
      kept := fun id filename holds => (holds_iff id filename).mpr (.inr holds)
      known := by
        intro id filename holds
        rcases (holds_iff id filename).mp holds with ⟨_, rfl⟩ | old
        · exact brings.held
        · exact ⟨id, old⟩
      accounts := fun _ _ _ _ _ accounts => accounts
      standing := rfl
      deleting := fun _ deleting => deleting
      still := fun filename _ still =>
        { withdrawn := still.withdrawn
          unapproved := still.unapproved
          unfetched := fun other remains =>
            still.unfetched other (List.mem_of_mem_eraseIdx remains) }
      others := by
        intro id filename _ still holds
        rcases (holds_iff id filename).mp holds with ⟨_, named⟩ | old
        · exact absurd named.symm (still.unfetched fetch underway)
        · exact old }

/-! ## Deletions -/

/-- A `DEL` of a file all of whose copies are known. -/
theorem startDelete
    (consistent : Consistent live group) {master : Id} {members : List Id}
    (follows : Follows live group master)
    (complete : ∀ id ∈ live, (group.store id).Registers filename →
      (group.fileMap master).hasFile id filename = true)
    (unfetched : ∀ fetch ∈ group.fetches, fetch.client.filename ≠ filename)
    (unapproved : ∀ approval ∈ group.approvals,
      approval.filename ≠ filename) :
    Consistent live (group.startDelete master filename members) := by
  have accounts : ∀ other id name, group.Accounts other id name →
      (group.startDelete master filename members).Accounts other id name :=
    fun _ _ _ before => before.mono (fun inMap => inMap)
      (List.Subset.refl _) (List.subset_append_left _ _)
  have deleting : ∀ name,
      (group.startDelete master filename members).Deleting name →
        group.Deleting name ∨ filename = name := by
    rintro name ⟨handler, handled, deletes⟩
    rcases List.mem_append.mp handled with old | new
    · exact .inl ⟨handler, old, deletes⟩
    · obtain rfl := List.mem_singleton.mp new
      exact .inr deletes
  have remains : ∀ name,
      name ∈ (group.startDelete master filename members).standing ↔
        name ∈ group.standing ∧ name ≠ filename := by
    intro name
    simp [Group.startDelete]
  refine
    { sound := consistent.sound
      leadersLive := consistent.leadersLive
      tracked := ?_
      still := ?_
      allTracked := ?_
      standing := fun name stands =>
        consistent.standing name ((remains name).mp stands).1 }
  · intro name other leads id holds
    obtain ⟨holder, isHolder, before⟩ :=
      consistent.tracked name other leads id holds
    exact ⟨holder, isHolder, accounts other holder name before⟩
  · intro name isDeleting
    rcases deleting name isDeleting with before | rfl
    · have still := consistent.still name before
      exact
        { withdrawn := fun stands =>
            still.withdrawn ((remains name).mp stands).1
          unapproved := still.unapproved
          unfetched := still.unfetched }
    · exact
        { withdrawn := fun stands => ((remains _).mp stands).2 rfl
          unapproved := unapproved
          unfetched := unfetched }
  · intro name isDeleting other leads id holds
    rcases deleting name isDeleting with before | rfl
    · exact accounts other id name
        (consistent.allTracked name before other leads id holds)
    · obtain rfl := consistent.eq_of_follows follows leads
      have isLive := consistent.sound.holdersLive id _ holds
      rcases holds with registered | ⟨approval, underway, _, named⟩
      · exact .inl (complete id isLive registered)
      · exact absurd named (unapproved approval underway)

/-- The next target has deleted the file. -/
theorem deleteAt
    (consistent : Consistent live group) {index : Nat} {master target : Id}
    {targets : List Id}
    (found : group.handlers[index]? =
      some (.deleting master filename (target :: targets))) :
    Consistent live
      (group.deleteAt index master filename target targets) := by
  have underway : group.Deleting filename :=
    ⟨_, List.mem_of_getElem? found, rfl⟩
  have still := consistent.still filename underway
  have holds_iff : ∀ id name,
      (group.deleteAt index master filename target targets).files.Holds id
          name ↔
        group.files.Holds id name ∧ ¬ (id = target ∧ name = filename) :=
    fun id name =>
      (Files.holds_delete consistent.sound still.unapproved :
        (group.files.delete target filename).Holds id name ↔ _)
  have accounts : ∀ other id name, ¬ (id = target ∧ name = filename) →
      group.Accounts other id name →
        (group.deleteAt index master filename target targets).Accounts other
          id name := by
    rintro other id name differs (inMap | ongoing | ⟨info, handled, named⟩)
    · exact .inl (hasFile_setFileMap
        (fun same => FileMap.hasFile_deleteFromFileMap.mpr
          ⟨same ▸ inMap, differs⟩) fun _ => inMap)
    · exact .inr (.inl ongoing)
    · exact .inr (.inr
        ⟨info, List.mem_set_of_ne handled found nofun, named⟩)
  have deleting : ∀ name,
      (group.deleteAt index master filename target targets).Deleting name →
        group.Deleting name := by
    rintro name ⟨handler, handled, deletes⟩
    rcases List.mem_or_eq_of_mem_set handled with old | rfl
    · exact ⟨handler, old, deletes⟩
    · exact ⟨_, List.mem_of_getElem? found, deletes⟩
  refine
    { sound := consistent.sound.delete still.unapproved still.unfetched
      leadersLive := consistent.leadersLive
      tracked := ?_
      still := fun name isDeleting =>
        have before := consistent.still name (deleting name isDeleting)
        ⟨before.withdrawn, before.unapproved, before.unfetched⟩
      allTracked := ?_
      standing := ?_ }
  · intro name other leads id holds
    obtain ⟨held, differs⟩ := (holds_iff id name).mp holds
    by_cases same : name = filename
    · subst same
      exact ⟨id, holds, accounts other id name differs
        (consistent.allTracked name underway other leads id held)⟩
    · obtain ⟨holder, isHolder, before⟩ :=
        consistent.tracked name other leads id held
      have apart : ¬ (holder = target ∧ name = filename) :=
        fun isThis => same isThis.2
      exact ⟨holder, (holds_iff holder name).mpr ⟨isHolder, apart⟩,
        accounts other holder name apart before⟩
  · intro name isDeleting other leads id holds
    obtain ⟨held, differs⟩ := (holds_iff id name).mp holds
    exact accounts other id name differs
      (consistent.allTracked name (deleting name isDeleting) other leads id
        held)
  · intro name stands
    obtain ⟨id, holds⟩ := consistent.standing name stands
    refine ⟨id, (holds_iff id name).mpr ⟨holds, fun isThis => ?_⟩⟩
    exact still.withdrawn (isThis.2 ▸ stands)

/-- A `deleteFile` has come to its end. -/
theorem endDelete
    (consistent : Consistent live group) {index : Nat} {master : Id}
    (found : group.handlers[index]? = some (.deleting master filename [])) :
    Consistent live
      { group with handlers := group.handlers.eraseIdx index } := by
  refine consistent.extend (Extends.of_files rfl rfl (fun _ leads => leads)
    (fun other id name _ _ accounts => ?_) ?_)
    consistent.sound consistent.leadersLive
  · rcases accounts with inMap | ongoing | ⟨info, handled, named⟩
    · exact .inl inMap
    · exact .inr (.inl ongoing)
    · rcases List.eq_or_mem_eraseIdx handled found with isThis | remains
      · cases isThis
      · exact .inr (.inr ⟨info, remains, named⟩)
  · rintro name ⟨handler, remains, deletes⟩
    exact ⟨handler, List.mem_of_mem_eraseIdx remains, deletes⟩

/-- Every orderly step. -/
theorem step
    (consistent : Consistent live group) {action : GroupAction Id}
    (orderly : Orderly live group action)
    (stepped : group.step shell live action = some next) :
    Consistent live next := by
  cases action with
  | leaderElected id leader members =>
      simp only [Group.step, Option.ite_none_right_eq_some,
        Option.some.injEq] at stepped
      obtain ⟨isLive, rfl⟩ := stepped
      unfold Group.leaderElected
      split
      · next isElected =>
          subst isElected
          exact (consistent.elect isLive (orderly rfl)).setServing _ _
      · next isOther => exact consistent.follow isLive isOther
  | list index =>
      simp only [Group.step] at stepped
      split at stepped
      · next master member remaining found =>
          simp only [Option.ite_none_right_eq_some,
            Option.some.injEq] at stepped
          obtain ⟨_, rfl⟩ := stepped
          exact consistent.list found
      · cases stepped
  | updateFileMap index =>
      simp only [Group.step] at stepped
      split at stepped
      · next master member remaining infos found =>
          obtain rfl := Option.some.inj stepped
          obtain ⟨current, unapproved⟩ :=
            orderly _ found infos rfl member rfl
          exact consistent.updateFileMap found current unapproved
      · cases stepped
  | put master putter filename content =>
      simp only [Group.step, Option.ite_none_right_eq_some] at stepped
      obtain ⟨⟨⟨masterLive, isLive⟩, _⟩, stepped⟩ := stepped
      split at stepped
      · next unknown =>
          obtain rfl := Option.some.inj stepped
          obtain ⟨follows, settled, unhandled, nonempty, fits⟩ :=
            orderly unknown
          exact (consistent.setServing _ _).approvePut isLive follows
            unhandled (consistent.nobody masterLive follows settled unhandled
              unknown) nonempty fits
      · obtain rfl := Option.some.inj stepped
        exact (consistent.setServing _ _).returnThread _
  | addToFileMap index =>
      simp only [Group.step] at stepped
      split at stepped
      · next master putter info found =>
          obtain rfl := Option.some.inj stepped
          exact (consistent.addToFileMap found).returnThread _
      · cases stepped
  | receiveApproval index =>
      simp only [Group.step] at stepped
      split at stepped
      · next putter filename content found =>
          obtain rfl := Option.some.inj stepped
          exact consistent.receiveApproval found
      · cases stepped
  | loseApproval index => exact orderly.elim
  | sendFileRequest source target filename port =>
      simp only [Group.step, Option.ite_none_right_eq_some] at stepped
      obtain ⟨isLive, stepped⟩ := stepped
      obtain ⟨registered, alone, unapproved, undeleted⟩ := orderly
      split at stepped
      · next client started =>
          obtain rfl := Option.some.inj stepped
          exact consistent.sendFileRequest isLive started registered alone
            unapproved undeleted
      · obtain rfl := Option.some.inj stepped
        exact consistent
  | finishFetch index =>
      simp only [Group.step] at stepped
      split at stepped
      · next target client content found =>
          obtain rfl := Option.some.inj stepped
          exact consistent.finishFetch found
      · cases stepped
  | update master id info =>
      simp only [Group.step, Option.ite_none_right_eq_some,
        Option.some.injEq] at stepped
      obtain ⟨_, rfl⟩ := stepped
      exact ((consistent.setServing _ _).update master id info).returnThread _
  | delete master filename members =>
      simp only [Group.step, Option.ite_none_right_eq_some] at stepped
      obtain ⟨_, stepped⟩ := stepped
      split at stepped
      · obtain rfl := Option.some.inj stepped
        exact (consistent.setServing _ _).returnThread _
      · next known =>
          obtain rfl := Option.some.inj stepped
          obtain ⟨follows, complete, unfetched, unapproved⟩ := orderly known
          exact (consistent.setServing _ _).startDelete follows complete
            unfetched unapproved
  | deleteNext index =>
      simp only [Group.step] at stepped
      split at stepped
      · next master filename target targets found =>
          simp only [Option.ite_none_right_eq_some,
            Option.some.injEq] at stepped
          obtain ⟨_, rfl⟩ := stepped
          exact consistent.deleteAt found
      · next master filename found =>
          obtain rfl := Option.some.inj stepped
          exact (consistent.endDelete found).returnThread _
      · cases stepped

end Consistent

end Group

end Master
end CraneSps
