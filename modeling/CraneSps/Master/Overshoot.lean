import CraneSps.Master.Cluster

/-!
# How many nodes get a file

`replicateFile` counts the holders that its map knows, while targets that have
been commanded are known to it only after their `UPDATE`s.  A call that knows
every member that has the file, or is getting it, keeps the number of these
members at three at most; a call that does not may command further ones.
-/

namespace CraneSps
namespace Master

open FileTransfer

variable {Id : Type} [LinearOrder Id]

instance (files : Files Id) (id : Id) (filename : String) :
    Decidable (files.Holds id filename) := by
  unfold Files.Holds Files.Pending
  infer_instance

namespace Cluster

/-- The file is on its way to the node, or has been commanded to be. -/
def Brought (cluster : Cluster Id) (id : Id) (filename : String) : Prop :=
  (∃ fetch ∈ cluster.files.fetches,
    fetch.target = id ∧ fetch.client.filename = filename) ∨
  ∃ command ∈ cluster.commands,
    command.1 = filename ∧ id ∈ command.2.targets

instance (cluster : Cluster Id) (id : Id) (filename : String) :
    Decidable (cluster.Brought id filename) := by
  unfold Brought
  infer_instance

/-- The node has the file, also if it has only been approved to put it, or is
going to get it. -/
def Occupies (cluster : Cluster Id) (id : Id) (filename : String) : Prop :=
  cluster.files.Holds id filename ∨ cluster.Brought id filename

instance (cluster : Cluster Id) (id : Id) (filename : String) :
    Decidable (cluster.Occupies id filename) := by
  unfold Occupies
  infer_instance

/-- The members that have the file or are going to get it. -/
def occupants (cluster : Cluster Id) (filename : String) : Finset Id :=
  cluster.members.toFinset.filter fun id => cluster.Occupies id filename

/-- The files that the node has or is going to get. -/
def occupied (cluster : Cluster Id) (id : Id) : List String :=
  (cluster.files.store id).localFiles.map FileInfo.name ++
    (cluster.files.approvals.filter fun approval =>
      approval.putter = id).map Approval.filename ++
    (cluster.files.fetches.filter fun fetch =>
      fetch.target = id).map (fun fetch => fetch.client.filename) ++
    (cluster.commands.filter fun command =>
      id ∈ command.2.targets).map Prod.fst

/-- The members that a master can choose as targets. -/
def candidates
    (cluster : Cluster Id) (master : Id) (filename : String) : Finset Id :=
  cluster.members.toFinset.filter fun id =>
    (cluster.fileMap master).hasFile id filename = false

/-- Those of them that neither have the file nor are going to get it. -/
def free
    (cluster : Cluster Id) (master : Id) (filename : String) : Finset Id :=
  (cluster.candidates master filename).filter fun id =>
    ¬ cluster.Occupies id filename

/-- The number of targets that a call of `replicateFile` looks for. -/
def wanted
    (cluster : Cluster Id) (master : Id) (filename : String) : Nat :=
  toUnsigned (numTargets (cluster.fileMap master) cluster.members filename)

/-- A member that joins with a file, and a member that puts one, is at most
the third one with it; and a call of `replicateFile` that can end does not
look for more targets, among the members the file is not going to, than are
missing to three. -/
def Spare (cluster : Cluster Id) : ClusterAction Id → Prop
  | .join id =>
      ∀ filename ∈ cluster.occupied id,
        (cluster.occupants filename).card < 3
  | .put master putter filename _ =>
      (cluster.fileMap master).countReplicates filename = 0 →
        putter ∈ cluster.members → cluster.Occupies putter filename ∨
          (cluster.occupants filename).card < 3
  | .replicate master filename _ =>
      cluster.wanted master filename ≤
          (cluster.candidates master filename).card →
        (cluster.occupants filename).card +
          min (cluster.wanted master filename)
            (cluster.free master filename).card ≤ 3
  | _ => True

instance (cluster : Cluster Id) (action : ClusterAction Id) :
    Decidable (Spare cluster action) := by
  rcases action <;> unfold Spare <;> infer_instance

/-- No file is with, or on its way to, more than three members. -/
def Few (cluster : Cluster Id) : Prop :=
  ∀ filename, (cluster.occupants filename).card ≤ 3

section Counting

variable {cluster next : Cluster Id} {id : Id} {filename : String}

theorem mem_occupants_iff :
    id ∈ cluster.occupants filename ↔
      id ∈ cluster.members ∧ cluster.Occupies id filename := by
  rw [occupants, Finset.mem_filter, List.mem_toFinset]

theorem mem_occupied_iff :
    filename ∈ cluster.occupied id ↔ cluster.Occupies id filename := by
  simp only [occupied, List.mem_append, List.mem_map, List.mem_filter,
    decide_eq_true_eq, Occupies, Files.Holds, Files.Pending, Brought,
    DFile.registers_iff, and_assoc, or_assoc]
  simp only [and_comm]

theorem mem_candidates_iff {master : Id} :
    id ∈ cluster.candidates master filename ↔
      id ∈ cluster.members ∧
        (cluster.fileMap master).hasFile id filename = false := by
  rw [candidates, Finset.mem_filter, List.mem_toFinset]

theorem mem_free_iff {master : Id} :
    id ∈ cluster.free master filename ↔
      id ∈ cluster.candidates master filename ∧
        ¬ cluster.Occupies id filename := by
  rw [free, Finset.mem_filter]

/-- Nobody new has the file or is going to get it. -/
theorem Few.of_origin
    (few : cluster.Few)
    (members : ∀ id ∈ next.members, id ∈ cluster.members)
    (origin : ∀ id filename, next.Occupies id filename →
      cluster.Occupies id filename) : next.Few := by
  intro filename
  refine le_trans (Finset.card_le_card fun id isOccupant => ?_)
    (few filename)
  obtain ⟨isMember, occupies⟩ := mem_occupants_iff.mp isOccupant
  exact mem_occupants_iff.mpr
    ⟨members id isMember, origin id filename occupies⟩

/-- One more member has the file or is going to get it. -/
theorem Few.of_one
    (few : cluster.Few) (id : Id) (room : ∀ filename,
      id ∈ next.members → next.Occupies id filename →
        (id ∈ cluster.members ∧ cluster.Occupies id filename) ∨
          (cluster.occupants filename).card < 3)
    (origin : ∀ other filename, other ∈ next.members →
      next.Occupies other filename → other ≠ id →
        other ∈ cluster.members ∧ cluster.Occupies other filename) :
    next.Few := by
  intro filename
  have subset : next.occupants filename ⊆
      insert id (cluster.occupants filename) := by
    intro other isOccupant
    obtain ⟨isMember, occupies⟩ := mem_occupants_iff.mp isOccupant
    rw [Finset.mem_insert, mem_occupants_iff]
    by_cases same : other = id
    · exact .inl same
    · exact .inr (origin other filename isMember occupies same)
  by_cases isNew : id ∈ next.occupants filename ∧
      id ∉ cluster.occupants filename
  · obtain ⟨isMember, occupies⟩ := mem_occupants_iff.mp isNew.1
    rcases room filename isMember occupies with old | room
    · exact absurd (mem_occupants_iff.mpr old) isNew.2
    · exact (Finset.card_le_card subset).trans
        ((Finset.card_insert_le _ _).trans room)
  · refine le_trans (Finset.card_le_card fun other isOccupant => ?_)
      (few filename)
    rcases Finset.mem_insert.mp (subset isOccupant) with rfl | old
    · by_contra fresh
      exact isNew ⟨isOccupant, fresh⟩
    · exact old

end Counting

/-! ## Calls of `replicateFile` -/

section Calls

variable {cluster : Cluster Id} {master : Id} {filename : String}
variable {draws : List Nat} {command : Replication Id}

/-- The new targets are free. -/
theorem card_union_le
    (card : command.targets.card = cluster.wanted master filename)
    (subset : command.targets ⊆ cluster.candidates master filename) :
    (cluster.occupants filename ∪ command.targets).card ≤
      (cluster.occupants filename).card +
        min (cluster.wanted master filename)
          (cluster.free master filename).card := by
  have added : command.targets \ cluster.occupants filename ⊆
      cluster.free master filename := by
    intro id isAdded
    rw [Finset.mem_sdiff, mem_occupants_iff] at isAdded
    have isCandidate := subset isAdded.1
    refine mem_free_iff.mpr ⟨isCandidate, fun occupies => ?_⟩
    exact isAdded.2 ⟨(mem_candidates_iff.mp isCandidate).1, occupies⟩
  have fewFree := Finset.card_le_card added
  have fewWanted : (command.targets \ cluster.occupants filename).card ≤
      cluster.wanted master filename :=
    card ▸ Finset.card_le_card Finset.sdiff_subset
  rw [← Finset.union_sdiff_self_eq_union, Finset.card_union_of_disjoint
    Finset.disjoint_sdiff]
  omega

/-- Every command of a spare call keeps the bound. -/
theorem card_union_le_of_spare
    {others : List Nat}
    (spare : Spare cluster (.replicate master filename others))
    (called : replicateFile (cluster.fileMap master) cluster.members filename
      draws = some (some command)) :
    (cluster.occupants filename ∪ command.targets).card ≤ 3 := by
  obtain ⟨card, chosen, _⟩ := replicateFile_spec called
  have subset : command.targets ⊆ cluster.candidates master filename :=
    fun id isTarget => mem_candidates_iff.mpr (chosen id isTarget)
  have enough : cluster.wanted master filename ≤
      (cluster.candidates master filename).card := by
    rw [wanted, ← card]
    exact Finset.card_le_card subset
  exact (card_union_le card subset).trans (spare enough)

/-- If the master knows a member with the file, only spare calls keep the
bound whatever they draw. -/
theorem spare_replicate_iff
    {source : Id} (few : cluster.Few)
    (isMember : source ∈ cluster.members)
    (holds : (cluster.fileMap master).hasFile source filename = true) :
    Spare cluster (.replicate master filename draws) ↔
      ∀ draws command,
        replicateFile (cluster.fileMap master) cluster.members filename draws =
            some (some command) →
          (cluster.occupants filename ∪ command.targets).card ≤ 3 := by
  refine ⟨fun spare _ _ called => card_union_le_of_spare spare called,
    fun bounded enough => ?_⟩
  by_cases missing :
      numTargets (cluster.fileMap master) cluster.members filename = 0
  · have nothing : cluster.wanted master filename = 0 := by
      rw [wanted, missing]
      rfl
    rw [nothing, Nat.zero_min]
    exact few filename
  · -- as many free members as possible are drawn
    obtain ⟨added, areFree, cardAdded⟩ := Finset.exists_subset_card_eq
      (Nat.min_le_right (cluster.wanted master filename)
        (cluster.free master filename).card)
    obtain ⟨targets, extending, areCandidates, card⟩ :=
      Finset.exists_subsuperset_card_eq
        (areFree.trans (Finset.filter_subset _ _))
        (cardAdded.le.trans (Nat.min_le_left _ _)) enough
    obtain ⟨choice, called⟩ := exists_draws_command missing card
      (fun id isTarget => mem_candidates_iff.mp (areCandidates isTarget))
      isMember holds
    have disjoint : Disjoint (cluster.occupants filename) added := by
      rw [Finset.disjoint_left]
      intro id isOccupant isAdded
      exact (mem_free_iff.mp (areFree isAdded)).2
        (mem_occupants_iff.mp isOccupant).2
    rw [← cardAdded, ← Finset.card_union_of_disjoint disjoint]
    exact (Finset.card_le_card
      (Finset.union_subset_union_right extending)).trans
      (bounded choice _ called)

end Calls

/-! ## Steps -/

variable {shell : Shell} {cluster next : Cluster Id}
variable {action : ClusterAction Id}

/-- A step that leaves the files, or brings them to fewer nodes. -/
theorem Occupies.of_files
    {id : Id} {filename : String}
    (occupies : next.Occupies id filename)
    (holders : next.files.Holds id filename → cluster.files.Holds id filename)
    (fetches : ∀ fetch ∈ next.files.fetches, fetch ∈ cluster.files.fetches)
    (commands : ∀ command ∈ next.commands, command ∈ cluster.commands) :
    cluster.Occupies id filename := by
  rcases occupies with holds | ⟨fetch, underway, brings⟩ |
    ⟨command, ordered, named, isTarget⟩
  · exact .inl (holders holds)
  · exact .inr (.inl ⟨fetch, fetches fetch underway, brings⟩)
  · exact .inr (.inr ⟨command, commands command ordered, named, isTarget⟩)

/-- A command whose target is asked. -/
theorem Occupies.of_ask
    {id target : Id} {filename name : String} {index : Nat}
    {command : Replication Id} {source : Id} {port : Int}
    (found : cluster.commands[index]? = some (name, command))
    (isTarget : target ∈ command.targets)
    (occupies : Occupies
      { cluster with
        files := cluster.ask shell name source target port
        commands := cluster.commands.set index
          (name, ⟨source, command.targets.erase target⟩) } id filename) :
    cluster.Occupies id filename := by
  have ordered := List.mem_of_getElem? found
  have asked : (∃ fetch : GroupFetch Id, fetch.target = id ∧
      fetch.client.filename = filename ∧
      fetch ∈ (cluster.ask shell name source target port).fetches) →
        cluster.Occupies id filename := by
    rintro ⟨fetch, ofNode, named, underway⟩
    rcases cluster.ask_cases shell name source target port with
      same | ⟨new, ofTarget, ofName, _, asked⟩
    · rw [same] at underway
      exact .inr (.inl ⟨fetch, underway, ofNode, named⟩)
    · rw [asked, Files.ask] at underway
      rcases List.mem_append.mp underway with old | isNew
      · exact .inr (.inl ⟨fetch, old, ofNode, named⟩)
      · obtain rfl := List.mem_singleton.mp isNew
        exact .inr (.inr ⟨_, ordered, ofName.symm.trans named,
          (ofTarget.symm.trans ofNode) ▸ isTarget⟩)
  rcases occupies with holds | ⟨fetch, underway, ofNode, named⟩ |
    ⟨other, remains, named, isOther⟩
  · refine .inl ?_
    rcases cluster.ask_cases shell name source target port with
      same | ⟨new, _, _, _, asked⟩
    · rwa [same] at holds
    · rwa [asked] at holds
  · exact asked ⟨fetch, ofNode, named, underway⟩
  · rcases List.mem_or_eq_of_mem_set remains with old | rfl
    · exact .inr (.inr ⟨other, old, named, isOther⟩)
    · exact .inr (.inr ⟨_, ordered, named, Finset.mem_of_mem_erase isOther⟩)

/-- The approval of a `PUT` concerns the putting node and the file. -/
theorem Occupies.of_approvePut
    {master putter id : Id} {info : FileInfo} {content : Bytes}
    {filename : String}
    (occupies :
      (cluster.approvePut master putter info content).Occupies id filename) :
    cluster.Occupies id filename ∨ (id = putter ∧ filename = info.name) := by
  rcases occupies with holds | brought
  · rcases Files.holds_approve.mp holds with old | ⟨rfl, rfl⟩
    · exact .inl (.inl old)
    · exact .inr ⟨rfl, rfl⟩
  · exact .inl (.inr brought)

/-- A new command concerns its targets and the file. -/
theorem Occupies.of_command
    {command : Replication Id} {id : Id} {filename name : String}
    {calls : List (Id × String)}
    (occupies : Occupies
      { cluster with
        calls := calls
        commands := cluster.commands ++ [(filename, command)] } id name) :
    cluster.Occupies id name ∨ (name = filename ∧ id ∈ command.targets) := by
  rcases occupies with holds | fetched | ⟨other, ordered, named, isTarget⟩
  · exact .inl (.inl holds)
  · exact .inl (.inr (.inl fetched))
  · rcases List.mem_append.mp ordered with old | isNew
    · exact .inl (.inr (.inr ⟨other, old, named, isTarget⟩))
    · obtain rfl := List.mem_singleton.mp isNew
      exact .inr ⟨named.symm, isTarget⟩

/-- A command whose targets are few enough. -/
theorem Few.command
    (few : cluster.Few) {command : Replication Id} {filename : String}
    {calls : List (Id × String)}
    (bounded :
      (cluster.occupants filename ∪ command.targets).card ≤ 3) :
    Few
      { cluster with
        calls := calls
        commands := cluster.commands ++ [(filename, command)] } := by
  intro name
  by_cases same : name = filename
  · subst same
    refine le_trans (Finset.card_le_card fun id isOccupant => ?_) bounded
    obtain ⟨isMember, occupies⟩ := mem_occupants_iff.mp isOccupant
    rw [Finset.mem_union, mem_occupants_iff]
    exact occupies.of_command.imp (fun old => ⟨isMember, old⟩) And.right
  · refine le_trans (Finset.card_le_card fun id isOccupant => ?_) (few name)
    obtain ⟨isMember, occupies⟩ := mem_occupants_iff.mp isOccupant
    exact mem_occupants_iff.mpr ⟨isMember,
      occupies.of_command.resolve_right fun isNew => same isNew.1⟩

/-- Every spare step keeps the number of nodes small. -/
theorem Few.step
    (few : cluster.Few) (kept : cluster.files.Kept)
    (spare : Spare cluster action)
    (stepped : cluster.step shell action = some next) : next.Few := by
  cases transition_of_step stepped with
  | @join id =>
      refine few.of_one id (fun filename _ occupies => ?_)
        fun other filename isMember occupies differs => ?_
      · exact .inr (spare filename (mem_occupied_iff.mpr occupies))
      · have inserted := (List.perm_orderedInsert (· ≤ ·) id
          cluster.members).mem_iff.mp isMember
        exact ⟨(List.mem_cons.mp inserted).resolve_left differs, occupies⟩
  | leave =>
      exact few.of_origin (fun _ => List.mem_of_mem_erase)
        fun _ _ occupies => occupies
  | restart =>
      refine few.of_origin (fun _ isMember => isMember)
        fun other filename occupies => ?_
      refine occupies.of_files ?_ (fun _ => List.mem_of_mem_filter)
        fun _ => List.mem_of_mem_filter
      rintro (registered | ⟨approval, remains, ofNode, named⟩)
      · exact .inl (Files.registers_restart.mp registered).2
      · exact .inr ⟨approval, List.mem_of_mem_filter remains, ofNode, named⟩
  | @approvePut master putter filename content unknown =>
      refine few.of_one putter (fun name isMember occupies => ?_)
        fun other name isMember occupies differs => ?_
      · rcases occupies.of_approvePut with old | ⟨_, rfl⟩
        · exact .inl ⟨isMember, old⟩
        · exact (spare unknown isMember).imp_left
            fun before => ⟨isMember, before⟩
      · exact ⟨isMember, occupies.of_approvePut.resolve_right
          fun isNew => differs isNew.1⟩
  | receiveApproval found =>
      exact few.of_origin (fun _ isMember => isMember)
        fun id filename occupies => occupies.of_files
          (Files.holds_copyApproved found).mp (fun _ isFetch => isFetch)
          fun _ ordered => ordered
  | loseApproval =>
      refine few.of_origin (fun _ isMember => isMember)
        fun id filename occupies => occupies.of_files ?_
          (fun _ isFetch => isFetch) fun _ ordered => ordered
      rintro (registered | ⟨approval, remains, ofNode, named⟩)
      · exact .inl registered
      · exact .inr
          ⟨approval, List.mem_of_mem_eraseIdx remains, ofNode, named⟩
  | @replicate master filename draws outcome _ called =>
      cases outcome with
      | none =>
          refine few.of_origin (fun _ isMember => isMember)
            fun id name occupies => occupies.of_files
              (fun holds => holds) (fun _ isFetch => isFetch) ?_
          intro command ordered
          rwa [Option.map_none, Option.toList_none, List.append_nil]
            at ordered
      | some command => exact few.command (card_union_le_of_spare spare called)
  | sendFileRequest found isTarget =>
      exact few.of_origin (fun _ isMember => isMember)
        fun id name occupies => Occupies.of_ask found isTarget occupies
  | dropCommand =>
      exact few.of_origin (fun _ isMember => isMember)
        fun id filename occupies => occupies.of_files (fun holds => holds)
          (fun _ isFetch => isFetch) fun _ => List.mem_of_mem_eraseIdx
  | @finishFetch index leader fetch found =>
      have underway := List.mem_of_getElem? found
      refine few.of_origin (fun _ isMember => isMember) ?_
      rintro id filename (holds | fetched | commanded)
      · rcases (Files.holds_finishFetch (kept.keeps fetch underway)).mp
          holds with ⟨rfl, rfl⟩ | old
        · exact .inr (.inl ⟨fetch, underway, rfl, rfl⟩)
        · exact .inl old
      · obtain ⟨other, remains, brings⟩ := fetched
        exact .inr (.inl
          ⟨other, List.mem_of_mem_eraseIdx remains, brings⟩)
      · exact .inr (.inr commanded)
  | deleteAt =>
      refine few.of_origin (fun _ isMember => isMember)
        fun id name occupies => occupies.of_files ?_
          (fun _ isFetch => isFetch) fun _ ordered => ordered
      exact Or.imp_left fun registered =>
        (kept.registers_delete.mp registered).1
  -- the other steps concern neither the members nor the files
  | _ => exact few

end Cluster

/-- A run of spare steps. -/
theorem few_of_spare
    {shell : Shell} {name : Id → String}
    {trace : List (ClusterAction Id)} {cluster : Cluster Id}
    (every : (clusterSystem shell name).Every Cluster.Spare
      (Cluster.initial name) trace)
    (runs : (clusterSystem shell name).Runs (Cluster.initial name) trace
      cluster) : cluster.Few := by
  obtain ⟨_, few⟩ : cluster.files.Kept ∧ cluster.Few :=
    every.invariant runs (fun cluster => cluster.files.Kept ∧ cluster.Few)
      (fun _ _ _ before spare stepped =>
        ⟨before.1.change (Cluster.fileChange_of_step stepped),
          before.2.step before.1 spare stepped⟩)
      ⟨Files.Kept.initial name, fun _ => Nat.zero_le 3⟩
  exact few

/-- In a run of spare steps no file is ever with, or on its way to, more than
three members. -/
theorem card_occupants_le_of_spare
    {shell : Shell} {name : Id → String}
    {trace : List (ClusterAction Id)} {cluster : Cluster Id}
    (every : (clusterSystem shell name).Every Cluster.Spare
      (Cluster.initial name) trace)
    (runs : (clusterSystem shell name).Runs (Cluster.initial name) trace
      cluster) (filename : String) :
    (cluster.occupants filename).card ≤ 3 :=
  few_of_spare every runs filename

/-! ## Masters that know what is under way -/

namespace Cluster

/-- The map of a master has every member that has the file or is going to get
it. -/
def Knows (cluster : Cluster Id) (master : Id) (filename : String) : Prop :=
  cluster.occupants filename ⊆ (cluster.fileMap master).holders filename

/-- A member joins without files, a `PUT` is decided by a master that knows
what is under way, and so are the targets of a replication, with numbers that
an `int` can hold. -/
def Informed (cluster : Cluster Id) : ClusterAction Id → Prop
  | .join id => cluster.occupied id = []
  | .put master _ filename _ => cluster.Knows master filename
  | .replicate master filename _ =>
      cluster.Knows master filename ∧ cluster.members.length < 2 ^ 31 ∧
        (cluster.fileMap master).countReplicates filename < 2 ^ 31
  | _ => True

instance (cluster : Cluster Id) (master : Id) (filename : String) :
    Decidable (cluster.Knows master filename) := by
  unfold Knows
  infer_instance

instance (cluster : Cluster Id) (action : ClusterAction Id) :
    Decidable (Informed cluster action) := by
  rcases action <;> unfold Informed <;> infer_instance

/-- A master that knows what is under way looks for no more targets than are
missing to three. -/
theorem Knows.spare_replicate
    {cluster : Cluster Id} {master : Id} {filename : String}
    {draws : List Nat} (knows : cluster.Knows master filename)
    (fewMembers : cluster.members.length < 2 ^ 31)
    (fewHolders : (cluster.fileMap master).countReplicates filename <
      2 ^ 31) :
    Spare cluster (.replicate master filename draws) := by
  intro enough
  have known : (cluster.occupants filename).card ≤
      (cluster.fileMap master).countReplicates filename :=
    Finset.card_le_card knows
  have candidates : (cluster.candidates master filename).card ≤
      cluster.members.length :=
    (Finset.card_filter_le _ _).trans (List.toFinset_card_le _)
  unfold wanted at enough ⊢
  -- with more holders than that, the number is no target count at all
  have wantedOf : numTargets (cluster.fileMap master) cluster.members
      filename = min (cluster.members.length : Int) 3 -
        (cluster.fileMap master).countReplicates filename := rfl
  rw [wantedOf] at enough ⊢
  unfold toUnsigned at enough ⊢
  omega

/-- Informed steps are spare. -/
theorem Informed.spare
    {cluster : Cluster Id} {action : ClusterAction Id}
    (informed : Informed cluster action) : Spare cluster action := by
  cases action with
  | join id =>
      intro filename isOccupied
      rw [show cluster.occupied id = [] from informed] at isOccupied
      cases isOccupied
  | put master putter filename content =>
      intro unknown _
      have none : cluster.occupants filename = ∅ := by
        rw [FileMap.countReplicates, Finset.card_eq_zero] at unknown
        exact Finset.subset_empty.mp (unknown ▸ informed)
      rw [none, Finset.card_empty]
      exact .inr (by decide)
  | replicate master filename draws =>
      obtain ⟨knows, fewMembers, fewHolders⟩ := informed
      exact knows.spare_replicate fewMembers fewHolders
  | _ => exact trivial

end Cluster

/-- If the masters know what is under way, no file is ever with, or on its way
to, more than three members. -/
theorem card_occupants_le_of_informed
    {shell : Shell} {name : Id → String}
    {trace : List (ClusterAction Id)} {cluster : Cluster Id}
    (every : (clusterSystem shell name).Every Cluster.Informed
      (Cluster.initial name) trace)
    (runs : (clusterSystem shell name).Runs (Cluster.initial name) trace
      cluster) (filename : String) :
    (cluster.occupants filename).card ≤ 3 :=
  few_of_spare (every.imp fun _ _ => Cluster.Informed.spare) runs filename

/-- Node `1` puts a file, which is copied to two more members; after the
failure of one of them it is copied to the fourth. -/
def replacedHolder : List (ClusterAction Nat) :=
  [.join 1, .join 2, .join 3, .join 4,
    .put 1 1 "f" [7], .addToFileMap 0, .receiveApproval 0,
    .replicate 1 "f" [1, 2, 0],
    .sendFileRequest 0 2 9601, .sendFileRequest 0 3 9602,
    .finishFetch 0 (some 1), .finishFetch 0 (some 1), .update 0, .update 0,
    .nodeFail 1 3, .leave 3, .handleFail 1 3, .replicate 1 "f" [2, 0],
    .sendFileRequest 1 4 9603, .finishFetch 0 (some 1)]

theorem card_occupants_le_of_replacedHolder :
    ∃ cluster ∈ (clusterSystem (.strict fun _ => "") fun _ => "").run
        (Cluster.initial fun _ => "") replacedHolder,
      (cluster.files.store 4).Registers "f" ∧
        (cluster.occupants "f").card ≤ 3 := by
  have every : (clusterSystem (.strict fun _ => "") fun _ => "").Every
      Cluster.Spare (Cluster.initial fun _ => "") replacedHolder := by
    decide +kernel
  obtain ⟨cluster, runs, registered⟩ :
      ∃ cluster ∈ (clusterSystem (.strict fun _ => "") fun _ => "").run
          (Cluster.initial fun _ => "") replacedHolder,
        (cluster.files.store 4).Registers "f" := by
    decide +kernel
  exact ⟨cluster, runs, registered, card_occupants_le_of_spare every runs "f"⟩

/-- The failure of a fifth node is handled before the first two targets have
reported their copies. -/
def earlyFailure : List (ClusterAction Nat) :=
  [.join 1, .join 2, .join 3, .join 4, .join 5,
    .put 1 1 "f" [7], .addToFileMap 0, .receiveApproval 0,
    .replicate 1 "f" [1, 2, 0],
    .nodeFail 1 5, .leave 5, .handleFail 1 5, .replicate 1 "f" [1, 3, 0],
    .sendFileRequest 0 2 9601, .sendFileRequest 0 3 9602,
    .sendFileRequest 1 4 9603, .finishFetch 0 (some 1),
    .finishFetch 0 (some 1), .finishFetch 0 (some 1)]

/-- The master has commanded a third target, and all four members have the
file in the end. -/
theorem four_occupants_of_earlyFailure :
    ∃ cluster ∈ (clusterSystem (.strict fun _ => "") fun _ => "").run
        (Cluster.initial fun _ => "") earlyFailure,
      cluster.members = [1, 2, 3, 4] ∧
        ∀ id ∈ cluster.members, (cluster.files.store id).Registers "f" := by
  decide +kernel

end Master
end CraneSps
