import CraneSps.Master.FileService

/-!
# `GET` requests that fail

`sendGetRequest` creates the path before it knows whether there is anything to
get, and no way of failing removes it again.  The master answers from all
entries of its map, but looks for a source among the current members only.
-/

namespace CraneSps
namespace FileTransfer

/-- How `sendGetRequest` ends. -/
inductive GetResult
  /-- The path exists. -/
  | aborted
  /-- The node has the file. -/
  | copied
  | noLeader
  /-- The request has been sent to the leader. -/
  | sent
  deriving DecidableEq

namespace DFile

/-- `sendGetRequest`; `creates` tells whether the shell can create the path. -/
def sendGetRequest
    (node : DFile) (creates hasLeader : Bool) (filename filepath : String) :
    DFile × GetResult :=
  if node.disk filepath ≠ none then (node, .aborted)
  else
    let touched := if creates then node.write filepath [] else node
    if touched.Registers filename then
      if creates then
        (touched.write filepath ((touched.stored filename).getD []), .copied)
      else (touched, .copied)
    else if hasLeader then (touched, .sent)
    else (touched, .noLeader)

variable {node : DFile} {creates hasLeader : Bool}
variable {filename filepath : String}

theorem sendGetRequest_of_exists (present : node.disk filepath ≠ none) :
    node.sendGetRequest creates hasLeader filename filepath =
      (node, .aborted) := by
  rw [sendGetRequest, if_pos present]

/-- Creating a path registers no file. -/
theorem registers_touch :
    (if creates then node.write filepath [] else node).Registers filename ↔
      node.Registers filename := by
  cases creates <;> rfl

theorem sendGetRequest_of_missing
    (missing : node.disk filepath = none)
    (notHere : ¬ node.Registers filename) :
    node.sendGetRequest creates hasLeader filename filepath =
      (if creates then node.write filepath [] else node,
        if hasLeader then .sent else .noLeader) := by
  rw [sendGetRequest, if_neg (not_not_intro missing)]
  simp only [registers_touch, if_neg notHere]
  split <;> rfl

/-- A holder copies the file, and only a holder. -/
theorem sendGetRequest_eq_copied_iff (missing : node.disk filepath = none) :
    (node.sendGetRequest creates hasLeader filename filepath).2 = .copied ↔
      node.Registers filename := by
  rw [sendGetRequest, if_neg (not_not_intro missing)]
  simp only [registers_touch]
  by_cases here : node.Registers filename
  · rw [if_pos here]
    refine iff_of_true ?_ here
    split <;> rfl
  · rw [if_neg here]
    refine iff_of_false ?_ here
    split <;> nofun

/-- A `GET` is attempted exactly if the path does not exist. -/
theorem sendGetRequest_ne_aborted_iff :
    (node.sendGetRequest creates hasLeader filename filepath).2 ≠ .aborted ↔
      node.disk filepath = none := by
  by_cases missing : node.disk filepath = none
  · refine iff_of_true ?_ missing
    by_cases here : node.Registers filename
    · rw [(sendGetRequest_eq_copied_iff missing).mpr here]
      nofun
    · rw [sendGetRequest_of_missing missing here]
      cases hasLeader <;> nofun
  · rw [sendGetRequest_of_exists missing]
    exact iff_of_false (not_not_intro rfl) missing

end DFile

end FileTransfer

namespace Master

open FileTransfer

variable {Id : Type} [DecidableEq Id]

/-- `process(ServiceRequest)` for `GET`: the answer and the command for the
source. -/
def processGetRequest
    (fileMap : FileMap Id) (members : List Id) (id : Id) (filename : String) :
    Bool × Option (Replication Id) :=
  let count := fileMap.countReplicates filename
  (count != 0,
    if count ≠ 0 then
      (members.find? fun member => fileMap.hasFile member filename).map
        fun source => { source := source, targets := {id} }
    else none)

/-- A file that an entry lists is counted. -/
theorem FileMap.countReplicates_ne_zero_iff
    {fileMap : FileMap Id} {filename : String} :
    fileMap.countReplicates filename ≠ 0 ↔
      ∃ id, fileMap.hasFile id filename = true := by
  rw [countReplicates, Finset.card_ne_zero]
  exact exists_congr fun id => mem_holders_iff

/-- The source is the first member with the file; without an entry there is
none. -/
theorem processGetRequest_command
    {fileMap : FileMap Id} {members : List Id} {id : Id} {filename : String} :
    (processGetRequest fileMap members id filename).2 =
      (members.find? fun member => fileMap.hasFile member filename).map
        fun source => { source := source, targets := {id} } := by
  simp only [processGetRequest]
  split
  next => rfl
  next uncounted =>
    symm
    rw [Option.map_eq_none_iff, List.find?_eq_none]
    intro member _ holds
    exact uncounted (FileMap.countReplicates_ne_zero_iff.mpr ⟨member, holds⟩)

/-- A transfer is commanded exactly if a current member has the file. -/
theorem processGetRequest_ne_none_iff
    {fileMap : FileMap Id} {members : List Id} {id : Id} {filename : String} :
    (processGetRequest fileMap members id filename).2 ≠ none ↔
      ∃ member ∈ members, fileMap.hasFile member filename = true := by
  rw [processGetRequest_command, Ne, Option.map_eq_none_iff,
    List.find?_eq_none]
  simp only [not_forall, not_not, exists_prop]

theorem processGetRequest_targets
    {fileMap : FileMap Id} {members : List Id} {id : Id} {filename : String}
    {command : Replication Id}
    (commanded : (processGetRequest fileMap members id filename).2 =
      some command) :
    command.targets = {id} := by
  rw [processGetRequest_command, Option.map_eq_some_iff] at commanded
  obtain ⟨source, _, rfl⟩ := commanded
  rfl

/-- The whole of a `GET` begins with these two functions. -/
theorem FileService.get_eq_sendGetRequest
    (shell : Shell) (service : FileService Id) (id : Id)
    (filename filepath : String) :
    service.get shell id filename filepath =
      let outcome :=
        (service.node id).sendGetRequest true true filename filepath
      match outcome.2, (processGetRequest service.fileMap service.members id
          filename).2 with
      | .sent, some command =>
          (service.setNode id outcome.1).sendFileRequest shell
            command.source id filename (some filepath)
      | .aborted, _ => service
      | _, _ => service.setNode id outcome.1 := by
  by_cases missing : (service.node id).disk filepath = none
  · rw [get, if_neg (not_not_intro missing)]
    have touch : ((service.node id).write filepath []).Registers filename ↔
        (service.node id).Registers filename := Iff.rfl
    by_cases here : (service.node id).Registers filename
    · have copied :
          (service.node id).sendGetRequest true true filename filepath =
            (((service.node id).write filepath []).write filepath
              ((((service.node id).write filepath []).stored filename).getD
                []), .copied) := by
        rw [DFile.sendGetRequest, if_neg (not_not_intro missing)]
        simp only [if_true, if_pos (touch.mpr here)]
      simp only [if_pos (touch.mpr here), copied]
    · rw [DFile.sendGetRequest_of_missing missing here,
        processGetRequest_command]
      simp only [if_neg (touch.not.mpr here), if_true]
      cases service.members.find? fun member =>
          service.fileMap.hasFile member filename with
      | none => rfl
      | some source => rfl
  · rw [get, if_pos missing, DFile.sendGetRequest_of_exists missing]

/-- A node with the arguments of a `GET`, and the master with what it knows. -/
structure GetCall (Id : Type) [DecidableEq Id] where
  id : Id
  node : DFile
  filename : String
  filepath : String
  /-- `touch` creates the path, if it does not exist. -/
  creates : Bool
  hasLeader : Bool
  /-- The request reaches the master.  Whether its answer is in time makes no
  difference, since the node only logs it. -/
  reaches : Bool
  members : List Id
  fileMap : FileMap Id

namespace GetCall

variable (call : GetCall Id)

/-- The node afterwards and how the call ends. -/
def outcome : DFile × GetResult :=
  call.node.sendGetRequest call.creates call.hasLeader call.filename
    call.filepath

/-- The master handles the request. -/
def Handled : Prop :=
  call.outcome.2 = .sent ∧ call.reaches = true

/-- What the master does. -/
def answer : Bool × Option (Replication Id) :=
  processGetRequest call.fileMap call.members call.id call.filename

/-- A transfer to the node has been commanded. -/
def Transfers : Prop :=
  call.Handled ∧ ∃ command, call.answer.2 = some command ∧
    command.targets = {call.id}

/-- The call has not been aborted and leads to no transfer. -/
def Fails : Prop :=
  (call.outcome.2 = .noLeader ∨ call.outcome.2 = .sent) ∧ ¬ call.Transfers

/-- A failed call has not created the path, and the next one is attempted. -/
def LeavesNoTrace : Prop :=
  call.Fails → call.node.disk call.filepath = none →
    call.outcome.1.disk call.filepath = none ∧
      ∀ creates hasLeader, (call.outcome.1.sendGetRequest creates hasLeader
        call.filename call.filepath).2 ≠ .aborted

/-- The answer is that the file is available exactly if a transfer is
commanded. -/
def AnswersTruly : Prop :=
  call.Handled → (call.answer.1 = true ↔ call.Transfers)

/-- A current member of the master has the file. -/
def HasSource : Prop :=
  ∃ member ∈ call.members, call.fileMap.hasFile member call.filename = true

variable {call : GetCall Id}

/-- A request that the master handles leads to a transfer exactly if there is
a source. -/
theorem transfers_iff (handled : call.Handled) :
    call.Transfers ↔ call.HasSource := by
  rw [Transfers, and_iff_right handled, HasSource,
    ← @processGetRequest_ne_none_iff _ _ _ _ call.id]
  constructor
  · rintro ⟨command, commanded, _⟩
    exact fun nothing => Option.some_ne_none _ (commanded.symm.trans nothing)
  · intro commanded
    obtain ⟨command, commanded⟩ := Option.ne_none_iff_exists'.mp commanded
    exact ⟨command, commanded, processGetRequest_targets commanded⟩

theorem answer_available_iff :
    call.answer.1 = true ↔
      call.fileMap.countReplicates call.filename ≠ 0 := by
  simp [answer, processGetRequest]

theorem HasSource.counted (source : call.HasSource) :
    call.fileMap.countReplicates call.filename ≠ 0 := by
  obtain ⟨member, _, holds⟩ := source
  exact FileMap.countReplicates_ne_zero_iff.mpr ⟨member, holds⟩

theorem outcome_of_missing
    (missing : call.node.disk call.filepath = none)
    (notHere : ¬ call.node.Registers call.filename) :
    call.outcome =
      (if call.creates then call.node.write call.filepath [] else call.node,
        if call.hasLeader then .sent else .noLeader) :=
  DFile.sendGetRequest_of_missing missing notHere

/-- Such a call fails unless a source sends the file. -/
theorem fails_iff
    (missing : call.node.disk call.filepath = none)
    (notHere : ¬ call.node.Registers call.filename) :
    call.Fails ↔
      ¬ (call.hasLeader = true ∧ call.reaches = true ∧ call.HasSource) := by
  have outcome := outcome_of_missing missing notHere
  have ends : call.outcome.2 = .noLeader ∨ call.outcome.2 = .sent := by
    rw [outcome]
    cases call.hasLeader
    · exact .inl rfl
    · exact .inr rfl
  have sent : call.outcome.2 = .sent ↔ call.hasLeader = true := by
    rw [outcome]
    cases call.hasLeader <;> simp
  rw [Fails, and_iff_right ends, not_iff_not]
  constructor
  · intro transfers
    have handled := transfers.1
    exact ⟨sent.mp handled.1, handled.2, (transfers_iff handled).mp transfers⟩
  · rintro ⟨hasLeader, reaches, source⟩
    exact (transfers_iff ⟨sent.mpr hasLeader, reaches⟩).mpr source

/-- A failed call leaves a trace as soon as the path can be created. -/
theorem leavesNoTrace_iff
    (missing : call.node.disk call.filepath = none)
    (notHere : ¬ call.node.Registers call.filename) :
    call.LeavesNoTrace ↔ (call.Fails → call.creates = false) := by
  have outcome := outcome_of_missing missing notHere
  have trace : call.outcome.1.disk call.filepath = none ↔
      call.creates = false := by
    rw [outcome]
    cases call.creates with
    | true => simp [DFile.write]
    | false => simp [missing]
  constructor
  · intro noTrace fails
    exact trace.mp (noTrace fails missing).1
  · intro untouched fails _
    have absent := trace.mpr (untouched fails)
    exact ⟨absent, fun creates hasLeader =>
      DFile.sendGetRequest_ne_aborted_iff.mpr absent⟩

/-- A call that is aborted or served by the node itself is no failed call. -/
theorem holds_of_not_requested
    (result : call.outcome.2 = .aborted ∨ call.outcome.2 = .copied) :
    call.LeavesNoTrace ∧ call.AnswersTruly := by
  constructor
  · rintro ⟨noLeader | sent, _⟩
    · rw [noLeader] at result
      rcases result with aborted | copied
      · cases aborted
      · cases copied
    · rw [sent] at result
      rcases result with aborted | copied
      · cases aborted
      · cases copied
  · rintro ⟨sent, _⟩
    rw [sent] at result
    rcases result with aborted | copied
    · cases aborted
    · cases copied

end GetCall

/-- A failed `GET` leaves no trace, and the master's answer is true, exactly
if the path exists or the node has the file, or the request reaches a master
that knows a source, or the path cannot be created and the master, if it is
reached, has no entry for the file. -/
theorem get_leavesNoTrace_iff (call : GetCall Id) :
    call.LeavesNoTrace ∧ call.AnswersTruly ↔
      call.node.disk call.filepath ≠ none ∨
        call.node.Registers call.filename ∨
        (call.hasLeader = true ∧ call.reaches = true ∧ call.HasSource) ∨
        (call.creates = false ∧
          (call.hasLeader = true → call.reaches = true →
            call.fileMap.countReplicates call.filename = 0)) := by
  by_cases missing : call.node.disk call.filepath = none
  · by_cases here : call.node.Registers call.filename
    · refine iff_of_true (GetCall.holds_of_not_requested (.inr ?_))
        (.inr (.inl here))
      exact (DFile.sendGetRequest_eq_copied_iff missing).mpr here
    · have sent : call.outcome.2 = .sent ↔ call.hasLeader = true := by
        rw [GetCall.outcome_of_missing missing here]
        cases call.hasLeader <;> simp
      rw [GetCall.leavesNoTrace_iff missing here,
        GetCall.fails_iff missing here, or_iff_right (not_not_intro missing),
        or_iff_right here]
      by_cases transfers :
        call.hasLeader = true ∧ call.reaches = true ∧ call.HasSource
      · refine iff_of_true ⟨fun fails => absurd transfers fails, ?_⟩
          (.inl transfers)
        intro handled
        rw [GetCall.answer_available_iff, GetCall.transfers_iff handled]
        exact iff_of_true transfers.2.2.counted transfers.2.2
      · rw [or_iff_right transfers]
        refine and_congr (imp_iff_right transfers) ?_
        constructor
        · intro truly hasLeader reaches
          have handled : call.Handled := ⟨sent.mpr hasLeader, reaches⟩
          have none : ¬ call.HasSource := fun source =>
            transfers ⟨hasLeader, reaches, source⟩
          have answer := truly handled
          rw [GetCall.answer_available_iff,
            GetCall.transfers_iff handled] at answer
          exact not_not.mp fun counted => none (answer.mp counted)
        · intro unknown handled
          have none := unknown (sent.mp handled.1) handled.2
          rw [GetCall.answer_available_iff, GetCall.transfers_iff handled]
          exact iff_of_false (not_not_intro none)
            fun source => source.counted none
  · refine iff_of_true (GetCall.holds_of_not_requested (.inl ?_))
      (.inl missing)
    rw [GetCall.outcome, DFile.sendGetRequest_of_exists missing]

/-- A node without files that does not know a leader. -/
def leaderlessCall : GetCall Nat where
  id := 1
  node := emptyNode "a"
  filename := "f"
  filepath := "out"
  creates := true
  hasLeader := false
  reaches := false
  members := []
  fileMap := FileMap.empty

/-- A file that is listed for a node which is no member any more. -/
def departedCall : GetCall Nat where
  id := 1
  node := emptyNode "a"
  filename := "f"
  filepath := "out"
  creates := true
  hasLeader := true
  reaches := true
  members := [1]
  fileMap := FileMap.empty.set 2 [⟨"f", "5d41", 3⟩]

/-- The path is there after a call without a leader, so that the next call is
aborted; and the master announces a file that it has no source for. -/
theorem get_leaves_trace :
    ¬ leaderlessCall.LeavesNoTrace ∧
      (leaderlessCall.outcome.1.sendGetRequest true true "f" "out").2 =
        .aborted ∧
      ¬ departedCall.AnswersTruly := by
  refine ⟨?_, by decide, ?_⟩
  · intro noTrace
    have fails : leaderlessCall.Fails :=
      ⟨.inl rfl, fun transfers => by cases transfers.1.1⟩
    cases (noTrace fails rfl).1
  · intro truly
    have answer := (truly ⟨rfl, rfl⟩).mp (by decide)
    obtain ⟨command, commanded, _⟩ := answer.2
    have nothing : departedCall.answer.2 = none := rfl
    exact Option.some_ne_none command (commanded.symm.trans nothing)

end Master
end CraneSps
