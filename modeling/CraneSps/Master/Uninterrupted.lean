import CraneSps.Master.Duties
import CraneSps.Master.Operations

/-!
# Threads that are not interrupted

`MasterNode` has a thread make one call after the other, with a command and its
reply in between.  If nothing else happens meanwhile, the calls for a request
amount to one step of the master in `State`, and those of `start` list the
files of the members.
-/

namespace CraneSps
namespace Master

open FileTransfer

variable {Id : Type} [LinearOrder Id]

/-- The action of the master for a request; a `GET` and a `LST` change
nothing. -/
def MasterRequest.action : MasterRequest Id → Option (Action Id)
  | .put id info => some (.put id info)
  | .delete filename => some (.delete filename)
  | .update id info => some (.update id info)
  | .get _ _ _ | .list _ => none

namespace MasterNode

/-- The node while a thread works. -/
def doing
    (node : MasterNode Id) (worker : Worker) (work : Work Id)
    (fileMap : FileMap Id) (sent : List (MasterCommand Id × Option Id)) :
    MasterNode Id :=
  { node.setWork worker work with fileMap := fileMap, sent := sent }

/-- A thread that makes the calls, with one membership list, turns the one map
into the other. -/
def Handles
    (node : MasterNode Id) (worker : Worker) (duties : List (Duty Id))
    (fileMap next : FileMap Id) : Prop :=
  ∀ rest sent, ∃ after, (masterSystem node.id).Reaches
    (node.doing worker ⟨duties ++ rest, none⟩ fileMap sent)
    (node.doing worker ⟨rest, none⟩ next after)

variable {node : MasterNode Id} {worker : Worker} {work next : Work Id}
variable {members : List Id} {fileMap middle after : FileMap Id}
variable {sent : List (MasterCommand Id × Option Id)}
variable {duty : Duty Id} {duties first rest : List (Duty Id)}
variable {filename : String}

/-- A thread has work. -/
theorem work_doing (works : node.work worker ≠ none) :
    (node.doing worker work fileMap sent).work worker = some work := by
  cases worker with
  | service index =>
      simp only [MasterNode.work] at works
      split at works
      · next found =>
          have inside := (List.getElem?_eq_some_iff.mp found).1
          simp [doing, setWork, MasterNode.work, inside]
      · exact absurd rfl works
  | start index =>
      obtain ⟨found, isFound⟩ := Option.ne_none_iff_exists'.mp works
      have inside := (List.getElem?_eq_some_iff.mp isFound).1
      simp [doing, setWork, MasterNode.work, inside]
  | nodeFail => rfl

/-- Its work is replaced. -/
theorem setWork_doing :
    (node.doing worker work fileMap sent).setWork worker next =
      node.doing worker next fileMap sent := by
  cases worker <;> simp [doing, setWork]

/-- A call is made. -/
theorem step_perform
    (works : node.work worker ≠ none) {effect : Effect Id}
    {draws : List Nat}
    (made : duty.effect fileMap members draws = some effect) :
    (node.doing worker ⟨duty :: rest, none⟩ fileMap sent).step
        (.perform worker members draws) =
      some
        (node.doing worker ⟨effect.duties ++ rest, effect.command⟩
          effect.fileMap
          (sent ++ effect.command.toList.map fun command =>
            (command, node.leader))) := by
  have isLeader : (node.doing worker ⟨duty :: rest, none⟩ fileMap
      sent).leader = node.leader := by
    cases worker <;> rfl
  have sameMap : (node.doing worker ⟨duty :: rest, none⟩ fileMap
      sent).fileMap = fileMap := rfl
  simp only [step, work_doing works, sameMap, made, Option.map_some, perform,
    setWork_doing, isLeader]
  rfl

/-- A reply arrives. -/
theorem step_reply
    (works : node.work worker ≠ none) {command : MasterCommand Id}
    (infos : List FileInfo) :
    (node.doing worker ⟨rest, some command⟩ fileMap sent).step
        (.reply worker infos) =
      some
        (node.doing worker ⟨rest, none⟩ (command.processReply fileMap infos)
          sent) := by
  simp only [step, work_doing works, setWork_doing]
  rfl

/-- Begin with a step of the node. -/
theorem reaches_head
    {id : Id} {node middle finish : MasterNode Id} {action : MasterAction Id}
    (stepped : node.step action = some middle)
    (rest : (masterSystem id).Reaches middle finish) :
    (masterSystem id).Reaches node finish :=
  .head (show (masterSystem id).step node action = some middle from stepped)
    rest

namespace Handles

theorem nil : node.Handles worker [] fileMap fileMap :=
  fun _ sent => ⟨sent, .refl _⟩

/-- Calls one after the other. -/
theorem append
    (begins : node.Handles worker first fileMap middle)
    (ends : node.Handles worker rest middle after) :
    node.Handles worker (first ++ rest) fileMap after := by
  intro others sent
  obtain ⟨halfway, firstReaches⟩ := begins (rest ++ others) sent
  obtain ⟨final, restReaches⟩ := ends others halfway
  refine ⟨final, ?_⟩
  rw [List.append_assoc]
  exact firstReaches.trans restReaches

/-- A call without a command. -/
theorem perform
    (works : node.work worker ≠ none) {effect : Effect Id}
    {draws : List Nat}
    (made : duty.effect fileMap members draws = some effect)
    (silent : effect.command = none)
    (ends : node.Handles worker effect.duties effect.fileMap after) :
    node.Handles worker [duty] fileMap after := by
  intro others sent
  have performs := @step_perform Id _ node worker members fileMap sent duty
    others works effect draws made
  rw [silent, Option.toList_none, List.map_nil, List.append_nil] at performs
  obtain ⟨final, reaches⟩ := ends others sent
  exact ⟨final, reaches_head performs reaches⟩

/-- A call that sends a command, and the reply. -/
theorem command
    (works : node.work worker ≠ none) {effect : Effect Id}
    {draws : List Nat} {command : MasterCommand Id}
    (made : duty.effect fileMap members draws = some effect)
    (sends : effect.command = some command) (last : effect.duties = [])
    (infos : List FileInfo) :
    node.Handles worker [duty] fileMap
      (command.processReply effect.fileMap infos) := by
  intro others sent
  have performs := @step_perform Id _ node worker members fileMap sent duty
    others works effect draws made
  rw [sends, last, List.nil_append] at performs
  have replies := @step_reply Id _ node worker effect.fileMap
    (sent ++ [(command, node.leader)]) others works command infos
  exact ⟨_, reaches_head performs (reaches_head replies (.refl _))⟩

theorem addToFileMap
    (works : node.work worker ≠ none) (id : Id) (info : FileInfo) :
    node.Handles worker [.addToFileMap id info] fileMap
      (fileMap.addToFileMap id info) :=
  @perform Id _ node worker [] fileMap _ _ works
    { fileMap := fileMap.addToFileMap id info } [] rfl rfl .nil

/-- Every target gets its command, and its entry loses the file after the
reply. -/
theorem deleteFile
    (works : node.work worker ≠ none) (members : List Id) (filename : String) :
    node.Handles worker [.deleteFile filename] fileMap
      (fileMap.deleteFile members filename) := by
  have deletes (targets : List Id) (fileMap : FileMap Id) :
      node.Handles worker
        (targets.flatMap fun target =>
          [.sendDeleteCommand target filename,
            .deleteFromFileMap target filename])
        fileMap
        (targets.foldl
          (fun current id => current.deleteFromFileMap id filename)
          fileMap) := by
    induction targets generalizing fileMap with
    | nil => exact .nil
    | cons target targets inductionHypothesis =>
        have sends : node.Handles worker [.sendDeleteCommand target filename]
            fileMap fileMap :=
          @command Id _ node worker [] fileMap _ works
            { fileMap := fileMap, command := some (.delete target filename) }
            [] _ rfl rfl rfl []
        have removes : node.Handles worker
            [.deleteFromFileMap target filename] fileMap
              (fileMap.deleteFromFileMap target filename) :=
          @perform Id _ node worker [] fileMap _ _ works
            { fileMap := fileMap.deleteFromFileMap target filename } [] rfl
            rfl .nil
        exact (sends.append removes).append
          (inductionHypothesis (fileMap.deleteFromFileMap target filename))
  exact @perform Id _ node worker members fileMap _ _ works
    { fileMap := fileMap
      duties := (members.filter fun id => fileMap.hasFile id filename).flatMap
        fun target =>
          [.sendDeleteCommand target filename,
            .deleteFromFileMap target filename] }
    [] rfl rfl (deletes _ fileMap)

/-- A replication leaves the map, whatever is drawn. -/
theorem replicateFile
    (works : node.work worker ≠ none) {draws : List Nat}
    (called : Master.replicateFile fileMap members filename draws ≠ none) :
    node.Handles worker [.replicateFile filename] fileMap fileMap := by
  obtain ⟨chosen, isChosen⟩ := Option.ne_none_iff_exists'.mp called
  have made : (Duty.replicateFile filename).effect fileMap members draws =
      some
        { fileMap := fileMap
          command := chosen.map fun command =>
            .replicate command.source command.targets filename "" } := by
    rw [Duty.effect, isChosen]
    rfl
  cases chosen with
  | none => exact perform works made rfl .nil
  | some chosen => exact command works made rfl rfl []

/-- So do those of `reReplicate`. -/
theorem reReplicate
    (works : node.work worker ≠ none) (members : List Id)
    (draws : ∀ filename, ∃ draws,
      Master.replicateFile fileMap members filename draws ≠ none) :
    node.Handles worker [.reReplicate] fileMap fileMap := by
  have replicates (filenames : List String) :
      node.Handles worker (filenames.map .replicateFile) fileMap fileMap := by
    induction filenames with
    | nil => exact .nil
    | cons filename filenames inductionHypothesis =>
        obtain ⟨drawn, called⟩ := draws filename
        exact (replicateFile works called).append inductionHypothesis
  exact @perform Id _ node worker members fileMap _ _ works
    { fileMap := fileMap
      duties := (fileMap.memberFiles members).map .replicateFile }
    [] rfl rfl (replicates _)

/-- The command of a `GET` leaves the map. -/
theorem transfer
    (works : node.work worker ≠ none) (members : List Id)
    (id : Id) (filename filepath : String) :
    node.Handles worker [.transfer id filename filepath] fileMap fileMap := by
  let effect : Effect Id :=
    { fileMap := fileMap
      command := (members.find? fun member =>
        fileMap.hasFile member filename).map fun source =>
          .replicate source {id} filename filepath }
  have made : (Duty.transfer id filename filepath).effect fileMap members [] =
      some effect := rfl
  cases sends : effect.command with
  | none => exact perform works made sends .nil
  | some sent =>
      obtain ⟨source, _, rfl⟩ := Option.map_eq_some_iff.mp sends
      exact command works made sends rfl []

/-- A `LIST` command, with what the member replies. -/
theorem sendListCommand
    (works : node.work worker ≠ none) (id : Id) (infos : List FileInfo) :
    node.Handles worker [.sendListCommand id] fileMap
      (fileMap.processListReply id infos) :=
  @command Id _ node worker [] fileMap _ works
    { fileMap := fileMap, command := some (.list id) } [] _ rfl rfl rfl infos

end Handles

/-- The calls for a request, with draws for a replication, turn the map of the
master into the one after its action. -/
theorem handles_request
    (works : node.work worker ≠ none) {state next : State Id}
    {request : MasterRequest Id}
    (acts : request.action.elim (some state) state.step = some next)
    (draws : ∀ filename, ∃ draws, Master.replicateFile next.fileMap
      state.members filename draws ≠ none) :
    node.Handles worker (request.duties state.fileMap) state.fileMap
      next.fileMap := by
  cases request with
  | put id info =>
      have stepped : state.step (.put id info) = some next := acts
      rw [MasterRequest.duties]
      cases State.transition_of_step stepped with
      | approvePut unknown =>
          rw [if_pos unknown]
          obtain ⟨drawn, called⟩ := draws info.name
          exact (Handles.addToFileMap works id info).append
            (.replicateFile works called)
      | refusePut known =>
          rw [if_neg known]
          exact .nil
  | get id filename filepath =>
      obtain rfl := Option.some.inj acts
      rw [MasterRequest.duties]
      split
      · exact .nil
      · exact .transfer works state.members id filename filepath
  | delete filename =>
      have stepped : state.step (.delete filename) = some next := acts
      rw [MasterRequest.duties]
      cases State.transition_of_step stepped with
      | deleteUnknown unknown =>
          rw [if_pos unknown]
          exact .nil
      | delete known =>
          rw [if_neg known]
          exact .deleteFile works state.members filename
  | update id info =>
      obtain rfl := Option.some.inj acts
      exact .addToFileMap works id info
  | list filename =>
      obtain rfl := Option.some.inj acts
      exact .nil

/-- The calls of `start` turn the map into the one that the actions of the
master make of it. -/
theorem handles_start
    (works : node.work worker ≠ none) (localFiles : Id → List FileInfo)
    {state next : State Id} {ids : List Id}
    (runs : system.Runs state
      (ids.map fun id => .list id (localFiles id)) next)
    (draws : ∀ filename, ∃ draws, Master.replicateFile next.fileMap
      next.members filename draws ≠ none) :
    node.Handles worker (ids.map .sendListCommand ++ [.reReplicate])
      state.fileMap next.fileMap := by
  refine .append ?_ (.reReplicate works next.members draws)
  clear draws
  induction ids generalizing state with
  | nil =>
      obtain rfl := TransitionSystem.runs_nil_iff.mp runs
      exact .nil
  | cons id ids inductionHypothesis =>
      obtain ⟨middle, stepped, rest⟩ := TransitionSystem.runs_cons_iff.mp runs
      obtain rfl := Option.some.inj stepped
      exact (Handles.sendListCommand works id (localFiles id)).append
        (inductionHypothesis rest)

/-- The calls of the thread of `handle(NodeFailEvent)`. -/
theorem handles_handleFail
    (works : node.work worker ≠ none) {state next : State Id} {id : Id}
    (stepped : state.step (.handleFail id) = some next)
    (draws : ∀ filename, ∃ draws, Master.replicateFile next.fileMap
      next.members filename draws ≠ none) :
    node.Handles worker [.clear id, .reReplicate] state.fileMap
      next.fileMap := by
  cases State.transition_of_step stepped with
  | handleFail isFailing =>
      have clears : node.Handles worker [.clear id] state.fileMap
          (state.fileMap.set id []) :=
        @Handles.perform Id _ node worker [] state.fileMap _ _ works
          { fileMap := state.fileMap.set id [] } [] rfl rfl .nil
      exact clears.append (.reReplicate works state.members draws)

end MasterNode
end Master
end CraneSps
