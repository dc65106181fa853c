import CraneSps.Master.GetRequest
import CraneSps.Master.Listing
import CraneSps.Master.Uninterrupted
import CraneSps.Messages.DFileMessageParser
import CraneSps.Messages.Effects

/-!
# What the handlers bring about at a master

The master is modelled without messages, as steps that take what is in a
request or in the reply to a command.  The calls of a handler, one after the
other, amount to these steps.  The handlers of an election do the same to the
node of the master as to its candidate.
-/

namespace CraneSps
namespace Messages

open FileTransfer (DFile FileInfo CommandReply)
open Master (FileMap State Duty MasterCommand MasterNode MasterRequest
  MasterThread)
open Election (Candidate)
open Pointers.Program
open DFileMessageHandler

/-! ## Requests -/

/-- The request as the master takes it. -/
def ServiceRequest.request
    (message : ServiceRequest) : Option (MasterRequest String) :=
  match message.type with
  | .put => message.putRequest.map fun body =>
      .put message.id (FileInfo.new body.filename body.filemd5 body.filesize)
  | .get => message.getRequest.map fun body =>
      .get message.id body.filename body.filepath
  | .del => message.deleteRequest.map .delete
  | .update => message.updateRequest.map fun body =>
      .update message.id
        (FileInfo.new body.filename body.filemd5 body.filesize)
  | .lst => message.listRequest.map .list

/-- A reply to a request. -/
def DFileCall.isReply : DFileCall → Bool
  | .replyMasterSocket _ => true
  | _ => false

/-- The calls of a handler that make up a call of the master.  The loop over
the members in a `GET` is a part of the handler, which sends the command. -/
def handlerCalls (fileMap : FileMap String) (members : List String) :
    Duty String → List DFileCall
  | .addToFileMap id info => [.addToFileMap id info]
  | .replicateFile filename => [.replicateFile filename]
  | .deleteFile filename => [.deleteFile filename]
  | .transfer id filename filepath =>
      ((members.find? fun member =>
        fileMap.hasFile member filename).map fun source =>
          .sendReplicateCommand source [id] filename filepath).toList
  | _ => []

/-- The command that a handler sends itself. -/
def DFileCall.command : DFileCall → Option (MasterCommand String)
  | .sendReplicateCommand source targets filename filepath =>
      some (.replicate source targets.toFinset filename filepath)
  | _ => none

/-- What a call of the handler does at once to the state of the master, and the
calls of `replicateFile`. -/
def DFileCall.masterEffect
    (state : State String) : DFileCall → State String
  | .addToFileMap id info =>
      { state with fileMap := state.fileMap.addToFileMap id info }
  | .updateFileMap id infos =>
      { state with fileMap := state.fileMap.updateFileMap id infos }
  | .replicateFile filename =>
      { state with calls := state.calls ++ [filename] }
  | .deleteFile filename =>
      { state with
        fileMap := state.fileMap.deleteFile state.members filename }
  | _ => state

variable {components : DFileComponents} {message : ServiceRequest}
variable {request : MasterRequest String} {state : State String}

/-- The loop for `LST` with a name collects the members with the file. -/
theorem membersWithFile_some (filename : String) (members : List String) :
    membersWithFile components (some filename) members =
      pure (Master.memberHolders components.fileMap members filename) := by
  induction members with
  | nil => rfl
  | cons member members inductionHypothesis =>
      rw [membersWithFile, inductionHypothesis, deref_some_bind]
      simp only [Master.memberHolders, List.filter_cons]
      rfl

/-- The handler makes the calls that the master has to make. -/
theorem called_processServiceRequest
    (isRequest : message.request = some request) :
    (processServiceRequest components (some message)).called.filter
        (fun call => !call.isReply) =
      (request.duties components.fileMap).flatMap
        (handlerCalls components.fileMap
          components.member.membershipList) := by
  rw [ServiceRequest.request] at isRequest
  rw [processServiceRequest, deref_some_bind]
  cases isType : message.type with
  | put =>
      rw [isType] at isRequest
      obtain ⟨body, isBody, rfl⟩ := Option.map_eq_some_iff.mp isRequest
      dsimp only
      let info := FileInfo.new body.filename body.filemd5 body.filesize
      have duties : (MasterRequest.put message.id info).duties
          components.fileMap =
            if components.fileMap.countReplicates body.filename = 0 then
              [.addToFileMap message.id info, .replicateFile body.filename]
            else [] := rfl
      rw [isBody, processPut, deref_some_bind, duties]
      by_cases unknown : components.fileMap.countReplicates body.filename = 0
      · rw [if_pos unknown, if_pos unknown, called_calls]
        rfl
      · rw [if_neg unknown, if_neg unknown, called_calls]
        rfl
  | get =>
      rw [isType] at isRequest
      obtain ⟨body, isBody, rfl⟩ := Option.map_eq_some_iff.mp isRequest
      dsimp only
      rw [isBody, processGet, deref_some_bind, MasterRequest.duties]
      by_cases unknown : components.fileMap.countReplicates body.filename = 0
      · rw [if_pos unknown, if_pos unknown, called_calls]
        rfl
      · rw [if_neg unknown, if_neg unknown, called_calls,
          List.flatMap_singleton, handlerCalls]
        cases components.member.membershipList.find? fun member =>
          components.fileMap.hasFile member body.filename with
        | none => rfl
        | some source => rfl
  | del =>
      rw [isType] at isRequest
      obtain ⟨filename, isBody, rfl⟩ := Option.map_eq_some_iff.mp isRequest
      dsimp only
      rw [isBody, processDelete, deref_some_bind, MasterRequest.duties]
      by_cases unknown : components.fileMap.countReplicates filename = 0
      · rw [if_pos unknown, if_pos unknown, called_calls]
        rfl
      · rw [if_neg unknown, if_neg unknown, called_calls]
        rfl
  | update =>
      rw [isType] at isRequest
      obtain ⟨body, isBody, rfl⟩ := Option.map_eq_some_iff.mp isRequest
      dsimp only
      rw [isBody, processUpdate, deref_some_bind, called_calls]
      rfl
  | lst =>
      rw [isType] at isRequest
      obtain ⟨filename, isBody, rfl⟩ := Option.map_eq_some_iff.mp isRequest
      dsimp only
      rw [isBody, processList, membersWithFile_some]
      rfl

/-- The command that the loop over the members sends. -/
theorem command_handlerCalls
    (fileMap : FileMap String) (members : List String)
    (id filename filepath : String) (draws : List Nat) :
    ∃ effect, (Duty.transfer id filename filepath).effect fileMap members
        draws = some effect ∧
      (handlerCalls fileMap members
        (.transfer id filename filepath)).filterMap DFileCall.command =
          effect.command.toList := by
  refine ⟨_, rfl, ?_⟩
  rw [handlerCalls]
  cases members.find? fun member => fileMap.hasFile member filename with
  | none => rfl
  | some source => simp [DFileCall.command]

/-- The handler of a request does what the master does for it. -/
theorem step_processServiceRequest
    (sameMap : components.fileMap = state.fileMap)
    (isRequest : message.request = some request) :
    request.action.elim (some state) state.step =
      some
        ((processServiceRequest components (some message)).called.foldl
          DFileCall.masterEffect state) := by
  have ofReplies (list : List DFileCall) (current : State String) :
      list.foldl DFileCall.masterEffect current =
        (list.filter fun call => !call.isReply).foldl DFileCall.masterEffect
          current := by
    induction list generalizing current with
    | nil => rfl
    | cons call list inductionHypothesis =>
        cases call <;> exact inductionHypothesis _
  rw [ofReplies, called_processServiceRequest isRequest, sameMap]
  cases request with
  | put id info =>
      rw [MasterRequest.duties, MasterRequest.action, Option.elim_some,
        State.step]
      split <;> rfl
  | get id filename filepath =>
      rw [MasterRequest.duties]
      split
      · rfl
      · rw [List.flatMap_singleton, handlerCalls]
        cases components.member.membershipList.find? fun member =>
          state.fileMap.hasFile member filename with
        | none => rfl
        | some source => rfl
  | delete filename =>
      rw [MasterRequest.duties, MasterRequest.action, Option.elim_some,
        State.step]
      split <;> rfl
  | update id info => rfl
  | list filename => rfl

/-- The answer to a `GET`, and the command with it. -/
theorem called_processGet (id : String) (body : GetRequest) :
    ∃ outcome,
      Master.processGetRequest components.fileMap
          components.member.membershipList id body.filename = outcome ∧
        (processGet components id (some body)).called =
          .replyMasterSocket
              ⟨.get, some (.getReply { available := outcome.1 })⟩ ::
            (outcome.2.map fun command =>
              .sendReplicateCommand command.source [id] body.filename
                body.filepath).toList ∧
        ∀ command ∈ outcome.2, command.targets = [id].toFinset := by
  refine ⟨_, rfl, ?_⟩
  rw [processGet, deref_some_bind, Master.processGetRequest]
  by_cases unknown : components.fileMap.countReplicates body.filename = 0
  · rw [if_pos unknown, called_calls]
    simp [unknown]
  · rw [if_neg unknown, called_calls]
    cases components.member.membershipList.find? fun member =>
        components.fileMap.hasFile member body.filename with
    | none => simp [unknown]
    | some source => simp [unknown]

/-! ## Replies to commands -/

/-- A member replies to `LIST` with the reply that is built for it. -/
theorem serviceReplies_processListCommand
    (isId : components.member.id = components.node.id) :
    serviceReplies (processListCommand components) =
      [.commandRep (Master.listReply components.node)] := by
  rw [Master.listReply_eq, ← isId]
  rfl

/-- The handler of the reply does what the master does for it. -/
theorem effect_processCommandReply (reply : CommandReply) :
    (processCommandReply (some reply)).called.foldl DFileCall.masterEffect
        state =
      { state with
        fileMap := Master.processCommandReply state.fileMap reply } := by
  rw [processCommandReply, deref_some_bind, Master.processCommandReply]
  obtain ⟨type, senderip, listReply⟩ := reply
  cases type with
  | replicate | delete => rfl
  | list => cases listReply <;> rfl

/-- For the reply of a member this is the step of the master. -/
theorem step_processCommandReply
    {node : DFile} (sizes : Master.IntSizes node.localFiles) :
    state.step (.list node.id node.localFiles) =
      some
        ((processCommandReply
          (some (Master.listReply node))).called.foldl
            DFileCall.masterEffect state) := by
  rw [effect_processCommandReply,
    Master.processCommandReply_listReply state.fileMap sizes]
  rfl

/-! ## Elections -/

/-- What a call of an election changes at the node of a master, where
`setNewLeader` is not interrupted. -/
def ElectionCall.masterEffect
    (members : List String) (node : MasterNode String) :
    ElectionCall → MasterNode String
  | .setNewLeader id => (node.setLeader id).announce id members
  | _ => node

/-- The calls of the handlers change the leader of the node as they change the
one of its candidate, and for every event that is raised for the node a service
thread starts. -/
theorem masterEffect_foldl
    {node : MasterNode String} {candidate : Candidate String}
    (sameLeader : node.leader = candidate.leaderId)
    (samePrevious : node.previousLeader = candidate.previousLeaderId)
    (members : List String) (list : List ElectionCall) :
    ∃ events,
      (list.foldl ElectionCall.effect candidate).leaderElectedEvents =
          candidate.leaderElectedEvents ++ events ∧
        (list.foldl (ElectionCall.masterEffect members) node).threads =
          node.threads ++
            (events.filter fun event => event = node.id).map
              (fun _ => MasterThread.testing) ∧
        (list.foldl (ElectionCall.masterEffect members) node).leader =
          (list.foldl ElectionCall.effect candidate).leaderId ∧
        (list.foldl (ElectionCall.masterEffect members) node).previousLeader =
          (list.foldl ElectionCall.effect candidate).previousLeaderId := by
  induction list generalizing node candidate with
  | nil => exact ⟨[], by simp [sameLeader, samePrevious]⟩
  | cons call list inductionHypothesis =>
      cases call with
      | setNewLeader id =>
          obtain ⟨first, raised, started, nextLeader, nextPrevious⟩ :=
            MasterNode.announce_setLeader samePrevious id members
          obtain ⟨rest, later, threads, final⟩ :=
            inductionHypothesis nextLeader nextPrevious
          have sameId : ((node.setLeader id).announce id members).id =
              node.id := by
            unfold MasterNode.announce
            split
            · rfl
            · split <;> rfl
          refine ⟨first ++ rest, ?_, ?_, final⟩
          · rw [← List.append_assoc, ← raised]
            exact later
          · rw [List.filter_append, List.map_append, ← List.append_assoc,
              ← started, ← sameId]
            exact threads
      | _ => exact inductionHypothesis sameLeader samePrevious

end Messages
end CraneSps
