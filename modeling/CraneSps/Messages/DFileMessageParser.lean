import CraneSps.Foundation.Pointers
import CraneSps.Master.FileMap
import CraneSps.Membership.DMember
import CraneSps.Messages.DFileProtocol
import Mathlib.Data.String.Basic

/-!
# Dispatch of the messages of the file service

`DFileMessageParser::parse` switches on the type of a message only; the type
of a request, a reply or a command in it is switched on by the handler.  For
replies the handler checks whether a list is there before it looks at it, and
it makes no such check for anything else.
-/

namespace CraneSps
namespace Messages

open FileTransfer (Bytes DFile FileInfo SendRequest SendReply FetchRequest
  ReplicateCommand CommandRequest CommandReply)
open Master (FileMap)
open CraneSps.Membership (DMember)
open Pointers (Program Event)
open Pointers.Program

/-- What the handlers do with the other components. -/
inductive DFileCall
  | replyServiceSocket (reply : FileTransfer.ServiceReply)
  | startFetchClientThread
      (senderip : String) (port : Int) (filename filemd5 : String)
      (filesize chunksize : Int) (filepath : Option String)
  | startFetchServerThread (port : Int) (filename : String) (chunksize : Int)
  | sendNextChunk (port chunkid : Int)
  | recvNextChunk
      (filename : String) (chunkid : Int) (data : Bytes) (chunksize : Int)
  | sendFileRequest (target filename : String) (filepath : Option String)
  | deleteLocalFile (filename : String)
  | copyBufferedFile (filename : String)
  | replyMasterSocket (reply : ServiceReply)
  | addToFileMap (id : String) (info : FileInfo)
  | updateFileMap (id : String) (infos : List FileInfo)
  | replicateFile (filename : String)
  | deleteFile (filename : String)
  | sendReplicateCommand
      (id : String) (targets : List String) (filename filepath : String)
  deriving DecidableEq

/-- The components that the handlers ask, as they stand when a message is
handled. -/
structure DFileComponents where
  node : DFile
  fileMap : FileMap String
  member : DMember String
  /-- `Candidate::leader`. -/
  leader : String

namespace DFileMessageHandler

variable (components : DFileComponents)

/-! ## Transfers -/

/-- `process(SendRequest)`. -/
def processSendRequest
    (request : Option SendRequest) : Program (Event DFileCall) Unit := do
  let request ← deref request
  if components.node.checkFileAvailable request.filename then
    calls
      [.replyServiceSocket (.sendRep
          { approve := true
            filename := some request.filename
            chunksize := some request.chunksize
            port := some request.port }),
        .startFetchClientThread request.senderip request.port
          request.filename request.filemd5 request.filesize
          request.chunksize request.filepath]
  else
    calls [.replyServiceSocket (.sendRep { approve := false })]

/-- `process(SendReply)`; unset fields have their defaults. -/
def processSendReply
    (reply : Option SendReply) : Program (Event DFileCall) Unit := do
  let reply ← deref reply
  if reply.approve then
    calls
      [.startFetchServerThread (reply.port.getD 0) (reply.filename.getD "")
        (reply.chunksize.getD 0)]
  else
    pure ()

/-- `process(FetchRequest)`. -/
def processFetchRequest
    (request : Option FetchRequest) : Program (Event DFileCall) Unit := do
  let request ← deref request
  calls [.sendNextChunk request.port request.chunkid]

/-- `process(FetchReply)`. -/
def processFetchReply
    (reply : Option FetchReply) : Program (Event DFileCall) Unit := do
  let reply ← deref reply
  calls
    [.recvNextChunk reply.filename reply.chunkid reply.data reply.chunksize]

/-! ## Requests to the master -/

/-- The case for `PUT`. -/
def processPut
    (id : String) (putServ : Option FileRequest) :
    Program (Event DFileCall) Unit := do
  let putServ ← deref putServ
  if components.fileMap.countReplicates putServ.filename = 0 then
    calls
      [.replyMasterSocket
          ⟨.put, some (.putReply
            { approve := true, filename := some putServ.filename })⟩,
        .addToFileMap id
          (FileInfo.new putServ.filename putServ.filemd5 putServ.filesize),
        .replicateFile putServ.filename]
  else
    calls [.replyMasterSocket ⟨.put, some (.putReply { approve := false })⟩]

/-- The case for `GET`; the first member with the file has to send it. -/
def processGet
    (id : String) (getServ : Option GetRequest) :
    Program (Event DFileCall) Unit := do
  let getServ ← deref getServ
  if components.fileMap.countReplicates getServ.filename = 0 then
    calls [.replyMasterSocket ⟨.get, some (.getReply { available := false })⟩]
  else
    let sender := components.member.membershipList.find? fun member =>
      components.fileMap.hasFile member getServ.filename
    calls
      (.replyMasterSocket ⟨.get, some (.getReply { available := true })⟩ ::
        sender.toList.map fun member =>
          .sendReplicateCommand member [id] getServ.filename getServ.filepath)

/-- The case for `DEL`. -/
def processDelete
    (delServ : Option String) : Program (Event DFileCall) Unit := do
  let filename ← deref delServ
  if components.fileMap.countReplicates filename = 0 then
    calls
      [.replyMasterSocket
        ⟨.del, some (.deleteReply
          { available := false, filename := some filename })⟩]
  else
    calls
      [.replyMasterSocket
          ⟨.del, some (.deleteReply
            { available := true, filename := some filename })⟩,
        .deleteFile filename]

/-- The case for `UPDATE`. -/
def processUpdate
    (id : String) (updateServ : Option FileRequest) :
    Program (Event DFileCall) Unit := do
  let updateServ ← deref updateServ
  calls
    [.addToFileMap id
        (FileInfo.new updateServ.filename updateServ.filemd5
          updateServ.filesize),
      .replyMasterSocket ⟨.update, none⟩]

/-- The loop for `LST` over the members, which follows the pointer once for
each of them. -/
def membersWithFile
    (listServ : Option String) :
    List String → Program (Event DFileCall) (List String)
  | [] => pure []
  | member :: members => do
      let filename ← deref listServ
      let ids ← membersWithFile listServ members
      pure
        (if components.fileMap.hasFile member filename then member :: ids
          else ids)

/-- The case for `LST`; the list in the reply exists once it has a member. -/
def processList
    (listServ : Option String) : Program (Event DFileCall) Unit := do
  let ids ←
    membersWithFile components listServ components.member.membershipList
  calls
    [.replyMasterSocket
      ⟨.lst, if ids = [] then none else some (.listReply ids)⟩]

/-- `process(ServiceRequest)`.  Every type has a case here and below, so the
default cases of these switches are never reached. -/
def processServiceRequest
    (request : Option ServiceRequest) : Program (Event DFileCall) Unit := do
  let request ← deref request
  match request.type with
  | .put => processPut components request.id request.putRequest
  | .get => processGet components request.id request.getRequest
  | .del => processDelete components request.deleteRequest
  | .update => processUpdate request.id request.updateRequest
  | .lst => processList components request.listRequest

/-! ## Replies of the master -/

/-- The case for `PUT`. -/
def processPutReply
    (putRep : Option PutReply) : Program (Event DFileCall) Unit := do
  let putRep ← deref putRep
  if putRep.approve then calls [.copyBufferedFile (putRep.filename.getD "")]
  else pure ()

/-- The cases for `GET` and `DEL`. -/
def processFileReply
    (reply : Option FileReply) : Program (Event DFileCall) Unit := do
  let reply ← deref reply
  if reply.available then pure ()
  else
    report ("requested file: " ++ reply.filename.getD "" ++ " not available")

/-- `process(ServiceReply)`; a list is printed if it is there. -/
def processServiceReply
    (reply : Option ServiceReply) : Program (Event DFileCall) Unit := do
  let reply ← deref reply
  match reply.type with
  | .put => processPutReply reply.putReply
  | .get => processFileReply reply.getReply
  | .del => processFileReply reply.deleteReply
  | .update => pure ()
  | .lst => pure ()

/-! ## Commands of the master -/

/-- The case for `REPLICATE`. -/
def processReplicate
    (replicateCommand : Option ReplicateCommand) :
    Program (Event DFileCall) Unit := do
  let command ← deref replicateCommand
  calls
    ((command.targets.map fun target =>
      .sendFileRequest target command.filename command.filepath) ++
      [.replyServiceSocket (.commandRep
        { type := .replicate, senderip := components.member.id })])

/-- The case for `DELETE`. -/
def processDeleteCommand
    (deleteCommand : Option String) : Program (Event DFileCall) Unit := do
  let filename ← deref deleteCommand
  calls
    [.deleteLocalFile filename,
      .replyServiceSocket (.commandRep
        { type := .delete, senderip := components.member.id })]

/-- The case for `LIST`, which does not look at the body. -/
def processListCommand : Program (Event DFileCall) Unit :=
  calls
    [.replyServiceSocket (.commandRep
      { type := .list
        senderip := components.member.id
        listReply :=
          if components.node.localFiles = [] then none
          else some components.node.localFiles })]

/-- `process(CommandRequest)`. -/
def processCommandRequest
    (request : Option CommandRequest) : Program (Event DFileCall) Unit := do
  let request ← deref request
  if components.leader ≠ request.senderip then
    report ("command comes from non-leader node: " ++ request.senderip)
  else
    match request.type with
    | .replicate => processReplicate components request.replicateCommand
    | .delete => processDeleteCommand components request.deleteCommand
    | .list => processListCommand components

/-- `process(CommandReply)`, which checks `has_listreply`. -/
def processCommandReply
    (reply : Option CommandReply) : Program (Event DFileCall) Unit := do
  let reply ← deref reply
  match reply.type, reply.listReply with
  | .list, some infos =>
      calls
        [.updateFileMap reply.senderip
          (infos.map fun info => FileInfo.new info.name info.md5 info.size)]
  | _, _ => pure ()

end DFileMessageHandler

open DFileMessageHandler

/-- `DFileMessageParser::parse`, with what protobuf makes of a buffer. -/
def DFileMessageParser.parse
    (components : DFileComponents)
    (parseFromArray : List UInt8 → Option WrappedDFileMessage)
    (buffer : List UInt8) : Program (Event DFileCall) Unit :=
  match parseFromArray buffer with
  | none => throwing "Cannot parse the message"
  | some msg =>
      match msg.type with
      | .serviceReq =>
          handle "ServiceRequest"
            (processServiceRequest components msg.serviceRequest)
      | .serviceRep =>
          handle "ServiceReply" (processServiceReply msg.serviceReply)
      | .sendReq =>
          handle "SendRequest" (processSendRequest components msg.sendRequest)
      | .sendRep => handle "SendReply" (processSendReply msg.sendReply)
      | .fetchReq =>
          handle "FetchRequest" (processFetchRequest msg.fetchRequest)
      | .fetchRep => handle "FetchReply" (processFetchReply msg.fetchReply)
      | .commandReq =>
          handle "CommandRequest"
            (processCommandRequest components msg.commandRequest)
      | .commandRep =>
          handle "CommandReply" (processCommandReply msg.commandReply)

/-! ## Bodies -/

/-- The body that the handler looks at is there; for `LST` it looks if there
are members. -/
def ServiceRequest.HasBody
    (members : List String) (request : ServiceRequest) : Prop :=
  match request.type with
  | .put => request.putRequest ≠ none
  | .get => request.getRequest ≠ none
  | .del => request.deleteRequest ≠ none
  | .update => request.updateRequest ≠ none
  | .lst => members = [] ∨ request.listRequest ≠ none

/-- The body that the handler looks at is there. -/
def ServiceReply.HasBody (reply : ServiceReply) : Prop :=
  match reply.type with
  | .put => reply.putReply ≠ none
  | .get => reply.getReply ≠ none
  | .del => reply.deleteReply ≠ none
  | .update => True
  | .lst => True

/-- The bodies that the handlers look at are there; a command is looked at if
it comes from the leader. -/
def WrappedDFileMessage.HasBody
    (components : DFileComponents) (msg : WrappedDFileMessage) : Prop :=
  match msg.type with
  | .serviceReq => ∃ request, msg.serviceRequest = some request ∧
      request.HasBody components.member.membershipList
  | .serviceRep => ∃ reply, msg.serviceReply = some reply ∧ reply.HasBody
  | .sendReq => msg.sendRequest ≠ none
  | .sendRep => msg.sendReply ≠ none
  | .fetchReq => msg.fetchRequest ≠ none
  | .fetchRep => msg.fetchReply ≠ none
  | .commandReq => ∃ request, msg.commandRequest = some request ∧
      (components.leader = request.senderip → request.HasBody)
  | .commandRep => msg.commandReply ≠ none

variable {components : DFileComponents}

namespace DFileMessageHandler

/-- The file name is read before anything is decided. -/
theorem safe_processSendRequest_iff {request : Option SendRequest} :
    (processSendRequest components request).Safe ↔ request ≠ none := by
  refine safe_deref_bind_iff_ne_none fun request => ?_
  split <;> exact safe_calls _

/-- The reply is read for its approval. -/
theorem safe_processSendReply_iff {reply : Option SendReply} :
    (processSendReply reply).Safe ↔ reply ≠ none := by
  refine safe_deref_bind_iff_ne_none fun reply => ?_
  split
  · exact safe_calls _
  · exact safe_pure ()

/-- The port and the chunk are read. -/
theorem safe_processFetchRequest_iff {request : Option FetchRequest} :
    (processFetchRequest request).Safe ↔ request ≠ none :=
  safe_deref_bind_iff_ne_none fun _ => safe_calls _

/-- The chunk and its data are read. -/
theorem safe_processFetchReply_iff {reply : Option FetchReply} :
    (processFetchReply reply).Safe ↔ reply ≠ none :=
  safe_deref_bind_iff_ne_none fun _ => safe_calls _

/-- `PUT` counts the replicas of the file in the request. -/
theorem safe_processPut_iff {id : String} {putServ : Option FileRequest} :
    (processPut components id putServ).Safe ↔ putServ ≠ none := by
  refine safe_deref_bind_iff_ne_none fun putServ => ?_
  split <;> exact safe_calls _

/-- `GET` does so, too, -/
theorem safe_processGet_iff {id : String} {getServ : Option GetRequest} :
    (processGet components id getServ).Safe ↔ getServ ≠ none := by
  refine safe_deref_bind_iff_ne_none fun getServ => ?_
  split <;> exact safe_calls _

/-- and `DEL`, -/
theorem safe_processDelete_iff {delServ : Option String} :
    (processDelete components delServ).Safe ↔ delServ ≠ none := by
  refine safe_deref_bind_iff_ne_none fun filename => ?_
  split <;> exact safe_calls _

/-- while `UPDATE` registers it without a look at the map. -/
theorem safe_processUpdate_iff
    {id : String} {updateServ : Option FileRequest} :
    (processUpdate id updateServ).Safe ↔ updateServ ≠ none :=
  safe_deref_bind_iff_ne_none fun _ => safe_calls _

/-- Without members the loop looks at nothing. -/
theorem safe_membersWithFile_iff
    {listServ : Option String} {members : List String} :
    (membersWithFile components listServ members).Safe ↔
      members = [] ∨ listServ ≠ none := by
  induction members with
  | nil => exact iff_of_true (safe_pure []) (.inl rfl)
  | cons member members inductionHypothesis =>
      rw [membersWithFile, or_iff_right (List.cons_ne_nil member members)]
      constructor
      · intro safe isNone
        obtain ⟨filename, isSome, _⟩ := safe_deref_bind_iff.mp safe
        exact Option.some_ne_none filename (isSome.symm.trans isNone)
      · intro isSome
        refine (safe_deref_bind_iff_ne_none fun filename => ?_).mpr isSome
        refine safe_bind_iff.mpr ⟨?_, fun ids _ => safe_pure _⟩
        exact inductionHypothesis.mpr (.inr isSome)

/-- `LST` needs the request only for the loop over the members. -/
theorem safe_processList_iff {listServ : Option String} :
    (processList components listServ).Safe ↔
      components.member.membershipList = [] ∨ listServ ≠ none := by
  rw [processList, safe_bind_iff, safe_membersWithFile_iff]
  exact and_iff_left fun ids _ => safe_calls _

/-- All requests to the master together. -/
theorem safe_processServiceRequest_iff {request : Option ServiceRequest} :
    (processServiceRequest components request).Safe ↔
      ∃ sent, request = some sent ∧
        sent.HasBody components.member.membershipList := by
  rw [processServiceRequest, safe_deref_bind_iff]
  refine exists_congr fun sent => and_congr_right fun _ => ?_
  rw [ServiceRequest.HasBody]
  cases sent.type with
  | put => exact safe_processPut_iff
  | get => exact safe_processGet_iff
  | del => exact safe_processDelete_iff
  | update => exact safe_processUpdate_iff
  | lst => exact safe_processList_iff

/-- The putting node looks for the approval. -/
theorem safe_processPutReply_iff {putRep : Option PutReply} :
    (processPutReply putRep).Safe ↔ putRep ≠ none := by
  refine safe_deref_bind_iff_ne_none fun putRep => ?_
  split
  · exact safe_calls _
  · exact safe_pure ()

/-- The node looks whether the file is there. -/
theorem safe_processFileReply_iff {reply : Option FileReply} :
    (processFileReply reply).Safe ↔ reply ≠ none := by
  refine safe_deref_bind_iff_ne_none fun reply => ?_
  split
  · exact safe_pure ()
  · exact safe_report _

/-- All replies of the master: `UPDATE` and `LST` need no body. -/
theorem safe_processServiceReply_iff {reply : Option ServiceReply} :
    (processServiceReply reply).Safe ↔
      ∃ sent, reply = some sent ∧ sent.HasBody := by
  rw [processServiceReply, safe_deref_bind_iff]
  refine exists_congr fun sent => and_congr_right fun _ => ?_
  rw [ServiceReply.HasBody]
  cases sent.type with
  | put => exact safe_processPutReply_iff
  | get => exact safe_processFileReply_iff
  | del => exact safe_processFileReply_iff
  | update => exact iff_true_intro (safe_pure ())
  | lst => exact iff_true_intro (safe_pure ())

/-- `REPLICATE` goes through the targets. -/
theorem safe_processReplicate_iff
    {replicateCommand : Option ReplicateCommand} :
    (processReplicate components replicateCommand).Safe ↔
      replicateCommand ≠ none :=
  safe_deref_bind_iff_ne_none fun _ => safe_calls _

/-- `DELETE` takes the name of the file. -/
theorem safe_processDeleteCommand_iff {deleteCommand : Option String} :
    (processDeleteCommand components deleteCommand).Safe ↔
      deleteCommand ≠ none :=
  safe_deref_bind_iff_ne_none fun _ => safe_calls _

/-- A command of another node is rejected before its body is looked at. -/
theorem safe_processCommandRequest_iff {request : Option CommandRequest} :
    (processCommandRequest components request).Safe ↔
      ∃ sent, request = some sent ∧
        (components.leader = sent.senderip → sent.HasBody) := by
  rw [processCommandRequest, safe_deref_bind_iff]
  refine exists_congr fun sent => and_congr_right fun _ => ?_
  by_cases fromLeader : components.leader = sent.senderip
  · rw [if_neg (not_not_intro fromLeader), CommandRequest.HasBody,
      imp_iff_right fromLeader]
    cases sent.type with
    | replicate => exact safe_processReplicate_iff
    | delete => exact safe_processDeleteCommand_iff
    | list => exact iff_true_intro (safe_calls _)
  · rw [if_pos fromLeader]
    exact iff_of_true (safe_report _) fun isLeader => absurd isLeader fromLeader

/-- The list of the reply is checked for, the reply is not. -/
theorem safe_processCommandReply_iff {reply : Option CommandReply} :
    (processCommandReply reply).Safe ↔ reply ≠ none := by
  refine safe_deref_bind_iff_ne_none fun reply => ?_
  split
  · exact safe_calls _
  · exact safe_pure ()

end DFileMessageHandler

/-- The parser and its handlers cope with a message exactly if the bodies that
they look at are there. -/
theorem DFileMessageParser.dispatches_parse_iff
    {parseFromArray : List UInt8 → Option WrappedDFileMessage}
    {buffer : List UInt8} :
    (DFileMessageParser.parse components parseFromArray buffer).Dispatches ↔
      ∀ msg ∈ parseFromArray buffer, msg.HasBody components := by
  rw [DFileMessageParser.parse]
  cases parseFromArray buffer with
  | none => simp
  | some msg =>
      simp only [Option.mem_some_iff, forall_eq', WrappedDFileMessage.HasBody]
      cases msg.type with
      | serviceReq =>
          exact (dispatches_handle_iff _).trans safe_processServiceRequest_iff
      | serviceRep =>
          exact (dispatches_handle_iff _).trans safe_processServiceReply_iff
      | sendReq =>
          exact (dispatches_handle_iff _).trans safe_processSendRequest_iff
      | sendRep =>
          exact (dispatches_handle_iff _).trans safe_processSendReply_iff
      | fetchReq =>
          exact (dispatches_handle_iff _).trans safe_processFetchRequest_iff
      | fetchRep =>
          exact (dispatches_handle_iff _).trans safe_processFetchReply_iff
      | commandReq =>
          exact (dispatches_handle_iff _).trans safe_processCommandRequest_iff
      | commandRep =>
          exact (dispatches_handle_iff _).trans safe_processCommandReply_iff

/-! ## The service thread

The requests that the service thread of a node answers: what it replies is what
the handlers send on the service socket. -/

/-- What is sent on the service socket. -/
def serviceReplies
    (action : Program (Event DFileCall) Unit) :
    List FileTransfer.ServiceReply :=
  action.called.filterMap fun call =>
    match call with
    | .replyServiceSocket reply => some reply
    | _ => none

/-- The handler of a request to the service thread. -/
def processServiceMessage
    (components : DFileComponents) :
    FileTransfer.ServiceMessage → Program (Event DFileCall) Unit
  | .sendReq request => processSendRequest components request
  | .commandReq request => processCommandRequest components request

variable {shell : FileTransfer.Shell} {connects : String → Int → Bool}
variable {exchange : Nat → FileTransfer.Exchange}

namespace DFileMessageHandler

/-- The answer to a transfer is the reply of the handler. -/
theorem serviceReplies_processSendRequest
    {request : SendRequest} {processed : FileTransfer.Processed}
    (answered : components.node.answerSendRequest connects request =
      some processed) :
    serviceReplies (processSendRequest components (some request)) =
      processed.replies := by
  rw [DFile.answerSendRequest, DFile.processSendRequest] at answered
  have unfolded : processSendRequest components (some request) =
      if components.node.checkFileAvailable request.filename then _ else _ :=
    rfl
  rw [unfolded]
  by_cases available :
      components.node.checkFileAvailable request.filename = true
  · rw [if_pos available] at answered ⊢
    dsimp only at answered
    split at answered
    · obtain rfl := Option.some.inj answered
      rfl
    · cases answered
  · rw [if_neg available] at answered ⊢
    obtain rfl := Option.some.inj answered
    rfl

/-- A command of the leader that is answered has its body. -/
theorem hasBody_of_answerCommandRequest
    {request : CommandRequest} {processed : FileTransfer.Processed}
    (answered : components.node.answerCommandRequest shell connects
      components.leader exchange request = some processed)
    (fromLeader : components.leader = request.senderip) : request.HasBody := by
  rw [DFile.answerCommandRequest, if_neg (not_not_intro fromLeader)]
    at answered
  rw [CommandRequest.HasBody]
  cases isType : request.type with
  | replicate =>
      rw [isType] at answered
      obtain ⟨command, isCommand, _⟩ := Option.map_eq_some_iff.mp answered
      exact Option.ne_none_iff_exists'.mpr ⟨command, isCommand⟩
  | delete =>
      rw [isType] at answered
      obtain ⟨filename, isCommand, _⟩ := Option.map_eq_some_iff.mp answered
      exact Option.ne_none_iff_exists'.mpr ⟨filename, isCommand⟩
  | list => trivial

/-- The answer to a command is the reply of the handler, or none. -/
theorem serviceReplies_processCommandRequest
    (isId : components.member.id = components.node.id)
    {request : CommandRequest} {processed : FileTransfer.Processed}
    (answered : components.node.answerCommandRequest shell connects
      components.leader exchange request = some processed)
    (returned : processed.threw = false) :
    serviceReplies (processCommandRequest components (some request)) =
      processed.replies := by
  rw [DFile.answerCommandRequest] at answered
  have unfolded : processCommandRequest components (some request) =
      if components.leader ≠ request.senderip then _ else _ := rfl
  rw [unfolded]
  by_cases fromLeader : components.leader = request.senderip
  · rw [if_neg (not_not_intro fromLeader)] at answered ⊢
    cases isType : request.type with
    | replicate =>
        rw [isType] at answered
        obtain ⟨command, isCommand, rfl⟩ := Option.map_eq_some_iff.mp answered
        have reached : command.targets.takeWhile
            (connects · DFile.servicePort) = command.targets :=
          not_not.mp (of_decide_eq_false returned)
        rw [isCommand]
        rw [serviceReplies, processReplicate, deref_some_bind, called_calls]
        simp [DFile.replicateTo, reached, isId]
    | delete =>
        rw [isType] at answered
        obtain ⟨filename, isCommand, rfl⟩ := Option.map_eq_some_iff.mp answered
        rw [isCommand, ← isId]
        rfl
    | list =>
        rw [isType] at answered
        obtain rfl := Option.some.inj answered
        rw [← isId]
        rfl
  · rw [if_pos fromLeader] at answered ⊢
    obtain rfl := Option.some.inj answered
    rfl

end DFileMessageHandler

/-- Where the service thread of a node comes to an answer without an exception,
the handler follows no null pointer and sends the same replies. -/
theorem serviceReplies_of_answer
    (isId : components.member.id = components.node.id)
    {message : FileTransfer.ServiceMessage} {processed : FileTransfer.Processed}
    (answered : components.node.answer shell connects components.leader
      exchange message = some processed)
    (returned : processed.threw = false) :
    (processServiceMessage components message).Safe ∧
      serviceReplies (processServiceMessage components message) =
        processed.replies := by
  cases message with
  | sendReq request =>
      obtain ⟨sent, rfl, isProcessed⟩ := Option.bind_eq_some_iff.mp answered
      constructor
      · exact safe_processSendRequest_iff.mpr (Option.some_ne_none sent)
      · exact serviceReplies_processSendRequest isProcessed
  | commandReq request =>
      obtain ⟨sent, rfl, isProcessed⟩ := Option.bind_eq_some_iff.mp answered
      constructor
      · refine safe_processCommandRequest_iff.mpr ⟨sent, rfl, ?_⟩
        exact hasBody_of_answerCommandRequest isProcessed
      · exact serviceReplies_processCommandRequest isId isProcessed returned

end Messages
end CraneSps
