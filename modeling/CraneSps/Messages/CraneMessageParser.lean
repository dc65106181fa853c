import CraneSps.Foundation.Pointers
import CraneSps.Messages.CraneProtocol

/-!
# Dispatch of the messages of the stream processor

`CraneMessageParser::parse` switches on the types of a message and of the
request in it, and hands what it has released to a handler, which may be a
null pointer.  Some handlers look at it and some do not, and for the messages
to workers that depends on the class of the handler.
-/

namespace CraneSps
namespace Messages

open Crane (SubmitRequest TopologySpec GroupedAddresses ConnectionGroup Tuple
  CraneTuple)
open Pointers (Program Event)
open Pointers.Program

/-- What the handlers do with the other components. -/
inductive CraneCall
  /-- `Nimbus::reply`. -/
  | reply (reply : CraneClientReply)
  | killTopology (topoid : String)
  | stopTopology (topoid : String)
  | prepareTopology (topoid : String)
  | startTopology (topoid : String)
  | setTopoSpec (topoid : String) (spec : TopologySpec)
  | setTopoStatus (topoid status : String)
  | compileTopology (topoid : String) (sources : List String)
  | addTopoTaskInstance (topoid name instanceAddress : String)
  | writeFile (filepath : String) (data : List UInt8)
  /-- `Supervisor::addWorker`. -/
  | addWorker (topoId runName name : String) (parallelismLevel : Int)
  | startWorker (topoId name : String)
  | killWorker (topoId name : String)
  | configureConnections
      (topoId name : String) (connectionGroups : List ConnectionGroup)
  | replyConfigureConnections
  /-- `Worker::pushTuple`. -/
  | pushTuple (tuple : Tuple)
  | pushTuples (tuples : List Tuple)
  /-- `Worker::configureConnections`. -/
  | configureWorker (connectionGroups : List ConnectionGroup)
  | startProcessing
  | kill
  deriving DecidableEq

/-- What the handlers ask Nimbus for. -/
structure NimbusReadings where
  getTopoStatus : String → String
  getAllTopoIds : List String
  getTopoSpec : String → TopologySpec
  getTopoTaskInstances : String → String → List String

/-- The class of a handler: `CraneMessageHandler` or
`WorkerMessageHandler`. -/
inductive CraneHandler
  | crane
  | worker
  deriving DecidableEq

namespace CraneMessageHandler

variable (nimbus : NimbusReadings)

/-! ## Requests of a client -/

/-- The handlers that reply whether a topology exists, and then do something
with it if it does. -/
def processTopologyRequest
    (type : ClientType) (body : String → Bool → ClientReplyBody)
    (operations : String → List CraneCall)
    (request : Option TopologyRequest) : Program (Event CraneCall) Unit := do
  let request ← deref request
  let topoid := request.toponame
  if nimbus.getTopoStatus topoid ≠ "nonexisted" then
    calls (.reply ⟨type, some (body topoid false)⟩ :: operations topoid)
  else
    calls [.reply ⟨type, some (body topoid true)⟩]

/-- `process(KillRequest)`. -/
def processKill :
    Option TopologyRequest → Program (Event CraneCall) Unit :=
  processTopologyRequest nimbus .kill .killreply
    fun topoid => [.killTopology topoid]

/-- `process(StartRequest)`. -/
def processStart :
    Option TopologyRequest → Program (Event CraneCall) Unit :=
  processTopologyRequest nimbus .start .startreply
    fun topoid => [.prepareTopology topoid, .startTopology topoid]

/-- `process(StopRequest)`. -/
def processStop :
    Option TopologyRequest → Program (Event CraneCall) Unit :=
  processTopologyRequest nimbus .stop .stopreply
    fun topoid => [.stopTopology topoid]

/-- `process(SubmitRequest)`. -/
def processSubmit
    (request : Option SubmitRequest) : Program (Event CraneCall) Unit := do
  let request ← deref request
  let topoid := request.toponame
  if nimbus.getTopoStatus topoid ≠ "nonexisted" then
    calls [.reply ⟨.submit, some (.submitreply topoid false)⟩]
  else
    calls
      [.setTopoSpec topoid (TopologySpec.parseFromRequest request),
        .setTopoStatus topoid "pending",
        .reply ⟨.submit, some (.submitreply topoid true)⟩]

/-- What stands before the first `.cpp`. -/
def beforeCpp : List Char → Option (List Char)
  | [] => none
  | char :: chars =>
      if ".cpp".toList <+: char :: chars then some []
      else (beforeCpp chars).map (char :: ·)

/-- `process(SendRequest)`; its check of the file is disabled. -/
def processSend
    (request : Option CraneClientRequest.SendRequest) :
    Program (Event CraneCall) Unit := do
  let request ← deref request
  let topoid := request.toponame
  let sources := request.extractedfiles.filterMap fun file =>
    (beforeCpp file.toList).map String.ofList
  calls
    [.writeFile ("tmp/" ++ request.filename) request.data,
      .reply ⟨.send, some (.sendreply topoid true)⟩,
      .compileTopology topoid sources,
      .prepareTopology topoid,
      .startTopology topoid]

/-- The workers of a task in a `STATUS` reply. -/
def workerStatuses (topoid name runname : String) : List WorkerStatus :=
  (nimbus.getTopoTaskInstances topoid name).map fun address =>
    { name := name, address := address, runname := runname }

/-- `process(StatusRequest)`, which does not look at the request. -/
def processStatus : Program (Event CraneCall) Unit :=
  calls
    [.reply ⟨.status, some (.statusreply
      (nimbus.getAllTopoIds.map fun topoid =>
        let spec := nimbus.getTopoSpec topoid
        { toponame := topoid
          status := nimbus.getTopoStatus topoid
          workers :=
            (spec.spoutSpecs.flatMap fun ss =>
              workerStatuses nimbus topoid ss.name ss.runname) ++
            spec.boltSpecs.flatMap fun bs =>
              workerStatuses nimbus topoid bs.name bs.runname }))⟩]

/-! ## Requests of Nimbus, and replies to it -/

/-- `process(AddWorkerReply)`; an address is made by
`SystemHelper::makeAddr`. -/
def processAddWorkerReply
    (reply : Option AddWorkerReply) : Program (Event CraneCall) Unit := do
  let reply ← deref reply
  if reply.port = [] then
    report "Add worker reply creates no worker"
  else
    calls (reply.port.map fun port =>
      .addTopoTaskInstance reply.topoId reply.name
        ("tcp://" ++ reply.supervisorId ++ ":" ++ toString port))

/-- `process(AddWorkerRequest)`. -/
def processAddWorker
    (request : Option AddWorkerRequest) : Program (Event CraneCall) Unit := do
  let request ← deref request
  calls
    [.addWorker request.topoId request.runName request.name
      request.instanceNumber]

/-- `process(StartWorkerRequest)`. -/
def processStartWorker
    (request : Option WorkerRequest) : Program (Event CraneCall) Unit := do
  let request ← deref request
  calls [.startWorker request.topoId request.name]

/-- `process(KillWorkerRequest)`. -/
def processKillWorker
    (request : Option WorkerRequest) : Program (Event CraneCall) Unit := do
  let request ← deref request
  calls [.killWorker request.topoId request.name]

/-- `process(ConfigureConnectionsRequest)` of a supervisor. -/
def processConfigureConnections
    (request : Option ConfigureConnectionsRequest) :
    Program (Event CraneCall) Unit := do
  let request ← deref request
  calls
    ((request.workerConnections.map fun workerConnection =>
      .configureConnections workerConnection.topoId workerConnection.name
        (workerConnection.groupedAddresses.map
          GroupedAddresses.connectionGroup)) ++
      [.replyConfigureConnections])

/-! ## Messages to workers -/

/-- `process(CraneTuple)`, which a worker overrides. -/
def processTuple
    (tuple : Option CraneTuple) : CraneHandler → Program (Event CraneCall) Unit
  | .crane => pure ()
  | .worker => do
      let tuple ← deref tuple
      calls [.pushTuple ⟨tuple.id, tuple.data⟩]

/-- `process(CraneTupleBatch)`, which a worker overrides. -/
def processTupleBatch
    (batch : Option (List CraneTuple)) :
    CraneHandler → Program (Event CraneCall) Unit
  | .crane => pure ()
  | .worker => do
      let tuples ← deref batch
      calls [.pushTuples (tuples.map fun tuple => ⟨tuple.id, tuple.data⟩)]

/-- `process(ConfigureConnectionsRequest)` of a worker. -/
def processConfigureWorker
    (connections : Option (List GroupedAddresses)) :
    CraneHandler → Program (Event CraneCall) Unit
  | .crane => pure ()
  | .worker => do
      let groups ← deref connections
      calls [.configureWorker (groups.map GroupedAddresses.connectionGroup)]

/-- `process(StartRequest)` of a worker, which does not look at it. -/
def processStartRequest : CraneHandler → Program (Event CraneCall) Unit
  | .crane => pure ()
  | .worker => calls [.startProcessing]

/-- `process(KillRequest)` of a worker, which does not look at it. -/
def processKillRequest : CraneHandler → Program (Event CraneCall) Unit
  | .crane => pure ()
  | .worker => calls [.kill]

end CraneMessageHandler

namespace CraneMessageParser

open CraneMessageHandler

variable (nimbus : NimbusReadings) (handler : CraneHandler)

/-! ## The parser -/

/-- The switch for `CLIENT_REQ`.  Here and below every type has a case, so
that the default cases of these switches are never reached. -/
def parseClientRequest
    (clientReq : CraneClientRequest) : Program (Event CraneCall) Unit :=
  match clientReq.type with
  | .submit =>
      handle "SubmitRequest" (processSubmit nimbus clientReq.submitrequest)
  | .send => handle "SendRequest" (processSend clientReq.sendrequest)
  | .start => handle "StartRequest" (processStart nimbus clientReq.startrequest)
  | .stop => handle "StopRequest" (processStop nimbus clientReq.stoprequest)
  | .kill => handle "KillRequest" (processKill nimbus clientReq.killrequest)
  | .status => handle "StatusRequest" (processStatus nimbus)

/-- The switch for `NIMBUS_REQ`. -/
def parseNimbusRequest
    (request : CraneNimbusRequest) : Program (Event CraneCall) Unit :=
  match request.type with
  | .addWorker =>
      handle "AddWorkerRequest" (processAddWorker request.addWorkerRequest)
  | .startWorker =>
      handle "StartWorkerRequest"
        (processStartWorker request.startWorkerRequest)
  | .killWorker =>
      handle "KillWorkerRequest" (processKillWorker request.killWorkerRequest)
  | .configConns =>
      handle "ConfigureConnectionsRequest"
        (processConfigureConnections request.configureConnectionsRequest)

/-- The switch for `NIMBUS_REP`; three of the handlers do nothing. -/
def parseNimbusReply
    (reply : CraneNimbusReply) : Program (Event CraneCall) Unit :=
  match reply.type with
  | .addWorker =>
      handle "AddWorkerReply" (processAddWorkerReply reply.addWorkerReply)
  | .startWorker => handle "StartWorkerReply" (pure ())
  | .killWorker => handle "KillWorkerReply" (pure ())
  | .configConns => handle "ConfigureConnectionsReply" (pure ())

/-- The switch for `SUPERVISOR_REQ`. -/
def parseSupervisorRequest
    (request : CraneSupervisorRequest) : Program (Event CraneCall) Unit :=
  match request.type with
  | .configConns =>
      handle "ConfigureConnectionsRequest"
        (processConfigureWorker request.configureConnectionsRequest handler)
  | .start => handle "StartRequest" (processStartRequest handler)
  | .kill => handle "KillRequest" (processKillRequest handler)

/-- The switch for `SUPERVISOR_REP`; all handlers do nothing. -/
def parseSupervisorReply
    (reply : CraneSupervisorReply) : Program (Event CraneCall) Unit :=
  match reply.type with
  | .configConns => handle "ConfigureConnectionsReply" (pure ())
  | .start => handle "StartReply" (pure ())
  | .kill => handle "KillReply" (pure ())

/-- `CraneMessageParser::parse`, with what protobuf makes of a buffer. -/
def parse
    (parseFromArray : List UInt8 → Option CraneWrappedMessage)
    (buffer : List UInt8) : Program (Event CraneCall) Unit :=
  match parseFromArray buffer with
  | none => throwing "Cannot parse the message"
  | some msg =>
      match msg.type with
      | .clientReq => do
          let clientReq ← deref msg.craneclientrequest
          parseClientRequest nimbus clientReq
      | .nimbusReq => do
          let request ← deref msg.craneNimbusRequest
          parseNimbusRequest request
      | .nimbusRep => do
          let reply ← deref msg.craneNimbusReply
          parseNimbusReply reply
      | .supervisorReq => do
          let request ← deref msg.craneSupervisorRequest
          parseSupervisorRequest handler request
      | .supervisorRep => do
          let reply ← deref msg.craneSupervisorReply
          parseSupervisorReply reply
      | .tuple => handle "CraneTuple" (processTuple msg.craneTuple handler)
      | .tupleBatch =>
          handle "CraneTupleBatch"
            (processTupleBatch msg.craneTupleBatch handler)
      -- there is no case for replies to a client
      | .clientRep => report "Invalid nimbus request"

end CraneMessageParser

/-! ## Bodies

What has to be there for a message to be dispatched: the body that its type
stands for, if there is somebody who looks at it. -/

/-- The body that a handler looks at is there. -/
def CraneClientRequest.HasBody (request : CraneClientRequest) : Prop :=
  match request.type with
  | .submit => request.submitrequest ≠ none
  | .send => request.sendrequest ≠ none
  | .start => request.startrequest ≠ none
  | .stop => request.stoprequest ≠ none
  | .kill => request.killrequest ≠ none
  | .status => True

/-- The body that a handler looks at is there. -/
def CraneNimbusRequest.HasBody (request : CraneNimbusRequest) : Prop :=
  match request.type with
  | .addWorker => request.addWorkerRequest ≠ none
  | .startWorker => request.startWorkerRequest ≠ none
  | .killWorker => request.killWorkerRequest ≠ none
  | .configConns => request.configureConnectionsRequest ≠ none

/-- The body that a handler looks at is there. -/
def CraneNimbusReply.HasBody (reply : CraneNimbusReply) : Prop :=
  reply.type = .addWorker → reply.addWorkerReply ≠ none

/-- The body that a handler looks at is there. -/
def CraneSupervisorRequest.HasBody
    (handler : CraneHandler) (request : CraneSupervisorRequest) : Prop :=
  handler = .worker → request.type = .configConns →
    request.configureConnectionsRequest ≠ none

/-- The bodies that the parser and a handler look at are there. -/
def CraneWrappedMessage.HasBody
    (handler : CraneHandler) (msg : CraneWrappedMessage) : Prop :=
  match msg.type with
  | .clientReq => ∃ request, msg.craneclientrequest = some request ∧
      request.HasBody
  | .nimbusReq => ∃ request, msg.craneNimbusRequest = some request ∧
      request.HasBody
  | .nimbusRep => ∃ reply, msg.craneNimbusReply = some reply ∧ reply.HasBody
  | .supervisorReq => ∃ request, msg.craneSupervisorRequest = some request ∧
      request.HasBody handler
  | .supervisorRep => msg.craneSupervisorReply ≠ none
  | .tuple => handler = .worker → msg.craneTuple ≠ none
  | .tupleBatch => handler = .worker → msg.craneTupleBatch ≠ none
  | .clientRep => True

variable {nimbus : NimbusReadings} {handler : CraneHandler}

namespace CraneMessageHandler

/-- `START`, `STOP` and `KILL` look the name of the topology up in the request.
-/
theorem safe_processTopologyRequest_iff
    {type : ClientType} {body : String → Bool → ClientReplyBody}
    {operations : String → List CraneCall} {request : Option TopologyRequest} :
    (processTopologyRequest nimbus type body operations request).Safe ↔
      request ≠ none := by
  refine safe_deref_bind_iff_ne_none fun request => ?_
  dsimp only
  split <;> exact safe_calls _

/-- `SUBMIT` looks the name and the specification up. -/
theorem safe_processSubmit_iff {request : Option SubmitRequest} :
    (processSubmit nimbus request).Safe ↔ request ≠ none := by
  refine safe_deref_bind_iff_ne_none fun request => ?_
  dsimp only
  split <;> exact safe_calls _

/-- `SEND` takes the archive and the sources out of the request. -/
theorem safe_processSend_iff
    {request : Option CraneClientRequest.SendRequest} :
    (processSend request).Safe ↔ request ≠ none :=
  safe_deref_bind_iff_ne_none fun _ => safe_calls _

/-- The reply is read for its ports, and an empty list is reported. -/
theorem safe_processAddWorkerReply_iff {reply : Option AddWorkerReply} :
    (processAddWorkerReply reply).Safe ↔ reply ≠ none := by
  refine safe_deref_bind_iff_ne_none fun reply => ?_
  split
  · exact safe_report _
  · exact safe_calls _

/-- A supervisor reads what the worker is to run. -/
theorem safe_processAddWorker_iff {request : Option AddWorkerRequest} :
    (processAddWorker request).Safe ↔ request ≠ none :=
  safe_deref_bind_iff_ne_none fun _ => safe_calls _

/-- It reads which worker to start, -/
theorem safe_processStartWorker_iff {request : Option WorkerRequest} :
    (processStartWorker request).Safe ↔ request ≠ none :=
  safe_deref_bind_iff_ne_none fun _ => safe_calls _

/-- and which one to kill. -/
theorem safe_processKillWorker_iff {request : Option WorkerRequest} :
    (processKillWorker request).Safe ↔ request ≠ none :=
  safe_deref_bind_iff_ne_none fun _ => safe_calls _

/-- The list of connections is read even if it is empty. -/
theorem safe_processConfigureConnections_iff
    {request : Option ConfigureConnectionsRequest} :
    (processConfigureConnections request).Safe ↔ request ≠ none :=
  safe_deref_bind_iff_ne_none fun _ => safe_calls _

/-- What a worker looks at and other handlers do not. -/
theorem safe_iff_of_worker
    {Value : Type} {pointer : Option Value}
    {body : CraneHandler → Program (Event CraneCall) Unit}
    (crane : (body .crane).Safe)
    (worker : (body .worker).Safe ↔ pointer ≠ none) :
    (body handler).Safe ↔ (handler = .worker → pointer ≠ none) := by
  cases handler with
  | crane => exact iff_of_true crane fun isWorker => by cases isWorker
  | worker =>
      exact worker.trans ⟨fun isSome _ => isSome, fun isSome => isSome rfl⟩

/-- Only a worker reads a tuple. -/
theorem safe_processTuple_iff {tuple : Option CraneTuple} :
    (processTuple tuple handler).Safe ↔
      (handler = .worker → tuple ≠ none) :=
  safe_iff_of_worker (safe_pure ())
    (safe_deref_bind_iff_ne_none fun _ => safe_calls _)

/-- Only a worker goes through a batch. -/
theorem safe_processTupleBatch_iff {batch : Option (List CraneTuple)} :
    (processTupleBatch batch handler).Safe ↔
      (handler = .worker → batch ≠ none) :=
  safe_iff_of_worker (safe_pure ())
    (safe_deref_bind_iff_ne_none fun _ => safe_calls _)

/-- Only a worker reads its connections. -/
theorem safe_processConfigureWorker_iff
    {connections : Option (List GroupedAddresses)} :
    (processConfigureWorker connections handler).Safe ↔
      (handler = .worker → connections ≠ none) :=
  safe_iff_of_worker (safe_pure ())
    (safe_deref_bind_iff_ne_none fun _ => safe_calls _)

/-- A start has no body. -/
theorem safe_processStartRequest : (processStartRequest handler).Safe := by
  cases handler with
  | crane => exact safe_pure ()
  | worker => exact safe_calls _

/-- A kill has none either. -/
theorem safe_processKillRequest : (processKillRequest handler).Safe := by
  cases handler with
  | crane => exact safe_pure ()
  | worker => exact safe_calls _

end CraneMessageHandler

namespace CraneMessageParser

open CraneMessageHandler

/-- The requests of clients: a status request needs no body. -/
theorem dispatches_parseClientRequest_iff {clientReq : CraneClientRequest} :
    (parseClientRequest nimbus clientReq).Dispatches ↔
      clientReq.HasBody := by
  rw [parseClientRequest, CraneClientRequest.HasBody]
  cases clientReq.type with
  | submit => exact (dispatches_handle_iff _).trans safe_processSubmit_iff
  | send => exact (dispatches_handle_iff _).trans safe_processSend_iff
  | start =>
      exact (dispatches_handle_iff _).trans safe_processTopologyRequest_iff
  | stop =>
      exact (dispatches_handle_iff _).trans safe_processTopologyRequest_iff
  | kill =>
      exact (dispatches_handle_iff _).trans safe_processTopologyRequest_iff
  | status =>
      exact (dispatches_handle_iff _).trans (iff_true_intro (safe_calls _))

/-- The requests of Nimbus: each type has a body. -/
theorem dispatches_parseNimbusRequest_iff {request : CraneNimbusRequest} :
    (parseNimbusRequest request).Dispatches ↔ request.HasBody := by
  rw [parseNimbusRequest, CraneNimbusRequest.HasBody]
  cases request.type with
  | addWorker => exact (dispatches_handle_iff _).trans safe_processAddWorker_iff
  | startWorker =>
      exact (dispatches_handle_iff _).trans safe_processStartWorker_iff
  | killWorker =>
      exact (dispatches_handle_iff _).trans safe_processKillWorker_iff
  | configConns =>
      exact (dispatches_handle_iff _).trans
        safe_processConfigureConnections_iff

/-- The replies to Nimbus: only that to `ADD_WORKER` is read. -/
theorem dispatches_parseNimbusReply_iff {reply : CraneNimbusReply} :
    (parseNimbusReply reply).Dispatches ↔ reply.HasBody := by
  rw [parseNimbusReply, CraneNimbusReply.HasBody]
  cases reply.type with
  | addWorker =>
      simpa using (@safe_processAddWorkerReply_iff reply.addWorkerReply)
  | startWorker => simp
  | killWorker => simp
  | configConns => simp

/-- The requests to workers: only the connections are read. -/
theorem dispatches_parseSupervisorRequest_iff
    {request : CraneSupervisorRequest} :
    (parseSupervisorRequest handler request).Dispatches ↔
      request.HasBody handler := by
  rw [parseSupervisorRequest, CraneSupervisorRequest.HasBody]
  cases request.type with
  | configConns =>
      simpa using
        @safe_processConfigureWorker_iff handler
          request.configureConnectionsRequest
  | start => simpa using @safe_processStartRequest handler
  | kill => simpa using @safe_processKillRequest handler

/-- The replies of workers are not read at all. -/
theorem dispatches_parseSupervisorReply (reply : CraneSupervisorReply) :
    (parseSupervisorReply reply).Dispatches := by
  rw [parseSupervisorReply]
  cases reply.type with
  | configConns => exact (dispatches_handle_iff _).mpr (safe_pure ())
  | start => exact (dispatches_handle_iff _).mpr (safe_pure ())
  | kill => exact (dispatches_handle_iff _).mpr (safe_pure ())

/-- The parser and its handlers cope with a message exactly if the bodies that
they look at are there. -/
theorem dispatches_parse_iff
    {parseFromArray : List UInt8 → Option CraneWrappedMessage}
    {buffer : List UInt8} :
    (parse nimbus handler parseFromArray buffer).Dispatches ↔
      ∀ msg ∈ parseFromArray buffer, msg.HasBody handler := by
  rw [parse]
  cases parseFromArray buffer with
  | none => simp
  | some msg =>
      simp only [Option.mem_some_iff, forall_eq', CraneWrappedMessage.HasBody]
      cases msg.type with
      | clientReq => simp [dispatches_parseClientRequest_iff]
      | nimbusReq => simp [dispatches_parseNimbusRequest_iff]
      | nimbusRep => simp [dispatches_parseNimbusReply_iff]
      | supervisorReq => simp [dispatches_parseSupervisorRequest_iff]
      | supervisorRep =>
          simp [dispatches_parseSupervisorReply, Option.ne_none_iff_exists']
      | tuple => exact (dispatches_handle_iff _).trans safe_processTuple_iff
      | tupleBatch =>
          exact (dispatches_handle_iff _).trans safe_processTupleBatch_iff
      | clientRep => simp

end CraneMessageParser

end Messages
end CraneSps
