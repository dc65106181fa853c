import CraneSps.Crane.Grouping
import CraneSps.Crane.SubmitRequest
import CraneSps.Crane.Wiring

/-!
# The messages of the stream processor

What `crane.proto` admits: the type of a message and the member of its `oneof`
are independent, and the member may be missing.  An unknown value of a type
leaves a required field unset, so it is no part of a message that parses.
Members without fields that are never looked at carry nothing here.
-/

namespace CraneSps
namespace Messages

open Crane (SubmitRequest WorkerConfigureConnectionsRequest GroupedAddresses
  CraneTuple)

/-- `CraneType`. -/
inductive CraneType
  | clientReq
  | clientRep
  | nimbusReq
  | nimbusRep
  | supervisorReq
  | supervisorRep
  | tuple
  | tupleBatch
  deriving DecidableEq

/-! ## Clients -/

/-- `ClientRequestType` and `ClientReplyType`. -/
inductive ClientType
  | submit
  | start
  | stop
  | kill
  | send
  | status
  deriving DecidableEq

/-- `StartRequest`, `StopRequest` and `KillRequest`. -/
structure TopologyRequest where
  toponame : String
  deriving DecidableEq

/-- `CraneClientRequest::SendRequest`. -/
structure CraneClientRequest.SendRequest where
  toponame : String
  filename : String
  port : Int
  filesize : Int
  filemd5 : String
  data : List UInt8
  extractedfiles : List String
  deriving DecidableEq

/-- The `oneof` of a `CraneClientRequest`. -/
inductive ClientRequestBody
  | submitrequest (request : SubmitRequest)
  | startrequest (request : TopologyRequest)
  | stoprequest (request : TopologyRequest)
  | killrequest (request : TopologyRequest)
  | sendrequest (request : CraneClientRequest.SendRequest)
  | statusrequest
  deriving DecidableEq

/-- `CraneClientRequest`. -/
structure CraneClientRequest where
  type : ClientType
  msg : Option ClientRequestBody
  deriving DecidableEq

namespace CraneClientRequest

variable (request : CraneClientRequest)

/-- `release_submitrequest`, which gives a null pointer if this is not the
member that is set; and so on. -/
def submitrequest : Option SubmitRequest :=
  match request.msg with
  | some (.submitrequest body) => some body
  | _ => none

def startrequest : Option TopologyRequest :=
  match request.msg with
  | some (.startrequest body) => some body
  | _ => none

def stoprequest : Option TopologyRequest :=
  match request.msg with
  | some (.stoprequest body) => some body
  | _ => none

def killrequest : Option TopologyRequest :=
  match request.msg with
  | some (.killrequest body) => some body
  | _ => none

def sendrequest : Option SendRequest :=
  match request.msg with
  | some (.sendrequest body) => some body
  | _ => none

end CraneClientRequest

/-- `TopoStatus::Worker`. -/
structure WorkerStatus where
  name : String
  address : String
  runname : String
  deriving DecidableEq

/-- `StatusReply::TopoStatus`. -/
structure TopologyStatus where
  toponame : String
  status : String
  workers : List WorkerStatus
  deriving DecidableEq

/-- The `oneof` of a `CraneClientReply`. -/
inductive ClientReplyBody
  | submitreply (toponame : String) (approval : Bool)
  | startreply (toponame : String) (nonexist : Bool)
  | stopreply (toponame : String) (nonexist : Bool)
  | killreply (toponame : String) (nonexist : Bool)
  | sendreply (toponame : String) (md5match : Bool)
  | statusreply (topostatus : List TopologyStatus)
  deriving DecidableEq

/-- `CraneClientReply`. -/
structure CraneClientReply where
  type : ClientType
  msg : Option ClientReplyBody
  deriving DecidableEq

/-! ## Nimbus and the supervisors -/

/-- `NimbusRequestType` and `NimbusReplyType`. -/
inductive NimbusType
  | addWorker
  | startWorker
  | killWorker
  | configConns
  deriving DecidableEq

/-- `CraneNimbusRequest::AddWorkerRequest`. -/
structure AddWorkerRequest where
  topoId : String
  runName : String
  name : String
  instanceNumber : Int
  deriving DecidableEq

/-- `StartWorkerRequest` and `KillWorkerRequest`. -/
structure WorkerRequest where
  topoId : String
  name : String
  deriving DecidableEq

/-- `CraneNimbusRequest::ConfigureConnectionsRequest`. -/
structure ConfigureConnectionsRequest where
  workerConnections : List WorkerConfigureConnectionsRequest
  deriving DecidableEq

/-- The `oneof` of a `CraneNimbusRequest`. -/
inductive NimbusRequestBody
  | addWorkerRequest (request : AddWorkerRequest)
  | startWorkerRequest (request : WorkerRequest)
  | killWorkerRequest (request : WorkerRequest)
  | configureConnectionsRequest (request : ConfigureConnectionsRequest)
  deriving DecidableEq

/-- `CraneNimbusRequest`. -/
structure CraneNimbusRequest where
  type : NimbusType
  msg : Option NimbusRequestBody
  deriving DecidableEq

namespace CraneNimbusRequest

variable (request : CraneNimbusRequest)

def addWorkerRequest : Option AddWorkerRequest :=
  match request.msg with
  | some (.addWorkerRequest body) => some body
  | _ => none

def startWorkerRequest : Option WorkerRequest :=
  match request.msg with
  | some (.startWorkerRequest body) => some body
  | _ => none

def killWorkerRequest : Option WorkerRequest :=
  match request.msg with
  | some (.killWorkerRequest body) => some body
  | _ => none

def configureConnectionsRequest : Option ConfigureConnectionsRequest :=
  match request.msg with
  | some (.configureConnectionsRequest body) => some body
  | _ => none

end CraneNimbusRequest

/-- `CraneNimbusReply::AddWorkerReply`. -/
structure AddWorkerReply where
  supervisorId : String
  topoId : String
  name : String
  port : List Int
  deriving DecidableEq

/-- The `oneof` of a `CraneNimbusReply`. -/
inductive NimbusReplyBody
  | addWorkerReply (reply : AddWorkerReply)
  | startWorkerReply
  | killWorkerReply
  | configureConnectionsReply
  deriving DecidableEq

/-- `CraneNimbusReply`. -/
structure CraneNimbusReply where
  type : NimbusType
  msg : Option NimbusReplyBody
  deriving DecidableEq

/-- `release_addworkerreply`. -/
def CraneNimbusReply.addWorkerReply
    (reply : CraneNimbusReply) : Option AddWorkerReply :=
  match reply.msg with
  | some (.addWorkerReply body) => some body
  | _ => none

/-! ## Supervisors and their workers -/

/-- `SupervisorRequestType` and `SupervisorReplyType`. -/
inductive SupervisorType
  | configConns
  | start
  | kill
  deriving DecidableEq

/-- The `oneof` of a `CraneSupervisorRequest`. -/
inductive SupervisorRequestBody
  | configureConnectionsRequest (groups : List GroupedAddresses)
  | startRequest
  | killRequest
  deriving DecidableEq

/-- `CraneSupervisorRequest`. -/
structure CraneSupervisorRequest where
  type : SupervisorType
  msg : Option SupervisorRequestBody
  deriving DecidableEq

/-- `release_configureconnectionsrequest`. -/
def CraneSupervisorRequest.configureConnectionsRequest
    (request : CraneSupervisorRequest) : Option (List GroupedAddresses) :=
  match request.msg with
  | some (.configureConnectionsRequest groups) => some groups
  | _ => none

/-- The `oneof` of a `CraneSupervisorReply`. -/
inductive SupervisorReplyBody
  | configureConnectionsReply
  | startReply
  | killReply
  deriving DecidableEq

/-- `CraneSupervisorReply`. -/
structure CraneSupervisorReply where
  type : SupervisorType
  msg : Option SupervisorReplyBody
  deriving DecidableEq

/-! ## All messages -/

/-- The `oneof` of a `CraneWrappedMessage`. -/
inductive CraneBody
  | craneclientrequest (request : CraneClientRequest)
  | craneclientreply (reply : CraneClientReply)
  | craneNimbusRequest (request : CraneNimbusRequest)
  | craneNimbusReply (reply : CraneNimbusReply)
  | craneSupervisorRequest (request : CraneSupervisorRequest)
  | craneSupervisorReply (reply : CraneSupervisorReply)
  | craneTuple (tuple : CraneTuple)
  | craneTupleBatch (tuples : List CraneTuple)
  deriving DecidableEq

/-- `CraneWrappedMessage`. -/
structure CraneWrappedMessage where
  type : CraneType
  msg : Option CraneBody
  deriving DecidableEq

namespace CraneWrappedMessage

variable (message : CraneWrappedMessage)

def craneclientrequest : Option CraneClientRequest :=
  match message.msg with
  | some (.craneclientrequest body) => some body
  | _ => none

def craneNimbusRequest : Option CraneNimbusRequest :=
  match message.msg with
  | some (.craneNimbusRequest body) => some body
  | _ => none

def craneNimbusReply : Option CraneNimbusReply :=
  match message.msg with
  | some (.craneNimbusReply body) => some body
  | _ => none

def craneSupervisorRequest : Option CraneSupervisorRequest :=
  match message.msg with
  | some (.craneSupervisorRequest body) => some body
  | _ => none

def craneSupervisorReply : Option CraneSupervisorReply :=
  match message.msg with
  | some (.craneSupervisorReply body) => some body
  | _ => none

def craneTuple : Option CraneTuple :=
  match message.msg with
  | some (.craneTuple body) => some body
  | _ => none

def craneTupleBatch : Option (List CraneTuple) :=
  match message.msg with
  | some (.craneTupleBatch body) => some body
  | _ => none

end CraneWrappedMessage

end Messages
end CraneSps
