import CraneSps.FileTransfer.ServiceSocket

/-!
# The messages of the file service

What `dfile.proto` admits, with the messages of the transfers and the commands
as they stand there.  A reply that parses has all its required fields.
-/

namespace CraneSps
namespace Messages

open FileTransfer (Bytes SendRequest SendReply FetchRequest CommandRequest
  CommandReply)

/-- `DFileType`. -/
inductive DFileType
  | serviceReq
  | serviceRep
  | sendReq
  | sendRep
  | fetchReq
  | fetchRep
  | commandReq
  | commandRep
  deriving DecidableEq

/-- `ServiceType`. -/
inductive ServiceType
  | put
  | get
  | del
  | update
  | lst
  deriving DecidableEq

/-! ## Requests to the master -/

/-- `PutRequest` and `UpdateRequest`. -/
structure FileRequest where
  filename : String
  filemd5 : String
  filesize : Int
  deriving DecidableEq

/-- `ServiceRequest::GetRequest`. -/
structure GetRequest where
  filename : String
  filepath : String
  deriving DecidableEq

/-- The `oneof` of a `ServiceRequest`. -/
inductive ServiceRequestBody
  | putRequest (request : FileRequest)
  | getRequest (request : GetRequest)
  | deleteRequest (filename : String)
  | updateRequest (request : FileRequest)
  | listRequest (filename : String)
  deriving DecidableEq

/-- `ServiceRequest`. -/
structure ServiceRequest where
  type : ServiceType
  id : String
  msg : Option ServiceRequestBody
  deriving DecidableEq

namespace ServiceRequest

variable (request : ServiceRequest)

/-- `release_putrequest`, which gives a null pointer if this is not the member
that is set; and so on. -/
def putRequest : Option FileRequest :=
  match request.msg with
  | some (.putRequest body) => some body
  | _ => none

def getRequest : Option GetRequest :=
  match request.msg with
  | some (.getRequest body) => some body
  | _ => none

def deleteRequest : Option String :=
  match request.msg with
  | some (.deleteRequest filename) => some filename
  | _ => none

def updateRequest : Option FileRequest :=
  match request.msg with
  | some (.updateRequest body) => some body
  | _ => none

def listRequest : Option String :=
  match request.msg with
  | some (.listRequest filename) => some filename
  | _ => none

end ServiceRequest

/-! ## Replies of the master -/

/-- `ServiceReply::PutReply`. -/
structure PutReply where
  approve : Bool
  filename : Option String := none
  deriving DecidableEq

/-- `GetReply` and `DeleteReply`. -/
structure FileReply where
  available : Bool
  filename : Option String := none
  deriving DecidableEq

/-- The `oneof` of a `ServiceReply`. -/
inductive ServiceReplyBody
  | putReply (reply : PutReply)
  | getReply (reply : FileReply)
  | deleteReply (reply : FileReply)
  | updateReply
  | listReply (ids : List String)
  deriving DecidableEq

/-- `ServiceReply`. -/
structure ServiceReply where
  type : ServiceType
  msg : Option ServiceReplyBody
  deriving DecidableEq

namespace ServiceReply

variable (reply : ServiceReply)

def putReply : Option PutReply :=
  match reply.msg with
  | some (.putReply body) => some body
  | _ => none

def getReply : Option FileReply :=
  match reply.msg with
  | some (.getReply body) => some body
  | _ => none

def deleteReply : Option FileReply :=
  match reply.msg with
  | some (.deleteReply body) => some body
  | _ => none

end ServiceReply

/-! ## All messages -/

/-- `FetchReply`. -/
structure FetchReply where
  filename : String
  chunkid : Int
  data : Bytes
  chunksize : Int
  deriving DecidableEq

/-- The `oneof` of a `WrappedDFileMessage`. -/
inductive DFileBody
  | serviceRequest (request : ServiceRequest)
  | serviceReply (reply : ServiceReply)
  | sendRequest (request : SendRequest)
  | sendReply (reply : SendReply)
  | fetchRequest (request : FetchRequest)
  | fetchReply (reply : FetchReply)
  | commandRequest (request : CommandRequest)
  | commandReply (reply : CommandReply)
  deriving DecidableEq

/-- `WrappedDFileMessage`. -/
structure WrappedDFileMessage where
  type : DFileType
  msg : Option DFileBody
  deriving DecidableEq

namespace WrappedDFileMessage

variable (message : WrappedDFileMessage)

def serviceRequest : Option ServiceRequest :=
  match message.msg with
  | some (.serviceRequest body) => some body
  | _ => none

def serviceReply : Option ServiceReply :=
  match message.msg with
  | some (.serviceReply body) => some body
  | _ => none

def sendRequest : Option SendRequest :=
  match message.msg with
  | some (.sendRequest body) => some body
  | _ => none

def sendReply : Option SendReply :=
  match message.msg with
  | some (.sendReply body) => some body
  | _ => none

def fetchRequest : Option FetchRequest :=
  match message.msg with
  | some (.fetchRequest body) => some body
  | _ => none

def fetchReply : Option FetchReply :=
  match message.msg with
  | some (.fetchReply body) => some body
  | _ => none

def commandRequest : Option CommandRequest :=
  match message.msg with
  | some (.commandRequest body) => some body
  | _ => none

def commandReply : Option CommandReply :=
  match message.msg with
  | some (.commandReply body) => some body
  | _ => none

end WrappedDFileMessage

end Messages
end CraneSps
