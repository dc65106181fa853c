import CraneSps.Foundation.Pointers
import CraneSps.Membership.DMember
import Mathlib.Data.String.Basic

/-!
# Dispatch of the messages of the membership service

`dmember.proto`, `MessageParser::parse` and its handlers.  All of them but the
one for `PING_REQ` look at what they are given.
-/

namespace CraneSps
namespace Messages

open CraneSps.Membership (Member MemberMap HeartBeat PingAck DMember)
open Pointers (Program Event)
open Pointers.Program

/-- `Type` of `dmember.proto`. -/
inductive MemberMessageType
  | heartbeat
  | pingReq
  | pingAck
  | joinReq
  | joinAck
  deriving DecidableEq

/-- The `oneof` of a `WrappedMessage`. -/
inductive MemberBody
  | heartBeat (heartbeat : HeartBeat String)
  | pingRequest
  | pingAck (ack : PingAck String)
  | joinRequest (id : String)
  | joinAck (jointime : Int)
  deriving DecidableEq

/-- `WrappedMessage`. -/
structure WrappedMessage where
  type : MemberMessageType
  msg : Option MemberBody
  deriving DecidableEq

namespace WrappedMessage

variable (message : WrappedMessage)

/-- `release_heartbeat`, which gives a null pointer if this is not the member
that is set; and so on. -/
def heartBeat : Option (HeartBeat String) :=
  match message.msg with
  | some (.heartBeat body) => some body
  | _ => none

def pingAck : Option (PingAck String) :=
  match message.msg with
  | some (.pingAck body) => some body
  | _ => none

def joinRequest : Option String :=
  match message.msg with
  | some (.joinRequest id) => some id
  | _ => none

def joinAck : Option Int :=
  match message.msg with
  | some (.joinAck jointime) => some jointime
  | _ => none

end WrappedMessage

/-- What the handlers do with the node and its introducer. -/
inductive MemberCall
  /-- `Introducer::updateMember`. -/
  | updateMember (member : Member String)
  | recordAndReply (id : String)
  | updateNodes
  | updateJoinTime (jointime : Int)
  | replyPingRequest
  /-- `DMember::updateMembers`. -/
  | updateMembers (members : MemberMap String)
  | updateConnection (addresses : List String)

namespace MessageHandler

/-- `process(PingAck)`, with the time at which it is processed. -/
def processPingAck
    (now : Int) (ack : Option (PingAck String)) :
    Program (Event MemberCall) Unit := do
  let ack ← deref ack
  calls [.updateMember (ack.member now)]

/-- `process(JoinRequest)`. -/
def processJoinRequest
    (request : Option String) : Program (Event MemberCall) Unit := do
  let id ← deref request
  calls [.recordAndReply id, .updateNodes]

/-- `process(JoinAck)`. -/
def processJoinAck
    (ack : Option Int) : Program (Event MemberCall) Unit := do
  let jointime ← deref ack
  calls [.updateJoinTime jointime]

/-- `process(PingRequest)`, which does not look at the request. -/
def processPingRequest : Program (Event MemberCall) Unit :=
  calls [.replyPingRequest]

/-- `process(HeartBeat)`. -/
def processHeartBeat
    (node : DMember String) (heartbeat : Option (HeartBeat String)) :
    Program (Event MemberCall) Unit := do
  let heartbeat ← deref heartbeat
  calls
    (.updateMembers heartbeat.members ::
      (node.process heartbeat).2.toList.map .updateConnection)

end MessageHandler

open MessageHandler

/-- `MessageParser::parse`, with what protobuf makes of a buffer.  The default
case of the switch is never reached. -/
def MessageParser.parse
    (node : DMember String) (now : Int)
    (parseFromArray : List UInt8 → Option WrappedMessage)
    (buffer : List UInt8) : Program (Event MemberCall) Unit :=
  match parseFromArray buffer with
  | none => throwing "Cannot parse the message"
  | some msg =>
      match msg.type with
      | .pingAck => handle "PingAck" (processPingAck now msg.pingAck)
      | .joinReq => handle "JoinRequest" (processJoinRequest msg.joinRequest)
      | .heartbeat => handle "HeartBeat" (processHeartBeat node msg.heartBeat)
      | .joinAck => handle "JoinAck" (processJoinAck msg.joinAck)
      | .pingReq => handle "PingRequest" processPingRequest

/-- The body that the handler looks at is there. -/
def WrappedMessage.HasBody (msg : WrappedMessage) : Prop :=
  match msg.type with
  | .pingAck => msg.pingAck ≠ none
  | .joinReq => msg.joinRequest ≠ none
  | .heartbeat => msg.heartBeat ≠ none
  | .joinAck => msg.joinAck ≠ none
  | .pingReq => True

variable {node : DMember String} {now : Int}

namespace MessageHandler

/-- The record of the other node is read. -/
theorem safe_processPingAck_iff {ack : Option (PingAck String)} :
    (processPingAck now ack).Safe ↔ ack ≠ none :=
  safe_deref_bind_iff_ne_none fun _ => safe_calls _

/-- The id of the new member is read. -/
theorem safe_processJoinRequest_iff {request : Option String} :
    (processJoinRequest request).Safe ↔ request ≠ none :=
  safe_deref_bind_iff_ne_none fun _ => safe_calls _

/-- The time of the join is read. -/
theorem safe_processJoinAck_iff {ack : Option Int} :
    (processJoinAck ack).Safe ↔ ack ≠ none :=
  safe_deref_bind_iff_ne_none fun _ => safe_calls _

/-- The members of the heartbeat are read. -/
theorem safe_processHeartBeat_iff {heartbeat : Option (HeartBeat String)} :
    (processHeartBeat node heartbeat).Safe ↔ heartbeat ≠ none :=
  safe_deref_bind_iff_ne_none fun _ => safe_calls _

end MessageHandler

/-- The parser and its handlers cope with a message exactly if the body that
they look at is there. -/
theorem MessageParser.dispatches_parse_iff
    {parseFromArray : List UInt8 → Option WrappedMessage}
    {buffer : List UInt8} :
    (MessageParser.parse node now parseFromArray buffer).Dispatches ↔
      ∀ msg ∈ parseFromArray buffer, msg.HasBody := by
  rw [MessageParser.parse]
  cases parseFromArray buffer with
  | none => simp
  | some msg =>
      simp only [Option.mem_some_iff, forall_eq', WrappedMessage.HasBody]
      cases msg.type with
      | pingAck =>
          exact (dispatches_handle_iff _).trans safe_processPingAck_iff
      | joinReq =>
          exact (dispatches_handle_iff _).trans safe_processJoinRequest_iff
      | heartbeat =>
          exact (dispatches_handle_iff _).trans safe_processHeartBeat_iff
      | joinAck =>
          exact (dispatches_handle_iff _).trans safe_processJoinAck_iff
      | pingReq =>
          exact (dispatches_handle_iff _).trans (iff_true_intro (safe_calls _))

end Messages
end CraneSps
