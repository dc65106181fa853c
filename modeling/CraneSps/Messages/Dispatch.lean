import CraneSps.Messages.CraneMessageParser
import CraneSps.Messages.DFileMessageParser
import CraneSps.Messages.ElectionMessageParser
import CraneSps.Messages.MessageParser

/-!
# Dispatch of well formed messages

The type of a message and the member of its `oneof` are independent fields, so
protobuf accepts a message whose type stands for a submessage that is missing.
The parsers release this submessage and pass the null pointer on, and most of
the handlers follow it.
-/

namespace CraneSps
namespace Messages

open CraneSps.Membership (DMember)
open Election (Candidate)
open Master (FileMap)

/-- Each of the four parsers copes with a buffer exactly if the message in it,
if there is one, has the submessages that are looked at. -/
theorem dispatches_iff
    (nimbus : NimbusReadings) (handler : CraneHandler)
    (components : DFileComponents)
    (node : DMember String) (now : Int)
    (candidate : Candidate String) (ownId : String)
    (parseCrane : List UInt8 → Option CraneWrappedMessage)
    (parseDFile : List UInt8 → Option WrappedDFileMessage)
    (parseMember : List UInt8 → Option WrappedMessage)
    (parseElection : List UInt8 → Option ElectionWrappedMessage)
    (buffer : List UInt8) :
    ((CraneMessageParser.parse nimbus handler parseCrane buffer).Dispatches ↔
      ∀ msg ∈ parseCrane buffer, msg.HasBody handler) ∧
    ((DFileMessageParser.parse components parseDFile buffer).Dispatches ↔
      ∀ msg ∈ parseDFile buffer, msg.HasBody components) ∧
    ((MessageParser.parse node now parseMember buffer).Dispatches ↔
      ∀ msg ∈ parseMember buffer, msg.HasBody) ∧
    ((ElectionMessageParser.parse candidate ownId parseElection
        buffer).Dispatches ↔
      ∀ msg ∈ parseElection buffer, msg.HasBody) := by
  refine ⟨?_, ?_, ?_, ?_⟩
  · exact CraneMessageParser.dispatches_parse_iff
  · exact DFileMessageParser.dispatches_parse_iff
  · exact MessageParser.dispatches_parse_iff
  · exact ElectionMessageParser.dispatches_parse_iff

/-! ## Messages with nothing but a type -/

/-- What protobuf makes of a message whose only field is its type: the number
of the field with the kind of its value, and then the value, which counts the
types from one. -/
def typeOnly {Kind Message : Type}
    (types : List Kind) (message : Kind → Message) :
    List UInt8 → Option Message
  | [8, value] =>
      if value = 0 then none else types[value.toNat - 1]?.map message
  | _ => none

/-- `CraneType`, in order. -/
def craneTypes : List CraneType :=
  [.clientReq, .clientRep, .nimbusReq, .nimbusRep, .supervisorReq,
    .supervisorRep, .tuple, .tupleBatch]

/-- `DFileType`, in order. -/
def dfileTypes : List DFileType :=
  [.serviceReq, .serviceRep, .sendReq, .sendRep, .fetchReq, .fetchRep,
    .commandReq, .commandRep]

/-- `Type` of `dmember.proto`, in order. -/
def memberTypes : List MemberMessageType :=
  [.heartbeat, .pingReq, .pingAck, .joinReq, .joinAck]

/-- `Type` of `election.proto`, in order. -/
def electionTypes : List ElectionType :=
  [.electionStart, .okMsg, .newLeader, .electConfirm]

/-- A Nimbus without topologies. -/
def idleNimbus : NimbusReadings where
  getTopoStatus := fun _ => "nonexisted"
  getAllTopoIds := []
  getTopoSpec := fun _ => {}
  getTopoTaskInstances := fun _ _ => []

/-- A node that has just been started. -/
def idleComponents : DFileComponents where
  node := FileTransfer.emptyNode "1"
  fileMap := FileMap.empty
  member := DMember.new "1"
  leader := ""

/-- Two bytes that protobuf accepts, the types `CLIENT_REQ`, `SERVICE_REQ`,
`HEARTBEAT` and `NEW_LEADER` without the submessage, make each of the parsers
follow a null pointer. -/
theorem not_dispatches_typeOnly :
    ¬ (CraneMessageParser.parse idleNimbus .crane
        (typeOnly craneTypes fun type => ⟨type, none⟩) [8, 1]).Dispatches ∧
    ¬ (DFileMessageParser.parse idleComponents
        (typeOnly dfileTypes fun type => ⟨type, none⟩) [8, 1]).Dispatches ∧
    ¬ (MessageParser.parse (DMember.new "1") 0
        (typeOnly memberTypes fun type => ⟨type, none⟩) [8, 1]).Dispatches ∧
    ¬ (ElectionMessageParser.parse {} "1"
        (typeOnly electionTypes fun type => ⟨type, none⟩)
        [8, 3]).Dispatches := by
  refine ⟨?_, ?_, ?_, ?_⟩ <;> exact fun dispatches => dispatches.safe rfl

end Messages
end CraneSps
