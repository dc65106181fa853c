import CraneSps.Election.Candidate
import CraneSps.Foundation.Pointers
import Mathlib.Data.String.Basic

/-!
# Dispatch of the messages of the election

`election.proto`, `ElectionMessageParser::parse` and its handlers, of which
only the one for `NEW_LEADER` looks at what it is given.
-/

namespace CraneSps
namespace Messages

open Election (Candidate)
open Pointers (Program Event)
open Pointers.Program

/-- `Type` of `election.proto`. -/
inductive ElectionType
  | electionStart
  | okMsg
  | newLeader
  | electConfirm
  deriving DecidableEq

/-- The `oneof` of an `ElectionWrappedMessage`. -/
inductive ElectionBody
  | electionStart
  | okMessage
  | newLeader (id : String)
  | electionConfirm
  deriving DecidableEq

/-- `ElectionWrappedMessage`. -/
structure ElectionWrappedMessage where
  type : ElectionType
  msg : Option ElectionBody
  deriving DecidableEq

/-- `release_newleader`, a null pointer if another member is set or none. -/
def ElectionWrappedMessage.newLeader
    (message : ElectionWrappedMessage) : Option String :=
  match message.msg with
  | some (.newLeader id) => some id
  | _ => none

/-- What the handlers do with the candidate. -/
inductive ElectionCall
  | replyOk
  | startElection
  | setOkReceived
  | setNewLeader (id : String)
  | sendElectedConfirmation
  | onElectionConfirmationReceive
  deriving DecidableEq

namespace ElectionMessageHandler

variable (candidate : Candidate String) (ownId : String)

/-- `process(ElectionStart)`, which does not look at the request. -/
def processElectionStart : Program (Event ElectionCall) Unit :=
  calls [.replyOk, .startElection]

/-- `process(ElectionOkMessage)`, which does not look at the message. -/
def processOkMessage : Program (Event ElectionCall) Unit :=
  calls [.setOkReceived]

/-- `process(ElectionNewLeader)`. -/
def processNewLeader
    (newLeader : Option String) : Program (Event ElectionCall) Unit := do
  let id ← deref newLeader
  if id ≠ ownId then calls [.setNewLeader id, .sendElectedConfirmation]
  else calls [.sendElectedConfirmation]

/-- `process(ElectionConfirm)`, which does not look at the confirmation. -/
def processConfirm : Program (Event ElectionCall) Unit :=
  if candidate.onElectionConfirmationReceive.allConfirmationsReceived then
    calls [.onElectionConfirmationReceive, .setNewLeader ownId]
  else
    calls [.onElectionConfirmationReceive]

end ElectionMessageHandler

open ElectionMessageHandler

/-- `ElectionMessageParser::parse`, with what protobuf makes of a buffer.  The
default case of the switch is never reached. -/
def ElectionMessageParser.parse
    (candidate : Candidate String) (ownId : String)
    (parseFromArray : List UInt8 → Option ElectionWrappedMessage)
    (buffer : List UInt8) : Program (Event ElectionCall) Unit :=
  match parseFromArray buffer with
  | none => throwing "Cannot parse the message"
  | some msg =>
      match msg.type with
      | .electionStart => handle "ElectionStart" processElectionStart
      | .okMsg => handle "ElectionOkMessage" processOkMessage
      | .newLeader =>
          handle "ElectionNewLeader" (processNewLeader ownId msg.newLeader)
      | .electConfirm =>
          handle "ElectionConfirm" (processConfirm candidate ownId)

/-- The body that the handler looks at is there. -/
def ElectionWrappedMessage.HasBody (msg : ElectionWrappedMessage) : Prop :=
  msg.type = .newLeader → msg.newLeader ≠ none

variable {candidate : Candidate String} {ownId : String}

namespace ElectionMessageHandler

/-- The id of the leader is read. -/
theorem safe_processNewLeader_iff {newLeader : Option String} :
    (processNewLeader ownId newLeader).Safe ↔ newLeader ≠ none := by
  refine safe_deref_bind_iff_ne_none fun id => ?_
  split <;> exact safe_calls _

/-- A confirmation is counted without being read. -/
theorem safe_processConfirm : (processConfirm candidate ownId).Safe := by
  rw [processConfirm]
  split <;> exact safe_calls _

end ElectionMessageHandler

/-- The parser and its handlers cope with a message exactly if the body that
they look at is there. -/
theorem ElectionMessageParser.dispatches_parse_iff
    {parseFromArray : List UInt8 → Option ElectionWrappedMessage}
    {buffer : List UInt8} :
    (ElectionMessageParser.parse candidate ownId parseFromArray
        buffer).Dispatches ↔
      ∀ msg ∈ parseFromArray buffer, msg.HasBody := by
  rw [ElectionMessageParser.parse]
  cases parseFromArray buffer with
  | none => simp
  | some msg =>
      simp only [Option.mem_some_iff, forall_eq',
        ElectionWrappedMessage.HasBody]
      cases msg.type with
      | electionStart => simp [processElectionStart]
      | okMsg => simp [processOkMessage]
      | newLeader => simp [safe_processNewLeader_iff]
      | electConfirm => simp [safe_processConfirm]

end Messages
end CraneSps
