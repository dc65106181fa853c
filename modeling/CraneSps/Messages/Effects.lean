import CraneSps.Crane.Wiring
import CraneSps.Membership.Merging
import CraneSps.Messages.CraneMessageParser
import CraneSps.Messages.ElectionMessageParser
import CraneSps.Messages.MessageParser

/-!
# What the handlers bring about

Nimbus, the supervisors, the candidates and the members are modelled without
messages, as steps that take what is in a request.  If the calls of a handler
are carried out one after the other, they amount to these steps.
-/

namespace CraneSps
namespace Messages

open Crane (TopologySpec Supervisor Cluster Operation Request State Call)
open CraneSps.Membership (DMember HeartBeat)
open Election (Candidate)
open Pointers.Program

/-! ## Nimbus -/

/-- The operation of Nimbus that a call carries out. -/
def CraneCall.operation : CraneCall → Option Operation
  | .compileTopology topoid _ => some (.compile topoid)
  | .prepareTopology topoid => some (.prepare topoid)
  | .startTopology topoid => some (.start topoid)
  | .stopTopology topoid => some (.stop topoid)
  | .killTopology topoid => some (.kill topoid)
  | _ => none

/-- What a call changes at once; the only status that a handler sets is
`pending`. -/
def CraneCall.effect (cluster : Cluster) : CraneCall → Cluster
  | .setTopoSpec topoid spec =>
      cluster.setTopoStats (cluster.nimbus.topoStats.setTopoSpec topoid spec)
  | .setTopoStatus topoid "pending" => cluster.setTopoStatus topoid .pending
  | _ => cluster

/-- The request of a client as Nimbus takes it. -/
def CraneClientRequest.request
    (message : CraneClientRequest) : Option Request :=
  match message.type with
  | .submit => message.submitrequest.map fun body =>
      .submit body.toponame (TopologySpec.parseFromRequest body)
  | .send => message.sendrequest.map fun body => .send body.toponame
  | .start => message.startrequest.map fun body => .start body.toponame
  | .stop => message.stoprequest.map fun body => .stop body.toponame
  | .kill => message.killrequest.map fun body => .kill body.toponame
  | .status => none

/-- The handlers read the status of the topologies in a state. -/
def NimbusReadings.Reads (nimbus : NimbusReadings) (state : State) : Prop :=
  ∀ topoid, nimbus.getTopoStatus topoid ≠ "nonexisted" ↔ state.Existed topoid

/-- A state after the calls of a handler: what they have changed at once, and
the operations that are left to do. -/
def afterCalls (state : State) (list : List CraneCall) : State :=
  { state with
    cluster := list.foldl CraneCall.effect state.cluster
    service := list.filterMap CraneCall.operation }

variable {nimbus : NimbusReadings} {state : State}

/-- A reply changes nothing. -/
@[simp] theorem afterCalls_reply_cons
    (reply : CraneClientReply) (list : List CraneCall) :
    afterCalls state (.reply reply :: list) = afterCalls state list :=
  rfl

/-- Without calls nothing changes. -/
theorem afterCalls_nil (idle : state.service = []) :
    afterCalls state [] = state := by
  rw [afterCalls, List.filterMap_nil, ← idle]
  rfl

/-- A handler that does something if the topology exists. -/
theorem afterCalls_processTopologyRequest
    (idle : state.service = []) (reads : nimbus.Reads state)
    (type : ClientType) (body : String → Bool → ClientReplyBody)
    (operations : String → List CraneCall) (request : TopologyRequest) :
    afterCalls state
        (CraneMessageHandler.processTopologyRequest nimbus type body operations
          (some request)).called =
      if state.Existed request.toponame then
        afterCalls state (operations request.toponame)
      else state := by
  rw [CraneMessageHandler.processTopologyRequest, deref_some_bind]
  dsimp only
  by_cases existed : state.Existed request.toponame
  · rw [if_pos ((reads _).mpr existed), if_pos existed, called_calls,
      afterCalls_reply_cons]
  · rw [if_neg (mt (reads _).mp existed), if_neg existed, called_calls,
      afterCalls_reply_cons, afterCalls_nil idle]

/-- A submission is entered unless the name has been taken. -/
theorem afterCalls_processSubmit
    (idle : state.service = []) (reads : nimbus.Reads state)
    (request : Crane.SubmitRequest) :
    afterCalls state
        (CraneMessageHandler.processSubmit nimbus (some request)).called =
      state.accept (.submit request.toponame
        (TopologySpec.parseFromRequest request)) := by
  rw [CraneMessageHandler.processSubmit, deref_some_bind, State.accept]
  dsimp only
  by_cases existed : state.Existed request.toponame
  · rw [if_pos ((reads _).mpr existed), if_pos existed, called_calls,
      afterCalls_reply_cons, afterCalls_nil idle]
  · rw [if_neg (mt (reads _).mp existed), if_neg existed, called_calls,
      afterCalls]
    simp only [List.filterMap_cons, CraneCall.operation, List.filterMap_nil,
      ← idle]
    rfl

/-- The handler of a client's request does what Nimbus does when it accepts
the request. -/
theorem afterCalls_parseClientRequest
    (idle : state.service = []) (reads : nimbus.Reads state)
    {message : CraneClientRequest} {request : Request}
    (isRequest : message.request = some request) :
    afterCalls state
        (CraneMessageParser.parseClientRequest nimbus message).called =
      state.accept request := by
  rw [CraneClientRequest.request] at isRequest
  rw [CraneMessageParser.parseClientRequest]
  cases isType : message.type with
  | submit =>
      rw [isType] at isRequest
      obtain ⟨body, isBody, rfl⟩ := Option.map_eq_some_iff.mp isRequest
      dsimp only
      rw [called_handle, isBody]
      exact afterCalls_processSubmit idle reads body
  | send =>
      rw [isType] at isRequest
      obtain ⟨body, isBody, rfl⟩ := Option.map_eq_some_iff.mp isRequest
      dsimp only
      rw [called_handle, isBody, CraneMessageHandler.processSend,
        deref_some_bind, called_calls]
      rfl
  | start | stop | kill =>
      rw [isType] at isRequest
      obtain ⟨body, isBody, rfl⟩ := Option.map_eq_some_iff.mp isRequest
      dsimp only
      rw [called_handle, isBody]
      exact afterCalls_processTopologyRequest idle reads _ _ _ body
  | status =>
      rw [isType] at isRequest
      cases isRequest

/-! ## Supervisors -/

/-- The call of a supervisor. -/
def CraneCall.supervisorCall : CraneCall → Option Call
  | .addWorker topoId runName name parallelismLevel =>
      some (.addWorker topoId runName name parallelismLevel)
  | .startWorker topoId name => some (.startWorker topoId name)
  | .killWorker topoId name => some (.killWorker topoId name)
  | .configureConnections topoId name connectionGroups =>
      some (.configureConnections topoId name connectionGroups)
  | _ => none

/-- The workers of a task get the groups that a supervisor has read, although
they are encoded once more on the way. -/
theorem calls_processConfigureConnections
    (supervisor : Supervisor) (id : String)
    (request : ConfigureConnectionsRequest) :
    supervisor.calls id
        ((CraneMessageHandler.processConfigureConnections
          (some request)).called.filterMap CraneCall.supervisorCall) =
      supervisor.processConfigureConnections request.workerConnections := by
  have configured (list : List Crane.WorkerConfigureConnectionsRequest) :
      (list.map fun connection =>
        CraneCall.configureConnections connection.topoId connection.name
          (connection.groupedAddresses.map
            Crane.GroupedAddresses.connectionGroup)).filterMap
        CraneCall.supervisorCall =
      list.map fun connection =>
        Call.configureConnections connection.topoId connection.name
          (connection.groupedAddresses.map
            Crane.GroupedAddresses.connectionGroup) := by
    rw [List.filterMap_map]
    exact congrFun List.filterMap_eq_map' list
  have replied :
      [CraneCall.replyConfigureConnections].filterMap
        CraneCall.supervisorCall = [] := rfl
  rw [CraneMessageHandler.processConfigureConnections, deref_some_bind,
    called_calls, List.filterMap_append, configured, replied,
    List.append_nil, Supervisor.calls, List.foldl_map,
    Supervisor.processConfigureConnections]
  congr 1
  funext current connection
  simp only [Crane.Worker.processConfigureConnections,
    Crane.Worker.map_createConfigureConnectionsMessage]
  rfl

/-! ## Candidates -/

/-- What a call changes in the state of a candidate; the other calls send
something or start a thread. -/
def ElectionCall.effect (candidate : Candidate String) :
    ElectionCall → Candidate String
  | .setOkReceived => candidate.setOkReceived
  | .setNewLeader id => candidate.setNewLeader id
  | .onElectionConfirmationReceive => candidate.onElectionConfirmationReceive
  | .replyOk => candidate
  | .startElection => candidate
  | .sendElectedConfirmation => candidate

section Candidates

open ElectionMessageHandler

variable (candidate : Candidate String) (ownId id : String)

/-- An `OK` is noted. -/
theorem effect_processOkMessage :
    processOkMessage.called.foldl ElectionCall.effect candidate =
      candidate.processOkMessage :=
  rfl

/-- The claim of another node is accepted. -/
theorem effect_processNewLeader :
    (processNewLeader ownId (some id)).called.foldl ElectionCall.effect
        candidate =
      candidate.processNewLeader ownId id := by
  rw [processNewLeader, deref_some_bind, Candidate.processNewLeader]
  split <;> rfl

/-- The last confirmation makes the node the leader. -/
theorem effect_processConfirm :
    (processConfirm candidate ownId).called.foldl ElectionCall.effect
        candidate =
      candidate.processConfirm ownId := by
  rw [processConfirm, Candidate.processConfirm]
  split <;> rfl

end Candidates

/-! ## Members -/

/-- What a call changes in the state of a member that is not the introducer. -/
def MemberCall.effect (node : DMember String) : MemberCall → DMember String
  | .updateMembers members => node.pushMembersToQueue members
  | _ => node

/-- The members of a heartbeat wait in the queue. -/
theorem effect_processHeartBeat
    (node : DMember String) (heartbeat : HeartBeat String) :
    (MessageHandler.processHeartBeat node (some heartbeat)).called.foldl
        MemberCall.effect node =
      (node.process heartbeat).1 := by
  rw [MessageHandler.processHeartBeat, deref_some_bind, called_calls]
  cases (node.process heartbeat).2 with
  | none => rfl
  | some addresses => rfl

end Messages
end CraneSps
