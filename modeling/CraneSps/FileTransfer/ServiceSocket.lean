import CraneSps.FileTransfer.LocalStore
import CraneSps.Foundation.TransitionSystem
import Mathlib.Data.List.TakeWhile

/-!
# The service socket of one node

`serviceThread` receives a request, processes it and receives the next one.
A `REP` socket raises an error if it receives before it has replied, and the
error ends the loop.  The processing of a command replies in every branch but
one: a command that does not come from the leader is rejected in silence.
Sockets are connected and bound outside of the `try` blocks, so an address that
is not accepted ends the loop, or the process where a new thread meets it.
-/

namespace CraneSps
namespace FileTransfer

/-- The states of a `REP` socket. -/
inductive RepSocket
  | receiving
  | replying
  deriving DecidableEq

namespace RepSocket

/-- `recv` raises an error before the previous request has been replied to. -/
def recv : RepSocket → Option RepSocket
  | .receiving => some .replying
  | .replying => none

/-- `send` raises an error without a request. -/
def send : RepSocket → Option RepSocket
  | .receiving => none
  | .replying => some .receiving

end RepSocket

/-! ## Messages -/

/-- The `SEND_REP` message. -/
structure SendReply where
  approve : Bool
  filename : Option String := none
  chunksize : Option Int := none
  port : Option Int := none
  deriving DecidableEq

/-- `CommandType`. -/
inductive CommandType
  | replicate
  | delete
  | list
  deriving DecidableEq

/-- `CommandRequest::ReplicateCommand`. -/
structure ReplicateCommand where
  filename : String
  targets : List String
  filepath : Option String
  deriving DecidableEq

/-- The `oneof` of a `CommandRequest`. -/
inductive CommandBody
  | replicateCommand (command : ReplicateCommand)
  | deleteCommand (filename : String)
  | listCommand
  deriving DecidableEq

/-- The `COMMAND_REQ` message. -/
structure CommandRequest where
  senderip : String
  type : CommandType
  msg : Option CommandBody
  deriving DecidableEq

namespace CommandRequest

variable (request : CommandRequest)

/-- `release_replicatecommand`, a null pointer without this body. -/
def replicateCommand : Option ReplicateCommand :=
  match request.msg with
  | some (.replicateCommand command) => some command
  | _ => none

/-- `release_deletecommand`. -/
def deleteCommand : Option String :=
  match request.msg with
  | some (.deleteCommand filename) => some filename
  | _ => none

/-- The body that the type needs is there. -/
def HasBody : Prop :=
  match request.type with
  | .replicate => request.replicateCommand ≠ none
  | .delete => request.deleteCommand ≠ none
  | .list => True

instance : Decidable request.HasBody := by
  unfold HasBody
  split <;> infer_instance

end CommandRequest

/-- The `COMMAND_REP` message. -/
structure CommandReply where
  type : CommandType
  senderip : String
  listReply : Option (List FileInfo) := none
  deriving DecidableEq

/-- A request that parses; without its body `release` gives a null pointer. -/
inductive ServiceMessage
  | sendReq (request : Option SendRequest)
  | commandReq (request : Option CommandRequest)
  deriving DecidableEq

/-- What is sent on the service socket. -/
inductive ServiceReply
  | sendRep (reply : SendReply)
  | commandRep (reply : CommandReply)
  deriving DecidableEq

/-- A nested request: the port that `nextPort` has found and the answer. -/
structure Exchange where
  port : Int
  reply : SendReply
  /-- The fetch server that an approval starts can bind its port. -/
  bound : Bool

/-! ## Processing -/

/-- What the processing of a message does. -/
structure Processed where
  node : DFile
  /-- The arguments of `replyServiceSocket`. -/
  replies : List ServiceReply
  /-- The fetch clients that are started. -/
  clients : List FetchClient := []
  /-- The nested requests with their targets. -/
  sends : List (String × SendRequest) := []
  /-- The approvals for which a fetch server is started. -/
  servers : List SendReply := []
  /-- An exception has left the processing. -/
  threw : Bool := false
  /-- An exception leaves a thread that is started, which ends the process. -/
  terminates : Bool := false

/-- The division of `fetchClientThread` is defined: no division by zero, and
no quotient that does not fit. -/
def SendRequest.Divides (request : SendRequest) : Prop :=
  request.chunksize ≠ 0 ∧
    ¬ (request.filesize = -2 ^ 63 ∧ request.chunksize = -1)

instance (request : SendRequest) : Decidable request.Divides := by
  unfold SendRequest.Divides
  infer_instance

namespace DFile

/-- The port of the service thread. -/
def servicePort : Int := 9600

variable (shell : Shell) (connects : String → Int → Bool) (node : DFile)

/-- `process(SendRequest)`, together with the first lines of the thread that
it starts. -/
def answerSendRequest (request : SendRequest) : Option Processed :=
  match node.processSendRequest request with
  | none =>
      some { node := node, replies := [.sendRep { approve := false }] }
  | some client =>
      if request.Divides then
        some
          { node := node
            replies :=
              [.sendRep
                { approve := true
                  filename := some request.filename
                  chunksize := some request.chunksize
                  port := some request.port }]
            clients := [client]
            terminates := !connects request.senderip request.port }
      else none

/-- The message built by `sendFileRequest`, with a path unless it is empty. -/
def sendFileRequest
    (filename : String) (filepath : Option String) (port : Int) :
    SendRequest :=
  { node.sendRequest shell filename port with
    filepath := filepath.filter fun filepath => filepath ≠ "" }

/-- The branch for `REPLICATE`: the targets are asked up to the first one that
cannot be connected to, and every approval starts a fetch server. -/
def replicateTo
    (exchange : Nat → Exchange) (command : ReplicateCommand) : Processed :=
  let reached := command.targets.takeWhile (connects · servicePort)
  let approvals := (reached.mapIdx fun index _ => exchange index).filter
    fun answered => answered.reply.approve
  { node := node
    replies :=
      if reached = command.targets then
        [.commandRep { type := .replicate, senderip := node.id }]
      else []
    sends := reached.mapIdx fun index target =>
      (target,
        node.sendFileRequest shell command.filename command.filepath
          (exchange index).port)
    servers := approvals.map Exchange.reply
    threw := reached ≠ command.targets
    terminates := approvals.any fun answered => !answered.bound }

/-- `process(CommandRequest)`. -/
def answerCommandRequest
    (leader : String) (exchange : Nat → Exchange) (request : CommandRequest) :
    Option Processed :=
  -- This branch returns without a reply.
  if leader ≠ request.senderip then some { node := node, replies := [] }
  else
    match request.type with
    | .replicate =>
        request.replicateCommand.map
          (node.replicateTo shell connects exchange)
    | .delete =>
        request.deleteCommand.map fun filename =>
          { node := node.deleteLocalFile filename
            replies :=
              [.commandRep { type := .delete, senderip := node.id }] }
    | .list =>
        some
          { node := node
            replies :=
              [.commandRep
                { type := .list
                  senderip := node.id
                  listReply :=
                    if node.localFiles = [] then none
                    else some node.localFiles }] }

/-- `DFileMessageParser::parse` on a request; `none` where the behaviour is
undefined. -/
def answer
    (leader : String) (exchange : Nat → Exchange) :
    ServiceMessage → Option Processed
  | .sendReq request => request.bind (node.answerSendRequest connects)
  | .commandReq request =>
      request.bind (node.answerCommandRequest shell connects leader exchange)

end DFile

/-! ## The service thread -/

/-- Where the service thread is. -/
inductive ServicePhase
  /-- It is in its loop, at `recv`. -/
  | running
  /-- It has left its loop. -/
  | ended
  /-- The process has been ended by an exception. -/
  | terminated
  /-- The behaviour of the process is undefined. -/
  | undefined
  deriving DecidableEq

/-- A node with its service thread. -/
structure ServiceThread where
  node : DFile
  /-- `Candidate::leader`. -/
  leader : String
  socket : RepSocket
  phase : ServicePhase
  /-- The requests that have arrived, with what has been replied to them. -/
  log : List (ServiceMessage × List ServiceReply)

/-- What can happen at the node. -/
inductive ServiceAction
  /-- A request arrives; the nested ones are answered. -/
  | arrive (message : ServiceMessage) (exchange : Nat → Exchange)
  /-- Another leader is known, or none. -/
  | setLeader (id : String)
  /-- Other threads have changed the files. -/
  | work (node : DFile)

namespace ServiceThread

/-- The thread enters its loop. -/
def initial (node : DFile) (leader : String) : ServiceThread where
  node := node
  leader := leader
  socket := .receiving
  phase := .running
  log := []

variable (shell : Shell) (connects : String → Int → Bool)
variable (service : ServiceThread)

/-- `replySendRequest`, which logs the errors of the socket. -/
def replySendRequest
    (state : RepSocket × List ServiceReply) (reply : ServiceReply) :
    RepSocket × List ServiceReply :=
  match state.1.send with
  | some socket => (socket, state.2 ++ [reply])
  | none => state

/-- The rest of a round of the loop after `recv`, and the next call of
`recv`. -/
def finish
    (message : ServiceMessage) (socket : RepSocket) :
    Option Processed → ServiceThread
  | none =>
      { service with
        phase := .undefined
        log := service.log ++ [(message, [])] }
  | some processed =>
      let (socket, sent) :=
        processed.replies.foldl replySendRequest (socket, [])
      { service with
        node := processed.node
        socket := socket
        phase :=
          if processed.terminates then .terminated
          else if processed.threw ∨ socket.recv = none then .ended
          else .running
        log := service.log ++ [(message, sent)] }

/-- A request arrives; after the loop it waits forever. -/
def arrive (message : ServiceMessage) (exchange : Nat → Exchange) :
    ServiceThread :=
  match service.phase, service.socket.recv with
  | .running, some socket =>
      service.finish message socket
        (service.node.answer shell connects service.leader exchange message)
  | _, _ => { service with log := service.log ++ [(message, [])] }

/-- One step. -/
def step : ServiceAction → ServiceThread
  | .arrive message exchange =>
      service.arrive shell connects message exchange
  | .setLeader id => { service with leader := id }
  | .work node => { service with node := node }

end ServiceThread

/-- All that can happen at a node. -/
def serviceSystem
    (shell : Shell) (connects : String → Int → Bool) (node : DFile)
    (leader : String) : TransitionSystem ServiceThread ServiceAction where
  initial := ServiceThread.initial node leader
  step := fun service action => some (service.step shell connects action)

/-- Every request has had one reply, and the thread waits for the next. -/
structure Answering (service : ServiceThread) : Prop where
  running : service.phase = .running
  receiving : service.socket = .receiving
  replied : ∀ entry ∈ service.log, entry.2.length = 1

/-- The sockets for a `REPLICATE` command: all targets can be connected to, and
the fetch servers for those that approve can bind their ports. -/
def ReplicateCommand.Reaches
    (connects : String → Int → Bool) (exchange : Nat → Exchange)
    (command : ReplicateCommand) : Prop :=
  (∀ target ∈ command.targets, connects target DFile.servicePort = true) ∧
    ∀ index < command.targets.length,
      (exchange index).reply.approve = true → (exchange index).bound = true

instance (connects : String → Int → Bool) (exchange : Nat → Exchange)
    (command : ReplicateCommand) :
    Decidable (command.Reaches connects exchange) := by
  unfold ReplicateCommand.Reaches
  infer_instance

/-- A command has the body that its type needs, and its sockets can be used. -/
def CommandRequest.Works
    (connects : String → Int → Bool) (exchange : Nat → Exchange)
    (request : CommandRequest) : Prop :=
  request.HasBody ∧
    (request.type = .replicate → ∀ command ∈ request.replicateCommand,
      command.Reaches connects exchange)

instance (connects : String → Int → Bool) (exchange : Nat → Exchange)
    (request : CommandRequest) :
    Decidable (request.Works connects exchange) := by
  unfold CommandRequest.Works
  infer_instance

/-- A command comes from the leader that the receiver knows, with the body it
needs and usable sockets, and the client started for a file that the receiver
does not have can divide by the chunk size and connect to the sender. -/
def Answerable
    (connects : String → Int → Bool) (service : ServiceThread) :
    ServiceAction → Prop
  | .arrive (.sendReq request) _ =>
      ∃ sent ∈ request, service.node.Registers sent.filename ∨
        (sent.Divides ∧ connects sent.senderip sent.port = true)
  | .arrive (.commandReq request) exchange =>
      ∃ sent ∈ request, service.leader = sent.senderip ∧
        sent.Works connects exchange
  | .setLeader _ => True
  | .work _ => True

instance (connects : String → Int → Bool) (service : ServiceThread)
    (action : ServiceAction) :
    Decidable (Answerable connects service action) := by
  rcases action with ⟨_ | _, _⟩ | _ | _ <;> unfold Answerable <;>
    infer_instance

variable {shell : Shell} {connects : String → Int → Bool}
variable {node : DFile} {leader : String}
variable {service : ServiceThread} {exchange : Nat → Exchange}
variable {message : ServiceMessage}

/-- The processing has come to its end with a reply, and the threads that it
has started come to their loops. -/
def Processed.Answers (processed : Processed) : Prop :=
  processed.replies ≠ [] ∧ processed.threw = false ∧
    processed.terminates = false

/-- The processing of a request to send comes to its end, exactly if the file is
registered or the client can divide and connect. -/
theorem DFile.answerSendRequest_iff {request : SendRequest} :
    (∃ processed, node.answerSendRequest connects request = some processed ∧
        processed.Answers) ↔
      node.Registers request.filename ∨
        (request.Divides ∧
          connects request.senderip request.port = true) := by
  rw [DFile.answerSendRequest, DFile.processSendRequest]
  by_cases available : node.checkFileAvailable request.filename = true
  · have notRegistered : ¬ node.Registers request.filename :=
      ne_false_of_eq_true available
    rw [if_pos available, or_iff_right notRegistered]
    by_cases divides : request.Divides
    · simp [divides, Processed.Answers]
    · simp [divides]
  · rw [if_neg available]
    refine iff_of_true ⟨_, rfl, List.cons_ne_nil _ _, rfl, rfl⟩ (.inl ?_)
    exact Bool.eq_false_iff.mpr available

/-- The processing of a `REPLICATE` command comes to its end exactly if all
sockets can be used. -/
theorem DFile.replicateTo_iff {command : ReplicateCommand} :
    (node.replicateTo shell connects exchange command).Answers ↔
      command.Reaches connects exchange := by
  by_cases reached :
      command.targets.takeWhile (connects · servicePort) = command.targets
  · have all := List.takeWhile_eq_self_iff.mp reached
    simp only [Processed.Answers, DFile.replicateTo, reached, if_true,
      ne_eq, List.cons_ne_nil, not_true_eq_false, not_false_eq_true,
      decide_false, true_and, ReplicateCommand.Reaches]
    rw [and_iff_right fun target isTarget => all target isTarget]
    simp only [List.any_eq_false, List.mem_filter, List.mem_mapIdx,
      Bool.not_eq_true', Bool.not_eq_false]
    constructor
    · intro bound index below approves
      exact bound (exchange index) ⟨⟨index, below, rfl⟩, approves⟩
    · rintro bound _ ⟨⟨index, below, rfl⟩, approves⟩
      exact bound index below approves
  · apply iff_of_false
    · rintro ⟨_, returned, _⟩
      simp [DFile.replicateTo, reached] at returned
    · rintro ⟨all, _⟩
      exact reached (List.takeWhile_eq_self_iff.mpr all)

/-- The processing of a command comes to its end with a reply exactly if it is
one of the leader that works. -/
theorem DFile.answerCommandRequest_iff {request : CommandRequest} :
    (∃ processed, node.answerCommandRequest shell connects leader exchange
        request = some processed ∧ processed.Answers) ↔
      leader = request.senderip ∧ request.Works connects exchange := by
  rw [DFile.answerCommandRequest]
  by_cases fromLeader : leader = request.senderip
  · rw [if_neg (not_not_intro fromLeader), and_iff_right fromLeader,
      CommandRequest.Works, CommandRequest.HasBody]
    cases isType : request.type with
    | replicate =>
        cases isCommand : request.replicateCommand with
        | none => simp
        | some command => simp [DFile.replicateTo_iff]
    | delete =>
        cases isCommand : request.deleteCommand with
        | none => simp
        | some filename => simp [Processed.Answers]
    | list => simp [Processed.Answers]
  · rw [if_pos fromLeader]
    refine iff_of_false ?_ fun answered => fromLeader answered.1
    rintro ⟨processed, isProcessed, replied, _⟩
    obtain rfl := Option.some.inj isProcessed
    exact replied rfl

/-- A request can be answered exactly if its processing comes to its end with
one reply. -/
theorem DFile.answer_iff :
    (∃ processed, service.node.answer shell connects service.leader exchange
        message = some processed ∧ processed.Answers) ↔
      Answerable connects service (.arrive message exchange) := by
  cases message with
  | sendReq request =>
      simp only [DFile.answer, Answerable, ← DFile.answerSendRequest_iff]
      cases request <;> simp
  | commandReq request =>
      simp only [DFile.answer, Answerable,
        ← @DFile.answerCommandRequest_iff shell connects service.node]
      cases request <;> simp

/-! ## Runs -/

/-- On a socket that has received, the first reply is sent and no other one. -/
theorem ServiceThread.foldl_replySendRequest
    (first : ServiceReply) (rest : List ServiceReply) :
    (first :: rest).foldl replySendRequest (.replying, []) =
      (.receiving, [first]) := by
  have silent (replies sent : List ServiceReply) :
      replies.foldl replySendRequest (.receiving, sent) =
        (.receiving, sent) := by
    induction replies with
    | nil => rfl
    | cons reply replies inductionHypothesis => exact inductionHypothesis
  exact silent rest [first]

namespace Answering

/-- The thread goes on after a request exactly if it could be answered. -/
theorem arrive_iff (answering : Answering service) :
    Answering (service.arrive shell connects message exchange) ↔
      Answerable connects service (.arrive message exchange) := by
  rw [← @DFile.answer_iff shell, ServiceThread.arrive, answering.running,
    answering.receiving]
  simp only [RepSocket.recv]
  cases answered : service.node.answer shell connects service.leader exchange
      message with
  | none =>
      refine iff_of_false (fun after => nomatch after.running) ?_
      rintro ⟨processed, isProcessed, _⟩
      nomatch isProcessed
  | some processed =>
      simp only [Option.some.injEq, exists_eq_left']
      constructor
      · rintro ⟨running, _, _⟩
        simp only [ServiceThread.finish] at running
        refine ⟨fun silent => ?_, ?_, ?_⟩
        · rw [silent] at running
          simp [RepSocket.recv] at running
          split at running <;> nomatch running
        · refine Bool.eq_false_iff.mpr fun threw => ?_
          simp only [threw, true_or, if_true] at running
          split at running <;> nomatch running
        · refine Bool.eq_false_iff.mpr fun terminates => ?_
          simp only [terminates, if_true] at running
          nomatch running
      · rintro ⟨replied, threw, terminates⟩
        obtain ⟨first, rest, replies⟩ := List.exists_cons_of_ne_nil replied
        simp only [ServiceThread.finish, replies,
          ServiceThread.foldl_replySendRequest, threw, terminates]
        refine ⟨rfl, rfl, fun entry logged => ?_⟩
        rcases List.mem_append.mp logged with before | isNew
        · exact answering.replied entry before
        · rw [List.mem_singleton.mp isNew]
          rfl

end Answering

/-- In every run all requests can be answered exactly if in every state on the
way each request has had one reply and the thread can receive the next one. -/
theorem every_answerable_iff
    {trace : List ServiceAction} {finish : ServiceThread}
    (runs : (serviceSystem shell connects node leader).Runs
      (ServiceThread.initial node leader) trace finish) :
    (serviceSystem shell connects node leader).Every (Answerable connects)
        (ServiceThread.initial node leader) trace ↔
      ∀ front middle, front <+: trace →
        (serviceSystem shell connects node leader).Runs
          (ServiceThread.initial node leader) front middle →
        Answering middle := by
  apply runs.every_iff_forall_front Answering Answering
  · intro service action next answering answerable stepped
    obtain rfl := Option.some.inj stepped
    cases action with
    | arrive message exchange => exact answering.arrive_iff.mpr answerable
    | setLeader id =>
        exact ⟨answering.running, answering.receiving, answering.replied⟩
    | work node =>
        exact ⟨answering.running, answering.receiving, answering.replied⟩
  · exact fun _ => id
  · intro service action next answering fails stepped
    obtain rfl := Option.some.inj stepped
    cases action with
    | arrive message exchange =>
        exact fun after => fails (answering.arrive_iff.mp after)
    | setLeader id => exact absurd trivial fails
    | work node => exact absurd trivial fails
  · exact ⟨rfl, rfl, nofun⟩

/-- A nested request is approved, and the port is free. -/
def approved (_ : Nat) : Exchange where
  port := 9601
  reply :=
    { approve := true
      filename := some "a"
      chunksize := some 256000
      port := some 9601 }
  bound := true

/-- Hosts have a name without a blank, and ports are positive. -/
def connectsTo (host : String) (port : Int) : Bool :=
  host != "" && !host.toList.contains ' ' && decide (0 < port)

/-- The command to list the files, from a node. -/
def listCommandFrom (senderip : String) : ServiceAction :=
  .arrive (.commandReq (some ⟨senderip, .list, some .listCommand⟩)) approved

/-- The command to send a file to a node. -/
def replicateCommandTo (target : String) : ServiceAction :=
  .arrive (.commandReq (some ⟨"3", .replicate,
    some (.replicateCommand ⟨"a", [target], none⟩)⟩)) approved

/-- A list command, a command to send a file, a file and a deletion, with a
change of the leader. -/
def answeredRequests : List ServiceAction :=
  [listCommandFrom "3", replicateCommandTo "4",
    .arrive (.sendReq (some ⟨"2", "a", "", 3, 256000, 9601, none⟩)) approved,
    .setLeader "2",
    .arrive (.commandReq (some ⟨"2", .delete, some (.deleteCommand "a")⟩))
      approved]

theorem answering_of_answeredRequests :
    ∃ finish, (serviceSystem (.strict fun _ => "") connectsTo
        (emptyNode "1") "3").Runs (ServiceThread.initial (emptyNode "1") "3")
          answeredRequests finish ∧
      Answering finish := by
  have every : (serviceSystem (.strict fun _ => "") connectsTo
      (emptyNode "1") "3").Every (Answerable connectsTo)
        (ServiceThread.initial (emptyNode "1") "3") answeredRequests := by
    decide +kernel
  obtain ⟨finish, runs⟩ : ∃ finish,
      (serviceSystem (.strict fun _ => "") connectsTo (emptyNode "1")
        "3").Runs (ServiceThread.initial (emptyNode "1") "3")
          answeredRequests finish :=
    ⟨_, rfl⟩
  exact ⟨finish, runs, (every_answerable_iff runs).mp every answeredRequests
    finish (List.prefix_refl _) runs⟩

/-- The command of a node that is not the known leader ends the loop. -/
theorem not_answering_of_otherLeader :
    ¬ ∀ (shell : Shell) (connects : String → Int → Bool) (node : DFile)
        (leader : String) (trace : List ServiceAction)
        (finish : ServiceThread),
      (serviceSystem shell connects node leader).Runs
        (ServiceThread.initial node leader) trace finish →
      Answering finish := by
  intro claim
  have running := (claim (.strict fun _ => "") connectsTo (emptyNode "1") "3"
    [listCommandFrom "2"] _ rfl).running
  cases running

end FileTransfer
end CraneSps
