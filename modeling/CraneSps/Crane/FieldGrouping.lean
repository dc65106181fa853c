import CraneSps.Crane.Grouping
import CraneSps.Crane.Wiring

/-!
# Field grouping

All workers of a parent get the addresses of a child in the same order, so a
first field has the same address for all of them, in every batch.  As the
addresses differ, what arrives at one of them has come in order.
-/

namespace CraneSps
namespace Crane

/-! ## Hashing -/

theorem foldl_bmod
    {Item : Type} (value : Item → Int) (size : Nat) (items : List Item)
    (start : Int) :
    items.foldl (fun (hash : Int) item => (hash + value item).bmod size)
        (start.bmod size) =
      (items.foldl (fun (hash : Int) item => hash + value item)
        start).bmod size := by
  induction items generalizing start with
  | nil => rfl
  | cons item items inductionHypothesis =>
      rw [List.foldl_cons, Int.bmod_add_bmod, inductionHypothesis,
        List.foldl_cons]

/-- The sum may as well wrap at every character. -/
theorem hashField_eq_foldl (field : List UInt8) :
    hashField field =
      field.foldl (fun (hash : Int) (c : UInt8) =>
        (hash + c.toInt8.toInt).bmod (2 ^ 32)) 0 :=
  (foldl_bmod (fun c : UInt8 => c.toInt8.toInt) (2 ^ 32) field 0).symm

/-- Every field has a connection, whatever the sign of its hash is. -/
theorem destination_lt
    {size : Nat} (connected : 0 < size) (field : List UInt8) :
    destination field size < size :=
  Nat.mod_lt _ connected

/-- The keys of the messages are of type `int`, which holds the index of every
connection. -/
theorem bmod_destination
    {size : Nat} (connected : 0 < size) (representable : size ≤ 2 ^ 31)
    (field : List UInt8) :
    (destination field size : Int).bmod (2 ^ 32) =
      destination field size := by
  have inside := destination_lt connected field
  apply Int.bmod_eq_of_le
  · omega
  · omega

/-! ## The sender -/

/-- `ChildImpl::configureConnections`: one connection for each address. -/
def Worker.internalConnectionGroups
    (worker : Worker) : List InternalConnectionGroup :=
  worker.connectionGroups.map fun group =>
    { childName := group.childName
      grouping := group.grouping
      connections := group.addresses }

/-- `dataSendThread`: one round for each batch, with the numbers that are drawn
in it. -/
def dataSendThread
    (undefined : String → GroupingScheme)
    (groups : List InternalConnectionGroup)
    (rounds : List (List Tuple × (Nat → Nat))) :
    Option (List (List (List Message))) :=
  rounds.mapM fun round => dataSend undefined round.1 round.2 groups

/-- The tuples of all batches. -/
def outputStream (rounds : List (List Tuple × (Nat → Nat))) : List Tuple :=
  rounds.flatMap Prod.fst

/-- What one group has sent, round by round. -/
def sentBy (index : Nat) (sent : List (List (List Message))) :
    List (List Message) :=
  sent.map fun messages => messages.getD index []

/-- What has been sent to an address, in the order of the messages. -/
def sentTo
    (connections : List String) (sent : List (List Message))
    (address : String) : List CraneTuple :=
  sent.flatMap fun messages =>
    (messages.filter fun message =>
      connections[message.1]? = some address).flatMap Prod.snd

/-- Every tuple is sent to the address of its first field, in order. -/
structure KeepsKeys
    (route : List UInt8 → String) (stream : List Tuple)
    (connections : List String) (sent : List (List Message)) : Prop where
  inside : ∀ field, destination field connections.length < connections.length
  bounded : ∀ messages ∈ sent, ∀ message ∈ messages,
    message.1 < connections.length
  inOrder : ∀ address,
    sentTo connections sent address =
      (stream.filter fun tuple => route (tuple.data.headD []) = address).map
        Tuple.toMessage

/-- The address that the first field of a tuple determines. -/
def fieldRoute (addresses : List String) (field : List UInt8) : String :=
  addresses.getD (destination field addresses.length) ""

section Rounds

variable {undefined : String → GroupingScheme} {stream : List Tuple}
variable {groups : List InternalConnectionGroup} {draws : Nat → Nat}
variable {index : Nat} {group : InternalConnectionGroup}

/-- Every group has its own messages. -/
theorem sendGroup_of_dataSend
    {sent : List (List Message)}
    (isSent : dataSend undefined stream draws groups = some sent)
    (isGroup : groups[index]? = some group) :
    sendGroup undefined (draws index) stream group =
      some (sent.getD index []) := by
  induction groups generalizing draws index sent with
  | nil => cases isGroup
  | cons first groups inductionHypothesis =>
      simp only [dataSend, Option.bind_eq_some_iff,
        Option.map_eq_some_iff] at isSent
      obtain ⟨messages, isFirst, rest, isRest, rfl⟩ := isSent
      cases index with
      | zero =>
          obtain rfl := Option.some.inj isGroup
          exact isFirst
      | succ index =>
          have later := inductionHypothesis isRest isGroup
          exact later

/-- A round can be carried out if all tuples have a first field. -/
theorem exists_dataSend
    (fields : ∀ tuple ∈ stream, tuple.data ≠ [])
    (undefined : String → GroupingScheme) (draws : Nat → Nat)
    (groups : List InternalConnectionGroup) :
    ∃ sent, dataSend undefined stream draws groups = some sent := by
  induction groups generalizing draws with
  | nil => exact ⟨[], rfl⟩
  | cons group groups inductionHypothesis =>
      obtain ⟨rest, isRest⟩ := inductionHypothesis fun index =>
        draws (index + 1)
      have isFirst : ∃ messages,
          sendGroup undefined (draws 0) stream group = some messages := by
        unfold sendGroup
        split
        · exact ⟨_, rfl⟩
        · exact ⟨_, by simp only [address_eq fields]; rfl⟩
        · exact ⟨_, rfl⟩
      obtain ⟨messages, isFirst⟩ := isFirst
      exact ⟨messages :: rest, by simp [dataSend, isFirst, isRest]⟩

/-- A group with field grouping sends what the first fields determine. -/
theorem sendGroup_field
    (fields : ∀ tuple ∈ stream, tuple.data ≠ [])
    (isField : group.grouping = "FieldGrouping") (draw : Nat) :
    sendGroup undefined draw stream group =
      some ((stream.map fun tuple =>
        (tuple.hashed group.connections.length, tuple)).foldl addTuple
          .empty).entries := by
  simp [sendGroup, isField, parseGroupingString, address_eq fields]

/-- What arrives at an address is what arrives on the only connection to it. -/
theorem filter_connections
    {connections : List String} (distinct : connections.Nodup)
    {messages : List Message} {dest : Nat} {address : String}
    (isAddress : connections[dest]? = some address) :
    (messages.filter fun message =>
        connections[message.1]? = some address).flatMap Prod.snd =
      received messages dest := by
  rw [received]
  congr 1
  apply List.filter_congr
  intro message _
  rw [decide_eq_decide]
  constructor
  · intro same
    obtain ⟨bound, _⟩ := List.getElem?_eq_some_iff.mp same
    exact (List.getElem?_inj bound distinct).mp (same.trans isAddress.symm)
  · rintro rfl
    exact isAddress

/-- In one round every address gets the tuples with its first fields. -/
theorem sentTo_round
    {connections : List String} (distinct : connections.Nodup)
    (connected : 0 < connections.length) (address : String) :
    (((stream.map fun tuple =>
        (tuple.hashed connections.length, tuple)).foldl addTuple
          .empty).entries.filter fun message =>
            connections[message.1]? = some address).flatMap Prod.snd =
      (stream.filter fun tuple =>
        fieldRoute connections (tuple.data.headD []) = address).map
          Tuple.toMessage := by
  have atHash (tuple : Tuple) :
      connections[tuple.hashed connections.length]? =
        some (fieldRoute connections (tuple.data.headD [])) := by
    have inside := destination_lt connected (tuple.data.headD [])
    rw [fieldRoute, Tuple.hashed, List.getD_eq_getElem?_getD,
      List.getElem?_eq_getElem inside, Option.getD_some]
  by_cases isConnection : address ∈ connections
  · obtain ⟨dest, isAddress⟩ := List.mem_iff_getElem?.mp isConnection
    rw [filter_connections distinct isAddress, received_hashed]
    congr 1
    apply List.filter_congr
    intro tuple _
    rw [decide_eq_decide]
    obtain ⟨bound, _⟩ := List.getElem?_eq_some_iff.mp isAddress
    constructor
    · rintro rfl
      exact Option.some.inj ((atHash tuple).symm.trans isAddress)
    · rintro rfl
      exact ((List.getElem?_inj bound distinct).mp
        (isAddress.trans (atHash tuple).symm)).symm
  · have nowhere (dest : Nat) : connections[dest]? ≠ some address :=
      fun found => isConnection (List.mem_of_getElem? found)
    have notRoute (tuple : Tuple) :
        fieldRoute connections (tuple.data.headD []) ≠ address := by
      rintro rfl
      exact nowhere _ (atHash tuple)
    simp only [nowhere, notRoute, decide_false, List.filter_false,
      List.flatMap_nil, List.map_nil]

end Rounds

section Threads

variable {undefined : String → GroupingScheme}
variable {groups : List InternalConnectionGroup}
variable {rounds : List (List Tuple × (Nat → Nat))}

theorem exists_dataSendThread
    (fields : ∀ round ∈ rounds, ∀ tuple ∈ round.1, tuple.data ≠ [])
    (undefined : String → GroupingScheme)
    (groups : List InternalConnectionGroup) :
    ∃ sent, dataSendThread undefined groups rounds = some sent := by
  induction rounds with
  | nil => exact ⟨[], rfl⟩
  | cons round rounds inductionHypothesis =>
      obtain ⟨here, later⟩ := List.forall_mem_cons.mp fields
      obtain ⟨messages, isFirst⟩ :=
        exists_dataSend here undefined round.2 groups
      obtain ⟨rest, isRest⟩ := inductionHypothesis later
      refine ⟨messages :: rest, ?_⟩
      rw [dataSendThread] at isRest
      rw [dataSendThread, List.mapM_cons, isFirst, isRest]
      rfl

/-- A group with field grouping keeps keys together in all rounds. -/
theorem keepsKeys_of_field
    {index : Nat} {group : InternalConnectionGroup}
    {sent : List (List (List Message))}
    (fields : ∀ round ∈ rounds, ∀ tuple ∈ round.1, tuple.data ≠ [])
    (isGroup : groups[index]? = some group)
    (isField : group.grouping = "FieldGrouping")
    (distinct : group.connections.Nodup)
    (connected : group.connections ≠ [])
    (isSent : dataSendThread undefined groups rounds = some sent) :
    KeepsKeys (fieldRoute group.connections) (outputStream rounds)
      group.connections (sentBy index sent) := by
  have positive : 0 < group.connections.length :=
    List.length_pos_iff.mpr connected
  induction rounds generalizing sent with
  | nil =>
      obtain rfl := Option.some.inj isSent
      exact ⟨destination_lt positive, nofun, fun _ => rfl⟩
  | cons round rounds inductionHypothesis =>
      obtain ⟨here, later⟩ := List.forall_mem_cons.mp fields
      rw [dataSendThread, List.mapM_cons] at isSent
      obtain ⟨messages, isFirst, others⟩ := Option.bind_eq_some_iff.mp isSent
      obtain ⟨rest, isRest, isAll⟩ := Option.bind_eq_some_iff.mp others
      obtain rfl := Option.some.inj isAll
      obtain ⟨_, bounded, inOrder⟩ := inductionHypothesis later isRest
      have first := sendGroup_of_dataSend isFirst isGroup
      rw [sendGroup_field here isField] at first
      have isFirst := Option.some.inj first
      refine ⟨destination_lt positive, ?_, fun address => ?_⟩
      · rw [sentBy, List.map_cons, List.forall_mem_cons, ← isFirst]
        refine ⟨fun message isMessage => ?_, bounded⟩
        rcases mem_foldl_addTuple isMessage with isOld | isNew
        · cases isOld
        · rw [List.map_map] at isNew
          obtain ⟨tuple, _, same⟩ := List.mem_map.mp isNew
          rw [← same]
          exact destination_lt positive _
      · rw [outputStream, List.flatMap_cons, List.filter_append,
          List.map_append, ← sentTo_round distinct positive, isFirst]
        exact congrArg _ (inOrder address)

end Threads

/-! ## The configuration -/

section Configuration

variable {cluster next : Cluster} {topoId : String} {members : List String}

/-- The workers are created before their connections are configured. -/
theorem exists_configured
    (prepared : cluster.prepareTopology topoId members = some next) :
    ∃ created : Cluster,
      created.nimbus.supervisors =
          members.filter (fun id => id != cluster.nimbus.id) ∧
        created.spec topoId = cluster.spec topoId ∧
        next =
          (created.configureConnections topoId).setTopoStatus topoId
            .ready := by
  obtain ⟨assignment, executor, _, rfl⟩ :=
    Cluster.exists_of_prepareTopology prepared
  refine ⟨(Nimbus.addRequests assignment).foldl (Cluster.addWorker topoId) _,
    Cluster.supervisors_addWorkers _, (Cluster.spec_addWorkers _).trans ?_,
    rfl⟩
  exact TopoStats.getTopoSpec_setTopoStatus

/-- All workers of a parent get its edges with the instances that are
registered now. -/
theorem connectionGroups_prepareTopology
    {id parent : String} {worker : Worker}
    (prepared : cluster.prepareTopology topoId members = some next)
    (isMember : id ∈ members) (differs : id ≠ cluster.nimbus.id)
    (isParent : (cluster.spec topoId).connectionGroups
      (next.nimbus.topoStats.getTopoTaskInstances topoId) parent ≠ [])
    (isWorker : worker ∈ (next.supervisor id).workers (topoId, parent)) :
    worker.connectionGroups =
      (cluster.spec topoId).connectionGroups
        (next.nimbus.topoStats.getTopoTaskInstances topoId) parent := by
  obtain ⟨created, supervisors, sameSpec, rfl⟩ := exists_configured prepared
  have isSupervisor : id ∈ created.nimbus.supervisors := by
    rw [supervisors]
    exact List.mem_filter.mpr ⟨isMember, bne_iff_ne.mpr differs⟩
  have instances : TopoStats.getTopoTaskInstances
      ((created.configureConnections topoId).setTopoStatus topoId
        .ready).nimbus.topoStats topoId =
      created.nimbus.topoStats.getTopoTaskInstances topoId :=
    funext fun _ => TopoStats.getTopoTaskInstances_setTopoStatus
  have edges := @last_workerConnections created.nimbus.topoStats topoId parent
  change _ = (created.spec topoId).connectionGroups _ _ at edges
  rw [sameSpec, ← instances] at edges
  change worker ∈ ((created.configureConnections topoId).supervisor
    id).workers (topoId, parent) at isWorker
  rw [workers_configureConnections] at isWorker
  obtain ⟨old, _, rfl⟩ := List.mem_map.mp isWorker
  rw [if_pos isSupervisor, ← edges]
  cases isLast : WriteOnce.last
      (Nimbus.workerConnections created.nimbus.topoStats topoId) parent with
  | none =>
      rw [isLast] at edges
      exact absurd edges.symm isParent
  | some groups => rfl

end Configuration

/-! ## Addresses in a run -/

/-- The addresses of all tasks are distinct and have been issued. -/
def AllIssued (cluster : Cluster) : Prop :=
  ∀ topoId name, Issued cluster.supervisor
    (cluster.nimbus.topoStats.getTopoTaskInstances topoId name)

namespace AllIssued

variable {cluster next : Cluster} {members : List String}

/-- No instances are added, and no ports are taken back. -/
theorem mono
    (issued : AllIssued cluster)
    (grows : ∀ id, (cluster.supervisor id).port ≤ (next.supervisor id).port)
    (fewer : ∀ topoId name,
      next.nimbus.topoStats.getTopoTaskInstances topoId name =
          cluster.nimbus.topoStats.getTopoTaskInstances topoId name ∨
        next.nimbus.topoStats.getTopoTaskInstances topoId name = []) :
    AllIssued next := by
  intro topoId name
  rcases fewer topoId name with same | nothing
  · rw [same]
    exact (issued topoId name).mono grows
  · rw [nothing]
    exact Issued.nil

theorem initial (id : String) : AllIssued (State.initial id).cluster :=
  fun _ _ => Issued.nil

/-- New workers of a tracked topology get new addresses. -/
theorem addWorkers
    {topoId : String} (issued : AllIssued cluster)
    (tracked : topoId ∈ cluster.nimbus.topoStats.topoIds)
    (requests : List (String × String × Nat)) :
    AllIssued (requests.foldl (Cluster.addWorker topoId) cluster) := by
  intro other name
  by_cases same : other = topoId
  · subst same
    exact issued_addWorkers tracked (issued other name)
  · obtain ⟨added, adds, _⟩ :=
      @Added.addWorkers topoId requests cluster tracked
    rw [TopoStats.getTopoTaskInstances, adds.others other same]
    exact (issued other name).mono fun id =>
      Cluster.port_le_addWorkers requests

/-- `prepareTopology` adds new addresses. -/
theorem prepare
    {topoId : String} (issued : AllIssued cluster)
    (prepared : cluster.prepareTopology topoId members = some next) :
    AllIssued next := by
  obtain ⟨assignment, executor, assigned, rfl⟩ :=
    Cluster.exists_of_prepareTopology prepared
  have start : AllIssued (cluster.assigning topoId members executor) :=
    issued.mono (fun _ => Nat.le_refl _)
      fun _ _ => .inl TopoStats.getTopoTaskInstances_setTopoStatus
  have created : AllIssued ((Nimbus.addRequests assignment).foldl
      (Cluster.addWorker topoId)
      (cluster.assigning topoId members executor)) := by
    by_cases tracked : topoId ∈ cluster.nimbus.topoStats.topoIds
    · exact start.addWorkers
        (TopoStats.mem_topoIds_setTopoStatus.mpr tracked) _
    · -- What is not tracked has no tasks.
      have noTasks := map_snd_assign assigned
      rw [TopoStats.getTopoSpec,
        TopoStats.absent _ topoId tracked] at noTasks
      obtain rfl := List.map_eq_nil_iff.mp noTasks
      exact start
  exact created.mono
    (fun _ => Nat.le_of_eq Cluster.port_configureConnections.symm)
    fun _ _ => .inl TopoStats.getTopoTaskInstances_setTopoStatus

/-- `stopTopology` forgets the instances of its topology. -/
theorem stop
    (issued : AllIssued cluster) (topoId : String) (members : List String) :
    AllIssued (cluster.stopTopology topoId members) := by
  refine issued.mono
    (fun _ => Nat.le_of_eq Cluster.port_stopTopology.symm) ?_
  intro other name
  change (TopoStats.tracker (TopoStats.clearTaskInstances
      (cluster.nimbus.topoStats.setTopoStatus topoId .idle) topoId)
      other).taskInstances name = _ ∨
    (TopoStats.tracker (TopoStats.clearTaskInstances
      (cluster.nimbus.topoStats.setTopoStatus topoId .idle) topoId)
      other).taskInstances name = []
  rw [TopoStats.clearTaskInstances, TopoStats.tracker_set]
  split
  · exact .inr rfl
  · exact .inl TopoStats.getTopoTaskInstances_setTopoStatus

/-- Every operation keeps the addresses distinct. -/
theorem execute
    (issued : AllIssued cluster) {operation : Operation}
    (executed : operation.execute cluster members = some next) :
    AllIssued next := by
  cases operation with
  | compile topoId =>
      obtain rfl := Option.some.inj executed
      exact issued.mono (fun _ => Nat.le_refl _)
        fun _ _ => .inl TopoStats.getTopoTaskInstances_setTopoStatus
  | prepare topoId => exact issued.prepare executed
  | start topoId =>
      obtain rfl := Option.some.inj executed
      exact issued.mono
        (fun _ => Nat.le_of_eq Cluster.port_startTopology.symm)
        fun _ _ => .inl getTopoTaskInstances_startTopology
  | stop topoId =>
      obtain rfl := Option.some.inj executed
      exact issued.stop topoId members
  | kill topoId =>
      obtain rfl := Option.some.inj executed
      have stopped : AllIssued
          (if cluster.status topoId = some .running then
            cluster.stopTopology topoId members else cluster) := by
        split
        · exact issued.stop topoId members
        · exact issued
      unfold Cluster.killTopology
      cases isStatus : cluster.nimbus.topoStats.getTopoStatus topoId with
      | none => exact issued
      | some status =>
          simp only [Cluster.status, isStatus, Option.some.injEq] at stopped
          refine stopped.mono (fun _ => Nat.le_refl _) fun other name => ?_
          change (TopoStats.tracker (TopoStats.erase _ topoId)
              other).taskInstances name = _ ∨
            (TopoStats.tracker (TopoStats.erase _ topoId)
              other).taskInstances name = []
          rw [TopoStats.tracker_erase]
          split
          · exact .inr rfl
          · exact .inl rfl

/-- A request adds no instances. -/
theorem accept
    {state : State} (issued : AllIssued state.cluster) (request : Request) :
    AllIssued (state.accept request).cluster := by
  cases request with
  | submit topoId spec =>
      simp only [State.accept]
      split
      · exact issued
      · refine issued.mono (fun _ => Nat.le_refl _) fun other name => .inl ?_
        refine TopoStats.getTopoTaskInstances_setTopoStatus.trans ?_
        rw [TopoStats.setTopoSpec, TopoStats.getTopoTaskInstances,
          TopoStats.tracker_set]
        split
        next same => rw [same, TopoStats.getTopoTaskInstances]
        next => rfl
  | send topoId => exact issued
  | start topoId | stop topoId | kill topoId =>
      simp only [State.accept]
      split <;> exact issued

/-- The addresses of a task are distinct in every run. -/
theorem of_runs
    {id : String} {trace : List Action} {state : State}
    (runs : (nimbusSystem id).Runs (State.initial id) trace state) :
    AllIssued state.cluster := by
  refine runs.invariant (fun state => AllIssued state.cluster) ?_
    (initial id)
  intro state action next before stepped
  cases State.stepped_of_advance stepped with
  | request request finished => exact before.accept request
  | serve members operation service cluster isNext executed =>
      exact before.execute executed
  | nodeFail => exact before
  | resume index members operation restart cluster isNext executed =>
      exact before.execute executed

end AllIssued

/-! ## Keys -/

/-- Whatever its batches are, a worker sends every tuple for a child with field
grouping to the address of the first field. -/
structure Worker.Follows
    (worker : Worker) (child : String) (route : List UInt8 → String) :
    Prop where
  connected : ∃ group ∈ worker.internalConnectionGroups,
    group.childName = child ∧ group.grouping = "FieldGrouping"
  keeps : ∀ (undefined : String → GroupingScheme)
      (rounds : List (List Tuple × (Nat → Nat))),
    (∀ round ∈ rounds, ∀ tuple ∈ round.1, tuple.data ≠ []) →
    ∃ sent,
      dataSendThread undefined worker.internalConnectionGroups rounds =
          some sent ∧
        ∀ index group,
          worker.internalConnectionGroups[index]? = some group →
          group.childName = child → group.grouping = "FieldGrouping" →
          KeepsKeys route (outputStream rounds) group.connections
            (sentBy index sent)

/-- A worker with the edges of its task follows the addresses of each child. -/
theorem Worker.follows_fieldRoute
    {worker : Worker} {spec : TopologySpec} {parent : String}
    {addresses : String → List String} {bolt : BoltSpec}
    (configured : worker.connectionGroups =
      spec.connectionGroups addresses parent)
    (isBolt : bolt ∈ spec.boltSpecs)
    (isParent : (parent, "FieldGrouping") ∈ bolt.parents)
    (distinct : (addresses bolt.name).Nodup)
    (instances : addresses bolt.name ≠ []) :
    worker.Follows bolt.name (fieldRoute (addresses bolt.name)) where
  connected := by
    rw [internalConnectionGroups, configured]
    refine ⟨_, List.mem_map.mpr ⟨⟨bolt.name, "FieldGrouping",
      addresses bolt.name⟩, ?_, rfl⟩, rfl, rfl⟩
    exact List.mem_flatMap.mpr ⟨bolt, isBolt, List.mem_map.mpr
      ⟨_, List.mem_filter.mpr ⟨isParent, decide_eq_true rfl⟩, rfl⟩⟩
  keeps := by
    intro undefined rounds fields
    obtain ⟨sent, isSent⟩ := exists_dataSendThread fields undefined
      worker.internalConnectionGroups
    refine ⟨sent, isSent, fun index group isGroup isChild isField => ?_⟩
    -- Every group of the child has all of its addresses.
    have connections : group.connections = addresses bolt.name := by
      have present := List.mem_of_getElem? isGroup
      rw [internalConnectionGroups, configured] at present
      obtain ⟨configuredGroup, isConfigured, rfl⟩ := List.mem_map.mp present
      obtain ⟨child, _, isEdgeOf⟩ := List.mem_flatMap.mp isConfigured
      obtain ⟨edge, _, rfl⟩ := List.mem_map.mp isEdgeOf
      exact congrArg addresses isChild
    rw [← connections] at distinct instances ⊢
    exact keepsKeys_of_field fields isGroup isField distinct instances isSent

/-- In every run, when a topology has been prepared and a child with field
grouping has instances, there is one address for each first field that all
workers of the parent follow. -/
theorem fieldGrouping_keepsKeys
    (id : String) (trace : List Action) (state : State)
    (runs : (nimbusSystem id).Runs (State.initial id) trace state)
    (topoId parent : String) (members : List String) (prepared : Cluster)
    (prepares : state.cluster.prepareByMessages topoId members =
      some prepared)
    (bolt : BoltSpec)
    (isBolt : bolt ∈ (state.cluster.spec topoId).boltSpecs)
    (isParent : (parent, "FieldGrouping") ∈ bolt.parents)
    (instances : prepared.nimbus.topoStats.getTopoTaskInstances topoId
      bolt.name ≠ []) :
    ∃ route : List UInt8 → String,
      (∀ field, route field ∈
        prepared.nimbus.topoStats.getTopoTaskInstances topoId bolt.name) ∧
      ∀ supervisorId ∈ members, supervisorId ≠ state.cluster.nimbus.id →
        ∀ worker ∈
            (prepared.supervisor supervisorId).workers (topoId, parent),
          worker.Follows bolt.name route := by
  rw [Cluster.prepareByMessages_eq] at prepares
  have distinct := ((AllIssued.of_runs runs).prepare prepares topoId
    bolt.name).distinct
  have positive := List.length_pos_iff.mpr instances
  have isEdge : (state.cluster.spec topoId).connectionGroups
      (prepared.nimbus.topoStats.getTopoTaskInstances topoId) parent ≠ [] :=
    List.ne_nil_of_mem (List.mem_flatMap.mpr ⟨bolt, isBolt, List.mem_map.mpr
      ⟨_, List.mem_filter.mpr ⟨isParent, decide_eq_true rfl⟩, rfl⟩⟩)
  refine ⟨fieldRoute (prepared.nimbus.topoStats.getTopoTaskInstances topoId
    bolt.name), fun field => ?_, ?_⟩
  · have inside := destination_lt positive field
    rw [fieldRoute, List.getD_eq_getElem?_getD,
      List.getElem?_eq_getElem inside, Option.getD_some]
    exact List.getElem_mem inside
  · intro supervisorId isMember differs worker isWorker
    have configured := connectionGroups_prepareTopology prepares isMember
      differs isEdge isWorker
    exact Worker.follows_fieldRoute configured isBolt isParent distinct
      instances

/-- A bolt with field grouping, and its parent, a bolt of two workers. -/
def keyedBolts : TopologySpec where
  spoutSpecs := [{ name := "s" }]
  boltSpecs :=
    [{ name := "p", parents := [("s", "ShuffleGrouping")], paraLevel := 2 },
      { name := "c", parents := [("p", "FieldGrouping")], paraLevel := 2 }]

theorem fieldGrouping_keepsKeys_keyedBolts :
    ∃ state prepared,
      (nimbusSystem "n").Runs (State.initial "n")
          [.request (.submit "t" keyedBolts)] state ∧
        state.cluster.prepareByMessages "t" ["a", "n", "z"] = some prepared ∧
        ((prepared.supervisor "a").workers ("t", "p")).length = 1 ∧
        ((prepared.supervisor "z").workers ("t", "p")).length = 1 ∧
        ∃ route : List UInt8 → String,
          (∀ field, route field ∈
            prepared.nimbus.topoStats.getTopoTaskInstances "t" "c") ∧
          ∀ supervisorId ∈ ["a", "n", "z"],
            supervisorId ≠ state.cluster.nimbus.id →
            ∀ worker ∈ (prepared.supervisor supervisorId).workers ("t", "p"),
              worker.Follows "c" route := by
  obtain ⟨state, runs, isBolt, prepared, prepares, first, second, instances⟩ :
      ∃ state ∈ (nimbusSystem "n").run (State.initial "n")
          [.request (.submit "t" keyedBolts)],
        ⟨"c", [("p", "FieldGrouping")], "run", 2⟩ ∈
          (state.cluster.spec "t").boltSpecs ∧
        ∃ prepared ∈ state.cluster.prepareByMessages "t" ["a", "n", "z"],
          ((prepared.supervisor "a").workers ("t", "p")).length = 1 ∧
          ((prepared.supervisor "z").workers ("t", "p")).length = 1 ∧
          prepared.nimbus.topoStats.getTopoTaskInstances "t" "c" ≠ [] := by
    decide
  exact ⟨state, prepared, runs, prepares, first, second,
    fieldGrouping_keepsKeys "n" _ state runs "t" "p" ["a", "n", "z"] prepared
      prepares _ isBolt (by decide) instances⟩

end Crane
end CraneSps
