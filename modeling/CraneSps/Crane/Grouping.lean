import CraneSps.Crane.TopologySpec
import CraneSps.Foundation.SortedMap
import Mathlib.Data.Int.Basic
import Mathlib.Algebra.Group.Int.Defs
import Mathlib.Algebra.Group.Nat.Defs

/-!
# Sending tuples to the groups of a worker

A worker sends every batch of tuples to each of its connection groups.  It can
parse two of the four grouping schemes; what `parseGroupingString` returns for
the others is undefined, and if it is a scheme without a case the batch is
dropped.
-/

namespace CraneSps
namespace Crane

/-- `Tuple`; a field is a string of bytes. -/
structure Tuple where
  id : Int
  data : List (List UInt8)
  deriving DecidableEq

/-- `CraneTuple`, the encoding of a tuple. -/
structure CraneTuple where
  id : Int
  data : List (List UInt8)
  deriving DecidableEq

/-- The encoding of one tuple. -/
def Tuple.toMessage (tuple : Tuple) : CraneTuple where
  id := tuple.id
  data := tuple.data

/-- `InternalConnectionGroup`; a connection is represented by its address. -/
structure InternalConnectionGroup where
  childName : String
  grouping : String
  connections : List String
  deriving DecidableEq

/-- A `TUPLE_BATCH` with the index of the connection it is sent to. -/
abbrev Message := Nat × List CraneTuple

/-- `SystemHelper::hashField`: the sum of signed characters, as an `int`. -/
def hashField (field : List UInt8) : Int :=
  (field.foldl (fun (hash : Int) (c : UInt8) => hash + c.toInt8.toInt)
    0).bmod (2 ^ 32)

/-- The connection of a field; the remainder is that of unsigned numbers. -/
def destination (field : List UInt8) (size : Nat) : Nat :=
  (hashField field % 2 ^ 64).toNat % size

/-- The number of a connection that `selectRandom` selects. -/
def selectRandom (draw size : Nat) : Nat :=
  draw % size

/-- `createTupleBatchMessage`. -/
def createTupleBatchMessage (stream : List Tuple) : List CraneTuple :=
  stream.map Tuple.toMessage

/-- Add a tuple to the message for its destination. -/
def addTuple
    (messages : SortedMap (Prod.fst : Message → Nat))
    (addressed : Nat × Tuple) : SortedMap (Prod.fst : Message → Nat) :=
  let (dest, tuple) := addressed
  let batch := ((messages.find dest).map Prod.snd).getD []
  messages.insert (dest, batch ++ [tuple.toMessage])

/-- The destinations of the tuples by their first fields, which must exist. -/
def address (stream : List Tuple) (size : Nat) : Option (List (Nat × Tuple)) :=
  stream.mapM fun tuple =>
    tuple.data.head?.map fun field => (destination field size, tuple)

/-- The messages of one group in one round of `dataSendThread`. -/
def sendGroup
    (undefined : String → GroupingScheme) (draw : Nat) (stream : List Tuple)
    (group : InternalConnectionGroup) : Option (List Message) :=
  let size := group.connections.length
  match (parseGroupingString group.grouping).getD
      (undefined group.grouping) with
  | .shuffle =>
      some [(selectRandom draw size, createTupleBatchMessage stream)]
  | .field =>
      (address stream size).map fun addressed =>
        (addressed.foldl addTuple .empty).entries
  | _ => some []

/-- One round of `dataSendThread`, with the numbers that are drawn. -/
def dataSend
    (undefined : String → GroupingScheme) (stream : List Tuple) :
    (Nat → Nat) → List InternalConnectionGroup →
      Option (List (List Message))
  | _, [] => some []
  | draws, group :: groups =>
      (sendGroup undefined (draws 0) stream group).bind fun messages =>
        (dataSend undefined stream (fun index => draws (index + 1))
          groups).map fun rest => messages :: rest

/-! ## Delivery -/

/-- What arrives on a connection, in the order of the messages. -/
def received (messages : List Message) (dest : Nat) : List CraneTuple :=
  (messages.filter fun message => message.1 = dest).flatMap Prod.snd

/-- Every tuple has been sent along its route, a list of connections, and every
connection has got its tuples unchanged and in order. -/
structure Routed
    (stream : List Tuple) (size : Nat) (routes : List (List Nat))
    (messages : List Message) : Prop where
  complete : routes.length = stream.length
  bounded : ∀ message ∈ messages, message.1 < size
  inOrder : ∀ dest < size,
    received messages dest =
      ((stream.zip routes).filter fun routed => dest ∈ routed.2).map
        fun routed => routed.1.toMessage

/-- The routes that a scheme allows. -/
def GroupingScheme.Allows (size : Nat) (route : List Nat) :
    GroupingScheme → Prop
  | .shuffle | .field => ∃ dest < size, route = [dest]
  | .all => ∀ dest < size, dest ∈ route
  | .default => ∃ dest < size, dest ∈ route

/-- The batch has been delivered as the scheme demands. -/
def Delivered
    (scheme : GroupingScheme) (stream : List Tuple) (size : Nat)
    (messages : List Message) : Prop :=
  ∃ routes, Routed stream size routes messages ∧
    ∀ route ∈ routes, scheme.Allows size route

/-- The messages to a group deliver the batch as its grouping demands. -/
def Serves
    (stream : List Tuple) (group : InternalConnectionGroup)
    (messages : List Message) : Prop :=
  ∀ scheme, group.grouping = getGroupingString scheme →
    Delivered scheme stream group.connections.length messages

/-- Whatever is undefined and whatever is drawn, a round delivers the batch to
every group. -/
def Delivers
    (stream : List Tuple) (groups : List InternalConnectionGroup) : Prop :=
  ∀ (undefined : String → GroupingScheme) (draws : Nat → Nat),
    ∃ sent, dataSend undefined stream draws groups = some sent ∧
      List.Forall₂ (Serves stream) groups sent

/-! ## Routes -/

section Routes

variable {stream : List Tuple} {size : Nat} {messages : List Message}

/-- A tuple that knows its route. -/
theorem zip_map_filter
    (route : Tuple → List Nat) (dest : Nat) (stream : List Tuple) :
    ((stream.zip (stream.map route)).filter fun routed =>
        dest ∈ routed.2).map (fun routed => routed.1.toMessage) =
      (stream.filter fun tuple => dest ∈ route tuple).map
        Tuple.toMessage := by
  induction stream with
  | nil => rfl
  | cons tuple stream inductionHypothesis =>
      rw [List.map_cons, List.zip_cons_cons, List.filter_cons,
        List.filter_cons]
      split
      · rw [List.map_cons, List.map_cons, inductionHypothesis]
      · exact inductionHypothesis

theorem routed_map
    {route : Tuple → List Nat}
    (bounded : ∀ message ∈ messages, message.1 < size)
    (inOrder : ∀ dest < size,
      received messages dest =
        (stream.filter fun tuple => dest ∈ route tuple).map
          Tuple.toMessage) :
    Routed stream size (stream.map route) messages where
  complete := List.length_map _
  bounded := bounded
  inOrder := by
    intro dest inRange
    rw [zip_map_filter]
    exact inOrder dest inRange

/-- One message with the whole batch. -/
theorem delivered_one
    {chosen : Nat} (inRange : chosen < size) {scheme : GroupingScheme}
    (allowed : scheme.Allows size [chosen]) :
    Delivered scheme stream size
      [(chosen, createTupleBatchMessage stream)] := by
  refine ⟨stream.map fun _ => [chosen], routed_map ?_ ?_, ?_⟩
  · intro message isMessage
    obtain rfl := List.mem_singleton.mp isMessage
    exact inRange
  · intro dest _
    by_cases same : chosen = dest
    · simp [received, createTupleBatchMessage, same]
    · simp [received, same, Ne.symm same]
  · intro route isRoute
    obtain ⟨tuple, _, rfl⟩ := List.mem_map.mp isRoute
    exact allowed

/-- The messages that have been put together for one destination. -/
theorem batch_foldl_addTuple
    (addressed : List (Nat × Tuple))
    (messages : SortedMap (Prod.fst : Message → Nat)) (dest : Nat) :
    (((addressed.foldl addTuple messages).find dest).map Prod.snd).getD [] =
      ((messages.find dest).map Prod.snd).getD [] ++
        (addressed.filter fun pair => pair.1 = dest).map
          fun pair => pair.2.toMessage := by
  induction addressed generalizing messages with
  | nil => simp
  | cons first addressed inductionHypothesis =>
      obtain ⟨other, tuple⟩ := first
      rw [List.foldl_cons, inductionHypothesis, addTuple,
        SortedMap.find_insert]
      by_cases same : other = dest
      · simp [same]
      · simp [same, Ne.symm same]

/-- The destinations of the messages are those of the tuples. -/
theorem mem_foldl_addTuple
    {addressed : List (Nat × Tuple)}
    {messages : SortedMap (Prod.fst : Message → Nat)} {message : Message}
    (isMessage : message ∈ (addressed.foldl addTuple messages).entries) :
    message ∈ messages.entries ∨ message.1 ∈ addressed.map Prod.fst := by
  induction addressed generalizing messages with
  | nil => exact .inl isMessage
  | cons first addressed inductionHypothesis =>
      obtain ⟨other, tuple⟩ := first
      rw [List.map_cons, List.mem_cons]
      rcases inductionHypothesis isMessage with before | later
      · rcases SortedMap.mem_insertEntry before with rfl | isOld
        · exact .inr (.inl rfl)
        · exact .inl isOld
      · exact .inr (.inr later)

/-- What is received on a connection is the message for it. -/
theorem received_entries
    (messages : SortedMap (Prod.fst : Message → Nat)) (dest : Nat) :
    received messages.entries dest =
      ((messages.find dest).map Prod.snd).getD [] := by
  rw [received, SortedMap.filter_entries]
  cases messages.find dest with
  | none => rfl
  | some message => simp

/-- The connection that the first field of a tuple determines. -/
def Tuple.hashed (tuple : Tuple) (size : Nat) : Nat :=
  destination (tuple.data.headD []) size

theorem address_eq
    (fields : ∀ tuple ∈ stream, tuple.data ≠ []) :
    address stream size =
      some (stream.map fun tuple => (tuple.hashed size, tuple)) := by
  unfold address
  induction stream with
  | nil => rfl
  | cons tuple stream inductionHypothesis =>
      obtain ⟨hasField, rest⟩ := List.forall_mem_cons.mp fields
      obtain ⟨field, others, data⟩ := List.exists_cons_of_ne_nil hasField
      simp [List.mapM_cons, inductionHypothesis rest, data, Tuple.hashed]

/-- Every connection gets the tuples that are hashed to it, in order. -/
theorem received_hashed (stream : List Tuple) (size dest : Nat) :
    received ((stream.map fun tuple => (tuple.hashed size, tuple)).foldl
        addTuple .empty).entries dest =
      (stream.filter fun tuple => tuple.hashed size = dest).map
        Tuple.toMessage := by
  rw [received_entries, batch_foldl_addTuple, SortedMap.find_empty,
    List.filter_map, List.map_map]
  rfl

/-- One message for each destination. -/
theorem delivered_hashed
    (connected : 0 < size) :
    Delivered .field stream size
      ((stream.map fun tuple => (tuple.hashed size, tuple)).foldl addTuple
        .empty).entries := by
  refine ⟨stream.map fun tuple => [tuple.hashed size], routed_map ?_ ?_, ?_⟩
  · intro message isMessage
    rcases mem_foldl_addTuple isMessage with isOld | isNew
    · cases isOld
    · rw [List.map_map] at isNew
      obtain ⟨tuple, _, same⟩ := List.mem_map.mp isNew
      rw [← same]
      exact Nat.mod_lt _ connected
  · intro dest _
    rw [received_hashed]
    congr 1
    apply List.filter_congr
    intro tuple _
    simp [eq_comm]
  · intro route isRoute
    obtain ⟨tuple, _, rfl⟩ := List.mem_map.mp isRoute
    exact ⟨_, Nat.mod_lt _ connected, rfl⟩

/-- If nothing is sent, nothing has been delivered. -/
theorem not_delivered_nil
    (someTuple : stream ≠ []) (connected : 0 < size)
    (scheme : GroupingScheme) : ¬ Delivered scheme stream size [] := by
  rintro ⟨routes, routed, allowed⟩
  obtain ⟨tuple, rest, rfl⟩ := List.exists_cons_of_ne_nil someTuple
  obtain ⟨route, others, rfl⟩ := List.exists_cons_of_length_eq_add_one
    routed.complete
  have reached : ∃ dest < size, dest ∈ route := by
    have allows := allowed route List.mem_cons_self
    cases scheme with
    | shuffle | field =>
        obtain ⟨dest, inRange, rfl⟩ := allows
        exact ⟨dest, inRange, List.mem_cons_self⟩
    | all => exact ⟨0, connected, allows 0 connected⟩
    | default => exact allows
  obtain ⟨dest, inRange, present⟩ := reached
  have nothing := routed.inOrder dest inRange
  simp [received, present] at nothing

/-- What has been delivered to all has arrived on every connection. -/
theorem received_of_delivered_all
    (delivered : Delivered .all stream size messages) {dest : Nat}
    (inRange : dest < size) :
    received messages dest = createTupleBatchMessage stream := by
  obtain ⟨routes, routed, allowed⟩ := delivered
  have onRoute : ∀ pair ∈ stream.zip routes, dest ∈ pair.2 := by
    intro pair present
    exact allowed pair.2 (List.of_mem_zip present).2 dest inRange
  rw [routed.inOrder dest inRange, List.filter_eq_self.mpr (by simpa using
    onRoute), createTupleBatchMessage]
  conv_rhs => rw [← List.map_fst_zip routed.complete.ge, List.map_map]
  rfl

/-- An empty batch needs no messages. -/
theorem delivered_of_nil (scheme : GroupingScheme) :
    Delivered scheme [] size [] := by
  refine ⟨[], ⟨rfl, nofun, fun _ _ => rfl⟩, nofun⟩

end Routes

/-! ## Rounds -/

section Rounds

variable {stream : List Tuple} {group : InternalConnectionGroup}
variable {groups : List InternalConnectionGroup}

/-- The grouping is one that the sender knows. -/
def InternalConnectionGroup.Known (group : InternalConnectionGroup) : Prop :=
  group.grouping = "ShuffleGrouping" ∨ group.grouping = "FieldGrouping"

instance : Decidable group.Known := by
  unfold InternalConnectionGroup.Known
  infer_instance

theorem getGroupingString_inj
    {scheme other : GroupingScheme}
    (same : getGroupingString scheme = getGroupingString other) :
    scheme = other := by
  revert same
  cases scheme <;> cases other <;> decide

/-- A known grouping is parsed, and the batch is delivered to the group. -/
theorem serves_of_known
    (fields : ∀ tuple ∈ stream, tuple.data ≠ [])
    (connected : group.connections ≠ []) (known : group.Known)
    (undefined : String → GroupingScheme) (draw : Nat) :
    ∃ messages, sendGroup undefined draw stream group = some messages ∧
      Serves stream group messages := by
  have positive : 0 < group.connections.length :=
    List.length_pos_iff.mpr connected
  rcases known with isShuffle | isField
  · refine ⟨_, by simp [sendGroup, isShuffle, parseGroupingString]; rfl, ?_⟩
    intro scheme isScheme
    obtain rfl : GroupingScheme.shuffle = scheme :=
      getGroupingString_inj (isShuffle.symm.trans isScheme)
    have inRange := Nat.mod_lt draw positive
    exact delivered_one inRange ⟨_, inRange, rfl⟩
  · refine ⟨_, by
      simp [sendGroup, isField, parseGroupingString, address_eq fields]; rfl,
      ?_⟩
    intro scheme isScheme
    obtain rfl : GroupingScheme.field = scheme :=
      getGroupingString_inj (isField.symm.trans isScheme)
    exact delivered_hashed positive

/-- An empty batch is delivered, whatever is sent for it. -/
theorem serves_of_nil
    (connected : group.connections ≠ [])
    (undefined : String → GroupingScheme) (draw : Nat) :
    ∃ messages, sendGroup undefined draw [] group = some messages ∧
      Serves [] group messages := by
  have positive : 0 < group.connections.length :=
    List.length_pos_iff.mpr connected
  unfold sendGroup
  split
  · refine ⟨_, rfl, fun scheme _ => ⟨[], ⟨rfl, ?_, ?_⟩, nofun⟩⟩
    · intro message isMessage
      obtain rfl := List.mem_singleton.mp isMessage
      exact Nat.mod_lt _ positive
    · intro dest _
      simp [received, createTupleBatchMessage]
  · exact ⟨_, rfl, fun scheme _ => delivered_of_nil scheme⟩
  · exact ⟨_, rfl, fun scheme _ => delivered_of_nil scheme⟩

/-- The end of `parseGroupingString` is reached for all other groupings, and
then the batch may be dropped. -/
theorem not_serves_of_not_known
    (someTuple : stream ≠ []) (connected : group.connections ≠ [])
    (isGrouping : ∃ scheme, group.grouping = getGroupingString scheme)
    (unknown : ¬ group.Known) (draw : Nat) :
    ¬ ∃ messages,
      sendGroup (fun _ => .all) draw stream group = some messages ∧
        Serves stream group messages := by
  rintro ⟨messages, sent, serves⟩
  obtain ⟨scheme, isScheme⟩ := isGrouping
  have parsed : parseGroupingString group.grouping = none := by
    rw [InternalConnectionGroup.Known, not_or] at unknown
    rw [parseGroupingString, if_neg unknown.1, if_neg unknown.2]
  simp only [sendGroup, parsed, Option.getD_none, Option.some.injEq] at sent
  subst sent
  exact not_delivered_nil someTuple (List.length_pos_iff.mpr connected) scheme
    (serves scheme isScheme)

/-- No scheme of the sender does what a grouping to all demands: a tuple goes
to one connection at most. -/
theorem not_serves_all
    (fields : ∀ tuple ∈ stream, tuple.data ≠ []) (someTuple : stream ≠ [])
    (isAll : group.grouping = getGroupingString .all)
    (several : 1 < group.connections.length)
    {undefined : String → GroupingScheme} {draw : Nat}
    {messages : List Message}
    (sent : sendGroup undefined draw stream group = some messages) :
    ¬ Serves stream group messages := by
  intro serves
  have delivered := serves .all isAll
  have another : ∀ dest, ∃ other < group.connections.length,
      other ≠ dest := by
    intro dest
    rcases Nat.eq_zero_or_pos dest with rfl | positive
    · exact ⟨1, several, Nat.one_ne_zero⟩
    · exact ⟨0, Nat.zero_lt_of_lt several, positive.ne⟩
  have parsed : parseGroupingString group.grouping = none := by
    rw [isAll]
    rfl
  obtain ⟨tuple, rest, rfl⟩ := List.exists_cons_of_ne_nil someTuple
  simp only [sendGroup, parsed, Option.getD_none] at sent
  split at sent
  · obtain rfl := Option.some.inj sent
    obtain ⟨other, inRange, differs⟩ :=
      another (selectRandom draw group.connections.length)
    have whole := received_of_delivered_all delivered inRange
    simp [received, differs.symm, createTupleBatchMessage] at whole
  · rw [address_eq fields, Option.map_some, Option.some.injEq] at sent
    subst sent
    obtain ⟨other, inRange, differs⟩ :=
      another (tuple.hashed group.connections.length)
    have whole := received_of_delivered_all delivered inRange
    rw [received_hashed, createTupleBatchMessage] at whole
    have everyTuple := List.length_filter_eq_length_iff.mp
      (by simpa using congrArg List.length whole) tuple List.mem_cons_self
    exact differs (of_decide_eq_true everyTuple).symm
  · obtain rfl := Option.some.inj sent
    exact not_delivered_nil (List.cons_ne_nil _ _)
      (Nat.zero_lt_of_lt several) .all delivered

theorem serves_iff
    (fields : ∀ tuple ∈ stream, tuple.data ≠ [])
    (connected : group.connections ≠ [])
    (isGrouping : ∃ scheme, group.grouping = getGroupingString scheme) :
    (∀ undefined draw, ∃ messages,
        sendGroup undefined draw stream group = some messages ∧
          Serves stream group messages) ↔
      stream = [] ∨ group.Known := by
  constructor
  · intro serves
    by_contra neither
    rw [not_or] at neither
    exact not_serves_of_not_known neither.1 connected isGrouping neither.2 0
      (serves _ 0)
  · rintro (rfl | known)
    · exact serves_of_nil connected
    · exact serves_of_known fields connected known

/-- The groups are served one after the other. -/
theorem delivers_cons_iff :
    Delivers stream (group :: groups) ↔
      (∀ undefined draw, ∃ messages,
        sendGroup undefined draw stream group = some messages ∧
          Serves stream group messages) ∧
      Delivers stream groups := by
  constructor
  · intro delivers
    constructor
    · intro undefined draw
      obtain ⟨sent, isSent, serves⟩ := delivers undefined fun _ => draw
      simp only [dataSend, Option.bind_eq_some_iff,
        Option.map_eq_some_iff] at isSent
      obtain ⟨messages, isFirst, rest, _, rfl⟩ := isSent
      exact ⟨messages, isFirst, (List.forall₂_cons.mp serves).1⟩
    · intro undefined draws
      obtain ⟨sent, isSent, serves⟩ := delivers undefined fun index =>
        draws (index - 1)
      simp only [dataSend, Option.bind_eq_some_iff,
        Option.map_eq_some_iff] at isSent
      obtain ⟨messages, _, rest, isRest, rfl⟩ := isSent
      exact ⟨rest, isRest, (List.forall₂_cons.mp serves).2⟩
  · rintro ⟨first, later⟩ undefined draws
    obtain ⟨messages, isFirst, serves⟩ := first undefined (draws 0)
    obtain ⟨rest, isRest, servesRest⟩ :=
      later undefined fun index => draws (index + 1)
    refine ⟨messages :: rest, ?_, .cons serves servesRest⟩
    simp [dataSend, isFirst, isRest]

/-- A round delivers a batch exactly if it is empty or all groupings are known
to the sender. -/
theorem delivers_iff_known
    (fields : ∀ tuple ∈ stream, tuple.data ≠ [])
    (connected : ∀ group ∈ groups, group.connections ≠ [])
    (isGrouping : ∀ group ∈ groups,
      ∃ scheme, group.grouping = getGroupingString scheme) :
    Delivers stream groups ↔
      stream = [] ∨ ∀ group ∈ groups,
        group.grouping = "ShuffleGrouping" ∨
          group.grouping = "FieldGrouping" := by
  induction groups with
  | nil =>
      refine ⟨fun _ => .inr nofun, fun _ undefined draws => ?_⟩
      exact ⟨[], rfl, .nil⟩
  | cons group groups inductionHypothesis =>
      obtain ⟨firstConnected, restConnected⟩ :=
        List.forall_mem_cons.mp connected
      obtain ⟨firstGrouping, restGrouping⟩ :=
        List.forall_mem_cons.mp isGrouping
      rw [delivers_cons_iff, serves_iff fields firstConnected firstGrouping,
        inductionHypothesis restConnected restGrouping, List.forall_mem_cons,
        or_and_left]
      rfl

end Rounds

/-- A batch of two tuples. -/
def twoTuples : List Tuple :=
  [⟨1, [[97]]⟩, ⟨2, [[98], [0]]⟩]

/-- A group with the grouping of a scheme and with two connections. -/
def twoConnections (scheme : GroupingScheme) : InternalConnectionGroup where
  childName := "b"
  grouping := getGroupingString scheme
  connections := ["tcp://2:3000", "tcp://3:3000"]

theorem delivers_twoTuples :
    Delivers twoTuples [twoConnections .shuffle, twoConnections .field] :=
  (delivers_iff_known (by decide) (by decide)
    (List.forall_mem_cons.mpr ⟨⟨.shuffle, rfl⟩,
      List.forall_mem_singleton.mpr ⟨.field, rfl⟩⟩)).mpr (.inr (by decide))

/-- A grouping to all is kept by no result of the missing return: some
connection of the two gets nothing. -/
theorem not_delivers_all :
    ¬ ∀ (stream : List Tuple) (groups : List InternalConnectionGroup),
      (∀ tuple ∈ stream, tuple.data ≠ []) →
      (∀ group ∈ groups, group.connections ≠ []) →
      (∀ group ∈ groups,
        ∃ scheme, group.grouping = getGroupingString scheme) →
      ∃ undefined draws sent,
        dataSend undefined stream draws groups = some sent ∧
          List.Forall₂ (Serves stream) groups sent := by
  intro claim
  obtain ⟨undefined, draws, sent, isSent, serves⟩ :=
    claim twoTuples [twoConnections .all] (by decide) (by decide)
      fun group isGroup => ⟨.all, congrArg _ (List.mem_singleton.mp isGroup)⟩
  obtain ⟨messages, _, served, _, rfl⟩ := List.forall₂_cons_left_iff.mp serves
  simp only [dataSend, Option.bind_eq_some_iff, Option.map_eq_some_iff,
    List.cons.injEq] at isSent
  obtain ⟨first, isFirst, rest, _, rfl, _⟩ := isSent
  exact not_serves_all (by decide) (by decide) rfl (by decide) isFirst served

end Crane
end CraneSps
