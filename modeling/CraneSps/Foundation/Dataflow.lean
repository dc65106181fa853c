import CraneSps.Foundation.RunLength
import Mathlib.Data.List.Perm.Subperm
import Mathlib.Data.List.Infix
import Mathlib.Data.List.Flatten
import Mathlib.Data.List.Nodup

/-!
# Dataflow

The nodes of a network write tokens to ports, and every token that leaves a
port is put on one of the connections of the port.  A connection is a queue.
What a node has read is a list of tokens, each with the connection on which it
has come, so that any interleaving of the connections of a node is possible.

What the nodes of a stage have read altogether is, up to the order, part of
what the nodes before them have written.  If a port chooses the connection by
a key, the order is kept for every key.
-/

namespace Dataflow

/-- The node that writes to a port, and the nodes at the ends of its
connections. -/
structure Shape (Node Port : Type*) where
  source : Port → Node
  size : Port → Nat
  target : Port → Nat → Node

/-- What has been read, written and put on connections. -/
structure History (Node Port Token : Type*) where
  input : Node → List ((Port × Nat) × Token)
  output : Node → List Token
  routes : Port → List (Nat × Token)

variable {Node Port Token Key : Type*} [DecidableEq Port]
variable {shape : Shape Node Port} {history : History Node Port Token}
variable {ports : List Port} {children : List Node}

/-- The tokens that a node has read. -/
def History.read (history : History Node Port Token) (node : Node) :
    List Token :=
  (history.input node).map Prod.snd

/-- Some ports lead to some nodes, which read from no other ports.  A port has
put a first part of what its node has written on its connections, and a first
part of what is on a connection has been read. -/
structure Stage
    (shape : Shape Node Port) (history : History Node Port Token)
    (ports : List Port) (children : List Node) : Prop where
  distinctPorts : ports.Nodup
  distinctChildren : children.Nodup
  leads : ∀ port ∈ ports, ∀ index < shape.size port,
    shape.target port index ∈ children
  origin : ∀ child ∈ children, ∀ entry ∈ history.input child,
    entry.1.1 ∈ ports ∧ entry.1.2 < shape.size entry.1.1 ∧
      shape.target entry.1.1 entry.1.2 = child
  inside : ∀ port ∈ ports, ∀ route ∈ history.routes port,
    route.1 < shape.size port
  sent : ∀ port ∈ ports,
    (history.routes port).map Prod.snd <+:
      history.output (shape.source port)
  inOrder : ∀ port ∈ ports, ∀ index < shape.size port,
    (history.input (shape.target port index)).group (port, index) <+:
      (history.routes port).group index

/-- Nothing is on the way from the ports to the nodes. -/
structure Settled
    (shape : Shape Node Port) (history : History Node Port Token)
    (ports : List Port) : Prop where
  sent : ∀ port ∈ ports,
    (history.routes port).map Prod.snd = history.output (shape.source port)
  arrived : ∀ port ∈ ports, ∀ index < shape.size port,
    (history.input (shape.target port index)).group (port, index) =
      (history.routes port).group index

/-- The connections of some ports. -/
def connections (shape : Shape Node Port) (ports : List Port) :
    List (Port × Nat) :=
  ports.flatMap fun port => (List.range (shape.size port)).map (port, ·)

omit [DecidableEq Port] in
theorem mem_connections {connection : Port × Nat} :
    connection ∈ connections shape ports ↔
      connection.1 ∈ ports ∧ connection.2 < shape.size connection.1 := by
  obtain ⟨port, index⟩ := connection
  simp only [connections, List.mem_flatMap, List.mem_map, List.mem_range,
    Prod.mk.injEq]
  constructor
  · rintro ⟨_, isPort, _, inside, rfl, rfl⟩
    exact ⟨isPort, inside⟩
  · rintro ⟨isPort, inside⟩
    exact ⟨port, isPort, index, inside, rfl, rfl⟩

omit [DecidableEq Port] in
theorem nodup_connections (distinct : ports.Nodup) :
    (connections shape ports).Nodup := by
  apply List.nodup_flatMap.mpr
  constructor
  · intro port _
    exact List.nodup_range.map fun _ _ same => (Prod.mk.inj same).2
  · refine distinct.imp fun differs => ?_
    intro connection isFirst isSecond
    obtain ⟨_, _, rfl⟩ := List.mem_map.mp isFirst
    obtain ⟨_, _, same⟩ := List.mem_map.mp isSecond
    exact differs (Prod.mk.inj same).1.symm

/-! ## Lists of parts -/

section Parts

variable {Index Item : Type*}

/-- What is made of some of the items, in any order. -/
theorem subperm_flatMap
    {items more : List Index} (some : items.Subperm more)
    (part : Index → List Item) :
    (items.flatMap part).Subperm (more.flatMap part) := by
  obtain ⟨middle, same, shorter⟩ := some
  exact ⟨middle.flatMap part, same.flatMap_right part, shorter.flatMap part⟩

theorem subperm_map
    {items more : List Index} (some : items.Subperm more)
    (image : Index → Item) :
    (items.map image).Subperm (more.map image) := by
  rw [List.map_eq_flatMap, List.map_eq_flatMap]
  exact subperm_flatMap some _

/-- Only one of distinct indices has a part. -/
theorem flatMap_eq_of_unique
    (part : Index → List Item) {indices : List Index} {only : Index}
    (distinct : indices.Nodup) (isIndex : only ∈ indices)
    (elsewhere : ∀ index ∈ indices, index ≠ only → part index = []) :
    indices.flatMap part = part only := by
  induction indices with
  | nil => cases isIndex
  | cons first indices inductionHypothesis =>
      obtain ⟨notLater, laterDistinct⟩ := List.nodup_cons.mp distinct
      obtain ⟨here, later⟩ := List.forall_mem_cons.mp elsewhere
      rw [List.flatMap_cons]
      by_cases same : first = only
      · have none : indices.flatMap part = [] := by
          apply List.flatMap_eq_nil_iff.mpr
          intro index present
          refine later index present ?_
          rintro rfl
          exact notLater (same ▸ present)
        rw [none, List.append_nil, same]
      · rw [here same, List.nil_append]
        exact inductionHypothesis laterDistinct
          ((List.mem_cons.mp isIndex).resolve_left (Ne.symm same)) later

/-- The groups of distinct keys that cover all pairs contain all pairs. -/
theorem perm_flatMap_group
    [DecidableEq Index] {keys : List Index} (pairs : List (Index × Item))
    (distinct : keys.Nodup)
    (covered : ∀ pair ∈ pairs, pair.1 ∈ keys) :
    (keys.flatMap fun key => pairs.group key).Perm
      (pairs.map Prod.snd) := by
  have cut := (List.perm_flatMap_filter Prod.fst pairs distinct).map Prod.snd
  rw [List.map_flatMap, List.filter_eq_self.mpr fun pair isPair =>
    decide_eq_true (covered pair isPair)] at cut
  exact cut

/-- Rows of parts are columns of parts in another order. -/
theorem perm_flatMap_swap
    {Column : Type*} (rows : List Index) (columns : List Column)
    (part : Index → Column → List Item) :
    (rows.flatMap fun row => columns.flatMap (part row)).Perm
      (columns.flatMap fun column => rows.flatMap fun row =>
        part row column) := by
  induction rows with
  | nil => simp
  | cons row rows inductionHypothesis =>
      simp only [List.flatMap_cons]
      refine (inductionHypothesis.append_left _).trans ?_
      exact List.flatMap_append_perm _ _ _

end Parts

/-! ## Nothing is lost and nothing is invented -/

namespace Stage

/-- A token that has been read is one of those on its connection. -/
theorem exists_route
    (stage : Stage shape history ports children) {child : Node}
    (isChild : child ∈ children) {entry : (Port × Nat) × Token}
    (isEntry : entry ∈ history.input child) :
    (entry.1.2, entry.2) ∈ history.routes entry.1.1 := by
  obtain ⟨isPort, inside, leads⟩ := stage.origin child isChild entry isEntry
  have arrived := stage.inOrder _ isPort _ inside
  rw [leads] at arrived
  exact List.mem_group_iff.mp
    (arrived.subset (List.mem_group_iff.mpr isEntry))

/-- A token that has been read has been written. -/
theorem mem_output
    (stage : Stage shape history ports children) {child : Node}
    (isChild : child ∈ children) {entry : (Port × Nat) × Token}
    (isEntry : entry ∈ history.input child) :
    entry.2 ∈ history.output (shape.source entry.1.1) := by
  obtain ⟨isPort, _, _⟩ := stage.origin child isChild entry isEntry
  refine (stage.sent _ isPort).subset ?_
  exact List.mem_map.mpr ⟨_, stage.exists_route isChild isEntry, rfl⟩

/-- Everything that the nodes of a stage have read, by its connection. -/
theorem group_flatMap_input
    (stage : Stage shape history ports children) {port : Port} {index : Nat}
    (isPort : port ∈ ports) (inside : index < shape.size port) :
    (children.flatMap history.input).group (port, index) =
      (history.input (shape.target port index)).group (port, index) := by
  rw [List.group, List.filter_flatMap, List.map_flatMap]
  apply flatMap_eq_of_unique _ stage.distinctChildren
    (stage.leads port isPort index inside)
  intro child isChild differs
  rw [List.map_eq_nil_iff, List.filter_eq_nil_iff]
  intro entry isEntry
  rw [decide_eq_true_eq]
  intro same
  have leads := (stage.origin child isChild entry isEntry).2.2
  rw [same] at leads
  exact differs leads.symm

/-- What the nodes of a stage have read, connection by connection. -/
theorem perm_read
    (stage : Stage shape history ports children) :
    ((connections shape ports).flatMap fun connection =>
        (history.input (shape.target connection.1 connection.2)).group
          connection).Perm
      (children.flatMap history.read) := by
  have distinct : (connections shape ports).Nodup :=
    nodup_connections stage.distinctPorts
  have cut := perm_flatMap_group (children.flatMap history.input) distinct (by
      intro entry isEntry
      obtain ⟨child, isChild, present⟩ := List.mem_flatMap.mp isEntry
      obtain ⟨isPort, inside, _⟩ := stage.origin child isChild entry present
      exact mem_connections.mpr ⟨isPort, inside⟩)
  rw [List.map_flatMap] at cut
  refine List.Perm.trans (List.Perm.of_eq ?_) cut
  apply List.flatMap_congr
  rintro ⟨port, index⟩ isConnection
  obtain ⟨isPort, inside⟩ := mem_connections.mp isConnection
  exact (stage.group_flatMap_input isPort inside).symm

/-- What has left the ports of a stage, connection by connection. -/
theorem perm_routes
    (stage : Stage shape history ports children) :
    ((connections shape ports).flatMap fun connection =>
        (history.routes connection.1).group connection.2).Perm
      (ports.flatMap fun port => (history.routes port).map Prod.snd) := by
  rw [connections, List.flatMap_assoc]
  refine List.Perm.flatMap_left _ fun port isPort => ?_
  rw [List.flatMap_map]
  exact perm_flatMap_group _ List.nodup_range fun route isRoute =>
    List.mem_range.mpr (stage.inside port isPort route isRoute)

/-- A stage has read nothing that has not been written, and nothing twice. -/
theorem subperm_read
    (stage : Stage shape history ports children) :
    (children.flatMap history.read).Subperm
      (ports.flatMap fun port => history.output (shape.source port)) := by
  have arrived : ((connections shape ports).flatMap fun connection =>
      (history.input (shape.target connection.1 connection.2)).group
        connection).Sublist
      ((connections shape ports).flatMap fun connection =>
        (history.routes connection.1).group connection.2) := by
    apply List.Sublist.flatMap_right
    rintro ⟨port, index⟩ isConnection
    obtain ⟨isPort, inside⟩ := mem_connections.mp isConnection
    exact (stage.inOrder port isPort index inside).sublist
  have sent := List.Sublist.flatMap_right ports fun port isPort =>
    (stage.sent port isPort).sublist
  refine stage.perm_read.symm.subperm.trans (arrived.subperm.trans ?_)
  exact stage.perm_routes.subperm.trans sent.subperm

/-- If nothing is on the way, everything has been read. -/
theorem perm_read_of_settled
    (stage : Stage shape history ports children)
    (settled : Settled shape history ports) :
    (children.flatMap history.read).Perm
      (ports.flatMap fun port => history.output (shape.source port)) := by
  have arrived : ((connections shape ports).flatMap fun connection =>
      (history.input (shape.target connection.1 connection.2)).group
        connection) =
      (connections shape ports).flatMap fun connection =>
        (history.routes connection.1).group connection.2 := by
    apply List.flatMap_congr
    rintro ⟨port, index⟩ isConnection
    obtain ⟨isPort, inside⟩ := mem_connections.mp isConnection
    exact settled.arrived port isPort index inside
  have sent : (ports.flatMap fun port =>
      (history.routes port).map Prod.snd) =
      ports.flatMap fun port => history.output (shape.source port) :=
    List.flatMap_congr fun port isPort => settled.sent port isPort
  calc
    (children.flatMap history.read).Perm _ := stage.perm_read.symm
    List.Perm _ (ports.flatMap fun port =>
        (history.routes port).map Prod.snd) := arrived ▸ stage.perm_routes
    List.Perm _ _ := List.Perm.of_eq sent

end Stage

/-! ## Keys -/

section Keys

variable [DecidableEq Key] {key : Token → Key} {home : Key → Node}
variable {index : Port → Key → Nat}

omit [DecidableEq Port] in
/-- If the routes are chosen by a key, the tokens with the key are all on one
of them. -/
theorem filter_group_of_chosen
    {routes : List (Nat × Token)} (key : Token → Key) (choice : Key → Nat)
    (chosen : ∀ route ∈ routes, route.1 = choice (key route.2))
    (wanted : Key) :
    (routes.group (choice wanted)).filter
        (fun token => key token = wanted) =
      (routes.map Prod.snd).filter fun token => key token = wanted := by
  rw [List.group, List.filter_map, List.filter_map, List.filter_filter]
  congr 1
  apply List.filter_congr
  intro route isRoute
  by_cases isKey : key route.2 = wanted
  · simp [isKey, chosen route isRoute]
  · simp [isKey]

/-- The ports choose the connection by a key, and they agree on the node for
each key. -/
structure Keyed
    (shape : Shape Node Port) (history : History Node Port Token)
    (ports : List Port) (key : Token → Key) (index : Port → Key → Nat)
    (home : Key → Node) : Prop where
  chosen : ∀ port ∈ ports, ∀ route ∈ history.routes port,
    route.1 = index port (key route.2)
  inside : ∀ port ∈ ports, ∀ key, index port key < shape.size port
  leads : ∀ port ∈ ports, ∀ key,
    shape.target port (index port key) = home key

namespace Keyed

variable {child : Node}
variable (stage : Stage shape history ports children)
variable (keyed : Keyed shape history ports key index home)

include stage keyed

omit [DecidableEq Key] in
/-- A token has come on the connection for its key. -/
theorem index_of_mem_input
    (isChild : child ∈ children) {entry : (Port × Nat) × Token}
    (isEntry : entry ∈ history.input child) :
    entry.1.2 = index entry.1.1 (key entry.2) := by
  obtain ⟨isPort, _, _⟩ := stage.origin child isChild entry isEntry
  exact keyed.chosen _ isPort _ (stage.exists_route isChild isEntry)

omit [DecidableEq Key] in
/-- A node reads the tokens with its keys only. -/
theorem home_of_mem_input
    (isChild : child ∈ children) {entry : (Port × Nat) × Token}
    (isEntry : entry ∈ history.input child) : home (key entry.2) = child := by
  obtain ⟨isPort, _, leads⟩ := stage.origin child isChild entry isEntry
  rw [← keyed.leads _ isPort, ← index_of_mem_input stage keyed isChild
    isEntry, leads]

/-- No other node has read a token with the key. -/
theorem filter_read_of_ne
    (isChild : child ∈ children) {wanted : Key}
    (differs : child ≠ home wanted) :
    ((history.read child).filter fun token => key token = wanted) = [] := by
  apply List.filter_eq_nil_iff.mpr
  intro token isToken
  obtain ⟨entry, isEntry, rfl⟩ := List.mem_map.mp isToken
  rw [decide_eq_true_eq]
  rintro rfl
  exact differs (home_of_mem_input stage keyed isChild isEntry).symm

variable {port : Port} {wanted : Key}

/-- If one port is the only one with a key, its node has read the tokens with
the key on the connection for the key. -/
theorem filter_read
    (isPort : port ∈ ports)
    (only : ∀ other ∈ ports, other ≠ port →
      ∀ token ∈ history.output (shape.source other), key token ≠ wanted) :
    ((history.read (home wanted)).filter fun token => key token = wanted) =
      ((history.input (home wanted)).group
        (port, index port wanted)).filter fun token => key token = wanted := by
  have isChild : home wanted ∈ children := by
    rw [← keyed.leads port isPort]
    exact stage.leads port isPort _ (keyed.inside port isPort wanted)
  rw [History.read, List.group, List.filter_map, List.filter_map,
    List.filter_filter]
  congr 1
  apply List.filter_congr
  intro entry isEntry
  by_cases isKey : key entry.2 = wanted
  · have isOnly : entry.1 = (port, index port wanted) := by
      obtain ⟨isOther, _, _⟩ := stage.origin _ isChild entry isEntry
      have isIndex := index_of_mem_input stage keyed isChild isEntry
      have same : entry.1.1 = port := by
        by_contra differs
        exact only _ isOther differs entry.2
          (stage.mem_output isChild isEntry) isKey
      exact Prod.ext same (by rw [isIndex, isKey, same])
    simp [isKey, isOnly]
  · simp [isKey]

omit [DecidableEq Port] stage in
/-- The tokens with a key that have left a port are those on the connection
for the key. -/
theorem filter_routes (isPort : port ∈ ports) :
    ((history.routes port).group (index port wanted)).filter
        (fun token => key token = wanted) =
      ((history.routes port).map Prod.snd).filter
        fun token => key token = wanted :=
  filter_group_of_chosen key _ (keyed.chosen port isPort) wanted

/-- The tokens with a key arrive in the order in which they are written. -/
theorem prefix_read
    (isPort : port ∈ ports)
    (only : ∀ other ∈ ports, other ≠ port →
      ∀ token ∈ history.output (shape.source other), key token ≠ wanted) :
    ((history.read (home wanted)).filter fun token => key token = wanted) <+:
      (history.output (shape.source port)).filter
        fun token => key token = wanted := by
  have arrived := stage.inOrder port isPort _
    (keyed.inside port isPort wanted)
  rw [keyed.leads port isPort] at arrived
  rw [filter_read stage keyed isPort only]
  calc
    _ <+: ((history.routes port).group (index port wanted)).filter
        (fun token => key token = wanted) := arrived.filter _
    _ = ((history.routes port).map Prod.snd).filter
        fun token => key token = wanted := filter_routes keyed isPort
    _ <+: _ := (stage.sent port isPort).filter _

/-- If nothing is on the way, all tokens with a key have arrived. -/
theorem read_of_settled
    (settled : Settled shape history ports) (isPort : port ∈ ports)
    (only : ∀ other ∈ ports, other ≠ port →
      ∀ token ∈ history.output (shape.source other), key token ≠ wanted) :
    ((history.read (home wanted)).filter fun token => key token = wanted) =
      (history.output (shape.source port)).filter
        fun token => key token = wanted := by
  have arrived := settled.arrived port isPort _
    (keyed.inside port isPort wanted)
  rw [keyed.leads port isPort] at arrived
  rw [filter_read stage keyed isPort only, arrived,
    filter_routes keyed isPort, settled.sent port isPort]

end Keyed

end Keys

end Dataflow
