import CraneSps.Crane.Compilation
import CraneSps.Crane.SubmitRequest
import CraneSps.Streaming.Deployed
import CraneSps.Streaming.Meaning

/-!
# From declarations to what is printed

A program declares spouts, bolts and edges.  They are compiled to a
specification, which Nimbus gets in a request, assigns to its supervisors,
connects and starts.  If there are no cycles, every bolt has a parent and the
classes behave like operators, the workers compute what the declared graph
says.  The request changes the levels only, on which nothing depends.
-/

namespace CraneSps
namespace Streaming

open Crane (Cluster TopologySpec BoltSpec SpoutSpec GroupingScheme BuilderCall
  TopologyBuilder BoltDeclaration Edge Declarations Compiled getGroupingString
  getLibraryLocalPath getLibraryName)

/-- The declared edges to a node. -/
def edgesTo (declared : Declarations) (child : String) : List Edge :=
  declared.edges.filter fun edge => edge.bolt = child

/-- A parent with its grouping. -/
def parentOf (edge : Edge) : String × String :=
  (edge.parent, getGroupingString edge.groupingScheme)

/-- What Nimbus gets are the declarations. -/
structure Received (declared : Declarations) (spec : TopologySpec) :
    Prop where
  spouts : spec.spoutSpecs = declared.spouts
  distinct : spec.names.Nodup
  bolts : ∀ bolt ∈ spec.boltSpecs, ∃ declaration ∈ declared.bolts,
    bolt.name = declaration.id ∧ bolt.runname = declaration.runname
  complete : ∀ declaration ∈ declared.bolts,
    ∃ bolt ∈ spec.boltSpecs, bolt.name = declaration.id
  levels : ∀ bolt ∈ spec.boltSpecs, 0 < bolt.paraLevel
  sameEdges : ∀ name,
    (edges spec name).Perm ((edgesTo declared name).map parentOf)

/-- All edges to a node use field grouping. -/
def allFields (declared : Declarations) (name : String) : Bool :=
  (edgesTo declared name).all fun edge => edge.groupingScheme = .field

/-- The graph of the operators of the declared nodes. -/
def declaredGraph
    (declared : Declarations) (behaviour : String → Behaviour) :
    Dataflow.OperatorGraph String Data where
  parents := fun name => (edgesTo declared name).map Edge.parent
  operator := fun name => (behaviour name).operator

/-- The node is a bolt. -/
def declaresBolt (declared : Declarations) (name : String) : Bool :=
  decide (name ∈ declared.bolts.map BoltDeclaration.id)

/-- Every bolt has a parent, the parents come first, the groupings are known,
the names of the classes say what they are, and the classes behave like
operators and fit together. -/
structure Sensible
    (declared : Declarations) (base : String → TopologyNodeBase)
    (behaviour : String → Behaviour) (accepts : String → Crane.Tuple → Prop)
    (rank : String → Nat) (height : Nat) : Prop where
  fed : ∀ bolt ∈ declared.bolts, ∃ edge ∈ declared.edges,
    edge.bolt = bolt.id
  rises : ∀ edge ∈ declared.edges, rank edge.parent < rank edge.bolt
  below : ∀ id ∈ declared.ids, rank id < height
  known : ∀ edge ∈ declared.edges,
    edge.groupingScheme = .shuffle ∨ edge.groupingScheme = .field
  bolts : ∀ bolt ∈ declared.bolts, Crane.isBolt bolt.runname = true
  spouts : ∀ spout ∈ declared.spouts, Crane.isBolt spout.runname = false
  behaves : ∀ bolt ∈ declared.bolts,
    Behaves (base bolt.runname) (allFields declared bolt.id)
      (behaviour bolt.id)
  runs : ∀ bolt ∈ declared.bolts, ∀ node tuple, accepts bolt.id tuple →
    ∃ next tuples,
      (base bolt.runname).runOnTuple node tuple = some (next, tuples) ∧
        ∀ produced ∈ tuples, produced.data ≠ [] ∧
          ∀ edge ∈ declared.edges, edge.parent = bolt.id →
            accepts edge.bolt produced
  emits : ∀ spout ∈ declared.spouts, ∀ node next tuple,
    (base spout.runname).nextTuple node = some (next, tuple) →
      tuple.data ≠ [] ∧
        ∀ edge ∈ declared.edges, edge.parent = spout.name →
          accepts edge.bolt tuple

section Declared

variable {declared : Declarations} {spec built : TopologySpec}
variable {base : String → TopologyNodeBase} {behaviour : String → Behaviour}
variable {accepts : String → Crane.Tuple → Prop} {rank : String → Nat}
variable {height : Nat} {name : String}

/-- Without cycles everything that has a parent is reachable. -/
theorem Sensible.reachable
    (sensible : Sensible declared base behaviour accepts rank height)
    (wellFormed : declared.WellFormed) :
    ∀ id ∈ declared.ids, declared.Reachable id := by
  have byRank (bound : Nat) : ∀ id ∈ declared.ids, rank id < bound →
      declared.Reachable id := by
    induction bound with
    | zero => exact fun _ _ below => absurd below (Nat.not_lt_zero _)
    | succ bound inductionHypothesis =>
        intro id isId below
        rcases List.mem_append.mp isId with isSpout | isBolt
        · obtain ⟨spout, present, rfl⟩ := List.mem_map.mp isSpout
          exact ⟨spout, present, .refl⟩
        · obtain ⟨bolt, present, rfl⟩ := List.mem_map.mp isBolt
          obtain ⟨edge, isEdge, leads⟩ := sensible.fed bolt present
          rw [← leads] at below ⊢
          have lower := sensible.rises edge isEdge
          exact Crane.reachable_of_edge isEdge (inductionHypothesis _
            (wellFormed.edges edge isEdge).2 (by omega))
  intro id isId
  exact byRank (rank id + 1) id isId (Nat.lt_succ_self _)

/-! ## What Nimbus gets -/

/-- The edges of a bolt are its parents. -/
theorem edges_of_mem
    (distinct : (spec.boltSpecs.map BoltSpec.name).Nodup) {bolt : BoltSpec}
    (present : bolt ∈ spec.boltSpecs) :
    edges spec bolt.name = bolt.parents := by
  have only := Dataflow.flatMap_eq_of_unique
    (fun other : BoltSpec =>
      if other.name = bolt.name then other.parents else [])
    (List.Nodup.of_map _ distinct) present (by
      intro other isOther differs
      refine if_neg fun same => differs ?_
      exact List.inj_on_of_nodup_map distinct isOther present same)
  exact only.trans (if_pos rfl)

/-- If all nodes are reachable, the compiled specification has them all, and
the request keeps their edges. -/
theorem received
    (wellFormed : declared.WellFormed) (compiled : Compiled declared built)
    (reachable : ∀ id ∈ declared.ids, declared.Reachable id) :
    Received declared (.parseFromRequest built.submitRequest) := by
  have declares {bolt : BoltSpec} (present : bolt ∈ built.boltSpecs) :
      (⟨bolt.name, bolt.runname, bolt.paraLevel⟩ : BoltDeclaration) ∈
        declared.bolts :=
    ((compiled.bolts ⟨bolt.name, bolt.runname, bolt.paraLevel⟩).mp
      ⟨bolt, present, rfl, rfl, rfl⟩).1
  have sameNames : (built.boltSpecs.map BoltSpec.raiseLevel).map
      BoltSpec.name = built.boltSpecs.map BoltSpec.name := by
    rw [List.map_map]
    rfl
  have nodes := List.nodup_append.mp (List.nodup_cons.mp wellFormed.distinct).2
  rw [TopologySpec.parseFromRequest_submitRequest]
  refine
    { spouts := compiled.spouts
      distinct := ?_
      bolts := ?_
      complete := ?_
      levels := ?_
      sameEdges := ?_ }
  · rw [TopologySpec.names, sameNames]
    refine List.nodup_append.mpr
      ⟨compiled.distinctSpouts, compiled.distinctBolts, ?_⟩
    intro spout isSpout name isBolt
    obtain ⟨bolt, present, rfl⟩ := List.mem_map.mp isBolt
    rw [compiled.spouts] at isSpout
    exact nodes.2.2 spout isSpout bolt.name
      (List.mem_map.mpr ⟨_, declares present, rfl⟩)
  · intro bolt present
    obtain ⟨old, isOld, rfl⟩ := List.mem_map.mp present
    exact ⟨_, declares isOld, rfl, rfl⟩
  · intro declaration isBolt
    obtain ⟨bolt, present, same, _⟩ := (compiled.bolts declaration).mpr
      ⟨isBolt, reachable _ (List.mem_append_right _
        (List.mem_map.mpr ⟨declaration, isBolt, rfl⟩))⟩
    exact ⟨bolt.raiseLevel, List.mem_map.mpr ⟨bolt, present, rfl⟩, same⟩
  · intro bolt present
    obtain ⟨old, _, rfl⟩ := List.mem_map.mp present
    change 0 < max old.paraLevel 3
    omega
  · intro name
    have sameEdges : edges
        { built with
          boltSpecs := built.boltSpecs.map BoltSpec.raiseLevel, node := 3 }
        name = edges built name := by
      rw [edges, edges, List.flatMap_map]
      rfl
    rw [sameEdges]
    by_cases isBolt : ∃ bolt ∈ built.boltSpecs, bolt.name = name
    · obtain ⟨bolt, present, rfl⟩ := isBolt
      rw [edges_of_mem compiled.distinctBolts present]
      refine (compiled.parents bolt present).trans (List.Perm.of_eq ?_)
      refine congrArg (List.map parentOf) (List.filter_congr fun edge isEdge => ?_)
      simp [reachable _ (wellFormed.edges edge isEdge).2]
    · have noEdge : edges built name = [] := by
        apply List.flatMap_eq_nil_iff.mpr
        intro bolt present
        exact if_neg fun same => isBolt ⟨bolt, present, same⟩
      have noneDeclared : edgesTo declared name = [] := by
        apply List.filter_eq_nil_iff.mpr
        intro edge isEdge leads
        obtain ⟨target, _⟩ := wellFormed.edges edge isEdge
        obtain ⟨bolt, present, same⟩ := List.mem_map.mp target
        obtain ⟨found, isFound, sameName, _⟩ := (compiled.bolts bolt).mpr
          ⟨present, reachable _ (List.mem_append_right _
            (List.mem_map.mpr ⟨bolt, present, rfl⟩))⟩
        exact isBolt ⟨found, isFound,
          sameName.trans (same.trans (of_decide_eq_true leads))⟩
      rw [noEdge, noneDeclared]
      rfl

namespace Received

variable (isReceived : Received declared spec)

include isReceived

theorem mem_names_iff : name ∈ spec.names ↔ name ∈ declared.ids := by
  rw [TopologySpec.names, Declarations.ids, List.mem_append, List.mem_append,
    isReceived.spouts]
  refine or_congr Iff.rfl ⟨fun isBolt => ?_, fun isBolt => ?_⟩
  · obtain ⟨bolt, present, rfl⟩ := List.mem_map.mp isBolt
    obtain ⟨declaration, isDeclared, same, _⟩ := isReceived.bolts bolt present
    exact List.mem_map.mpr ⟨declaration, isDeclared, same.symm⟩
  · obtain ⟨declaration, isDeclared, rfl⟩ := List.mem_map.mp isBolt
    obtain ⟨bolt, present, same⟩ := isReceived.complete declaration isDeclared
    exact List.mem_map.mpr ⟨bolt, present, same⟩

/-- An edge of the specification has been declared. -/
theorem exists_edge
    {edge : String × String} (isEdge : edge ∈ edges spec name) :
    ∃ source ∈ declared.edges, source.bolt = name ∧
      source.parent = edge.1 ∧
      getGroupingString source.groupingScheme = edge.2 := by
  obtain ⟨source, isSource, rfl⟩ :=
    List.mem_map.mp ((isReceived.sameEdges name).mem_iff.mp isEdge)
  obtain ⟨present, leads⟩ := List.mem_filter.mp isSource
  exact ⟨source, present, of_decide_eq_true leads, rfl, rfl⟩

theorem mem_tasks (isName : name ∈ spec.names) : name ∈ spec.tasks := by
  rcases List.mem_append.mp isName with isSpout | isBolt
  · exact List.mem_append_left _ isSpout
  · obtain ⟨bolt, present, rfl⟩ := List.mem_map.mp isBolt
    apply List.mem_append_right
    refine List.mem_flatMap.mpr
      ⟨bolt, present, List.mem_replicate.mpr ⟨?_, rfl⟩⟩
    have positive := isReceived.levels bolt present
    omega

theorem runname_bolt
    (distinct : declared.ids.Nodup) {bolt : BoltDeclaration}
    (isBolt : bolt ∈ declared.bolts) :
    spec.runname bolt.id = bolt.runname := by
  obtain ⟨found, present, same⟩ := isReceived.complete bolt isBolt
  obtain ⟨other, isOther, sameId, sameClass⟩ :=
    isReceived.bolts found present
  have bolts := (List.nodup_append.mp distinct).2.1
  obtain rfl : other = bolt := List.inj_on_of_nodup_map bolts isOther isBolt
    (sameId.symm.trans same)
  rw [← sameId, TopologySpec.runname_bolt isReceived.distinct present,
    sameClass]

theorem runname_spout
    {spout : SpoutSpec} (isSpout : spout ∈ declared.spouts) :
    spec.runname spout.name = spout.runname :=
  TopologySpec.runname_spout isReceived.distinct
    (isReceived.spouts.symm ▸ isSpout)

variable (sensible : Sensible declared base behaviour accepts rank height)
variable (wellFormed : declared.WellFormed)

include sensible wellFormed

/-- The kind of a node is what its class says. -/
theorem isBolt_eq (isName : name ∈ spec.names) :
    Crane.isBolt (spec.runname name) = declaresBolt declared name := by
  have distinct := (List.nodup_cons.mp wellFormed.distinct).2
  have apart := (List.nodup_append.mp distinct).2.2
  rcases List.mem_append.mp (isReceived.mem_names_iff.mp isName) with
    isSpout | isBolt
  · obtain ⟨spout, present, rfl⟩ := List.mem_map.mp isSpout
    rw [isReceived.runname_spout present, sensible.spouts spout present]
    refine (decide_eq_false fun isBolt => ?_).symm
    exact apart _ isSpout _ isBolt rfl
  · obtain ⟨bolt, present, rfl⟩ := List.mem_map.mp isBolt
    rw [isReceived.runname_bolt distinct present,
      sensible.bolts bolt present]
    exact (decide_eq_true isBolt).symm

theorem arranged :
    Arranged spec (fun name => Crane.isBolt (spec.runname name)) rank height
    where
  distinct := isReceived.distinct
  parents := by
    intro name isName edge isEdge
    obtain ⟨source, present, rfl, isParent, _⟩ := isReceived.exists_edge isEdge
    rw [← isParent, isReceived.mem_names_iff]
    exact ⟨(wellFormed.edges source present).2, sensible.rises source present⟩
  known := by
    intro name _ edge isEdge
    obtain ⟨source, present, _, _, isGrouping⟩ := isReceived.exists_edge isEdge
    rw [← isGrouping]
    rcases sensible.known source present with isShuffle | isField
    · exact .inl (by rw [isShuffle]; rfl)
    · exact .inr (by rw [isField]; rfl)
  bolts := by
    intro bolt present
    rw [TopologySpec.runname_bolt isReceived.distinct present]
    obtain ⟨declaration, isDeclared, _, sameClass⟩ :=
      isReceived.bolts bolt present
    rw [sameClass]
    exact sensible.bolts declaration isDeclared
  below := fun name isName =>
    sensible.below name (isReceived.mem_names_iff.mp isName)

theorem processes :
    Processes spec (fun name => base (spec.runname name))
      (fun name => Crane.isBolt (spec.runname name)) accepts where
  runs := by
    intro name isName bolt node tuple accepted
    rw [isReceived.isBolt_eq sensible wellFormed isName] at bolt
    obtain ⟨declaration, present, rfl⟩ :=
      List.mem_map.mp (of_decide_eq_true bolt)
    have runs := sensible.runs declaration present
    rw [← isReceived.runname_bolt
      (List.nodup_cons.mp wellFormed.distinct).2 present] at runs
    obtain ⟨next, tuples, isRun, produces⟩ := runs node tuple accepted
    refine ⟨next, tuples, isRun, fun produced isProduced => ?_⟩
    obtain ⟨someField, accepts⟩ := produces produced isProduced
    refine ⟨someField, ?_⟩
    intro child _ edge isEdge isParent
    obtain ⟨source, isSource, rfl, same, _⟩ := isReceived.exists_edge isEdge
    exact accepts source isSource (same.trans isParent)
  spouts := by
    intro name isName spout node next tuple isNext
    rw [isReceived.isBolt_eq sensible wellFormed isName] at spout
    rcases List.mem_append.mp (isReceived.mem_names_iff.mp isName) with
      isSpout | isBolt
    · obtain ⟨declaration, present, rfl⟩ := List.mem_map.mp isSpout
      have emits := sensible.emits declaration present
      rw [← isReceived.runname_spout present] at emits
      obtain ⟨someField, accepts⟩ := emits node next tuple isNext
      refine ⟨someField, ?_⟩
      intro child _ edge isEdge isParent
      obtain ⟨source, isSource, rfl, same, _⟩ := isReceived.exists_edge isEdge
      exact accepts source isSource (same.trans isParent)
    · exact absurd isBolt (of_decide_eq_false spout)

omit sensible wellFormed in
/-- The groupings of a task are those of the node. -/
theorem allByField_eq : allByField spec name = allFields declared name := by
  have field (scheme : GroupingScheme) :
      getGroupingString scheme = "FieldGrouping" ↔ scheme = .field := by
    cases scheme <;> decide
  rw [Bool.eq_iff_iff, allByField, allFields, List.all_eq_true,
    List.all_eq_true]
  constructor
  · intro all edge isEdge
    have same := of_decide_eq_true (all (parentOf edge)
      ((isReceived.sameEdges name).mem_iff.mpr
        (List.mem_map.mpr ⟨edge, isEdge, rfl⟩)))
    exact decide_eq_true ((field _).mp same)
  · intro all edge isEdge
    obtain ⟨source, isSource, rfl⟩ :=
      List.mem_map.mp ((isReceived.sameEdges name).mem_iff.mp isEdge)
    exact decide_eq_true ((field _).mpr
      (of_decide_eq_true (all source isSource)))

theorem behaves :
    ∀ name ∈ spec.names, Crane.isBolt (spec.runname name) = true →
      Behaves (base (spec.runname name)) (allByField spec name)
        (behaviour name) := by
  intro name isName bolt
  rw [isReceived.isBolt_eq sensible wellFormed isName] at bolt
  obtain ⟨declaration, present, rfl⟩ :=
    List.mem_map.mp (of_decide_eq_true bolt)
  rw [isReceived.allByField_eq, isReceived.runname_bolt
    (List.nodup_cons.mp wellFormed.distinct).2 present]
  exact sensible.behaves declaration present

/-- What the graph of the specification says is what the declared graph
says. -/
theorem perm_printedFor
    (workers : String → List String) (history : History)
    (isName : name ∈ spec.names) :
    (printedFor (operatorGraph spec behaviour) behaviour
      (emitted (fun name => Crane.isBolt (spec.runname name)) workers history)
      height name).Perm
      (printedFor (declaredGraph declared behaviour) behaviour
        (emitted (declaresBolt declared) workers history) height name) := by
  have inside : ∀ name ∈ spec.names,
      ∀ parent ∈ (operatorGraph spec behaviour).parents name,
        parent ∈ spec.names := by
    intro name isName parent isParent
    obtain ⟨edge, isEdge, rfl⟩ := List.mem_map.mp isParent
    exact ((isReceived.arranged sensible wellFormed).parents name isName edge
      isEdge).1
  have sameOperators : (operatorGraph spec behaviour).operator =
      (declaredGraph declared behaviour).operator := rfl
  refine List.Perm.flatMap_right _ (Dataflow.OperatorGraph.read_perm inside
    sameOperators (fun name _ => ?_) (fun name isName => ?_) height isName)
  · have parents := (isReceived.sameEdges name).map Prod.fst
    rw [List.map_map] at parents
    exact parents
  · rw [emitted, emitted, isReceived.isBolt_eq sensible wellFormed isName]

end Received

end Declared

/-- In every run of the workers, what a bolt prints is some of what the
declared graph says for what the spouts have emitted, and if the spouts make no
more steps, the workers come to rest with all of it printed. -/
def Computes
    (undefined : String → GroupingScheme) (declared : Declarations)
    (behaviour : String → Behaviour) (height : Nat)
    (workers : String → List String) (deployment : Deployment) : Prop :=
  ∀ (trace : List Deployment.Action)
    (state : Deployment.State deployment) (history : History),
    (deployment.recorded undefined).Runs
      (deployment.recorded undefined).initial trace (state, history) →
    let meaning := printedFor (declaredGraph declared behaviour) behaviour
      (emitted (declaresBolt declared) workers history) height
    (∀ bolt ∈ declared.bolts,
      ((workers bolt.id).flatMap state.printed).Subperm (meaning bolt.id)) ∧
      Levels.Inevitable (Deployment.State.BoltStep undefined)
        (fun finish => finish.Quiet ∧ ∀ bolt ∈ declared.bolts,
          ((workers bolt.id).flatMap finish.printed).Perm (meaning bolt.id))
        state

namespace Diamond

/-- The lines of the spout go to two bolts: one splits them, and one keeps
those with a word.  What both write is counted together, the lines that are
kept are joined with words as well, and one bolt prints it all. -/
def calls : List BuilderCall :=
  [.setSpout "input" "InputSpout",
    .setBolt "split" "SplitSentenceBolt" 5,
    .setParent "split" "input" .shuffle,
    .setBolt "filter" "FilterBolt" 4,
    .setParent "filter" "input" .shuffle,
    .setBolt "wordcount" "WordCountBolt" 5,
    .setParent "wordcount" "split" .field,
    .setParent "wordcount" "filter" .field,
    .setBolt "join" "JoinBolt" 3,
    .setParent "join" "filter" .shuffle,
    .setBolt "print" "PrinterBolt" 1,
    .setParent "print" "wordcount" .field,
    .setParent "print" "join" .field]

/-- The path of the library with a class. -/
def path (runName : String) : String :=
  getLibraryLocalPath (getLibraryName "diamond" runName)

/-- The classes in the libraries. -/
def library (text : List UInt8) (file : String) : TopologyNodeBase :=
  if file = path "InputSpout" then InputSpout text
  else if file = path "SplitSentenceBolt" then WordCountTopology.EchoBolt
  else if file = path "WordCountBolt" then WordCountTopology.WordCountBolt
  else if file = path "FilterBolt" then FilterTopology.FilterBolt
  else if file = path "JoinBolt" then JoinTopology.JoinBolt
  else WordCountTopology.PrinterBolt

/-- What the bolts do. -/
def behaviour (name : String) : Behaviour :=
  if name = "split" then WordCountTopology.splitting
  else if name = "filter" then ⟨.each FilterTopology.write, fun _ => []⟩
  else if name = "wordcount" then WordCountTopology.counting
  else if name = "join" then JoinTopology.joining
  else printing 2

/-- The order of the nodes. -/
def rank (name : String) : Nat :=
  if name = "input" then 0
  else if name = "wordcount" ∨ name = "join" then 2
  else if name = "print" then 3
  else 1

/-- A printer prints two fields. -/
def required (name : String) : Nat :=
  if name = "print" then 2 else 1

/-- What is counted or joined has two fields. -/
def written (name : String) : Nat :=
  if name = "wordcount" ∨ name = "join" then 2 else 1

theorem bolts :
    (Declarations.ofCalls calls).bolts =
      [⟨"split", "SplitSentenceBolt", 5⟩, ⟨"filter", "FilterBolt", 4⟩,
        ⟨"wordcount", "WordCountBolt", 5⟩, ⟨"join", "JoinBolt", 3⟩,
        ⟨"print", "PrinterBolt", 1⟩] := by
  decide +kernel

theorem spouts :
    (Declarations.ofCalls calls).spouts = [⟨"input", "InputSpout"⟩] := by
  decide +kernel

/-- The classes by their names. -/
theorem classes (text : List UInt8) :
    library text (path "InputSpout") = InputSpout text ∧
      library text (path "SplitSentenceBolt") = WordCountTopology.EchoBolt ∧
      library text (path "FilterBolt") = FilterTopology.FilterBolt ∧
      library text (path "WordCountBolt") =
        WordCountTopology.WordCountBolt ∧
      library text (path "JoinBolt") = JoinTopology.JoinBolt ∧
      library text (path "PrinterBolt") = printer 2 := by
  refine ⟨?_, ?_, ?_, ?_, ?_, ?_⟩
  · rw [library, if_pos rfl]
  · rw [library, if_neg (by decide +kernel), if_pos rfl]
  · rw [library, if_neg (by decide +kernel), if_neg (by decide +kernel),
      if_neg (by decide +kernel), if_pos rfl]
  · rw [library, if_neg (by decide +kernel), if_neg (by decide +kernel),
      if_pos rfl]
  · rw [library, if_neg (by decide +kernel), if_neg (by decide +kernel),
      if_neg (by decide +kernel), if_neg (by decide +kernel), if_pos rfl]
  · rw [library, if_neg (by decide +kernel), if_neg (by decide +kernel),
      if_neg (by decide +kernel), if_neg (by decide +kernel),
      if_neg (by decide +kernel), WordCountTopology.PrinterBolt]

/-- Every node writes as many fields as its children need. -/
theorem accepted
    {name : String} {tuple : Crane.Tuple}
    (fields : written name ≤ tuple.data.length) :
    tuple.data ≠ [] ∧ ∀ edge ∈ (Declarations.ofCalls calls).edges,
      edge.parent = name → required edge.bolt ≤ tuple.data.length := by
  have enough : ∀ edge ∈ (Declarations.ofCalls calls).edges,
      required edge.bolt ≤ written edge.parent := by
    decide +kernel
  have positive : 0 < written name := by
    rw [written]
    split <;> decide
  refine ⟨List.length_pos_iff.mp (positive.trans_le fields), ?_⟩
  rintro edge isEdge rfl
  exact (enough edge isEdge).trans fields

theorem runs_of_produces
    {base : TopologyNodeBase} {name : String}
    (produces : Produces base (required name) (written name)) (node : base.Fields)
    (tuple : Crane.Tuple) (fields : required name ≤ tuple.data.length) :
    ∃ next tuples, base.runOnTuple node tuple = some (next, tuples) ∧
      ∀ produced ∈ tuples, produced.data ≠ [] ∧
        ∀ edge ∈ (Declarations.ofCalls calls).edges, edge.parent = name →
          required edge.bolt ≤ produced.data.length := by
  obtain ⟨next, tuples, isRun, written⟩ := produces node tuple fields
  exact ⟨next, tuples, isRun,
    fun produced isProduced => accepted (written produced isProduced)⟩

theorem sensible (text : List UInt8) :
    Sensible (.ofCalls calls) (fun runName => library text (path runName))
      behaviour (fun name tuple => required name ≤ tuple.data.length) rank 4
    where
  fed := by decide +kernel
  rises := by decide +kernel
  below := by decide +kernel
  known := by decide +kernel
  bolts := by decide +kernel
  spouts := by decide +kernel
  behaves := by
    obtain ⟨_, split, filter, wordcount, join, print⟩ := classes text
    have isField : allFields (.ofCalls calls) "wordcount" = true := by
      decide +kernel
    rw [bolts]
    simp only [List.forall_mem_cons]
    rw [split, filter, wordcount, join, print, isField]
    exact ⟨WordCountTopology.behaves_EchoBolt.byField _,
      FilterTopology.behaves_FilterBolt.byField _,
      WordCountTopology.behaves_WordCountBolt,
      JoinTopology.behaves_JoinBolt.byField _, behaves_printer.byField _,
      nofun⟩
  runs := by
    obtain ⟨_, split, filter, wordcount, join, print⟩ := classes text
    rw [bolts]
    simp only [List.forall_mem_cons]
    rw [split, filter, wordcount, join, print]
    exact ⟨runs_of_produces WordCountTopology.produces_EchoBolt,
      runs_of_produces FilterTopology.produces_FilterBolt,
      runs_of_produces WordCountTopology.produces_WordCountBolt,
      runs_of_produces (JoinTopology.produces_JoinBolt 1),
      runs_of_produces (produces_printer _), nofun⟩
  emits := by
    rw [spouts]
    simp only [List.forall_mem_cons]
    rw [(classes text).1]
    refine ⟨fun node next tuple isNext => accepted ?_, nofun⟩
    rw [data_of_nextTuple_InputSpout isNext]
    exact Nat.le_refl 1

end Diamond

end Streaming
end CraneSps
