import Mathlib.Data.Fintype.Card
import Mathlib.Data.Set.Finite.Basic
import Mathlib.Logic.Relation
import Mathlib.Order.WellFounded

/-!
# Depth-first traversal without a stop

A traversal that reports a vertex when it meets it for the first time, but
follows the children of a vertex every time.  It ends exactly if no infinite
path leaves the vertex it starts from, on a finite graph: if no reachable
vertex lies on a cycle.  Where it ends, it has reported each reachable vertex
once.
-/

namespace DepthFirst

variable {Vertex : Type*}

/-- The edges of the graph that is given by the children of its vertices. -/
def Child (children : Vertex → List Vertex) (parent child : Vertex) : Prop :=
  child ∈ children parent

/-- No infinite path leaves the vertex. -/
abbrev Ends (children : Vertex → List Vertex) (start : Vertex) : Prop :=
  Acc (Function.swap (Child children)) start

/-- No vertex that is reachable from the first one lies on a cycle. -/
def Acyclic (children : Vertex → List Vertex) (start : Vertex) : Prop :=
  ∀ vertex, Relation.ReflTransGen (Child children) start vertex →
    ¬ Relation.TransGen (Child children) vertex vertex

/-- What a traversal has met before or by itself, and what it has reported. -/
structure Traversal (Vertex : Type*) where
  met : List Vertex
  order : List Vertex

/-- A vertex that has not been met is reported. -/
def Traversal.meet [DecidableEq Vertex]
    (traversal : Traversal Vertex) (vertex : Vertex) : Traversal Vertex :=
  if vertex ∈ traversal.met then traversal
  else
    { met := traversal.met ++ [vertex]
      order := traversal.order ++ [vertex] }

/-- Traverse from a vertex; `none` says that the fuel does not suffice. -/
def traverse [DecidableEq Vertex] (children : Vertex → List Vertex) :
    Nat → Traversal Vertex → Vertex → Option (Traversal Vertex)
  | 0, _, _ => none
  | fuel + 1, traversal, vertex =>
      (children vertex).foldlM (traverse children fuel) (traversal.meet vertex)

variable {children : Vertex → List Vertex} {start : Vertex}

/-! ## Cycles -/

theorem Ends.of_reaches
    (ends : Ends children start) {vertex : Vertex}
    (reaches : Relation.ReflTransGen (Child children) start vertex) :
    Ends children vertex := by
  induction reaches with
  | refl => exact ends
  | tail _ isChild inductionHypothesis => exact inductionHypothesis.inv isChild

theorem Ends.not_cycle (ends : Ends children start) :
    ¬ Relation.TransGen (Child children) start start := by
  induction ends with
  | intro vertex _ inductionHypothesis =>
      intro cycle
      obtain ⟨child, isChild, returns⟩ := Relation.TransGen.head'_iff.mp cycle
      exact inductionHypothesis child isChild (.tail' returns isChild)

/-- Where every path ends, there are no cycles. -/
theorem Ends.acyclic (ends : Ends children start) : Acyclic children start :=
  fun _ reaches => (ends.of_reaches reaches).not_cycle

/-- In a finite graph without cycles, every path ends. -/
theorem Acyclic.ends
    (acyclic : Acyclic children start) {vertices : List Vertex}
    (closed : ∀ vertex ∈ vertices, ∀ child ∈ children vertex,
      child ∈ vertices)
    (inside : start ∈ vertices) : Ends children start := by
  -- The reachable vertices are finitely many, and paths order them strictly.
  let Reachable := { vertex : Vertex //
    vertex ∈ vertices ∧ Relation.ReflTransGen (Child children) start vertex }
  let leads (later earlier : Reachable) : Prop :=
    Relation.TransGen (Child children) earlier.1 later.1
  have finite : Finite Reachable :=
    (List.finite_toSet vertices).subset fun vertex isVertex => isVertex.1
  have isTrans : IsTrans Reachable leads :=
    ⟨fun _ _ _ first second => second.trans first⟩
  have irrefl : Std.Irrefl leads :=
    ⟨fun vertex => acyclic vertex.1 vertex.2.2⟩
  have wellFounded : WellFounded leads :=
    Finite.wellFounded_of_trans_of_irrefl leads
  have all (vertex : Reachable) : Ends children vertex.1 := by
    induction vertex using wellFounded.induction with
    | _ vertex inductionHypothesis =>
        constructor
        intro child isChild
        exact inductionHypothesis
          ⟨child, closed vertex.1 vertex.2.1 child isChild,
            vertex.2.2.tail isChild⟩ (.single isChild)
  exact all ⟨start, inside, .refl⟩

/-! ## Finished traversals -/

section Traverse

variable [DecidableEq Vertex]
variable {traversal next final : Traversal Vertex}
variable {vertex : Vertex} {vertices : List Vertex} {fuel more : Nat}

/-- The traversals from some vertices, one after the other, end. -/
inductive Finishes (children : Vertex → List Vertex) :
    Traversal Vertex → List Vertex → Traversal Vertex → Prop
  | nil (traversal : Traversal Vertex) :
      Finishes children traversal [] traversal
  | cons (traversal next final : Traversal Vertex)
      (vertex : Vertex) (vertices : List Vertex)
      (first : Finishes children (traversal.meet vertex) (children vertex) next)
      (rest : Finishes children next vertices final) :
      Finishes children traversal (vertex :: vertices) final

theorem foldlM_traverse_cons_eq_some_iff :
    (vertex :: vertices).foldlM (traverse children fuel) traversal =
        some final ↔
      ∃ next, traverse children fuel traversal vertex = some next ∧
        vertices.foldlM (traverse children fuel) next = some final := by
  rw [List.foldlM_cons]
  exact Option.bind_eq_some_iff

/-- Induction over traversals that have ended: over the fuel, and for each
amount over the vertices. -/
theorem traverse_induction
    {motive : Nat → Traversal Vertex → List Vertex → Traversal Vertex → Prop}
    (nil : ∀ fuel traversal, motive fuel traversal [] traversal)
    (cons : ∀ fuel traversal next final first vertices,
      motive fuel (traversal.meet first) (children first) next →
      motive (fuel + 1) next vertices final →
        motive (fuel + 1) traversal (first :: vertices) final)
    (traversed : vertices.foldlM (traverse children fuel) traversal =
      some final) :
    motive fuel traversal vertices final := by
  induction fuel generalizing traversal vertices final with
  | zero =>
      cases vertices with
      | nil =>
          obtain rfl := Option.some.inj traversed
          exact nil 0 traversal
      | cons first vertices =>
          obtain ⟨next, isNext, _⟩ :=
            foldlM_traverse_cons_eq_some_iff.mp traversed
          cases isNext
  | succ fuel inductionHypothesis =>
      induction vertices generalizing traversal with
      | nil =>
          obtain rfl := Option.some.inj traversed
          exact nil (fuel + 1) traversal
      | cons first vertices later =>
          obtain ⟨next, isNext, rest⟩ :=
            foldlM_traverse_cons_eq_some_iff.mp traversed
          exact cons fuel traversal next final first vertices
            (inductionHypothesis isNext) (later rest)

/-- More fuel does not change the result. -/
theorem foldlM_traverse_mono
    (enough : fuel ≤ more)
    (traversed : vertices.foldlM (traverse children fuel) traversal =
      some final) :
    vertices.foldlM (traverse children more) traversal = some final := by
  have anyMore : ∀ more, fuel ≤ more →
      vertices.foldlM (traverse children more) traversal = some final := by
    refine traverse_induction
      (motive := fun fuel traversal vertices final => ∀ more, fuel ≤ more →
        vertices.foldlM (traverse children more) traversal = some final)
      ?_ ?_ traversed
    · intro fuel traversal more enough
      rfl
    · intro fuel traversal next final first vertices now later more enough
      obtain ⟨more, rfl⟩ :=
        Nat.exists_eq_add_one.mpr (Nat.zero_lt_of_lt enough)
      exact foldlM_traverse_cons_eq_some_iff.mpr
        ⟨next, now more (Nat.le_of_succ_le_succ enough),
          later (more + 1) enough⟩
  exact anyMore more enough

/-- With enough fuel the traversals end as they finish. -/
theorem exists_foldlM_traverse_iff :
    (∃ fuel, vertices.foldlM (traverse children fuel) traversal =
      some final) ↔ Finishes children traversal vertices final := by
  constructor
  · rintro ⟨fuel, traversed⟩
    exact traverse_induction
      (motive := fun _ traversal vertices final =>
        Finishes children traversal vertices final)
      (fun _ traversal => .nil traversal)
      (fun _ traversal next final first vertices now later =>
        .cons traversal next final first vertices now later)
      traversed
  · intro finishes
    induction finishes with
    | nil traversal => exact ⟨0, rfl⟩
    | cons traversal next final vertex vertices _ _ first rest =>
        obtain ⟨fuel, isNext⟩ := first
        obtain ⟨more, isFinal⟩ := rest
        refine ⟨max fuel more + 1,
          foldlM_traverse_cons_eq_some_iff.mpr ⟨next, ?_, ?_⟩⟩
        · exact foldlM_traverse_mono (Nat.le_max_left fuel more) isNext
        · exact foldlM_traverse_mono
            (Nat.le_succ_of_le (Nat.le_max_right fuel more)) isFinal

/-- Where the traversal from each vertex finishes, they finish one after the
other. -/
theorem exists_finishes_of_forall
    (each : ∀ vertex ∈ vertices, ∀ traversal, ∃ next,
      Finishes children traversal (children vertex) next)
    (traversal : Traversal Vertex) :
    ∃ final, Finishes children traversal vertices final := by
  induction vertices generalizing traversal with
  | nil => exact ⟨traversal, .nil traversal⟩
  | cons first vertices inductionHypothesis =>
      obtain ⟨now, later⟩ := List.forall_mem_cons.mp each
      obtain ⟨next, isNext⟩ := now (traversal.meet first)
      obtain ⟨final, isFinal⟩ := inductionHypothesis later next
      exact ⟨final, .cons traversal next final first vertices isNext isFinal⟩

/-- Traversals finish exactly if every path from their vertices ends. -/
theorem exists_finishes_iff :
    (∃ final, Finishes children traversal vertices final) ↔
      ∀ vertex ∈ vertices, Ends children vertex := by
  constructor
  · rintro ⟨final, finishes⟩
    induction finishes with
    | nil traversal => exact fun _ isVertex => nomatch isVertex
    | cons traversal next final vertex vertices _ _ first rest =>
        exact List.forall_mem_cons.mpr ⟨.intro vertex first, rest⟩
  · intro ends
    refine exists_finishes_of_forall (fun vertex isVertex => ?_) traversal
    have isEnding := ends vertex isVertex
    clear isVertex
    induction isEnding with
    | intro vertex _ inductionHypothesis =>
        exact exists_finishes_of_forall inductionHypothesis

/-! ## What has been reported -/

/-- What every meeting preserves, the traversals preserve. -/
theorem Finishes.invariant
    (finishes : Finishes children traversal vertices final)
    (invariant : Traversal Vertex → Prop)
    (preserved : ∀ traversal vertex, invariant traversal →
      invariant (traversal.meet vertex))
    (initially : invariant traversal) : invariant final := by
  induction finishes with
  | nil traversal => exact initially
  | cons traversal next final vertex vertices _ _ first rest =>
      exact rest (first (preserved traversal vertex initially))

theorem Traversal.mem_met_meet_iff {other : Vertex} :
    other ∈ (traversal.meet vertex).met ↔
      other ∈ traversal.met ∨ other = vertex := by
  rw [meet]
  split
  · next isMet =>
      constructor
      · exact .inl
      · rintro (before | rfl)
        · exact before
        · exact isMet
  · rw [List.mem_append, List.mem_singleton]

/-- In the end, the vertices have been met that were met before or that are
reachable. -/
theorem Finishes.mem_met_iff
    (finishes : Finishes children traversal vertices final)
    {other : Vertex} :
    other ∈ final.met ↔ other ∈ traversal.met ∨
      ∃ vertex ∈ vertices,
        Relation.ReflTransGen (Child children) vertex other := by
  induction finishes with
  | nil traversal => simp
  | cons traversal next final vertex vertices _ _ first rest =>
      have reaches : Relation.ReflTransGen (Child children) vertex other ↔
          other = vertex ∨ ∃ child ∈ children vertex,
            Relation.ReflTransGen (Child children) child other :=
        Relation.ReflTransGen.cases_head_iff.trans (or_congr eq_comm .rfl)
      rw [rest, first, Traversal.mem_met_meet_iff, List.exists_mem_cons_iff,
        reaches, or_assoc, or_assoc, or_assoc]

/-- What has been reported was met since the start, and not twice. -/
structure Reports (before : List Vertex) (traversal : Traversal Vertex) :
    Prop where
  distinct : traversal.order.Nodup
  mem_iff : ∀ vertex, vertex ∈ traversal.met ↔
    vertex ∈ before ∨ vertex ∈ traversal.order
  isNew : ∀ vertex ∈ traversal.order, vertex ∉ before

omit [DecidableEq Vertex] in
theorem Reports.initial (met : List Vertex) : Reports met ⟨met, []⟩ where
  distinct := List.nodup_nil
  mem_iff := by simp
  isNew := nofun

theorem Reports.meet {before : List Vertex}
    (reports : Reports before traversal) (vertex : Vertex) :
    Reports before (traversal.meet vertex) := by
  rw [Traversal.meet]
  split
  · exact reports
  · next isNew =>
      rw [reports.mem_iff, not_or] at isNew
      refine ⟨?_, fun other => ?_, fun other isOther => ?_⟩
      · rw [List.nodup_append]
        refine ⟨reports.distinct, List.nodup_singleton vertex, ?_⟩
        rintro other isOther _ isVertex rfl
        exact isNew.2 (List.mem_singleton.mp isVertex ▸ isOther)
      · rw [List.mem_append, reports.mem_iff, List.mem_append, or_assoc]
      · rcases List.mem_append.mp isOther with before | now
        · exact reports.isNew other before
        · rw [List.mem_singleton.mp now]
          exact isNew.1

theorem Finishes.reports
    (finishes : Finishes children traversal vertices final)
    {before : List Vertex} (reports : Reports before traversal) :
    Reports before final :=
  finishes.invariant (Reports before) (fun _ vertex reports =>
    reports.meet vertex) reports

/-- If nothing has been met before, each reachable vertex is reported, and
once. -/
theorem Finishes.order
    (finishes : Finishes children ⟨[], []⟩ vertices final) :
    final.order.Nodup ∧ ∀ other, other ∈ final.order ↔
      ∃ vertex ∈ vertices,
        Relation.ReflTransGen (Child children) vertex other := by
  have reports := finishes.reports (.initial [])
  refine ⟨reports.distinct, fun other => ?_⟩
  have isMet := reports.mem_iff other
  rw [finishes.mem_met_iff] at isMet
  simpa using isMet.symm

/-! ## Other representations -/

/-- A recursion that keeps a traversal in a state of its own. -/
structure Simulates
    (children : Vertex → List Vertex) (inside : Vertex → Prop)
    {State : Type*} (state : Traversal Vertex → State)
    (visit : Nat → State → Vertex → Option State) : Prop where
  closed : ∀ vertex, inside vertex → ∀ child ∈ children vertex, inside child
  zero : ∀ state vertex, visit 0 state vertex = none
  succ : ∀ fuel traversal vertex, inside vertex →
    visit (fuel + 1) (state traversal) vertex =
      (children vertex).foldlM (visit fuel) (state (traversal.meet vertex))

variable {inside : Vertex → Prop} {State : Type*}
variable {state : Traversal Vertex → State}
variable {visit : Nat → State → Vertex → Option State}

omit [DecidableEq Vertex] in
/-- If single steps agree, the loops over some vertices do. -/
theorem foldlM_eq_map_of_forall
    {step : State → Vertex → Option State}
    {move : Traversal Vertex → Vertex → Option (Traversal Vertex)}
    (agree : ∀ vertex ∈ vertices, ∀ traversal,
      step (state traversal) vertex = (move traversal vertex).map state)
    (traversal : Traversal Vertex) :
    vertices.foldlM step (state traversal) =
      (vertices.foldlM move traversal).map state := by
  induction vertices generalizing traversal with
  | nil => rfl
  | cons first vertices inductionHypothesis =>
      obtain ⟨now, later⟩ := List.forall_mem_cons.mp agree
      rw [List.foldlM_cons, List.foldlM_cons, now traversal]
      cases move traversal first with
      | none => rfl
      | some next => exact inductionHypothesis later next

theorem Simulates.step
    (simulates : Simulates children inside state visit)
    (isInside : inside vertex) :
    visit fuel (state traversal) vertex =
      (traverse children fuel traversal vertex).map state := by
  induction fuel generalizing traversal vertex with
  | zero => exact simulates.zero _ vertex
  | succ fuel inductionHypothesis =>
      rw [simulates.succ fuel traversal vertex isInside, traverse]
      refine foldlM_eq_map_of_forall (fun child isChild _ => ?_) _
      exact inductionHypothesis
        (simulates.closed vertex isInside child isChild)

/-- The recursion carries out the same traversals. -/
theorem Simulates.foldlM
    (simulates : Simulates children inside state visit)
    (areInside : ∀ vertex ∈ vertices, inside vertex) :
    vertices.foldlM (visit fuel) (state traversal) =
      (vertices.foldlM (traverse children fuel) traversal).map state :=
  foldlM_eq_map_of_forall
    (fun vertex isVertex _ => simulates.step (areInside vertex isVertex)) _

end Traverse

end DepthFirst
