import Mathlib.Data.Fintype.Card
import Mathlib.Data.Set.Finite.Basic
import Mathlib.Logic.Relation
import Mathlib.Order.WellFounded

/-!
# Graphs of waits without cycles

A graph is acyclic if no vertex leads back to itself.  New edges from one
vertex close a cycle exactly if one of their ends already leads to it, and a
graph in which everybody waits for somebody who waits is cyclic.
-/

namespace WaitGraph

variable {Vertex : Type*} {waits fewer : Vertex → Vertex → Prop}

/-- No vertex leads back to itself. -/
def Acyclic (waits : Vertex → Vertex → Prop) : Prop :=
  ∀ vertex, ¬ Relation.TransGen waits vertex vertex

/-- The graph with edges from one more vertex. -/
def addEdges
    (waits : Vertex → Vertex → Prop) (source : Vertex)
    (targets : List Vertex) (first second : Vertex) : Prop :=
  waits first second ∨ first = source ∧ second ∈ targets

theorem Acyclic.mono
    (acyclic : Acyclic waits)
    (subgraph : ∀ first second, fewer first second → waits first second) :
    Acyclic fewer := fun vertex cycle =>
  acyclic vertex (Relation.TransGen.mono subgraph _ _ cycle)

/-- A walk that uses a new edge reaches its source before and leaves from its
end after. -/
theorem transGen_of_addEdges
    {source : Vertex} {targets : List Vertex} {first last : Vertex}
    (isOpen : ∀ target ∈ targets, ¬ Relation.ReflTransGen waits target source)
    (walk : Relation.TransGen (addEdges waits source targets) first last) :
    Relation.TransGen waits first last ∨
      Relation.ReflTransGen waits first source ∧
        ∃ target ∈ targets, Relation.ReflTransGen waits target last := by
  induction walk with
  | single edge =>
      rcases edge with old | ⟨rfl, isTarget⟩
      · exact .inl (.single old)
      · exact .inr ⟨.refl, _, isTarget, .refl⟩
  | tail _ edge inductionHypothesis =>
      rcases edge with old | ⟨rfl, isTarget⟩
      · rcases inductionHypothesis with
          before | ⟨reaches, target, isTarget, leaves⟩
        · exact .inl (before.tail old)
        · exact .inr ⟨reaches, target, isTarget, leaves.tail old⟩
      · rcases inductionHypothesis with before | ⟨_, target, other, leaves⟩
        · exact .inr ⟨before.to_reflTransGen, _, isTarget, .refl⟩
        · exact absurd leaves (isOpen target other)

/-- New edges close no cycle exactly if none of their ends leads to their
source. -/
theorem acyclic_addEdges_iff
    {source : Vertex} {targets : List Vertex} (acyclic : Acyclic waits) :
    Acyclic (addEdges waits source targets) ↔
      ∀ target ∈ targets, ¬ Relation.ReflTransGen waits target source := by
  constructor
  · intro stillAcyclic target isTarget reaches
    have old : ∀ first second, waits first second →
        addEdges waits source targets first second := fun _ _ => .inl
    exact stillAcyclic source
      (.head' (.inr ⟨rfl, isTarget⟩)
        (Relation.ReflTransGen.mono old _ _ reaches))
  · intro isOpen vertex cycle
    rcases transGen_of_addEdges isOpen cycle with
      before | ⟨reaches, target, isTarget, leaves⟩
    · exact acyclic vertex before
    · exact isOpen target isTarget (leaves.trans reaches)

/-- A cycle does not use the edges to vertices that wait for nobody. -/
theorem not_acyclic_of_mem_cycle
    (cyclic : ¬ Acyclic waits)
    (kept : ∀ first second, waits first second →
      (∃ third, waits second third) → fewer first second) :
    ¬ Acyclic fewer := by
  have walk {first last next : Vertex}
      (old : Relation.TransGen waits first last) (edge : waits last next) :
      Relation.TransGen fewer first last := by
    induction old generalizing next with
    | single before => exact .single (kept _ _ before ⟨next, edge⟩)
    | tail _ before inductionHypothesis =>
        exact (inductionHypothesis before).tail (kept _ _ before ⟨next, edge⟩)
  intro acyclic
  apply cyclic
  intro vertex cycle
  obtain ⟨next, edge, _⟩ := Relation.TransGen.head'_iff.mp cycle
  exact acyclic vertex (walk cycle edge)

/-- If each of finitely many vertices waits for one of them, there is a
cycle. -/
theorem not_acyclic_of_forall_exists
    {vertices : List Vertex} {start : Vertex} (isVertex : start ∈ vertices)
    (everybody : ∀ vertex ∈ vertices, ∃ next ∈ vertices,
      waits vertex next) :
    ¬ Acyclic waits := by
  classical
  intro acyclic
  let later (first second : { vertex // vertex ∈ vertices }) : Prop :=
    Relation.TransGen waits second.val first.val
  have : IsTrans _ later := ⟨fun _ _ _ first second => second.trans first⟩
  have : Std.Irrefl later := ⟨fun vertex => acyclic vertex.val⟩
  have : Finite { vertex // vertex ∈ vertices } :=
    (List.finite_toSet vertices).to_subtype
  have wellFounded := Finite.wellFounded_of_trans_of_irrefl later
  obtain ⟨⟨last, isLast⟩, _, isMinimal⟩ :=
    wellFounded.has_min Set.univ ⟨⟨start, isVertex⟩, trivial⟩
  obtain ⟨next, isNext, edge⟩ := everybody last isLast
  exact isMinimal ⟨next, isNext⟩ trivial (.single edge)

end WaitGraph
