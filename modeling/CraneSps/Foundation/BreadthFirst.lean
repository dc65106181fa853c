import Mathlib.Data.List.Nodup
import Mathlib.Data.List.Perm.Subperm
import Mathlib.Logic.Relation

/-!
# Breadth-first search

A search takes vertices from the front of a queue and appends the children
that have not been found before.  Started with distinct vertices it ends, on
every graph in which finitely many vertices are reachable, and it visits each
reachable vertex once.
-/

namespace BreadthFirst

variable {Vertex : Type*} [DecidableEq Vertex]

/-- The vertices of a list that have not been found, each once. -/
def fresh : List Vertex → List Vertex → List Vertex
  | _, [] => []
  | found, vertex :: vertices =>
      if vertex ∈ found then fresh found vertices
      else vertex :: fresh (found ++ [vertex]) vertices

/-- The vertices in the order in which they leave the queue, if the search
ends with the given fuel. -/
def search (children : Vertex → List Vertex) :
    Nat → List Vertex → List Vertex → Option (List Vertex)
  | 0, _, _ => none
  | _ + 1, _, [] => some []
  | fuel + 1, found, vertex :: queue =>
      let new := fresh found (children vertex)
      (search children fuel (found ++ new) (queue ++ new)).map
        fun order => vertex :: order

/-- One vertex leads to another along children. -/
def Reaches (children : Vertex → List Vertex) : Vertex → Vertex → Prop :=
  Relation.ReflTransGen fun parent child => child ∈ children parent

variable {children : Vertex → List Vertex} {found queue order : List Vertex}
variable {vertex : Vertex} {fuel : Nat}

theorem mem_fresh_iff {vertices : List Vertex} :
    vertex ∈ fresh found vertices ↔ vertex ∈ vertices ∧ vertex ∉ found := by
  induction vertices generalizing found with
  | nil => simp [fresh]
  | cons first vertices inductionHypothesis =>
      rw [fresh]
      split
      · next isFound =>
          rw [inductionHypothesis, List.mem_cons]
          constructor
          · rintro ⟨later, isNew⟩
            exact ⟨.inr later, isNew⟩
          · rintro ⟨rfl | later, isNew⟩
            · exact absurd isFound isNew
            · exact ⟨later, isNew⟩
      · next isNew =>
          rw [List.mem_cons, inductionHypothesis, List.mem_cons,
            List.mem_append, List.mem_singleton, not_or]
          by_cases same : vertex = first
          · simp [same, isNew]
          · simp [same]

theorem nodup_fresh {vertices : List Vertex} :
    (fresh found vertices).Nodup := by
  induction vertices generalizing found with
  | nil => exact List.nodup_nil
  | cons first vertices inductionHypothesis =>
      rw [fresh]
      split
      · exact inductionHypothesis
      · refine List.nodup_cons.mpr ⟨fun again => ?_, inductionHypothesis⟩
        exact (mem_fresh_iff.mp again).2
          (List.mem_append_right _ (List.mem_singleton_self _))

/-- A finished search has taken the first vertex of a queue and gone on. -/
theorem search_cons_eq_some_iff :
    search children (fuel + 1) found (vertex :: queue) = some order ↔
      ∃ rest, search children fuel
          (found ++ fresh found (children vertex))
          (queue ++ fresh found (children vertex)) = some rest ∧
        vertex :: rest = order := by
  simp [search]

/-- Induction over a finished search. -/
@[elab_as_elim]
theorem search_induction
    {motive : List Vertex → List Vertex → List Vertex → Prop}
    (searched : search children fuel found queue = some order)
    (nil : ∀ found, motive found [] [])
    (cons : ∀ fuel found first queue rest,
      search children fuel (found ++ fresh found (children first))
        (queue ++ fresh found (children first)) = some rest →
      motive (found ++ fresh found (children first))
        (queue ++ fresh found (children first)) rest →
      motive found (first :: queue) (first :: rest)) :
    motive found queue order := by
  induction fuel generalizing found queue order with
  | zero => cases searched
  | succ fuel inductionHypothesis =>
      cases queue with
      | nil =>
          obtain rfl := Option.some.inj searched
          exact nil found
      | cons first queue =>
          obtain ⟨rest, isRest, rfl⟩ := search_cons_eq_some_iff.mp searched
          exact cons fuel found first queue rest isRest
            (inductionHypothesis isRest)

/-- Only vertices are visited that are in the queue or have not been found. -/
theorem mem_queue_or_notMem_found
    (searched : search children fuel found queue = some order)
    (visited : vertex ∈ order) : vertex ∈ queue ∨ vertex ∉ found := by
  revert visited
  refine search_induction searched (fun found visited => ?_)
    fun _ found first queue rest isRest inductionHypothesis visited => ?_
  · cases visited
  · rcases List.mem_cons.mp visited with rfl | later
    · exact .inl List.mem_cons_self
    · rcases inductionHypothesis later with waits | isNew
      · rcases List.mem_append.mp waits with waited | isFresh
        · exact .inl (List.mem_cons_of_mem _ waited)
        · exact .inr (mem_fresh_iff.mp isFresh).2
      · exact .inr fun isFound => isNew (List.mem_append_left _ isFound)

/-- The queue consists of distinct found vertices, and it still does after a
step. -/
structure Waiting (found queue : List Vertex) : Prop where
  distinct : queue.Nodup
  found : ∀ vertex ∈ queue, vertex ∈ found

theorem Waiting.step
    (waiting : Waiting found (vertex :: queue)) (vertices : List Vertex) :
    Waiting (found ++ fresh found vertices)
      (queue ++ fresh found vertices) where
  distinct := by
    refine List.Nodup.append (List.nodup_cons.mp waiting.distinct).2
      nodup_fresh ?_
    intro other waits isFresh
    exact (mem_fresh_iff.mp isFresh).2
      (waiting.found other (List.mem_cons_of_mem _ waits))
  found := by
    intro other waits
    rcases List.mem_append.mp waits with waited | isFresh
    · exact List.mem_append_left _
        (waiting.found other (List.mem_cons_of_mem _ waited))
    · exact List.mem_append_right _ isFresh

/-- No vertex is visited twice. -/
theorem nodup_search
    (searched : search children fuel found queue = some order)
    (waiting : Waiting found queue) : order.Nodup := by
  revert waiting
  refine search_induction searched (fun _ _ => List.nodup_nil)
    fun _ found first queue rest isRest inductionHypothesis waiting => ?_
  have later := waiting.step (children first)
  refine List.nodup_cons.mpr ⟨fun again => ?_, inductionHypothesis later⟩
  have isFound := waiting.found first List.mem_cons_self
  rcases mem_queue_or_notMem_found isRest again with waits | isNew
  · rcases List.mem_append.mp waits with waited | isFresh
    · exact (List.nodup_cons.mp waiting.distinct).1 waited
    · exact (mem_fresh_iff.mp isFresh).2 isFound
  · exact isNew (List.mem_append_left _ isFound)

/-- The vertices of the queue are visited. -/
theorem queue_subset_search
    (searched : search children fuel found queue = some order)
    (waits : vertex ∈ queue) : vertex ∈ order := by
  revert waits
  refine search_induction searched (fun found waits => ?_)
    fun _ found first queue rest _ inductionHypothesis waits => ?_
  · cases waits
  · rcases List.mem_cons.mp waits with rfl | later
    · exact List.mem_cons_self
    · exact List.mem_cons_of_mem _
        (inductionHypothesis (List.mem_append_left _ later))

/-- Every child of a visited vertex has been found or is visited. -/
theorem children_of_mem_search
    (searched : search children fuel found queue = some order)
    (visited : vertex ∈ order) {child : Vertex}
    (isChild : child ∈ children vertex) : child ∈ found ∨ child ∈ order := by
  revert visited
  refine search_induction searched (fun found visited => ?_)
    fun _ found first queue rest isRest inductionHypothesis visited => ?_
  · cases visited
  · have visitFresh (isFresh : child ∈ fresh found (children first)) :
        child ∈ first :: rest :=
      List.mem_cons_of_mem _
        (queue_subset_search isRest (List.mem_append_right _ isFresh))
    rcases List.mem_cons.mp visited with rfl | later
    · by_cases isFound : child ∈ found
      · exact .inl isFound
      · exact .inr (visitFresh (mem_fresh_iff.mpr ⟨isChild, isFound⟩))
    · rcases inductionHypothesis later with before | after
      · rcases List.mem_append.mp before with isFound | isFresh
        · exact .inl isFound
        · exact .inr (visitFresh isFresh)
      · exact .inr (List.mem_cons_of_mem _ after)

/-- Every visited vertex is reachable from the queue. -/
theorem reaches_of_mem_search
    (searched : search children fuel found queue = some order)
    (visited : vertex ∈ order) :
    ∃ start ∈ queue, Reaches children start vertex := by
  revert visited
  refine search_induction searched (fun found visited => ?_)
    fun _ found first queue rest _ inductionHypothesis visited => ?_
  · cases visited
  · rcases List.mem_cons.mp visited with rfl | later
    · exact ⟨vertex, List.mem_cons_self, .refl⟩
    · obtain ⟨start, waits, reaches⟩ := inductionHypothesis later
      rcases List.mem_append.mp waits with waited | isFresh
      · exact ⟨start, List.mem_cons_of_mem _ waited, reaches⟩
      · exact ⟨first, List.mem_cons_self,
          .head (mem_fresh_iff.mp isFresh).1 reaches⟩

/-- A search from distinct vertices visits exactly what is reachable from
them. -/
theorem mem_search_iff
    {starts : List Vertex}
    (searched : search children fuel starts starts = some order) :
    vertex ∈ order ↔ ∃ start ∈ starts, Reaches children start vertex := by
  refine ⟨reaches_of_mem_search searched, ?_⟩
  rintro ⟨start, isStart, reaches⟩
  induction reaches with
  | refl => exact queue_subset_search searched isStart
  | tail _ isChild inductionHypothesis =>
      rcases children_of_mem_search searched inductionHypothesis isChild with
        isFound | visited
      · exact queue_subset_search searched isFound
      · exact visited

/-- Among finitely many vertices, the search ends when all have been found and
the queue is empty. -/
theorem exists_search
    {vertices : List Vertex}
    (closed : ∀ vertex ∈ vertices, ∀ child ∈ children vertex,
      child ∈ vertices)
    (waiting : Waiting found queue)
    (distinct : found.Nodup)
    (inside : ∀ vertex ∈ found, vertex ∈ vertices)
    (enough : queue.length + vertices.length < fuel + found.length) :
    ∃ order, search children fuel found queue = some order := by
  have fits : found.length ≤ vertices.length :=
    (distinct.subperm inside).length_le
  induction fuel generalizing found queue with
  | zero => omega
  | succ fuel inductionHypothesis =>
      cases queue with
      | nil => exact ⟨[], rfl⟩
      | cons first queue =>
          have newDistinct :
              (found ++ fresh found (children first)).Nodup := by
            refine distinct.append nodup_fresh ?_
            intro other isFound isFresh
            exact (mem_fresh_iff.mp isFresh).2 isFound
          have newInside :
              ∀ vertex ∈ found ++ fresh found (children first),
                vertex ∈ vertices := by
            intro other present
            rcases List.mem_append.mp present with isFound | isFresh
            · exact inside other isFound
            · exact closed first
                (inside first (waiting.found first List.mem_cons_self)) other
                (mem_fresh_iff.mp isFresh).1
          obtain ⟨rest, isRest⟩ := inductionHypothesis
            (waiting.step (children first)) newDistinct newInside (by
              simp only [List.length_append, List.length_cons] at enough ⊢
              omega)
            (newDistinct.subperm newInside).length_le
          exact ⟨first :: rest, search_cons_eq_some_iff.mpr
            ⟨rest, isRest, rfl⟩⟩

end BreadthFirst
