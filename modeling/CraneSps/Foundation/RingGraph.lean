import Mathlib.Data.Finset.Card
import Mathlib.Data.Set.Basic
import Mathlib.Logic.Relation
import Mathlib.Order.Interval.Finset.Nat

/-!
# Connected sets of a directed graph, and rings

In a ring every place has edges to the `reach` places before it.  When fewer
than `reach` places are taken away, the remaining ones are still strongly
connected: some place before the current one always remains, and a place that
is close enough is reached directly.
-/

/-! ## Strong connectivity -/

section StronglyConnected

variable {Node Other : Type*}

/-- The edges between the given nodes. -/
def EdgeWithin (edge : Node → Node → Prop) (nodes : Set Node)
    (source target : Node) : Prop :=
  source ∈ nodes ∧ target ∈ nodes ∧ edge source target

/-- Every node is reached from every other one without leaving the set. -/
def StronglyConnected (edge : Node → Node → Prop) (nodes : Set Node) :
    Prop :=
  ∀ source ∈ nodes, ∀ target ∈ nodes,
    Relation.ReflTransGen (EdgeWithin edge nodes) source target

/-- The last edge of a path to another node. -/
theorem StronglyConnected.exists_edge_to
    {edge : Node → Node → Prop} {nodes : Set Node} {source target : Node}
    (connected : StronglyConnected edge nodes)
    (hasSource : source ∈ nodes) (hasTarget : target ∈ nodes)
    (differs : source ≠ target) :
    ∃ last ∈ nodes, edge last target := by
  cases connected source hasSource target hasTarget with
  | refl => exact absurd rfl differs
  | tail _ lastEdge => exact ⟨_, lastEdge.1, lastEdge.2.2⟩

/-- Nodes that are numbered by the nodes of a connected set, so that edges
between numbers are edges between nodes, are connected as well. -/
theorem StronglyConnected.of_numbering
    {edge : Node → Node → Prop} {nodes : Set Node}
    {otherEdge : Other → Other → Prop} {others : Set Other}
    (connected : StronglyConnected edge nodes) (number : Other → Node)
    (edges : ∀ source ∈ others, ∀ target ∈ others,
      edge (number source) (number target) → otherEdge source target)
    (maps : ∀ other ∈ others, number other ∈ nodes)
    (onto : ∀ node ∈ nodes, ∃ other ∈ others, number other = node)
    (distinct : ∀ first ∈ others, ∀ second ∈ others,
      number first = number second → first = second) :
    StronglyConnected otherEdge others := by
  intro source hasSource target hasTarget
  have path := connected _ (maps source hasSource) _ (maps target hasTarget)
  generalize isNumber : number target = finish at path
  induction path generalizing target with
  | refl =>
      rw [distinct target hasTarget source hasSource isNumber]
  | tail _ lastEdge inductionHypothesis =>
      obtain ⟨hasMiddle, _, isEdge⟩ := lastEdge
      obtain ⟨middle, isOther, middleNumber⟩ := onto _ hasMiddle
      subst isNumber
      subst middleNumber
      exact (inductionHypothesis middle isOther rfl).tail
        ⟨isOther, hasTarget, edges middle isOther target hasTarget isEdge⟩

/-- A set in which all nodes are joined is connected. -/
theorem stronglyConnected_of_complete
    {edge : Node → Node → Prop} {nodes : Set Node}
    (complete : ∀ source ∈ nodes, ∀ target ∈ nodes, source ≠ target →
      edge source target) :
    StronglyConnected edge nodes := by
  intro source hasSource target hasTarget
  by_cases same : source = target
  · rw [same]
  · exact .single ⟨hasSource, hasTarget,
      complete source hasSource target hasTarget same⟩

/-- A node is reached over at most so many edges, all of which leave nodes of
the set. -/
def ReachedIn (edge : Node → Node → Prop) (nodes : Set Node) :
    Nat → Node → Node → Prop
  | 0, source, target => source = target
  | hops + 1, source, target =>
      ReachedIn edge nodes hops source target ∨
        (source ∈ nodes ∧ ∃ middle, edge source middle ∧
          ReachedIn edge nodes hops middle target)

theorem ReachedIn.refl
    {edge : Node → Node → Prop} {nodes : Set Node} (hops : Nat)
    (node : Node) : ReachedIn edge nodes hops node node := by
  induction hops with
  | zero => rfl
  | succ hops inductionHypothesis => exact .inl inductionHypothesis

theorem ReachedIn.of_edge
    {edge : Node → Node → Prop} {nodes : Set Node} {hops : Nat}
    {source target : Node} (hasSource : source ∈ nodes)
    (isEdge : edge source target) (some : 1 ≤ hops) :
    ReachedIn edge nodes hops source target := by
  obtain ⟨fewer, rfl⟩ := Nat.exists_eq_add_of_le' some
  exact .inr ⟨hasSource, target, isEdge, .refl fewer target⟩

/-- Nodes that are numbered by other nodes are reached over as many edges. -/
theorem ReachedIn.of_numbering
    {edge : Node → Node → Prop} {nodes : Set Node}
    {otherEdge : Other → Other → Prop} {others remaining : Set Other}
    {hops : Nat} {source target : Other} (number : Other → Node)
    (edges : ∀ source ∈ others, ∀ node, edge (number source) node →
      ∃ target ∈ others, number target = node ∧ otherEdge source target)
    (remain : ∀ other ∈ others, number other ∈ nodes → other ∈ remaining)
    (distinct : ∀ first ∈ others, ∀ second ∈ others,
      number first = number second → first = second)
    (hasSource : source ∈ others) (hasTarget : target ∈ others)
    (reached : ReachedIn edge nodes hops (number source) (number target)) :
    ReachedIn otherEdge remaining hops source target := by
  induction hops generalizing source with
  | zero => exact distinct source hasSource target hasTarget reached
  | succ hops inductionHypothesis =>
      rcases reached with nearer | ⟨hasNumber, node, isEdge, nearer⟩
      · exact .inl (inductionHypothesis hasSource nearer)
      · obtain ⟨middle, isOther, rfl, otherIsEdge⟩ :=
          edges source hasSource node isEdge
        exact .inr ⟨remain source hasSource hasNumber, middle, otherIsEdge,
          inductionHypothesis isOther nearer⟩

end StronglyConnected

namespace RingGraph

variable {size reach place other steps : Nat}

/-- The place that is some steps before another one. -/
def back (size place steps : Nat) : Nat :=
  (place + size - steps) % size

/-- The edges to the places before. -/
def Edge (size reach source target : Nat) : Prop :=
  ∃ steps, 1 ≤ steps ∧ steps ≤ reach ∧ back size source steps = target

theorem back_eq (inside : place < size) (short : steps ≤ size) :
    back size place steps =
      if steps ≤ place then place - steps else place + size - steps := by
  unfold back
  split
  · next within =>
      rw [show place + size - steps = place - steps + size by omega,
        Nat.add_mod_right, Nat.mod_eq_of_lt (by omega)]
  · next around => exact Nat.mod_eq_of_lt (by omega)

theorem back_lt (positive : 0 < size) : back size place steps < size :=
  Nat.mod_lt _ positive

/-- No place is before itself by less than a whole round. -/
theorem back_ne_self
    (inside : place < size) (some : 1 ≤ steps) (short : steps < size) :
    back size place steps ≠ place := by
  rw [back_eq inside short.le]
  split <;> omega

/-- Different numbers of steps lead to different places. -/
theorem back_inj
    {otherSteps : Nat} (inside : place < size)
    (some : 1 ≤ steps) (short : steps ≤ size)
    (otherSome : 1 ≤ otherSteps) (otherShort : otherSteps ≤ size)
    (same : back size place steps = back size place otherSteps) :
    steps = otherSteps := by
  rw [back_eq inside short, back_eq inside otherShort] at same
  split at same <;> split at same <;> omega

/-- One of the places before remains. -/
theorem exists_remaining
    {failed : Finset Nat} (inside : place < size) (short : reach ≤ size)
    (few : failed.card < reach) :
    ∃ steps, 1 ≤ steps ∧ steps ≤ reach ∧
      back size place steps ∉ failed := by
  have distinct : ((Finset.Icc 1 reach).image (back size place)).card =
      reach := by
    rw [Finset.card_image_of_injOn, Nat.card_Icc, Nat.add_sub_cancel]
    intro first isFirst second isSecond same
    rw [Finset.mem_coe, Finset.mem_Icc] at isFirst isSecond
    exact back_inj inside isFirst.1 (isFirst.2.trans short) isSecond.1
      (isSecond.2.trans short) same
  obtain ⟨before, isBefore, remains⟩ :=
    Finset.exists_mem_notMem_of_card_lt_card (few.trans_eq distinct.symm)
  obtain ⟨steps, range, rfl⟩ := Finset.mem_image.mp isBefore
  exact ⟨steps, (Finset.mem_Icc.mp range).1, (Finset.mem_Icc.mp range).2,
    remains⟩

/-- The steps from one place back to another. -/
theorem exists_steps (inside : place < size) (otherInside : other < size) :
    ∃ steps < size, back size place steps = other := by
  by_cases before : other ≤ place
  · refine ⟨place - other, by omega, ?_⟩
    rw [back_eq inside (by omega), if_pos (by omega)]
    omega
  · refine ⟨place + size - other, by omega, ?_⟩
    rw [back_eq inside (by omega), if_neg (by omega)]
    omega

/-- Part of the way back leaves the rest. -/
theorem back_back
    {part : Nat} (inside : place < size) (short : steps ≤ size)
    (within : part ≤ steps) :
    back size (back size place part) (steps - part) =
      back size place steps := by
  have partInside : back size place part < size := back_lt (by omega)
  rw [back_eq partInside (by omega), back_eq inside (by omega),
    back_eq inside short]
  split <;> split <;> split <;> omega

/-- The remaining places of a ring are strongly connected. -/
theorem stronglyConnected
    {failed : Finset Nat} (short : reach ≤ size) (few : failed.card < reach) :
    StronglyConnected (Edge size reach)
      {place | place < size ∧ place ∉ failed} := by
  rintro source ⟨sourceInside, sourceRemains⟩ target
    ⟨targetInside, targetRemains⟩
  obtain ⟨steps, bound, rfl⟩ := exists_steps sourceInside targetInside
  -- the way back gets shorter with every edge
  induction steps using Nat.strongRecOn generalizing source with
  | ind steps inductionHypothesis =>
      rcases Nat.eq_zero_or_pos steps with rfl | some
      · rw [back_eq sourceInside (Nat.zero_le size), if_pos (Nat.zero_le _)]
        exact .refl
      · by_cases direct : steps ≤ reach
        · exact .single ⟨⟨sourceInside, sourceRemains⟩,
            ⟨targetInside, targetRemains⟩, steps, some, direct, rfl⟩
        · obtain ⟨part, partSome, partShort, partRemains⟩ :=
            exists_remaining sourceInside short few
          have partInside : back size source part < size :=
            back_lt (by omega)
          have rest := back_back sourceInside bound.le
            (show part ≤ steps by omega)
          refine .head ⟨⟨sourceInside, sourceRemains⟩,
            ⟨partInside, partRemains⟩, part, partSome, partShort, rfl⟩ ?_
          rw [← rest]
          rw [← rest] at targetInside targetRemains
          exact inductionHypothesis (steps - part) (by omega) _ partInside
            partRemains (by omega) targetInside targetRemains

/-! ## How far it is around a ring -/

/-- The farthest remaining one of the places that are reached directly. -/
theorem exists_farthest
    {failed : Finset Nat} {origin position : Nat} (inside : origin < size)
    (within : position + reach ≤ size) (few : failed.card < reach) :
    ∃ next, position < next ∧ next ≤ position + reach ∧
      back size origin next ∉ failed ∧
      ∀ later, next < later → later ≤ position + reach →
        back size origin later ∈ failed := by
  have here : back size origin position < size := back_lt (by omega)
  obtain ⟨steps, some, short, remains⟩ :=
    exists_remaining here (by omega) few
  rw [show steps = position + steps - position by omega,
    back_back inside (by omega) (by omega)] at remains
  have atLeast := Nat.le_findGreatest
    (P := fun next => back size origin next ∉ failed)
    (show position + steps ≤ position + reach by omega) remains
  refine ⟨_, by omega, Nat.findGreatest_le _, Nat.findGreatest_spec
    (P := fun next => back size origin next ∉ failed)
    (show position + steps ≤ position + reach by omega) remains, ?_⟩
  intro later isLater bound
  exact not_not.mp (Nat.findGreatest_is_greatest
    (P := fun next => back size origin next ∉ failed) isLater bound)

/-- The failed places among some positions. -/
def lost (size : Nat) (failed : Finset Nat) (origin start finish : Nat) :
    Finset Nat :=
  (Finset.Ioc start finish).filter fun position =>
    back size origin position ∈ failed

/-- Every edge to the farthest remaining place gets ahead by the reach, less
the failed places that it cannot use. -/
theorem reachedIn_of_position
    {failed : Finset Nat} {origin position skipped total hops : Nat}
    (inside : origin < size) (short : total ≤ size)
    (few : failed.card < reach) (ahead : position ≤ total)
    (remains : back size origin position ∉ failed)
    (unusable : ∀ later, position < later → later ≤ skipped →
      back size origin later ∈ failed)
    (enough : total - position + (lost size failed origin skipped total).card ≤
      hops * reach) :
    ReachedIn (Edge size reach) {place | place < size ∧ place ∉ failed} hops
      (back size origin position) (back size origin total) := by
  induction hops generalizing position skipped with
  | zero =>
      obtain rfl : position = total := by omega
      exact .refl 0 _
  | succ hops inductionHypothesis =>
      have here : back size origin position < size := back_lt (by omega)
      rcases Nat.eq_or_lt_of_le ahead with rfl | ahead
      · exact .refl _ _
      by_cases direct : total ≤ position + reach
      · refine .of_edge ⟨here, remains⟩ ⟨total - position, by omega, by omega,
          back_back inside short (by omega)⟩ (by omega)
      · obtain ⟨next, isAhead, near, nextRemains, farther⟩ :=
          exists_farthest inside (show position + reach ≤ size by omega) few
        have usable : skipped < next := by
          by_contra skips
          exact nextRemains (unusable next isAhead (by omega))
        -- what this edge cannot use is not counted again
        have split : (Finset.Ioc next (position + reach)).card +
            (lost size failed origin (position + reach) total).card ≤
              (lost size failed origin skipped total).card := by
          rw [← Finset.card_union_of_disjoint]
          · apply Finset.card_le_card
            intro later isLater
            rcases Finset.mem_union.mp isLater with passed | beyond
            · obtain ⟨isAfter, isBefore⟩ := Finset.mem_Ioc.mp passed
              exact Finset.mem_filter.mpr ⟨Finset.mem_Ioc.mpr (by omega),
                farther later isAfter isBefore⟩
            · obtain ⟨isBeyond, isLost⟩ := Finset.mem_filter.mp beyond
              obtain ⟨isAfter, isBefore⟩ := Finset.mem_Ioc.mp isBeyond
              exact Finset.mem_filter.mpr ⟨Finset.mem_Ioc.mpr (by omega),
                isLost⟩
          · rw [Finset.disjoint_left]
            intro later passed beyond
            have isBefore := (Finset.mem_Ioc.mp passed).2
            have isAfter := (Finset.mem_Ioc.mp
              (Finset.mem_filter.mp beyond).1).1
            omega
        rw [Nat.card_Ioc] at split
        rw [Nat.succ_mul] at enough
        refine .inr ⟨⟨here, remains⟩, back size origin next,
          ⟨next - position, by omega, by omega,
            back_back inside (by omega) (by omega)⟩, ?_⟩
        exact inductionHypothesis (by omega) nextRemains farther (by omega)

/-- Around a ring it takes few edges if the places that have failed are added
to the way. -/
theorem reachedIn
    {failed : Finset Nat} {source target hops : Nat}
    (few : failed.card < reach) (sourceInside : source < size)
    (sourceRemains : source ∉ failed) (targetInside : target < size)
    (enough : size - 1 + failed.card ≤ hops * reach) :
    ReachedIn (Edge size reach) {place | place < size ∧ place ∉ failed} hops
      source target := by
  obtain ⟨total, bound, rfl⟩ := exists_steps sourceInside targetInside
  have start : back size source 0 = source := by
    rw [back_eq sourceInside (Nat.zero_le size), if_pos (Nat.zero_le _)]
    rfl
  have losses : (lost size failed source 0 total).card ≤ failed.card := by
    apply Finset.card_le_card_of_injOn (back size source)
    · intro position isLost
      exact (Finset.mem_filter.mp isLost).2
    · intro first isFirst second isSecond same
      have firstBound := Finset.mem_Ioc.mp
        (Finset.mem_filter.mp (Finset.mem_coe.mp isFirst)).1
      have secondBound := Finset.mem_Ioc.mp
        (Finset.mem_filter.mp (Finset.mem_coe.mp isSecond)).1
      exact back_inj sourceInside firstBound.1 (by omega) secondBound.1
        (by omega) same
  have reached : ReachedIn (Edge size reach) _ hops (back size source 0) _ :=
    reachedIn_of_position sourceInside bound.le few (Nat.zero_le total)
      (by rwa [start])
      (fun later isAhead isSkipped => absurd isSkipped (Nat.not_le.mpr isAhead))
      (show total - 0 + (lost size failed source 0 total).card ≤ hops * reach
        by omega)
  rwa [start] at reached

end RingGraph
