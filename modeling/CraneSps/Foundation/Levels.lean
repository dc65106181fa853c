import Mathlib.Algebra.Order.BigOperators.Group.List
import Mathlib.Algebra.Order.Group.Nat
import Mathlib.Data.DFinsupp.WellFounded

/-!
# Levels

Something is kept on finitely many levels.  A step that takes something from a
level may add any amount to the levels above it, but nothing to those below.
There is no infinite sequence of such steps.
-/

namespace Levels

variable {State : Type*} {bound : Nat}

/-- Some level has less, and no lower level has more. -/
def Lowers (bound : Nat) (amount other : Nat → Nat) : Prop :=
  ∃ level < bound, amount level < other level ∧
    ∀ lower < level, amount lower ≤ other lower

/-- On the first level with a different amount there is less. -/
theorem exists_first
    {amount other : Nat → Nat} (lowers : Lowers bound amount other) :
    ∃ level < bound, amount level < other level ∧
      ∀ lower < level, amount lower = other lower := by
  obtain ⟨level, inside, less, notMore⟩ := lowers
  have differs : ∃ first, amount first ≠ other first :=
    ⟨level, Nat.ne_of_lt less⟩
  have isFirst := Nat.find_spec differs
  have before : Nat.find differs ≤ level :=
    Nat.find_min' differs (Nat.ne_of_lt less)
  refine ⟨Nat.find differs, Nat.lt_of_le_of_lt before inside, ?_, ?_⟩
  · rcases Nat.lt_or_eq_of_le before with below | same
    · exact Nat.lt_of_le_of_ne (notMore _ below) isFirst
    · rw [same]
      exact less
  · intro lower below
    exact not_not.mp (Nat.find_min differs below)

theorem wellFounded_lowers (bound : Nat) : WellFounded (Lowers bound) := by
  have byLevels := InvImage.wf
    (fun (amount : Nat → Nat) (level : Fin bound) => amount level)
    (Pi.Lex.wellFounded (fun first second : Fin bound => first < second)
      fun _ => Nat.lt_wfRel.wf)
  refine Subrelation.wf (fun lowers => ?_) byLevels
  obtain ⟨level, inside, less, same⟩ := exists_first lowers
  exact ⟨⟨level, inside⟩, fun lower below => same lower below, less⟩

/-- From the states with an invariant there is no infinite sequence of steps
that lower the amounts. -/
theorem acc_of_lowers
    {step : State → State → Prop} {invariant : State → Prop}
    {amount : State → Nat → Nat}
    (preserved : ∀ state next, invariant state → step state next →
      invariant next)
    (lowers : ∀ state next, invariant state → step state next →
      Lowers bound (amount next) (amount state)) :
    ∀ state, invariant state →
      Acc (fun next state => step state next) state := by
  intro state
  induction state using
    (InvImage.wf amount (wellFounded_lowers bound)).induction with
  | h state inductionHypothesis =>
      intro holds
      refine Acc.intro state fun next stepped => ?_
      exact inductionHypothesis next (lowers state next holds stepped)
        (preserved state next holds stepped)

/-- However the steps are chosen, only finitely many can be made, and the goal
is reached when none is left. -/
inductive Inevitable
    (step : State → State → Prop) (goal : State → Prop) : State → Prop
  | intro {state : State}
      (atEnd : (∀ next, ¬ step state next) → goal state)
      (later : ∀ next, step state next → Inevitable step goal next) :
      Inevitable step goal state

/-- It suffices to look at the states with an invariant in which no step is
left. -/
theorem inevitable_of_acc
    {step : State → State → Prop} {invariant goal : State → Prop}
    (preserved : ∀ state next, invariant state → step state next →
      invariant next)
    (atEnd : ∀ state, invariant state → (∀ next, ¬ step state next) →
      goal state)
    {state : State} (ends : Acc (fun next state => step state next) state)
    (holds : invariant state) : Inevitable step goal state := by
  induction ends with
  | intro state _ inductionHypothesis =>
      refine .intro (atEnd state holds) fun next stepped => ?_
      exact inductionHypothesis next stepped
        (preserved state next holds stepped)

theorem Inevitable.imp
    {step : State → State → Prop} {goal weaker : State → Prop} {state : State}
    (inevitable : Inevitable step goal state)
    (implies : ∀ state, goal state → weaker state) :
    Inevitable step weaker state := by
  induction inevitable with
  | intro atEnd _ inductionHypothesis =>
      exact .intro (fun last => implies _ (atEnd last)) inductionHypothesis

/-! ## Items with ranks -/

section Items

variable {Item : Type*} {items : List Item} {rank : Item → Nat}
variable {width height : Nat} {parts others : Item → Nat → Nat}

/-- A sum gets smaller by what one of its terms loses. -/
theorem sum_add_le_sum
    {value other : Item → Nat} {chosen : Item} {loss : Nat} (isItem : chosen ∈ items)
    (less : value chosen + loss ≤ other chosen)
    (notMore : ∀ item ∈ items, value item ≤ other item) :
    (items.map value).sum + loss ≤ (items.map other).sum := by
  obtain ⟨front, rest, rfl⟩ := List.append_of_mem isItem
  have inFront : (front.map value).sum ≤ (front.map other).sum :=
    List.sum_le_sum fun item present =>
      notMore item (List.mem_append_left _ present)
  have inRest : (rest.map value).sum ≤ (rest.map other).sum :=
    List.sum_le_sum fun item present =>
      notMore item (List.mem_append_right _ (List.mem_cons_of_mem _ present))
  simp only [List.map_append, List.map_cons, List.sum_append, List.sum_cons]
  omega

/-- What the items keep on a level, if each has some levels of its own above
those of the items with lower ranks. -/
def amount
    (items : List Item) (rank : Item → Nat) (width : Nat)
    (parts : Item → Nat → Nat) (level : Nat) : Nat :=
  (items.map fun item =>
    if width * rank item ≤ level then
      parts item (level - width * rank item)
    else 0).sum

/-- A step of an item lowers the amounts if it adds nothing to the items whose
ranks are not higher. -/
theorem lowers_amount
    {chosen : Item} (isItem : chosen ∈ items) (below : rank chosen < height)
    (lowers : Lowers width (parts chosen) (others chosen))
    (rest : ∀ item ∈ items, item ≠ chosen →
      rank chosen < rank item ∨ ∀ part, parts item part ≤ others item part) :
    Lowers (width * height) (amount items rank width parts)
      (amount items rank width others) := by
  obtain ⟨part, inside, less, notMore⟩ := lowers
  have room : width * rank chosen + width ≤ width * height := by
    rw [← Nat.mul_succ]
    exact Nat.mul_le_mul_left width below
  have notAbove : ∀ level ≤ width * rank chosen + part, ∀ item ∈ items,
      item ≠ chosen →
      (if width * rank item ≤ level then
          parts item (level - width * rank item) else 0) ≤
        if width * rank item ≤ level then
          others item (level - width * rank item) else 0 := by
    intro level isLevel item present differs
    split
    next reached =>
      rcases rest item present differs with above | fewer
      · have higher : width * rank chosen + width ≤ width * rank item := by
          rw [← Nat.mul_succ]
          exact Nat.mul_le_mul_left width above
        omega
      · exact fewer _
    next => exact Nat.le_refl 0
  refine ⟨width * rank chosen + part, by omega, ?_, ?_⟩
  · apply List.sum_lt_sum
    · intro item present
      by_cases same : item = chosen
      · subst same
        rw [if_pos (Nat.le_add_right _ _), if_pos (Nat.le_add_right _ _),
          Nat.add_sub_cancel_left]
        exact Nat.le_of_lt less
      · exact notAbove _ (Nat.le_refl _) item present same
    · refine ⟨chosen, isItem, ?_⟩
      rw [if_pos (Nat.le_add_right _ _), if_pos (Nat.le_add_right _ _),
        Nat.add_sub_cancel_left]
      exact less
  · intro lower isLower
    apply List.sum_le_sum
    intro item present
    by_cases same : item = chosen
    · subst same
      split
      next reached => exact notMore _ (by omega)
      next => exact Nat.le_refl 0
    · exact notAbove _ (Nat.le_of_lt isLower) item present same

end Items

end Levels
