import Mathlib.Data.Int.CardIntervalMod
import Mathlib.Data.List.Basic

/-!
# Taking turns

Turns that go round in a circle come to every place equally often, up to one,
wherever they begin.
-/

namespace List

/-- The places of a number of turns in a circle, beginning at a given one. -/
def turns (size : Nat) : Nat → Nat → List Nat
  | _, 0 => []
  | start, count + 1 => start % size :: turns size (start + 1) count

variable {size start other count : Nat}

/-- Only the place in the circle matters. -/
theorem turns_congr (same : start % size = other % size) :
    turns size start count = turns size other count := by
  induction count generalizing start other with
  | zero => rfl
  | succ count inductionHypothesis =>
      have next : (start + 1) % size = (other + 1) % size :=
        Nat.ModEq.add_right 1 same
      rw [turns, turns, same, inductionHypothesis next]

/-- The turns at a place, with those before the beginning. -/
theorem count_turns {place : Nat} (isPlace : place < size) :
    (turns size start count).count place +
        Nat.count (· ≡ place [MOD size]) start =
      Nat.count (· ≡ place [MOD size]) (start + count) := by
  induction count generalizing start with
  | zero => simp [turns]
  | succ count inductionHypothesis =>
      have rest := @inductionHypothesis (start + 1)
      rw [Nat.count_succ, Nat.add_right_comm] at rest
      rw [turns, count_cons, ← Nat.add_assoc, ← rest]
      have here : (start % size == place) = true ↔
          start ≡ place [MOD size] := by
        rw [beq_iff_eq, Nat.ModEq, Nat.mod_eq_of_lt isPlace]
      by_cases turn : start ≡ place [MOD size]
      · rw [if_pos turn, if_pos (here.mpr turn)]
        omega
      · rw [if_neg turn, if_neg (here.not.mpr turn)]
        omega

/-- No place has two turns more than another. -/
theorem count_turns_le
    {first second : Nat} (isFirst : first < size) (isSecond : second < size) :
    (turns size start count).count first ≤
      (turns size start count).count second + 1 := by
  have positive : 0 < size := Nat.zero_lt_of_lt isFirst
  have firstTurns := @count_turns size start count first isFirst
  have secondTurns := @count_turns size start count second isSecond
  simp only [Nat.count_modEq_card _ positive, Nat.mod_eq_of_lt isFirst,
    Nat.mod_eq_of_lt isSecond] at firstTurns secondTurns
  split at firstTurns <;> split at firstTurns <;> split at secondTurns <;>
    split at secondTurns <;> omega

end List
