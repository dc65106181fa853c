import Mathlib.Data.List.Induction
import Mathlib.Logic.Function.Basic

/-!
# Stores that keep the first value

A write-once store refuses a value under a key that has one, and an ordinary
store replaces it.  After the same writes, one has the first and the other the
last of them.
-/

namespace WriteOnce

variable {Key Value : Type*} [DecidableEq Key]
variable {store : Key → Option Value} {writes : List (Key × Value)}
variable {key : Key}

/-- Keep a value unless the key has one. -/
def put
    (store : Key → Option Value) (write : Key × Value) : Key → Option Value :=
  Function.update store write.1 ((store write.1).or (some write.2))

/-- Keep a value, whatever the key has. -/
def replace
    (store : Key → Option Value) (write : Key × Value) : Key → Option Value :=
  Function.update store write.1 (some write.2)

/-- The first value that is written under a key. -/
def first (writes : List (Key × Value)) (key : Key) : Option Value :=
  (writes.find? fun write => write.1 = key).map Prod.snd

/-- The last value that is written under a key. -/
def last (writes : List (Key × Value)) (key : Key) : Option Value :=
  first writes.reverse key

theorem first_cons {write : Key × Value} :
    first (write :: writes) key =
      if write.1 = key then some write.2 else first writes key := by
  rw [first, List.find?_cons]
  by_cases same : write.1 = key
  · simp [same]
  · simp [same, first]

/-- A write-once store keeps what it has, and then the first value. -/
theorem foldl_put :
    writes.foldl put store key = (store key).or (first writes key) := by
  induction writes generalizing store with
  | nil => simp [first]
  | cons write writes inductionHypothesis =>
      rw [List.foldl_cons, inductionHypothesis, first_cons, put,
        Function.update_apply]
      by_cases same : key = write.1
      · subst same
        simp
      · rw [if_neg same, if_neg (Ne.symm same)]

/-- An ordinary store has the last value. -/
theorem foldl_replace :
    writes.foldl replace store key = (last writes key).or (store key) := by
  induction writes using List.reverseRecOn with
  | nil => simp [last, first]
  | append_singleton writes write inductionHypothesis =>
      rw [List.foldl_append, List.foldl_cons, List.foldl_nil, replace, last,
        List.reverse_append, List.reverse_singleton, List.singleton_append,
        first_cons, Function.update_apply]
      by_cases same : key = write.1
      · simp [same]
      · rw [if_neg same, if_neg (Ne.symm same), inductionHypothesis, last]

theorem last_cons {write : Key × Value} :
    last (write :: writes) key =
      (last writes key).or (if write.1 = key then some write.2 else none) := by
  rw [last, last, first, first, List.reverse_cons, List.find?_append]
  cases writes.reverse.find? fun write => write.1 = key with
  | some later => rfl
  | none => by_cases same : write.1 = key <;> simp [same]

/-- A key has a first value exactly if it has a last one. -/
theorem first_eq_none_iff : first writes key = none ↔ last writes key = none := by
  simp [first, last]

/-- A key without a value is not written. -/
theorem last_eq_none_iff :
    last writes key = none ↔ key ∉ writes.map Prod.fst := by
  simp only [last, first, Option.map_eq_none_iff, List.find?_eq_none,
    List.mem_reverse, decide_eq_true_eq, List.mem_map, not_exists, not_and]

/-- If every key is written once, the first value is the last. -/
theorem first_eq_last (distinct : (writes.map Prod.fst).Nodup) :
    first writes key = last writes key := by
  induction writes with
  | nil => rfl
  | cons write writes inductionHypothesis =>
      obtain ⟨notLater, rest⟩ := List.nodup_cons.mp distinct
      rw [first_cons, last_cons, inductionHypothesis rest]
      by_cases same : write.1 = key
      · rw [if_pos same, if_pos same,
          last_eq_none_iff.mpr (same ▸ notLater), Option.none_or]
      · rw [if_neg same, if_neg same, Option.or_none]

/-- The first value is one of those that are written. -/
theorem mem_of_first_eq_some
    {value : Value} (found : first writes key = some value) :
    (key, value) ∈ writes := by
  obtain ⟨write, isFirst, rfl⟩ := Option.map_eq_some_iff.mp found
  have same : write.1 = key := by simpa using List.find?_some isFirst
  rw [← same]
  exact List.mem_of_find?_eq_some isFirst

/-- If every key is written once, every value is the first. -/
theorem first_of_mem
    (distinct : (writes.map Prod.fst).Nodup) {value : Value}
    (written : (key, value) ∈ writes) : first writes key = some value := by
  induction writes with
  | nil => cases written
  | cons write writes inductionHypothesis =>
      obtain ⟨notLater, rest⟩ := List.nodup_cons.mp distinct
      rw [first_cons]
      rcases List.mem_cons.mp written with rfl | later
      · exact if_pos rfl
      · have differs : write.1 ≠ key := by
          intro same
          exact notLater (same ▸ List.mem_map.mpr ⟨_, later, rfl⟩)
        rw [if_neg differs]
        exact inductionHypothesis rest later

/-- Writes that are computed from their keys. -/
theorem first_map {keys : List Key} {value : Key → Value} :
    first (keys.map fun key => (key, value key)) key =
      if key ∈ keys then some (value key) else none := by
  induction keys with
  | nil => rfl
  | cons other keys inductionHypothesis =>
      rw [List.map_cons, first_cons, inductionHypothesis]
      by_cases same : other = key
      · simp [same]
      · simp [same, Ne.symm same]

end WriteOnce
