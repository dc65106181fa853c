import Mathlib.Algebra.GroupWithZero.Nat
import Mathlib.Data.List.Basic
import Mathlib.Order.Defs.LinearOrder

/-!
# Lists one of whose entries is replaced or removed

Also when the entries are pairs, and only those of one key are looked at.
-/

namespace List

/-- Entries of a linear order can be looked for in a list.  With an instance of
its own, a definition that looks for one carries no proof. -/
instance lawfulBEq_of_linearOrder {α : Type*} [LinearOrder α] :
    LawfulBEq α := inferInstance

variable {α : Type*} {entries : List α} {index : Nat} {old new : α}

/-- Replacing an entry moves a count by what the entry contributes.  The
balance is stated without subtraction. -/
theorem countP_set_balance
    (holds : α → Bool)
    (found : entries[index]? = some old) :
    (entries.set index new).countP holds + (if holds old then 1 else 0) =
      entries.countP holds + (if holds new then 1 else 0) := by
  obtain ⟨bound, isOld⟩ := getElem?_eq_some_iff.mp found
  have atLeast : (if holds old then 1 else 0) ≤ entries.countP holds := by
    split
    · next satisfied =>
        exact countP_pos_iff.mpr ⟨old, mem_of_getElem? found, satisfied⟩
    · exact Nat.zero_le _
  rw [countP_set bound, isOld]
  omega

/-- Replacing an entry by one that counts the same leaves the count. -/
theorem countP_set_of_eq
    (holds : α → Bool)
    (found : entries[index]? = some old)
    (same : holds new = holds old) :
    (entries.set index new).countP holds = entries.countP holds := by
  have balance : (entries.set index new).countP holds +
      (if holds old then 1 else 0) =
        entries.countP holds + (if holds new then 1 else 0) :=
    countP_set_balance holds found
  rw [same] at balance
  omega

/-- An entry other than the replaced one is still in the list. -/
theorem mem_set_of_ne
    {entry : α}
    (present : entry ∈ entries)
    (found : entries[index]? = some old)
    (different : entry ≠ old) :
    entry ∈ entries.set index new := by
  obtain ⟨place, foundEntry⟩ := mem_iff_getElem?.mp present
  have elsewhere : index ≠ place := by
    intro same
    rw [← same, found] at foundEntry
    exact different (Option.some.inj foundEntry).symm
  refine mem_iff_getElem?.mpr ⟨place, ?_⟩
  rw [getElem?_set_ne elsewhere]
  exact foundEntry

/-- An entry is the removed one or still in the list. -/
theorem eq_or_mem_eraseIdx
    {entry : α}
    (present : entry ∈ entries)
    (found : entries[index]? = some old) :
    entry = old ∨ entry ∈ entries.eraseIdx index := by
  obtain ⟨place, foundEntry⟩ := mem_iff_getElem?.mp present
  by_cases same : place = index
  · rw [same, found] at foundEntry
    exact .inl (Option.some.inj foundEntry).symm
  · exact .inr (mem_eraseIdx_iff_getElem?.mpr ⟨place, same, foundEntry⟩)

/-- Replacing an entry moves a sum by what the entries contribute. -/
theorem sum_map_set_balance
    (measure : α → Nat) (found : entries[index]? = some old) :
    ((entries.set index new).map measure).sum + measure old =
      (entries.map measure).sum + measure new := by
  induction entries generalizing index with
  | nil => cases found
  | cons first entries inductionHypothesis =>
      cases index with
      | zero =>
          obtain rfl := Option.some.inj found
          simp only [set_cons_zero, map_cons, sum_cons]
          omega
      | succ index =>
          have balance := inductionHypothesis found
          simp only [set_cons_succ, map_cons, sum_cons]
          omega

/-- Removing an entry takes what it contributes from a sum. -/
theorem sum_map_eraseIdx_balance
    (measure : α → Nat) (found : entries[index]? = some old) :
    ((entries.eraseIdx index).map measure).sum + measure old =
      (entries.map measure).sum := by
  induction entries generalizing index with
  | nil => cases found
  | cons first entries inductionHypothesis =>
      cases index with
      | zero =>
          obtain rfl := Option.some.inj found
          simp only [eraseIdx_cons_zero, map_cons, sum_cons]
          omega
      | succ index =>
          have balance := inductionHypothesis found
          simp only [eraseIdx_cons_succ, map_cons, sum_cons]
          omega

/-- A symmetric relation between all entries relates the removed one to those
that are left. -/
theorem Pairwise.rel_eraseIdx
    {relation : α → α → Prop} {entry : α}
    (pairwise : entries.Pairwise relation)
    (symmetric : ∀ first second, relation first second →
      relation second first)
    (found : entries[index]? = some old)
    (present : entry ∈ entries.eraseIdx index) :
    relation old entry := by
  obtain ⟨bound, isOld⟩ := getElem?_eq_some_iff.mp found
  obtain ⟨place, elsewhere, foundEntry⟩ :=
    mem_eraseIdx_iff_getElem?.mp present
  obtain ⟨inside, isEntry⟩ := getElem?_eq_some_iff.mp foundEntry
  have ordered := pairwise_iff_getElem.mp pairwise
  rw [← isOld, ← isEntry]
  rcases Nat.lt_or_gt_of_ne elsewhere with before | after
  · exact symmetric _ _ (ordered place index inside bound before)
  · exact ordered index place bound inside after

/-- One of the distinct keys gets more entries. -/
theorem perm_flatMap_append
    {Key : Type*} [DecidableEq Key] {keys : List Key} {key : Key}
    {parts : Key → List α} {added : List α}
    (distinct : keys.Nodup) (isKey : key ∈ keys) :
    (keys.flatMap fun other =>
        parts other ++ if other = key then added else []).Perm
      (keys.flatMap parts ++ added) := by
  obtain ⟨before, after, rfl⟩ := append_of_mem isKey
  obtain ⟨_, rest, apart⟩ := nodup_append.mp distinct
  have kept (others : List Key) (absent : key ∉ others) :
      (others.flatMap fun other =>
        parts other ++ if other = key then added else []) =
          others.flatMap parts := by
    apply flatMap_congr
    intro other present
    rw [if_neg (ne_of_mem_of_not_mem present absent), append_nil]
  have notBefore : key ∉ before := fun present =>
    apart key present key mem_cons_self rfl
  have notAfter : key ∉ after := (nodup_cons.mp rest).1
  rw [flatMap_append, flatMap_append, flatMap_cons, flatMap_cons,
    kept before notBefore, kept after notAfter, if_pos rfl, append_assoc,
    append_assoc]
  refine Perm.append_left _ ?_
  rw [append_assoc]
  exact perm_append_comm.append_left _

/-- Removing an entry leaves the entries of another kind. -/
theorem filter_eraseP_of_disjoint
    {erased kept : α → Bool}
    (disjoint : ∀ entry, erased entry = true → kept entry = false)
    (entries : List α) :
    (entries.eraseP erased).filter kept = entries.filter kept := by
  rcases exists_or_eq_self_of_eraseP erased entries with
    same | ⟨entry, before, after, _, isErased, whole, rest⟩
  · rw [same]
  · rw [rest, whole, filter_append, filter_append,
      filter_cons_of_neg (by simp [disjoint entry isErased])]

/-! ## The values of a key -/

/-- The values that are listed with a key. -/
def valuesOf {Key : Type*} [DecidableEq Key] (key : Key)
    (pairs : List (Key × α)) : List α :=
  pairs.filterMap fun pair => if pair.1 = key then some pair.2 else none

section ValuesOf

variable {Key : Type*} [DecidableEq Key] {key : Key}
variable {pairs others : List (Key × α)} {value : α}

@[simp] theorem valuesOf_append :
    (pairs ++ others).valuesOf key =
      pairs.valuesOf key ++ others.valuesOf key :=
  filterMap_append

@[simp] theorem valuesOf_map (values : List α) :
    (values.map fun value => (key, value)).valuesOf key = values := by
  simp [valuesOf]

theorem mem_valuesOf_iff :
    value ∈ pairs.valuesOf key ↔ (key, value) ∈ pairs := by
  simp only [valuesOf, mem_filterMap, Option.ite_none_right_eq_some,
    Option.some.injEq]
  constructor
  · rintro ⟨⟨_, _⟩, present, rfl, rfl⟩
    exact present
  · intro present
    exact ⟨_, present, rfl, rfl⟩

/-- The first entry with a value is removed. -/
theorem valuesOf_erase [DecidableEq α] :
    (pairs.erase (key, value)).valuesOf key =
      (pairs.valuesOf key).erase value := by
  induction pairs with
  | nil => rfl
  | cons pair pairs inductionHypothesis =>
      obtain ⟨other, first⟩ := pair
      simp only [valuesOf] at inductionHypothesis ⊢
      by_cases sameKey : other = key
      · subst sameKey
        by_cases same : first = value
        · simp [same]
        · simp [same, inductionHypothesis]
      · simp [sameKey, inductionHypothesis]

end ValuesOf

end List
