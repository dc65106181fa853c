import Mathlib.Algebra.BigOperators.Group.List.Basic
import Mathlib.Algebra.GroupWithZero.Nat
import Mathlib.Data.List.Dedup
import Mathlib.Order.Lattice

/-!
# Counting in groups

A list can be cut into the runs of equal neighbours, and a list of pairs into
groups of equal first components.  Both cuts lose no entry and repeat none,
which is stated by counting.
-/

namespace List

variable {α β : Type*}

/-- A sum over all parts is the sum of the sums over the parts. -/
theorem sum_map_flatMap
    (parts : α → List β) (amount : β → Nat) (keys : List α) :
    ((keys.flatMap parts).map amount).sum =
      (keys.map fun key => ((parts key).map amount).sum).sum := by
  induction keys with
  | nil => rfl
  | cons key keys inductionHypothesis =>
      rw [flatMap_cons, map_append, sum_append, map_cons, sum_cons,
        inductionHypothesis]

/-- A sum over the entries with a property. -/
theorem sum_map_filter
    (keep : α → Prop) [DecidablePred keep] (amount : α → Nat)
    (entries : List α) :
    ((entries.filter fun entry => keep entry).map amount).sum =
      (entries.map fun entry => if keep entry then amount entry else 0).sum := by
  induction entries with
  | nil => rfl
  | cons entry entries inductionHypothesis =>
      by_cases kept : keep entry
      · simp [kept, inductionHypothesis]
      · simp [kept, inductionHypothesis]

variable [DecidableEq α] [DecidableEq β]

omit [DecidableEq β] in
/-- With distinct keys the entry of a key is found. -/
theorem find?_of_nodup_keys
    {entries : List β} {key : β → α} {entry : β}
    (distinct : (entries.map key).Nodup) (present : entry ∈ entries) :
    entries.find? (fun other => key other == key entry) = some entry := by
  induction entries with
  | nil => cases present
  | cons first entries inductionHypothesis =>
      obtain ⟨notLater, laterDistinct⟩ := nodup_cons.mp distinct
      rcases mem_cons.mp present with rfl | later
      · simp
      · have differs : key first ≠ key entry := by
          intro same
          exact notLater (same ▸ mem_map.mpr ⟨entry, later, rfl⟩)
        rw [find?_cons_of_neg (by simpa using differs)]
        exact inductionHypothesis laterDistinct later

/-- The runs of equal neighbours, each with its length. -/
def runLengths : List α → List (α × Nat)
  | [] => []
  | entry :: entries =>
      match runLengths entries with
      | [] => [(entry, 1)]
      | (other, length) :: runs =>
          if entry = other then (entry, length + 1) :: runs
          else (entry, 1) :: (other, length) :: runs

/-- A run consists of entries of the list. -/
theorem fst_mem_of_mem_runLengths
    {run : α × Nat} {entries : List α} (isRun : run ∈ runLengths entries) :
    run.1 ∈ entries := by
  induction entries generalizing run with
  | nil => cases isRun
  | cons first entries inductionHypothesis =>
      rw [runLengths] at isRun
      split at isRun
      · obtain rfl := mem_singleton.mp isRun
        exact mem_cons_self
      · next other length runs someRuns =>
          rw [someRuns] at inductionHypothesis
          split at isRun
          · rcases mem_cons.mp isRun with rfl | later
            · exact mem_cons_self
            · exact mem_cons_of_mem _
                (inductionHypothesis (mem_cons_of_mem _ later))
          · rcases mem_cons.mp isRun with rfl | later
            · exact mem_cons_self
            · exact mem_cons_of_mem _ (inductionHypothesis later)

/-- How many copies of an entry a run stands for. -/
def runCount (entry : α) (run : α × Nat) : Nat :=
  if run.1 = entry then run.2 else 0

/-- The runs stand for the entries of the list. -/
theorem sum_runCount_runLengths
    (entry : α) (entries : List α) :
    ((runLengths entries).map (runCount entry)).sum = entries.count entry := by
  induction entries with
  | nil => rfl
  | cons first entries inductionHypothesis =>
      rw [count_cons, ← inductionHypothesis, runLengths]
      split
      · next noRuns =>
          rw [noRuns]
          by_cases same : first = entry <;> simp [runCount, same]
      · next other length runs someRuns =>
          rw [someRuns]
          split
          · next equal =>
              subst equal
              by_cases same : first = entry
              · simp [runCount, same]
                omega
              · simp [runCount, same]
          · by_cases same : first = entry
            · simp [runCount, same]
              omega
            · simp [runCount, same]

omit [DecidableEq β] in
/-- The lengths of the runs add up. -/
theorem sum_snd_runLengths (entries : List α) :
    ((runLengths entries).map Prod.snd).sum = entries.length := by
  induction entries with
  | nil => rfl
  | cons first entries inductionHypothesis =>
      rw [length_cons, ← inductionHypothesis, runLengths]
      split
      · next noRuns => rw [noRuns]; rfl
      · next other length runs someRuns =>
          rw [someRuns]
          split
          · simp only [map_cons, sum_cons]
            omega
          · simp only [map_cons, sum_cons]
            omega

omit [DecidableEq β] in
/-- In descending order equal entries are neighbours, so no entry has two
runs. -/
theorem pairwise_fst_runLengths
    [LinearOrder α] {entries : List α}
    (descending : entries.Pairwise (· ≥ ·)) :
    ((runLengths entries).map Prod.fst).Pairwise (· > ·) := by
  induction entries with
  | nil => exact Pairwise.nil
  | cons first entries inductionHypothesis =>
      obtain ⟨above, later⟩ := pairwise_cons.mp descending
      have rest := inductionHypothesis later
      rw [runLengths]
      split
      · exact pairwise_singleton _ _
      · next other length runs someRuns =>
          rw [someRuns, map_cons] at rest
          split
          · next same => exact same ▸ rest
          · next differs =>
              rw [map_cons, pairwise_cons, map_cons]
              refine ⟨?_, rest⟩
              have isEntry : other ∈ entries :=
                @fst_mem_of_mem_runLengths _ _ (other, length) entries
                  (someRuns ▸ mem_cons_self)
              have below : first > other :=
                lt_of_le_of_ne (above other isEntry) (Ne.symm differs)
              intro name isName
              rcases mem_cons.mp isName with rfl | isLater
              · exact below
              · exact gt_trans below ((pairwise_cons.mp rest).1 name isLater)

/-- The second components of a group. -/
def group (key : α) (pairs : List (α × β)) : List β :=
  (pairs.filter fun pair => pair.1 = key).map Prod.snd

omit [DecidableEq β] in
@[simp] theorem group_nil (key : α) : group key ([] : List (α × β)) = [] :=
  rfl

omit [DecidableEq β] in
theorem group_cons (key : α) (pair : α × β) (pairs : List (α × β)) :
    group key (pair :: pairs) =
      if pair.1 = key then pair.2 :: group key pairs else group key pairs := by
  rw [group, filter_cons]
  by_cases same : pair.1 = key
  · simp [group, same]
  · simp [group, same]

omit [DecidableEq β] in
theorem group_append (key : α) (first second : List (α × β)) :
    group key (first ++ second) = group key first ++ group key second := by
  rw [group, filter_append, map_append]
  rfl

omit [DecidableEq β] in
theorem mem_group_iff {key : α} {entry : β} {pairs : List (α × β)} :
    entry ∈ group key pairs ↔ (key, entry) ∈ pairs := by
  simp only [group, mem_map, mem_filter, decide_eq_true_eq]
  constructor
  · rintro ⟨pair, ⟨present, rfl⟩, rfl⟩
    exact present
  · intro present
    exact ⟨_, ⟨present, rfl⟩, rfl⟩

omit [DecidableEq β] in
/-- All pairs have the same key. -/
theorem group_map_pair (chosen key : α) (entries : List β) :
    group key (entries.map fun entry => (chosen, entry)) =
      if chosen = key then entries else [] := by
  rw [group, filter_map, map_map]
  by_cases same : chosen = key
  · simp [Function.comp_def, same]
  · simp [Function.comp_def, same]

omit [DecidableEq β] in
/-- A group is as long as its key is frequent. -/
theorem length_group (key : α) (pairs : List (α × β)) :
    (group key pairs).length = (pairs.map Prod.fst).count key := by
  rw [group, length_map, ← countP_eq_length_filter, count, countP_map]
  exact countP_congr fun pair _ => by simp

omit [DecidableEq β] in
/-- The entries with one of some distinct keys, key by key. -/
theorem perm_flatMap_filter
    (key : β → α) {keys : List α} (entries : List β) (distinct : keys.Nodup) :
    (keys.flatMap fun wanted =>
        entries.filter fun entry => key entry = wanted).Perm
      (entries.filter fun entry => key entry ∈ keys) := by
  induction keys with
  | nil => simp
  | cons first keys inductionHypothesis =>
      obtain ⟨notLater, laterDistinct⟩ := nodup_cons.mp distinct
      rw [flatMap_cons]
      refine ((inductionHypothesis laterDistinct).append_left _).trans ?_
      have cut := filter_append_perm (fun entry => decide (key entry = first))
        (entries.filter fun entry => key entry ∈ first :: keys)
      rw [filter_filter, filter_filter] at cut
      refine Perm.trans (Perm.of_eq ?_) cut
      congr 1
      · apply filter_congr
        intro entry _
        by_cases same : key entry = first
        · simp [same]
        · simp [same]
      · apply filter_congr
        intro entry _
        by_cases same : key entry = first
        · simp [same, notLater]
        · simp [same]

/-- Only one of distinct keys is the given one. -/
theorem sum_indicator
    (amount : Nat) {chosen : α} {keys : List α}
    (distinct : keys.Nodup) (isKey : chosen ∈ keys) :
    (keys.map fun key => if chosen = key then amount else 0).sum =
      amount := by
  induction keys with
  | nil => nomatch isKey
  | cons key keys inductionHypothesis =>
      obtain ⟨notLater, laterDistinct⟩ := nodup_cons.mp distinct
      rw [map_cons, sum_cons]
      by_cases same : chosen = key
      · have none : (keys.map fun key => if chosen = key then amount else 0) =
            keys.map fun _ => 0 := by
          apply map_congr_left
          intro other later
          rw [if_neg]
          rintro rfl
          exact notLater (same ▸ later)
        rw [if_pos same, none]
        simp
      · rw [if_neg same, Nat.zero_add]
        exact inductionHypothesis laterDistinct
          ((mem_cons.mp isKey).resolve_left same)

/-- The groups of distinct keys that cover all pairs contain every pair
once. -/
theorem sum_count_group
    (entry : β) {keys : List α} {pairs : List (α × β)}
    (distinct : keys.Nodup)
    (covered : ∀ pair ∈ pairs, pair.1 ∈ keys) :
    (keys.map fun key => (group key pairs).count entry).sum =
      (pairs.map Prod.snd).count entry := by
  induction pairs with
  | nil => simp [group]
  | cons pair pairs inductionHypothesis =>
      have rest := inductionHypothesis fun other present =>
        covered other (mem_cons_of_mem _ present)
      have head := sum_indicator (if pair.2 = entry then 1 else 0) distinct
        (covered pair mem_cons_self)
      have cut : (keys.map fun key => (group key (pair :: pairs)).count entry) =
          keys.map fun key =>
            (if pair.1 = key then if pair.2 = entry then 1 else 0 else 0) +
              (group key pairs).count entry := by
        apply map_congr_left
        intro key _
        by_cases same : pair.1 = key
        · simp [group, same, count_cons, Nat.add_comm]
        · simp [group, same]
      rw [cut, sum_map_add, head, rest, map_cons, count_cons, Nat.add_comm]
      simp

end List
