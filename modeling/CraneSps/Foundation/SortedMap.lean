import Mathlib.Order.Lattice

/-!
# Ordered maps whose values know their keys

A finite map as the list of its values in the order of their keys.  What a map
is can be said key by key through `find`; a loop over one map that treats every
key on its own is determined by its effect on one key.
-/

/-- Values in the strict order of their keys. -/
structure SortedMap {Key Value : Type*} [LinearOrder Key]
    (key : Value → Key) where
  /-- The values, in the order of an iteration. -/
  entries : List Value
  sorted : entries.Pairwise fun first second => key first < key second

namespace SortedMap

variable {Key Value : Type*} [LinearOrder Key] {key : Value → Key}

/-- The map without entries. -/
def empty : SortedMap key where
  entries := []
  sorted := .nil

/-- The value of a key. -/
def find (map : SortedMap key) (wanted : Key) : Option Value :=
  map.entries.find? fun value => decide (key value = wanted)

/-- Put a value where it belongs, in place of the one with its key. -/
def insertEntry (key : Value → Key) (value : Value) : List Value → List Value
  | [] => [value]
  | first :: rest =>
      if key value < key first then value :: first :: rest
      else if key value = key first then value :: rest
      else first :: insertEntry key value rest

theorem mem_insertEntry
    {value other : Value} {entries : List Value}
    (isEntry : other ∈ insertEntry key value entries) :
    other = value ∨ other ∈ entries := by
  induction entries with
  | nil => exact .inl (List.mem_singleton.mp isEntry)
  | cons first rest inductionHypothesis =>
      rw [insertEntry] at isEntry
      split at isEntry
      · exact List.mem_cons.mp isEntry
      · split at isEntry
        · exact (List.mem_cons.mp isEntry).imp_right
            (List.mem_cons_of_mem first)
        · rcases List.mem_cons.mp isEntry with rfl | later
          · exact .inr List.mem_cons_self
          · exact (inductionHypothesis later).imp_right
              (List.mem_cons_of_mem first)

theorem pairwise_insertEntry
    {value : Value} {entries : List Value}
    (sorted : entries.Pairwise fun first second => key first < key second) :
    (insertEntry key value entries).Pairwise
      fun first second => key first < key second := by
  induction entries with
  | nil => exact List.pairwise_singleton _ _
  | cons first rest inductionHypothesis =>
      obtain ⟨least, restSorted⟩ := List.pairwise_cons.mp sorted
      rw [insertEntry]
      split
      · next below =>
          refine List.pairwise_cons.mpr ⟨fun other isEntry => ?_, sorted⟩
          rcases List.mem_cons.mp isEntry with rfl | later
          · exact below
          · exact lt_trans below (least other later)
      · next notBelow =>
          split
          · next same =>
              refine List.pairwise_cons.mpr ⟨fun other later => ?_, restSorted⟩
              exact same ▸ least other later
          · next differs =>
              refine List.pairwise_cons.mpr
                ⟨fun other isEntry => ?_, inductionHypothesis restSorted⟩
              rcases mem_insertEntry isEntry with rfl | later
              · exact lt_of_le_of_ne (not_lt.mp notBelow) (Ne.symm differs)
              · exact least other later

/-- Add a value, or replace the one with its key. -/
def insert (map : SortedMap key) (value : Value) : SortedMap key where
  entries := insertEntry key value map.entries
  sorted := pairwise_insertEntry map.sorted

/-- Add a value unless there is one with its key. -/
def insertNew (map : SortedMap key) (value : Value) : SortedMap key :=
  match map.find (key value) with
  | some _ => map
  | none => map.insert value

/-- Keep some of the values. -/
def filter (map : SortedMap key) (keep : Value → Bool) : SortedMap key where
  entries := map.entries.filter keep
  sorted := map.sorted.filter keep

/-- Remove the value of a key. -/
def erase (map : SortedMap key) (unwanted : Key) : SortedMap key :=
  map.filter fun value => decide (key value ≠ unwanted)

variable {map : SortedMap key} {wanted : Key} {value : Value}

@[simp] theorem find_empty : (empty : SortedMap key).find wanted = none := rfl

theorem key_of_find (found : map.find wanted = some value) :
    key value = wanted := by
  simpa using List.find?_some found

theorem mem_of_find (found : map.find wanted = some value) :
    value ∈ map.entries :=
  List.mem_of_find?_eq_some found

/-- Every value is found under its key. -/
theorem find_of_mem (isEntry : value ∈ map.entries) :
    map.find (key value) = some value := by
  obtain ⟨entries, sorted⟩ := map
  change entries.find? (fun other => decide (key other = key value)) = _
  change value ∈ entries at isEntry
  induction entries with
  | nil => nomatch isEntry
  | cons first rest inductionHypothesis =>
      obtain ⟨least, restSorted⟩ := List.pairwise_cons.mp sorted
      rcases List.mem_cons.mp isEntry with rfl | later
      · rw [List.find?_cons_of_pos (by simp)]
      · have differs : key first ≠ key value := ne_of_lt (least value later)
        rw [List.find?_cons_of_neg (by simpa using differs)]
        exact inductionHypothesis restSorted later

theorem find_eq_some_iff :
    map.find wanted = some value ↔
      value ∈ map.entries ∧ key value = wanted := by
  constructor
  · intro found
    exact ⟨mem_of_find found, key_of_find found⟩
  · rintro ⟨isEntry, rfl⟩
    exact find_of_mem isEntry

theorem find_insert :
    (map.insert value).find wanted =
      if wanted = key value then some value else map.find wanted := by
  change (insertEntry key value map.entries).find? _ = if _ then _ else
    map.entries.find? _
  induction map.entries with
  | nil =>
      rw [insertEntry, List.find?_cons, List.find?_nil]
      by_cases same : wanted = key value
      · simp [same]
      · simp [same, Ne.symm same]
  | cons first rest inductionHypothesis =>
      rw [insertEntry]
      by_cases same : wanted = key value
      · subst same
        rw [if_pos rfl] at inductionHypothesis ⊢
        split
        · simp
        · split
          · simp
          · next differs =>
              rw [List.find?_cons_of_neg (by simpa using Ne.symm differs)]
              exact inductionHypothesis
      · rw [if_neg same] at inductionHypothesis ⊢
        split
        · rw [List.find?_cons_of_neg (by simpa using Ne.symm same)]
        · split
          · next sameKey =>
              rw [List.find?_cons_of_neg (by simpa using Ne.symm same),
                List.find?_cons_of_neg
                  (by simpa [← sameKey] using Ne.symm same)]
          · rw [List.find?_cons, List.find?_cons, inductionHypothesis]

theorem find_insertNew :
    (map.insertNew value).find wanted =
      if wanted = key value then some ((map.find wanted).getD value)
      else map.find wanted := by
  unfold insertNew
  split
  · next old found =>
      split
      · next same => rw [same, found, Option.getD_some]
      · rfl
  · next missing =>
      rw [find_insert]
      split
      · next same => rw [same, missing, Option.getD_none]
      · rfl

theorem find_filter {keep : Value → Bool} :
    (map.filter keep).find wanted = (map.find wanted).filter keep := by
  apply Option.ext
  intro value
  rw [find_eq_some_iff, Option.filter_eq_some_iff, find_eq_some_iff]
  change value ∈ map.entries.filter keep ∧ _ ↔ _
  rw [List.mem_filter, and_right_comm]

theorem find_erase {unwanted : Key} :
    (map.erase unwanted).find wanted =
      if wanted = unwanted then none else map.find wanted := by
  rw [erase, find_filter]
  cases found : map.find wanted with
  | none => simp
  | some value =>
      have isKey := key_of_find found
      by_cases same : wanted = unwanted
      · simp [Option.filter, isKey, same]
      · simp [Option.filter, isKey, same]

/-- The entries with a key are the value that is found under it. -/
theorem filter_entries (map : SortedMap key) (wanted : Key) :
    map.entries.filter (fun value => decide (key value = wanted)) =
      (map.find wanted).toList := by
  obtain ⟨entries, sorted⟩ := map
  change entries.filter _ = (entries.find? _).toList
  induction entries with
  | nil => rfl
  | cons first rest inductionHypothesis =>
      obtain ⟨least, restSorted⟩ := List.pairwise_cons.mp sorted
      by_cases same : key first = wanted
      · subst same
        have notLater : rest.filter (fun value =>
            decide (key value = key first)) = [] := by
          rw [List.filter_eq_nil_iff]
          intro other later
          simpa using ne_of_gt (least other later)
        rw [List.filter_cons_of_pos (by simp), notLater,
          List.find?_cons_of_pos (by simp)]
        rfl
      · rw [List.filter_cons_of_neg (by simpa using same),
          List.find?_cons_of_neg (by simpa using same)]
        exact inductionHypothesis restSorted

/-- The keys of a map are distinct. -/
theorem nodup_keys (map : SortedMap key) : (map.entries.map key).Nodup := by
  rw [List.Nodup, List.pairwise_map]
  exact map.sorted.imp fun below => ne_of_lt below

/-- A loop over the entries of a map, each of which affects its own key only,
affects every key once. -/
theorem find_foldl
    {step : SortedMap key → Value → SortedMap key}
    {effect : Option Value → Value → Option Value}
    (isolated : ∀ (map : SortedMap key) (value : Value) (wanted : Key),
      (step map value).find wanted =
        if wanted = key value then effect (map.find wanted) value
        else map.find wanted)
    (incoming map : SortedMap key) (wanted : Key) :
    (incoming.entries.foldl step map).find wanted =
      (incoming.find wanted).elim (map.find wanted)
        (effect (map.find wanted)) := by
  obtain ⟨entries, sorted⟩ := incoming
  change (entries.foldl step map).find wanted =
    (entries.find? _).elim (map.find wanted) (effect (map.find wanted))
  induction entries generalizing map with
  | nil => rfl
  | cons first rest inductionHypothesis =>
      obtain ⟨least, restSorted⟩ := List.pairwise_cons.mp sorted
      rw [List.foldl_cons, inductionHypothesis _ restSorted]
      by_cases same : wanted = key first
      · subst same
        have notLater : rest.find? (fun value =>
            decide (key value = key first)) = none := by
          rw [List.find?_eq_none]
          intro other later
          simpa using ne_of_gt (least other later)
        rw [notLater, List.find?_cons_of_pos (by simp)]
        simp [isolated]
      · rw [List.find?_cons_of_neg (by simpa using Ne.symm same), isolated,
          if_neg same]

end SortedMap

/-! ## Dictionaries -/

/-- A finite map as the list of its pairs in the order of the keys. -/
abbrev Dictionary (Key Value : Type*) [LinearOrder Key] :=
  SortedMap (Prod.fst : Key × Value → Key)

namespace Dictionary

variable {Key Value : Type*} [LinearOrder Key]
variable {dictionary : Dictionary Key Value} {key other : Key} {value : Value}

/-- The value at a key. -/
def get (dictionary : Dictionary Key Value) (key : Key) : Option Value :=
  (dictionary.find key).map Prod.snd

/-- Assign to a key. -/
def set (dictionary : Dictionary Key Value) (key : Key) (value : Value) :
    Dictionary Key Value :=
  dictionary.insert (key, value)

theorem get_set :
    (dictionary.set key value).get other =
      if other = key then some value else dictionary.get other := by
  rw [get, set, SortedMap.find_insert]
  split
  · rfl
  · rfl

theorem get_eq_some_iff :
    dictionary.get key = some value ↔ (key, value) ∈ dictionary.entries := by
  rw [get, Option.map_eq_some_iff]
  constructor
  · rintro ⟨⟨_, _⟩, found, rfl⟩
    obtain ⟨isEntry, rfl⟩ := SortedMap.find_eq_some_iff.mp found
    exact isEntry
  · intro isEntry
    exact ⟨_, SortedMap.find_eq_some_iff.mpr ⟨isEntry, rfl⟩, rfl⟩

end Dictionary
