import CraneSps.Foundation.TransitionSystem
import CraneSps.Membership.DMember
import Mathlib.Data.Finset.Lattice.Fold
import Mathlib.Order.WithBot

/-!
# Merging in any order

Seen from one id, a map is a count, or `⊥` where the id is unknown, and merging
live records is the join of counts, whether it inserts an entry or updates one.
So a round absorbs the waiting maps without changing the join of the map and
the queue, and neither the order of the maps, nor how often one comes, nor how
they are spread over the rounds makes a difference.
-/

namespace CraneSps
namespace Membership

variable {Id : Type} [LinearOrder Id]

/-- The count of an entry. -/
def countOf (entry : Option (Member Id)) : WithBot Int :=
  entry.elim ⊥ fun member => (member.count : WithBot Int)

/-- The count that a map has for an id. -/
def countAt (map : MemberMap Id) (id : Id) : WithBot Int :=
  countOf (map.find id)

/-- The greatest count that some maps have for an id. -/
def maxCount (maps : List (MemberMap Id)) (id : Id) : WithBot Int :=
  (maps.map fun map => countAt map id).toFinset.sup fun count => count

/-- No record of the map is leaving. -/
def Live (map : MemberMap Id) : Prop :=
  ∀ record ∈ map.entries, record.leaving = false

instance (map : MemberMap Id) : Decidable (Live map) :=
  inferInstanceAs (Decidable (∀ record ∈ map.entries, _))

/-- A received map enters the queue, or `updateMembers` is called. -/
inductive MergeAction (Id : Type) [LinearOrder Id]
  | push (members : MemberMap Id)
  | update (now : Int)

/-- The maps that are received in a run. -/
def pushed (trace : List (MergeAction Id)) : List (MemberMap Id) :=
  trace.filterMap fun action =>
    match action with
    | .push members => some members
    | .update _ => none

/-- A node between two heartbeat messages. -/
def mergeSystem (node : DMember Id) :
    TransitionSystem (DMember Id) (MergeAction Id) where
  initial := node
  step := fun node action =>
    match action with
    | .push members => some (node.pushMembersToQueue members)
    | .update now => some (node.updateMembers now).1

/-- A call of `updateMembers` finds no member to have failed. -/
def NoneFails (node : DMember Id) : MergeAction Id → Prop
  | .push _ => True
  | .update now => (node.updateMembers now).2 = []

instance (node : DMember Id) (action : MergeAction Id) :
    Decidable (NoneFails node action) :=
  match action with
  | .push _ => inferInstanceAs (Decidable True)
  | .update _ => inferInstanceAs (Decidable (_ = _))

/-! ## Joins of counts -/

variable {memberMap incoming : MemberMap Id} {maps : List (MemberMap Id)}
variable {id : Id} {now : Int}

@[simp] theorem maxCount_nil : maxCount ([] : List (MemberMap Id)) id = ⊥ := rfl

@[simp] theorem maxCount_cons :
    maxCount (memberMap :: maps) id =
      countAt memberMap id ⊔ maxCount maps id := by
  rw [maxCount, List.map_cons, List.toFinset_cons, Finset.sup_insert]
  rfl

@[simp] theorem maxCount_append (others : List (MemberMap Id)) :
    maxCount (maps ++ others) id = maxCount maps id ⊔ maxCount others id := by
  rw [maxCount, List.map_append, List.toFinset_append, Finset.sup_union]
  rfl

/-- The greatest count depends on which maps there are, and on nothing
else. -/
theorem maxCount_congr {others : List (MemberMap Id)}
    (same : ∀ map, map ∈ maps ↔ map ∈ others) :
    maxCount maps id = maxCount others id := by
  have sameCounts : (maps.map fun map => countAt map id).toFinset =
      (others.map fun map => countAt map id).toFinset := by
    ext count
    simp [same]
  rw [maxCount, sameCounts, maxCount]

theorem countAt_eq_bot_iff : countAt memberMap id = ⊥ ↔
    memberMap.find id = none := by
  rw [countAt]
  cases memberMap.find id with
  | none => exact iff_of_true rfl rfl
  | some member =>
      exact iff_of_false (WithBot.coe_ne_bot) (Option.some_ne_none member)

/-- An id is unknown exactly if it is unknown to every map. -/
theorem maxCount_eq_bot_iff :
    maxCount maps id = ⊥ ↔ ∀ map ∈ maps, map.find id = none := by
  rw [maxCount, Finset.sup_eq_bot_iff]
  simp [countAt_eq_bot_iff]

/-! ## Merging is joining -/

omit [LinearOrder Id] in
/-- To insert a live record is to join its count, and so is to update from
it. -/
theorem countOf_mergeEntry
    (entry : Option (Member Id)) {record : Member Id}
    (live : record.leaving = false) :
    countOf (mergeEntry now entry record) =
      countOf entry ⊔ (record.count : WithBot Int) := by
  cases entry with
  | none =>
      rw [mergeEntry, live]
      exact (bot_sup_eq _).symm
  | some member =>
      change ((member.updateFrom now record).count : WithBot Int) =
        (member.count : WithBot Int) ⊔ (record.count : WithBot Int)
      rcases Member.updateFrom_cases now member record with
        ⟨notNewer, same⟩ | ⟨newer, count, _⟩
      · rw [same, sup_eq_left.mpr (WithBot.coe_le_coe.mpr notNewer)]
      · rw [count, sup_eq_right.mpr (WithBot.coe_le_coe.mpr
          (Int.le_of_lt newer))]

theorem countAt_mergeMap (live : Live incoming) :
    countAt (mergeMap now memberMap incoming) id =
      countAt memberMap id ⊔ countAt incoming id := by
  rw [countAt, find_mergeMap]
  cases found : incoming.find id with
  | none => simp [countAt, found, countOf]
  | some record =>
      have stays := live record (SortedMap.mem_of_find found)
      rw [countAt, countAt, found]
      exact countOf_mergeEntry (memberMap.find id) stays

/-- Merging maps one after the other gives the greatest counts. -/
theorem countAt_foldl_mergeMap (live : ∀ map ∈ maps, Live map) :
    countAt (maps.foldl (mergeMap now) memberMap) id =
      maxCount (memberMap :: maps) id := by
  induction maps generalizing memberMap with
  | nil => simp
  | cons map maps inductionHypothesis =>
      obtain ⟨now, later⟩ := List.forall_mem_cons.mp live
      rw [List.foldl_cons, inductionHypothesis later, maxCount_cons,
        countAt_mergeMap now, maxCount_cons, maxCount_cons, sup_assoc]

/-! ## Rounds -/

namespace DMember

variable {node final : DMember Id}

/-- What the map and the queue of a node know of an id. -/
def known (node : DMember Id) (id : Id) : WithBot Int :=
  maxCount (node.memberMap :: node.membersQueue) id

theorem known_pushMembersToQueue (members : MemberMap Id) :
    (node.pushMembersToQueue members).known id =
      node.known id ⊔ countAt members id := by
  rw [known, pushMembersToQueue, ← List.cons_append, maxCount_append, known]
  simp

/-- Where no member has failed, `updateMembers` removes no entry. -/
theorem find_updateMembers_of_noneFails
    (noneFails : (node.updateMembers now).2 = []) :
    (node.updateMembers now).1.memberMap.find id =
      (node.merged now).memberMap.find id := by
  rw [find_updateMembers]
  cases found : (node.merged now).memberMap.find id with
  | none => rfl
  | some member =>
      have stays := List.filter_eq_nil_iff.mp
        (List.map_eq_nil_iff.mp noneFails) member
        (SortedMap.mem_of_find found)
      exact Option.filter_some_pos (by simpa using stays)

/-- A round absorbs the queue. -/
theorem known_updateMembers
    (live : ∀ map ∈ node.membersQueue, Live map)
    (noneFails : (node.updateMembers now).2 = [])
    (isOther : id ≠ node.id) :
    (node.updateMembers now).1.known id = node.known id := by
  have untouched : countAt (node.updateSelf now).memberMap id =
      countAt node.memberMap id := by
    rw [countAt, find_updateSelf, if_neg isOther, countAt]
  have emptied : (node.updateMembers now).1.membersQueue = [] := rfl
  rw [known, emptied, maxCount_cons, maxCount_nil, sup_bot_eq, countAt,
    find_updateMembers_of_noneFails noneFails]
  refine (countAt_foldl_mergeMap live).trans ?_
  rw [known, maxCount_cons, maxCount_cons, untouched]

/-- What a node knows after a run is what it knew before and what it has
received. -/
theorem known_of_runs
    {trace : List (MergeAction Id)} {start : DMember Id}
    (live : ∀ map ∈ node.membersQueue ++ pushed trace, Live map)
    (noneFails : (mergeSystem start).Every NoneFails node trace)
    (runs : (mergeSystem start).Runs node trace final)
    (isOther : id ≠ node.id) :
    final.known id = node.known id ⊔ maxCount (pushed trace) id := by
  induction trace generalizing node with
  | nil =>
      obtain rfl := TransitionSystem.runs_nil_iff.mp runs
      exact (sup_bot_eq _).symm
  | cons action trace inductionHypothesis =>
      obtain ⟨next, stepped, rest⟩ := TransitionSystem.runs_cons_iff.mp runs
      have later := noneFails.2 next (by simp [stepped])
      cases action with
      | push members =>
          obtain rfl := Option.some.inj stepped
          have stillLive : ∀ map ∈
              (node.pushMembersToQueue members).membersQueue ++ pushed trace,
              Live map := by
            intro map isMap
            apply live map
            simpa [pushMembersToQueue, pushed] using isMap
          rw [inductionHypothesis stillLive later rest isOther,
            known_pushMembersToQueue, sup_assoc]
          exact congrArg _ maxCount_cons.symm
      | update now =>
          obtain rfl := Option.some.inj stepped
          have stillLive : ∀ map ∈
              (node.updateMembers now).1.membersQueue ++ pushed trace,
              Live map := fun map isMap =>
            live map (List.mem_append_right _ isMap)
          rw [inductionHypothesis stillLive later rest isOther,
            known_updateMembers
              (fun map isMap => live map (List.mem_append_left _ isMap))
              noneFails.1 isOther]
          rfl

end DMember

/-- However live maps are ordered, repeated and spread over calls of
`updateMembers`, if no call finds a failed member, then in the end every id
but the own one has the greatest of its counts, and the ids are those of the
map at the start and of the received ones. -/
theorem counts_of_runs
    (node : DMember Id) (maps : List (MemberMap Id))
    (live : ∀ map ∈ maps, Live map)
    (trace : List (MergeAction Id)) (final : DMember Id)
    (received : ∀ map,
      map ∈ node.membersQueue ++ pushed trace ↔ map ∈ maps)
    (noneFails : (mergeSystem node).Every NoneFails node trace)
    (runs : (mergeSystem node).Runs node trace final)
    (merged : final.membersQueue = []) :
    ∀ id, id ≠ node.id →
      countAt final.memberMap id = maxCount (node.memberMap :: maps) id ∧
        (final.memberMap.find id ≠ none ↔
          node.memberMap.find id ≠ none ∨
            ∃ map ∈ maps, map.find id ≠ none) := by
  intro id isOther
  have counts : countAt final.memberMap id =
      maxCount (node.memberMap :: maps) id := by
    have known := DMember.known_of_runs
      (fun map isMap => live map ((received map).mp isMap)) noneFails runs
      isOther
    rw [DMember.known, merged, maxCount_cons, maxCount_nil, sup_bot_eq,
      DMember.known, maxCount_cons, sup_assoc, ← maxCount_append,
      maxCount_congr received] at known
    rw [known, maxCount_cons]
  have unknown : final.memberMap.find id = none ↔
      node.memberMap.find id = none ∧ ∀ map ∈ maps, map.find id = none := by
    rw [← countAt_eq_bot_iff, counts, maxCount_eq_bot_iff,
      List.forall_mem_cons]
  refine ⟨counts, ?_⟩
  rw [ne_eq, unknown, not_and_or]
  apply or_congr_right
  push Not
  rfl

/-! A node whose entry for 2 is leaving gets two maps, one of them twice. -/

def olderMap : MemberMap Nat :=
  (SortedMap.empty.insert ⟨2, 5, 0, false⟩).insert ⟨3, 1, 0, false⟩

def newerMap : MemberMap Nat :=
  SortedMap.empty.insert ⟨2, 7, 0, false⟩

def receiver : DMember Nat :=
  { DMember.new 1 with
    memberMap := SortedMap.empty.insert ⟨2, 6, 0, true⟩ }

def arrivals : List (MergeAction Nat) :=
  [.push newerMap, .push olderMap, .update 10, .push newerMap, .update 20]

theorem counts_of_runs_arrivals :
    ∃ final, (mergeSystem receiver).Runs receiver arrivals final ∧
      ∀ id, id ≠ 1 →
        countAt final.memberMap id =
            maxCount [receiver.memberMap, olderMap, newerMap] id ∧
          (final.memberMap.find id ≠ none ↔
            receiver.memberMap.find id ≠ none ∨
              ∃ map ∈ [olderMap, newerMap], map.find id ≠ none) := by
  have runs : (mergeSystem receiver).Runs receiver arrivals _ := rfl
  refine ⟨_, runs, ?_⟩
  refine counts_of_runs receiver [olderMap, newerMap] (by decide) arrivals _
    (fun map => ?_) (by decide) runs rfl
  change map ∈ [newerMap, olderMap, newerMap] ↔ map ∈ [olderMap, newerMap]
  simp only [List.mem_cons, List.not_mem_nil, or_false]
  tauto

end Membership
end CraneSps
