import CraneSps.Foundation.RingGraph
import Mathlib.Data.Finset.Image
import Mathlib.Data.List.Nodup
import Mathlib.Data.List.Sort

/-!
# Who listens to whose heartbeats

Every node computes its subscriptions from the sorted list of the members: all
other members while the list is short, and otherwise one more predecessor than
failures are to be tolerated.  Besides, every node always listens to the
introducer, which is left out of account here.
-/

namespace CraneSps
namespace Membership

variable {Id : Type} [DecidableEq Id]

/-- The loop that finds the node itself in the list. -/
def memberIndex (members : List Id) (id : Id) : Nat :=
  members.findIdx fun member => member == id

/-- The indices of the predecessors. -/
def targetIndices (size index maxFail : Int) : List Int :=
  (List.range' 1 (maxFail + 1).toNat).map fun (i : Nat) =>
    (index - i + size).tmod size

/-- The indices at which `updateConnection` reads the list. -/
def readIndices (members : List Id) (id : Id) (maxFail : Int) : List Int :=
  if members.length ≤ maxFail + 1 then []
  else targetIndices members.length (memberIndex members id) maxFail

/-- The member at an index, if it is one of the list. -/
def memberAt (members : List Id) : Int → Option Id
  | .ofNat index => members[index]?
  | .negSucc _ => none

/-- The members that `updateConnection` subscribes to. -/
def memberConnections
    (members : List Id) (id : Id) (maxFail : Int) : List Id :=
  if members.length ≤ maxFail + 1 then
    members.filter fun member => member != id
  else (readIndices members id maxFail).filterMap (memberAt members)

/-- The connections that `updateConnection` makes, if it replaces the
socket. -/
def updateConnection
    (introducerAddress : Id) (members : List Id) (id : Id) (maxFail : Int) :
    Option (List Id) :=
  if members.length = 1 then none
  else some (introducerAddress :: memberConnections members id maxFail)

/-- The node subscribes to the other one because of the list. -/
def Subscribes (members : List Id) (maxFail : Int) (id target : Id) : Prop :=
  target ∈ memberConnections members id maxFail

/-- What the subscriptions of a group are good for. -/
structure FaultTolerant
    (introducerAddress : Id) (members : List Id) (maxFail : Nat) : Prop where
  connects : ∀ id ∈ members,
    updateConnection introducerAddress members id maxFail =
      some (introducerAddress :: memberConnections members id maxFail)
  inRange : ∀ id ∈ members, ∀ index ∈ readIndices members id maxFail,
    0 ≤ index ∧ index < members.length
  irreflexive : ∀ id ∈ members, ¬ Subscribes members maxFail id id
  connected : ∀ failed : Finset Id, failed.card ≤ maxFail →
    StronglyConnected (Subscribes members maxFail)
      {id | id ∈ members ∧ id ∉ failed}
  watched : ∀ failed : Finset Id, failed.card ≤ maxFail →
    ∀ id ∈ members, id ∉ failed → ∀ other ∈ members, other ∉ failed →
      id ≠ other → ∃ watcher ∈ members, watcher ∉ failed ∧
        Subscribes members maxFail watcher id

variable {members : List Id} {id target : Id} {maxFail : Nat}

theorem memberIndex_eq_idxOf : memberIndex members id = members.idxOf id :=
  rfl

theorem memberIndex_lt (isMember : id ∈ members) :
    memberIndex members id < members.length :=
  List.idxOf_lt_length_of_mem isMember

theorem memberAt_memberIndex (isMember : id ∈ members) :
    memberAt members (memberIndex members id) = some id := by
  have found := List.getElem_idxOf (memberIndex_lt isMember)
  exact (List.getElem?_eq_getElem (memberIndex_lt isMember)).trans
    (congrArg some found)

theorem memberIndex_inj
    (isMember : id ∈ members) (targetMember : target ∈ members)
    (same : memberIndex members id = memberIndex members target) :
    id = target := by
  have found := memberAt_memberIndex isMember
  rw [same, memberAt_memberIndex targetMember] at found
  exact (Option.some.inj found).symm

/-- The index computation is a walk back around the ring. -/
theorem tmod_eq_back
    {index size steps : Nat} (short : steps ≤ size) :
    ((index : Int) - steps + size).tmod size =
      RingGraph.back size index steps := by
  have nonneg : (index : Int) - steps + size =
      ((index + size - steps : Nat) : Int) := by
    omega
  rw [nonneg, RingGraph.back, Int.ofNat_tmod]

/-- In a long list the indices are those of the predecessors. -/
theorem mem_readIndices_iff
    (long : maxFail + 1 < members.length) {index : Int} :
    index ∈ readIndices members id maxFail ↔
      ∃ steps, 1 ≤ steps ∧ steps ≤ maxFail + 1 ∧
        (RingGraph.back members.length (memberIndex members id) steps : Int) =
          index := by
  have branch : ¬ (members.length : Int) ≤ (maxFail : Int) + 1 := by omega
  have rounds : ((maxFail : Int) + 1).toNat = maxFail + 1 := by omega
  rw [readIndices, if_neg branch, targetIndices, rounds, List.mem_map]
  simp only [List.mem_range'_1]
  constructor
  · rintro ⟨steps, ⟨some, bound⟩, rfl⟩
    exact ⟨steps, some, by omega, (tmod_eq_back (by omega)).symm⟩
  · rintro ⟨steps, some, bound, rfl⟩
    exact ⟨steps, ⟨some, by omega⟩, tmod_eq_back (by omega)⟩

/-- In a short list a member subscribes to all others. -/
theorem subscribes_iff_of_short
    (short : members.length ≤ maxFail + 1) :
    Subscribes members maxFail id target ↔ target ∈ members ∧ target ≠ id := by
  have branch : (members.length : Int) ≤ (maxFail : Int) + 1 := by omega
  rw [Subscribes, memberConnections, if_pos branch, List.mem_filter,
    bne_iff_ne]

/-- In a long list of distinct members the subscriptions are the edges of a
ring. -/
theorem subscribes_iff_of_long
    (distinct : members.Nodup) (long : maxFail + 1 < members.length) :
    Subscribes members maxFail id target ↔
      target ∈ members ∧ RingGraph.Edge members.length (maxFail + 1)
        (memberIndex members id) (memberIndex members target) := by
  have branch : ¬ (members.length : Int) ≤ (maxFail : Int) + 1 := by omega
  rw [Subscribes, memberConnections, if_neg branch, List.mem_filterMap]
  constructor
  · rintro ⟨index, isRead, isTarget⟩
    obtain ⟨steps, some, bound, rfl⟩ := (mem_readIndices_iff long).mp isRead
    obtain ⟨inside, rfl⟩ := List.getElem?_eq_some_iff.mp isTarget
    exact ⟨List.getElem_mem inside, steps, some, bound,
      (distinct.idxOf_getElem _ inside).symm⟩
  · rintro ⟨isMember, steps, some, bound, isIndex⟩
    refine ⟨_, (mem_readIndices_iff long).mpr ⟨steps, some, bound, rfl⟩, ?_⟩
    rw [isIndex, memberAt_memberIndex isMember]

/-- Members that have not failed are strongly connected. -/
theorem stronglyConnected_of_few
    (distinct : members.Nodup) {failed : Finset Id}
    (few : failed.card ≤ maxFail) :
    StronglyConnected (Subscribes members maxFail)
      {id | id ∈ members ∧ id ∉ failed} := by
  by_cases short : members.length ≤ maxFail + 1
  · apply stronglyConnected_of_complete
    intro source _ target hasTarget differs
    exact (subscribes_iff_of_short short).mpr ⟨hasTarget.1, differs.symm⟩
  · have long : maxFail + 1 < members.length := by omega
    have fewPlaces : (failed.image (memberIndex members)).card < maxFail + 1 :=
      Nat.lt_succ_of_le (Finset.card_image_le.trans few)
    have ring := RingGraph.stronglyConnected long.le fewPlaces
    refine ring.of_numbering (memberIndex members) ?_ ?_ ?_ ?_
    · intro source _ target hasTarget isEdge
      exact (subscribes_iff_of_long distinct long).mpr ⟨hasTarget.1, isEdge⟩
    · rintro other ⟨isMember, alive⟩
      refine ⟨memberIndex_lt isMember, fun isFailed => ?_⟩
      obtain ⟨dead, isDead, same⟩ := Finset.mem_image.mp isFailed
      have deadMember : dead ∈ members := by
        rw [← List.idxOf_lt_length_iff, ← memberIndex_eq_idxOf, same]
        exact memberIndex_lt isMember
      exact alive (memberIndex_inj deadMember isMember same ▸ isDead)
    · rintro place ⟨inside, alive⟩
      have isPlace : memberIndex members members[place] = place :=
        distinct.idxOf_getElem place inside
      refine ⟨members[place], ⟨List.getElem_mem inside, fun isFailed => ?_⟩,
        isPlace⟩
      exact alive (Finset.mem_image.mpr ⟨_, isFailed, isPlace⟩)
    · intro first isFirst second isSecond same
      exact memberIndex_inj isFirst.1 isSecond.1 same

/-- For every number of failures and every sorted list of at least two ids,
the subscriptions stay within the list, no node subscribes to itself, and the
nodes that are left after the failures are strongly connected. -/
theorem faultTolerant_of_sorted
    {Id : Type} [LinearOrder Id] (introducerAddress : Id) (maxFail : Nat)
    {members : List Id} (sorted : members.Pairwise (· < ·))
    (several : 2 ≤ members.length) :
    FaultTolerant introducerAddress members maxFail where
  connects := by
    intro id _
    rw [updateConnection, if_neg (by omega)]
  inRange := by
    intro id isMember index isRead
    by_cases short : members.length ≤ maxFail + 1
    · rw [readIndices, if_pos (by omega)] at isRead
      nomatch isRead
    · obtain ⟨steps, _, _, rfl⟩ :=
        (mem_readIndices_iff (by omega)).mp isRead
      exact ⟨Int.natCast_nonneg _,
        Int.ofNat_lt.mpr (RingGraph.back_lt (by omega))⟩
  irreflexive := by
    intro id isMember subscribes
    by_cases short : members.length ≤ maxFail + 1
    · exact ((subscribes_iff_of_short short).mp subscribes).2 rfl
    · obtain ⟨_, steps, some, bound, isSelf⟩ :=
        (subscribes_iff_of_long sorted.nodup (by omega)).mp subscribes
      exact RingGraph.back_ne_self (memberIndex_lt isMember) some (by omega)
        isSelf
  connected := fun _ few => stronglyConnected_of_few sorted.nodup few
  watched := by
    intro failed few id isMember alive other otherMember otherAlive differs
    obtain ⟨watcher, ⟨isWatcher, watcherAlive⟩, subscribes⟩ :=
      (stronglyConnected_of_few sorted.nodup few).exists_edge_to
        ⟨otherMember, otherAlive⟩ ⟨isMember, alive⟩ differs.symm
    exact ⟨watcher, isWatcher, watcherAlive, subscribes⟩

/-- Seven nodes, of which two may fail. -/
theorem faultTolerant_seven :
    FaultTolerant 1 [1, 2, 3, 4, 5, 6, 7] 2 :=
  faultTolerant_of_sorted 1 2 (by decide) (by decide)

end Membership
end CraneSps
