import CraneSps.Foundation.SortedMap
import Mathlib.Algebra.Group.Nat.Defs

/-!
# Membership records

What a node knows of a member: a heartbeat count, the time of the last update
on its own clock, and whether the member is leaving.  Records are merged by
their counts, so the record with the greater count prevails.
-/

namespace CraneSps
namespace Membership

/-- `Member`; times are in nanoseconds. -/
structure Member (Id : Type) where
  id : Id
  count : Int
  lastUpdate : Int
  leaving : Bool
  deriving DecidableEq

namespace Member

variable {Id : Type}

/-- `T_FAIL`, in milliseconds. -/
def tFail : Int := 2000

/-- `T_CLEANUP`, in milliseconds. -/
def tCleanup : Int := 2000

/-- `update` with heartbeating information. -/
def update
    (member : Member Id) (count timestamp : Int) (leaving : Bool) :
    Member Id :=
  { member with count := count, lastUpdate := timestamp, leaving := leaving }

/-- `update` with another record of the member. -/
def updateFrom (now : Int) (member other : Member Id) : Member Id :=
  if other.count > member.count then
    { member with
      count := other.count
      lastUpdate := now
      leaving := other.leaving }
  else member

/-- The milliseconds since the last update, as an `int`. -/
def duration (now : Int) (member : Member Id) : Int :=
  ((now - member.lastUpdate).tdiv 1000000).bmod (2 ^ 32)

/-- `isTimedOut`. -/
def isTimedOut (now : Int) (member : Member Id) : Bool :=
  member.duration now > tFail

/-- `shouldBeCleanUp`. -/
def shouldBeCleanUp (now : Int) (member : Member Id) : Bool :=
  member.duration now > tFail + tCleanup && !member.leaving

variable {now : Int} {member other : Member Id}

@[simp] theorem update_id (count timestamp : Int) (leaving : Bool) :
    (member.update count timestamp leaving).id = member.id := rfl

@[simp] theorem updateFrom_id :
    (member.updateFrom now other).id = member.id := by
  unfold updateFrom
  split <;> rfl

/-- A merge changes nothing, or it takes over a greater count. -/
theorem updateFrom_cases (now : Int) (member other : Member Id) :
    (other.count ≤ member.count ∧ member.updateFrom now other = member) ∨
      (member.count < other.count ∧
        (member.updateFrom now other).count = other.count ∧
        (member.updateFrom now other).leaving = other.leaving) := by
  unfold updateFrom
  split
  · next newer => exact .inr ⟨newer, rfl, rfl⟩
  · next notNewer => exact .inl ⟨by omega, rfl⟩

/-- A record that has just been updated is not cleaned up. -/
theorem shouldBeCleanUp_of_now (updated : member.lastUpdate = now) :
    member.shouldBeCleanUp now = false := by
  rw [shouldBeCleanUp, duration, updated, Int.sub_self]
  rfl

end Member

/-- A map from ids to records, in the order of the ids. -/
abbrev MemberMap (Id : Type) [LinearOrder Id] : Type :=
  SortedMap (Member.id : Member Id → Id)

/-! ## Merging a map into another one -/

section Merge

variable {Id : Type}

/-- What a received record does to the entry of its member. -/
def mergeEntry (now : Int) :
    Option (Member Id) → Member Id → Option (Member Id)
  | some member, record => some (member.updateFrom now record)
  | none, record =>
      if record.leaving then none else some { record with lastUpdate := now }

/-- How often the records refresh an entry. -/
def refreshes (now : Int) : Member Id → List (Member Id) → Nat
  | _, [] => 0
  | member, record :: records =>
      (if record.count > member.count then 1 else 0) +
        refreshes now (member.updateFrom now record) records

variable {now : Int} {member : Member Id} {records : List (Member Id)}

/-- Merged entries have counts and leaving marks of what they were made of. -/
theorem foldl_mergeEntry_of_forall
    {holds : Int → Bool → Prop} {entry : Option (Member Id)}
    (ofEntry : ∀ old, entry = some old → holds old.count old.leaving)
    (ofRecords : ∀ record ∈ records, holds record.count record.leaving)
    (merged : records.foldl (mergeEntry now) entry = some member) :
    holds member.count member.leaving := by
  induction records generalizing entry with
  | nil => exact ofEntry member merged
  | cons record records inductionHypothesis =>
      refine inductionHypothesis ?_
        (fun later isLater =>
          ofRecords later (List.mem_cons_of_mem record isLater)) merged
      have ofRecord := ofRecords record List.mem_cons_self
      intro next isNext
      cases entry with
      | none =>
          rw [mergeEntry] at isNext
          split at isNext
          · cases isNext
          · obtain rfl := Option.some.inj isNext
            exact ofRecord
      | some old =>
          obtain rfl := Option.some.inj isNext
          rcases Member.updateFrom_cases now old record with
            ⟨_, same⟩ | ⟨_, count, leaving⟩
          · rw [same]
            exact ofEntry old rfl
          · rw [count, leaving]
            exact ofRecord

/-- An entry stays an entry, and its count pays for every refresh. -/
theorem foldl_mergeEntry_some (now : Int) (member : Member Id)
    (records : List (Member Id)) :
    ∃ merged, records.foldl (mergeEntry now) (some member) = some merged ∧
      (merged = member ∨ member.count < merged.count) ∧
      member.count + refreshes now member records ≤ merged.count := by
  induction records generalizing member with
  | nil => exact ⟨member, rfl, .inl rfl, by simp [refreshes]⟩
  | cons record records inductionHypothesis =>
      obtain ⟨merged, isMerged, grows, paid⟩ :=
        inductionHypothesis (member.updateFrom now record)
      refine ⟨merged, isMerged, ?_, ?_⟩
      · rcases Member.updateFrom_cases now member record with
          ⟨_, same⟩ | ⟨newer, count, _⟩
        · rwa [same] at grows
        · right
          rw [count] at grows
          rcases grows with rfl | more
          · rw [count]
            exact newer
          · exact Int.lt_trans newer more
      · rw [refreshes]
        rcases Member.updateFrom_cases now member record with
          ⟨notNewer, same⟩ | ⟨newer, count, _⟩
        · rw [same] at paid ⊢
          rw [if_neg (by omega)]
          omega
        · rw [count] at paid
          rw [if_pos newer]
          omega

/-- A merged entry is as new as every record that was merged into it. -/
theorem count_le_foldl_mergeEntry {merged record : Member Id}
    (isMerged : records.foldl (mergeEntry now) (some member) = some merged)
    (isRecord : record ∈ records) : record.count ≤ merged.count := by
  induction records generalizing member with
  | nil => nomatch isRecord
  | cons first records inductionHypothesis =>
      rcases List.mem_cons.mp isRecord with rfl | later
      · obtain ⟨last, isLast, grows, _⟩ := foldl_mergeEntry_some now
          (member.updateFrom now record) records
        have same := isLast.symm.trans isMerged
        obtain rfl := Option.some.inj same
        rcases Member.updateFrom_cases now member record with
          ⟨notNewer, same⟩ | ⟨newer, count, _⟩
        · rw [same] at grows
          rcases grows with rfl | more <;> omega
        · rcases grows with rfl | more <;> omega
      · exact inductionHypothesis isMerged later

/-- An entry that merging has changed has been updated just now. -/
theorem foldl_mergeEntry_lastUpdate {entry : Option (Member Id)}
    {merged : Member Id}
    (isMerged : records.foldl (mergeEntry now) entry = some merged) :
    entry = some merged ∨ merged.lastUpdate = now := by
  induction records generalizing entry with
  | nil => exact .inl isMerged
  | cons record records inductionHypothesis =>
      rcases inductionHypothesis isMerged with before | updated
      · cases entry with
        | none =>
            rw [mergeEntry] at before
            split at before
            · cases before
            · obtain rfl := Option.some.inj before
              exact .inr rfl
        | some old =>
            obtain rfl := Option.some.inj before
            unfold Member.updateFrom
            split
            · exact .inr rfl
            · exact .inl rfl
      · exact .inr updated

/-- The record that brings an unknown member into the map. -/
def newcomer (records : List (Member Id)) : Option (Member Id) :=
  records.find? fun record => !record.leaving

/-- An entry that was unknown before is as new as the record that brought
it. -/
theorem exists_newcomer {merged : Member Id}
    (isMerged : records.foldl (mergeEntry now) none = some merged) :
    ∃ record, newcomer records = some record ∧
      record.count ≤ merged.count := by
  induction records with
  | nil => nomatch isMerged
  | cons record records inductionHypothesis =>
      cases leaves : record.leaving with
      | true =>
          rw [List.foldl_cons, mergeEntry, if_pos leaves] at isMerged
          obtain ⟨first, isFirst, older⟩ := inductionHypothesis isMerged
          refine ⟨first, ?_, older⟩
          rwa [newcomer, List.find?_cons_of_neg (by simp [leaves])]
      | false =>
          rw [List.foldl_cons, mergeEntry,
            if_neg (Bool.not_eq_true _ ▸ leaves)] at isMerged
          obtain ⟨last, isLast, grows, _⟩ := foldl_mergeEntry_some now
            { record with lastUpdate := now } records
          have same := isLast.symm.trans isMerged
          obtain rfl := Option.some.inj same
          refine ⟨record, List.find?_cons_of_pos (by simp [leaves]), ?_⟩
          rcases grows with rfl | more
          · exact Int.le_refl _
          · exact Int.le_of_lt more

/-- Records that are not newer change nothing. -/
theorem foldl_mergeEntry_of_le
    (old : ∀ record ∈ records, record.count ≤ member.count) :
    records.foldl (mergeEntry now) (some member) = some member := by
  induction records with
  | nil => rfl
  | cons record records inductionHypothesis =>
      have same : member.updateFrom now record = member :=
        if_neg (Int.not_lt.mpr (old record List.mem_cons_self))
      rw [List.foldl_cons, mergeEntry, same]
      exact inductionHypothesis fun later isLater =>
        old later (List.mem_cons_of_mem record isLater)

variable [LinearOrder Id]

/-- The body of the inner loop of `updateMembers`. -/
def mergeRecord
    (now : Int) (memberMap : MemberMap Id) (record : Member Id) :
    MemberMap Id :=
  match memberMap.find record.id with
  | some member => memberMap.insert (member.updateFrom now record)
  | none =>
      if record.leaving then memberMap
      else memberMap.insert { record with lastUpdate := now }

/-- The inner loop of `updateMembers`. -/
def mergeMap
    (now : Int) (memberMap incoming : MemberMap Id) : MemberMap Id :=
  incoming.entries.foldl (mergeRecord now) memberMap

/-- The records that some maps hold for an id, in the order of the maps. -/
def recordsOf (maps : List (MemberMap Id)) (id : Id) : List (Member Id) :=
  maps.filterMap fun map => map.find id

variable {memberMap incoming : MemberMap Id} {record : Member Id} {id : Id}

theorem find_mergeRecord :
    (mergeRecord now memberMap record).find id =
      if id = record.id then mergeEntry now (memberMap.find id) record
      else memberMap.find id := by
  unfold mergeRecord
  split
  · next member found =>
      have sameId : (member.updateFrom now record).id = record.id :=
        Member.updateFrom_id.trans (SortedMap.key_of_find found)
      rw [SortedMap.find_insert, sameId]
      split
      · next same => rw [same, found, mergeEntry]
      · rfl
  · next missing =>
      split
      · next isLeaving =>
          split
          · next same =>
              rw [same, missing, mergeEntry, if_pos isLeaving]
          · rfl
      · next stays =>
          rw [SortedMap.find_insert]
          split
          · next same =>
              rw [same, missing, mergeEntry, if_neg stays]
          · rfl

theorem find_mergeMap :
    (mergeMap now memberMap incoming).find id =
      (incoming.find id).elim (memberMap.find id)
        (mergeEntry now (memberMap.find id)) := by
  have isolated : ∀ (map : MemberMap Id) (record : Member Id) (id : Id),
      (mergeRecord now map record).find id =
        if id = record.id then mergeEntry now (map.find id) record
        else map.find id := fun _ _ _ => find_mergeRecord
  exact SortedMap.find_foldl isolated incoming memberMap id

/-- Merging many maps merges the records of each id in their order. -/
theorem find_foldl_mergeMap (maps : List (MemberMap Id)) :
    (maps.foldl (mergeMap now) memberMap).find id =
      (recordsOf maps id).foldl (mergeEntry now) (memberMap.find id) := by
  induction maps generalizing memberMap with
  | nil => rfl
  | cons map maps inductionHypothesis =>
      rw [List.foldl_cons, inductionHypothesis, find_mergeMap, recordsOf,
        recordsOf, List.filterMap_cons]
      cases map.find id <;> rfl

end Merge

end Membership
end CraneSps
