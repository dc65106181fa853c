import CraneSps.Master.Orderly

/-!
# What the current master knows

A master accounts for a holder of a file if its map does, or if it is going
to.  As long as a node takes itself for the leader, it accounts for some
holder of every file that has one; while a file is being deleted, for all of
them.
-/

namespace CraneSps
namespace Master

open FileTransfer

variable {Id : Type} [DecidableEq Id]

namespace Group

/-- The stored files and the copies under way. -/
def files (group : Group Id) : Files Id where
  store := group.store
  approvals := group.approvals
  fetches := group.fetches

/-- The master has the holder in its map, is going to ask it or is going to
add it. -/
def Accounts
    (group : Group Id) (master id : Id) (filename : String) : Prop :=
  (group.fileMap master).hasFile id filename = true ∨
    (∃ rebuild ∈ group.rebuilds,
      rebuild.master = master ∧ id ∈ rebuild.remaining) ∨
    ∃ info, .registering master id info ∈ group.handlers ∧
      info.name = filename

/-- A master with a larger map and more to do accounts for more. -/
theorem Accounts.mono
    {group next : Group Id} {master id : Id} {filename : String}
    (accounts : group.Accounts master id filename)
    (maps : (group.fileMap master).hasFile id filename = true →
      (next.fileMap master).hasFile id filename = true)
    (rebuilds : group.rebuilds ⊆ next.rebuilds)
    (handlers : group.handlers ⊆ next.handlers) :
    next.Accounts master id filename := by
  rcases accounts with inMap | ⟨rebuild, ongoing, unlisted⟩ |
    ⟨info, handled, named⟩
  · exact .inl (maps inMap)
  · exact .inr (.inl ⟨rebuild, rebuilds ongoing, unlisted⟩)
  · exact .inr (.inr ⟨info, handlers handled, named⟩)

/-- A master that leads accounts for the file. -/
def Tracked (group : Group Id) (filename : String) : Prop :=
  ∀ master, group.leader master = some master →
    ∀ id, group.files.Holds id filename →
      ∃ holder, group.files.Holds holder filename ∧
        group.Accounts master holder filename

/-- Nothing of the file is under way. -/
structure Still (group : Group Id) (filename : String) : Prop where
  withdrawn : filename ∉ group.standing
  unapproved : ∀ approval ∈ group.approvals, approval.filename ≠ filename
  unfetched : ∀ fetch ∈ group.fetches, fetch.client.filename ≠ filename

/-- A master that leads accounts for all holders of the file. -/
def AllTracked (group : Group Id) (filename : String) : Prop :=
  ∀ master, group.leader master = some master →
    ∀ id, group.files.Holds id filename → group.Accounts master id filename

/-- The file is being deleted. -/
def Deleting (group : Group Id) (filename : String) : Prop :=
  ∃ handler ∈ group.handlers, handler.Deletes filename

/-- What orderly steps preserve. -/
structure Consistent (live : List Id) (group : Group Id) : Prop where
  sound : group.files.Sound live
  leadersLive : ∀ id, group.leader id ≠ none → id ∈ live
  tracked : ∀ filename, group.Tracked filename
  still : ∀ filename, group.Deleting filename → group.Still filename
  allTracked : ∀ filename, group.Deleting filename →
    group.AllTracked filename
  standing : ∀ filename ∈ group.standing,
    ∃ id, group.files.Holds id filename

/-- No holder and nothing that a master knows of one is lost, and nothing of a
file that is being deleted is added. -/
structure Extends (group next : Group Id) : Prop where
  leaders : ∀ master, next.leader master = some master →
    group.leader master = some master
  kept : ∀ id filename, group.files.Holds id filename →
    next.files.Holds id filename
  known : ∀ id filename, next.files.Holds id filename →
    ∃ other, group.files.Holds other filename
  accounts : ∀ master id filename, group.leader master = some master →
    group.files.Holds id filename →
      group.Accounts master id filename →
        next.Accounts master id filename
  standing : next.standing = group.standing
  deleting : ∀ filename, next.Deleting filename → group.Deleting filename
  still : ∀ filename, group.Deleting filename → group.Still filename →
    next.Still filename
  others : ∀ id filename, group.Deleting filename → group.Still filename →
    next.files.Holds id filename → group.files.Holds id filename

/-- A step that changes no files. -/
theorem Extends.of_files
    {group next : Group Id}
    (sameFiles : next.files = group.files)
    (standing : next.standing = group.standing)
    (leaders : ∀ master, next.leader master = some master →
      group.leader master = some master)
    (accounts : ∀ master id filename, group.leader master = some master →
      group.files.Holds id filename →
        group.Accounts master id filename →
          next.Accounts master id filename)
    (deleting : ∀ filename, next.Deleting filename →
      group.Deleting filename) :
    Extends group next where
  leaders := leaders
  kept := fun id filename holds => sameFiles ▸ holds
  known := fun id filename holds => ⟨id, sameFiles ▸ holds⟩
  accounts := accounts
  standing := standing
  deleting := deleting
  still := by
    intro filename _ still
    have approvals : next.approvals = group.approvals :=
      congrArg Files.approvals sameFiles
    have fetches : next.fetches = group.fetches :=
      congrArg Files.fetches sameFiles
    exact
      { withdrawn := by
          rw [standing]
          exact still.withdrawn
        unapproved := by
          rw [approvals]
          exact still.unapproved
        unfetched := by
          rw [fetches]
          exact still.unfetched }
  others := fun id filename _ _ holds => sameFiles ▸ holds

namespace Consistent

variable {live : List Id} {group next : Group Id} {filename : String}

/-- Without holders there is nothing of a file. -/
theorem unused
    (consistent : Consistent live group)
    (nobody : ∀ id, ¬ group.files.Holds id filename) :
    Unused live group filename where
  nowhere := by
    intro id _
    refine ⟨?_, fun registered => nobody id (.inl registered)⟩
    by_contra present
    exact nobody id
      (.inl ((consistent.sound.tidy id).registered filename present))
  withdrawn := by
    intro stands
    obtain ⟨id, holds⟩ := consistent.standing filename stands
    exact nobody id holds

/-- A master that all follow is the only one that leads. -/
theorem eq_of_follows
    (consistent : Consistent live group) {master other : Id}
    (follows : Follows live group master)
    (leads : group.leader other = some other) :
    master = other := by
  have isLive : other ∈ live := by
    apply consistent.leadersLive other
    rw [leads]
    exact Option.some_ne_none other
  exact Option.some.inj ((follows other isLive).symm.trans leads)

/-- A step that loses nothing. -/
theorem extend
    (consistent : Consistent live group)
    (keeps : Extends group next)
    (sound : next.files.Sound live)
    (leadersLive : ∀ id, next.leader id ≠ none → id ∈ live) :
    Consistent live next where
  sound := sound
  leadersLive := leadersLive
  tracked := by
    intro filename master leads id holds
    obtain ⟨other, held⟩ := keeps.known id filename holds
    have led := keeps.leaders master leads
    obtain ⟨holder, isHolder, accounts⟩ :=
      consistent.tracked filename master led other held
    exact ⟨holder, keeps.kept holder filename isHolder,
      keeps.accounts master holder filename led isHolder accounts⟩
  still := by
    intro filename deleting
    have before := keeps.deleting filename deleting
    exact keeps.still filename before (consistent.still filename before)
  allTracked := by
    intro filename deleting master leads id holds
    have before := keeps.deleting filename deleting
    have held := keeps.others id filename before
      (consistent.still filename before) holds
    have led := keeps.leaders master leads
    exact keeps.accounts master id filename led held
      (consistent.allTracked filename before master led id held)
  standing := by
    intro filename stands
    rw [keeps.standing] at stands
    obtain ⟨id, holds⟩ := consistent.standing filename stands
    exact ⟨id, keeps.kept id filename holds⟩

/-- In the beginning there are no copies. -/
theorem not_copy_initial
    {name : Id → String} {filename : String} {content : Bytes} :
    ¬ (Group.initial name).files.Copy filename content := by
  intro copy
  cases copy with
  | stored id present => nomatch present
  | approved approval underway named ofContent => nomatch underway
  | fetched fetch underway named ofContent => nomatch underway

theorem initial (name : Id → String) :
    Consistent live (Group.initial name) where
  sound :=
    { tidy := fun _ =>
        { distinct := List.nodup_nil
          registered := fun _ present => absurd rfl present }
      holdersLive := by
        rintro id filename (registered | ⟨approval, underway, _⟩)
        · cases registered
        · cases underway
      complete := fun _ _ registered => nomatch registered
      fetching := fun _ underway => nomatch underway
      apart := .nil
      oneContent := fun _ _ _ copy => absurd copy not_copy_initial
      nonempty := fun _ _ copy => absurd copy not_copy_initial
      fits := fun _ _ copy => absurd copy not_copy_initial }
  leadersLive := fun _ known => absurd rfl known
  tracked := fun _ _ leads => nomatch leads
  still := fun _ ⟨_, handled, _⟩ => nomatch handled
  allTracked := fun _ ⟨_, handled, _⟩ => nomatch handled
  standing := fun _ stands => nomatch stands

end Consistent

end Group

end Master
end CraneSps
