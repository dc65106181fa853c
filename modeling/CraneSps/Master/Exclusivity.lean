import CraneSps.Master.Bookkeeping

/-!
# Exclusive names

In an orderly run a `PUT` is approved only while nobody has the file.  The
counterexample is a master that approves before it has asked the other nodes
for their files.
-/

namespace CraneSps
namespace Master

open FileTransfer

variable {Id : Type} [DecidableEq Id]

namespace Group

variable {live : List Id} {group next : Group Id}
variable {shell : Shell}

/-- Sound files have one content under each name. -/
theorem Consistent.storesOneContent
    (consistent : Consistent live group) : OneContent live group := by
  intro filename id _ other _ content present another alsoPresent
  exact consistent.sound.oneContent filename content another
    (.stored id present) (.stored other alsoPresent)

/-- After orderly steps, an orderly `PUT` is approved only if no live node
stores the file and no approved `PUT` of it stands; and no file is stored with
two contents. -/
theorem exclusive_of_orderly
    {name : Id → String} {trace : List (GroupAction Id)}
    (every : (groupSystem shell live name).Every (Orderly live)
      (Group.initial name) trace)
    (runs : (groupSystem shell live name).Runs (Group.initial name) trace
      group) :
    (∀ master ∈ live, ∀ putter filename content,
      Orderly live group (.put master putter filename content) →
        group.Approves master filename → Unused live group filename) ∧
      OneContent live group := by
  have consistent : Consistent live group :=
    every.invariant runs (Consistent live)
      (fun _ _ _ before orderly stepped => before.step orderly stepped)
      (Consistent.initial name)
  refine ⟨?_, consistent.storesOneContent⟩
  intro master masterLive putter filename content orderly approves
  obtain ⟨follows, settled, unhandled, _⟩ := orderly approves.2
  exact consistent.unused (consistent.nobody masterLive follows settled
    unhandled approves.2)

end Group

/-- Node `1` is elected and puts a file, which is copied to node `2`; then
node `2` is elected, asks both nodes for their files, and deletes it. -/
def orderlyChange : List (GroupAction Nat) :=
  [.leaderElected 1 1 [1, 2], .leaderElected 2 1 [1, 2],
    .list 0, .updateFileMap 0, .list 0, .updateFileMap 0,
    .put 1 1 "f" [1], .addToFileMap 0, .receiveApproval 0,
    .sendFileRequest 1 2 "f" 9601, .finishFetch 0,
    .leaderElected 1 2 [1, 2], .leaderElected 2 2 [1, 2],
    .list 1, .updateFileMap 1, .list 1, .updateFileMap 1,
    .delete 2 "f" [1, 2], .deleteNext 0, .deleteNext 0, .deleteNext 0]

/-- Then another content may be put under the name. -/
theorem unused_of_orderlyChange :
    ∃ group ∈ (groupSystem (.strict fun _ => "") [1, 2] fun _ => "").run
        (Group.initial fun _ => "") orderlyChange,
      (0 < group.serving 2 ∧
        (group.fileMap 2).countReplicates "f" = 0) ∧
      Group.Unused [1, 2] group "f" ∧ Group.OneContent [1, 2] group := by
  have every : (groupSystem (.strict fun _ => "") [1, 2] fun _ => "").Every
      (Group.Orderly [1, 2]) (Group.initial fun _ => "") orderlyChange := by
    decide
  obtain ⟨group, runs, approves, orderly⟩ :
      ∃ group ∈ (groupSystem (.strict fun _ => "") [1, 2] fun _ => "").run
          (Group.initial fun _ => "") orderlyChange,
        (0 < group.serving 2 ∧
          (group.fileMap 2).countReplicates "f" = 0) ∧
        Group.Orderly [1, 2] group (.put 2 1 "f" [2]) := by
    decide
  obtain ⟨exclusive, oneContent⟩ := Group.exclusive_of_orderly every runs
  exact ⟨group, runs, approves,
    exclusive 2 (by decide) 1 "f" [2] orderly approves, oneContent⟩

/-- Node `2` is elected after a `PUT` and handles another one before it asks
for the files. -/
def hastyMaster : List (GroupAction Nat) :=
  [.leaderElected 1 1 [1, 2], .leaderElected 2 1 [1, 2],
    .list 0, .updateFileMap 0, .list 0, .updateFileMap 0,
    .put 1 1 "f" [1], .addToFileMap 0, .receiveApproval 0,
    .leaderElected 1 2 [1, 2], .leaderElected 2 2 [1, 2]]

/-- It approves although node `1` stores the file. -/
theorem not_exclusive_of_rebuild :
    ¬ ∀ (live : List Nat) (name : Nat → String)
        (trace : List (GroupAction Nat)) (group : Group Nat),
      (groupSystem (.strict fun _ => "") live name).Runs (Group.initial name)
          trace group →
        (∀ master ∈ live, ∀ filename, group.Approves master filename →
          Group.Unused live group filename) ∧
        Group.OneContent live group := by
  intro claim
  obtain ⟨group, runs, approves, stores⟩ :
      ∃ group ∈ (groupSystem (.strict fun _ => "") [1, 2] fun _ => "").run
          (Group.initial fun _ => "") hastyMaster,
        (0 < group.serving 2 ∧
          (group.fileMap 2).countReplicates "f" = 0) ∧
        (group.store 1).stored "f" = some [1] := by
    decide
  have unused := (claim [1, 2] (fun _ => "") hastyMaster group runs).1 2
    (by decide) "f" approves
  rw [(unused.nowhere 1 (by decide)).1] at stores
  nomatch stores

end Master
end CraneSps
