import CraneSps.Crane.TopologySpec
import Mathlib.Data.List.Sort
import Mathlib.Data.String.Basic
import Mathlib.Logic.Function.Basic

/-!
# Tracked topologies

`topoStats` maps the id of a topology to its status, its specification and the
addresses of its workers.  An access with `operator[]` creates an entry with
the values of a default constructor, so these are the values of an id without
an entry here, too.
-/

namespace CraneSps
namespace Crane

/-- The status of a tracked topology; `unset` is the empty string. -/
inductive TopoStatus
  | unset
  | pending
  | idle
  | preparing
  | ready
  | running
  deriving DecidableEq, Inhabited

/-- `TopologyTracker`. -/
structure TopologyTracker where
  status : TopoStatus
  topoSpec : TopologySpec
  /-- A name without an entry has no instances. -/
  taskInstances : String → List String

instance : Inhabited TopologyTracker where
  default :=
    { status := .unset
      topoSpec := default
      taskInstances := fun _ => [] }

/-- `Nimbus::Impl::topoStats`. -/
structure TopoStats where
  /-- The keys, in order. -/
  topoIds : List String
  tracker : String → TopologyTracker
  absent : ∀ topoId, topoId ∉ topoIds → tracker topoId = default

namespace TopoStats

/-- No topologies. -/
def empty : TopoStats where
  topoIds := []
  tracker := fun _ => default
  absent := fun _ _ => rfl

variable (stats : TopoStats)

/-- Assign to `topoStats[topoId]`. -/
def set (topoId : String) (tracker : TopologyTracker) : TopoStats where
  topoIds :=
    if topoId ∈ stats.topoIds then stats.topoIds
    else stats.topoIds.orderedInsert (· ≤ ·) topoId
  tracker := Function.update stats.tracker topoId tracker
  absent := by
    intro other notKey
    split at notKey
    · next isKey =>
        have differs : other ≠ topoId := fun same => notKey (same ▸ isKey)
        rw [Function.update_of_ne differs]
        exact stats.absent other notKey
    · rw [List.mem_orderedInsert, not_or] at notKey
      rw [Function.update_of_ne notKey.1]
      exact stats.absent other notKey.2

/-- `topoStats.erase`. -/
def erase (topoId : String) : TopoStats where
  topoIds := stats.topoIds.filter fun other => other != topoId
  tracker := Function.update stats.tracker topoId default
  absent := by
    intro other notKey
    by_cases same : other = topoId
    · rw [same, Function.update_self]
    · rw [Function.update_of_ne same]
      apply stats.absent
      simpa [same] using notKey

/-- `getAllTopoIds`. -/
def getAllTopoIds : List String :=
  stats.topoIds

/-- `getTopoStatus`; `none` is the status `"nonexisted"`. -/
def getTopoStatus (topoId : String) : Option TopoStatus :=
  if topoId ∈ stats.topoIds then some (stats.tracker topoId).status else none

/-- `setTopoStatus`. -/
def setTopoStatus (topoId : String) (status : TopoStatus) : TopoStats :=
  if topoId ∈ stats.topoIds then
    stats.set topoId { stats.tracker topoId with status := status }
  else stats

/-- `getTopoTaskInstances`. -/
def getTopoTaskInstances (topoId name : String) : List String :=
  (stats.tracker topoId).taskInstances name

/-- `addTopoTaskInstance`. -/
def addTopoTaskInstance (topoId name instanceAddress : String) : TopoStats :=
  if topoId ∈ stats.topoIds then
    stats.set topoId
      { stats.tracker topoId with
        taskInstances := Function.update (stats.tracker topoId).taskInstances
          name ((stats.tracker topoId).taskInstances name ++
            [instanceAddress]) }
  else stats

/-- `topoStats[topoId].taskInstances.clear()`. -/
def clearTaskInstances (topoId : String) : TopoStats :=
  stats.set topoId
    { stats.tracker topoId with taskInstances := fun _ => [] }

/-- `getTopoSpec`. -/
def getTopoSpec (topoId : String) : TopologySpec :=
  (stats.tracker topoId).topoSpec

/-- `setTopoSpec`. -/
def setTopoSpec (topoId : String) (spec : TopologySpec) : TopoStats :=
  stats.set topoId { stats.tracker topoId with topoSpec := spec }

variable {stats} {topoId other : String} {tracker : TopologyTracker}
variable {status : TopoStatus} {name address : String}

theorem tracker_set :
    (stats.set topoId tracker).tracker other =
      if other = topoId then tracker else stats.tracker other := by
  simp [set, Function.update_apply]

theorem mem_topoIds_set :
    other ∈ (stats.set topoId tracker).topoIds ↔
      other = topoId ∨ other ∈ stats.topoIds := by
  rw [set]
  split
  · next isKey =>
      refine ⟨.inr, ?_⟩
      rintro (rfl | present)
      · exact isKey
      · exact present
  · exact List.mem_orderedInsert _

theorem setTopoStatus_of_mem
    (tracked : topoId ∈ stats.topoIds) :
    stats.setTopoStatus topoId status =
      stats.set topoId { stats.tracker topoId with status := status } :=
  if_pos tracked

theorem setTopoStatus_of_notMem
    (untracked : topoId ∉ stats.topoIds) :
    stats.setTopoStatus topoId status = stats :=
  if_neg untracked

/-- A change of the status leaves the specifications. -/
theorem getTopoSpec_setTopoStatus :
    (stats.setTopoStatus topoId status).getTopoSpec other =
      stats.getTopoSpec other := by
  by_cases tracked : topoId ∈ stats.topoIds
  · rw [setTopoStatus_of_mem tracked, getTopoSpec, tracker_set, getTopoSpec]
    split
    · next same => rw [same]
    · rfl
  · rw [setTopoStatus_of_notMem tracked]

/-- It leaves the instances. -/
theorem getTopoTaskInstances_setTopoStatus :
    (stats.setTopoStatus topoId status).getTopoTaskInstances other name =
      stats.getTopoTaskInstances other name := by
  by_cases tracked : topoId ∈ stats.topoIds
  · rw [setTopoStatus_of_mem tracked, getTopoTaskInstances, tracker_set,
      getTopoTaskInstances]
    split
    · next same => rw [same]
    · rfl
  · rw [setTopoStatus_of_notMem tracked]

theorem mem_topoIds_setTopoStatus :
    other ∈ (stats.setTopoStatus topoId status).topoIds ↔
      other ∈ stats.topoIds := by
  by_cases tracked : topoId ∈ stats.topoIds
  · rw [setTopoStatus_of_mem tracked, mem_topoIds_set, or_iff_right_iff_imp]
    rintro rfl
    exact tracked
  · rw [setTopoStatus_of_notMem tracked]

theorem tracker_erase :
    (stats.erase topoId).tracker other =
      if other = topoId then default else stats.tracker other := by
  simp [erase, Function.update_apply]

theorem getTopoStatus_eq_some_iff :
    stats.getTopoStatus topoId = some status ↔
      topoId ∈ stats.topoIds ∧ (stats.tracker topoId).status = status := by
  simp [getTopoStatus]

end TopoStats

end Crane
end CraneSps
