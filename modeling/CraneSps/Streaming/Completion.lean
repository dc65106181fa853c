import CraneSps.Streaming.Pipeline
import CraneSps.Streaming.Termination

/-!
# Pipelines come to rest

If every class of a pipeline produces what the next one accepts, no worker ever
does something undefined.  As the layers have an order, what is on the way is
processed in finitely many steps.
-/

namespace CraneSps
namespace Streaming

open Crane (Tuple GroupingScheme)

/-- The classes of the layers fit together. -/
structure Fits
    (layers : List Layer) (accepts : Nat → Tuple → Prop) : Prop where
  field : ∀ index tuple, accepts index tuple → tuple.data ≠ []
  bolts : ∀ (index : Nat) (layer : Layer),
    layers[index + 1]? = some layer → layer.isBolt = true
  known : ∀ (index : Nat) (layer : Layer),
    layers[index + 1]? = some layer →
      layer.grouping = "ShuffleGrouping" ∨ layer.grouping = "FieldGrouping"
  runs : ∀ (index : Nat) (layer : Layer), layers[index]? = some layer →
    layer.isBolt = true → ∀ node tuple, accepts index tuple →
      ∃ next tuples,
        layer.base.runOnTuple node tuple = some (next, tuples) ∧
          ∀ produced ∈ tuples, accepts (index + 1) produced
  spouts : ∀ (index : Nat) (layer : Layer), layers[index]? = some layer →
    layer.isBolt = false → ∀ node next tuple,
      layer.base.nextTuple node = some (next, tuple) →
        accepts (index + 1) tuple

namespace Pipeline

variable {deployment : Deployment} {layers : List Layer}
variable {accepts : Nat → Tuple → Prop} {worker : String}

/-- What the worker of a layer accepts. -/
def acceptedBy
    (layers : List Layer) (accepts : Nat → Tuple → Prop) (worker : String)
    (tuple : Tuple) : Prop :=
  ∀ (index : Nat) (layer : Layer), layers[index]? = some layer →
    worker ∈ layer.workers → accepts index tuple

section Layers

variable (pipeline : Pipeline deployment layers)

include pipeline

/-- Every worker is in a layer, whose class it has. -/
theorem exists_layer (isWorker : worker ∈ deployment.workers) :
    ∃ (index : Nat) (layer : Layer), layers[index]? = some layer ∧
      worker ∈ layer.workers ∧
      deployment.node worker = layer.base ∧
      deployment.isBolt worker = layer.isBolt := by
  obtain ⟨layer, isLayer, inLayer⟩ := pipeline.covered worker isWorker
  obtain ⟨index, atIndex⟩ := List.mem_iff_getElem?.mp isLayer
  exact ⟨index, layer, atIndex, inLayer,
    pipeline.node layer isLayer worker inLayer,
    pipeline.isBolt layer isLayer worker inLayer⟩

/-- A group of a worker leads to the next layer. -/
theorem exists_next
    {group : Crane.InternalConnectionGroup}
    (inGroups : group ∈ deployment.groups worker) :
    ∃ (index : Nat) (layer next : Layer), layers[index]? = some layer ∧
      layers[index + 1]? = some next ∧ worker ∈ layer.workers ∧
      group.grouping = next.grouping ∧ group.connections = next.workers := by
  by_cases inSome : ∃ layer ∈ layers, worker ∈ layer.workers
  · obtain ⟨layer, isLayer, inLayer⟩ := inSome
    obtain ⟨index, atIndex⟩ := List.mem_iff_getElem?.mp isLayer
    cases after : layers[index + 1]? with
    | none =>
        rw [pipeline.last index layer atIndex after worker inLayer] at inGroups
        cases inGroups
    | some next =>
        obtain ⟨childName, groups⟩ := pipeline.links index layer next atIndex
          after worker inLayer
        rw [groups, List.mem_singleton] at inGroups
        subst inGroups
        exact ⟨index, layer, next, atIndex, after, inLayer, rfl, rfl⟩
  · have nowhere : ∀ layer ∈ layers, worker ∉ layer.workers :=
      fun layer isLayer inLayer => inSome ⟨layer, isLayer, inLayer⟩
    rw [pipeline.others worker nowhere] at inGroups
    cases inGroups

/-- The layers are in the order of their positions. -/
theorem ranked :
    deployment.Ranked (position layers) layers.length where
  below := by
    intro worker isWorker
    obtain ⟨index, layer, atIndex, inLayer, _⟩ :=
      pipeline.exists_layer isWorker
    rw [position_eq pipeline.distinct atIndex inLayer]
    exact (List.getElem?_eq_some_iff.mp atIndex).1
  raises := by
    rintro connection receiver leads
    obtain ⟨group, isGroup, isReceiver⟩ := Option.bind_eq_some_iff.mp leads
    obtain ⟨index, layer, next, isLayer, isNext, inLayer, _, connections⟩ :=
      pipeline.exists_next (List.mem_of_getElem? isGroup)
    have inNext : receiver ∈ next.workers :=
      connections ▸ List.mem_of_getElem? isReceiver
    rw [position_eq pipeline.distinct isLayer inLayer,
      position_eq pipeline.distinct isNext inNext]
    exact Nat.lt_succ_self index

variable (fits : Fits layers accepts)

include fits

theorem closed : deployment.Closed where
  roomy := pipeline.roomy
  known := by
    intro worker _ group inGroups
    obtain ⟨index, layer, next, isLayer, isNext, _, grouping, connections⟩ :=
      pipeline.exists_next inGroups
    constructor
    · rw [Crane.InternalConnectionGroup.Known, grouping]
      exact fits.known index next isNext
    · rw [connections]
      exact pipeline.someWorker next (List.mem_of_getElem? isNext)
  bolts := by
    intro worker _ group inGroups receiver isReceiver
    obtain ⟨index, layer, next, _, isNext, _, _, connections⟩ :=
      pipeline.exists_next inGroups
    rw [connections] at isReceiver
    have present := List.mem_of_getElem? isNext
    refine ⟨pipeline.present next present receiver isReceiver, ?_⟩
    rw [pipeline.isBolt next present receiver isReceiver]
    exact fits.bolts index next isNext

/-- What the next layer accepts may be sent. -/
theorem sendable
    {index : Nat} {layer : Layer} {tuple : Tuple}
    (isLayer : layers[index]? = some layer) (inLayer : worker ∈ layer.workers)
    (accepted : accepts (index + 1) tuple) :
    deployment.Sendable (acceptedBy layers accepts) worker tuple := by
  refine ⟨fits.field (index + 1) tuple accepted, ?_⟩
  intro group inGroups receiver isReceiver position other isOther inOther
  obtain ⟨place, parent, next, isParent, isNext, inParent, _, connections⟩ :=
    pipeline.exists_next inGroups
  rw [connections] at isReceiver
  rw [pipeline.index_eq isOther isNext inOther isReceiver,
    pipeline.index_eq isParent isLayer inParent inLayer]
  exact accepted

theorem typed : deployment.Typed (acceptedBy layers accepts) where
  runs := by
    intro worker isWorker isBolt node tuple accepted
    obtain ⟨index, layer, isLayer, inLayer, isNode, sameKind⟩ :=
      pipeline.exists_layer isWorker
    have runs := fits.runs index layer isLayer (sameKind.symm.trans isBolt)
    rw [← isNode] at runs
    obtain ⟨next, tuples, isRun, _⟩ :=
      runs node tuple (accepted index layer isLayer inLayer)
    rw [isRun]
    exact Option.some_ne_none _
  produces := by
    intro worker isWorker isBolt node tuple next tuples accepted isRun produced
      isProduced
    obtain ⟨index, layer, isLayer, inLayer, isNode, sameKind⟩ :=
      pipeline.exists_layer isWorker
    have runs := fits.runs index layer isLayer (sameKind.symm.trans isBolt)
    rw [← isNode] at runs
    obtain ⟨other, others, alsoRun, accepts⟩ :=
      runs node tuple (accepted index layer isLayer inLayer)
    obtain ⟨_, rfl⟩ := Prod.mk.inj
      (Option.some.inj (isRun.symm.trans alsoRun))
    exact pipeline.sendable fits isLayer inLayer (accepts produced isProduced)
  spouts := by
    intro worker isWorker isSpout node next tuple isNext
    obtain ⟨index, layer, isLayer, inLayer, isNode, sameKind⟩ :=
      pipeline.exists_layer isWorker
    have spouts := fits.spouts index layer isLayer
      (sameKind.symm.trans isSpout)
    rw [← isNode] at spouts
    exact pipeline.sendable fits isLayer inLayer
      (spouts node next tuple isNext)

end Layers

end Pipeline

end Streaming
end CraneSps
