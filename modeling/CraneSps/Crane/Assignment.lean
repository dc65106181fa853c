import CraneSps.Crane.Nimbus

/-!
# The assignment of tasks

Every task is assigned to one of the current supervisors, and the
`ADD_WORKER` requests are for assigned tasks only.
-/

namespace CraneSps
namespace Crane

/-- Workers are created for names of the specification only. -/
theorem TopologySpec.mem_names_of_mem_tasks
    {spec : TopologySpec} {name : String} (isTask : name ∈ spec.tasks) :
    name ∈ spec.names := by
  rcases List.mem_append.mp isTask with isSpout | isBolt
  · exact List.mem_append_left _ isSpout
  · obtain ⟨bolt, present, copies⟩ := List.mem_flatMap.mp isBolt
    obtain ⟨_, rfl⟩ := List.mem_replicate.mp copies
    exact List.mem_append_right _ (List.mem_map.mpr ⟨bolt, present, rfl⟩)

namespace Nimbus

variable {supervisors tasks : List String} {executor last : String}
variable {assignment : List (String × String)}

/-- The next executor is a supervisor. -/
theorem mem_of_nextExecutor
    {next : String} (isNext : nextExecutor supervisors executor = some next) :
    next ∈ supervisors := by
  unfold nextExecutor at isNext
  split at isNext
  · exact List.mem_of_getElem? isNext
  · exact List.mem_of_getElem? isNext

/-- All executors are supervisors. -/
theorem mem_of_assign
    (assigned : assign supervisors executor tasks = some (assignment, last))
    {pair : String × String} (isPair : pair ∈ assignment) :
    pair.1 ∈ supervisors ∧ pair.2 ∈ tasks := by
  induction tasks generalizing executor last assignment with
  | nil =>
      obtain ⟨rfl, _⟩ := Prod.mk.inj (Option.some.inj assigned)
      cases isPair
  | cons task tasks inductionHypothesis =>
      simp only [assign, Option.bind_eq_some_iff, Option.map_eq_some_iff,
        Prod.mk.injEq] at assigned
      obtain ⟨next, isNext, ⟨rest, kept⟩, isRest, rfl, _⟩ := assigned
      rcases List.mem_cons.mp isPair with rfl | later
      · exact ⟨mem_of_nextExecutor isNext, List.mem_cons_self⟩
      · obtain ⟨isSupervisor, isTask⟩ := inductionHypothesis isRest later
        exact ⟨isSupervisor, List.mem_cons_of_mem _ isTask⟩

/-- A request is for a task at one of its executors. -/
theorem mem_of_mem_addRequests
    {id name : String} {count : Nat}
    (isRequest : (id, name, count) ∈ addRequests assignment) :
    (id, name) ∈ assignment := by
  obtain ⟨executor, _, isRun⟩ := List.mem_flatMap.mp isRequest
  obtain ⟨run, present, same⟩ := List.mem_map.mp isRun
  obtain ⟨rfl, rfl⟩ := Prod.mk.inj same
  have isTask := List.fst_mem_of_mem_runLengths present
  rw [(List.perm_insertionSort _ _).mem_iff] at isTask
  obtain ⟨⟨other, task⟩, kept, isName⟩ := List.mem_map.mp isTask
  simp only [List.mem_filter, decide_eq_true_eq] at kept
  obtain ⟨isPair, rfl⟩ := kept
  change task = name at isName
  exact isName ▸ isPair

end Nimbus

end Crane
end CraneSps
