import FilterRollout.Proofs.Cluster.Enumeration

/-! What a target selects in a cluster in memory, and where the Envoy filters of what it selects are kept. -/

namespace FilterRollout.Target

/-- The workloads that a target selects. -/
def selected (target : Target) (world : World) : List Workload :=
  world.selected target.kind target.namespaceName
    (LabelSelector.ofLabels target.labels)

/-- Whether a target selects a workload. -/
def selects (target : Target) (workload : Workload) : Bool :=
  World.selects target.kind target.namespaceName
    (LabelSelector.ofLabels target.labels) workload

theorem mem_selected_iff {target : Target} {world : World} {workload : Workload} :
    workload ∈ target.selected world ↔ workload ∈ world.workloads ∧ target.selects workload = true := List.mem_filter

/-- A complete enumeration updates the workloads that are selected. -/
theorem map_within_selected (target : Target) (world : World) (effect : Enumeration.Effect) :
    world.workloads.map (effect.within (target.selected world)) =
      world.workloads.map fun workload => if target.selects workload then effect.update workload else workload := by
  refine List.map_congr_left fun workload member => ?_
  simp [Enumeration.Effect.within, mem_selected_iff, member]

theorem selected_subset (target : Target) (world : World) : target.selected world ⊆ world.workloads :=
  fun _ member => List.mem_of_mem_filter member

theorem selected_congr (target : Target) {world other : World} (same : world.workloads = other.workloads) :
    target.selected world = target.selected other := by
  rw [selected, selected, World.selected_eq, World.selected_eq, same]

/-- What a complete enumeration of the selected workloads leaves. -/
theorem ends_of_complete (target : Target) {before after : World} {effect : Enumeration.Effect} {run : List Exchange}
    {ensured : Nat} (distinct : World.Distinct before.workloads)
    (progress : Enumeration.Progress effect (target.selected before) before after run (target.selected before).length
      ensured) :
    (∀ workload ∈ target.selected before, effect.fits workload) ∧
      after.workloads = (before.workloads.map fun workload =>
        if target.selects workload then effect.update workload else workload) ∧
      after.filters = (target.selected before).foldl (fun all workload => effect.put workload all) before.filters := by
  obtain rfl : ensured = (target.selected before).length := Nat.le_antisymm progress.bound progress.order
  have fitting := progress.fitting
  have workloads := progress.workloads distinct (target.selected_subset before)
  have filters := progress.filters
  rw [List.take_length] at fitting workloads filters
  exact ⟨fitting, workloads.trans (target.map_within_selected before effect), filters⟩

theorem metadata_selected (target : Target) {before after : World} {effect : Enumeration.Effect}
    {chosen : List Workload} (changed : after.workloads = before.workloads.map (effect.within chosen)) :
    (target.selected after).map (·.metadata) = (target.selected before).map (·.metadata) := by
  have same : target.selected after = (target.selected before).map (effect.within chosen) :=
    World.selected_of_map changed (effect.selects_within chosen _ _ _)
  rw [same, List.map_map]
  exact List.map_congr_left fun workload _ => effect.metadata_within chosen workload

/-- Where the Envoy filter for a workload is stored. -/
def filterKey (target : Target) (filter : FilterSpec) (metadata : ObjectMeta) : String :=
  World.filterKey target.namespaceName (EnvoyFilter.nameFor (metadata.name.getD "") filter.id)

theorem name_eq_of_filterKey_eq {target : Target} {filter : FilterSpec} {metadata other : ObjectMeta}
    (same : target.filterKey filter metadata = target.filterKey filter other) :
    metadata.name.getD "" = other.name.getD "" := by
  have lists := congrArg String.toList same
  simp only [filterKey, World.filterKey, EnvoyFilter.nameFor, toString, String.toList_append] at lists
  have names := List.append_cancel_right (List.append_cancel_right (List.append_cancel_left lists))
  exact String.toList_inj.mp names

/-- No two selected workloads share an Envoy filter. -/
theorem nodup_filterKeys (target : Target) (filter : FilterSpec) {world : World}
    (distinct : World.Distinct world.workloads) :
    ((target.selected world).map fun workload => target.filterKey filter workload.metadata).Nodup := by
  have listed : ((target.selected world).map Workload.address).Nodup := distinct.sublist (List.filter_sublist.map _)
  refine List.Nodup.map_on ?_ listed.of_map
  intro workload member other memberOther same
  have selects := (mem_selected_iff.mp member).2
  have selectsOther := (mem_selected_iff.mp memberOther).2
  simp only [Target.selects, World.selects, Bool.and_eq_true, decide_eq_true_eq] at selects selectsOther
  have address : workload.address = other.address := by
    rw [Workload.address, Workload.address, selects.1.1, selectsOther.1.1, selects.1.2, selectsOther.1.2]
    have names : workload.name = other.name := name_eq_of_filterKey_eq same
    rw [names]
  exact List.inj_on_of_nodup_map listed member memberOther address

end FilterRollout.Target

namespace FilterRollout.Enumeration

open Program

/-- An enumeration starts with a listing, which fails or gives the workloads that are selected. -/
theorem mutateSelected_cases (mutate : Mutation) (observe : Observer) (target : Target) (world : World) :
    let enumeration := mutateSelected target.kind target.namespaceName target.labels mutate observe
    let listed := world.counting .listWorkloads
    (∃ e, enumeration.outcome World.answer world = (.error e, listed)) ∨
      enumeration.outcome World.answer world =
        (mutateEach mutate observe (target.selected world)).outcome World.answer listed := by
  intro enumeration listed
  let listing : Call := .listWorkloads target.kind target.namespaceName (LabelSelector.ofLabels target.labels)
  rcases World.answer_cases listing world with ⟨e, failed, -⟩ | served
  · have ended : (perform listing).outcome World.answer world = (.error e, listed) := failed
    exact .inl ⟨e, outcome_bind_error ended⟩
  · have ended : (perform listing).outcome World.answer world = (.ok (target.selected world), listed) := served
    exact .inr (outcome_bind_ok ended)

end FilterRollout.Enumeration
