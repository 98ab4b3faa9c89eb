import FilterRollout.Proofs.Rollout.Deployment
import FilterRollout.Proofs.Rollout.Withdrawal

/-! Rollouts and withdrawals leave alone the Envoy filters of others. An Envoy filter is known by the names of its
workload and its filter put together, and by nothing else. Main statement: `isolated_of_nameFor_ne`. -/

namespace FilterRollout

open Program

/-- In one namespace the name tells Envoy filters apart. -/
theorem World.filterKey_inj {namespaceName name other : String} :
    filterKey namespaceName name = filterKey namespaceName other ↔ name = other := by
  refine ⟨fun same => ?_, fun same => same ▸ rfl⟩
  have lists := congrArg String.toList same
  simp only [filterKey, toString, String.toList_append] at lists
  exact String.toList_inj.mp (List.append_cancel_left lists)

theorem World.filters_updateWorkload (workload : Workload) (world : World) :
    (answer (.updateWorkload workload) world).2.filters = world.filters := by
  rcases answer_cases (.updateWorkload workload) world with ⟨e, failed, -⟩ | served
  · rw [failed]
    rfl
  · rw [served]
    simp only [serve]
    split <;> rfl

namespace Rollout

variable (rollout : Rollout) (filter : FilterSpec) {key : String}

/-- A deployment leaves alone every Envoy filter but those of the selected workloads, wherever it ends. -/
theorem get?_filters_deploy (version path : String) {world : World}
    (others : ∀ workload ∈ rollout.settings.target.selected world,
      rollout.settings.target.filterKey filter workload.metadata ≠ key) :
    ((rollout.deploy filter version path).outcome World.answer world).2.filters.get? key = world.filters.get? key := by
  let kept (state : World) : Option EnvoyFilter := state.filters.get? key
  let mutate := rollout.applyToWorkload filter path (.ofVersion version)
  have mutates : ∀ workload ∈ rollout.settings.target.selected world, ∀ state : World,
      kept ((mutate workload.metadata workload.template).outcome World.answer state).2 = kept state := by
    intro workload member state
    rcases (rollout.acts_application filter path (.ofVersion version)).ends workload state with
      ⟨e, after, ended, same, -⟩ | ⟨after, ended, put, -⟩
    · have filters : after.filters = state.filters := (congrArg World.filters same :)
      simp only [kept, mutate, ended, filters]
    · have filters : after.filters = _ := (congrArg World.filters put :)
      simp only [kept, mutate, ended, filters]
      exact get?_put_of_ne (others workload member) state.filters
  have enumerates : kept ((Enumeration.mutateEach mutate Enumeration.reporting
      (rollout.settings.target.selected world)).outcome World.answer (world.counting .listWorkloads)).2 = kept world :=
    Enumeration.mutateEach_preserves Enumeration.watches_reporting mutates
      (fun workload state => congrArg (·.get? key) (World.filters_updateWorkload workload state)) _
  have ends : ((rollout.deploy filter version path).outcome World.answer world).2 =
      ((Enumeration.mutateSelected rollout.settings.target.kind rollout.settings.target.namespaceName
        rollout.settings.target.labels mutate Enumeration.reporting).outcome World.answer world).2 := by
    rw [deploy_eq, outcome_bind, outcome_stage]
    rcases (Enumeration.mutateSelected _ _ _ mutate Enumeration.reporting).outcome World.answer world with
      ⟨changed | changed, after⟩ <;> rfl
  rw [ends]
  rcases Enumeration.mutateSelected_cases mutate Enumeration.reporting rollout.settings.target world with
    ⟨e, failed⟩ | listed
  · rw [failed]
    rfl
  · rw [listed]
    exact enumerates

/-- A rollout leaves alone every Envoy filter but those of the workloads that it selects. -/
theorem get?_filters_apply {world : World}
    (others : ∀ workload ∈ rollout.settings.target.selected world,
      rollout.settings.target.filterKey filter workload.metadata ≠ key) :
    ((rollout.apply filter).outcome World.answer world).2.filters.get? key = world.filters.get? key := by
  rw [apply_eq]
  have unchanged := rollout.prepare_frame filter world
  cases prepared : (rollout.prepare filter).outcome World.answer world with
  | mk result ready =>
    rw [prepared] at unchanged
    have filters : ready.filters = world.filters := (congrArg World.filters unchanged :)
    have workloads : ready.workloads = world.workloads := (congrArg World.workloads unchanged :)
    cases result with
    | error e =>
      rw [outcome_bind_error prepared, filters]
    | ok found =>
      rw [outcome_bind_ok prepared, syncCache]
      obtain ⟨synced, middle, ended, verdict⟩ := CacheSync.sync_cases rollout.settings.cache filter.image
        rollout.settings.cacheTimeout rollout.settings.pollInterval ready
      have kept : middle.filters = ready.filters ∧ middle.workloads = ready.workloads := by
        rcases verdict with cached | ⟨-, same⟩
        · exact ⟨cached.filters, cached.workloads⟩
        · exact ⟨(congrArg World.filters same :), (congrArg World.workloads same :)⟩
      cases synced with
      | error e =>
        rw [outcome_bind_error (outcome_stage_error ended "adding image to cache"), kept.1, filters]
      | ok value =>
        have same := rollout.settings.target.selected_congr (kept.2.trans workloads)
        rw [outcome_bind_ok (outcome_stage_ok ended "adding image to cache")]
        rw [rollout.get?_filters_deploy filter found.1 found.2 (same ▸ others), kept.1, filters]

/-- A withdrawal leaves alone every Envoy filter but those of the workloads that it selects. -/
theorem get?_filters_remove {world : World}
    (others : ∀ workload ∈ rollout.settings.target.selected world,
      rollout.settings.target.filterKey filter workload.metadata ≠ key) :
    ((rollout.remove filter).outcome World.answer world).2.filters.get? key = world.filters.get? key := by
  rw [remove_eq]
  cases valid : filter.validate with
  | error e => rfl
  | ok accepted =>
    have accepted : (Program.ofExcept (.ok () : Except Error Unit)).outcome World.answer world = (.ok (), world) := rfl
    rw [outcome_bind_ok accepted]
    let kept (state : World) : Option EnvoyFilter := state.filters.get? key
    have enumerates : kept ((Enumeration.mutateEach removeFromWorkload Enumeration.silent
        (rollout.settings.target.selected world)).outcome World.answer (world.counting .listWorkloads)).2 =
          kept world :=
      Enumeration.mutateEach_preserves Enumeration.watches_silent (fun _ _ _ => rfl)
        (fun workload state => congrArg (·.get? key) (World.filters_updateWorkload workload state)) _
    rcases Enumeration.mutateSelected_cases removeFromWorkload Enumeration.silent rollout.settings.target world with
      ⟨e, failed⟩ | listed
    · rw [outcome_bind_error (outcome_stage_error failed _)]
      rfl
    · cases ended : (Enumeration.mutateEach removeFromWorkload Enumeration.silent
        (rollout.settings.target.selected world)).outcome World.answer (world.counting .listWorkloads) with
      | mk result middle =>
        rw [ended] at enumerates listed
        cases result with
        | error e =>
          rw [outcome_bind_error (outcome_stage_error listed _)]
          exact enumerates
        | ok changed =>
          obtain rfl := Enumeration.mutateEach_value Enumeration.watches_silent ended
          rw [outcome_bind_ok (outcome_stage_ok listed _)]
          obtain ⟨result, after, deleted, retired, gone, -⟩ := rollout.retire_progress filter
            ((rollout.settings.target.selected world).map (·.metadata)) middle
          have filters : after.filters = _ := (congrArg World.filters gone :)
          rw [retired, filters, SortedMap.get?_foldl_erase, if_neg]
          · exact enumerates
          · intro taken
            have member := List.mem_of_mem_take taken
            unfold deletedKeys at member
            cases owned : rollout.owner with
            | some owner =>
              rw [owned] at member
              cases member
            | none =>
              rw [owned] at member
              obtain ⟨metadata, listed, same⟩ := List.mem_map.mp member
              obtain ⟨workload, selected, rfl⟩ := List.mem_map.mp listed
              exact others workload selected same

/-- A rollout or a withdrawal that targets only workloads of one name leaves alone the Envoy filter of any other
workload and filter whose names put together are not the same, wherever it ends. -/
theorem isolated_of_nameFor_ne {world : World} {name otherName otherId : String}
    (alone : ∀ workload ∈ rollout.settings.target.selected world, workload.name = name)
    (apart : EnvoyFilter.nameFor name filter.id ≠ EnvoyFilter.nameFor otherName otherId) :
    let key := World.filterKey rollout.settings.target.namespaceName (EnvoyFilter.nameFor otherName otherId)
    ((rollout.apply filter).outcome World.answer world).2.filters.get? key = world.filters.get? key ∧
      ((rollout.remove filter).outcome World.answer world).2.filters.get? key = world.filters.get? key := by
  intro key
  have others : ∀ workload ∈ rollout.settings.target.selected world,
      rollout.settings.target.filterKey filter workload.metadata ≠ key := by
    intro workload member same
    have names := World.filterKey_inj.mp same
    rw [← alone workload member] at apart
    exact apart names
  exact ⟨rollout.get?_filters_apply filter others, rollout.get?_filters_remove filter others⟩

end Rollout

/-- A cluster with a Deployment and a StatefulSet of one name. -/
def World.namesakes : World where
  version := "1.8.0"
  digest := "sha256:ab"
  abiVersions := []
  registry := some ⟨.empty, some (.ofList [("images", "filters/auth:1")]), none, none⟩
  events := []
  ready := []
  workloads := [
    ⟨.deployment, { ObjectMeta.empty with name := some "web", namespaceName := some "default" }, none, none⟩,
    ⟨.statefulSet, { ObjectMeta.empty with name := some "web", namespaceName := some "default" }, none, none⟩]
  filters := .empty
  faults := []
  counted := []

def Rollout.toStatefulSets : Rollout where
  settings := { Settings.default with target := ⟨.statefulSet, "default", .empty⟩ }
  valid := by decide
  support := .known
  owner := none

/-- The cluster after the filter was rolled out to the StatefulSet. -/
def World.statefulOnly : World := ((Rollout.toStatefulSets.apply .auth).outcome World.answer .namesakes).2

/-- The kind of a workload is no part of the name of its Envoy filter: withdrawing a filter from a Deployment takes away
the Envoy filter that the same filter has for a StatefulSet of the same name. -/
theorem Rollout.remove_takes_namesake :
    ((toStatefulSets.apply .auth).outcome World.answer .namesakes).1.isOk = true ∧
      (toDeployments.settings.target.selected .statefulOnly).map (·.kind) = [.deployment] ∧
      let key := World.filterKey "default" (EnvoyFilter.nameFor "web" "auth")
      (World.statefulOnly.filters.get? key).isSome = true ∧
        (((toDeployments.remove .auth).outcome World.answer .statefulOnly).2.filters.get? key).isSome = false := by
  decide +kernel

/-- What a filter of another name leaves alone in that cluster. -/
theorem Rollout.isolated_namesakes :
    (∀ workload ∈ toDeployments.settings.target.selected .statefulOnly, workload.name = "web") ∧
      EnvoyFilter.nameFor "web" "trace" ≠ EnvoyFilter.nameFor "web" "auth" ∧
      let key := World.filterKey "default" (EnvoyFilter.nameFor "web" "auth")
      let trace : FilterSpec := ⟨"trace", "filters/trace:1", none, none, "inbound"⟩
      ((toDeployments.apply trace).outcome World.answer .statefulOnly).2.filters.get? key =
          World.statefulOnly.filters.get? key ∧
        ((toDeployments.remove trace).outcome World.answer .statefulOnly).2.filters.get? key =
          World.statefulOnly.filters.get? key := by
  have alone : ∀ workload ∈ toDeployments.settings.target.selected .statefulOnly, workload.name = "web" := by
    decide +kernel
  have apart : EnvoyFilter.nameFor "web" "trace" ≠ EnvoyFilter.nameFor "web" "auth" := by decide +kernel
  exact ⟨alone, apart, isolated_of_nameFor_ne toDeployments ⟨"trace", "filters/trace:1", none, none, "inbound"⟩ alone
    apart⟩

end FilterRollout
