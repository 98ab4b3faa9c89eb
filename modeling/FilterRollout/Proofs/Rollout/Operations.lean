import FilterRollout.Proofs.Cluster.Persistence
import FilterRollout.Proofs.Rollout.Isolation
import FilterRollout.Proofs.Sidecar.Mounting

/-! Rollouts and withdrawals of several filters on one selection, one after another. All of them share the required
annotations, so that a withdrawal takes the cache away from the filters that stay; the next rollout of any filter brings
it back. Main statement: `mounted_of_operated`. -/

namespace FilterRollout

open Program

/-- A filter is rolled out or withdrawn. -/
inductive Operation
  | apply (filter : FilterSpec)
  | remove (filter : FilterSpec)

def Operation.program (rollout : Rollout) : Operation → Program Unit
  | .apply filter => rollout.apply filter
  | .remove filter => rollout.remove filter

/-- Operations on one selection that all succeeded, one after another, in the name of no owner. Between two of them
everything but the workloads and the Envoy filters may change. -/
inductive Operated (target : Target) : List Operation → World → World → Prop
  | none (world : World) : Operated target [] world world
  | next {operations : List Operation} {start left world after : World} (operation : Operation) (rollout : Rollout)
      (targets : rollout.settings.target = target) (unowned : rollout.owner = none)
      (earlier : Operated target operations start left) (workloads : world.workloads = left.workloads)
      (filters : world.filters = left.filters)
      (success : (operation.program rollout).outcome World.answer world = (.ok (), after)) :
      Operated target (operations ++ [operation]) start after

/-- A pod template with the annotations by which its proxies mount the cache. -/
def MountsCache (template : PodTemplate) : Prop :=
  SidecarAnnotations.Mounted SidecarAnnotations.required template.annotations "cache-dir"

/-- Every selected workload has the metadata of one that was selected before, and its address. -/
theorem Restocked.source_of_selected {Good : PodTemplate → Prop} {target : Target} {before after : World}
    (restocked : Restocked Good (target.selected before) before.workloads after.workloads) {workload : Workload}
    (member : workload ∈ target.selected after) :
    ∃ source ∈ target.selected before, source.metadata = workload.metadata ∧ source.address = workload.address := by
  obtain ⟨stored, selects⟩ := Target.mem_selected_iff.mp member
  rcases restocked.origin workload stored with present | ⟨source, listed, template, rfl⟩
  · exact ⟨workload, Target.mem_selected_iff.mpr ⟨present, selects⟩, rfl, rfl⟩
  · exact ⟨source, listed, rfl, rfl⟩

/-- Workloads of one address are stored in one place. -/
theorem StoredAs.congr {Good : PodTemplate → Prop} {workloads : List Workload} {workload other : Workload}
    (same : workload.address = other.address) (holds : StoredAs Good workloads workload) :
    StoredAs Good workloads other := by
  have place : World.persisted? other workloads = World.persisted? workload workloads := by
    unfold World.persisted?
    congr 1
    funext stored
    rw [Bool.eq_iff_iff, World.sameWorkload_iff, World.sameWorkload_iff, same]
  obtain ⟨stored, found, good⟩ := holds
  exact ⟨stored, place.trans found, good⟩

/-- The selected workloads after an enumeration that succeeds. -/
theorem Enumeration.restocked_of_mutateSelected {Good : PodTemplate → Prop} {mutate : Mutation} {observe : Observer}
    (watches : Watches observe) {target : Target} {before after : World} {changed : List ObjectMeta}
    (mutates : ∀ workload ∈ target.selected before, ∀ (world left : World) (template : PodTemplate),
      (mutate workload.metadata workload.template).outcome World.answer world = (.ok template, left) →
        Good template ∧ left.workloads = world.workloads)
    (success : (mutateSelected target.kind target.namespaceName target.labels mutate observe).outcome World.answer
      before = (.ok changed, after)) :
    Restocked Good (target.selected before) before.workloads after.workloads ∧
      changed = (target.selected before).map (·.metadata) := by
  rcases mutateSelected_cases mutate observe target before with ⟨e, failed⟩ | listed
  · rw [failed] at success
    cases success
  · rw [listed] at success
    have restocked := restocked_of_mutateEach watches mutates success
    exact ⟨restocked, mutateEach_value watches success⟩

namespace Rollout

variable {rollout : Rollout} {filter : FilterSpec} {world after : World}

/-- A deployment that succeeds lets all selected workloads mount the cache. -/
theorem restocked_of_deploy {version path : String}
    (success : (rollout.deploy filter version path).outcome World.answer world = (.ok (), after)) :
    Restocked MountsCache (rollout.settings.target.selected world) world.workloads after.workloads := by
  rw [deploy_eq] at success
  obtain ⟨changed, last, staged, verdict⟩ := exists_of_bind_ok success
  obtain rfl : last = after := (Prod.mk.inj verdict).2
  refine (Enumeration.restocked_of_mutateSelected Enumeration.watches_reporting ?_ (outcome_stage_ok_iff.mp staged)).1
  intro workload _ state left template mutated
  rcases (rollout.acts_application filter path (.ofVersion version)).ends workload state with
    ⟨e, _, ended, -⟩ | ⟨_, ended, put, fits⟩
  · rw [ended] at mutated
    cases mutated
  · obtain ⟨same, rfl⟩ := Prod.mk.inj (ended.symm.trans mutated)
    obtain rfl := Except.ok.inj same
    exact ⟨SidecarAnnotations.mounted_apply fits.1, (congrArg World.workloads put :)⟩

theorem restocked_of_apply (success : (rollout.apply filter).outcome World.answer world = (.ok (), after)) :
    Restocked MountsCache (rollout.settings.target.selected world) world.workloads after.workloads := by
  rw [apply_eq] at success
  obtain ⟨found, ready, prepared, success⟩ := exists_of_bind_ok success
  obtain ⟨value, middle, synced, deployed⟩ := exists_of_bind_ok success
  have unchanged := rollout.prepare_frame filter world
  rw [prepared] at unchanged
  have workloads : middle.workloads = ready.workloads := by
    obtain ⟨result, state, ended, verdict⟩ := CacheSync.sync_cases rollout.settings.cache filter.image
      rollout.settings.cacheTimeout rollout.settings.pollInterval ready
    obtain ⟨-, rfl⟩ := Prod.mk.inj (ended.symm.trans (outcome_stage_ok_iff.mp synced))
    rcases verdict with cached | ⟨-, same⟩
    · exact cached.workloads
    · exact (congrArg World.workloads same :)
  have same : middle.workloads = world.workloads := workloads.trans (congrArg World.workloads unchanged :)
  have restocked := restocked_of_deploy deployed
  rwa [rollout.settings.target.selected_congr same, same] at restocked

/-- A withdrawal that succeeds in the name of no owner leaves no Envoy filter of a selected workload. -/
theorem restocked_of_remove (unowned : rollout.owner = none)
    (success : (rollout.remove filter).outcome World.answer world = (.ok (), after)) :
    Restocked (fun _ => True) (rollout.settings.target.selected world) world.workloads after.workloads ∧
      ∀ workload ∈ rollout.settings.target.selected world,
        after.filters.get? (rollout.settings.target.filterKey filter workload.metadata) = none := by
  rw [remove_eq] at success
  obtain ⟨_, start, accepted, success⟩ := exists_of_bind_ok success
  obtain rfl : world = start := (Prod.mk.inj accepted).2
  obtain ⟨changed, middle, staged, retired⟩ := exists_of_bind_ok success
  have frame : ∀ workload ∈ rollout.settings.target.selected world, ∀ (state left : World) (template : PodTemplate),
      (removeFromWorkload workload.metadata workload.template).outcome World.answer state = (.ok template, left) →
        True ∧ left.workloads = state.workloads := by
    intro workload _ state left template mutated
    obtain rfl : state = left := (Prod.mk.inj mutated).2
    exact ⟨trivial, rfl⟩
  obtain ⟨restocked, rfl⟩ := Enumeration.restocked_of_mutateSelected Enumeration.watches_silent frame
    (outcome_stage_ok_iff.mp staged)
  obtain ⟨result, last, deleted, ended, gone, verdict⟩ := rollout.retire_progress filter
    ((rollout.settings.target.selected world).map (·.metadata)) middle
  obtain ⟨rfl, rfl⟩ := Prod.mk.inj (ended.symm.trans retired)
  have workloads : last.workloads = middle.workloads := (congrArg World.workloads gone :)
  have filters : last.filters = _ := (congrArg World.filters gone :)
  rw [workloads]
  refine ⟨restocked, fun workload member => ?_⟩
  rcases verdict with ⟨-, rfl⟩ | ⟨e, failed, -⟩
  · rw [filters, SortedMap.get?_foldl_erase, List.take_length, if_pos]
    simp only [deletedKeys, unowned, List.map_map]
    exact List.mem_map_of_mem member
  · cases failed

end Rollout

/-- Whatever filters were rolled out and withdrawn, a selected workload that has an Envoy filter mounts the cache at
both required annotations, unless the last operation withdrew another filter. -/
theorem mounted_of_operated {target : Target} {operations : List Operation} {start after : World}
    (operated : Operated target operations start after) (empty : start.filters = .empty) {workload : Workload}
    (selected : workload ∈ target.selected after) {filterId : String}
    (undisturbed : ∀ removed, operations.getLast? = some (.remove removed) → removed.id = filterId)
    (stored : (after.filters.get?
      (World.filterKey target.namespaceName (EnvoyFilter.nameFor workload.name filterId))).isSome = true) :
    ∃ persisted, World.persisted? workload after.workloads = some persisted ∧
      ∀ key ∈ SidecarAnnotations.required.keys, ∃ text items volume,
        persisted.template.annotations.get? key = some text ∧ Json.read? text = some (.array items) ∧
          .object volume ∈ items ∧ Json.member? "name" volume = some (.string "cache-dir") := by
  cases operated with
  | none => simp [empty] at stored
  | next operation rollout targets unowned earlier workloads filters success =>
    subst targets
    cases operation with
    | apply filter =>
      have restocked := Rollout.restocked_of_apply success
      obtain ⟨source, listed, -, address⟩ := restocked.source_of_selected selected
      obtain ⟨persisted, found, mounts⟩ := (restocked.good source (.inl listed)).congr address
      refine ⟨persisted, found, fun key required => ?_⟩
      obtain ⟨text, value, items, volume, read, member, name⟩ := mounts key required
      exact ⟨text, items, volume, value, read, member, name⟩
    | remove filter =>
      obtain ⟨restocked, gone⟩ := Rollout.restocked_of_remove unowned success
      obtain ⟨source, listed, metadata, -⟩ := restocked.source_of_selected selected
      have same : filter.id = filterId := undisturbed filter (by simp)
      have deleted := gone source listed
      rw [metadata, Target.filterKey, same] at deleted
      rw [Workload.name, deleted] at stored
      cases stored

/-- Another filter from the same image. -/
def FilterSpec.trace : FilterSpec := ⟨"trace", "filters/auth:1", none, none, "inbound"⟩

/-- A cluster after the first filter was rolled out to its Deployment. -/
def World.oneFilter : World := ((Rollout.toDeployments.apply .auth).outcome World.answer .namesakes).2

/-- The cluster after the other one was rolled out as well. -/
def World.twoFilters : World := ((Rollout.toDeployments.apply .trace).outcome World.answer .oneFilter).2

/-- The cluster after the first one was withdrawn. -/
def World.oneWithdrawn : World := ((Rollout.toDeployments.remove .auth).outcome World.answer .twoFilters).2

theorem operated_twoFilters :
    Operated Rollout.toDeployments.settings.target [.apply .auth, .apply .trace] .namesakes .twoFilters := by
  have first : ((Rollout.toDeployments.apply .auth).outcome World.answer .namesakes).1.isOk = true := by
    decide +kernel
  have second : ((Rollout.toDeployments.apply .trace).outcome World.answer .oneFilter).1.isOk = true := by
    decide +kernel
  have once : Operated Rollout.toDeployments.settings.target [.apply .auth] .namesakes .oneFilter :=
    .next (.apply .auth) Rollout.toDeployments rfl rfl (.none _) rfl rfl (outcome_of_isOk first)
  exact .next (.apply .trace) Rollout.toDeployments rfl rfl once rfl rfl (outcome_of_isOk second)

/-- The filter that stays does not keep the cache: its Envoy filter is there, and no required annotation is. -/
theorem remove_unmounts_others :
    Operated Rollout.toDeployments.settings.target [.apply .auth, .apply .trace, .remove .auth] .namesakes
        .oneWithdrawn ∧
      World.namesakes.filters = .empty ∧
      ∃ workload ∈ Rollout.toDeployments.settings.target.selected .oneWithdrawn,
        (World.oneWithdrawn.filters.get?
          (World.filterKey "default" (EnvoyFilter.nameFor workload.name "trace"))).isSome = true ∧
        (World.persisted? workload World.oneWithdrawn.workloads).map (fun persisted =>
          SidecarAnnotations.required.keys.map persisted.template.annotations.get?) = some [none, none] := by
  have withdrawn : ((Rollout.toDeployments.remove .auth).outcome World.answer .twoFilters).1.isOk = true := by
    decide +kernel
  have operated : Operated Rollout.toDeployments.settings.target [.apply .auth, .apply .trace, .remove .auth]
      .namesakes .oneWithdrawn :=
    .next (.remove .auth) Rollout.toDeployments rfl rfl operated_twoFilters rfl rfl (outcome_of_isOk withdrawn)
  exact ⟨operated, rfl, by decide +kernel⟩

/-- Before that the Deployment mounts the cache for both filters. -/
theorem mounted_twoFilters :
    ∃ workload ∈ Rollout.toDeployments.settings.target.selected .twoFilters,
      workload.name = "web" ∧
      ∃ persisted, World.persisted? workload World.twoFilters.workloads = some persisted ∧
        ∀ key ∈ SidecarAnnotations.required.keys, ∃ text items volume,
          persisted.template.annotations.get? key = some text ∧ Json.read? text = some (.array items) ∧
            .object volume ∈ items ∧ Json.member? "name" volume = some (.string "cache-dir") := by
  obtain ⟨workload, selected, name, stored⟩ : ∃ workload ∈ Rollout.toDeployments.settings.target.selected .twoFilters,
      workload.name = "web" ∧ (World.twoFilters.filters.get?
        (World.filterKey "default" (EnvoyFilter.nameFor workload.name "auth"))).isSome = true := by decide +kernel
  refine ⟨workload, selected, name, mounted_of_operated operated_twoFilters rfl selected ?_ stored⟩
  intro removed last
  cases last

end FilterRollout
