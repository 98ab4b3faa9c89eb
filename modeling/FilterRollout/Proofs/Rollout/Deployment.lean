import FilterRollout.Proofs.Rollout.Preparation
import FilterRollout.Proofs.Rollout.Selection
import FilterRollout.Proofs.Sidecar.Merging

/-! Putting a filter into the workloads of a cluster in memory. Main statements: `deploy_progress`, by which a deployment
leaves a prefix of the selected workloads changed wherever it ends, and `deploy_of_progress`, by which one that goes
through leaves the same after any such prefix. -/

namespace FilterRollout.Rollout

open Program

variable (rollout : Rollout) (filter : FilterSpec) (path : String) (schema : ConfigSchema)

/-- The Envoy filter for a workload, which selects its pods by the labels of their template. -/
def built? (workload : Workload) : Except Error EnvoyFilter :=
  rollout.filterFor filter path schema workload.name workload.template.labels

/-- What deploying a filter does to a workload. -/
def application : Enumeration.Effect where
  template workload := (SidecarAnnotations.apply SidecarAnnotations.required workload.template).1
  put workload filters :=
    match rollout.built? filter path schema workload with
    | .ok built => filters.insert (rollout.settings.target.filterKey filter workload.metadata) built
    | .error _ => filters
  fits workload := (SidecarAnnotations.apply SidecarAnnotations.required workload.template).2 = .ok () ∧
    ∃ built, rollout.built? filter path schema workload = .ok built

variable {rollout filter path schema}

theorem filterKey_of_built? {workload : Workload} {built : EnvoyFilter}
    (success : rollout.built? filter path schema workload = .ok built) :
    World.filterKey built.metadata.namespaceName built.metadata.name =
      rollout.settings.target.filterKey filter workload.metadata := by
  unfold built? filterFor EnvoyFilter.build at success
  cases resolved : PatchContext.resolve filter.patchContext with
  | error e =>
    rw [resolved] at success
    cases success
  | ok context =>
    rw [resolved] at success
    obtain rfl := Except.ok.inj success
    cases rollout.owner <;> rfl

theorem applyToWorkload_eq (metadata : ObjectMeta) (template : PodTemplate) :
    rollout.applyToWorkload filter path schema metadata template =
      (Program.ofExcept (SidecarAnnotations.apply SidecarAnnotations.required template).2).bind fun _ =>
        (Program.ofExcept (rollout.filterFor filter path schema (metadata.name.getD "") template.labels)).bind
          fun built => (perform (.ensureFilter built)).bind fun _ =>
            done (.ok (SidecarAnnotations.apply SidecarAnnotations.required template).1) := by
  have labels : (SidecarAnnotations.apply SidecarAnnotations.required template).1.labels = template.labels :=
    template.labels_withAnnotations _
  rw [← labels]
  rfl

variable (rollout filter path schema) in
theorem acts_application :
    Enumeration.Acts (rollout.applyToWorkload filter path schema) (rollout.application filter path schema) where
  calls := applyToWorkload_callsOnly rollout filter path schema
  ends workload world := by
    rw [applyToWorkload_eq]
    cases merged : (SidecarAnnotations.apply SidecarAnnotations.required workload.template).2 with
    | error e =>
      refine .inl ⟨e, world, rfl, rfl, fun fits => ?_⟩
      simp [application, merged] at fits
    | ok =>
      cases built : rollout.built? filter path schema workload with
      | error e =>
        have refused : rollout.filterFor filter path schema (workload.metadata.name.getD "") workload.template.labels =
            .error e := built
        rw [refused]
        refine .inl ⟨e, world, rfl, rfl, fun fits => ?_⟩
        simp [application, built] at fits
      | ok envoy =>
        have accepted : rollout.filterFor filter path schema (workload.metadata.name.getD "") workload.template.labels =
            .ok envoy := built
        rw [accepted]
        simp only [Program.ofExcept, bind_done_ok]
        rcases World.answer_cases (.ensureFilter envoy) world with ⟨e, failed, faulty⟩ | served
        · have ended : (perform (.ensureFilter envoy)).outcome World.answer world =
              (.error e, world.counting .ensureFilter) := failed
          exact .inl ⟨e, _, outcome_bind_error ended, rfl, fun _ => faulty⟩
        · let filters := world.filters.insert (World.filterKey envoy.metadata.namespaceName envoy.metadata.name) envoy
          have ended : (perform (.ensureFilter envoy)).outcome World.answer world =
              (.ok (), { world.counting .ensureFilter with filters }) := served
          refine .inr ⟨_, outcome_bind_ok ended, ?_, merged, envoy, built⟩
          simp only [application, built, filters, filterKey_of_built? built]
          rfl

/-- A workload that was changed is built the same Envoy filter for. -/
@[simp] theorem built?_update (workload : Workload) :
    rollout.built? filter path schema ((rollout.application filter path schema).update workload) =
      rollout.built? filter path schema workload := by
  have labels : ((rollout.application filter path schema).update workload).template.labels = workload.template.labels :=
    workload.template.labels_withAnnotations _
  unfold built?
  rw [labels]
  rfl

theorem put_of_built? {workload : Workload} {built : EnvoyFilter}
    (success : rollout.built? filter path schema workload = .ok built) (filters : SortedMap EnvoyFilter) :
    (rollout.application filter path schema).put workload filters =
      filters.insert (rollout.settings.target.filterKey filter workload.metadata) built := by
  simp only [application, success]

theorem put_of_refused {workload : Workload} {e : Error}
    (refused : rollout.built? filter path schema workload = .error e) (filters : SortedMap EnvoyFilter) :
    (rollout.application filter path schema).put workload filters = filters := by
  simp only [application, refused]

@[simp] theorem put_update (workload : Workload) (filters : SortedMap EnvoyFilter) :
    (rollout.application filter path schema).put ((rollout.application filter path schema).update workload) filters =
      (rollout.application filter path schema).put workload filters := by
  cases success : rollout.built? filter path schema workload with
  | error e => rw [put_of_refused success, put_of_refused ((built?_update workload).trans success)]
  | ok envoy =>
    rw [put_of_built? success, put_of_built? ((built?_update workload).trans success)]
    rfl

/-- A workload whose annotations are read as they are written is changed once and for all. -/
theorem update_update_of_faithful {workload : Workload} (fits : (rollout.application filter path schema).fits workload)
    (faithful : SidecarAnnotations.Faithful workload.template.annotations SidecarAnnotations.required.toList) :
    (rollout.application filter path schema).update ((rollout.application filter path schema).update workload) =
        (rollout.application filter path schema).update workload ∧
      (rollout.application filter path schema).fits ((rollout.application filter path schema).update workload) := by
  have again := SidecarAnnotations.apply_apply (fun entry member => (faithful entry member).1.roundTrips) fits.1
  obtain ⟨merged, built, success⟩ := fits
  have template : (SidecarAnnotations.apply SidecarAnnotations.required
      (SidecarAnnotations.apply SidecarAnnotations.required workload.template).1).1 =
        (SidecarAnnotations.apply SidecarAnnotations.required workload.template).1 := by
    rw [again]
  refine ⟨congrArg workload.withTemplate template, (congrArg Prod.snd again).trans merged, built, ?_⟩
  rw [built?_update, success]

/-- Putting an Envoy filter leaves those of other workloads alone. -/
theorem get?_put_of_ne {workload : Workload} {key : String}
    (other : rollout.settings.target.filterKey filter workload.metadata ≠ key)
    (filters : SortedMap EnvoyFilter) :
    ((rollout.application filter path schema).put workload filters).get? key = filters.get? key := by
  cases success : rollout.built? filter path schema workload with
  | error e => rw [put_of_refused success]
  | ok built => rw [put_of_built? success, SortedMap.get?_insert, if_neg other]

theorem get?_foldl_put {workloads : List Workload} {key : String}
    (others : ∀ workload ∈ workloads, rollout.settings.target.filterKey filter workload.metadata ≠ key)
    (filters : SortedMap EnvoyFilter) :
    (workloads.foldl (fun all workload => (rollout.application filter path schema).put workload all) filters).get? key =
      filters.get? key := by
  induction workloads generalizing filters with
  | nil => rfl
  | cons workload rest ih =>
    rw [List.foldl_cons, ih fun other member => others other (List.mem_cons_of_mem _ member),
      get?_put_of_ne (others workload List.mem_cons_self)]

/-- What is put does not depend on what was there under the same keys. -/
theorem foldl_put_congr {workloads : List Workload} {filters others : SortedMap EnvoyFilter}
    (fits : ∀ workload ∈ workloads, (rollout.application filter path schema).fits workload)
    (agree : ∀ key, (∀ workload ∈ workloads, rollout.settings.target.filterKey filter workload.metadata ≠ key) →
      filters.get? key = others.get? key) :
    workloads.foldl (fun all workload => (rollout.application filter path schema).put workload all) filters =
      workloads.foldl (fun all workload => (rollout.application filter path schema).put workload all) others := by
  induction workloads generalizing filters others with
  | nil => exact SortedMap.ext_get? fun key => agree key (by simp)
  | cons workload rest ih =>
    refine ih (fun other member => fits other (List.mem_cons_of_mem _ member)) fun key absent => ?_
    obtain ⟨-, built, success⟩ := fits workload List.mem_cons_self
    simp only [put_of_built? success, SortedMap.get?_insert]
    split
    · rfl
    · rename_i other
      exact agree key fun listed member => (List.mem_cons.mp member).elim (fun same => same ▸ other) (absent listed)

/-- The selected workloads all have an Envoy filter once it was put. -/
theorem get?_foldl_put_of_mem {workloads : List Workload} {workload : Workload} (member : workload ∈ workloads)
    (fits : ∀ workload ∈ workloads, (rollout.application filter path schema).fits workload)
    (distinct : (workloads.map fun workload => rollout.settings.target.filterKey filter workload.metadata).Nodup)
    (filters : SortedMap EnvoyFilter) :
    ∃ built, rollout.built? filter path schema workload = .ok built ∧
      (workloads.foldl (fun all workload => (rollout.application filter path schema).put workload all) filters).get?
        (rollout.settings.target.filterKey filter workload.metadata) = some built := by
  obtain ⟨-, built, success⟩ := fits workload member
  refine ⟨built, success, ?_⟩
  obtain ⟨before, after, rfl⟩ := List.append_of_mem member
  rw [List.map_append, List.map_cons] at distinct
  obtain ⟨-, behind, -⟩ := List.nodup_append.mp distinct
  have absent : ∀ other ∈ after, rollout.settings.target.filterKey filter other.metadata ≠
      rollout.settings.target.filterKey filter workload.metadata :=
    fun other listed same => (List.nodup_cons.mp behind).1 (List.mem_map.mpr ⟨other, listed, same⟩)
  rw [List.foldl_append, List.foldl_cons, get?_foldl_put absent, put_of_built? success, SortedMap.get?_insert,
    if_pos rfl]

variable (rollout filter) (version : String)

theorem deploy_eq : rollout.deploy filter version path =
    ((Enumeration.mutateSelected rollout.settings.target.kind rollout.settings.target.namespaceName
      rollout.settings.target.labels (rollout.applyToWorkload filter path (.ofVersion version))
      Enumeration.reporting).stage "applying filter to workload").bind fun _ => done (.ok ()) := rfl

/-- Wherever a deployment ends. It is complete if it succeeds, and it fails only by a fault or at a workload that the
filter does not fit. -/
theorem deploy_progress (path : String) {world : World} (distinct : World.Distinct world.workloads) :
    let effect := rollout.application filter path (.ofVersion version)
    ∃ result after stored ensured, (rollout.deploy filter version path).outcome World.answer world = (result, after) ∧
      Enumeration.Progress effect (rollout.settings.target.selected world) world after
        ((rollout.deploy filter version path).exchanges World.answer world) stored ensured ∧
      (result = .ok () ∧ stored = (rollout.settings.target.selected world).length ∨
        ∃ e, result = .error e ∧
          ((∀ workload ∈ rollout.settings.target.selected world, effect.fits workload) → world.faults ≠ [])) := by
  intro effect
  obtain ⟨result, after, stored, ensured, ended, progress, verdict⟩ :=
    Enumeration.mutateSelected_progress (rollout.acts_application filter path (.ofVersion version))
      Enumeration.watches_reporting rollout.settings.target.kind rollout.settings.target.namespaceName
      rollout.settings.target.labels distinct
  rw [deploy_eq, exchanges_bind_done, exchanges_stage]
  rcases verdict with ⟨rfl, all⟩ | ⟨e, rfl, faulty⟩
  · have staged := outcome_stage_ok ended "applying filter to workload"
    exact ⟨_, after, stored, ensured, outcome_bind_ok staged, progress, .inl ⟨rfl, all⟩⟩
  · have failed := outcome_stage_error ended "applying filter to workload"
    exact ⟨_, after, stored, ensured, outcome_bind_error failed, progress, .inr ⟨_, rfl, faulty⟩⟩

variable {version}

/-- However far a deployment came, one without faults after it leaves what a single one leaves, if the annotations are
read as they are written. -/
theorem deploy_of_progress {world middle : World} {run : List Exchange} {stored ensured : Nat}
    (distinct : World.Distinct world.workloads) (faultless : middle.faults = [])
    (fits : ∀ workload ∈ rollout.settings.target.selected world,
      (rollout.application filter path (.ofVersion version)).fits workload)
    (faithful : ∀ workload ∈ rollout.settings.target.selected world,
      SidecarAnnotations.Faithful workload.template.annotations SidecarAnnotations.required.toList)
    (progress : Enumeration.Progress (rollout.application filter path (.ofVersion version))
      (rollout.settings.target.selected world) world middle run stored ensured) :
    let effect := rollout.application filter path (.ofVersion version)
    ∃ after, (rollout.deploy filter version path).outcome World.answer middle = (.ok (), after) ∧
      after.workloads = (world.workloads.map fun workload =>
        if rollout.settings.target.selects workload then effect.update workload else workload) ∧
      after.filters = (rollout.settings.target.selected world).foldl (fun all workload => effect.put workload all)
        world.filters := by
  intro effect
  let change := effect.within ((rollout.settings.target.selected world).take stored)
  have workloads : middle.workloads = world.workloads.map change :=
    progress.workloads distinct (rollout.settings.target.selected_subset world)
  have distinctMiddle : World.Distinct middle.workloads := by
    rw [workloads]
    exact World.distinct_map distinct (effect.address_within _)
  have selected : rollout.settings.target.selected middle = (rollout.settings.target.selected world).map change :=
    World.selected_of_map workloads (effect.selects_within _ _ _ _)
  have settled : ∀ workload ∈ rollout.settings.target.selected world,
      effect.update (change workload) = effect.update workload ∧ effect.fits (change workload) := by
    intro workload member
    unfold change Enumeration.Effect.within
    split
    · exact update_update_of_faithful (fits workload member) (faithful workload member)
    · exact ⟨rfl, fits workload member⟩
  have fitsMiddle : ∀ workload ∈ rollout.settings.target.selected middle, effect.fits workload := by
    intro workload member
    rw [selected] at member
    obtain ⟨original, listed, rfl⟩ := List.mem_map.mp member
    exact (settled original listed).2
  obtain ⟨result, after, storedAgain, ensuredAgain, ended, again, verdict⟩ :=
    rollout.deploy_progress filter version path distinctMiddle
  rcases verdict with ⟨rfl, rfl⟩ | ⟨e, -, faulty⟩
  · obtain ⟨-, workloadsAfter, filtersAfter⟩ := rollout.settings.target.ends_of_complete distinctMiddle again
    refine ⟨after, ended, ?_, ?_⟩
    · rw [workloadsAfter, workloads, List.map_map]
      refine List.map_congr_left fun workload member => ?_
      have same : rollout.settings.target.selects (change workload) = rollout.settings.target.selects workload :=
        effect.selects_within _ _ _ _ workload
      simp only [Function.comp_apply, same]
      by_cases chosen : rollout.settings.target.selects workload = true
      · rw [if_pos chosen, if_pos chosen]
        exact (settled workload (Target.mem_selected_iff.mpr ⟨member, chosen⟩)).1
      · rw [if_neg chosen, if_neg chosen]
        have passed : workload ∉ (rollout.settings.target.selected world).take stored := fun taken =>
          chosen (Target.mem_selected_iff.mp (List.mem_of_mem_take taken)).2
        exact if_neg passed
    · have put : (fun all workload => effect.put (change workload) all) =
          fun all workload => effect.put workload all := by
        funext all workload
        unfold change Enumeration.Effect.within
        split
        · exact put_update workload all
        · rfl
      rw [filtersAfter, selected, List.foldl_map, progress.filters]
      refine (congrArg (fun step => (rollout.settings.target.selected world).foldl step _) put).trans
        (foldl_put_congr fits ?_)
      intro key absent
      exact get?_foldl_put (fun workload taken => absent workload (List.mem_of_mem_take taken)) world.filters
  · exact absurd faultless (faulty fitsMiddle)

/-- Wherever a rollout ends: it has changed nothing, or the cache has the image and the deployment came so far, to its
end if the rollout succeeded. -/
theorem apply_progress {world : World} (distinct : World.Distinct world.workloads) :
    ∃ result after, (rollout.apply filter).outcome World.answer world = (result, after) ∧
      ((∃ e, result = .error e) ∧ after.withFaults [] = world.withFaults [] ∨
        ∃ path middle run stored ensured, Prepares rollout filter world path ∧
          CacheSync.Cached filter.image world middle ∧
          Enumeration.Progress (rollout.application filter path (.ofVersion world.version))
            (rollout.settings.target.selected middle) middle after run stored ensured ∧
          (result = .ok () → stored = (rollout.settings.target.selected middle).length)) := by
  rw [apply_eq]
  have unchanged := rollout.prepare_frame filter world
  cases prepared : (rollout.prepare filter).outcome World.answer world with
  | mk result ready =>
    rw [prepared] at unchanged
    cases result with
    | error e => exact ⟨_, ready, outcome_bind_error prepared, .inl ⟨⟨e, rfl⟩, unchanged⟩⟩
    | ok found =>
      obtain ⟨version, path⟩ := found
      obtain ⟨prepares, rfl⟩ := prepare_of_ok prepared
      rw [outcome_bind_ok prepared]
      obtain ⟨synced, middle, ended, verdict⟩ := CacheSync.sync_cases rollout.settings.cache filter.image
        rollout.settings.cacheTimeout rollout.settings.pollInterval ready
      cases synced with
      | error e =>
        have failed := outcome_stage_error ended "adding image to cache"
        refine ⟨_, middle, outcome_bind_error failed, ?_⟩
        rcases verdict with cached | ⟨-, same⟩
        · refine .inr ⟨path, middle, [], 0, 0, prepares, cached.of_same unchanged, .none rfl (by simp), ?_⟩
          intro success
          cases success
        · exact .inl ⟨⟨_, rfl⟩, same.trans unchanged⟩
      | ok value =>
        have cached := (verdict.resolve_right (by simp)).of_same unchanged
        have staged := outcome_stage_ok ended "adding image to cache"
        obtain ⟨result, after, stored, ensured, deployed, progress, complete⟩ :=
          rollout.deploy_progress filter world.version path (cached.workloads ▸ distinct)
        refine ⟨result, after, (outcome_bind_ok staged).trans deployed,
          .inr ⟨path, middle, _, stored, ensured, prepares, cached, progress, ?_⟩⟩
        rintro rfl
        rcases complete with ⟨-, all⟩ | ⟨e, failed, -⟩
        · exact all
        · cases failed

/-- A rollout that succeeds does to the workloads and Envoy filters what its deployment does. -/
theorem apply_of_ok {world after : World} (distinct : World.Distinct world.workloads)
    (success : (rollout.apply filter).outcome World.answer world = (.ok (), after)) :
    ∃ path middle, let effect := rollout.application filter path (.ofVersion world.version)
      Prepares rollout filter world path ∧ CacheSync.Cached filter.image world middle ∧
        after.registry = middle.registry ∧ (∀ workload ∈ rollout.settings.target.selected world, effect.fits workload) ∧
        after.workloads = (world.workloads.map fun workload =>
          if rollout.settings.target.selects workload then effect.update workload else workload) ∧
        after.filters = (rollout.settings.target.selected world).foldl (fun all workload => effect.put workload all)
          world.filters := by
  obtain ⟨result, other, ended, verdict⟩ := rollout.apply_progress filter distinct
  obtain ⟨rfl, rfl⟩ := Prod.mk.inj (success.symm.trans ended)
  obtain ⟨path, middle, run, stored, ensured, prepares, cached, progress, complete⟩ := verdict.resolve_left (by simp)
  obtain rfl := complete rfl
  have kept : after.registry = middle.registry := (congrArg World.registry progress.state :)
  have reached := rollout.settings.target.ends_of_complete (cached.workloads ▸ distinct) progress
  rw [rollout.settings.target.selected_congr cached.workloads, cached.workloads, cached.filters] at reached
  exact ⟨path, middle, prepares, cached, kept, reached⟩

end FilterRollout.Rollout
