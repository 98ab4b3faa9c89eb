import FilterRollout.Proofs.Rollout.Barrier
import FilterRollout.Proofs.Rollout.Deployment
import FilterRollout.Proofs.Rollout.Withdrawal

/-! Rolling a filter out again, after a rollout that may have failed anywhere. Main statement: `apply_converges`. -/

namespace FilterRollout

open Program

namespace Rollout

variable (rollout : Rollout) (filter : FilterSpec)

/-- A rollout without faults from where an earlier one left off. It finds the image in the cache, and leaves what a
single deployment to the workloads before both would have left. -/
theorem apply_of_progress {world middle left : World} {path : String} {run : List Exchange} {stored ensured : Nat}
    (distinct : World.Distinct world.workloads) (oneLine : '\n' ∉ filter.image.toList)
    (fits : ∀ workload ∈ rollout.settings.target.selected world,
      (rollout.application filter path (.ofVersion world.version)).fits workload)
    (faithful : ∀ workload ∈ rollout.settings.target.selected world,
      SidecarAnnotations.Faithful workload.template.annotations SidecarAnnotations.required.toList)
    (prepares : Prepares rollout filter world path) (cached : CacheSync.Cached filter.image world middle)
    (progress : Enumeration.Progress (rollout.application filter path (.ofVersion world.version))
      (rollout.settings.target.selected middle) middle left run stored ensured) :
    let effect := rollout.application filter path (.ofVersion world.version)
    ∃ after, (rollout.apply filter).outcome World.answer (left.withFaults []) = (.ok (), after) ∧
      after.registry = middle.registry ∧
      after.workloads = (world.workloads.map fun workload =>
        if rollout.settings.target.selects workload then effect.update workload else workload) ∧
      after.filters = (rollout.settings.target.selected world).foldl (fun all workload => effect.put workload all)
        world.filters := by
  intro effect
  have releases : (left.withFaults []).releases = world.releases :=
    (congrArg World.releases progress.state :).trans cached.releases
  obtain ⟨ready, prepared⟩ := prepare_of_faultless (prepares.congr releases) rfl
  have unchanged := rollout.prepare_frame filter (left.withFaults [])
  have faultless := World.faults_outcome (rollout.prepare filter) (left.withFaults [])
  rw [prepared] at unchanged faultless
  have version : (left.withFaults []).version = world.version := congrArg Prod.fst releases
  rw [version] at prepared
  -- The image is found in the registry, so that the cache is left alone.
  obtain ⟨registry, listing, listed⟩ := cached.lists oneLine
  have keptLeft : left.registry = middle.registry := (congrArg World.registry progress.state :)
  have keptReady : ready.registry = left.registry := (congrArg World.registry unchanged :)
  let last := ready.counting .readRegistry
  have synced : (syncCache rollout.settings filter.image).outcome World.answer ready = (.ok (), last) :=
    CacheSync.sync_of_listed faultless ((keptReady.trans keptLeft).trans listing) listed _ _
  have state : last.withFaults [] = left.withFaults [] := unchanged
  have faultlessLast : last.faults = [] := faultless
  have reached : Enumeration.Progress effect (rollout.settings.target.selected middle) middle last run stored ensured :=
    { progress with state := state.trans progress.state }
  have same := rollout.settings.target.selected_congr cached.workloads
  obtain ⟨after, deployed, workloads, filters⟩ := rollout.deploy_of_progress filter (cached.workloads ▸ distinct)
    faultlessLast (same ▸ fits) (same ▸ faithful) reached
  have keptLast := (World.keepsRegistry rollout.settings.cache).kept
    (rollout.deploy_callsOnly filter world.version path) (by simp) last
  rw [deployed] at keptLast
  refine ⟨after, ?_, keptLast.trans (keptReady.trans keptLeft), ?_, ?_⟩
  · rw [apply_eq, outcome_bind_ok prepared, outcome_bind_ok (outcome_stage_ok synced _)]
    exact deployed
  · rw [workloads, cached.workloads]
  · rw [filters, same, cached.filters]

/-- A rollout of an image without a line break, however it failed, and one without faults after it leave the workloads,
the Envoy filters and the registry that one without faults leaves alone, if that one succeeds and the doubles in the
annotations it merges into are read as they are printed. Each selected workload then has one Envoy filter of its own,
and all others are as they were. -/
theorem apply_converges (faults : List Fault) {world : World} (distinct : World.Distinct world.workloads)
    (oneLine : '\n' ∉ filter.image.toList)
    (faithful : ∀ workload ∈ rollout.settings.target.selected world, ∀ key ∈ SidecarAnnotations.required.keys,
      ∀ text ∈ workload.template.annotations.get? key, Json.FaithfulText text)
    (success : ((rollout.apply filter).outcome World.answer (world.withFaults [])).1 = .ok ()) :
    let first := (rollout.apply filter).outcome World.answer (world.withFaults faults)
    let second := (rollout.apply filter).outcome World.answer (first.2.withFaults [])
    let direct := (rollout.apply filter).outcome World.answer (world.withFaults [])
    let keys := (rollout.settings.target.selected world).map fun workload =>
      rollout.settings.target.filterKey filter workload.metadata
    second.1 = .ok () ∧ second.2.workloads = direct.2.workloads ∧ second.2.filters = direct.2.filters ∧
      second.2.registry = direct.2.registry ∧ keys.Nodup ∧
      (∀ key ∈ keys, (second.2.filters.get? key).isSome = true) ∧
      ∀ key, key ∉ keys → second.2.filters.get? key = world.filters.get? key := by
  intro first second direct keys
  have alone : direct = (.ok (), direct.2) := Prod.ext success rfl
  have distinctDirect : World.Distinct (world.withFaults []).workloads := distinct
  obtain ⟨path, middle, prepares, cached, registry, fits, workloads, filters⟩ :=
    rollout.apply_of_ok filter distinctDirect alone
  have distinctFirst : World.Distinct (world.withFaults faults).workloads := distinct
  have converges : second.1 = .ok () ∧ second.2.workloads = direct.2.workloads ∧
      second.2.filters = direct.2.filters ∧ second.2.registry = direct.2.registry := by
    obtain ⟨result, left, ended, verdict⟩ := rollout.apply_progress filter distinctFirst
    have reached : first.2 = left := congrArg Prod.snd ended
    rcases verdict with ⟨-, same⟩ |
        ⟨pathFirst, middleFirst, run, stored, ensured, preparesFirst, cachedFirst, progress, -⟩
    · have again : second = direct := by
        have start : first.2.withFaults [] = world.withFaults [] := reached ▸ same
        exact congrArg ((rollout.apply filter).outcome World.answer) start
      rw [again]
      exact ⟨success, rfl, rfl, rfl⟩
    · obtain rfl : path = pathFirst := Except.ok.inj (prepares.path.symm.trans preparesFirst.path)
      obtain ⟨after, again, registryAgain, workloadsAgain, filtersAgain⟩ :=
        rollout.apply_of_progress filter distinctFirst oneLine fits
          (fun workload member => SidecarAnnotations.faithful_required (faithful workload member))
          preparesFirst cachedFirst progress
      have endedAgain : second = (.ok (), after) := by
        rw [← again, ← reached]
      rw [endedAgain]
      refine ⟨rfl, workloadsAgain.trans workloads.symm, filtersAgain.trans filters.symm, ?_⟩
      obtain ⟨found, present, listing⟩ := cached.registry
      obtain ⟨foundFirst, presentFirst, listingFirst⟩ := cachedFirst.registry
      obtain rfl : found = foundFirst := Option.some.inj (present.symm.trans presentFirst)
      exact (registryAgain.trans listingFirst).trans (registry.trans listing).symm
  obtain ⟨accepted, sameWorkloads, sameFilters, sameRegistry⟩ := converges
  have distinctKeys : keys.Nodup := rollout.settings.target.nodup_filterKeys filter distinct
  refine ⟨accepted, sameWorkloads, sameFilters, sameRegistry, distinctKeys, ?_, ?_⟩
  · intro key member
    obtain ⟨workload, listed, rfl⟩ := List.mem_map.mp member
    obtain ⟨built, -, found⟩ := get?_foldl_put_of_mem listed fits distinctKeys world.filters
    rw [sameFilters, filters]
    exact Option.isSome_iff_exists.mpr ⟨built, found⟩
  · intro key absent
    rw [sameFilters, filters]
    exact get?_foldl_put (fun workload listed same => absent (List.mem_map.mpr ⟨workload, listed, same⟩)) world.filters

end Rollout

/-- The filter with an image of two lines, which no registry lists as it is. -/
def FilterSpec.twoLines : FilterSpec := { FilterSpec.auth with image := "filters/auth:1\nfilters/auth:2" }

/-- An image with a line break is registered anew by each rollout, so that the registry grows. -/
theorem Rollout.apply_registers_again :
    World.Distinct World.withVolume.workloads ∧
      (∀ workload ∈ Rollout.toDeployments.settings.target.selected .withVolume,
        ∀ key ∈ SidecarAnnotations.required.keys, ∀ text ∈ workload.template.annotations.get? key,
          Json.FaithfulText text) ∧
      let first := (Rollout.toDeployments.apply .twoLines).outcome World.answer (World.withVolume.withFaults [])
      let second := (Rollout.toDeployments.apply .twoLines).outcome World.answer (first.2.withFaults [])
      first.1 = .ok () ∧ second.1 = .ok () ∧ second.2.registry ≠ first.2.registry := by
  decide +kernel

/-- The law of converging rollouts where the second update of a workload fails at first. -/
theorem Rollout.apply_converges_withVolume :
    World.Distinct World.withVolume.workloads ∧
      let first := (Rollout.toDeployments.apply .auth).outcome World.answer (World.withVolume.withFaults [.secondUpdate])
      let second := (Rollout.toDeployments.apply .auth).outcome World.answer (first.2.withFaults [])
      let direct := (Rollout.toDeployments.apply .auth).outcome World.answer (World.withVolume.withFaults [])
      first.1.isOk = false ∧ direct.1 = .ok () ∧ second.1 = .ok () ∧ second.2.workloads = direct.2.workloads ∧
        second.2.filters = direct.2.filters ∧ second.2.registry = direct.2.registry := by
  have distinct : World.Distinct World.withVolume.workloads := by decide +kernel
  have oneLine : '\n' ∉ FilterSpec.auth.image.toList := by decide
  have faithful : ∀ workload ∈ Rollout.toDeployments.settings.target.selected .withVolume,
      ∀ key ∈ SidecarAnnotations.required.keys, ∀ text ∈ workload.template.annotations.get? key,
        Json.FaithfulText text := by decide +kernel
  have success : ((Rollout.toDeployments.apply .auth).outcome World.answer (World.withVolume.withFaults [])).1 =
      .ok () := by decide +kernel
  obtain ⟨accepted, workloads, filters, registry, -⟩ :=
    Rollout.toDeployments.apply_converges .auth [.secondUpdate] distinct oneLine faithful success
  exact ⟨distinct, by decide +kernel, success, accepted, workloads, filters, registry⟩

end FilterRollout
