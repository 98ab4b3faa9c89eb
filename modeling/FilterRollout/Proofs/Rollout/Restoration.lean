import FilterRollout.Proofs.Rollout.Deployment
import FilterRollout.Proofs.Rollout.Withdrawal

/-! A filter that is rolled out any number of times and then withdrawn leaves nothing behind. Main statement:
`remove_restores`. -/

namespace FilterRollout

open Program SidecarAnnotations

/-- Rollouts of one filter with the same settings that all succeeded, one after another. Between two of them everything
but the workloads and the Envoy filters may change. -/
inductive Deployed (settings : Settings) (filter : FilterSpec) : Nat → World → World → Prop
  | none (world : World) : Deployed settings filter 0 world world
  | next {count : Nat} {start left world after : World} (rollout : Rollout) (same : rollout.settings = settings)
      (earlier : Deployed settings filter count start left)
      (success : (rollout.apply filter).outcome World.answer world = (.ok (), after))
      (workloads : world.workloads = left.workloads) (filters : world.filters = left.filters) :
      Deployed settings filter (count + 1) start after

/-- A workload in which the original one is kept, all of it but the annotations as it was, and these recoverable. -/
structure Retained (merged : List String) (original current : Workload) : Prop where
  frame : ∀ annotations, current.withTemplate (current.template.withAnnotations annotations) =
    original.withTemplate (original.template.withAnnotations annotations)
  recoverable : Recoverable required original.template.annotations merged current.template.annotations

theorem Retained.start {workload : Workload}
    (unmarked : ∀ key ∈ workload.template.annotations.keys, isBackupKey key = false) : Retained [] workload workload :=
  ⟨fun _ => rfl, .start unmarked⟩

theorem Retained.update {rollout : Rollout} {filter : FilterSpec} {path : String} {schema : ConfigSchema}
    {merged : List String} {original current : Workload} (retained : Retained merged original current)
    (fits : (rollout.application filter path schema).fits current) :
    Retained ((required.toList.map (·.1)).reverse ++ merged) original
        ((rollout.application filter path schema).update current) ∧
      ((rollout.application filter path schema).update current).template.annotations?.isSome = true := by
  obtain ⟨success, -⟩ := fits
  have ended : mergeEach current.template.annotations required.toList =
      ((mergeEach current.template.annotations required.toList).1, .ok ()) := Prod.ext rfl success
  have wishes : ∀ entry ∈ required.toList, required.get? entry.1 = some entry.2 :=
    fun entry member => SortedMap.mem_toList_iff.mp member
  refine ⟨⟨fun annotations => retained.frame annotations, ?_⟩, rfl⟩
  exact retained.recoverable.mergeEach plain_required wishes ended

/-- A pod template from whose annotations a withdrawal can tell its own from others: none is a backup, and no required
one is empty or has the required value. -/
def Unclaimed (annotations : SortedMap String) : Prop :=
  ∀ key value, annotations.get? key = some value →
    isBackupKey key = false ∧ ∀ wanted, required.get? key = some wanted → value ≠ "" ∧ value ≠ wanted

theorem unclaimed_iff {annotations : SortedMap String} : Unclaimed annotations ↔
    ∀ entry ∈ annotations.toList, isBackupKey entry.1 = false ∧
      ∀ wanted ∈ required.get? entry.1, entry.2 ≠ "" ∧ entry.2 ≠ wanted := by
  constructor
  · intro unclaimed entry member
    exact unclaimed entry.1 entry.2 (SortedMap.mem_toList_iff.mp member)
  · intro unclaimed key value found
    exact unclaimed (key, value) (SortedMap.mem_toList_iff.mpr found)

instance (annotations : SortedMap String) : Decidable (Unclaimed annotations) :=
  decidable_of_iff _ unclaimed_iff.symm

theorem Unclaimed.unmarked {annotations : SortedMap String} (unclaimed : Unclaimed annotations) :
    ∀ key ∈ annotations.keys, isBackupKey key = false := by
  intro key member
  obtain ⟨value, found⟩ := SortedMap.mem_keys_iff.mp member
  exact (unclaimed key value found).1

/-- A withdrawal from a workload in which all required annotations were merged. -/
theorem Retained.remove {merged : List String} {original current : Workload}
    (retained : Retained merged original current) (unclaimed : Unclaimed original.template.annotations)
    (all : required.keys ⊆ merged)
    (present : current.template.annotations?.isSome = true) :
    Rollout.removal.update current = original.withTemplate (original.template.withAnnotations
      (if original.template.annotations.isEmpty then none else some original.template.annotations)) := by
  have restored : withdraw required current.template.annotations = original.template.annotations := by
    refine SortedMap.ext_get? fun key => ?_
    rw [get?_withdraw_of_recoverable plain_required unclaimed.unmarked retained.recoverable all]
    cases wish : required.get? key with
    | none => rfl
    | some wanted =>
      cases found : original.template.annotations.get? key with
      | none => rfl
      | some value =>
        obtain ⟨filled, different⟩ := (unclaimed key value found).2 wanted wish
        simp [filled, different]
  obtain ⟨annotations, found⟩ := Option.isSome_iff_exists.mp present
  have same : current.template.annotations = annotations := by simp [PodTemplate.annotations, found]
  rw [same] at restored
  rw [← retained.frame, Enumeration.Effect.update]
  simp only [Rollout.removal, SidecarAnnotations.remove, found, restored]

/-- A cluster after some deployments to a target: the selected workloads are changed in a way that retains them, and all
Envoy filters but theirs are as they were. -/
structure Overlaid (target : Target) (filter : FilterSpec) (count : Nat) (start after : World)
    (change : Workload → Workload) (merged : List String) : Prop where
  workloads : after.workloads = start.workloads.map change
  identity : ∀ workload, (change workload).kind = workload.kind ∧ (change workload).metadata = workload.metadata
  passed : ∀ workload, target.selects workload = false → change workload = workload
  retained : ∀ workload ∈ target.selected start, Retained merged workload (change workload)
  complete : 0 < count → required.keys ⊆ merged ∧
    ∀ workload ∈ target.selected start, (change workload).template.annotations?.isSome = true
  filters : ∀ key, (∀ workload ∈ target.selected start, target.filterKey filter workload.metadata ≠ key) →
    after.filters.get? key = start.filters.get? key

namespace Overlaid

variable {target : Target} {filter : FilterSpec} {count : Nat} {start after : World} {change : Workload → Workload}
  {merged : List String}

theorem address (overlaid : Overlaid target filter count start after change merged) (workload : Workload) :
    (change workload).address = workload.address := by
  obtain ⟨kind, metadata⟩ := overlaid.identity workload
  rw [Workload.address, Workload.address, Workload.name, Workload.name, kind, metadata]

theorem selects (overlaid : Overlaid target filter count start after change merged) (workload : Workload) :
    target.selects (change workload) = target.selects workload := by
  obtain ⟨kind, metadata⟩ := overlaid.identity workload
  rw [Target.selects, Target.selects, World.selects, World.selects, kind, metadata]

theorem selected (overlaid : Overlaid target filter count start after change merged) :
    target.selected after = (target.selected start).map change :=
  World.selected_of_map overlaid.workloads overlaid.selects

theorem distinct (overlaid : Overlaid target filter count start after change merged)
    (distinct : World.Distinct start.workloads) : World.Distinct after.workloads := by
  rw [overlaid.workloads]
  exact World.distinct_map distinct overlaid.address

end Overlaid

theorem Deployed.overlaid {settings : Settings} {filter : FilterSpec} {count : Nat} {start after : World}
    (deployed : Deployed settings filter count start after) (distinct : World.Distinct start.workloads)
    (unclaimed : ∀ workload ∈ settings.target.selected start, Unclaimed workload.template.annotations) :
    ∃ change merged, Overlaid settings.target filter count start after change merged := by
  induction deployed with
  | none start =>
    refine ⟨id, [], by simp, fun _ => ⟨rfl, rfl⟩, fun _ _ => rfl, ?_, by simp, fun _ _ => rfl⟩
    exact fun workload member => .start (unclaimed workload member).unmarked
  | @next count start left world after rollout same earlier success workloads filters ih =>
    obtain ⟨change, merged, overlaid⟩ := ih distinct unclaimed
    have here : Overlaid settings.target filter count start world change merged :=
      { overlaid with
        workloads := workloads.trans overlaid.workloads
        filters := fun key absent => (congrArg (·.get? key) filters).trans (overlaid.filters key absent) }
    obtain ⟨path, -, -, -, -, fits, stored, put⟩ := rollout.apply_of_ok filter (here.distinct distinct) success
    rw [same] at fits stored put
    let effect := rollout.application filter path (.ofVersion world.version)
    let again (workload : Workload) : Workload :=
      if settings.target.selects workload then effect.update (change workload) else workload
    have updated : ∀ workload ∈ settings.target.selected start, again workload = effect.update (change workload) :=
      fun workload member => if_pos (Target.mem_selected_iff.mp member).2
    have fitting : ∀ workload ∈ settings.target.selected start, effect.fits (change workload) := by
      intro workload member
      refine fits (change workload) ?_
      rw [here.selected]
      exact List.mem_map_of_mem member
    refine ⟨again, (required.toList.map (·.1)).reverse ++ merged, ?_, ?_, ?_, ?_, ?_, ?_⟩
    · rw [stored, here.workloads, List.map_map]
      refine List.map_congr_left fun workload _ => ?_
      simp only [Function.comp_apply, here.selects, again]
      split
      · rfl
      · rename_i passed
        exact here.passed workload (Bool.eq_false_of_not_eq_true passed)
    · intro workload
      unfold again
      split
      · exact here.identity workload
      · exact ⟨rfl, rfl⟩
    · intro workload passed
      simp [again, passed]
    · intro workload member
      rw [updated workload member]
      exact ((here.retained workload member).update (fitting workload member)).1
    · intro _
      refine ⟨fun key wanted => ?_, fun workload member => ?_⟩
      · exact List.mem_append_left _ (List.mem_reverse.mpr wanted)
      · rw [updated workload member]
        exact ((here.retained workload member).update (fitting workload member)).2
    · intro key absent
      rw [put, Rollout.get?_foldl_put]
      · exact here.filters key absent
      · intro workload member
        rw [here.selected] at member
        obtain ⟨original, listed, rfl⟩ := List.mem_map.mp member
        rw [(here.identity original).2, same]
        exact absent original listed

/-- Any number of successful rollouts of a filter, then a successful withdrawal without an owner: every selected workload
has its original annotations, in metadata that may have been created for them, all other workloads are as they were, and
so are all Envoy filters but those of the selected workloads, which are gone. -/
theorem Rollout.remove_restores (remover : Rollout) (filter : FilterSpec) {count : Nat} {start left world after : World}
    (unowned : remover.owner = none) (distinct : World.Distinct start.workloads)
    (unclaimed : ∀ workload ∈ remover.settings.target.selected start, Unclaimed workload.template.annotations)
    (deployed : Deployed remover.settings filter count start left) (positive : 0 < count)
    (success : (remover.remove filter).outcome World.answer world = (.ok (), after))
    (workloads : world.workloads = left.workloads) (filters : world.filters = left.filters) :
    after.workloads = (start.workloads.map fun workload =>
        if remover.settings.target.selects workload then
          workload.withTemplate (workload.template.withAnnotations
            (if workload.template.annotations.isEmpty then none else some workload.template.annotations))
        else workload) ∧
      ∀ key, after.filters.get? key =
        if ∃ workload ∈ remover.settings.target.selected start,
          remover.settings.target.filterKey filter workload.metadata = key then none
        else start.filters.get? key := by
  obtain ⟨change, merged, overlaid⟩ := deployed.overlaid distinct unclaimed
  obtain ⟨all, present⟩ := overlaid.complete positive
  have distinctWorld : World.Distinct world.workloads := workloads ▸ overlaid.distinct distinct
  obtain ⟨restored, deleted⟩ := remover.remove_of_ok filter distinctWorld success
  constructor
  · rw [restored, workloads, overlaid.workloads, List.map_map]
    refine List.map_congr_left fun workload member => ?_
    simp only [Function.comp_apply, overlaid.selects]
    split
    · rename_i chosen
      have listed : workload ∈ remover.settings.target.selected start := Target.mem_selected_iff.mpr ⟨member, chosen⟩
      exact (overlaid.retained workload listed).remove (unclaimed workload listed) all (present workload listed)
    · rename_i passed
      exact overlaid.passed workload (Bool.eq_false_of_not_eq_true passed)
  · intro key
    have keys : remover.deletedKeys filter ((remover.settings.target.selected world).map (·.metadata)) =
        (remover.settings.target.selected start).map
          fun workload => remover.settings.target.filterKey filter workload.metadata := by
      rw [Target.selected_congr _ workloads, overlaid.selected]
      simp only [deletedKeys, unowned, List.map_map]
      refine List.map_congr_left fun workload _ => ?_
      simp only [Function.comp_apply, (overlaid.identity workload).2]
    rw [deleted, keys, SortedMap.get?_foldl_erase, filters]
    by_cases listed : ∃ workload ∈ remover.settings.target.selected start,
        remover.settings.target.filterKey filter workload.metadata = key
    · rw [if_pos (List.mem_map.mpr listed), if_pos listed]
    · rw [if_neg (mt List.mem_map.mp listed), if_neg listed]
      exact overlaid.filters key fun workload member same => listed ⟨workload, member, same⟩

/-- Two rollouts and a withdrawal where a workload has a volume of its own. -/
theorem Rollout.remove_restores_withVolume :
    World.Distinct World.withVolume.workloads ∧
      (∀ workload ∈ Rollout.toDeployments.settings.target.selected .withVolume,
        Unclaimed workload.template.annotations) ∧
      let first := (Rollout.toDeployments.apply .auth).outcome World.answer .withVolume
      let second := (Rollout.toDeployments.apply .auth).outcome World.answer first.2
      let removed := (Rollout.toDeployments.remove .auth).outcome World.answer second.2
      (first.1.isOk = true ∧ second.1.isOk = true ∧ removed.1.isOk = true) ∧
        removed.2.workloads = (World.withVolume.workloads.map fun workload =>
          if Rollout.toDeployments.settings.target.selects workload then
            workload.withTemplate (workload.template.withAnnotations
              (if workload.template.annotations.isEmpty then none else some workload.template.annotations))
          else workload) ∧
        ∀ key, removed.2.filters.get? key =
          if ∃ workload ∈ Rollout.toDeployments.settings.target.selected .withVolume,
            Rollout.toDeployments.settings.target.filterKey .auth workload.metadata = key then none
          else World.withVolume.filters.get? key := by
  have distinct : World.Distinct World.withVolume.workloads := by decide +kernel
  have unclaimed : ∀ workload ∈ Rollout.toDeployments.settings.target.selected .withVolume,
      Unclaimed workload.template.annotations := by decide +kernel
  refine ⟨distinct, unclaimed, ?_⟩
  intro first second removed
  have once : first.1.isOk = true := by decide +kernel
  have twice : second.1.isOk = true := by decide +kernel
  have gone : removed.1.isOk = true := by decide +kernel
  have deployed : Deployed Rollout.toDeployments.settings .auth 2 .withVolume second.2 :=
    .next Rollout.toDeployments rfl
      (.next Rollout.toDeployments rfl (.none .withVolume) (outcome_of_isOk once) rfl rfl)
      (outcome_of_isOk twice) rfl rfl
  have restored := Rollout.toDeployments.remove_restores .auth rfl distinct unclaimed deployed (by decide)
    (outcome_of_isOk gone) rfl rfl
  exact ⟨⟨once, twice, gone⟩, restored⟩

end FilterRollout
