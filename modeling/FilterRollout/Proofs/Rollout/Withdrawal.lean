import FilterRollout.Proofs.Rollout.Selection
import FilterRollout.Proofs.Sidecar.Restoration

/-! Withdrawing a filter from a cluster in memory. Wherever a withdrawal ends, a prefix of the selected workloads is
restored and a prefix of their Envoy filters is deleted. Main statement: `remove_converges_iff`, which says when a
withdrawal that failed can be run again. -/

namespace FilterRollout

open Program

namespace Rollout

/-- What withdrawing a filter does to a workload. -/
def removal : Enumeration.Effect where
  template workload := SidecarAnnotations.remove SidecarAnnotations.required workload.template
  put _ filters := filters
  fits _ := True

theorem acts_removal : Enumeration.Acts removeFromWorkload removal where
  calls _ _ := .done _
  ends _ world := .inr ⟨world, rfl, rfl, trivial⟩

/-- The keys under which a withdrawal deletes the Envoy filters of workloads, none if the rollout has an owner. -/
def deletedKeys (rollout : Rollout) (filter : FilterSpec) (workloads : List ObjectMeta) : List String :=
  match rollout.owner with
  | some _ => []
  | none => workloads.map (rollout.settings.target.filterKey filter)

/-- Deletions in turn delete a prefix, and only a fault stops them. -/
theorem deleteFilters_progress (namespaceName filterId : String) (workloads : List ObjectMeta) (world : World) :
    let keys := workloads.map fun metadata =>
      World.filterKey namespaceName (EnvoyFilter.nameFor (metadata.name.getD "") filterId)
    ∃ result after erased,
      (deleteFilters namespaceName filterId workloads).outcome World.answer world = (result, after) ∧
      after.withFaults [] = { world.withFaults [] with
        filters := (keys.take erased).foldl SortedMap.erase world.filters } ∧
      (result = .ok () ∧ erased = keys.length ∨ ∃ e, result = .error e ∧ world.faults ≠ []) := by
  induction workloads generalizing world with
  | nil => exact ⟨.ok (), world, 0, rfl, rfl, .inl ⟨rfl, rfl⟩⟩
  | cons metadata rest ih =>
    let name := EnvoyFilter.nameFor (metadata.name.getD "") filterId
    let key := World.filterKey namespaceName name
    rcases World.answer_cases (.deleteFilter namespaceName name) world with ⟨e, failed, faulty⟩ | served
    · have ended : (perform (.deleteFilter namespaceName name)).outcome World.answer world =
          (.error e, world.counting .deleteFilter) := failed
      exact ⟨_, _, 0, outcome_bind_error (outcome_stage_error ended _), rfl, .inr ⟨_, rfl, faulty⟩⟩
    · let middle : World := { world.counting .deleteFilter with filters := world.filters.erase key }
      have ended : (perform (.deleteFilter namespaceName name)).outcome World.answer world = (.ok (), middle) := served
      obtain ⟨result, after, erased, later, state, verdict⟩ := ih middle
      refine ⟨result, after, erased + 1, (outcome_bind_ok (outcome_stage_ok_iff.mpr ended)).trans later, state, ?_⟩
      rcases verdict with ⟨success, all⟩ | failure
      · exact .inl ⟨success, congrArg (· + 1) all⟩
      · exact .inr failure

theorem deleteFilters_callsOnly (namespaceName filterId : String) (workloads : List ObjectMeta) :
    CallsOnly [.deleteFilter] (deleteFilters namespaceName filterId workloads) := by
  induction workloads with
  | nil => exact .done _
  | cons metadata rest ih => exact .bind (.stage _ (.perform (by simp [Call.name]))) fun _ => ih

/-- The last part of a withdrawal, which takes the Envoy filters of the restored workloads away. -/
def retire (rollout : Rollout) (filter : FilterSpec) (workloads : List ObjectMeta) : Program Unit :=
  match rollout.owner with
  | some _ => done (.ok ())
  | none => deleteFilters rollout.settings.target.namespaceName filter.id workloads

theorem remove_eq (rollout : Rollout) (filter : FilterSpec) :
    rollout.remove filter = (ofExcept filter.validate).bind fun _ =>
      ((Enumeration.mutateSelected rollout.settings.target.kind rollout.settings.target.namespaceName
        rollout.settings.target.labels removeFromWorkload Enumeration.silent).stage
          "removing annotations from workload").bind (rollout.retire filter) := rfl

theorem retire_callsOnly (rollout : Rollout) (filter : FilterSpec) (workloads : List ObjectMeta) :
    CallsOnly [.deleteFilter] (rollout.retire filter workloads) := by
  unfold retire
  split
  · exact .done _
  · exact deleteFilters_callsOnly _ _ workloads

theorem retire_progress (rollout : Rollout) (filter : FilterSpec) (workloads : List ObjectMeta) (world : World) :
    ∃ result after deleted, (rollout.retire filter workloads).outcome World.answer world = (result, after) ∧
      after.withFaults [] = { world.withFaults [] with
        filters := ((rollout.deletedKeys filter workloads).take deleted).foldl SortedMap.erase world.filters } ∧
      (result = .ok () ∧ deleted = (rollout.deletedKeys filter workloads).length ∨
        ∃ e, result = .error e ∧ world.faults ≠ []) := by
  unfold retire deletedKeys
  cases rollout.owner with
  | some owner => exact ⟨.ok (), world, 0, rfl, rfl, .inl ⟨rfl, rfl⟩⟩
  | none => exact deleteFilters_progress _ _ workloads world

/-- Where a withdrawal ended: a prefix of the selected workloads is restored, a prefix of the Envoy filters that are to
go is gone, and nothing else is changed. -/
structure Withdrawn (rollout : Rollout) (filter : FilterSpec) (before after : World) (run : List Exchange)
    (restored deleted : Nat) : Prop where
  state : after.withFaults [] = { before.withFaults [] with
    workloads := before.workloads.map (removal.within ((rollout.settings.target.selected before).take restored))
    filters := ((rollout.deletedKeys filter
      ((rollout.settings.target.selected before).map (·.metadata))).take deleted).foldl SortedMap.erase before.filters }
  updates : ∀ updated, (⟨.updateWorkload updated, .ok ()⟩ : Exchange) ∈ run ↔
    ∃ workload ∈ (rollout.settings.target.selected before).take restored, updated = removal.update workload

theorem Withdrawn.workloads {rollout : Rollout} {filter : FilterSpec} {before after : World} {run : List Exchange}
    {restored deleted : Nat} (withdrawn : Withdrawn rollout filter before after run restored deleted) :
    after.workloads = before.workloads.map (removal.within ((rollout.settings.target.selected before).take restored)) :=
  (congrArg World.workloads withdrawn.state :)

theorem Withdrawn.filters {rollout : Rollout} {filter : FilterSpec} {before after : World} {run : List Exchange}
    {restored deleted : Nat} (withdrawn : Withdrawn rollout filter before after run restored deleted) :
    after.filters = ((rollout.deletedKeys filter
      ((rollout.settings.target.selected before).map (·.metadata))).take deleted).foldl SortedMap.erase before.filters :=
  (congrArg World.filters withdrawn.state :)

/-- A withdrawal is complete if it succeeds, and without faults it fails only if the filter is refused. -/
theorem remove_progress (rollout : Rollout) (filter : FilterSpec) {world : World}
    (distinct : World.Distinct world.workloads) :
    ∃ result after restored deleted, (rollout.remove filter).outcome World.answer world = (result, after) ∧
      Withdrawn rollout filter world after ((rollout.remove filter).exchanges World.answer world) restored deleted ∧
      (result = .ok () ∧ filter.validate = .ok () ∧ restored = (rollout.settings.target.selected world).length ∧
          deleted = (rollout.deletedKeys filter ((rollout.settings.target.selected world).map (·.metadata))).length ∨
        ∃ e, result = .error e ∧ (world.faults = [] → filter.validate = .error e)) := by
  rw [remove_eq]
  cases valid : filter.validate with
  | error e =>
    have refused : (Program.ofExcept (.error e : Except Error Unit)).outcome World.answer world = (.error e, world) :=
      rfl
    rw [outcome_bind_error refused, exchanges_bind_error refused]
    have kept : world.workloads.map (removal.within ((rollout.settings.target.selected world).take 0)) =
        world.workloads := by simp
    exact ⟨_, world, 0, 0, rfl, ⟨by rw [kept]; rfl, by simp⟩, .inr ⟨e, rfl, fun _ => rfl⟩⟩
  | ok accepted =>
    have accepted : (Program.ofExcept (.ok () : Except Error Unit)).outcome World.answer world = (.ok (), world) := rfl
    rw [outcome_bind_ok accepted, exchanges_bind_ok accepted, exchanges_ofExcept, List.nil_append]
    obtain ⟨result, middle, restored, ensured, ended, progress, verdict⟩ :=
      Enumeration.mutateSelected_progress acts_removal Enumeration.watches_silent rollout.settings.target.kind
        rollout.settings.target.namespaceName rollout.settings.target.labels distinct
    have state := progress.frame
    rw [progress.filters.trans (List.foldl_fixed _),
      progress.workloads distinct (rollout.settings.target.selected_subset world)] at state
    rcases verdict with ⟨rfl, all⟩ | ⟨e, rfl, faulty⟩
    · have staged := outcome_stage_ok ended "removing annotations from workload"
      obtain ⟨result, after, deleted, last, gone, verdict⟩ :=
        rollout.retire_progress filter ((rollout.settings.target.selected world).map (·.metadata)) middle
      have filters : middle.filters = world.filters := (congrArg World.filters state :)
      have faults : middle.faults = world.faults := by
        have unchanged := World.faults_outcome (Enumeration.mutateSelected rollout.settings.target.kind
          rollout.settings.target.namespaceName rollout.settings.target.labels removeFromWorkload Enumeration.silent)
          world
        rwa [ended] at unchanged
      rw [outcome_bind_ok staged, exchanges_bind_ok staged, exchanges_stage]
      refine ⟨result, after, restored, deleted, last, ⟨?_, fun updated => ?_⟩, ?_⟩
      · rw [gone, state, filters]
        rfl
      · rw [List.mem_append, progress.updates]
        refine or_iff_left fun member => ?_
        have named := (rollout.retire_callsOnly filter _).name_mem member
        simp [Call.name] at named
      · rcases verdict with ⟨rfl, gone⟩ | ⟨e, rfl, faulty⟩
        · exact .inl ⟨rfl, rfl, all, gone⟩
        · exact .inr ⟨e, rfl, fun faultless => absurd (faults.trans faultless) faulty⟩
    · have failed := outcome_stage_error ended "removing annotations from workload"
      rw [outcome_bind_error failed, exchanges_bind_error failed, exchanges_stage]
      refine ⟨_, middle, restored, 0, rfl, ⟨state, progress.updates⟩, .inr ⟨_, rfl, fun faultless => ?_⟩⟩
      exact absurd faultless (faulty fun _ _ => trivial)

/-- What a refused filter leaves: the cluster as it was, without a call. -/
theorem remove_of_refused (rollout : Rollout) {filter : FilterSpec} {e : Error} (refused : filter.validate = .error e)
    (world : World) :
    (rollout.remove filter).outcome World.answer world = (.error e, world) ∧
      (rollout.remove filter).exchanges World.answer world = [] := by
  rw [remove_eq, refused]
  exact ⟨rfl, rfl⟩

/-- A withdrawal that succeeds restores every selected workload and deletes every Envoy filter that is to go. -/
theorem remove_of_ok (rollout : Rollout) (filter : FilterSpec) {world after : World}
    (distinct : World.Distinct world.workloads)
    (success : (rollout.remove filter).outcome World.answer world = (.ok (), after)) :
    after.workloads = (world.workloads.map fun workload =>
        if rollout.settings.target.selects workload then removal.update workload else workload) ∧
      after.filters = (rollout.deletedKeys filter ((rollout.settings.target.selected world).map (·.metadata))).foldl
        SortedMap.erase world.filters := by
  obtain ⟨result, other, restored, deleted, ended, withdrawn, verdict⟩ := rollout.remove_progress filter distinct
  obtain ⟨rfl, rfl⟩ := Prod.mk.inj (success.symm.trans ended)
  rcases verdict with ⟨-, -, rfl, rfl⟩ | ⟨e, failed, -⟩
  · have workloads := withdrawn.workloads
    have filters := withdrawn.filters
    rw [List.take_length] at workloads filters
    exact ⟨workloads.trans (rollout.settings.target.map_within_selected world removal), filters⟩
  · cases failed

/-- Without faults a withdrawal of a valid filter succeeds. -/
theorem remove_ok_of_faultless (rollout : Rollout) {filter : FilterSpec} {world : World}
    (distinct : World.Distinct world.workloads) (faultless : world.faults = []) (valid : filter.validate = .ok ()) :
    ∃ after, (rollout.remove filter).outcome World.answer world = (.ok (), after) := by
  obtain ⟨result, after, restored, deleted, ended, -, verdict⟩ := rollout.remove_progress filter distinct
  rcases verdict with ⟨rfl, -⟩ | ⟨e, -, refused⟩
  · exact ⟨after, ended⟩
  · simp [refused faultless] at valid

/-- Withdrawing from a restored workload changes nothing exactly if it has no annotation that a withdrawal looks at. -/
theorem annotations_update_iff (workload : Workload) :
    (removal.update workload).template.annotations = workload.template.annotations ↔
      ∀ key ∈ workload.template.annotations.keys,
        key ∉ SidecarAnnotations.required.keys ∧ SidecarAnnotations.isBackupKey key = false := by
  change (SidecarAnnotations.remove SidecarAnnotations.required workload.template).annotations = _ ↔ _
  rw [SidecarAnnotations.annotations_remove, SidecarAnnotations.withdraw_eq_self_iff]

theorem update_update {workload : Workload}
    (fixed : (removal.update (removal.update workload)).template.annotations =
      (removal.update workload).template.annotations) :
    removal.update (removal.update workload) = removal.update workload := by
  have withdrawn := (SidecarAnnotations.annotations_remove _ _).symm.trans fixed
  exact congrArg workload.withTemplate (SidecarAnnotations.remove_remove withdrawn)

/-- Deleting what a prefix of the deletions has left. -/
theorem foldl_erase_take {keys : List String} {deleted : Nat} {filters left : SortedMap EnvoyFilter}
    (gone : left = (keys.take deleted).foldl SortedMap.erase filters) :
    keys.foldl SortedMap.erase left = keys.foldl SortedMap.erase filters := by
  refine SortedMap.ext_get? fun key => ?_
  rw [gone, SortedMap.get?_foldl_erase, SortedMap.get?_foldl_erase, SortedMap.get?_foldl_erase]
  by_cases listed : key ∈ keys
  · simp [listed]
  · simp [listed, mt List.mem_of_mem_take listed]

/-- Restoring all selected workloads, some of them for the second time. -/
theorem update_selected_iff (rollout : Rollout) (workloads : List Workload) {restored : List Workload}
    (listed : ∀ workload ∈ restored, workload ∈ workloads ∧ rollout.settings.target.selects workload = true) :
    let update (workload : Workload) :=
      if rollout.settings.target.selects workload then removal.update workload else workload
    let clean := ∀ workload ∈ restored, (removal.update (removal.update workload)).template.annotations =
      (removal.update workload).template.annotations
    (((workloads.map (removal.within restored)).map update).map (·.template.annotations) =
        (workloads.map update).map (·.template.annotations) ↔ clean) ∧
      (clean → (workloads.map (removal.within restored)).map update = workloads.map update) := by
  intro update clean
  have twice (workload : Workload) (chosen : workload ∈ restored) :
      update (removal.within restored workload) = removal.update (removal.update workload) ∧
        update workload = removal.update workload := by
    have selects := (listed workload chosen).2
    have again : rollout.settings.target.selects (removal.update workload) = true := selects
    simp [update, Enumeration.Effect.within, chosen, selects, again]
  have once (workload : Workload) (passed : workload ∉ restored) :
      update (removal.within restored workload) = update workload := by
    simp [Enumeration.Effect.within, passed]
  refine ⟨?_, fun fixed => ?_⟩
  · rw [List.map_map, List.map_map, List.map_map, List.map_inj_left]
    constructor
    · intro same workload chosen
      have here := same workload (listed workload chosen).1
      simpa only [Function.comp_apply, (twice workload chosen).1, (twice workload chosen).2] using here
    · intro fixed workload member
      simp only [Function.comp_apply]
      by_cases chosen : workload ∈ restored
      · rw [(twice workload chosen).1, (twice workload chosen).2]
        exact fixed workload chosen
      · rw [once workload chosen]
  · rw [List.map_map, List.map_inj_left]
    intro workload member
    simp only [Function.comp_apply]
    by_cases chosen : workload ∈ restored
    · rw [(twice workload chosen).1, (twice workload chosen).2]
      exact update_update (fixed workload chosen)
    · exact once workload chosen

/-- A withdrawal after one that may have failed anywhere ends as one from the start would have, and deletes the same
Envoy filters. It also leaves the same annotations exactly if every workload that the first one stored has no required
annotation and no backup any more, and then it leaves the very same workloads. -/
theorem remove_converges_iff (rollout : Rollout) (filter : FilterSpec) (faults : List Fault) {world : World}
    (distinct : World.Distinct world.workloads) :
    let first := (rollout.remove filter).outcome World.answer (world.withFaults faults)
    let second := (rollout.remove filter).outcome World.answer (first.2.withFaults [])
    let direct := (rollout.remove filter).outcome World.answer (world.withFaults [])
    let clean := ∀ restored, (⟨.updateWorkload restored, .ok ()⟩ : Exchange) ∈
        (rollout.remove filter).exchanges World.answer (world.withFaults faults) →
      ∀ key ∈ restored.template.annotations.keys,
        key ∉ SidecarAnnotations.required.keys ∧ SidecarAnnotations.isBackupKey key = false
    second.1 = filter.validate ∧ direct.1 = filter.validate ∧ second.2.filters = direct.2.filters ∧
      (second.2.workloads.map (·.template.annotations) = direct.2.workloads.map (·.template.annotations) ↔ clean) ∧
      (clean → second.2.workloads = direct.2.workloads) := by
  intro first second direct clean
  cases valid : filter.validate with
  | error e =>
    have refused := rollout.remove_of_refused valid
    obtain ⟨once, calls⟩ := refused (world.withFaults faults)
    have nothing : first.2 = world.withFaults faults := congrArg Prod.snd once
    have again : second = (.error e, first.2.withFaults []) := (refused _).1
    have alone : direct = (.error e, world.withFaults []) := (refused _).1
    have untouched : clean := by
      intro restored member
      rw [calls] at member
      cases member
    rw [again, alone, nothing]
    exact ⟨rfl, rfl, rfl, iff_of_true rfl untouched, fun _ => rfl⟩
  | ok accepted =>
    have distinctFirst : World.Distinct (world.withFaults faults).workloads := distinct
    obtain ⟨result, middle, restored, deleted, ended, withdrawn, -⟩ := rollout.remove_progress filter distinctFirst
    have left : first.2 = middle := congrArg Prod.snd ended
    have workloads : middle.workloads =
        world.workloads.map (removal.within ((rollout.settings.target.selected world).take restored)) :=
      withdrawn.workloads
    have distinctMiddle : World.Distinct (middle.withFaults []).workloads := by
      change World.Distinct middle.workloads
      rw [workloads]
      exact World.distinct_map distinct (removal.address_within _)
    obtain ⟨after, again⟩ := rollout.remove_ok_of_faultless distinctMiddle rfl valid
    obtain ⟨workloadsAgain, filtersAgain⟩ := rollout.remove_of_ok filter distinctMiddle again
    have distinctDirect : World.Distinct (world.withFaults []).workloads := distinct
    obtain ⟨last, alone⟩ := rollout.remove_ok_of_faultless distinctDirect rfl valid
    obtain ⟨workloadsAlone, filtersAlone⟩ := rollout.remove_of_ok filter distinctDirect alone
    have endedAgain : second = (.ok (), after) := by
      change (rollout.remove filter).outcome World.answer (first.2.withFaults []) = _
      rw [left]
      exact again
    have endedAlone : direct = (.ok (), last) := alone
    rw [endedAgain, endedAlone]
    refine ⟨rfl, rfl, ?_, ?_⟩
    · have metadata : (rollout.settings.target.selected (middle.withFaults [])).map (·.metadata) =
          (rollout.settings.target.selected (world.withFaults [])).map (·.metadata) :=
        rollout.settings.target.metadata_selected workloads
      rw [filtersAgain, filtersAlone, metadata]
      exact foldl_erase_take withdrawn.filters
    · have listed : ∀ workload ∈ (rollout.settings.target.selected world).take restored,
          workload ∈ world.workloads ∧ rollout.settings.target.selects workload = true :=
        fun workload member => Target.mem_selected_iff.mp (List.mem_of_mem_take member)
      have meaning : clean ↔ ∀ workload ∈ (rollout.settings.target.selected world).take restored,
          (removal.update (removal.update workload)).template.annotations =
            (removal.update workload).template.annotations := by
        constructor
        · intro clean workload member
          exact (annotations_update_iff _).mpr (clean _ ((withdrawn.updates _).mpr ⟨workload, member, rfl⟩))
        · intro fixed updated stored
          obtain ⟨workload, member, rfl⟩ := (withdrawn.updates updated).mp stored
          exact (annotations_update_iff _).mp (fixed workload member)
      rw [workloadsAgain, workloadsAlone, meaning]
      have states : (middle.withFaults []).workloads = _ := workloads
      rw [states]
      exact rollout.update_selected_iff world.workloads listed

end Rollout

/-- A cluster with two workloads, of which the first has a volume of its own, and an image that the cache has. -/
def World.withVolume : World where
  version := "1.8.0"
  digest := "sha256:ab"
  abiVersions := []
  registry := some ⟨.empty, some (.ofList [("images", "filters/auth:1")]), none, none⟩
  events := []
  ready := []
  workloads := [
    ⟨.deployment, { ObjectMeta.empty with name := some "api", namespaceName := some "default" },
      some { WorkloadSpec.empty .deployment with
        template := PodTemplate.empty.annotate "sidecar.istio.io/userVolume" "[\x7b\"name\":\"data\"\x7d]" }, none⟩,
    ⟨.deployment, { ObjectMeta.empty with name := some "web", namespaceName := some "default" }, none, none⟩]
  filters := .empty
  faults := []
  counted := []

def FilterSpec.auth : FilterSpec := ⟨"auth", "filters/auth:1", none, none, "inbound"⟩

def Rollout.toDeployments : Rollout := ⟨.default, by decide, .known, none⟩

/-- The cluster after the filter was rolled out. -/
def World.rolledOut : World := ((Rollout.toDeployments.apply .auth).outcome World.answer .withVolume).2

/-- The second update of a workload fails. -/
def Fault.secondUpdate : Fault := ⟨.updateWorkload, 2, .validation "conflict" none⟩

/-- Withdrawals do not converge: the first one restores the volume of a workload and fails at the next workload, and the
second one takes the volume for an annotation of the filter and drops it. -/
theorem Rollout.remove_drops_volume :
    ((Rollout.toDeployments.apply .auth).outcome World.answer .withVolume).1.isOk = true ∧
      World.Distinct World.rolledOut.workloads ∧
      let first := (Rollout.toDeployments.remove .auth).outcome World.answer (World.rolledOut.withFaults [.secondUpdate])
      let second := (Rollout.toDeployments.remove .auth).outcome World.answer (first.2.withFaults [])
      let direct := (Rollout.toDeployments.remove .auth).outcome World.answer (World.rolledOut.withFaults [])
      second.2.workloads.map (·.template.annotations) = [.empty, .empty] ∧
        direct.2.workloads.map (·.template.annotations) =
          [.ofList [("sidecar.istio.io/userVolume", "[\x7b\"name\":\"data\"\x7d]")], .empty] := by
  decide +kernel

/-- The law of converging withdrawals where the second update fails. -/
theorem Rollout.remove_converges_rolledOut :
    World.Distinct World.rolledOut.workloads ∧
      let first := (Rollout.toDeployments.remove .auth).outcome World.answer (World.rolledOut.withFaults [.secondUpdate])
      let second := (Rollout.toDeployments.remove .auth).outcome World.answer (first.2.withFaults [])
      let direct := (Rollout.toDeployments.remove .auth).outcome World.answer (World.rolledOut.withFaults [])
      second.1 = .ok () ∧ direct.1 = .ok () ∧ second.2.filters = direct.2.filters ∧
        (second.2.workloads.map (·.template.annotations) = direct.2.workloads.map (·.template.annotations) ↔
          ∀ restored, (⟨.updateWorkload restored, .ok ()⟩ : Exchange) ∈
              (Rollout.toDeployments.remove .auth).exchanges World.answer (World.rolledOut.withFaults [.secondUpdate]) →
            ∀ key ∈ restored.template.annotations.keys,
              key ∉ SidecarAnnotations.required.keys ∧ SidecarAnnotations.isBackupKey key = false) := by
  have distinct : World.Distinct World.rolledOut.workloads := by decide +kernel
  obtain ⟨again, alone, filters, annotations, -⟩ :=
    Rollout.remove_converges_iff Rollout.toDeployments .auth [.secondUpdate] distinct
  exact ⟨distinct, again, alone, filters, annotations⟩

end FilterRollout
