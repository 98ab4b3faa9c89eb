import FilterRollout.Proofs.Rollout.Deployment

/-! What a rollout leaves once it succeeds. Main statement: `apply_completes`, which gives every selected workload, its
Envoy filter and all that is left alone. -/

namespace FilterRollout

open Program

/-- A workload with other annotations on its pods, and all else as it was. What is missing on the way to them is
created. -/
def Workload.annotated (workload : Workload) (annotations : SortedMap String) : Workload :=
  let spec := workload.spec.getD (.empty workload.kind)
  let metadata := spec.template.metadata.getD .empty
  { workload with
    spec := some { spec with
      template := { spec.template with metadata := some { metadata with annotations := some annotations } } } }

theorem Workload.annotated_eq (workload : Workload) (annotations : SortedMap String) :
    workload.annotated annotations = workload.withTemplate (workload.template.withAnnotations (some annotations)) := by
  obtain ⟨kind, metadata, spec, status⟩ := workload
  cases spec <;> rfl

namespace EnvoyFilter

/-- An Envoy filter that belongs to exactly these. -/
def ownedBy (filter : EnvoyFilter) (owners : List OwnerReference) : EnvoyFilter :=
  { filter with metadata := { filter.metadata with ownerReferences := owners } }

/-- What is built belongs to nobody yet. -/
theorem ownerReferences_of_build {namespaceName path workload : String} {filter : FilterSpec} {schema : ConfigSchema}
    {labels : SortedMap String} {built : EnvoyFilter}
    (success : build namespaceName filter path schema workload labels = .ok built) :
    built.metadata.ownerReferences = [] := by
  unfold build at success
  cases resolved : PatchContext.resolve filter.patchContext with
  | error e =>
    rw [resolved] at success
    cases success
  | ok context =>
    rw [resolved] at success
    obtain rfl := Except.ok.inj success
    rfl

end EnvoyFilter

namespace Rollout

variable {rollout : Rollout} {filter : FilterSpec} {path : String} {schema : ConfigSchema}

/-- The Envoy filter of a rollout is the one that is built, with the owner of the rollout if there is one. -/
theorem of_built? {workload : Workload} {envoy : EnvoyFilter}
    (success : rollout.built? filter path schema workload = .ok envoy) :
    ∃ built, EnvoyFilter.build rollout.settings.target.namespaceName filter path schema workload.name
        workload.template.labels = .ok built ∧ envoy = built.ownedBy rollout.owner.toList := by
  unfold built? filterFor at success
  cases found : EnvoyFilter.build rollout.settings.target.namespaceName filter path schema workload.name
    workload.template.labels with
  | error e =>
    rw [found] at success
    cases success
  | ok built =>
    rw [found] at success
    obtain rfl := Except.ok.inj success
    have unowned := EnvoyFilter.ownerReferences_of_build found
    refine ⟨built, rfl, ?_⟩
    cases rollout.owner with
    | none =>
      rw [Option.toList_none, EnvoyFilter.ownedBy, ← unowned]
    | some owner =>
      simp only [EnvoyFilter.withOwner, ResourceMeta.withOwner, EnvoyFilter.ownedBy, unowned]
      rfl

/-- What a successful rollout leaves. Each selected workload has its annotations merged and is otherwise as it was
listed, in its place; its Envoy filter is what is built for the labels of its pods, with the owner of the rollout. All
other workloads, Envoy filters and entries of the registry are as they were. -/
theorem apply_completes {world after : World} (distinct : World.Distinct world.workloads)
    (success : (rollout.apply filter).outcome World.answer world = (.ok (), after)) :
    let target := rollout.settings.target
    ∃ path, cachedBinaryPath world.digest = .ok path ∧
      (∃ merged : Workload → SortedMap String,
        (∀ workload ∈ target.selected world,
          SidecarAnnotations.apply SidecarAnnotations.required workload.template =
            (workload.template.withAnnotations (some (merged workload)), .ok ())) ∧
        after.workloads = world.workloads.map fun workload =>
          if target.selects workload then workload.annotated (merged workload) else workload) ∧
      (∀ workload ∈ target.selected world, ∃ built,
        EnvoyFilter.build target.namespaceName filter path (.ofVersion world.version) workload.name
          workload.template.labels = .ok built ∧
        after.filters.get? (World.filterKey target.namespaceName (EnvoyFilter.nameFor workload.name filter.id)) =
          some (built.ownedBy rollout.owner.toList)) ∧
      (∀ key, (∀ workload ∈ target.selected world,
          World.filterKey target.namespaceName (EnvoyFilter.nameFor workload.name filter.id) ≠ key) →
        after.filters.get? key = world.filters.get? key) ∧
      ∃ registry now, world.registry = some registry ∧ after.registry = some now ∧
        now = { registry with data := now.data } ∧
        ∀ key ≠ Registry.imagesKey, (now.data.getD .empty).get? key = (registry.data.getD .empty).get? key := by
  intro target
  obtain ⟨path, middle, prepares, cached, kept, fits, workloads, filters⟩ := rollout.apply_of_ok filter distinct success
  refine ⟨path, prepares.path, ⟨fun workload =>
    (SidecarAnnotations.mergeEach workload.template.annotations SidecarAnnotations.required.toList).1, ?_, ?_⟩,
    fun workload member => ?_, fun key absent => ?_, ?_⟩
  · intro workload member
    exact Prod.ext rfl (fits workload member).1
  · rw [workloads]
    refine List.map_congr_left fun workload _ => ?_
    rw [Workload.annotated_eq]
    rfl
  · obtain ⟨envoy, success, stored⟩ := get?_foldl_put_of_mem member fits
      (rollout.settings.target.nodup_filterKeys filter distinct) world.filters
    obtain ⟨built, found, rfl⟩ := of_built? success
    refine ⟨built, found, ?_⟩
    rw [filters]
    exact stored
  · rw [filters]
    exact get?_foldl_put absent world.filters
  · obtain ⟨registry, found, listing⟩ := cached.registry
    refine ⟨registry, _, found, kept.trans listing, ?_⟩
    cases registered : Registry.register? registry filter.image with
    | none => exact ⟨rfl, fun _ _ => rfl⟩
    | some updated => exact Registry.frame_of_register? registered

end Rollout

/-- A Deployment of the front tier, whose pods have labels and volumes of their own. -/
def Workload.front : Workload where
  kind := .deployment
  metadata := { ObjectMeta.empty with
    name := some "web", namespaceName := some "default", labels := some (.ofList [("tier", "front")]) }
  spec := some { WorkloadSpec.empty .deployment with
    template := ⟨some { ObjectMeta.empty with
      labels := some (.ofList [("app", "web")])
      annotations := some (.ofList [("sidecar.istio.io/userVolume", "[\x7b\"name\":\"data\"\x7d]")]) }, none⟩ }
  status := none

/-- A cluster with that Deployment, next to workloads that are not of its tier or kind. -/
def World.tiered : World where
  version := "1.8.0"
  digest := "sha256:ab"
  abiVersions := []
  registry := some ⟨.empty, some (.ofList [("images", "filters/headers:1"), ("note", "kept")]), none, none⟩
  events := []
  ready := []
  workloads := [
    ⟨.deployment, { ObjectMeta.empty with name := some "store", namespaceName := some "default" }, none, none⟩,
    ⟨.statefulSet, { ObjectMeta.empty with
      name := some "web", namespaceName := some "default", labels := some (.ofList [("tier", "front")]) }, none, none⟩,
    .front]
  filters := .empty
  faults := []
  counted := []

/-- A rollout to the Deployments of the front tier, in the name of an owner. -/
def Rollout.toFront : Rollout where
  settings := { Settings.default with target := ⟨.deployment, "default", .ofList [("tier", "front")]⟩ }
  valid := by decide
  support := .known
  owner := some ⟨"mesh.example/v1", "FilterDeployment", "auth", "1f", some true, none⟩

def FilterSpec.headers : FilterSpec := ⟨"headers", "filters/headers:1", none, none, "any"⟩

/-- In the tiered cluster the Envoy filter of the one selected workload selects by the labels of its pods and belongs to
the owner; the two workloads before it are as they were. -/
theorem Rollout.apply_completes_tiered :
    World.Distinct World.tiered.workloads ∧
      ∃ after, (toFront.apply .headers).outcome World.answer .tiered = (.ok (), after) ∧
        after.workloads.take 2 = World.tiered.workloads.take 2 ∧
        ∃ built, EnvoyFilter.build "default" .headers "/var/local/lib/wasm-cache/ab.wasm" .typed "web"
            (.ofList [("app", "web")]) = .ok built ∧
          after.filters.get? (World.filterKey "default" "web-headers") = some (built.ownedBy toFront.owner.toList) := by
  have distinct : World.Distinct World.tiered.workloads := by decide +kernel
  have success : (toFront.apply .headers).outcome World.answer .tiered = (.ok (), _) :=
    outcome_of_isOk (by decide +kernel)
  generalize ((toFront.apply .headers).outcome World.answer .tiered).2 = after at success
  refine ⟨distinct, after, success, ?_⟩
  obtain ⟨path, binary, ⟨merged, -, workloads⟩, filters, -⟩ := apply_completes distinct success
  have located : (cachedBinaryPath World.tiered.digest).toOption = some "/var/local/lib/wasm-cache/ab.wasm" := by
    decide +kernel
  rw [binary] at located
  obtain rfl := Option.some.inj located
  have selected : toFront.settings.target.selected .tiered = [.front] := by decide +kernel
  constructor
  · rw [workloads]
    rfl
  · have typed : ConfigSchema.ofVersion World.tiered.version = .typed := by decide +kernel
    have name : EnvoyFilter.nameFor Workload.front.name FilterSpec.headers.id = "web-headers" := by decide +kernel
    rw [selected, typed] at filters
    obtain ⟨built, found, stored⟩ := filters .front List.mem_cons_self
    rw [name] at stored
    exact ⟨built, found, stored⟩

end FilterRollout
