import FilterRollout.Proofs.Cache.Registry
import FilterRollout.Proofs.Cluster.Stores
import FilterRollout.Proofs.Rollout.Stages

/-! What a rollout does to a cluster in memory before it comes to the workloads. Main statements: `prepare_cases` about
what it finds out, `sync_cases` and `sync_of_listed` about the cache. -/

namespace FilterRollout

open Program

/-- What a rollout finds out about a cluster: its version, the digest of the image and the interfaces of the image. -/
def World.releases (world : World) : String × String × List String := (world.version, world.digest, world.abiVersions)

/-- A call that succeeds was served. -/
theorem World.serve_of_ok {request : Call} {world after : World} {value : request.Answer}
    (success : (perform request).outcome World.answer world = (.ok value, after)) :
    World.serve (world.counting request.name) request = (.ok value, after) := by
  rw [outcome_perform] at success
  rcases World.answer_cases request world with ⟨e, failed, -⟩ | served
  · rw [failed] at success
    cases success
  · exact served.symm.trans success

namespace Rollout

/-- What a rollout asks of a filter and of a cluster, with the path of the binary that it finds. -/
structure Prepares (rollout : Rollout) (filter : FilterSpec) (world : World) (path : String) : Prop where
  valid : filter.validate = .ok ()
  abi : checkAbi rollout.settings rollout.support filter.image world.abiVersions world.version = .ok ()
  path : cachedBinaryPath world.digest = .ok path

theorem Prepares.congr {rollout : Rollout} {filter : FilterSpec} {world other : World} {path : String}
    (prepares : Prepares rollout filter world path) (same : other.releases = world.releases) :
    Prepares rollout filter other path := by
  obtain ⟨valid, abi, found⟩ := prepares
  obtain ⟨version, rest⟩ := Prod.mk.inj same
  obtain ⟨digest, abiVersions⟩ := Prod.mk.inj rest
  rw [← version, ← abiVersions] at abi
  rw [← digest] at found
  exact ⟨valid, abi, found⟩

/-- What a rollout finds out is so. -/
theorem prepare_of_ok {rollout : Rollout} {filter : FilterSpec} {world after : World} {version path : String}
    (success : (rollout.prepare filter).outcome World.answer world = (.ok (version, path), after)) :
    Prepares rollout filter world path ∧ version = world.version := by
  obtain ⟨_, start, accepted, success⟩ := exists_of_bind_ok success
  obtain ⟨valid, rfl⟩ := Prod.mk.inj accepted
  obtain ⟨image, middle, found, success⟩ := exists_of_bind_ok success
  have pulled : (⟨.ok ⟨filter.image, world.digest⟩, world.counting .pullImage⟩ : Except Error PulledImage × World) =
    (.ok image, middle) := World.serve_of_ok (outcome_stage_ok_iff.mp found)
  cases pulled
  obtain ⟨config, middle, found, success⟩ := exists_of_bind_ok success
  have fetched : (⟨.ok ⟨world.abiVersions⟩, (world.counting .pullImage).counting .readImageConfig⟩ :
    Except Error ImageConfig × World) = (.ok config, middle) :=
      World.serve_of_ok (outcome_stage_ok_iff.mp found)
  cases fetched
  obtain ⟨reported, middle, found, success⟩ := exists_of_bind_ok success
  have asked : (⟨.ok world.version, ((world.counting .pullImage).counting .readImageConfig).counting
    .controlPlaneVersion⟩ : Except Error String × World) = (.ok reported, middle) :=
      World.serve_of_ok (outcome_stage_ok_iff.mp found)
  cases asked
  obtain ⟨_, middle, gated, success⟩ := exists_of_bind_ok success
  obtain ⟨abi, rfl⟩ := Prod.mk.inj gated
  obtain ⟨binary, middle, located, success⟩ := exists_of_bind_ok success
  obtain ⟨binaryPath, rfl⟩ := Prod.mk.inj located
  cases success
  exact ⟨⟨valid, abi, binaryPath⟩, rfl⟩

/-- Without faults a rollout finds out what there is, unless something is refused. -/
theorem prepare_of_faultless {rollout : Rollout} {filter : FilterSpec} {world : World} {path : String}
    (prepares : Prepares rollout filter world path) (faultless : world.faults = []) :
    ∃ after, (rollout.prepare filter).outcome World.answer world = (.ok (world.version, path), after) := by
  let pulling := world.counting .pullImage
  let fetching := pulling.counting .readImageConfig
  let asking := fetching.counting .controlPlaneVersion
  have faultlessPulling : pulling.faults = [] := faultless
  have faultlessFetching : fetching.faults = [] := faultless
  have pulled : (perform (.pullImage filter.image)).outcome World.answer world =
    (.ok ⟨filter.image, world.digest⟩, pulling) := World.answer_of_faultless faultless _
  have fetched : (perform (.readImageConfig ⟨filter.image, world.digest⟩)).outcome World.answer pulling =
    (.ok ⟨world.abiVersions⟩, fetching) := World.answer_of_faultless faultlessPulling _
  have asked : (perform (.controlPlaneVersion rollout.settings.istioNamespace)).outcome World.answer fetching =
    (.ok world.version, asking) := World.answer_of_faultless faultlessFetching _
  have valid : (Program.ofExcept filter.validate).outcome World.answer world = (.ok (), world) := by
    rw [prepares.valid]
    rfl
  refine ⟨asking, ?_⟩
  refine (outcome_bind_ok valid).trans ((outcome_bind_ok (outcome_stage_ok pulled _)).trans
    ((outcome_bind_ok (outcome_stage_ok fetched _)).trans ((outcome_bind_ok (outcome_stage_ok asked _)).trans ?_)))
  simp only [prepares.abi, prepares.path]
  rfl

/-- Finding out changes nothing. -/
theorem prepare_frame (rollout : Rollout) (filter : FilterSpec) (world : World) :
    ((rollout.prepare filter).outcome World.answer world).2.withFaults [] = world.withFaults [] :=
  World.frame_of_reads (rollout.prepare_callsOnly filter) (by simp) world

end Rollout

namespace CacheSync

/-- A cluster after an image was brought into its cache: the registry lists the image, which it may have done before, and
besides that only reports may be gone. -/
structure Cached (image : String) (before after : World) : Prop where
  registry : ∃ registry, before.registry = some registry ∧
    after.registry = some ((Registry.register? registry image).getD registry)
  frame : after.withFaults [] = { before.withFaults [] with registry := after.registry, events := after.events }

namespace Cached

variable {image : String} {before after : World}

theorem workloads (cached : Cached image before after) : after.workloads = before.workloads :=
  (congrArg World.workloads cached.frame :)

theorem filters (cached : Cached image before after) : after.filters = before.filters :=
  (congrArg World.filters cached.frame :)

theorem releases (cached : Cached image before after) : after.releases = before.releases :=
  (congrArg World.releases cached.frame :)

/-- What was done before makes no difference if it left the cluster as it was. -/
theorem of_same {start : World} (cached : Cached image before after)
    (same : before.withFaults [] = start.withFaults []) : Cached image start after := by
  obtain ⟨registry, found, listing⟩ := cached.registry
  have kept : before.registry = start.registry := (congrArg World.registry same :)
  refine ⟨⟨registry, kept.symm.trans found, listing⟩, cached.frame.trans ?_⟩
  exact congrArg (fun state : World => { state with registry := after.registry, events := after.events }) same

theorem lists (cached : Cached image before after) (oneLine : '\n' ∉ image.toList) :
    ∃ registry, after.registry = some registry ∧ Registry.lists registry image = true := by
  obtain ⟨registry, -, listing⟩ := cached.registry
  refine ⟨_, listing, ?_⟩
  cases registered : Registry.register? registry image with
  | none => exact Registry.register?_eq_none_iff.mp registered
  | some updated => exact Registry.lists_of_register? registered oneLine

end Cached

/-- A registration is made, or it fails and changes nothing. -/
theorem publish_ends (cache : CacheLocation) (image : String) (world : World) :
    (∃ e after, (publish cache image).outcome World.answer world = (.error e, after) ∧
      after.withFaults [] = world.withFaults []) ∨
    (∃ registry after, world.registry = some registry ∧
      (publish cache image).outcome World.answer world = (.ok (Registry.register? registry image).isSome, after) ∧
      after.withFaults [] = { world.withFaults [] with
        registry := some ((Registry.register? registry image).getD registry) }) := by
  rw [publish_eq]
  let read := world.counting .readRegistry
  rcases World.answer_cases (.readRegistry cache) world with ⟨e, failed, -⟩ | served
  · have refused : (perform (.readRegistry cache)).outcome World.answer world = (.error e, read) := failed
    exact .inl ⟨e, read, outcome_bind_error refused, rfl⟩
  · cases found : world.registry with
    | none =>
      have missing : (perform (.readRegistry cache)).outcome World.answer world =
          (.error (.notFound "ConfigMap" cache.namespaceName cache.name), read) := by
        have absent : read.registry = none := found
        refine served.trans ?_
        change World.serve read (.readRegistry cache) = _
        simp only [World.serve, absent]
      exact .inl ⟨_, read, outcome_bind_error missing, rfl⟩
    | some registry =>
      have answered : (perform (.readRegistry cache)).outcome World.answer world = (.ok registry, read) := by
        have present : read.registry = some registry := found
        refine served.trans ?_
        change World.serve read (.readRegistry cache) = _
        simp only [World.serve, present]
      rw [outcome_bind_ok answered]
      cases registered : Registry.register? registry image with
      | none =>
        refine .inr ⟨registry, read, rfl, ?_, ?_⟩
        · rw [registered]
          rfl
        · rw [registered, Option.getD_none, ← found]
          rfl
      | some updated =>
        rcases World.answer_cases (.writeRegistry updated) read with ⟨e, failed, -⟩ | served
        · have refused : (perform (.writeRegistry updated)).outcome World.answer read =
            (.error e, read.counting .writeRegistry) := failed
          exact .inl ⟨e, _, outcome_bind_error refused, rfl⟩
        · let wrote : World := { read.counting .writeRegistry with registry := some updated }
          have written : (perform (.writeRegistry updated)).outcome World.answer read = (.ok (), wrote) := served
          refine .inr ⟨registry, wrote, rfl, ?_, ?_⟩
          · rw [registered]
            exact outcome_bind_ok written
          · rw [registered]
            rfl

/-- Waiting and clearing reports away changes nothing but reports. -/
theorem settle_frame (cache : CacheLocation) (image : String) (timeout interval : Duration) (world : World) :
    let after := ((settle cache image timeout interval).outcome World.answer world).2
    after.withFaults [] = { world.withFaults [] with events := after.events } := by
  intro after
  let facts (world : World) : World := { world.withFaults [] with events := [] }
  have serves (request : Call) (world : World)
      (named : request.name ∈ [CallName.listImageEvents, .readyReplicas, .deleteEvent]) :
      facts (World.serve world request).2 = facts world := by
    cases request with
    | listImageEvents | readyReplicas | deleteEvent => rfl
    | _ => simp [Call.name] at named
  have kept : facts after = facts world :=
    World.kept_of_callsOnly (settle_callsOnly cache image timeout interval) (fun _ _ => rfl) serves world
  exact congrArg (fun facts : World => { facts with events := after.events }) kept

/-- The stage of the cache brings the image into the cache even where it fails later on, or it changes nothing. -/
theorem sync_cases (cache : CacheLocation) (image : String) (timeout interval : Duration) (world : World) :
    ∃ result after, (sync cache image timeout interval).outcome World.answer world = (result, after) ∧
      (Cached image world after ∨ (∃ e, result = .error e) ∧ after.withFaults [] = world.withFaults []) := by
  rw [sync_eq]
  rcases publish_ends cache image world with ⟨e, after, failed, same⟩ | ⟨registry, middle, found, published, same⟩
  · exact ⟨_, after, outcome_bind_error failed, .inr ⟨⟨e, rfl⟩, same⟩⟩
  · rw [outcome_bind_ok published]
    have listing : middle.registry = some ((Registry.register? registry image).getD registry) :=
      (congrArg World.registry same :)
    cases isNew : (Registry.register? registry image).isSome with
    | false =>
      have events : middle.events = world.events := (congrArg World.events same :)
      refine ⟨.ok (), middle, rfl, .inl ⟨⟨registry, found, listing⟩, ?_⟩⟩
      rw [listing, events]
      exact same
    | true =>
      let after := ((settle cache image timeout interval).outcome World.answer middle).2
      have frame : after.withFaults [] = { middle.withFaults [] with events := after.events } :=
        settle_frame cache image timeout interval middle
      have kept : after.registry = middle.registry := (congrArg World.registry frame :)
      refine ⟨_, after, rfl, .inl ⟨⟨registry, found, kept.trans listing⟩, ?_⟩⟩
      rw [kept, listing]
      exact frame.trans (congrArg (fun state : World => { state with events := after.events }) same)

/-- Without faults nothing is done about an image that is listed. -/
theorem sync_of_listed {cache : CacheLocation} {image : String} {world : World} {registry : ConfigMap}
    (faultless : world.faults = []) (found : world.registry = some registry)
    (listed : Registry.lists registry image = true) (timeout interval : Duration) :
    (sync cache image timeout interval).outcome World.answer world = (.ok (), world.counting .readRegistry) := by
  have answered : (perform (.readRegistry cache)).outcome World.answer world =
      (.ok registry, world.counting .readRegistry) := by
    have present : (world.counting .readRegistry).registry = some registry := found
    refine (World.answer_of_faultless faultless (.readRegistry cache)).trans ?_
    change World.serve (world.counting .readRegistry) (.readRegistry cache) = _
    simp only [World.serve, present]
  have published : (publish cache image).outcome World.answer world = (.ok false, world.counting .readRegistry) := by
    rw [publish_eq, outcome_bind_ok answered, Registry.register?_eq_none_iff.mpr listed]
    rfl
  rw [sync_eq, outcome_bind_ok published]
  rfl

end CacheSync

end FilterRollout
