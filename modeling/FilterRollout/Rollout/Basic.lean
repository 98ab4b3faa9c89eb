import FilterRollout.EnvoyFilter.Build
import FilterRollout.Filter.Image
import FilterRollout.Release.AbiSupport
import FilterRollout.Rollout.CacheSync
import FilterRollout.Rollout.Enumeration
import FilterRollout.Settings.Basic
import FilterRollout.Sidecar.Annotations

/-! Rolling a filter out to the selected workloads, and withdrawing it. Nothing that was done is taken back after a
failure; every step may be repeated, so that the operation can be run again. -/

namespace FilterRollout

open Program

/-- What a rollout works with: valid settings, the interfaces that releases support, and an owner for what it
creates, if there is one. -/
structure Rollout where
  settings : Settings
  valid : settings.validate = .ok ()
  support : AbiSupport
  owner : Option OwnerReference

namespace Rollout

/-- A rollout with these settings, unless they are refused. -/
def ofSettings (settings : Settings) (support : AbiSupport) (owner : Option OwnerReference) : Except Error Rollout :=
  match valid : settings.validate with
  | .ok () => .ok ⟨settings, valid, support, owner⟩
  | .error e => .error e

/-- The version of the control plane. -/
def controlPlaneVersion (settings : Settings) : Program String :=
  (perform (.controlPlaneVersion settings.istioNamespace)).stage "getting istio version"

/-- Whether an image fits a version, by the settings of the rollout. -/
def checkAbi (settings : Settings) (support : AbiSupport) (image : String) (abiVersions : List String)
    (version : String) : Except Error Unit :=
  abiGate support settings.ignoreVersionCheck image abiVersions version

/-- Bring an image into the cache of the settings. -/
def syncCache (settings : Settings) (image : String) : Program Unit :=
  CacheSync.sync settings.cache image settings.cacheTimeout settings.pollInterval

/-- The Envoy filter for a workload with the given pod labels, parented to the owner. -/
def filterFor (rollout : Rollout) (filter : FilterSpec) (path : String) (schema : ConfigSchema) (workload : String)
    (labels : SortedMap String) : Except Error EnvoyFilter :=
  (EnvoyFilter.build rollout.settings.target.namespaceName filter path schema workload labels).map fun built =>
    match rollout.owner with
    | some owner => built.withOwner owner
    | none => built

/-- Let the pods of a workload mount the cache, and put the filter into their proxies. The value is the pod template
to store. -/
def applyToWorkload (rollout : Rollout) (filter : FilterSpec) (path : String) (schema : ConfigSchema) :
    Enumeration.Mutation := fun metadata template => do
  let (merged, result) := SidecarAnnotations.apply SidecarAnnotations.required template
  ofExcept result
  perform (.ensureFilter
    (← ofExcept (rollout.filterFor filter path schema (metadata.name.getD "") merged.labels)))
  return merged

/-- Roll a filter out to every selected workload. -/
def apply (rollout : Rollout) (filter : FilterSpec) : Program Unit := do
  ofExcept filter.validate
  let image ← (perform (.pullImage filter.image)).stage "pulling filter image"
  let config ← (perform (.readImageConfig image)).stage "fetching filter image config"
  let version ← controlPlaneVersion rollout.settings
  ofExcept (checkAbi rollout.settings rollout.support filter.image config.abiVersions version)
  let path ← ofExcept (cachedBinaryPath image.digest)
  (syncCache rollout.settings filter.image).stage "adding image to cache"
  let target := rollout.settings.target
  let mutate := rollout.applyToWorkload filter path (.ofVersion version)
  let _ ← (Enumeration.mutateSelected target.kind target.namespaceName target.labels mutate
    Enumeration.reporting).stage "applying filter to workload"
  return ()

/-- Delete the Envoy filters of workloads one after another. -/
def deleteFilters (namespaceName filterId : String) : List ObjectMeta → Program Unit
  | [] => return ()
  | metadata :: rest => do
    let name := EnvoyFilter.nameFor (metadata.name.getD "") filterId
    (perform (.deleteFilter namespaceName name)).stage s!"deleting EnvoyFilter {name}"
    deleteFilters namespaceName filterId rest

/-- Withdraw the annotations of a filter from a pod template. -/
def removeFromWorkload : Enumeration.Mutation := fun _ template =>
  done (.ok (SidecarAnnotations.remove SidecarAnnotations.required template))

/-- Withdraw a filter from every selected workload. Envoy filters with an owner are left to be collected with it. -/
def remove (rollout : Rollout) (filter : FilterSpec) : Program Unit := do
  ofExcept filter.validate
  let target := rollout.settings.target
  let updated ← (Enumeration.mutateSelected target.kind target.namespaceName target.labels removeFromWorkload
    Enumeration.silent).stage "removing annotations from workload"
  match rollout.owner with
  | some _ => return ()
  | none => deleteFilters target.namespaceName filter.id updated

end Rollout

end FilterRollout
