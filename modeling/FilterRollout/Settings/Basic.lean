import FilterRollout.Cache.Location
import FilterRollout.Resource.WorkloadKind

/-! The settings of a rollout: what it targets, the cache it uses and how long it waits. -/

namespace FilterRollout

/-- The workloads that a filter is rolled out to. Without labels it is every workload of the kind. -/
structure Target where
  kind : WorkloadKind
  namespaceName : String
  labels : SortedMap String
  deriving DecidableEq

structure Settings where
  target : Target
  cache : CacheLocation
  /-- Where the control plane runs. -/
  istioNamespace : String
  /-- Roll out even if the image does not fit the control plane. -/
  ignoreVersionCheck : Bool
  /-- How long to wait for the cache; zero skips the wait. -/
  cacheTimeout : Duration
  /-- How long to wait between two polls of the cache. -/
  pollInterval : Duration
  /-- In whose name resources are applied. -/
  fieldManager : String
  deriving DecidableEq

def Target.default : Target := ⟨.deployment, "default", .empty⟩

namespace Settings

def default : Settings where
  target := .default
  cache := ⟨"wasm-cache", "wasm-cache"⟩
  istioNamespace := "istio-system"
  ignoreVersionCheck := false
  cacheTimeout := .ofSeconds 60
  pollInterval := .ofSeconds 1
  fieldManager := "wasm-mesh"

/-- Refuse settings with which no rollout can work. -/
def validate (settings : Settings) : Except Error Unit :=
  if settings.target.namespaceName = "" then
    invalid "workload.namespace" "target namespace must not be empty"
  else if settings.cache.name = "" ∨ settings.cache.namespaceName = "" then
    invalid "cache" "cache name and namespace must not be empty"
  else if settings.pollInterval.isZero then
    invalid "cachePollInterval" "poll interval must be greater than zero"
  else .ok ()

end Settings

end FilterRollout
