import FilterRollout.Resource.LabelSelector
import FilterRollout.Rollout.Run

/-! A cluster in memory. It answers every call from its state, and can be told to fail some of them. -/

namespace FilterRollout

/-- A report of a replica that shows up late: only after this many listings of events. -/
structure DelayedEvent where
  event : CacheEvent
  hiddenFor : Nat
  deriving DecidableEq

/-- A failure of the `nth` call of a name, or of every one if `nth` is zero. -/
structure Fault where
  call : CallName
  nth : Nat
  error : Error
  deriving DecidableEq

structure World where
  version : String
  digest : String
  abiVersions : List String
  registry : Option ConfigMap
  events : List DelayedEvent
  /-- The ready replicas at each count, the last one for all later counts. -/
  ready : List Int
  workloads : List Workload
  /-- Envoy filters by namespace and name. -/
  filters : SortedMap EnvoyFilter
  faults : List Fault
  /-- The calls since faults were last set, last to first. -/
  counted : List CallName

namespace World

/-- The key under which an Envoy filter is stored. -/
def filterKey (namespaceName name : String) : String := s!"{namespaceName}/{name}"

/-- How often calls of a name were made. -/
def count (world : World) (name : CallName) : Nat := world.counted.count name

def withFaults (world : World) (faults : List Fault) : World := { world with faults, counted := [] }

/-- The failure of the last counted call of a name, if it is to fail. -/
def fault? (world : World) (name : CallName) : Option Error :=
  (world.faults.find? fun fault =>
    fault.call = name && (fault.nth == 0 || fault.nth == world.count name)).map (·.error)

/-- Whether a workload is one that an update of `other` replaces. A namespace that is not set differs from every
namespace that is. -/
def sameWorkload (workload other : Workload) : Bool :=
  workload.kind = other.kind && workload.metadata.namespaceName = other.metadata.namespaceName &&
    workload.name = other.name

/-- Replace the first workload of the same kind, namespace and name. -/
def replaceWorkload? (updated : Workload) : List Workload → Option (List Workload)
  | [] => none
  | workload :: rest =>
    if sameWorkload workload updated then some (updated :: rest)
    else (replaceWorkload? updated rest).map (workload :: ·)

/-- The workloads of a kind whose namespace is set to the given one and whose own labels a selector admits. -/
def selected (world : World) (kind : WorkloadKind) (namespaceName selector : String) : List Workload :=
  world.workloads.filter fun workload =>
    workload.kind = kind && workload.metadata.namespaceName = some namespaceName &&
      LabelSelector.admits selector (workload.metadata.labels.getD .empty)

/-- The reports about an image that show in the current listing. -/
def visibleEvents (world : World) (image : String) : List CacheEvent :=
  (world.events.filter fun delayed =>
    delayed.event.image = image && delayed.hiddenFor < world.count .listImageEvents).map (·.event)

/-- The ready replicas at the current count. -/
def readyNow (world : World) : Int :=
  (world.ready[world.count .readyReplicas - 1]?).getD (world.ready.getLast?.getD 0)

/-- The answer to a call that does not fail by a fault, and the world after it. -/
def serve (world : World) : (request : Call) → request.Outcome × World
  | .pullImage reference => (.ok ⟨reference, world.digest⟩, world)
  | .readImageConfig _ => (.ok ⟨world.abiVersions⟩, world)
  | .controlPlaneVersion _ => (.ok world.version, world)
  | .readRegistry cache =>
    match world.registry with
    | some registry => (.ok registry, world)
    | none => (.error (.notFound "ConfigMap" cache.namespaceName cache.name), world)
  | .writeRegistry registry => (.ok (), { world with registry := some registry })
  | .listImageEvents _ image => (.ok (world.visibleEvents image), world)
  | .readyReplicas _ => (.ok world.readyNow, world)
  | .deleteEvent namespaceName name =>
    (.ok (), { world with events := world.events.filter fun delayed =>
      !(delayed.event.namespaceName = namespaceName && delayed.event.name = name) })
  | .listWorkloads kind namespaceName selector => (.ok (world.selected kind namespaceName selector), world)
  | .updateWorkload workload =>
    match replaceWorkload? workload world.workloads with
    | some workloads => (.ok (), { world with workloads })
    | none => (.error (.notFound "Workload" workload.namespaceName workload.name), world)
  | .ensureFilter filter =>
    (.ok (), { world with
      filters := world.filters.insert (filterKey filter.metadata.namespaceName filter.metadata.name) filter })
  | .deleteFilter namespaceName name =>
    (.ok (), { world with filters := world.filters.erase (filterKey namespaceName name) })

/-- Count a call, then fail it if a fault says so, otherwise serve it. -/
def answer : Answerer World := fun request world =>
  let counted := { world with counted := request.name :: world.counted }
  match counted.fault? request.name with
  | some e => (.error e, counted)
  | none => counted.serve request

end World

end FilterRollout
