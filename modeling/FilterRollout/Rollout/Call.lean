import FilterRollout.Cache.Event
import FilterRollout.Cache.Location
import FilterRollout.EnvoyFilter.Codec
import FilterRollout.Filter.Image
import FilterRollout.Resource.ConfigMap
import FilterRollout.Resource.Workload

/-! The calls by which a rollout reaches the systems around it, and what each of them answers. -/

namespace FilterRollout

inductive Call
  /-- Pull an image by its reference. -/
  | pullImage (reference : String)
  /-- Read what a pulled image says about its binary. -/
  | readImageConfig (image : PulledImage)
  /-- The version of the control plane in a namespace. -/
  | controlPlaneVersion (namespaceName : String)
  /-- The registry of a cache, which has to exist. -/
  | readRegistry (cache : CacheLocation)
  | writeRegistry (registry : ConfigMap)
  /-- All reports about an image in the namespace of a cache. -/
  | listImageEvents (cache : CacheLocation) (image : String)
  /-- How many replicas of a cache are ready. -/
  | readyReplicas (cache : CacheLocation)
  /-- Delete a report. One that is gone already is no failure. -/
  | deleteEvent (namespaceName name : String)
  /-- The workloads of a kind in a namespace that a label selector admits. -/
  | listWorkloads (kind : WorkloadKind) (namespaceName selector : String)
  | updateWorkload (workload : Workload)
  /-- Create an Envoy filter, or bring the one of its name up to date. -/
  | ensureFilter (filter : EnvoyFilter)
  /-- Delete an Envoy filter. One that is gone already is no failure. -/
  | deleteFilter (namespaceName name : String)

/-- The calls without their arguments. -/
inductive CallName
  | pullImage
  | readImageConfig
  | controlPlaneVersion
  | readRegistry
  | writeRegistry
  | listImageEvents
  | readyReplicas
  | deleteEvent
  | listWorkloads
  | updateWorkload
  | ensureFilter
  | deleteFilter
  deriving DecidableEq

namespace Call

def name : Call → CallName
  | pullImage _ => .pullImage
  | readImageConfig _ => .readImageConfig
  | controlPlaneVersion _ => .controlPlaneVersion
  | readRegistry _ => .readRegistry
  | writeRegistry _ => .writeRegistry
  | listImageEvents .. => .listImageEvents
  | readyReplicas _ => .readyReplicas
  | deleteEvent .. => .deleteEvent
  | listWorkloads .. => .listWorkloads
  | updateWorkload _ => .updateWorkload
  | ensureFilter _ => .ensureFilter
  | deleteFilter .. => .deleteFilter

/-- What a call answers when it does not fail. -/
def Answer : Call → Type
  | pullImage _ => PulledImage
  | readImageConfig _ => ImageConfig
  | controlPlaneVersion _ => String
  | readRegistry _ => ConfigMap
  | writeRegistry _ => Unit
  | listImageEvents .. => List CacheEvent
  | readyReplicas _ => Int
  | deleteEvent .. => Unit
  | listWorkloads .. => List Workload
  | updateWorkload _ => Unit
  | ensureFilter _ => Unit
  | deleteFilter .. => Unit

/-- How a call ends. -/
abbrev Outcome (call : Call) : Type := Except Error call.Answer

end Call

end FilterRollout
