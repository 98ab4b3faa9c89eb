import FilterRollout.EnvoyFilter.Basic

/-! The wire form of Envoy filters. Optional parts that are not set are left out, and what is left out reads as not
set. -/

namespace FilterRollout

open Json (Document)

def ApplyTo.token : ApplyTo → String
  | .httpFilter => "HTTP_FILTER"

def ApplyTo.ofToken? : String → Option ApplyTo
  | "HTTP_FILTER" => some .httpFilter
  | _ => none

namespace PatchContext

/-- The name of a context on the wire and in messages. -/
def token : PatchContext → String
  | any => "ANY"
  | sidecarInbound => "SIDECAR_INBOUND"
  | sidecarOutbound => "SIDECAR_OUTBOUND"
  | gateway => "GATEWAY"

def ofToken? : String → Option PatchContext
  | "ANY" => some any
  | "SIDECAR_INBOUND" => some sidecarInbound
  | "SIDECAR_OUTBOUND" => some sidecarOutbound
  | "GATEWAY" => some gateway
  | _ => none

theorem ofToken?_token (context : PatchContext) : ofToken? context.token = some context := by
  cases context <;> rfl

end PatchContext

def PatchOperation.token : PatchOperation → String
  | .insertBefore => "INSERT_BEFORE"

def PatchOperation.ofToken? : String → Option PatchOperation
  | "INSERT_BEFORE" => some .insertBefore
  | _ => none

namespace SubFilterMatch

def toJson (m : SubFilterMatch) : Json := Json.record [("name", some (.string m.name))]

def ofDocument? (document : Document) : Option SubFilterMatch := do
  let given ← document.strict? ["name"]
  return ⟨← Document.required? Document.text? given "name"⟩

end SubFilterMatch

namespace FilterMatch

def toJson (m : FilterMatch) : Json :=
  Json.record [("name", some (.string m.name)), ("subFilter", m.subFilter.map SubFilterMatch.toJson)]

def ofDocument? (document : Document) : Option FilterMatch := do
  let given ← document.strict? ["name", "subFilter"]
  return {
    name := ← Document.required? Document.text? given "name"
    subFilter := ← Document.optional? SubFilterMatch.ofDocument? given "subFilter" }

end FilterMatch

namespace FilterChainMatch

def toJson (m : FilterChainMatch) : Json := Json.record [("filter", m.filter.map FilterMatch.toJson)]

def ofDocument? (document : Document) : Option FilterChainMatch := do
  let given ← document.strict? ["filter"]
  return ⟨← Document.optional? FilterMatch.ofDocument? given "filter"⟩

end FilterChainMatch

namespace ListenerMatch

def toJson (m : ListenerMatch) : Json := Json.record [("filterChain", m.filterChain.map FilterChainMatch.toJson)]

def ofDocument? (document : Document) : Option ListenerMatch := do
  let given ← document.strict? ["filterChain"]
  return ⟨← Document.optional? FilterChainMatch.ofDocument? given "filterChain"⟩

end ListenerMatch

namespace ConfigMatch

def toJson (m : ConfigMatch) : Json :=
  Json.record [("context", some (.string m.context.token)), ("listener", m.listener.map ListenerMatch.toJson)]

def ofDocument? (document : Document) : Option ConfigMatch := do
  let given ← document.strict? ["context", "listener"]
  return {
    context := ← Document.required? (fun d => d.token?.bind PatchContext.ofToken?) given "context"
    listener := ← Document.optional? ListenerMatch.ofDocument? given "listener" }

end ConfigMatch

namespace Patch

def toJson (p : Patch) : Json :=
  Json.record [("operation", some (.string p.operation.token)), ("value", some p.value)]

def ofDocument? (document : Document) : Option Patch := do
  let given ← document.strict? ["operation", "value"]
  return .ofValue (← Document.required? (fun d => d.token?.bind PatchOperation.ofToken?) given "operation")
    (← Document.required? Document.value? given "value")

end Patch

namespace ConfigPatch

def toJson (p : ConfigPatch) : Json :=
  Json.record [
    ("applyTo", some (.string p.applyTo.token)), ("match", p.configMatch.map ConfigMatch.toJson),
    ("patch", some p.patch.toJson)]

def ofDocument? (document : Document) : Option ConfigPatch := do
  let given ← document.strict? ["applyTo", "match", "patch"]
  return {
    applyTo := ← Document.required? (fun d => d.token?.bind ApplyTo.ofToken?) given "applyTo"
    configMatch := ← Document.optional? ConfigMatch.ofDocument? given "match"
    patch := ← Document.required? Patch.ofDocument? given "patch" }

end ConfigPatch

namespace ProxySelector

def toJson (s : ProxySelector) : Json := Json.record [("labels", some (Json.textMap s.labels))]

def ofDocument? (document : Document) : Option ProxySelector := do
  let given ← document.strict? ["labels"]
  return ⟨← Document.defaulted? .empty (Document.map? Document.text?) given "labels"⟩

end ProxySelector

namespace EnvoyFilterSpec

def toJson (s : EnvoyFilterSpec) : Json :=
  Json.record [
    ("workloadSelector", s.selector.map ProxySelector.toJson),
    ("configPatches", if s.patches.isEmpty then none else some (.array (s.patches.map ConfigPatch.toJson)))]

def ofDocument? (document : Document) : Option EnvoyFilterSpec := do
  let given ← document.strict? ["workloadSelector", "configPatches"]
  return {
    selector := ← Document.optional? ProxySelector.ofDocument? given "workloadSelector"
    patches := ← Document.defaulted? [] (Document.list? ConfigPatch.ofDocument?) given "configPatches" }

end EnvoyFilterSpec

namespace EnvoyFilter

def toJson (f : EnvoyFilter) : Json :=
  Json.record [
    ("apiVersion", some (.string f.apiVersion)), ("kind", some (.string f.kind)),
    ("metadata", some f.metadata.toJson), ("spec", some f.spec.toJson)]

def ofDocument? (document : Document) : Option EnvoyFilter := do
  let given ← document.strict? ["apiVersion", "kind", "metadata", "spec"]
  return {
    apiVersion := ← Document.defaulted? defaultApiVersion Document.text? given "apiVersion"
    kind := ← Document.defaulted? defaultKind Document.text? given "kind"
    metadata := ← Document.required? ResourceMeta.ofDocument? given "metadata"
    spec := ← Document.required? EnvoyFilterSpec.ofDocument? given "spec" }

end EnvoyFilter

end FilterRollout
