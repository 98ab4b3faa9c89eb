import FilterRollout.EnvoyFilter.Codec
import FilterRollout.Filter.Spec
import FilterRollout.Release.Schema
import FilterRollout.Text.Lowercase

/-! The Envoy filter that puts a WebAssembly HTTP filter before the router of a workload's proxies. -/

namespace FilterRollout

namespace PatchContext

/-- The tokens by which filters name their traffic. -/
def filterTokens : List String := ["any", "inbound", "outbound", "gateway"]

/-- The traffic that a filter's token names, in any case of letters. Without a token it is inbound traffic. -/
def resolve (token : String) : Except Error PatchContext :=
  match Text.lowercase token with
  | "any" => .ok any
  | "inbound" | "" => .ok sidecarInbound
  | "outbound" => .ok sidecarOutbound
  | "gateway" => .ok gateway
  | _ => invalid "patchContext"
      s!"unknown patch context {token}, must be one of the following values: {Text.listed filterTokens}"

end PatchContext

/-- The name under which Envoy runs WebAssembly filters. -/
def wasmFilterName : String := "envoy.filters.http.wasm"

def wasmRuntime : String := "envoy.wasm.runtime.v8"

def typedStructType : String := "type.googleapis.com/udpa.type.v1.TypedStruct"

def wasmConfigType : String := "type.googleapis.com/envoy.extensions.filters.http.wasm.v3.Wasm"

def stringValueType : String := "type.googleapis.com/google.protobuf.StringValue"

/-- The virtual machine that runs a filter: its id under the given key, the runtime and the file with the binary. -/
def vmConfig (idKey : String) (filter : FilterSpec) (path : String) : Json :=
  Json.record [
    ("code", some (Json.record [("local", some (Json.record [("filename", some (.string path))]))])),
    ("runtime", some (.string wasmRuntime)), (idKey, some (.string filter.id))]

/-- The configuration of the HTTP filter, in the shape that a generation of control planes takes. Members are in
the order of their keys. -/
def wasmFilter (filter : FilterSpec) (path : String) : ConfigSchema → Json
  | .legacy => Json.record [
      ("config", some (Json.record [
        ("config", some (Json.record [
          ("configuration", filter.config.map .string),
          ("name", some (.string filter.id)),
          ("rootId", filter.rootId.map .string),
          ("vmConfig", some (vmConfig "vmId" filter path))]))])),
      ("name", some (.string wasmFilterName))]
  | .typed => Json.record [
      ("name", some (.string wasmFilterName)),
      ("typed_config", some (Json.record [
        ("@type", some (.string typedStructType)),
        ("type_url", some (.string wasmConfigType)),
        ("value", some (Json.record [
          ("config", some (Json.record [
            ("configuration", filter.config.map fun text =>
              Json.record [("@type", some (.string stringValueType)), ("value", some (.string text))]),
            ("name", some (.string filter.id)),
            ("root_id", filter.rootId.map .string),
            ("vm_config", some (vmConfig "vm_id" filter path))]))]))]))]

namespace EnvoyFilter

/-- The name of the Envoy filter that puts a filter into the proxies of a workload. -/
def nameFor (workload filterId : String) : String := s!"{workload}-{filterId}"

/-- The Envoy filter for the pods of a workload, which it selects by the labels of their template. -/
def build (namespaceName : String) (filter : FilterSpec) (path : String) (schema : ConfigSchema)
    (workload : String) (labels : SortedMap String) : Except Error EnvoyFilter := do
  let context ← PatchContext.resolve filter.patchContext
  return .ofSpec (.named (nameFor workload filter.id) namespaceName)
    { selector := some ⟨labels⟩
      patches := [{
        applyTo := .httpFilter
        configMatch := some (.beforeRouter context)
        patch := .ofValue .insertBefore (wasmFilter filter path schema) }] }

def withOwner (filter : EnvoyFilter) (owner : OwnerReference) : EnvoyFilter :=
  { filter with metadata := filter.metadata.withOwner owner }

end EnvoyFilter

end FilterRollout
