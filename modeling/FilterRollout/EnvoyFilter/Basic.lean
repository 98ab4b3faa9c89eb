import FilterRollout.EnvoyFilter.Metadata
import FilterRollout.Json.Normal

/-! Envoy filters: resources that tell a mesh how to change the configuration it generates for its proxies. Only
what it takes to put an HTTP filter into the filter chain of a listener is here. -/

namespace FilterRollout

/-- The kinds of configuration objects that are patched. -/
inductive ApplyTo
  | httpFilter
  deriving DecidableEq

/-- The traffic that a patch concerns. -/
inductive PatchContext
  | any
  | sidecarInbound
  | sidecarOutbound
  | gateway
  deriving DecidableEq

/-- What a patch does relative to the object that it matches. -/
inductive PatchOperation
  | insertBefore
  deriving DecidableEq

/-- An HTTP filter by its name. -/
structure SubFilterMatch where
  name : String
  deriving DecidableEq

/-- A network filter by its name, and possibly an HTTP filter inside it. -/
structure FilterMatch where
  name : String
  subFilter : Option SubFilterMatch
  deriving DecidableEq

structure FilterChainMatch where
  filter : Option FilterMatch
  deriving DecidableEq

structure ListenerMatch where
  filterChain : Option FilterChainMatch
  deriving DecidableEq

structure ConfigMatch where
  context : PatchContext
  listener : Option ListenerMatch
  deriving DecidableEq

/-- What is done, and the configuration that is put in. The configuration is kept in normal form. -/
structure Patch where
  operation : PatchOperation
  value : Json
  normal : value.normalize = value

structure ConfigPatch where
  applyTo : ApplyTo
  configMatch : Option ConfigMatch
  patch : Patch

/-- The pods that an Envoy filter is for, by their labels. -/
structure ProxySelector where
  labels : SortedMap String
  deriving DecidableEq

/-- Without a selector the patches concern every proxy of the namespace. -/
structure EnvoyFilterSpec where
  selector : Option ProxySelector
  patches : List ConfigPatch

structure EnvoyFilter where
  apiVersion : String
  kind : String
  metadata : ResourceMeta
  spec : EnvoyFilterSpec

/-- The patch with any configuration, which is brought into normal form. -/
def Patch.ofValue (operation : PatchOperation) (value : Json) : Patch :=
  ⟨operation, value.normalize, value.normalize_normalize⟩

/-- The network filter that holds the HTTP filters of a listener. -/
def httpConnectionManager : String := "envoy.http_connection_manager"

/-- The HTTP filter at the end of every chain. -/
def routerFilter : String := "envoy.router"

/-- Match the router at the end of the HTTP filters of every listener for the given traffic. -/
def ConfigMatch.beforeRouter (context : PatchContext) : ConfigMatch :=
  ⟨context, some ⟨some ⟨some ⟨httpConnectionManager, some ⟨routerFilter⟩⟩⟩⟩⟩

namespace EnvoyFilter

/-- The API version and kind under which meshes know Envoy filters. -/
def defaultApiVersion : String := "networking.istio.io/v1alpha3"

def defaultKind : String := "EnvoyFilter"

def ofSpec (metadata : ResourceMeta) (spec : EnvoyFilterSpec) : EnvoyFilter :=
  ⟨defaultApiVersion, defaultKind, metadata, spec⟩

end EnvoyFilter

end FilterRollout
