import FilterRollout.Api.Answer
import FilterRollout.Release.Image
import FilterRollout.Rollout.Run

/-! The calls of a rollout as requests to the Kubernetes API. -/

namespace FilterRollout.Api

open Json (Document)

variable {State : Type}

/-- The collections that a rollout works with. -/
inductive Collection
  | configMaps
  | events
  | workloads (kind : WorkloadKind)
  | envoyFilters
  deriving DecidableEq

namespace Collection

/-- The path of a collection in a namespace. -/
def path (namespaceName : String) : Collection → String
  | configMaps => s!"/api/v1/namespaces/{namespaceName}/configmaps"
  | events => s!"/api/v1/namespaces/{namespaceName}/events"
  | workloads kind => s!"/apis/apps/v1/namespaces/{namespaceName}/{kind.token}s"
  | envoyFilters => s!"/apis/{EnvoyFilter.defaultApiVersion}/namespaces/{namespaceName}/envoyfilters"

end Collection

def jsonType : String := "application/json"

def applyType : String := "application/apply-patch+yaml"

/-- Send a request and read what the answer holds. Nothing is sent if the target cannot be written down. -/
def send {Value : Type} (server : Server State) (method : Method) (target : String) (body : Option (String × Json))
    (decode : Document → Option Value) (state : State) : Except ApiError Value × State :=
  match RequestTarget.read? target with
  | none => (.error .unsendableRequest, state)
  | some target =>
    let (response, after) := server
      { toRequestTarget := target, method, body := body.map (·.2), contentType := body.map (·.1) } state
    (content decode response, after)

/-- Send a request about a named object. Without a name there is nothing to send. -/
def sendNamed {Value : Type} (server : Server State) (method : Method) (collection : Collection)
    (namespaceName name : String) (parameters : Option (List (String × String))) (body : Option (String × Json))
    (decode : Document → Option Value) (state : State) : Except ApiError Value × State :=
  if name = "" then (.error .unsendableRequest, state)
  else
    let target := RequestTarget.text (collection.path namespaceName ++ "/" ++ name) parameters
    send server method target body decode state

def get {Value : Type} (server : Server State) (collection : Collection) (namespaceName name : String)
    (decode : Document → Option Value) : State → Except ApiError Value × State :=
  sendNamed server .get collection namespaceName name none none decode

def replace {Value : Type} (server : Server State) (collection : Collection) (namespaceName name : String)
    (body : Json) (decode : Document → Option Value) : State → Except ApiError Value × State :=
  sendNamed server .put collection namespaceName name (some []) (some (jsonType, body)) decode

def delete (server : Server State) (collection : Collection) (namespaceName name : String)
    (decode : Document → Option Unit) : State → Except ApiError Unit × State :=
  sendNamed server .delete collection namespaceName name (some []) (some (jsonType, .object []))
    (readDeletion? decode)

/-- List the objects of a collection, those that a selector admits if there is one. -/
def list {Value : Type} (server : Server State) (collection : Collection) (namespaceName : String)
    (selector : Option String) (decode : Document → Option Value) :
    State → Except ApiError (List Value) × State :=
  let parameters := selector.toList.map fun text => ("labelSelector", text)
  send server .get (RequestTarget.text (collection.path namespaceName) (some parameters)) none (readList? decode)

/-- Failures of the API as errors of a rollout. -/
def lift {Value : Type} (result : Except ApiError Value) : Except Error Value := result.mapError .kubernetes

/-- Get an object that has to exist. -/
def getExisting {Value : Type} (server : Server State) (collection : Collection) (kind namespaceName name : String)
    (decode : Document → Option Value) (state : State) : Except Error Value × State :=
  let (result, after) := get server collection namespaceName name decode state
  match ignoreNotFound result with
  | .ok (some value) => (.ok value, after)
  | .ok none => (.error (.notFound kind namespaceName name), after)
  | .error e => (.error (.kubernetes e), after)

/-- Delete an object that need not exist. -/
def deleteAny (server : Server State) (collection : Collection) (namespaceName name : String)
    (decode : Document → Option Unit) (state : State) : Except Error Unit × State :=
  let (result, after) := delete server collection namespaceName name decode state
  (lift ((ignoreNotFound result).map fun _ => ()), after)

/-- The selectors by which the Deployment of a control plane is looked for, one after another. -/
def controlPlaneSelectors : List String := ["app=istiod", "istio=pilot"]

/-- The image that the first container of a workload runs, empty if there is none. -/
def firstImage (workload : Workload) : String :=
  let container := (workload.template.spec.map (·.containers)).bind List.head?
  (container.bind (·.image)).getD ""

/-- The version of the first Deployment that one of the selectors finds. -/
def findVersion (server : Server State) (namespaceName : String) :
    List String → State → Except Error String × State
  | [], state => (.error (.notFound "Deployment" namespaceName "istiod"), state)
  | selector :: rest, state =>
    match list server (.workloads .deployment) namespaceName (some selector) (Workload.ofDocument? .deployment)
      state with
    | (.ok (deployment :: _), after) => (versionOfImage (firstImage deployment), after)
    | (.ok [], after) => findVersion server namespaceName rest after
    | (.error e, after) => (.error (.kubernetes e), after)

/-- The longest name under which resources may be applied, in bytes. -/
def maxManagerSize : Nat := 128

/-- Apply an Envoy filter in the name of a manager, against any other manager of its fields. -/
def ensureFilter (server : Server State) (manager : String) (filter : EnvoyFilter) (state : State) :
    Except Error Unit × State :=
  if maxManagerSize < manager.utf8ByteSize then (.error (.kubernetes .unsendableRequest), state)
  else
    let (result, after) := sendNamed server .patch .envoyFilters filter.metadata.namespaceName filter.metadata.name
      (some [("force", "true"), ("fieldManager", manager)]) (some (applyType, filter.toJson)) readAnyObject? state
    (lift result, after)

/-- What the API does not know: the digest and the configuration of the images that are pulled. -/
structure ImageSource where
  digest : String
  config : ImageConfig
  deriving DecidableEq

/-- Answer calls through the API, and those about images from the source. -/
def answer (server : Server State) (images : ImageSource) (manager : String) : Answerer State
  | .pullImage reference, state => (.ok ⟨reference, images.digest⟩, state)
  | .readImageConfig _, state => (.ok images.config, state)
  | .controlPlaneVersion namespaceName, state => findVersion server namespaceName controlPlaneSelectors state
  | .readRegistry cache, state =>
    getExisting server .configMaps "ConfigMap" cache.namespaceName cache.name ConfigMap.ofDocument? state
  | .writeRegistry registry, state =>
    let (result, after) := replace server .configMaps registry.namespaceName registry.name registry.toJson
      ConfigMap.ofDocument? state
    (lift (result.map fun _ => ()), after)
  | .listImageEvents cache image, state =>
    let (result, after) := list server .events cache.namespaceName none readEvent? state
    (lift (result.map fun events => events.filterMap (·.reportOn? image)), after)
  | .readyReplicas cache, state =>
    getExisting server (.workloads .daemonSet) "DaemonSet" cache.namespaceName cache.name readReadyCount? state
  | .deleteEvent namespaceName name, state =>
    deleteAny server .events namespaceName name (fun d => (readEvent? d).map fun _ => ()) state
  | .listWorkloads kind namespaceName selector, state =>
    let (result, after) := list server (.workloads kind) namespaceName (some selector) (Workload.ofDocument? kind)
      state
    (lift result, after)
  | .updateWorkload workload, state =>
    let (result, after) := replace server (.workloads workload.kind) workload.namespaceName workload.name
      workload.toJson (Workload.ofDocument? workload.kind) state
    (lift (result.map fun _ => ()), after)
  | .ensureFilter filter, state => ensureFilter server manager filter state
  | .deleteFilter namespaceName name, state =>
    deleteAny server .envoyFilters namespaceName name readAnyObject? state

end FilterRollout.Api
