import FilterRollout.Api.Exchange
import FilterRollout.Cache.Event
import FilterRollout.Error
import FilterRollout.Json.Reader
import FilterRollout.Resource.ConfigMap
import FilterRollout.Resource.Shape.Event
import FilterRollout.Resource.Workload

/-! What the bodies of answers hold: objects, lists of objects, and the API's account of a failure. -/

namespace FilterRollout.Api

open Json (Document)

/-- A failure as the API describes it. Message and reason may be missing. -/
def readFailure? (document : Document) : Option ApiStatus := do
  let given ← document.strict? ["status", "message", "reason", "code"]
  return {
    status := ← Document.required? Document.text? given "status"
    message := ← Document.defaulted? "" Document.text? given "message"
    reason := ← Document.defaulted? "" Document.text? given "reason"
    code := ← Document.required? (Document.naturalBelow? Word.count16) given "code" }

/-- The failure that an answer reports. A body that does not describe it becomes the message itself, quoted. -/
def failureOf (response : Response) : ApiStatus :=
  match (Document.read? response.body).bind readFailure? with
  | some status => status
  | none => ⟨statusText response.status, Text.quoted response.body, "Failed to parse error data", response.status⟩

/-- The content of an answer, read by `decode`, unless the status says that the request failed. -/
def content {Value : Type} (decode : Document → Option Value) (response : Response) : Except ApiError Value :=
  if 400 ≤ response.status ∧ response.status < 600 then .error (.refused (failureOf response))
  else
    match (Document.read? response.body).bind decode with
    | some value => .ok value
    | none => .error .unreadableAnswer

/-- A refusal because nothing was found counts as an answer without content. -/
def ignoreNotFound {Value : Type} : Except ApiError Value → Except ApiError (Option Value)
  | .ok value => .ok (some value)
  | .error (.refused status) => if status.code = 404 then .ok none else .error (.refused status)
  | .error e => .error e

/-- Metadata of a list. Nothing of it is used, but it has to be well-formed. -/
def listMeta : Shape :=
  .record [] (Shape.text.fields ["continue", "resourceVersion", "selfLink"] ++
    Shape.int64.fields ["remainingItemCount"])

/-- The items of a list. There may be none, but the field has to be there. All other fields have to be readable. -/
def readList? {Value : Type} (decode : Document → Option Value) (document : Document) : Option (List Value) := do
  let given ← document.loose?
  let known := given.filter fun member => member.1 = "metadata" || member.1 = "items"
  guard (known.map (·.1)).Nodup
  guard ((given.filter fun member => member.1 ≠ "metadata" && member.1 ≠ "items").all fun member =>
    member.2.plain?.isSome)
  let _ ← Document.defaulted? .null listMeta.read? known "metadata"
  let items ← Document.required? (Document.nullable? (Document.list? decode)) known "items"
  return items.getD []

/-- An object of any type, of which only the metadata is looked at. All other fields have to be readable. -/
def readAnyObject? (document : Document) : Option Unit := do
  let given ← document.loose?
  let known := given.filter fun member => member.1 = "metadata"
  guard (known.map (·.1)).Nodup
  guard ((given.filter fun member => member.1 ≠ "metadata").all fun member => member.2.plain?.isSome)
  let _ ← Document.defaulted? ObjectMeta.empty ObjectMeta.ofDocument? known "metadata"

/-- An event: its metadata, its reason and the host that it comes from. -/
structure Event where
  metadata : ObjectMeta
  reason : Option String
  host : Option String

/-- The host in the source of an event. -/
def readEventSource? (document : Document) : Option (Option String) := do
  let _ ← Shape.eventSource.read? document
  Document.last? Document.text? (← document.loose?) "host"

def readEvent? (document : Document) : Option Event := do
  let (given, metadata) ← readTypedObject? "v1" "Event" document
  let _ ← Shape.readOptional? Shape.otherEvent given
  return {
    metadata
    reason := ← Document.last? Document.text? given "reason"
    host := (← Document.last? readEventSource? given "source").join }

/-- The report that an event makes about an image, if it is about this image. -/
def Event.reportOn? (event : Event) (image : String) : Option CacheEvent :=
  if (event.metadata.annotations.bind (·.get? imageAnnotation)) = some image then
    some {
      name := event.metadata.name.getD ""
      namespaceName := event.metadata.namespaceName.getD ""
      outcome := if event.reason = some successReason then .success else .failure
      host := event.host.getD ""
      image }
  else none

/-- How many pods of a DaemonSet are ready. -/
def readReadyCount? (document : Document) : Option Int := (Workload.ofDocument? .daemonSet document).map (·.readyCount)

/-- Whether a field decodes, if it is given. -/
def decodes {Value : Type} (decode : Document → Option Value) (given : List (String × Document)) (field : String) :
    Bool :=
  (SortedMap.lookupEntry field given).all fun document => (decode document).isSome

/-- One cause in the details of an account. -/
def readCause? (document : Document) : Option Unit := do
  let given ← document.strict? ["reason", "message", "field"]
  guard (["reason", "message", "field"].all (decodes Document.text? given))

/-- The details of an account. -/
def readDetails? (document : Document) : Option Unit := do
  let given ← document.strict? ["name", "group", "kind", "uid", "causes", "retryAfterSeconds"]
  guard (["name", "group", "kind", "uid"].all (decodes Document.text? given) &&
    decodes (Document.list? readCause?) given "causes" &&
    decodes (Document.naturalBelow? Word.count32) given "retryAfterSeconds")

/-- How a deletion went, in one word. -/
def readSummary? (document : Document) : Option Unit := do
  let token ← document.token?
  guard (token = "Success" || token = "Failure")

/-- The account of a deletion that the API gives in place of the deleted object. Nothing of it is used, but it has to
be well-formed. -/
def readOutcome? (document : Document) : Option Unit := do
  let given ← document.strict? ["status", "code", "message", "reason", "details"]
  guard (decodes (Document.nullable? readSummary?) given "status" &&
    decodes (Document.naturalBelow? Word.count16) given "code" &&
    ["message", "reason"].all (decodes Document.text? given) &&
    decodes (Document.nullable? readDetails?) given "details")

/-- What answers a deletion: the deleted object, or an account of the deletion. -/
def readDeletion? (decode : Document → Option Unit) (document : Document) : Option Unit :=
  match document.value? with
  | some (.object members) =>
    match Json.member? "kind" members with
    | some (.string "Status") => readOutcome? document
    | _ => decode document
  | some _ => decode document
  | none => none

end FilterRollout.Api
