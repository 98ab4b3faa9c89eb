import FilterRollout.Json.Equality
import FilterRollout.Resource.Shape.Metadata

/-! Metadata of Kubernetes objects. Fields that are not set are left out when an object is written. -/

namespace FilterRollout

open Json (Document)

/-- The metadata that an object or a pod template carries. A map that is set may be empty. The other fields are kept
as they are. -/
structure ObjectMeta where
  name : Option String
  namespaceName : Option String
  labels : Option (SortedMap String)
  annotations : Option (SortedMap String)
  resourceVersion : Option String
  others : List (String × Json)
  deriving DecidableEq

namespace ObjectMeta

def empty : ObjectMeta := ⟨none, none, none, none, none, []⟩

instance : Inhabited ObjectMeta := ⟨empty⟩

def toJson (m : ObjectMeta) : Json :=
  Json.recordWith [
    ("name", m.name.map .string), ("namespace", m.namespaceName.map .string),
    ("labels", m.labels.map Json.textMap), ("annotations", m.annotations.map Json.textMap),
    ("resourceVersion", m.resourceVersion.map .string)] m.others

def ofDocument? (document : Document) : Option ObjectMeta := do
  let given ← document.loose?
  return {
    name := ← Document.last? Document.text? given "name"
    namespaceName := ← Document.last? Document.text? given "namespace"
    labels := ← Document.last? (Document.map? Document.text?) given "labels"
    annotations := ← Document.last? (Document.map? Document.text?) given "annotations"
    resourceVersion := ← Document.last? Document.text? given "resourceVersion"
    others := ← Shape.readOptional? Shape.otherMetadata given }

end ObjectMeta

/-- What every Kubernetes object says of itself: its API version, kind and metadata. -/
def typedObject (apiVersion kind : String) (metadata : ObjectMeta) (fields : List (String × Option Json)) : Json :=
  Json.record ([("apiVersion", some (.string apiVersion)), ("kind", some (.string kind)),
    ("metadata", some metadata.toJson)] ++ fields)

/-- The members of an object of the given type, with its metadata. A type that is stated has to be the right one. -/
def readTypedObject? (apiVersion kind : String) (document : Document) :
    Option (List (String × Document) × ObjectMeta) := do
  let given ← document.loose?
  guard (Document.states given "apiVersion" apiVersion && Document.states given "kind" kind)
  let metadata ← Document.last? ObjectMeta.ofDocument? given "metadata"
  return (given, metadata.getD .empty)

end FilterRollout
