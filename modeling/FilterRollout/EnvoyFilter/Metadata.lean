import FilterRollout.Json.Record

/-! Metadata of the resources that a rollout creates. It has only the fields that are set here, so that applying
such a resource claims no other field of it. -/

namespace FilterRollout

open Json (Document)

/-- The object that another one belongs to and is collected with. -/
structure OwnerReference where
  apiVersion : String
  kind : String
  name : String
  uid : String
  controller : Option Bool
  blockOwnerDeletion : Option Bool
  deriving DecidableEq

namespace OwnerReference

def toJson (o : OwnerReference) : Json :=
  Json.record [
    ("apiVersion", some (.string o.apiVersion)), ("kind", some (.string o.kind)),
    ("name", some (.string o.name)), ("uid", some (.string o.uid)),
    ("controller", o.controller.map .bool), ("blockOwnerDeletion", o.blockOwnerDeletion.map .bool)]

def ofDocument? (document : Document) : Option OwnerReference := do
  let given ← document.loose?
  let text (field : String) : Option String := do return (← Document.last? Document.text? given field).getD ""
  return {
    apiVersion := ← text "apiVersion"
    kind := ← text "kind"
    name := ← text "name"
    uid := ← text "uid"
    controller := ← Document.last? Document.bool? given "controller"
    blockOwnerDeletion := ← Document.last? Document.bool? given "blockOwnerDeletion" }

end OwnerReference

/-- Metadata of a created resource. Empty maps and lists are left out when it is written. -/
structure ResourceMeta where
  name : String
  namespaceName : String
  labels : SortedMap String
  annotations : SortedMap String
  ownerReferences : List OwnerReference
  deriving DecidableEq

namespace ResourceMeta

/-- The label that names the tool by which a resource is managed. -/
def managedByLabel : String := "app.kubernetes.io/managed-by"

def managedByValue : String := "wasm-mesh"

/-- Metadata with a name and the label that says who manages the resource. -/
def named (name namespaceName : String) : ResourceMeta where
  name
  namespaceName
  labels := SortedMap.empty.insert managedByLabel managedByValue
  annotations := .empty
  ownerReferences := []

def withLabel (m : ResourceMeta) (key value : String) : ResourceMeta :=
  { m with labels := m.labels.insert key value }

/-- Add an owner after those that the metadata already names. -/
def withOwner (m : ResourceMeta) (owner : OwnerReference) : ResourceMeta :=
  { m with ownerReferences := m.ownerReferences ++ [owner] }

/-- The object of a map, or nothing for the empty map. -/
def mapUnlessEmpty (map : SortedMap String) : Option Json := if map.isEmpty then none else some (Json.textMap map)

def toJson (m : ResourceMeta) : Json :=
  Json.record [
    ("name", some (.string m.name)), ("namespace", some (.string m.namespaceName)),
    ("labels", mapUnlessEmpty m.labels), ("annotations", mapUnlessEmpty m.annotations),
    ("ownerReferences",
      if m.ownerReferences.isEmpty then none else some (.array (m.ownerReferences.map OwnerReference.toJson)))]

def ofDocument? (document : Document) : Option ResourceMeta := do
  let given ← document.strict? ["name", "namespace", "labels", "annotations", "ownerReferences"]
  return {
    name := ← Document.required? Document.text? given "name"
    namespaceName := ← Document.required? Document.text? given "namespace"
    labels := ← Document.defaulted? .empty (Document.map? Document.text?) given "labels"
    annotations := ← Document.defaulted? .empty (Document.map? Document.text?) given "annotations"
    ownerReferences := ← Document.defaulted? [] (Document.list? OwnerReference.ofDocument?) given "ownerReferences" }

end ResourceMeta

end FilterRollout
