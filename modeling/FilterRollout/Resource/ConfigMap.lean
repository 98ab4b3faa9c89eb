import FilterRollout.Resource.ObjectMeta

/-! ConfigMaps: the objects that hold the registry of a cache. Their binary data is kept as it is. -/

namespace FilterRollout

open Json (Document)

structure ConfigMap where
  metadata : ObjectMeta
  data : Option (SortedMap String)
  immutable : Option Bool
  binaryData : Option Json
  deriving DecidableEq

namespace ConfigMap

def name (m : ConfigMap) : String := m.metadata.name.getD ""

def namespaceName (m : ConfigMap) : String := m.metadata.namespaceName.getD ""

def toJson (m : ConfigMap) : Json :=
  typedObject "v1" "ConfigMap" m.metadata
    [("data", m.data.map Json.textMap), ("immutable", m.immutable.map .bool), ("binaryData", m.binaryData)]

def ofDocument? (document : Document) : Option ConfigMap := do
  let (given, metadata) ← readTypedObject? "v1" "ConfigMap" document
  return {
    metadata
    data := ← Document.last? (Document.map? Document.text?) given "data"
    immutable := ← Document.last? Document.bool? given "immutable"
    binaryData := ← Document.last? (Shape.map .bytes).read? given "binaryData" }

end ConfigMap

end FilterRollout
