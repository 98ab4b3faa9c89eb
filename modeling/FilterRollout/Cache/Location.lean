import FilterRollout.Json.Record

/-! Where the cache of filter binaries lives. -/

namespace FilterRollout

open Json (Document)

/-- Name and namespace that the registry of a cache and its daemon share. -/
structure CacheLocation where
  name : String
  namespaceName : String
  deriving DecidableEq

namespace CacheLocation

def text (c : CacheLocation) : String := s!"{c.name}.{c.namespaceName}"

def toJson (c : CacheLocation) : Json :=
  Json.record [("name", some (.string c.name)), ("namespace", some (.string c.namespaceName))]

def ofDocument? (document : Document) : Option CacheLocation := do
  let given ← document.strict? ["name", "namespace"]
  return {
    name := ← Document.required? Document.text? given "name"
    namespaceName := ← Document.required? Document.text? given "namespace" }

end CacheLocation

end FilterRollout
