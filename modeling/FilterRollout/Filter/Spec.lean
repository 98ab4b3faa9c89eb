import FilterRollout.Error
import FilterRollout.Json.Record

/-! The description of a filter to roll out. -/

namespace FilterRollout

open Json (Document)

structure FilterSpec where
  /-- Unique id, which also ends the name of the Envoy filters made for it. -/
  id : String
  /-- Reference of the image that holds the binary. -/
  image : String
  /-- Configuration that the filter itself understands. -/
  config : Option String
  /-- Which part of the binary to run, if it has several. -/
  rootId : Option String
  /-- Token for the traffic that the filter sees. -/
  patchContext : String
  deriving DecidableEq

namespace FilterSpec

/-- A filter that is rolled out or withdrawn needs an id and an image. -/
def validate (filter : FilterSpec) : Except Error Unit :=
  if filter.id = "" then invalid "id" "filter id must not be empty"
  else if filter.image = "" then invalid "image" "filter image must not be empty"
  else .ok ()

def toJson (f : FilterSpec) : Json :=
  Json.record [
    ("id", some (.string f.id)), ("image", some (.string f.image)), ("config", f.config.map .string),
    ("rootId", f.rootId.map .string), ("patchContext", some (.string f.patchContext))]

def ofDocument? (document : Document) : Option FilterSpec := do
  let given ← document.strict? ["id", "image", "config", "rootId", "patchContext"]
  return {
    id := ← Document.required? Document.text? given "id"
    image := ← Document.required? Document.text? given "image"
    config := ← Document.optional? Document.text? given "config"
    rootId := ← Document.optional? Document.text? given "rootId"
    patchContext := ← Document.defaulted? "" Document.text? given "patchContext" }

end FilterSpec

end FilterRollout
