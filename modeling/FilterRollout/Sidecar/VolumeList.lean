import FilterRollout.Error
import FilterRollout.Json.Printer
import FilterRollout.Json.Reader

/-! Lists of volumes as annotations hold them: a JSON array of objects, where an object is known by its `name`. -/

namespace FilterRollout.VolumeList

/-- One volume, as the members of its object. -/
abbrev Volume := List (String × Json)

/-- The attribute by which a volume is known. -/
def identityKey : String := "name"

/-- The members of an object. -/
def volume? : Json → Option Volume
  | .object members => some members
  | _ => none

/-- The volumes of a text, if it is a JSON array of objects. -/
def read? (text : String) : Option (List Volume) :=
  match Json.read? text with
  | some (.array items) => items.mapM volume?
  | _ => none

/-- The text of a list of volumes. -/
def write (volumes : List Volume) : String := (Json.array (volumes.map .object)).text

/-- Whether two volumes have equal names, or none has one. -/
def sameIdentity (a b : Volume) : Bool :=
  match Json.member? identityKey a, Json.member? identityKey b with
  | some x, some y => x.same y
  | none, none => true
  | _, _ => false

/-- The required volumes that have no counterpart among the current ones. -/
def missing (current required : List Volume) : List Volume :=
  required.filter fun volume => !current.any (sameIdentity · volume)

/-- The volumes of an annotation. The error names the annotation as the field. -/
def readAnnotation (key text : String) : Except Error (List Volume) :=
  match read? text with
  | some volumes => .ok volumes
  | none => invalid key s!"annotation {key} is not a JSON array of objects: the value cannot be read as one"

/-- The text of an annotation that has all required volumes. One that has them already stays as it is written;
otherwise those that are missing follow the current ones. -/
def merge (key current required : String) : Except Error String := do
  let volumes ← readAnnotation key current
  let wanted ← readAnnotation key required
  let added := missing volumes wanted
  return if added.isEmpty then current else write (volumes ++ added)

example : (merge "volumes" "[\x7b\"name\":\"a\",\"b\":1e2\x7d]" "[\x7b\"name\":\"c\"\x7d]").toOption =
    some "[\x7b\"b\":100.0,\"name\":\"a\"\x7d,\x7b\"name\":\"c\"\x7d]" := by decide +kernel

end FilterRollout.VolumeList
