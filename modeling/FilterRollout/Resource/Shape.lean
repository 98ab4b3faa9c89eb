import FilterRollout.Json.Record
import FilterRollout.Resource.Timestamp
import FilterRollout.Text.Base64

/-! Shapes of the fields of Kubernetes objects. A rollout looks at few fields of the objects that it handles, but it
keeps all others that the API knows, and an object with a field of a wrong shape is not readable. Fields that the API
does not know are dropped. -/

namespace FilterRollout

open Json (Document)

/-- What a field of an object holds. -/
inductive Shape
  | text
  | truth
  | int32
  | int64
  /-- An integer of 32 bits, such as the number of a port, or a text, such as its name. -/
  | integerOrText
  | time (precision : Timestamp.Precision)
  /-- Bytes in base64. A `null` in their place stands for no bytes. -/
  | bytes
  | anything
  | list (item : Shape)
  | map (value : Shape)
  /-- A loose record. Required fields are always written; optional ones only if they are given. -/
  | record (required optional : List (String × Shape))
  /-- An object that states its own type. -/
  | object (apiVersion kind : String) (body : Shape)

namespace Shape

/-- Fields of these names that all have one shape. -/
def fields (shape : Shape) (names : List String) : List (String × Shape) := names.map (·, shape)

/-- An object with its type in front. -/
def typed (apiVersion kind : String) : Json → Json
  | .object members => .object (("apiVersion", .string apiVersion) :: ("kind", .string kind) :: members)
  | body => body

mutual

/-- The value of a required field that is not given. -/
def default : Shape → Json
  | .text | .bytes => .string ""
  | .truth => .bool false
  | .int32 | .int64 | .integerOrText => .integer 0
  | .time precision => .string (Timestamp.epoch.text precision)
  | .anything => .null
  | .list _ => .array []
  | .map _ => .object []
  | .record required _ => .object (defaults required)
  | .object apiVersion kind body => typed apiVersion kind body.default
  termination_by structural shape => shape

/-- The required fields of a record in which nothing is given. -/
def defaults : List (String × Shape) → List (String × Json)
  | [] => []
  | (name, shape) :: rest => (name, shape.default) :: defaults rest
  termination_by structural fields => fields

end

mutual

/-- Read a value of a shape. The result is the value as it is written again. -/
def read? : Shape → Document → Option Json
  | .text, document => document.text?.map .string
  | .truth, document => document.bool?.map .bool
  | .int32, document => (document.signedBelow? Word.half32).map .integer
  | .int64, document => (document.signedBelow? Word.half64).map .integer
  | .integerOrText, document =>
    ((document.signedBelow? Word.half32).map Json.integer).or (document.text?.map .string)
  | .time precision, document =>
    document.text?.bind fun text => (Timestamp.ofChars? text.toList).map fun t => .string (t.text precision)
  | .bytes, .null => some (.string "")
  | .bytes, document => (document.text?.filter fun text => Text.isBase64 text.toList).map .string
  | .anything, document => document.value?
  | .list item, document => (document.list? item.read?).map .array
  | .map value, document => (document.map? value.read?).map (Json.ofMap id)
  | .record required optional, document => do
    let given ← document.loose?
    return .object ((← readRequired? required given) ++ (← readOptional? optional given))
  | .object apiVersion kind body, document => do
    let given ← document.loose?
    guard (Document.states given "apiVersion" apiVersion && Document.states given "kind" kind)
    return typed apiVersion kind (← body.read? document)
  termination_by structural shape => shape

/-- Read the required fields of a loose record. -/
def readRequired? : List (String × Shape) → List (String × Document) → Option (List (String × Json))
  | [], _ => some []
  | (name, shape) :: rest, given => do
    let value ← Document.last? shape.read? given name
    return (name, value.getD shape.default) :: (← readRequired? rest given)
  termination_by structural fields => fields

/-- Read the optional fields of a loose record. -/
def readOptional? : List (String × Shape) → List (String × Document) → Option (List (String × Json))
  | [], _ => some []
  | (name, shape) :: rest, given => do
    let value ← Document.last? shape.read? given name
    return value.toList.map (name, ·) ++ (← readOptional? rest given)
  termination_by structural fields => fields

end

end Shape

end FilterRollout
