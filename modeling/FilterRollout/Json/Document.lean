import FilterRollout.Json.Basic

/-! JSON texts as they are written. A document keeps every member of an object, also repeated ones, and marks what
has the form of JSON but no value: a number beyond the range of doubles, a string with half of a surrogate pair, an
array or object that lies too deep. Such parts do no harm where a reader skips them. -/

namespace FilterRollout.Json

inductive Document
  | null
  | bool (value : Bool)
  | number (value : Number)
  | string (value : String)
  | array (items : List Document)
  | object (members : List (Option String × Document))
  | unreadable
  deriving Inhabited

namespace Document

/-- How many arrays and objects may enclose a value, itself included. -/
def maxDepth : Nat := 127

mutual

/-- The value of a document all of whose parts are readable, members in the order of the text. -/
def plain? : Document → Option Json
  | .null => some .null
  | .bool value => some (.bool value)
  | .number value => some (.number value)
  | .string value => some (.string value)
  | .array items => (plainItems? items).map .array
  | .object members => (plainMembers? members).map .object
  | .unreadable => none
  termination_by structural document => document

def plainItems? : List Document → Option (List Json)
  | [] => some []
  | item :: rest => do return (← item.plain?) :: (← plainItems? rest)
  termination_by structural items => items

def plainMembers? : List (Option String × Document) → Option (List (String × Json))
  | [] => some []
  | (key, value) :: rest => do return (← key, ← value.plain?) :: (← plainMembers? rest)
  termination_by structural members => members

end

/-- The normalized value of a document. -/
def value? (document : Document) : Option Json := document.plain?.map normalize

mutual

/-- The document that writes a value down, member by member. -/
def ofJson : Json → Document
  | .null => .null
  | .bool value => .bool value
  | .number value => .number value
  | .string value => .string value
  | .array items => .array (ofItems items)
  | .object members => .object (ofMembers members)
  termination_by structural json => json

def ofItems : List Json → List Document
  | [] => []
  | item :: rest => ofJson item :: ofItems rest
  termination_by structural items => items

def ofMembers : List (String × Json) → List (Option String × Document)
  | [] => []
  | (key, value) :: rest => (some key, ofJson value) :: ofMembers rest
  termination_by structural members => members

end

end Document

end FilterRollout.Json
