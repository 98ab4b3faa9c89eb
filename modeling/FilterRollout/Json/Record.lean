import FilterRollout.Json.Document

/-! Records in JSON documents. A record has named fields; members with other names are skipped, whatever they hold.
A strict record refuses a field that is given twice and may also be written as an array of its fields in order. A
loose record takes the last value of a field and reads `null` as a field that is not given. -/

namespace FilterRollout.Json

/-- An object of the fields that have a value. -/
def record (fields : List (String × Option Json)) : Json :=
  .object (fields.filterMap fun field => field.2.map (field.1, ·))

/-- An object of the fields that have a value and of further members. -/
def recordWith (fields : List (String × Option Json)) (others : List (String × Json)) : Json :=
  record (fields ++ others.map fun member => (member.1, some member.2))

/-- The object of a map of texts. -/
def textMap (map : SortedMap String) : Json := ofMap .string map

namespace Document

/-- The members of an object all of whose keys are readable. -/
def members? : List (Option String × Document) → Option (List (String × Document))
  | [] => some []
  | (key, value) :: rest => do return (← key, value) :: (← members? rest)

def text? : Document → Option String
  | .string value => some value
  | _ => none

def bool? : Document → Option Bool
  | .bool value => some value
  | _ => none

/-- An integer in an interval; numbers with a point or an exponent are not integers. -/
def integerBetween? (low high : Int) : Document → Option Int
  | .number (.integer value _) => if low ≤ value ∧ value < high then some value else none
  | _ => none

/-- An integer from minus `bound` to below it. -/
def signedBelow? (bound : Nat) (document : Document) : Option Int := document.integerBetween? (-bound) bound

/-- A natural number below `bound`. -/
def naturalBelow? (bound : Nat) (document : Document) : Option Nat :=
  (document.integerBetween? 0 bound).map Int.toNat

/-- An array whose items all decode. -/
def list? {Value : Type} (decode : Document → Option Value) : Document → Option (List Value)
  | .array items => items.mapM decode
  | _ => none

/-- An object as a map whose values all decode; the last value of a key counts. -/
def map? {Value : Type} (decode : Document → Option Value) : Document → Option (SortedMap Value)
  | .object members => do
    let entries ← (← members? members).mapM fun entry => (decode entry.2).map (entry.1, ·)
    return SortedMap.ofList entries
  | _ => none

/-- A value or `null`. -/
def nullable? {Value : Type} (decode : Document → Option Value) : Document → Option (Option Value)
  | .null => some none
  | document => (decode document).map some

/-- One of the tokens of an enumeration, alone or as the only key of an object that holds `null`. -/
def token? : Document → Option String
  | .string value => some value
  | .object [(some key, .null)] => some key
  | _ => none

/-- The given fields of a strict record with these field names. -/
def strict? (fields : List String) : Document → Option (List (String × Document))
  | .object members => do
    let known := (← members? members).filter fun member => fields.contains member.1
    if (known.map (·.1)).Nodup then some known else none
  | .array items => if items.length ≤ fields.length then some (fields.zip items) else none
  | _ => none

/-- A field that has to be given. -/
def required? {Value : Type} (decode : Document → Option Value) (given : List (String × Document)) (field : String) :
    Option Value :=
  (SortedMap.lookupEntry field given).bind decode

/-- A field that stands for `default` when it is not given. -/
def defaulted? {Value : Type} (default : Value) (decode : Document → Option Value)
    (given : List (String × Document)) (field : String) : Option Value :=
  match SortedMap.lookupEntry field given with
  | some document => decode document
  | none => some default

/-- A field that may be left out or `null`. -/
def optional? {Value : Type} (decode : Document → Option Value) (given : List (String × Document)) (field : String) :
    Option (Option Value) :=
  defaulted? none (nullable? decode) given field

/-- The members of a loose record. -/
def loose? : Document → Option (List (String × Document))
  | .object members => members? members
  | _ => none

/-- The last value of a field of a loose record. All its values must decode. -/
def last? {Value : Type} (decode : Document → Option Value) (given : List (String × Document)) (field : String) :
    Option (Option Value) := do
  let values ← (given.filter (·.1 = field)).mapM fun member => nullable? decode member.2
  return values.getLast?.join

/-- Whether every value of a field is this very text. -/
def states (given : List (String × Document)) (field expected : String) : Bool :=
  (given.filter (·.1 = field)).all fun member => member.2.text? == some expected

end Document

end FilterRollout.Json
