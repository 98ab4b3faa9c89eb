import FilterRollout.Json.Number
import FilterRollout.SortedMap

/-! JSON values. Members keep the order in which they were given until `normalize` sorts them by key and lets the
last member of a key win. -/

namespace FilterRollout

inductive Json
  | null
  | bool (value : Bool)
  | number (value : Json.Number)
  | string (value : String)
  | array (items : List Json)
  | object (members : List (String × Json))
  deriving Inhabited

namespace Json

/-- A natural number, counted modulo 2⁶⁴ so that it is exact. -/
def natural (value : Nat) : Json :=
  .number (.integer (value % Word.count64 : Nat) (by unfold Word.half64 Word.count64; omega))

/-- An integer, exact if a machine word holds it. -/
def integer (value : Int) : Json :=
  match Number.ofInteger? (value < 0) value.natAbs with
  | some exact => .number exact
  | none => .null

/-- Add a member that stands before all `later` ones, which win over it. -/
def addEarlier (key : String) (value : Json) (later : List (String × Json)) : List (String × Json) :=
  match SortedMap.lookupEntry key later with
  | some _ => later
  | none => SortedMap.insertEntry key value later

mutual

/-- Sort the members of every object by key; of several members with one key the last stays. -/
def normalize : Json → Json
  | .array items => .array (normalizeItems items)
  | .object members => .object (normalizeMembers members)
  | .null => .null
  | .bool value => .bool value
  | .number value => .number value
  | .string value => .string value
  termination_by structural json => json

def normalizeItems : List Json → List Json
  | [] => []
  | item :: rest => item.normalize :: normalizeItems rest
  termination_by structural items => items

def normalizeMembers : List (String × Json) → List (String × Json)
  | [] => []
  | (key, value) :: rest => addEarlier key value.normalize (normalizeMembers rest)
  termination_by structural members => members

end

/-- The value of a member; of several members with one key the last counts. -/
def member? (key : String) (members : List (String × Json)) : Option Json :=
  SortedMap.lookupEntry key members.reverse

mutual

/-- Equality of normalized values, where numbers are compared as numbers of one kind. -/
def sameNormal : Json → Json → Bool
  | .null, .null => true
  | .bool a, .bool b => a == b
  | .number a, .number b => a.same b
  | .string a, .string b => a == b
  | .array as, .array bs => sameItems as bs
  | .object as, .object bs => sameMembers as bs
  | _, _ => false
  termination_by structural json => json

def sameItems : List Json → List Json → Bool
  | [], [] => true
  | a :: as, b :: bs => a.sameNormal b && sameItems as bs
  | _, _ => false
  termination_by structural items => items

def sameMembers : List (String × Json) → List (String × Json) → Bool
  | [], [] => true
  | (key, a) :: as, (other, b) :: bs => key == other && a.sameNormal b && sameMembers as bs
  | _, _ => false
  termination_by structural members => members

end

/-- Equality as JSON values, whatever the order of members. -/
def same (a b : Json) : Bool := a.normalize.sameNormal b.normalize

/-- The object of a map, which is normal as far as its own members go. -/
def ofMap {Value : Type} (encode : Value → Json) (map : SortedMap Value) : Json :=
  .object (map.toList.map fun entry => (entry.1, encode entry.2))

end Json

end FilterRollout
