import FilterRollout.Json.Basic

/-! The compact text of JSON values: no blanks, members in the order of the value. -/

namespace FilterRollout.Json

/-- Two hexadecimal digits. -/
def hexPair (n : Nat) : List Char := [Nat.digitChar (n / 16), Nat.digitChar (n % 16)]

/-- How a string shows one character. Quote, backslash and control characters are escaped, all else is raw. -/
def stringChar (c : Char) : List Char :=
  if c = '"' then ['\\', '"']
  else if c = '\\' then ['\\', '\\']
  else if c = '\x08' then ['\\', 'b']
  else if c = '\x0c' then ['\\', 'f']
  else if c = '\n' then ['\\', 'n']
  else if c = '\r' then ['\\', 'r']
  else if c = '\t' then ['\\', 't']
  else if c.toNat < 0x20 then ['\\', 'u', '0', '0'] ++ hexPair c.toNat
  else [c]

def stringChars (text : String) : List Char := '"' :: text.toList.flatMap stringChar ++ ['"']

mutual

/-- The text of a value as characters. -/
def chars : Json → List Char
  | .null => ['n', 'u', 'l', 'l']
  | .bool true => ['t', 'r', 'u', 'e']
  | .bool false => ['f', 'a', 'l', 's', 'e']
  | .number value => value.chars
  | .string value => stringChars value
  | .array items => '[' :: itemsChars items ++ [']']
  | .object members => '\x7b' :: membersChars members ++ ['\x7d']
  termination_by structural json => json

/-- The items of an array, with a comma before each but the first. -/
def itemsChars : List Json → List Char
  | [] => []
  | item :: rest => item.chars ++ laterItemsChars rest
  termination_by structural items => items

def laterItemsChars : List Json → List Char
  | [] => []
  | item :: rest => ',' :: item.chars ++ laterItemsChars rest
  termination_by structural items => items

/-- The members of an object, with a comma before each but the first. -/
def membersChars : List (String × Json) → List Char
  | [] => []
  | (key, value) :: rest => stringChars key ++ ':' :: value.chars ++ laterMembersChars rest
  termination_by structural members => members

def laterMembersChars : List (String × Json) → List Char
  | [] => []
  | (key, value) :: rest => ',' :: stringChars key ++ ':' :: value.chars ++ laterMembersChars rest
  termination_by structural members => members

end

/-- The text of a value, members in the order they have. -/
def text (json : Json) : String := String.ofList json.chars

/-- The text of a value with its members sorted by key. -/
def render (json : Json) : String := json.normalize.text

end FilterRollout.Json
