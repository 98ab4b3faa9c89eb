import FilterRollout.Json.Document
import FilterRollout.Text.Hexadecimal

/-! Reading JSON texts: one value with blanks around it and nothing else. -/

namespace FilterRollout.Json

/-- Space, tab, line feed and carriage return are all that may stand between tokens. -/
def isSpace (c : Char) : Bool := c == ' ' || c == '\t' || c == '\n' || c == '\r'

def skipSpaces (chars : List Char) : List Char := chars.dropWhile isSpace

/-- The digits at the front. -/
def spanDigits : List Char → List Nat × List Char
  | [] => ([], [])
  | c :: rest =>
    match Text.digitValue? c with
    | some digit => let (digits, after) := spanDigits rest; (digit :: digits, after)
    | none => ([], c :: rest)

/-- One or more digits, the first of several not zero. -/
def readWhole? (chars : List Char) : Option (List Nat × List Char) :=
  match spanDigits chars with
  | ([], _) => none
  | (0 :: _ :: _, _) => none
  | (digits, rest) => some (digits, rest)

/-- The digits after a point, if there is one; then there is at least one digit. -/
def readFraction? : List Char → Option (Option (List Nat) × List Char)
  | '.' :: rest =>
    match spanDigits rest with
    | ([], _) => none
    | (digits, after) => some (some digits, after)
  | chars => some (none, chars)

/-- Whether an exponent is negative, by its sign. -/
def readSign : List Char → Bool × List Char
  | '+' :: rest => (false, rest)
  | '-' :: rest => (true, rest)
  | chars => (false, chars)

/-- A signed power of ten, if there is one; then there is at least one digit. -/
def readExponent? : List Char → Option (Option Int × List Char)
  | c :: rest =>
    if c == 'e' || c == 'E' then
      let (negative, chars) := readSign rest
      match spanDigits chars with
      | ([], _) => none
      | (digits, after) =>
        let value : Int := (digits.foldl (fun value digit => value * 10 + digit) 0 : Nat)
        some (some (if negative then -value else value), after)
    else some (none, c :: rest)
  | [] => some (none, [])

/-- A number literal from its first digit on. -/
def readLiteral? (negative : Bool) (chars : List Char) : Option (Literal × List Char) := do
  let (whole, chars) ← readWhole? chars
  let (fraction, chars) ← readFraction? chars
  let (exponent, chars) ← readExponent? chars
  return (⟨negative, whole, fraction, exponent⟩, chars)

/-- A number in a document. -/
def readNumber? (negative : Bool) (chars : List Char) : Option (Document × List Char) := do
  let (literal, rest) ← readLiteral? negative chars
  match Number.ofLiteral? literal with
  | some value => return (.number value, rest)
  | none => return (.unreadable, rest)

/-- A character of a string: one that stands for itself, or an escaped 16-bit unit. -/
inductive StringUnit
  | char (c : Char)
  | escaped (unit : Nat)

/-- The character that a one-letter escape stands for. -/
def shortEscape? : Char → Option Char
  | '"' => some '"'
  | '\\' => some '\\'
  | '/' => some '/'
  | 'b' => some '\x08'
  | 'f' => some '\x0c'
  | 'n' => some '\n'
  | 'r' => some '\r'
  | 't' => some '\t'
  | _ => none

/-- The units of a string up to its closing quote, and what follows. Control characters must be escaped. -/
def readUnits? : List Char → Option (List StringUnit × List Char)
  | [] => none
  | '"' :: rest => some ([], rest)
  | '\\' :: 'u' :: a :: b :: c :: d :: rest => do
    let unit := (((← Text.hexValue? a) * 16 + (← Text.hexValue? b)) * 16 + (← Text.hexValue? c)) * 16 +
      (← Text.hexValue? d)
    let (units, after) ← readUnits? rest
    return (.escaped unit :: units, after)
  | '\\' :: letter :: rest => do
    let c ← shortEscape? letter
    let (units, after) ← readUnits? rest
    return (.char c :: units, after)
  | c :: rest =>
    if c == '\\' || c.toNat < 0x20 then none
    else do
      let (units, after) ← readUnits? rest
      return (.char c :: units, after)

def isHighSurrogate (unit : Nat) : Bool := 0xD800 ≤ unit && unit < 0xDC00

def isLowSurrogate (unit : Nat) : Bool := 0xDC00 ≤ unit && unit < 0xE000

/-- The text of string units. The halves of a surrogate pair must follow each other. -/
def joinUnits? : List StringUnit → Option (List Char)
  | [] => some []
  | .char c :: rest => (joinUnits? rest).map (c :: ·)
  | .escaped high :: .escaped low :: rest =>
    if isHighSurrogate high then
      if isLowSurrogate low then
        (joinUnits? rest).map (Char.ofNat (0x10000 + (high - 0xD800) * 0x400 + (low - 0xDC00)) :: ·)
      else none
    else if isLowSurrogate high then none
    else (joinUnits? (.escaped low :: rest)).map (Char.ofNat high :: ·)
  | .escaped unit :: rest =>
    if isHighSurrogate unit || isLowSurrogate unit then none
    else (joinUnits? rest).map (Char.ofNat unit :: ·)

/-- The text of a string after its opening quote, or nothing in its place if it has none. -/
def readString? (chars : List Char) : Option (Option String × List Char) := do
  let (units, rest) ← readUnits? chars
  return ((joinUnits? units).map String.ofList, rest)

/-- A container below `depth` others, readable unless it lies too deep. -/
def atDepth (depth : Nat) (document : Document) : Document :=
  if depth < Document.maxDepth then document else .unreadable

mutual

/-- A value that begins with the first character, enclosed by `depth` arrays and objects. Each step consumes a
character within two rounds of fuel. -/
def readValue? : Nat → Nat → List Char → Option (Document × List Char)
  | 0, _, _ => none
  | fuel + 1, depth, chars =>
    match chars with
    | 'n' :: 'u' :: 'l' :: 'l' :: rest => some (.null, rest)
    | 't' :: 'r' :: 'u' :: 'e' :: rest => some (.bool true, rest)
    | 'f' :: 'a' :: 'l' :: 's' :: 'e' :: rest => some (.bool false, rest)
    | '"' :: rest => do
      match ← readString? rest with
      | (some text, after) => return (.string text, after)
      | (none, after) => return (.unreadable, after)
    | '[' :: rest =>
      match skipSpaces rest with
      | ']' :: after => some (atDepth depth (.array []), after)
      | inside => do
        let (items, after) ← readItems? fuel (depth + 1) inside
        return (atDepth depth (.array items), after)
    | '\x7b' :: rest =>
      match skipSpaces rest with
      | '\x7d' :: after => some (atDepth depth (.object []), after)
      | inside => do
        let (members, after) ← readMembers? fuel (depth + 1) inside
        return (atDepth depth (.object members), after)
    | '-' :: rest => readNumber? true rest
    | chars => readNumber? false chars

/-- One or more items up to the closing bracket. -/
def readItems? : Nat → Nat → List Char → Option (List Document × List Char)
  | 0, _, _ => none
  | fuel + 1, depth, chars => do
    let (item, rest) ← readValue? fuel depth chars
    match skipSpaces rest with
    | ']' :: after => return ([item], after)
    | ',' :: more =>
      let (items, after) ← readItems? fuel depth (skipSpaces more)
      return (item :: items, after)
    | _ => none

/-- One or more members up to the closing brace. -/
def readMembers? : Nat → Nat → List Char → Option (List (Option String × Document) × List Char)
  | 0, _, _ => none
  | fuel + 1, depth, chars =>
    match chars with
    | '"' :: rest => do
      let (key, rest) ← readString? rest
      match skipSpaces rest with
      | ':' :: rest =>
        let (value, rest) ← readValue? fuel depth (skipSpaces rest)
        match skipSpaces rest with
        | '\x7d' :: after => return ([(key, value)], after)
        | ',' :: more =>
          let (members, after) ← readMembers? fuel depth (skipSpaces more)
          return ((key, value) :: members, after)
        | _ => none
      | _ => none
    | _ => none

end

/-- The document of a text. -/
def Document.read? (text : String) : Option Document :=
  let chars := text.toList
  match readValue? (2 * chars.length + 2) 0 (skipSpaces chars) with
  | some (document, rest) => if (skipSpaces rest).isEmpty then some document else none
  | none => none

/-- The normalized value of a text. -/
def read? (text : String) : Option Json := (Document.read? text).bind Document.value?

end FilterRollout.Json
