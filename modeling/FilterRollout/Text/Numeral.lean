/-! Decimal numerals of bounded size, as they appear in versions and settings. -/

namespace FilterRollout.Text

/-- The value of an ASCII digit. -/
def digitValue? (c : Char) : Option Nat :=
  if '0' ≤ c ∧ c ≤ '9' then some (c.toNat - '0'.toNat) else none

/-- Continue a numeral whose digits so far have the value `value`. -/
def digitsValue? (value : Nat) : List Char → Option Nat
  | [] => some value
  | c :: rest => do digitsValue? (value * 10 + (← digitValue? c)) rest

/-- One or more ASCII digits after an optional plus sign, with leading zeros allowed. -/
def numeral? : List Char → Option Nat
  | [] => none
  | '+' :: [] => none
  | '+' :: digit :: rest => digitsValue? 0 (digit :: rest)
  | c :: rest => digitsValue? 0 (c :: rest)

/-- The value of a numeral below `bound`. -/
def numeralBelow? (bound : Nat) (text : String) : Option Nat :=
  (numeral? text.toList).filter (· < bound)

end FilterRollout.Text
