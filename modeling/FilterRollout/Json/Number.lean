import FilterRollout.Decimal.Shortest
import FilterRollout.Text.Numeral
import FilterRollout.Word

/-! Numbers of JSON texts. An integer that fits a machine word stays exact; every other number is a double. -/

namespace FilterRollout.Json

open Decimal (Binary64)

/-- An exact integer of one machine word, signed or unsigned, or a double. -/
inductive Number
  | integer (value : Int) (inWord : -(Word.half64 : Int) ≤ value ∧ value < Word.count64)
  | float (value : Binary64)
  deriving DecidableEq

/-- A number as it is written: the digits before and after the point, and the power of ten. -/
structure Literal where
  negative : Bool
  whole : List Nat
  fraction : Option (List Nat)
  exponent : Option Int

namespace Number

/-- Append digits to `value` as long as it fits 64 bits; the digits from the first that does not fit are left. -/
def takeDigits : Nat → List Nat → Nat × List Nat
  | value, [] => (value, [])
  | value, digit :: rest =>
    if value * 10 + digit < Word.count64 then takeDigits (value * 10 + digit) rest else (value, digit :: rest)

/-- `value · 10 ^ exponent`, rounded when `value` becomes a double and once more after each multiplication or
division by a power of ten. Numbers beyond the largest double are refused. -/
def scaled? (negative : Bool) (value : Nat) (exponent : Int) : Option Binary64 := do
  let base ← Binary64.ofRatio? negative value 1
  if 308 < exponent then
    if value = 0 then some base else none
  else if 0 ≤ exponent then
    base.mul? (← Binary64.powerOfTen? exponent.toNat)
  else if -308 ≤ exponent then
    base.div? (← Binary64.powerOfTen? (-exponent).toNat)
  else if -616 ≤ exponent then
    (← base.div? (← Binary64.powerOfTen? 308)).div? (← Binary64.powerOfTen? (-exponent - 308).toNat)
  else
    some (Binary64.zero negative)

/-- An integer is exact if its word is wide enough. Minus zero is a double, since no word tells it from zero. -/
def ofInteger? (negative : Bool) (value : Nat) : Option Number :=
  if negative then
    if h : 0 < value ∧ value ≤ Word.half64 then
      some (.integer (-value) (by unfold Word.half64 Word.count64 at *; omega))
    else (scaled? true value 0).map .float
  else
    if h : value < Word.count64 then
      some (.integer value (by unfold Word.half64 Word.count64 at *; omega))
    else (scaled? false value 0).map .float

/-- The number that a literal stands for. Digits beyond 64 bits count only by their place. -/
def ofLiteral? (literal : Literal) : Option Number :=
  let (whole, dropped) := takeDigits 0 literal.whole
  match literal.fraction, literal.exponent with
  | none, none =>
    if dropped.isEmpty then ofInteger? literal.negative whole
    else (scaled? literal.negative whole dropped.length).map .float
  | fraction, exponent =>
    let digits := fraction.getD []
    let (value, ignored) := takeDigits whole digits
    let places : Int := (digits.length : Int) - ignored.length
    (scaled? literal.negative value (dropped.length - places + exponent.getD 0)).map .float

/-- Equality as numbers of one kind: an integer and a double always differ. -/
def same : Number → Number → Bool
  | integer a _, integer b _ => a == b
  | float a, float b => a.same b
  | _, _ => false

theorem same_self (number : Number) : number.same number = true := by
  cases number with
  | integer value inWord => simp [same]
  | float value => simp [same, Binary64.same]

/-- The digits of a positive number, with the point where `exponent` puts it. From `10 ^ -5` to below `10 ^ 16` the
number is positional with at least one digit on each side of the point, otherwise it has a signed exponent. -/
def decimalChars (decimal : Decimal.Shortest) : List Char :=
  let digits := Nat.toDigits 10 decimal.digits
  let leading : Int := digits.length + decimal.exponent - 1
  if 0 ≤ decimal.exponent ∧ leading ≤ 15 then
    digits ++ List.replicate decimal.exponent.toNat '0' ++ ['.', '0']
  else if 0 ≤ leading ∧ leading ≤ 15 then
    digits.take (leading.toNat + 1) ++ '.' :: digits.drop (leading.toNat + 1)
  else if -5 ≤ leading ∧ leading < 0 then
    ['0', '.'] ++ List.replicate (-leading - 1).toNat '0' ++ digits
  else
    let mantissa := match digits with
      | first :: second :: rest => first :: '.' :: second :: rest
      | short => short
    mantissa ++ 'e' :: (if leading < 0 then '-' else '+') :: Nat.toDigits 10 leading.natAbs

def chars : Number → List Char
  | integer value _ => if value < 0 then '-' :: Nat.toDigits 10 value.natAbs else Nat.toDigits 10 value.natAbs
  | float x =>
    (if x.negative then ['-'] else []) ++ (if x.isZero then ['0', '.', '0'] else decimalChars x.shortest)

example : (ofLiteral? ⟨false, [1], some [5], some 300⟩).map chars = some "1.5e+300".toList := by decide +kernel

example : (ofLiteral? ⟨true, [0], none, none⟩).map chars = some "-0.0".toList := by decide +kernel

end Number

end FilterRollout.Json
