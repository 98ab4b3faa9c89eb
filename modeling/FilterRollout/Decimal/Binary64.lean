/-! Finite double-precision numbers, written down exactly. Arithmetic goes through ratios of natural numbers, which
are rounded once to the nearest double; of two equally near ones the even one is taken. -/

namespace FilterRollout.Decimal

/-- The doubles from one power of two to the next, and the significand with which they begin. -/
abbrev binadeSize : Nat := 0x10_0000_0000_0000

/-- A finite double: its sign, and its place among the doubles that are not negative. -/
structure Binary64 where
  negative : Bool
  place : Nat
  finite : place < 2047 * binadeSize
  deriving DecidableEq

/-- A power of ten. -/
def powerOfTen (exponent : Nat) : Nat := Nat.pow 10 exponent

namespace Binary64

/-- Zero with the given sign. -/
def zero (negative : Bool) : Binary64 := ⟨negative, 0, by decide⟩

def isZero (x : Binary64) : Bool := x.place == 0

/-- The magnitude is `significand · 2 ^ exponent`. -/
def significand (x : Binary64) : Nat :=
  if x.place < binadeSize then x.place else binadeSize + x.place % binadeSize

def exponent (x : Binary64) : Int :=
  if x.place < binadeSize then -1074 else (x.place / binadeSize : Nat) - 1075

/-- The magnitude as numerator and denominator. -/
def ratio (x : Binary64) : Nat × Nat :=
  (x.significand <<< x.exponent.toNat, 1 <<< (-x.exponent).toNat)

/-- The natural number nearest to a quotient; a tie goes to the even one. -/
def roundQuotient (numerator denominator : Nat) : Nat :=
  let quotient := numerator / denominator
  let rest := 2 * (numerator % denominator)
  if rest < denominator then quotient
  else if denominator < rest then quotient + 1
  else quotient + quotient % 2

/-- Numerator and denominator of a ratio divided by `2 ^ exponent`. -/
def scaledRatio (numerator denominator : Nat) (exponent : Int) : Nat × Nat :=
  (numerator <<< (-exponent).toNat, denominator <<< exponent.toNat)

/-- The exponent with which a positive ratio keeps 53 binary places, or as many as the smallest doubles have. -/
def fittingExponent (numerator denominator : Nat) : Int :=
  let guess : Int := (Nat.log2 numerator : Int) - Nat.log2 denominator - 52
  let (n, d) := scaledRatio numerator denominator guess
  max (-1074) (if binadeSize * d ≤ n then guess else guess - 1)

/-- The place of the double nearest to a ratio; beyond the largest double it is no place of a finite number. -/
def nearestPlace (numerator denominator : Nat) : Nat :=
  if numerator = 0 then 0
  else
    let exponent := fittingExponent numerator denominator
    let (n, d) := scaledRatio numerator denominator exponent
    (exponent + 1074).toNat * binadeSize + roundQuotient n d

/-- The double nearest to a signed ratio, unless it lies beyond the largest one. -/
def ofRatio? (negative : Bool) (numerator denominator : Nat) : Option Binary64 :=
  let place := nearestPlace numerator denominator
  if h : place < 2047 * binadeSize then some ⟨negative, place, h⟩ else none

/-- The rounded product, unless it lies beyond the largest double. -/
def mul? (x y : Binary64) : Option Binary64 :=
  ofRatio? (x.negative != y.negative) (x.ratio.1 * y.ratio.1) (x.ratio.2 * y.ratio.2)

/-- The rounded quotient by a double other than zero. -/
def div? (x y : Binary64) : Option Binary64 :=
  ofRatio? (x.negative != y.negative) (x.ratio.1 * y.ratio.2) (x.ratio.2 * y.ratio.1)

/-- The double nearest to a power of ten. -/
def powerOfTen? (exponent : Nat) : Option Binary64 := ofRatio? false (powerOfTen exponent) 1

/-- Equality as numbers: the two zeros are equal. -/
def same (x y : Binary64) : Bool := x == y || (x.isZero && y.isZero)

example : (ofRatio? false 1 10).map (·.place) = some 0x3FB999999999999A := by decide +kernel

example : (ofRatio? false 0x20_0000_0000_0001 1).map (·.place) = some 0x4340000000000000 := by decide +kernel

end Binary64

end FilterRollout.Decimal
