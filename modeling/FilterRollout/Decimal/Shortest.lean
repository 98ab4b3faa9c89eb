import FilterRollout.Decimal.Binary64

/-! The shortest decimal that reads back as a given double. The reals that round to a double form an interval; the
coarsest decimal grid with a point in it gives the fewest digits, and of its points the nearest is taken. -/

namespace FilterRollout.Decimal

/-- The number `digits · 10 ^ exponent`. -/
structure Shortest where
  digits : Nat
  exponent : Int
  deriving DecidableEq

/-- The interval of reals that round to a double, as numerators over one denominator. The ends belong to it when the
significand is even. -/
structure RoundingInterval where
  low : Nat
  value : Nat
  high : Nat
  denominator : Nat
  closed : Bool

namespace RoundingInterval

/-- Below a power of two the doubles stand twice as close, so that the interval reaches only half as far down. -/
def ofDouble (x : Binary64) : RoundingInterval :=
  let m := x.significand
  let unit := 1 <<< (x.exponent - 2).toNat
  let below := if m = binadeSize ∧ -1074 < x.exponent then 1 else 2
  ⟨(4 * m - below) * unit, 4 * m * unit, (4 * m + 2) * unit, 1 <<< (2 - x.exponent).toNat, m % 2 = 0⟩

/-- Whether `number / denominator` lies in the interval, all numerators scaled by `scale`. -/
def holds (interval : RoundingInterval) (scale number : Nat) : Bool :=
  if interval.closed then interval.low * scale ≤ number && number ≤ interval.high * scale
  else interval.low * scale < number && number < interval.high * scale

/-- The point of the grid of multiples of `10 ^ exponent` that lies in the interval and is nearest to the value.
Only the neighbours of the value can be nearest; of two equally near ones the even one is taken. -/
def gridPoint? (interval : RoundingInterval) (exponent : Int) : Option Nat :=
  let scale := powerOfTen (-exponent).toNat
  let step := powerOfTen exponent.toNat * interval.denominator
  let value := interval.value * scale
  let below := value / step
  let above := below + 1
  match interval.holds scale (below * step), interval.holds scale (above * step) with
  | true, false => some below
  | false, true => some above
  | false, false => none
  | true, true =>
    let down := value - below * step
    let up := above * step - value
    if down < up then some below
    else if up < down then some above
    else some (if below % 2 = 0 then below else above)

/-- The first grid with a point, from `10 ^ exponent` to finer ones. -/
def firstGrid (interval : RoundingInterval) : Nat → Int → Shortest
  | 0, exponent => ⟨0, exponent⟩
  | fuel + 1, exponent =>
    match interval.gridPoint? exponent with
    | some digits => ⟨digits, exponent⟩
    | none => firstGrid interval fuel (exponent - 1)

end RoundingInterval

/-- The magnitude of a double in the fewest digits. The search starts above the value's own power of ten and ends
after seventeen digits at the latest, within the 24 grids that are tried. -/
def Binary64.shortest (x : Binary64) : Shortest :=
  if x.isZero then ⟨0, 0⟩
  else
    let interval := RoundingInterval.ofDouble x
    let binary : Int := (Nat.log2 interval.value : Int) - Nat.log2 interval.denominator
    interval.firstGrid 24 (binary * 30103 / 100000 + 2)

example : (Binary64.mk false 0x3FB999999999999A (by decide)).shortest = ⟨1, -1⟩ := by decide +kernel

example : (Binary64.mk false 1 (by decide)).shortest = ⟨5, -324⟩ := by decide +kernel

example : (Binary64.mk false 0x7FEFFFFFFFFFFFFF (by decide)).shortest = ⟨17976931348623157, 292⟩ := by
  decide +kernel

end FilterRollout.Decimal
