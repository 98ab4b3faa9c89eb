import FilterRollout.Decimal.Shortest
import FilterRollout.Proofs.Decimal.Rounding

/-! The search for the shortest decimal always ends in the rounding interval: a grid whose steps are shorter than the
interval has a point in it, and one of the grids that are tried has such steps. Main statement: `shortest_spec`. -/

namespace FilterRollout.Decimal

open Binary64 (zpow_eq_div)

namespace RoundingInterval

variable {interval : RoundingInterval} {scale number : Nat} {exponent : ℤ}

/-- The upper end of the interval. -/
def top (interval : RoundingInterval) : ℚ := interval.high / interval.denominator

theorem bounds_of_holds (inside : interval.holds scale number = true) :
    interval.low * scale ≤ number ∧ number ≤ interval.high * scale := by
  unfold holds at inside
  split at inside <;> simp only [Bool.and_eq_true, decide_eq_true_eq] at inside <;> omega

/-- What is strictly between the ends belongs to the interval, whether or not these do. -/
theorem holds_of_between (above : interval.low * scale < number) (below : number < interval.high * scale) :
    interval.holds scale number = true := by
  unfold holds
  split <;> simp only [Bool.and_eq_true, decide_eq_true_eq] <;> omega

/-- The units in which grid points and the ends of the interval are compared. -/
def scaleOf (exponent : ℤ) : Nat := powerOfTen (-exponent).toNat

def stepOf (interval : RoundingInterval) (exponent : ℤ) : Nat := powerOfTen exponent.toNat * interval.denominator

/-- The grid point at or below the value, as the count of its steps. -/
def below (interval : RoundingInterval) (exponent : ℤ) : Nat :=
  interval.value * scaleOf exponent / interval.stepOf exponent

theorem gridPoint?_eq (interval : RoundingInterval) (exponent : ℤ) :
    interval.gridPoint? exponent =
      match interval.holds (scaleOf exponent) (interval.below exponent * interval.stepOf exponent),
        interval.holds (scaleOf exponent) ((interval.below exponent + 1) * interval.stepOf exponent) with
      | true, false => some (interval.below exponent)
      | false, true => some (interval.below exponent + 1)
      | false, false => none
      | true, true =>
        let down := interval.value * scaleOf exponent - interval.below exponent * interval.stepOf exponent
        let up := (interval.below exponent + 1) * interval.stepOf exponent - interval.value * scaleOf exponent
        if down < up then some (interval.below exponent)
        else if up < down then some (interval.below exponent + 1)
        else some (if interval.below exponent % 2 = 0 then interval.below exponent else interval.below exponent + 1) :=
  rfl

/-- A grid point that is found lies in the interval; if there is none, neither neighbour of the value lies in it. -/
theorem gridPoint?_cases (interval : RoundingInterval) (exponent : ℤ) :
    (∃ digits, interval.gridPoint? exponent = some digits ∧
      interval.holds (scaleOf exponent) (digits * interval.stepOf exponent) = true) ∨
    (interval.gridPoint? exponent = none ∧
      ¬ interval.holds (scaleOf exponent) (interval.below exponent * interval.stepOf exponent) = true ∧
      ¬ interval.holds (scaleOf exponent) ((interval.below exponent + 1) * interval.stepOf exponent) = true) := by
  have search := interval.gridPoint?_eq exponent
  cases first : interval.holds (scaleOf exponent) (interval.below exponent * interval.stepOf exponent) <;>
    cases second : interval.holds (scaleOf exponent) ((interval.below exponent + 1) * interval.stepOf exponent) <;>
    rw [first, second] at search
  · exact .inr ⟨search, by simp, by simp⟩
  · exact .inl ⟨_, search, second⟩
  · exact .inl ⟨_, search, first⟩
  · left
    simp only at search
    split at search
    · exact ⟨_, search, first⟩
    · split at search
      · exact ⟨_, search, second⟩
      · refine ⟨_, search, ?_⟩
        split
        · exact first
        · exact second

/-- A grid with steps shorter than the interval has a point in it. -/
theorem gridPoint?_isSome (positive : 0 < interval.denominator) (lower : interval.low ≤ interval.value)
    (upper : interval.value < interval.high)
    (short : interval.low * scaleOf exponent + interval.stepOf exponent < interval.high * scaleOf exponent) :
    (interval.gridPoint? exponent).isSome = true := by
  have step : 0 < interval.stepOf exponent := Nat.mul_pos (Nat.pow_pos (by decide)) positive
  rcases interval.gridPoint?_cases exponent with ⟨digits, found, -⟩ | ⟨-, first, second⟩
  · simp [found]
  · -- The point above the value is beyond the upper end, so that the one below is still above the lower end.
    have scale : 0 < scaleOf exponent := Nat.pow_pos (by decide)
    have inside : interval.value * scaleOf exponent < interval.high * scaleOf exponent :=
      Nat.mul_lt_mul_of_pos_right upper scale
    have reached : interval.low * scaleOf exponent ≤ interval.value * scaleOf exponent :=
      Nat.mul_le_mul_right _ lower
    have under : interval.below exponent * interval.stepOf exponent ≤ interval.value * scaleOf exponent :=
      Nat.div_mul_le_self _ _
    have past : interval.value * scaleOf exponent < (interval.below exponent + 1) * interval.stepOf exponent := by
      rw [Nat.succ_mul]
      exact Nat.lt_div_mul_add step
    have beyond : interval.high * scaleOf exponent ≤ (interval.below exponent + 1) * interval.stepOf exponent :=
      Nat.le_of_not_lt fun between => second (holds_of_between (by omega) between)
    rw [Nat.succ_mul] at beyond
    exact absurd (holds_of_between (by omega) (by omega)) first

/-- The search ends at the first grid with a point, or it has tried them all in vain. -/
theorem firstGrid_cases (interval : RoundingInterval) (fuel : Nat) (exponent : ℤ) :
    (∃ digits later, interval.firstGrid fuel exponent = ⟨digits, later⟩ ∧
      interval.gridPoint? later = some digits) ∨
    (∀ tried : Nat, tried < fuel → interval.gridPoint? (exponent - tried) = none) := by
  induction fuel generalizing exponent with
  | zero => exact .inr fun tried none => absurd none (Nat.not_lt_zero _)
  | succ fuel ih =>
    cases found : interval.gridPoint? exponent with
    | some digits => exact .inl ⟨digits, exponent, by simp [firstGrid, found], found⟩
    | none =>
      have next : interval.firstGrid (fuel + 1) exponent = interval.firstGrid fuel (exponent - 1) := by
        simp [firstGrid, found]
      rcases ih (exponent - 1) with ⟨digits, later, ended, point⟩ | vain
      · exact .inl ⟨digits, later, next.trans ended, point⟩
      · refine .inr fun tried inside => ?_
        cases tried with
        | zero => simpa using found
        | succ tried =>
          have same : exponent - (tried + 1 : Nat) = exponent - 1 - tried := by
            push_cast
            ring
          rw [same]
          exact vain tried (Nat.lt_of_succ_lt_succ inside)

theorem top_ofDouble (x : Binary64) : (ofDouble x).top = (x.significand + 1 / 2) * 2 ^ x.exponent := by
  have quarter : (2 : ℚ) ^ x.exponent = 2 ^ (x.exponent - 2) * 2 ^ 2 := by
    rw [Binary64.two_zpow_mul]
    congr 1
    push_cast
    ring
  rw [quarter, zpow_eq_div two_ne_zero (x.exponent - 2), show -(x.exponent - 2) = 2 - x.exponent by ring]
  simp only [top, ofDouble, Nat.shiftLeft_eq]
  push_cast
  ring

/-- A grid point in the interval is at most its upper end. -/
theorem le_top {digits : Nat} (positive : 0 < interval.denominator)
    (inside : interval.holds (scaleOf exponent) (digits * interval.stepOf exponent) = true) :
    (digits : ℚ) * 10 ^ exponent ≤ interval.top := by
  have bound := (bounds_of_holds inside).2
  have positive' : (0 : ℚ) < interval.denominator := by exact_mod_cast positive
  rw [zpow_eq_div (by norm_num) exponent, top, mul_div_assoc', div_le_div_iff₀ (by positivity) positive', mul_assoc]
  unfold stepOf scaleOf powerOfTen at bound
  exact_mod_cast bound

end RoundingInterval

namespace Binary64

open RoundingInterval

/-- The exponent of the first grid that the search tries. -/
def firstExponent (binary : ℤ) : ℤ := binary * 30103 / 100000 + 2

/-- The powers of 10²⁸ lie close to those of 2⁹³. -/
theorem ten_zpow_le_two_zpow {binary : ℤ} (high : binary ≤ 1023) :
    ((10 : ℚ) ^ 28) ^ binary ≤ 2 ^ (93 * binary + 1023) := by
  rcases le_total 0 binary with positive | negative
  · obtain ⟨n, rfl⟩ := Int.eq_ofNat_of_zero_le positive
    calc ((10 : ℚ) ^ 28) ^ (n : ℤ) ≤ ((2 : ℚ) ^ 94) ^ (n : ℤ) := by
          rw [zpow_natCast, zpow_natCast]
          exact pow_le_pow_left₀ (by positivity) (by norm_num) n
      _ = 2 ^ (94 * (n : ℤ)) := (zpow_mul 2 94 n).symm
      _ ≤ 2 ^ (93 * (n : ℤ) + 1023) := zpow_le_zpow_right₀ (by norm_num) (by omega)
  · obtain ⟨n, rfl⟩ : ∃ n : Nat, binary = -n := ⟨(-binary).toNat, by omega⟩
    calc ((10 : ℚ) ^ 28) ^ (-(n : ℤ)) ≤ ((2 : ℚ) ^ 93) ^ (-(n : ℤ)) := by
          rw [zpow_neg, zpow_neg, zpow_natCast, zpow_natCast]
          exact inv_anti₀ (by positivity) (pow_le_pow_left₀ (by positivity) (by norm_num) n)
      _ = 2 ^ (93 * -(n : ℤ)) := (zpow_mul 2 93 (-n)).symm
      _ ≤ 2 ^ (93 * -(n : ℤ) + 1023) := zpow_le_zpow_right₀ (by norm_num) (by omega)

/-- In every binade the last of the grids that are tried has steps that are shorter than three quarters of the distance
of two doubles. -/
theorem lastGrid_short {binary : ℤ} (low : -1074 ≤ binary) (high : binary ≤ 1023) :
    (10 : ℚ) ^ (firstExponent binary - 23) < 3 * 2 ^ (binary - 54) := by
  have slope : 93 * (firstExponent binary - 2) ≤ 28 * binary + 5 := by
    unfold firstExponent
    omega
  generalize firstExponent binary = first at *
  have root : ((10 : ℚ) ^ (first - 2)) ^ 93 ≤ (2 ^ (binary + 12)) ^ 93 := by
    calc ((10 : ℚ) ^ (first - 2)) ^ 93 = 10 ^ ((first - 2) * 93) := by rw [zpow_mul]; rfl
      _ ≤ 10 ^ (28 * binary + 5) := zpow_le_zpow_right₀ (by norm_num) (by omega)
      _ = (10 ^ 28) ^ binary * 10 ^ 5 := by rw [zpow_add₀ (by norm_num), zpow_mul]; rfl
      _ ≤ 2 ^ (93 * binary + 1023) * 2 ^ 17 := by
        gcongr
        · exact ten_zpow_le_two_zpow high
        · norm_num
      _ = 2 ^ (93 * binary + 1040) := by rw [two_zpow_mul, add_assoc]; rfl
      _ ≤ 2 ^ ((binary + 12) * 93) := zpow_le_zpow_right₀ (by norm_num) (by omega)
      _ = (2 ^ (binary + 12)) ^ 93 := by rw [zpow_mul]; rfl
  have coarse := (pow_le_pow_iff_left₀ (by positivity) (by positivity) (by norm_num)).mp root
  calc (10 : ℚ) ^ (first - 23) = 10 ^ (first - 2) / 10 ^ 21 := by
        rw [show first - 23 = first - 2 - (21 : Nat) by omega, zpow_sub₀ (by norm_num), zpow_natCast]
    _ ≤ 2 ^ (binary + 12) / 10 ^ 21 := by gcongr
    _ = 2 ^ (binary - 54) * (2 ^ 66 / 10 ^ 21) := by
      rw [show binary + 12 = binary - 54 + (66 : Nat) by omega, ← two_zpow_mul, mul_div_assoc]
    _ < 2 ^ (binary - 54) * 3 := by
      gcongr
      norm_num
    _ = 3 * 2 ^ (binary - 54) := mul_comm _ _

/-- The binary logarithm from which the search starts. -/
def binaryLog (x : Binary64) : ℤ :=
  (Nat.log2 (RoundingInterval.ofDouble x).value : ℤ) - Nat.log2 (RoundingInterval.ofDouble x).denominator

theorem significand_pos {x : Binary64} (nonzero : x.isZero = false) : 0 < x.significand := by
  have place : x.place ≠ 0 := by simpa [isZero] using nonzero
  have size : 0 < binadeSize := by decide
  unfold significand
  split <;> omega

theorem le_exponent (x : Binary64) : -1074 ≤ x.exponent := by
  unfold exponent
  split
  · exact le_refl _
  · have binade : 0 < x.place / binadeSize := Nat.div_pos (by omega) (by decide)
    omega

theorem binaryLog_bounds {x : Binary64} (nonzero : x.isZero = false) :
    x.exponent ≤ x.binaryLog ∧ x.binaryLog ≤ x.exponent + 52 := by
  have positive := significand_pos nonzero
  have bound := x.significand_lt
  have denominator : Nat.log2 (RoundingInterval.ofDouble x).denominator = (2 - x.exponent).toNat := by
    simp [RoundingInterval.ofDouble, Nat.shiftLeft_eq, Nat.log2_two_pow]
  have value : (RoundingInterval.ofDouble x).value = x.significand * 2 ^ (2 + (x.exponent - 2).toNat) := by
    simp only [RoundingInterval.ofDouble, Nat.shiftLeft_eq, pow_add]
    ring
  have filled : (RoundingInterval.ofDouble x).value ≠ 0 := by
    rw [value]
    positivity
  have least : 2 + (x.exponent - 2).toNat ≤ Nat.log2 (RoundingInterval.ofDouble x).value := by
    rw [Nat.le_log2 filled, value]
    exact Nat.le_mul_of_pos_left _ positive
  have most : Nat.log2 (RoundingInterval.ofDouble x).value < 53 + (2 + (x.exponent - 2).toNat) := by
    rw [Nat.log2_lt filled, value, pow_add 2 53]
    exact Nat.mul_lt_mul_of_pos_right bound (by positivity)
  unfold binaryLog
  rw [denominator]
  omega

/-- The interval of a double other than zero is above zero, has the value inside, and is at least three quarters of the
distance of two doubles long. -/
theorem ofDouble_spec {x : Binary64} (nonzero : x.isZero = false) :
    let interval := RoundingInterval.ofDouble x
    0 < interval.denominator ∧ 0 < interval.low ∧ interval.low ≤ interval.value ∧ interval.value < interval.high ∧
      interval.low + 3 * 2 ^ (x.exponent - 2).toNat ≤ interval.high := by
  have positive := significand_pos nonzero
  have unit : 0 < 2 ^ (x.exponent - 2).toNat := by positivity
  have below : (if x.significand = binadeSize ∧ -1074 < x.exponent then 1 else 2) ≤ 2 ∧
      1 ≤ (if x.significand = binadeSize ∧ -1074 < x.exponent then 1 else 2) := by
    split <;> decide
  simp only [RoundingInterval.ofDouble, Nat.shiftLeft_eq, Nat.one_mul]
  generalize (if x.significand = binadeSize ∧ -1074 < x.exponent then 1 else 2) = below at *
  generalize 2 ^ (x.exponent - 2).toNat = unit at *
  refine ⟨by positivity, Nat.mul_pos (by omega) unit, Nat.mul_le_mul_right _ (by omega),
    Nat.mul_lt_mul_of_pos_right (by omega) unit, ?_⟩
  rw [← Nat.add_mul]
  exact Nat.mul_le_mul_right _ (by omega)

/-- A grid whose steps are shorter than three quarters of the distance of two doubles is not tried in vain. -/
theorem gridPoint?_of_short {x : Binary64} (nonzero : x.isZero = false) {exponent : ℤ}
    (short : (10 : ℚ) ^ exponent < 3 * 2 ^ (x.exponent - 2)) :
    ((RoundingInterval.ofDouble x).gridPoint? exponent).isSome = true := by
  obtain ⟨denominator, -, lower, upper, long⟩ := ofDouble_spec nonzero
  refine gridPoint?_isSome denominator lower upper ?_
  have step : (RoundingInterval.ofDouble x).stepOf exponent <
      3 * 2 ^ (x.exponent - 2).toNat * scaleOf exponent := by
    rw [zpow_eq_div (by norm_num) exponent, zpow_eq_div two_ne_zero (x.exponent - 2), mul_div_assoc',
      div_lt_div_iff₀ (by positivity) (by positivity), show -(x.exponent - 2) = 2 - x.exponent by ring] at short
    simp only [stepOf, scaleOf, powerOfTen, RoundingInterval.ofDouble, Nat.shiftLeft_eq, Nat.one_mul]
    exact_mod_cast short
  calc (RoundingInterval.ofDouble x).low * scaleOf exponent + (RoundingInterval.ofDouble x).stepOf exponent
      < (RoundingInterval.ofDouble x).low * scaleOf exponent +
          3 * 2 ^ (x.exponent - 2).toNat * scaleOf exponent := Nat.add_lt_add_left step _
    _ = ((RoundingInterval.ofDouble x).low + 3 * 2 ^ (x.exponent - 2).toNat) * scaleOf exponent :=
      (Nat.add_mul _ _ _).symm
    _ ≤ (RoundingInterval.ofDouble x).high * scaleOf exponent := Nat.mul_le_mul_right _ long

/-- The shortest decimal of a double other than zero has a digit other than zero, and is at most halfway to the next
double. -/
theorem shortest_spec {x : Binary64} (nonzero : x.isZero = false) :
    0 < x.shortest.digits ∧
      (x.shortest.digits : ℚ) * 10 ^ x.shortest.exponent ≤ (x.significand + 1 / 2) * 2 ^ x.exponent := by
  have search : x.shortest = (RoundingInterval.ofDouble x).firstGrid 24 (firstExponent x.binaryLog) := by
    rw [shortest, nonzero]
    rfl
  obtain ⟨denominator, low, -⟩ := ofDouble_spec nonzero
  rcases firstGrid_cases (RoundingInterval.ofDouble x) 24 (firstExponent x.binaryLog) with
    ⟨digits, later, ended, point⟩ | vain
  · rw [search, ended]
    rcases gridPoint?_cases (RoundingInterval.ofDouble x) later with ⟨found, same, inside⟩ | ⟨none, -⟩
    · obtain rfl := Option.some.inj (point.symm.trans same)
      refine ⟨Nat.pos_of_ne_zero ?_, top_ofDouble x ▸ le_top denominator inside⟩
      rintro rfl
      have scale : 0 < scaleOf later := Nat.pow_pos (by decide)
      have above := (bounds_of_holds inside).1
      rw [Nat.zero_mul] at above
      exact absurd (Nat.mul_pos low scale) (Nat.not_lt_of_le above)
    · rw [point] at none
      cases none
  · exfalso
    obtain ⟨least, most⟩ := binaryLog_bounds nonzero
    have smallest := x.le_exponent
    have largest := x.exponent_le
    have short := lastGrid_short (by omega) (show x.binaryLog ≤ 1023 by omega)
    have unit : (2 : ℚ) ^ (x.binaryLog - 54) ≤ 2 ^ (x.exponent - 2) :=
      zpow_le_zpow_right₀ (by norm_num) (by omega)
    have found := gridPoint?_of_short nonzero (short.trans_le (by linarith))
    have missed := vain 23 (by decide)
    rw [show firstExponent x.binaryLog - (23 : Nat) = firstExponent x.binaryLog - 23 by rfl] at missed
    rw [missed] at found
    cases found

end Binary64

end FilterRollout.Decimal
