import FilterRollout.Decimal.Binary64
import Mathlib.Algebra.Order.Field.Power
import Mathlib.Algebra.Order.Ring.Rat
import Mathlib.Tactic.FieldSimp
import Mathlib.Tactic.GCongr
import Mathlib.Tactic.Linarith
import Mathlib.Tactic.NormNum
import Mathlib.Tactic.Positivity
import Mathlib.Tactic.Ring

/-! What rounding to doubles comes down to in rational numbers. Ratios up to halfway beyond the largest double are
rounded to finite ones, and a ratio of at least one grows by at most the 2⁻⁵³th part of itself. Main statements:
`ofRatio?_isSome` and `magnitude_of_ofRatio?`. -/

namespace FilterRollout.Decimal.Binary64

/-- The magnitude of a double as a rational number. -/
def magnitude (x : Binary64) : ℚ := x.significand * 2 ^ x.exponent

/-- Halfway between the largest double and the power of two that would follow it. -/
def overflow : ℚ := (2 ^ 54 - 1) * 2 ^ (970 : ℤ)

theorem two_zpow_mul (exponent : ℤ) (places : Nat) : (2 : ℚ) ^ exponent * 2 ^ places = 2 ^ (exponent + places) := by
  rw [← zpow_natCast, ← zpow_add₀ (by norm_num)]

theorem zpow_eq_div {base : ℚ} (nonzero : base ≠ 0) (exponent : ℤ) :
    base ^ exponent = base ^ exponent.toNat / base ^ (-exponent).toNat := by
  rw [← zpow_natCast, ← zpow_natCast, ← zpow_sub₀ nonzero]
  congr 1
  omega

theorem ratio_eq (x : Binary64) : (x.ratio.1 : ℚ) / x.ratio.2 = x.magnitude := by
  simp only [ratio, magnitude, Nat.shiftLeft_eq, zpow_eq_div two_ne_zero x.exponent]
  push_cast
  ring

theorem ratio_pos (x : Binary64) : 0 < x.ratio.2 := by
  simp [ratio, Nat.shiftLeft_eq]

theorem significand_lt (x : Binary64) : x.significand < 2 * binadeSize := by
  unfold significand
  split
  · omega
  · have := Nat.mod_lt x.place (show 0 < binadeSize by decide)
    omega

theorem exponent_le (x : Binary64) : x.exponent ≤ 971 := by
  have finite := x.finite
  unfold exponent
  split
  · omega
  · have binade : x.place / binadeSize < 2047 := Nat.div_lt_of_lt_mul (by omega)
    omega

theorem overflow_lt : overflow < 2 ^ (1024 : ℤ) := by
  have positive : (0 : ℚ) < 2 ^ (970 : ℤ) := by positivity
  have power : (2 : ℚ) ^ (1024 : ℤ) = 2 ^ (970 : ℤ) * 2 ^ 54 := (two_zpow_mul 970 54).symm
  rw [power, overflow]
  generalize (2 : ℚ) ^ (970 : ℤ) = half at positive ⊢
  linarith

/-- Every double lies below the point from which ratios are too large. -/
theorem magnitude_lt (x : Binary64) : x.magnitude < overflow := by
  have significand : (x.significand : ℚ) ≤ 2 ^ 53 - 1 := by
    have bound := x.significand_lt
    have whole : x.significand + 1 ≤ 2 ^ 53 := bound
    have whole' : (x.significand : ℚ) + 1 ≤ 2 ^ 53 := by exact_mod_cast whole
    linarith
  calc x.magnitude ≤ (2 ^ 53 - 1) * 2 ^ (971 : ℤ) := by
        unfold magnitude
        gcongr
        · norm_num
        · exact x.exponent_le
    _ < overflow := by
        have positive : (0 : ℚ) < 2 ^ (970 : ℤ) := by positivity
        have next : (2 : ℚ) ^ (971 : ℤ) = 2 ^ (970 : ℤ) * 2 ^ 1 := (two_zpow_mul 970 1).symm
        rw [next, overflow]
        generalize (2 : ℚ) ^ (970 : ℤ) = half at positive ⊢
        linarith

/-- A double is the sum of full binades and the count of doubles in the last one, whether or not these fill it up. -/
theorem magnitude_of_place {x : Binary64} {binades count : Nat} (place : x.place = binades * binadeSize + count)
    (bound : count ≤ 2 * binadeSize) (normal : binades = 0 ∨ binadeSize ≤ count) :
    x.magnitude = count * 2 ^ ((binades : ℤ) - 1074) := by
  have positive : 0 < binadeSize := by decide
  by_cases small : x.place < binadeSize
  · have first : binades = 0 := by
      rcases normal with first | large
      · exact first
      · omega
    subst first
    have same : x.place = count := by omega
    simp [magnitude, significand, exponent, same, same ▸ small]
  · simp only [magnitude, significand, exponent, if_neg small]
    have large : binadeSize ≤ count := by
      rcases normal with rfl | large
      · omega
      · exact large
    by_cases full : count = 2 * binadeSize
    · have quotient : x.place / binadeSize = binades + 2 := by
        rw [place, full, ← Nat.add_mul, Nat.mul_div_cancel _ positive]
      have rest : x.place % binadeSize = 0 := by
        rw [place, full, ← Nat.add_mul, Nat.mul_mod_left]
      rw [quotient, rest, full]
      push_cast
      rw [show (binades : ℤ) + 2 - 1075 = binades - 1074 + 1 by ring, zpow_add_one₀ (by norm_num)]
      ring
    · have quotient : x.place / binadeSize = binades + 1 := by
        have once : count / binadeSize = 1 := Nat.div_eq_of_lt_le (by omega) (by omega)
        rw [place, Nat.mul_comm, Nat.mul_add_div positive, once]
      have rest : x.place % binadeSize = count - binadeSize := by
        rw [place, Nat.mul_comm, Nat.mul_add_mod, Nat.mod_eq_sub_mod large, Nat.mod_eq_of_lt (by omega)]
      rw [quotient, rest, Nat.add_sub_cancel' large]
      push_cast
      rw [show (binades : ℤ) + 1 - 1075 = binades - 1074 by ring]

/-- A rounded quotient is at most half off. -/
theorem roundQuotient_bounds (numerator : Nat) {denominator : Nat} (positive : 0 < denominator) :
    2 * (roundQuotient numerator denominator * denominator) ≤ 2 * numerator + denominator ∧
      2 * numerator ≤ 2 * (roundQuotient numerator denominator * denominator) + denominator := by
  have whole := Nat.div_add_mod' numerator denominator
  have rest := Nat.mod_lt numerator positive
  have next : (numerator / denominator + 1) * denominator = numerator / denominator * denominator + denominator :=
    Nat.succ_mul _ _
  unfold roundQuotient
  simp only
  split
  · omega
  · split
    · omega
    · rcases Nat.mod_two_eq_zero_or_one (numerator / denominator) with even | odd
      · rw [even, Nat.add_zero]
        omega
      · rw [odd]
        omega

theorem roundQuotient_le (numerator : Nat) {denominator : Nat} (positive : 0 < denominator) :
    (roundQuotient numerator denominator : ℚ) ≤ numerator / denominator + 1 / 2 := by
  have bound : 2 * ((roundQuotient numerator denominator : ℚ) * denominator) ≤ 2 * numerator + denominator := by
    exact_mod_cast (roundQuotient_bounds numerator positive).1
  have positive' : (0 : ℚ) < denominator := by exact_mod_cast positive
  rw [div_add_div _ _ positive'.ne' (by norm_num), le_div_iff₀ (by positivity)]
  linarith

theorem le_roundQuotient (numerator : Nat) {denominator : Nat} (positive : 0 < denominator) :
    (numerator : ℚ) / denominator ≤ roundQuotient numerator denominator + 1 / 2 := by
  have bound : 2 * (numerator : ℚ) ≤ 2 * (roundQuotient numerator denominator * denominator) + denominator := by
    exact_mod_cast (roundQuotient_bounds numerator positive).2
  have positive' : (0 : ℚ) < denominator := by exact_mod_cast positive
  rw [div_le_iff₀ positive']
  linarith

theorem scaledRatio_eq (numerator denominator : Nat) (exponent : ℤ) :
    ((scaledRatio numerator denominator exponent).1 : ℚ) / (scaledRatio numerator denominator exponent).2 =
      numerator / denominator / 2 ^ exponent := by
  simp only [scaledRatio, Nat.shiftLeft_eq, zpow_eq_div two_ne_zero exponent]
  push_cast
  field_simp

theorem scaledRatio_pos (numerator : Nat) {denominator : Nat} (positive : 0 < denominator) (exponent : ℤ) :
    0 < (scaledRatio numerator denominator exponent).2 := by
  simp only [scaledRatio, Nat.shiftLeft_eq]
  positivity

theorem log2_bounds {n : Nat} (positive : 0 < n) :
    (2 : ℚ) ^ (Nat.log2 n : ℤ) ≤ n ∧ (n : ℚ) < 2 ^ ((Nat.log2 n : ℤ) + 1) := by
  constructor
  · rw [zpow_natCast]
    exact_mod_cast Nat.log2_self_le positive.ne'
  · rw [zpow_add_one₀ (by norm_num), zpow_natCast, ← pow_succ]
    exact_mod_cast Nat.lt_log2_self

/-- The fitting exponent is the one with which the ratio has 53 binary places before the point, unless it is as small as
exponents can be. -/
theorem fittingExponent_bounds {numerator denominator : Nat} (positive : 0 < numerator) (below : 0 < denominator) :
    -1074 ≤ fittingExponent numerator denominator ∧
      (numerator : ℚ) / denominator < 2 ^ (fittingExponent numerator denominator + 53) ∧
      (fittingExponent numerator denominator = -1074 ∨
        (2 : ℚ) ^ (fittingExponent numerator denominator + 52) ≤ numerator / denominator) := by
  let guess : ℤ := (Nat.log2 numerator : ℤ) - Nat.log2 denominator - 52
  let chosen := if binadeSize * (scaledRatio numerator denominator guess).2 ≤
    (scaledRatio numerator denominator guess).1 then guess else guess - 1
  have fitting : fittingExponent numerator denominator = max (-1074) chosen := rfl
  obtain ⟨low, high⟩ := log2_bounds positive
  obtain ⟨lowBelow, highBelow⟩ := log2_bounds below
  have below' : (0 : ℚ) < denominator := by exact_mod_cast below
  -- The logarithms leave two candidates, between which the scaled ratio decides.
  have atLeast : (2 : ℚ) ^ (guess + 51) ≤ numerator / denominator := by
    rw [le_div_iff₀ below']
    calc (2 : ℚ) ^ (guess + 51) * denominator ≤ 2 ^ (guess + 51) * 2 ^ ((Nat.log2 denominator : ℤ) + 1) := by gcongr
      _ = 2 ^ (Nat.log2 numerator : ℤ) := by
        rw [← zpow_add₀ (by norm_num)]
        congr 1
        ring
      _ ≤ numerator := low
  have atMost : (numerator : ℚ) / denominator < 2 ^ (guess + 53) := by
    rw [div_lt_iff₀ below']
    calc (numerator : ℚ) < 2 ^ ((Nat.log2 numerator : ℤ) + 1) := high
      _ = 2 ^ (guess + 53) * 2 ^ (Nat.log2 denominator : ℤ) := by
        rw [← zpow_add₀ (by norm_num)]
        congr 1
        ring
      _ ≤ 2 ^ (guess + 53) * denominator := by gcongr
  have decides : binadeSize * (scaledRatio numerator denominator guess).2 ≤
      (scaledRatio numerator denominator guess).1 ↔ (2 : ℚ) ^ (guess + 52) ≤ numerator / denominator := by
    have scaled : (0 : ℚ) < (scaledRatio numerator denominator guess).2 := by
      exact_mod_cast scaledRatio_pos numerator below guess
    have quotient : (2 : ℚ) ^ (guess + 52) ≤ numerator / denominator ↔
        (2 : ℚ) ^ 52 ≤ (numerator : ℚ) / denominator / 2 ^ guess := by
      have unit : (0 : ℚ) < 2 ^ guess := by positivity
      rw [le_div_iff₀ unit, mul_comm (2 ^ 52), two_zpow_mul]
      rfl
    rw [quotient, ← scaledRatio_eq, le_div_iff₀ scaled]
    norm_cast
  have candidate : (numerator : ℚ) / denominator < 2 ^ (chosen + 53) ∧
      (2 : ℚ) ^ (chosen + 52) ≤ numerator / denominator := by
    by_cases large : binadeSize * (scaledRatio numerator denominator guess).2 ≤
        (scaledRatio numerator denominator guess).1
    · simp only [chosen, if_pos large]
      exact ⟨atMost, decides.mp large⟩
    · simp only [chosen, if_neg large]
      rw [show guess - 1 + 53 = guess + 52 by ring, show guess - 1 + 52 = guess + 51 by ring]
      exact ⟨lt_of_not_ge (mt decides.mpr large), atLeast⟩
  rw [fitting]
  refine ⟨le_max_left _ _, candidate.1.trans_le ?_, ?_⟩
  · gcongr
    · norm_num
    · exact le_max_right _ _
  · rcases le_total chosen (-1074) with small | large
    · exact .inl (max_eq_left small)
    · rw [max_eq_right large]
      exact .inr candidate.2

/-- What rounding a positive ratio comes down to: a count of doubles in one binade, at most half a double off. -/
theorem nearestPlace_cases {numerator denominator : Nat} (positive : 0 < numerator) (below : 0 < denominator) :
    ∃ binades count : Nat, nearestPlace numerator denominator = binades * binadeSize + count ∧
      count ≤ 2 * binadeSize ∧ (binades = 0 ∨ binadeSize ≤ count) ∧
      (count : ℚ) ≤ numerator / denominator / 2 ^ ((binades : ℤ) - 1074) + 1 / 2 ∧
      (numerator : ℚ) / denominator < 2 ^ ((binades : ℤ) - 1021) ∧
      (binades = 0 ∨ (2 : ℚ) ^ ((binades : ℤ) - 1022) ≤ numerator / denominator) := by
  obtain ⟨least, high, low⟩ := fittingExponent_bounds positive below
  have split : nearestPlace numerator denominator =
      (fittingExponent numerator denominator + 1074).toNat * binadeSize +
        roundQuotient (scaledRatio numerator denominator (fittingExponent numerator denominator)).1
          (scaledRatio numerator denominator (fittingExponent numerator denominator)).2 := by
    rw [nearestPlace, if_neg positive.ne']
  generalize fittingExponent numerator denominator = exponent at least high low split
  obtain ⟨binades, rfl⟩ : ∃ binades : Nat, exponent = binades - 1074 := ⟨(exponent + 1074).toNat, by omega⟩
  rw [show ((binades : ℤ) - 1074 + 1074).toNat = binades by omega] at split
  have scaled := scaledRatio_eq numerator denominator (binades - 1074)
  have scaledPositive := scaledRatio_pos numerator below (binades - 1074)
  generalize scaledRatio numerator denominator (binades - 1074) = ratio at split scaled scaledPositive
  have unit : (0 : ℚ) < 2 ^ ((binades : ℤ) - 1074) := by positivity
  have atMost := roundQuotient_le ratio.1 scaledPositive
  have atLeast := le_roundQuotient ratio.1 scaledPositive
  rw [scaled] at atMost atLeast
  rw [show (binades : ℤ) - 1074 + 53 = binades - 1021 by ring] at high
  rw [show (binades : ℤ) - 1074 + 52 = binades - 1022 by ring] at low
  refine ⟨binades, _, split, ?_, ?_, atMost, high, low.imp (by omega) id⟩
  · have bound : (numerator : ℚ) / denominator / 2 ^ ((binades : ℤ) - 1074) < 2 ^ 53 := by
      rw [div_lt_iff₀ unit, mul_comm, two_zpow_mul, show (binades : ℤ) - 1074 + (53 : Nat) = binades - 1021 by omega]
      exact high
    have count : (roundQuotient ratio.1 ratio.2 : ℚ) < 2 ^ 53 + 1 := by linarith
    have whole : roundQuotient ratio.1 ratio.2 < 2 ^ 53 + 1 := by exact_mod_cast count
    exact Nat.le_of_lt_succ whole
  · refine low.imp (by omega) fun low => ?_
    have bound : (2 : ℚ) ^ 52 ≤ numerator / denominator / 2 ^ ((binades : ℤ) - 1074) := by
      rw [le_div_iff₀ unit, mul_comm, two_zpow_mul, show (binades : ℤ) - 1074 + (52 : Nat) = binades - 1022 by omega]
      exact low
    have count : (2 : ℚ) ^ 52 < roundQuotient ratio.1 ratio.2 + 1 := by linarith
    have whole : 2 ^ 52 < roundQuotient ratio.1 ratio.2 + 1 := by exact_mod_cast count
    exact Nat.le_of_lt_succ whole

/-- A ratio below the point of overflow is rounded to a finite double. -/
theorem ofRatio?_isSome (negative : Bool) {numerator denominator : Nat} (below : 0 < denominator)
    (bound : (numerator : ℚ) / denominator < overflow) :
    (ofRatio? negative numerator denominator).isSome = true := by
  have finite : nearestPlace numerator denominator < 2047 * binadeSize := by
    rcases Nat.eq_zero_or_pos numerator with rfl | positive
    · exact Nat.mul_pos (by decide) (by decide)
    · obtain ⟨binades, count, split, most, -, near, -, large⟩ := nearestPlace_cases positive below
      rw [split]
      have last : binades ≤ 2045 := by
        by_contra beyond
        have far := large.resolve_left (by omega)
        have further : (2 : ℚ) ^ (1024 : ℤ) ≤ 2 ^ ((binades : ℤ) - 1022) := by
          gcongr
          · norm_num
          · omega
        exact absurd (further.trans far) (not_le.mpr (bound.trans overflow_lt))
      rcases Nat.lt_or_eq_of_le last with earlier | rfl
      · have whole := Nat.mul_le_mul_right binadeSize (Nat.le_of_lt_succ earlier)
        have size : 0 < binadeSize := by decide
        omega
      · -- In the last binade the half double below the point of overflow keeps the count from filling it up.
        have scaled : (numerator : ℚ) / denominator / 2 ^ (((2045 : Nat) : ℤ) - 1074) < 2 ^ 53 - 1 / 2 := by
          have next : (2 : ℚ) ^ (971 : ℤ) = 2 ^ (970 : ℤ) * 2 ^ 1 := (two_zpow_mul 970 1).symm
          have point : overflow = (2 ^ 53 - 1 / 2) * 2 ^ (((2045 : Nat) : ℤ) - 1074) := by
            change _ = _ * (2 : ℚ) ^ (971 : ℤ)
            rw [next, overflow]
            ring
          rw [div_lt_iff₀ (by positivity), ← point]
          exact bound
        have below : (count : ℚ) < 2 ^ 53 := by linarith
        have whole : count < 2 ^ 53 := by exact_mod_cast below
        have sizes : 2 * binadeSize = 2 ^ 53 := rfl
        omega
  simp [ofRatio?, finite]

/-- The place of a double that a ratio was rounded to. -/
theorem place_of_ofRatio? {negative : Bool} {numerator denominator : Nat} {x : Binary64}
    (rounded : ofRatio? negative numerator denominator = some x) : x.place = nearestPlace numerator denominator := by
  unfold ofRatio? at rounded
  simp only at rounded
  split at rounded
  · cases rounded
    rfl
  · cases rounded

/-- A ratio of at least one is rounded to a double of at least one, and grows by at most its 2⁻⁵³th part. -/
theorem magnitude_of_ofRatio? {negative : Bool} {numerator denominator : Nat} {x : Binary64}
    (below : 0 < denominator) (large : (1 : ℚ) ≤ numerator / denominator)
    (rounded : ofRatio? negative numerator denominator = some x) :
    1 ≤ x.magnitude ∧ x.magnitude ≤ numerator / denominator * (1 + 1 / 2 ^ 53) := by
  have positive : 0 < numerator := by
    rcases Nat.eq_zero_or_pos numerator with rfl | positive
    · norm_num at large
    · exact positive
  obtain ⟨binades, count, split, most, normal, near, high, least⟩ := nearestPlace_cases positive below
  have reached : 1022 ≤ binades := by
    by_contra few
    have one : (2 : ℚ) ^ ((binades : ℤ) - 1021) ≤ 1 := zpow_le_one_of_nonpos₀ (by norm_num) (by omega)
    linarith
  have filled := normal.resolve_left (by omega)
  have least := least.resolve_left (by omega)
  rw [magnitude_of_place ((place_of_ofRatio? rounded).trans split) most normal]
  have unit : (0 : ℚ) < 2 ^ ((binades : ℤ) - 1074) := by positivity
  have shifted : (2 : ℚ) ^ ((binades : ℤ) - 1022) = 2 ^ ((binades : ℤ) - 1074) * 2 ^ 52 := by
    rw [two_zpow_mul, show (binades : ℤ) - 1074 + (52 : Nat) = binades - 1022 by omega]
  constructor
  · have count : (2 : ℚ) ^ 52 ≤ count := by exact_mod_cast filled
    calc (1 : ℚ) ≤ 2 ^ ((binades : ℤ) - 1022) := one_le_zpow₀ (by norm_num) (by omega)
      _ = 2 ^ 52 * 2 ^ ((binades : ℤ) - 1074) := by rw [shifted, mul_comm]
      _ ≤ _ := by gcongr
  · have half : (2 : ℚ) ^ ((binades : ℤ) - 1074) / 2 ≤ numerator / denominator / 2 ^ 53 := by
      rw [shifted] at least
      rw [le_div_iff₀ (by positivity)]
      linarith
    calc (count : ℚ) * 2 ^ ((binades : ℤ) - 1074)
        ≤ (numerator / denominator / 2 ^ ((binades : ℤ) - 1074) + 1 / 2) * 2 ^ ((binades : ℤ) - 1074) := by gcongr
      _ = numerator / denominator + 2 ^ ((binades : ℤ) - 1074) / 2 := by field_simp
      _ ≤ numerator / denominator * (1 + 1 / 2 ^ 53) := by linarith

/-- A natural number of one word is rounded to a double that is larger by at most its 2⁻⁵³th part. -/
theorem ofRatio?_natural (negative : Bool) {value : Nat} (small : value < 2 ^ 64) :
    ∃ x, ofRatio? negative value 1 = some x ∧ x.magnitude ≤ value * (1 + 1 / 2 ^ 53) := by
  have ratio : (value : ℚ) / (1 : Nat) = value := by rw [Nat.cast_one, div_one]
  have bound : (value : ℚ) / (1 : Nat) < overflow := by
    have word : (value : ℚ) < 2 ^ (64 : ℤ) := by exact_mod_cast small
    have power : (2 : ℚ) ^ (64 : ℤ) ≤ 2 ^ (970 : ℤ) := zpow_le_zpow_right₀ (by norm_num) (by norm_num)
    have positive : (0 : ℚ) < 2 ^ (970 : ℤ) := by positivity
    rw [ratio]
    calc (value : ℚ) < 2 ^ (970 : ℤ) := word.trans_le power
      _ ≤ overflow := le_mul_of_one_le_left positive.le (by norm_num)
  obtain ⟨x, rounded⟩ := Option.isSome_iff_exists.mp (ofRatio?_isSome negative Nat.one_pos bound)
  refine ⟨x, rounded, ?_⟩
  rcases Nat.eq_zero_or_pos value with rfl | positive
  · have place : x.place = 0 := (place_of_ofRatio? rounded).trans (by simp [nearestPlace])
    have sum : x.place = 0 * binadeSize + 0 := by rw [place, Nat.zero_mul]
    rw [magnitude_of_place sum (Nat.zero_le _) (.inl rfl)]
    norm_num
  · have large : (1 : ℚ) ≤ (value : ℚ) / (1 : Nat) := by
      rw [ratio]
      exact_mod_cast positive
    exact ratio ▸ (magnitude_of_ofRatio? Nat.one_pos large rounded).2

theorem mul?_isSome {x y : Binary64} (bound : x.magnitude * y.magnitude < overflow) : (x.mul? y).isSome = true := by
  refine ofRatio?_isSome _ (Nat.mul_pos x.ratio_pos y.ratio_pos) ?_
  rw [Nat.cast_mul, Nat.cast_mul, mul_div_mul_comm, ratio_eq, ratio_eq]
  exact bound

/-- Dividing by a double of at least one never overflows. -/
theorem div?_isSome (x : Binary64) {y : Binary64} (large : 1 ≤ y.magnitude) : (x.div? y).isSome = true := by
  have positive : 0 < y.ratio.1 := by
    rcases Nat.eq_zero_or_pos y.ratio.1 with zero | positive
    · rw [← ratio_eq, zero] at large
      norm_num at large
    · exact positive
  refine ofRatio?_isSome _ (Nat.mul_pos x.ratio_pos positive) ?_
  have quotient : ((x.ratio.1 * y.ratio.2 : Nat) : ℚ) / (x.ratio.2 * y.ratio.1 : Nat) = x.magnitude / y.magnitude := by
    rw [← ratio_eq, ← ratio_eq, Nat.cast_mul, Nat.cast_mul, div_div_div_eq]
  have below : x.magnitude / y.magnitude ≤ x.magnitude :=
    div_le_self (by unfold magnitude; positivity) large
  rw [quotient]
  exact below.trans_lt x.magnitude_lt

/-- The powers of ten up to the largest one that doubles reach. -/
theorem powerOfTen?_eq_some {exponent : Nat} (bound : exponent ≤ 308) :
    ∃ power, powerOfTen? exponent = some power ∧ 1 ≤ power.magnitude ∧
      power.magnitude ≤ 10 ^ exponent * (1 + 1 / 2 ^ 53) := by
  have ratio : ((powerOfTen exponent : Nat) : ℚ) / (1 : Nat) = 10 ^ exponent := by
    simp [powerOfTen]
  have small : (10 : ℚ) ^ exponent < overflow := by
    have largest : (10 : ℚ) ^ 308 < overflow := by
      have whole : 10 ^ 308 < 0x3F_FFFF_FFFF_FFFF * 2 ^ 970 := by decide +kernel
      have point : overflow = (0x3F_FFFF_FFFF_FFFF : Nat) * 2 ^ 970 := by
        rw [overflow, show (970 : ℤ) = (970 : Nat) by rfl, zpow_natCast]
        norm_num
      rw [point]
      exact_mod_cast whole
    exact (pow_le_pow_right₀ (by norm_num) bound).trans_lt largest
  obtain ⟨power, found⟩ := Option.isSome_iff_exists.mp
    (ofRatio?_isSome false Nat.one_pos (ratio.trans_lt small))
  have large : (1 : ℚ) ≤ (powerOfTen exponent : Nat) / (1 : Nat) := by
    rw [ratio]
    exact one_le_pow₀ (by norm_num)
  obtain ⟨least, most⟩ := magnitude_of_ofRatio? Nat.one_pos large found
  exact ⟨power, found, least, ratio ▸ most⟩

end FilterRollout.Decimal.Binary64
