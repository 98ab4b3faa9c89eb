import FilterRollout.Proofs.Decimal.Shortest
import FilterRollout.Proofs.Json.Tokens

/-! Every number is read from what it is printed as, though a double perhaps as one nearby: what is printed never
stands for more than doubles reach, even after it was rounded twice on the way. Main statement: `Number.read?_chars`. -/

namespace FilterRollout.Json

open Decimal

namespace Number

/-- Numbers up to halfway above the third largest double do not overflow however they are scaled. -/
def reach : ℚ := (2 ^ 53 - 5 / 2) * 2 ^ (971 : ℤ)

theorem reach_eq : reach = (2 ^ 54 - 5) * 2 ^ (970 : ℤ) := by
  have next : (2 : ℚ) ^ (971 : ℤ) = 2 ^ (970 : ℤ) * 2 ^ 1 := (Binary64.two_zpow_mul 970 1).symm
  rw [reach, next]
  ring

theorem reach_rounded_lt : reach * (1 + 1 / 2 ^ 53) * (1 + 1 / 2 ^ 53) < Binary64.overflow := by
  have positive : (0 : ℚ) < 2 ^ (970 : ℤ) := by positivity
  have factor : ((2 : ℚ) ^ 54 - 5) * (1 + 1 / 2 ^ 53) * (1 + 1 / 2 ^ 53) < 2 ^ 54 - 1 := by norm_num
  rw [reach_eq, Binary64.overflow]
  calc ((2 : ℚ) ^ 54 - 5) * 2 ^ (970 : ℤ) * (1 + 1 / 2 ^ 53) * (1 + 1 / 2 ^ 53)
      = (2 ^ 54 - 5) * (1 + 1 / 2 ^ 53) * (1 + 1 / 2 ^ 53) * 2 ^ (970 : ℤ) := by ring
    _ < (2 ^ 54 - 1) * 2 ^ (970 : ℤ) := mul_lt_mul_of_pos_right factor positive

theorem word_le_reach : (2 : ℚ) ^ (64 : ℤ) ≤ reach := by
  have power : (2 : ℚ) ^ (64 : ℤ) ≤ 2 ^ (970 : ℤ) := zpow_le_zpow_right₀ (by norm_num) (by norm_num)
  rw [reach_eq]
  exact power.trans (le_mul_of_one_le_left (by positivity) (by norm_num))

theorem reach_lt : reach < 10 ^ (309 : ℤ) := by
  have whole : 2 ^ 1024 < 10 ^ 309 := by decide +kernel
  have power : (2 : ℚ) ^ (1024 : ℤ) < 10 ^ (309 : ℤ) := by exact_mod_cast whole
  have positive : (0 : ℚ) ≤ reach := le_trans (by positivity) word_le_reach
  have grown : reach ≤ reach * (1 + 1 / 2 ^ 53) * (1 + 1 / 2 ^ 53) := by
    rw [mul_assoc]
    exact le_mul_of_one_le_right positive (by norm_num)
  exact ((grown.trans_lt reach_rounded_lt).trans Binary64.overflow_lt).trans power

/-- A number of one word, scaled to at most `reach`, is a finite double. -/
theorem scaled?_isSome (negative : Bool) {value : Nat} {exponent : ℤ} (inWord : value < Word.count64)
    (bound : (value : ℚ) * 10 ^ exponent ≤ reach) : (scaled? negative value exponent).isSome = true := by
  obtain ⟨base, rounded, size⟩ := Binary64.ofRatio?_natural negative inWord
  simp only [scaled?, rounded, Option.bind_eq_bind, Option.bind_some]
  split
  · rename_i far
    have zero : value = 0 := by
      by_contra nonzero
      have one : (1 : ℚ) ≤ value := by exact_mod_cast Nat.pos_of_ne_zero nonzero
      have power : (10 : ℚ) ^ (309 : ℤ) ≤ 10 ^ exponent := zpow_le_zpow_right₀ (by norm_num) (by omega)
      have least : (10 : ℚ) ^ exponent ≤ value * 10 ^ exponent := le_mul_of_one_le_left (by positivity) one
      exact absurd (power.trans (least.trans bound)) (not_le.mpr reach_lt)
    simp [zero]
  · split
    · rename_i near positive
      obtain ⟨n, rfl⟩ := Int.eq_ofNat_of_zero_le positive
      obtain ⟨power, found, least, most⟩ := Binary64.powerOfTen?_eq_some (show n ≤ 308 by omega)
      rw [Int.toNat_natCast, found]
      refine Binary64.mul?_isSome ?_
      calc base.magnitude * power.magnitude
          ≤ value * (1 + 1 / 2 ^ 53) * (10 ^ n * (1 + 1 / 2 ^ 53)) :=
            mul_le_mul size most (zero_le_one.trans least) (by positivity)
        _ = value * 10 ^ (n : ℤ) * (1 + 1 / 2 ^ 53) * (1 + 1 / 2 ^ 53) := by
          rw [zpow_natCast]
          ring
        _ ≤ reach * (1 + 1 / 2 ^ 53) * (1 + 1 / 2 ^ 53) := by gcongr
        _ < Binary64.overflow := reach_rounded_lt
    · split
      · obtain ⟨power, found, least, -⟩ := Binary64.powerOfTen?_eq_some (show (-exponent).toNat ≤ 308 by omega)
        rw [found]
        exact Binary64.div?_isSome base least
      · split
        · obtain ⟨largest, found, least, -⟩ := Binary64.powerOfTen?_eq_some (le_refl 308)
          obtain ⟨middle, divided⟩ := Option.isSome_iff_exists.mp (Binary64.div?_isSome base least)
          obtain ⟨power, rest, leastRest, -⟩ :=
            Binary64.powerOfTen?_eq_some (show (-exponent - 308).toNat ≤ 308 by omega)
          simp only [found, divided, rest, Option.bind_some]
          exact Binary64.div?_isSome middle leastRest
        · rfl

/-- Each digit shifts those before it by one place. -/
theorem pow_le_digitsValue (value : Nat) (digits : List Nat) :
    value * 10 ^ digits.length ≤ digitsValue value digits := by
  induction digits generalizing value with
  | nil => simp [digitsValue]
  | cons digit digits ih =>
    calc value * 10 ^ (digits.length + 1) = value * 10 * 10 ^ digits.length := by ring
      _ ≤ (value * 10 + digit) * 10 ^ digits.length := Nat.mul_le_mul_right _ (Nat.le_add_right _ _)
      _ ≤ digitsValue (value * 10 + digit) digits := ih _

/-- Digits stay below the power of ten with one more place. -/
theorem digitsValue_lt {value : Nat} {digits : List Nat} (proper : ∀ digit ∈ digits, digit < 10) :
    digitsValue value digits < (value + 1) * 10 ^ digits.length := by
  induction digits generalizing value with
  | nil => simp [digitsValue]
  | cons digit digits ih =>
    obtain ⟨first, others⟩ := List.forall_mem_cons.mp proper
    calc digitsValue (value * 10 + digit) digits < (value * 10 + digit + 1) * 10 ^ digits.length := ih others
      _ ≤ (value + 1) * 10 * 10 ^ digits.length := Nat.mul_le_mul_right _ (by omega)
      _ = (value + 1) * 10 ^ (digits.length + 1) := by ring

/-- The digits that are taken stand for at most the whole number, however many are left. -/
theorem takeDigits_spec {value : Nat} (inWord : value < Word.count64) (digits : List Nat) :
    (takeDigits value digits).1 < Word.count64 ∧ (takeDigits value digits).2.length ≤ digits.length ∧
      (takeDigits value digits).1 * 10 ^ (takeDigits value digits).2.length ≤ digitsValue value digits := by
  induction digits generalizing value with
  | nil => exact ⟨inWord, Nat.le_refl _, by simp [takeDigits, digitsValue]⟩
  | cons digit digits ih =>
    unfold takeDigits
    split
    · rename_i fits
      obtain ⟨bounded, fewer, less⟩ := ih fits
      exact ⟨bounded, Nat.le_succ_of_le fewer, less⟩
    · exact ⟨inWord, Nat.le_refl _, pow_le_digitsValue value (digit :: digits)⟩

/-- A literal with at most nineteen digits before the point and no exponent is a number. -/
theorem ofLiteral?_positional (negative : Bool) {whole fraction : List Nat} (short : whole.length ≤ 19)
    (proper : ∀ digit ∈ whole, digit < 10) :
    (ofLiteral? ⟨negative, whole, some fraction, none⟩).isSome = true := by
  have small : digitsValue 0 whole < Word.count64 := by
    calc digitsValue 0 whole < (0 + 1) * 10 ^ whole.length := digitsValue_lt proper
      _ ≤ 1 * 10 ^ 19 := Nat.mul_le_mul_left _ (Nat.pow_le_pow_right (by decide) short)
      _ ≤ Word.count64 := by decide
  obtain ⟨inWord, fewer, -⟩ := takeDigits_spec small fraction
  simp only [ofLiteral?, takeDigits_of_lt small, Option.getD_some, Option.getD_none, Option.isSome_map]
  refine scaled?_isSome negative inWord ?_
  have shrunk : (10 : ℚ) ^ ((([] : List Nat).length : ℤ) -
      ((fraction.length : ℤ) - (takeDigits (digitsValue 0 whole) fraction).2.length) + 0) ≤ 1 :=
    zpow_le_one_of_nonpos₀ (by norm_num) (by simp only [List.length_nil]; omega)
  have word : ((takeDigits (digitsValue 0 whole) fraction).1 : ℚ) ≤ 2 ^ (64 : ℤ) := by exact_mod_cast inWord.le
  exact (mul_le_of_le_one_right (by positivity) shrunk).trans (word.trans word_le_reach)

/-- A literal with one digit before the point that stands for at most `reach` is a number. -/
theorem ofLiteral?_scientific (negative : Bool) {first : Nat} {fraction : Option (List Nat)} {exponent : ℤ}
    (digit : first < 10)
    (bound : (digitsValue first (fraction.getD []) : ℚ) * 10 ^ (exponent - (fraction.getD []).length) ≤ reach) :
    (ofLiteral? ⟨negative, [first], fraction, some exponent⟩).isSome = true := by
  have small : digitsValue 0 [first] < Word.count64 := by
    simp only [digitsValue, List.foldl_cons, List.foldl_nil]
    unfold Word.count64
    omega
  have whole : digitsValue 0 [first] = first := Nat.zero_add first
  obtain ⟨inWord, fewer, less⟩ := takeDigits_spec (whole ▸ small) (fraction.getD [])
  simp only [ofLiteral?, takeDigits_of_lt small, whole, Option.getD_some, Option.isSome_map]
  refine scaled?_isSome negative inWord ?_
  generalize takeDigits first (fraction.getD []) = taken at inWord fewer less ⊢
  calc (taken.1 : ℚ) * 10 ^ ((([] : List Nat).length : ℤ) - ((fraction.getD []).length - taken.2.length) + exponent)
      = (taken.1 * 10 ^ taken.2.length : Nat) * 10 ^ (exponent - (fraction.getD []).length) := by
        push_cast
        rw [mul_assoc, ← zpow_natCast, ← zpow_add₀ (by norm_num)]
        congr 2
        simp only [List.length_nil]
        omega
    _ ≤ digitsValue first (fraction.getD []) * 10 ^ (exponent - (fraction.getD []).length) := by
      gcongr
    _ ≤ reach := bound

end Number

/-- The characters are these digits. -/
def Spells (chars : List Char) (digits : List Nat) : Prop := chars.map Text.digitValue? = digits.map some

theorem spells_iff {chars : List Char} {digits : List Nat} :
    Spells chars digits ↔ spanDigits chars = (digits, []) := by
  induction chars generalizing digits with
  | nil => cases digits <;> simp [Spells, spanDigits]
  | cons c chars ih =>
    unfold Spells at ih ⊢
    cases value : Text.digitValue? c with
    | none => cases digits <;> simp [spanDigits, value]
    | some digit =>
      cases digits with
      | nil => simp [spanDigits, value]
      | cons first digits => simp [spanDigits, value, ih, Prod.ext_iff, and_assoc]

variable {chars more : List Char} {digits others : List Nat}

theorem Spells.append (spelled : Spells chars digits) (later : Spells more others) :
    Spells (chars ++ more) (digits ++ others) := by
  unfold Spells at *
  rw [List.map_append, List.map_append, spelled, later]

theorem Spells.take (spelled : Spells chars digits) (count : Nat) : Spells (chars.take count) (digits.take count) := by
  unfold Spells at *
  rw [List.map_take, List.map_take, spelled]

theorem Spells.drop (spelled : Spells chars digits) (count : Nat) : Spells (chars.drop count) (digits.drop count) := by
  unfold Spells at *
  rw [List.map_drop, List.map_drop, spelled]

theorem Spells.length_eq (spelled : Spells chars digits) : chars.length = digits.length := by
  simpa using congrArg List.length spelled

theorem spells_zeros (count : Nat) : Spells (List.replicate count '0') (List.replicate count 0) := by
  unfold Spells
  rw [List.map_replicate, List.map_replicate]
  rfl

theorem Spells.proper (spelled : Spells chars digits) : ∀ digit ∈ digits, digit < 10 := by
  intro digit member
  have listed : some digit ∈ chars.map Text.digitValue? := spelled ▸ List.mem_map_of_mem member
  obtain ⟨c, -, value⟩ := List.mem_map.mp listed
  unfold Text.digitValue? at value
  split at value
  · rename_i range
    have high : c.toNat ≤ 57 := range.2
    obtain rfl := Option.some.inj value
    have zero : '0'.toNat = 48 := rfl
    omega
  · cases value

theorem Spells.span_append (spelled : Spells chars digits) {c : Char} (other : Text.digitValue? c = none)
    (rest : List Char) : spanDigits (chars ++ c :: rest) = (digits, c :: rest) := by
  rw [spanDigits_append_of_all (spells_iff.mp spelled)]
  simp [spanDigits, other]

theorem readFraction?_point (filled : digits ≠ []) (span : spanDigits chars = (digits, more)) :
    readFraction? ('.' :: chars) = some (some digits, more) := by
  obtain ⟨first, others, rfl⟩ := List.exists_cons_of_ne_nil filled
  simp [readFraction?, span]

namespace Number

/-- A text of digits with a point among them is a number. -/
theorem unsigned?_positional (negative : Bool) (whole : Spells chars digits) (fraction : Spells more others)
    (filled : digits ≠ []) (single : ∀ second rest, digits ≠ 0 :: second :: rest) (short : digits.length ≤ 19)
    (filledFraction : others ≠ []) : (unsigned? negative (chars ++ '.' :: more)).isSome = true := by
  have point : Text.digitValue? '.' = none := by decide
  have first : readWhole? (chars ++ '.' :: more) = some (digits, '.' :: more) :=
    readWhole?_iff.mpr ⟨whole.span_append point more, filled, single⟩
  have second := readFraction?_point filledFraction (spells_iff.mp fraction)
  have literal : readLiteral? negative (chars ++ '.' :: more) = some (⟨negative, digits, some others, none⟩, []) := by
    simp [readLiteral?, first, second, readExponent?]
  simp only [unsigned?, literal]
  exact ofLiteral?_positional negative short whole.proper

theorem readExponent?_printed (exponent : ℤ) :
    readExponent? ('e' :: (if exponent < 0 then '-' else '+') :: Nat.toDigits 10 exponent.natAbs) =
      some (some exponent, []) := by
  obtain ⟨digits, span, filled, -, -, value⟩ := spanDigits_toDigits exponent.natAbs
  obtain ⟨first, others, rfl⟩ := List.exists_cons_of_ne_nil filled
  have sum : (first :: others).foldl (fun value digit => value * 10 + digit) 0 = exponent.natAbs := value
  by_cases negative : exponent < 0
  · have same : -(exponent.natAbs : ℤ) = exponent := by omega
    have read : readExponent? ('e' :: '-' :: Nat.toDigits 10 exponent.natAbs) =
        some (some (-(exponent.natAbs : ℤ)), []) := by simp [readExponent?, readSign, span, sum]
    rw [if_pos negative, read, same]
  · have same : (exponent.natAbs : ℤ) = exponent := by omega
    have read : readExponent? ('e' :: '+' :: Nat.toDigits 10 exponent.natAbs) =
        some (some (exponent.natAbs : ℤ), []) := by simp [readExponent?, readSign, span, sum]
    rw [if_neg negative, read, same]

/-- A text of one digit, perhaps more digits after a point, and an exponent is a number if it stands for at most
`reach`. -/
theorem unsigned?_scientific (negative : Bool) {c : Char} {digit : Nat} (first : Text.digitValue? c = some digit)
    (fraction : Spells more others) (exponent : ℤ)
    (bound : (digitsValue digit others : ℚ) * 10 ^ (exponent - others.length) ≤ reach) :
    (unsigned? negative ((if more = [] then [c] else c :: '.' :: more) ++
      'e' :: (if exponent < 0 then '-' else '+') :: Nat.toDigits 10 exponent.natAbs)).isSome = true := by
  have spelled : Spells [c] [digit] := by simp [Spells, first]
  have letter : Text.digitValue? 'e' = none := by decide
  have point : Text.digitValue? '.' = none := by decide
  have power := readExponent?_printed exponent
  generalize (if exponent < 0 then '-' else '+') :: Nat.toDigits 10 exponent.natAbs = printed at power ⊢
  cases more with
  | nil =>
    obtain rfl : others = [] := List.length_eq_zero_iff.mp fraction.length_eq.symm
    have whole : readWhole? (c :: 'e' :: printed) = some ([digit], 'e' :: printed) :=
      readWhole?_iff.mpr ⟨spelled.span_append letter printed, by simp, by simp⟩
    have literal : readLiteral? negative (c :: 'e' :: printed) =
        some (⟨negative, [digit], none, some exponent⟩, []) := by
      simp [readLiteral?, whole, readFraction?, power]
    simp only [if_true, List.cons_append, List.nil_append, unsigned?, literal]
    exact ofLiteral?_scientific negative (spelled.proper _ List.mem_cons_self) bound
  | cons second more =>
    have whole : readWhole? (c :: '.' :: (second :: more ++ 'e' :: printed)) =
        some ([digit], '.' :: (second :: more ++ 'e' :: printed)) :=
      readWhole?_iff.mpr ⟨spelled.span_append point _, by simp, by simp⟩
    have filled : others ≠ [] := by
      rintro rfl
      simp [Spells] at fraction
    have digits := readFraction?_point filled (fraction.span_append letter printed)
    simp only [if_neg (List.cons_ne_nil second more), List.cons_append] at whole digits ⊢
    have literal : readLiteral? negative (c :: '.' :: second :: (more ++ 'e' :: printed)) =
        some (⟨negative, [digit], some others, some exponent⟩, []) := by
      simp [readLiteral?, whole, digits, power]
    simp only [unsigned?, literal]
    exact ofLiteral?_scientific negative (spelled.proper _ List.mem_cons_self) bound

/-- The digits of a positive number: they spell it, and the first of them is not zero. -/
theorem spells_toDigits {n : Nat} (positive : 0 < n) :
    ∃ digits, Spells (Nat.toDigits 10 n) digits ∧ digits ≠ [] ∧ (∀ rest, digits ≠ 0 :: rest) ∧
      digitsValue 0 digits = n := by
  obtain ⟨digits, span, filled, -, leading, value⟩ := spanDigits_toDigits n
  exact ⟨digits, spells_iff.mpr span, filled, leading positive, value⟩

/-- A decimal up to `reach` is a number in whichever form it is printed. -/
theorem unsigned?_decimalChars (negative : Bool) {decimal : Decimal.Shortest} (positive : 0 < decimal.digits)
    (bound : (decimal.digits : ℚ) * 10 ^ decimal.exponent ≤ reach) :
    (unsigned? negative (decimalChars decimal)).isSome = true := by
  obtain ⟨digits, spelled, filled, leading, value⟩ := spells_toDigits positive
  have length := spelled.length_eq
  have many : 0 < digits.length := List.length_pos_iff.mpr filled
  have zero : Spells ['0'] [0] := rfl
  have single (later : List Nat) (second : Nat) (rest : List Nat) : digits ++ later ≠ 0 :: second :: rest := by
    obtain ⟨first, others, rfl⟩ := List.exists_cons_of_ne_nil filled
    rintro same
    obtain ⟨rfl, -⟩ := List.cons.inj same
    exact leading others rfl
  unfold decimalChars
  simp only [length]
  split
  · rename_i whole
    have text : Nat.toDigits 10 decimal.digits ++ List.replicate decimal.exponent.toNat '0' ++ ['.', '0'] =
        Nat.toDigits 10 decimal.digits ++ List.replicate decimal.exponent.toNat '0' ++ '.' :: ['0'] := rfl
    rw [text]
    refine unsigned?_positional negative (spelled.append (spells_zeros _)) zero (by simp [filled]) (single _) ?_
      (by simp)
    rw [List.length_append, List.length_replicate]
    omega
  · split
    · refine unsigned?_positional negative (spelled.take _) (spelled.drop _) ?_ ?_ ?_ ?_
      · exact List.length_pos_iff.mp (by rw [List.length_take]; omega)
      · intro second rest same
        obtain ⟨first, others, rfl⟩ := List.exists_cons_of_ne_nil filled
        obtain ⟨rfl, -⟩ := List.cons.inj same
        exact leading others rfl
      · rw [List.length_take]
        omega
      · exact List.length_pos_iff.mp (by rw [List.length_drop]; omega)
    · split
      · exact unsigned?_positional negative zero ((spells_zeros _).append spelled) (by simp) (by simp) (by simp)
          (by simp [filled])
      · -- The digits after the first shift the point as far as the printed exponent makes up for.
        obtain ⟨first, others, rfl⟩ := List.exists_cons_of_ne_nil filled
        cases printed : Nat.toDigits 10 decimal.digits with
        | nil =>
          rw [printed] at length
          cases length
        | cons c more =>
          rw [printed] at spelled
          obtain ⟨digit, fraction⟩ : Text.digitValue? c = some first ∧ Spells more others := by
            simpa [Spells] using spelled
          have sum : digitsValue first others = decimal.digits := by
            rw [← value]
            simp [digitsValue]
          have shift : ((first :: others).length : ℤ) + decimal.exponent - 1 - others.length = decimal.exponent := by
            rw [List.length_cons]
            omega
          have read := unsigned?_scientific negative digit fraction ((first :: others).length + decimal.exponent - 1)
            (by rw [sum, shift]; exact bound)
          cases more with
          | nil => exact read
          | cons second rest => exact read

/-- All but the two largest doubles are so far below the largest that halfway to the next is within `reach`. -/
theorem halfway_le_reach {x : Binary64} (below : x.place < 2047 * binadeSize - 2) :
    ((x.significand : ℚ) + 1 / 2) * 2 ^ x.exponent ≤ reach := by
  have bound : (x.significand : ℚ) + 1 ≤ 2 ^ 53 := by exact_mod_cast Nat.succ_le_of_lt x.significand_lt
  rcases Int.lt_or_eq_of_le x.exponent_le with smaller | largest
  · calc ((x.significand : ℚ) + 1 / 2) * 2 ^ x.exponent ≤ (2 ^ 54 - 5) * 2 ^ (970 : ℤ) := by
          refine mul_le_mul (by linarith) (zpow_le_zpow_right₀ (by norm_num) (by omega)) (by positivity) (by norm_num)
      _ = reach := reach_eq.symm
  · have significand : x.significand + 3 ≤ 2 ^ 53 := by
      have large : ¬ x.place < binadeSize := by
        intro small
        simp [Binary64.exponent, small] at largest
      have binade : x.place / binadeSize = 2046 := by
        simp only [Binary64.exponent, if_neg large] at largest
        omega
      have split := Nat.div_add_mod x.place binadeSize
      rw [binade] at split
      have sizes : 2 * binadeSize = 2 ^ 53 := rfl
      simp only [Binary64.significand, if_neg large]
      omega
    have bound : (x.significand : ℚ) + 3 ≤ 2 ^ 53 := by exact_mod_cast significand
    rw [largest, reach]
    exact mul_le_mul_of_nonneg_right (by linarith) (by positivity)

/-- The two largest doubles are read by what their digits are. -/
theorem unsigned?_largest : ∀ (negative : Bool) (fromLast : Fin 2),
    (unsigned? negative (decimalChars (Binary64.mk negative (2047 * binadeSize - 1 - fromLast)
      (by unfold binadeSize; omega)).shortest)).isSome = true := by decide +kernel

theorem unsigned?_zero : ∀ negative : Bool, (unsigned? negative ['0', '.', '0']).isSome = true := by decide +kernel

theorem unsigned?_double (x : Binary64) :
    (unsigned? x.negative (if x.isZero then ['0', '.', '0'] else decimalChars x.shortest)).isSome = true := by
  cases zero : x.isZero with
  | true => exact unsigned?_zero x.negative
  | false =>
    obtain ⟨positive, halfway⟩ := Binary64.shortest_spec zero
    by_cases below : x.place < 2047 * binadeSize - 2
    · exact unsigned?_decimalChars _ positive (halfway.trans (halfway_le_reach below))
    · obtain ⟨negative, place, finite⟩ := x
      obtain rfl | rfl : place = 2047 * binadeSize - 1 ∨ place = 2047 * binadeSize - 1 - 1 := by
        simp only at below
        omega
      · exact unsigned?_largest negative 0
      · exact unsigned?_largest negative 1

/-- Every number is read from what it is printed as. -/
theorem read?_chars_isSome (number : Number) : (read? number.chars).isSome = true := by
  cases number with
  | integer value inWord =>
    have same := rereads_integer value inWord
    rw [Rereads] at same
    rw [same]
    rfl
  | float x =>
    have unsigned := unsigned?_double x
    cases negative : x.negative with
    | true =>
      simp only [chars, negative]
      rw [negative] at unsigned
      exact unsigned
    | false =>
      simp only [chars, negative]
      rw [negative] at unsigned
      obtain ⟨other, found⟩ := Option.isSome_iff_exists.mp unsigned
      exact Option.isSome_iff_exists.mpr ⟨other, read?_of_unsigned? found⟩

/-- What a number is read as once it was printed. -/
def reread (number : Number) : Number := (read? number.chars).getD number

theorem read?_chars (number : Number) : read? number.chars = some number.reread := by
  obtain ⟨other, found⟩ := Option.isSome_iff_exists.mp (read?_chars_isSome number)
  rw [reread, found]
  rfl

theorem Rereads.reread_eq {number : Number} (rereads : number.Rereads) : number.reread = number := by
  rw [reread, rereads]
  rfl

end Number

end FilterRollout.Json
