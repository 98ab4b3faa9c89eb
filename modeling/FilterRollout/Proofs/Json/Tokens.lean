import FilterRollout.Json.Printer
import FilterRollout.Json.Reader

/-! The tokens of JSON texts are read as they are printed: strings always, and numbers if they are integers. What
follows a token is left alone. -/

namespace FilterRollout.Json

/-- The unit as which a character of a printed string is read. -/
def printedUnit (c : Char) : StringUnit :=
  if c.toNat < 0x20 ∧ c ∉ ['\x08', '\x0c', '\n', '\r', '\t'] then .escaped c.toNat else .char c

theorem hexValue?_hexPair {n : Nat} (small : n < 0x20) :
    Text.hexValue? (Nat.digitChar (n / 16)) = some (n / 16) ∧
      Text.hexValue? (Nat.digitChar (n % 16)) = some (n % 16) := by
  have every : ∀ n : Fin 0x20, Text.hexValue? (Nat.digitChar (n / 16)) = some (n.val / 16) ∧
      Text.hexValue? (Nat.digitChar (n % 16)) = some (n.val % 16) := by decide
  exact every ⟨n, small⟩

theorem readUnits?_short {letter c : Char} (short : shortEscape? letter = some c) (more : List Char) :
    readUnits? ('\\' :: letter :: more) = (readUnits? more).map fun read => (.char c :: read.1, read.2) := by
  have other : letter ≠ 'u' := by
    rintro rfl
    simp [shortEscape?] at short
  cases read : readUnits? more <;> simp [readUnits?, short, other, read]

theorem readUnits?_control {c : Char} (control : c.toNat < 0x20) (more : List Char) :
    readUnits? (['\\', 'u', '0', '0'] ++ hexPair c.toNat ++ more) =
      (readUnits? more).map fun read => (.escaped c.toNat :: read.1, read.2) := by
  obtain ⟨high, low⟩ := hexValue?_hexPair control
  have zero : Text.hexValue? '0' = some 0 := by decide
  have value : c.toNat / 16 * 16 + c.toNat % 16 = c.toNat := Nat.div_add_mod' _ _
  cases read : readUnits? more <;> simp [readUnits?, hexPair, high, low, zero, value, read]

theorem readUnits?_raw {c : Char} (quote : c ≠ '"') (backslash : c ≠ '\\') (printable : ¬ c.toNat < 0x20)
    (more : List Char) :
    readUnits? (c :: more) = (readUnits? more).map fun read => (.char c :: read.1, read.2) := by
  cases read : readUnits? more <;> simp [readUnits?, backslash, printable, read]

/-- A character is printed by a short escape, by its number, or as it is. -/
theorem stringChar_cases (c : Char) :
    (∃ letter, stringChar c = ['\\', letter] ∧ shortEscape? letter = some c ∧ printedUnit c = .char c) ∨
    (stringChar c = ['\\', 'u', '0', '0'] ++ hexPair c.toNat ∧ c.toNat < 0x20 ∧ printedUnit c = .escaped c.toNat) ∨
    (stringChar c = [c] ∧ c ≠ '"' ∧ c ≠ '\\' ∧ ¬ c.toNat < 0x20 ∧ printedUnit c = .char c) := by
  by_cases short : c ∈ ['"', '\\', '\x08', '\x0c', '\n', '\r', '\t']
  · left
    simp only [List.mem_cons, List.not_mem_nil, or_false] at short
    rcases short with rfl | rfl | rfl | rfl | rfl | rfl | rfl <;>
      exact ⟨_, rfl, rfl, rfl⟩
  · simp only [List.mem_cons, List.not_mem_nil, or_false, not_or] at short
    right
    by_cases control : c.toNat < 0x20
    · exact .inl ⟨by simp [stringChar, short, control], control, by simp [printedUnit, short, control]⟩
    · exact .inr ⟨by simp [stringChar, short, control], short.1, short.2.1, control, by simp [printedUnit, control]⟩

/-- A printed character is read as one unit. -/
theorem readUnits?_stringChar (c : Char) (more : List Char) :
    readUnits? (stringChar c ++ more) =
      (readUnits? more).map fun read => (printedUnit c :: read.1, read.2) := by
  rcases stringChar_cases c with ⟨letter, printed, short, unit⟩ | ⟨printed, control, unit⟩ |
      ⟨printed, quote, backslash, printable, unit⟩
  · rw [printed, unit]
    exact readUnits?_short short more
  · rw [printed, unit]
    exact readUnits?_control control more
  · rw [printed, unit]
    exact readUnits?_raw quote backslash printable more

theorem readUnits?_flatMap_stringChar (text rest : List Char) :
    readUnits? (text.flatMap stringChar ++ '"' :: rest) = some (text.map printedUnit, rest) := by
  induction text with
  | nil => rfl
  | cons c text ih =>
    rw [List.flatMap_cons, List.append_assoc, readUnits?_stringChar, ih]
    rfl

theorem joinUnits?_printedUnit (c : Char) (units : List StringUnit) :
    joinUnits? (printedUnit c :: units) = (joinUnits? units).map (c :: ·) := by
  unfold printedUnit
  split
  · rename_i control
    have high : isHighSurrogate c.toNat = false := by
      simp only [isHighSurrogate, Bool.and_eq_false_imp, decide_eq_true_eq]
      omega
    have low : isLowSurrogate c.toNat = false := by
      simp only [isLowSurrogate, Bool.and_eq_false_imp, decide_eq_true_eq]
      omega
    have same : Char.ofNat c.toNat = c := Char.ofNat_toNat c
    cases units with
    | nil => simp [joinUnits?, high, low, same]
    | cons next units => cases next <;> simp [joinUnits?, high, low, same]
  · rfl

theorem joinUnits?_map_printedUnit (text : List Char) : joinUnits? (text.map printedUnit) = some text := by
  induction text with
  | nil => rfl
  | cons c text ih => rw [List.map_cons, joinUnits?_printedUnit, ih, Option.map_some]

/-- A printed string is read as it is, after its opening quote. -/
theorem readString?_printed (text : String) (rest : List Char) :
    readString? (text.toList.flatMap stringChar ++ '"' :: rest) = some (some text, rest) := by
  simp [readString?, readUnits?_flatMap_stringChar, joinUnits?_map_printedUnit]

/-- What may follow a number in a printed text: nothing, a comma or a closing bracket. -/
def Delimited (rest : List Char) : Prop := ∀ c ∈ rest.head?, c = ',' ∨ c = ']' ∨ c = '\x7d'

theorem Delimited.not_digit {c : Char} {rest : List Char} (delimited : Delimited (c :: rest)) :
    Text.digitValue? c = none ∧ c ≠ '.' ∧ c ≠ 'e' ∧ c ≠ 'E' := by
  rcases delimited c rfl with rfl | rfl | rfl <;> decide

theorem spanDigits_append {rest : List Char} (chars : List Char) (delimited : Delimited rest) :
    spanDigits (chars ++ rest) = ((spanDigits chars).1, (spanDigits chars).2 ++ rest) := by
  induction chars with
  | nil =>
    cases rest with
    | nil => rfl
    | cons c rest => simp [spanDigits, delimited.not_digit]
  | cons c chars ih =>
    simp only [List.cons_append, spanDigits]
    cases Text.digitValue? c with
    | none => rfl
    | some digit => simp [ih]

theorem readWhole?_iff {chars after : List Char} {digits : List Nat} :
    readWhole? chars = some (digits, after) ↔
      spanDigits chars = (digits, after) ∧ digits ≠ [] ∧ ∀ second more, digits ≠ 0 :: second :: more := by
  unfold readWhole?
  cases read : spanDigits chars with
  | mk found left =>
    have accepted (proper : found ≠ [] ∧ ∀ second more, found ≠ 0 :: second :: more) :
        some (found, left) = some (digits, after) ↔
          (found, left) = (digits, after) ∧ digits ≠ [] ∧ ∀ second more, digits ≠ 0 :: second :: more := by
      constructor
      · intro success
        cases success
        exact ⟨rfl, proper⟩
      · rintro ⟨same, -⟩
        rw [same]
    rcases found with _ | ⟨_ | first, _ | ⟨second, more⟩⟩
    · refine iff_of_false (by simp) ?_
      rintro ⟨same, filled, -⟩
      cases same
      exact filled rfl
    · exact accepted ⟨by simp, by simp⟩
    · refine iff_of_false (by simp) ?_
      rintro ⟨same, -, single⟩
      cases same
      exact single second more rfl
    · exact accepted ⟨by simp, by simp⟩
    · exact accepted ⟨by simp, by simp⟩

theorem readWhole?_append {chars rest after : List Char} {digits : List Nat}
    (success : readWhole? chars = some (digits, after)) (delimited : Delimited rest) :
    readWhole? (chars ++ rest) = some (digits, after ++ rest) := by
  obtain ⟨read, proper⟩ := readWhole?_iff.mp success
  exact readWhole?_iff.mpr ⟨by rw [spanDigits_append chars delimited, read], proper⟩

theorem readFraction?_append {chars rest after : List Char} {fraction : Option (List Nat)}
    (success : readFraction? chars = some (fraction, after)) (delimited : Delimited rest) :
    readFraction? (chars ++ rest) = some (fraction, after ++ rest) := by
  cases chars with
  | nil =>
    cases success
    cases rest with
    | nil => rfl
    | cons c rest => simp [readFraction?, delimited.not_digit]
  | cons c chars =>
    by_cases point : c = '.'
    · subst point
      simp only [List.cons_append, readFraction?, spanDigits_append chars delimited] at success ⊢
      cases read : spanDigits chars with
      | mk found left =>
        rw [read] at success
        cases found with
        | nil => cases success
        | cons digit digits =>
          cases success
          rfl
    · simp [readFraction?, point] at success ⊢
      obtain ⟨rfl, rfl⟩ := success
      simp

theorem readSign_append {chars : List Char} (filled : chars ≠ []) (rest : List Char) :
    readSign (chars ++ rest) = ((readSign chars).1, (readSign chars).2 ++ rest) := by
  cases chars with
  | nil => exact absurd rfl filled
  | cons c chars =>
    by_cases plus : c = '+'
    · subst plus
      rfl
    · by_cases minus : c = '-'
      · subst minus
        rfl
      · simp [readSign, plus, minus]

theorem readExponent?_append {chars rest after : List Char} {exponent : Option Int}
    (success : readExponent? chars = some (exponent, after)) (delimited : Delimited rest) :
    readExponent? (chars ++ rest) = some (exponent, after ++ rest) := by
  cases chars with
  | nil =>
    cases success
    cases rest with
    | nil => rfl
    | cons c rest => simp [readExponent?, delimited.not_digit]
  | cons c chars =>
    simp only [List.cons_append, readExponent?] at success ⊢
    split at success
    · rename_i letter
      have filled : chars ≠ [] := by
        rintro rfl
        simp [readSign, spanDigits] at success
      rw [if_pos letter, readSign_append filled]
      simp only [spanDigits_append _ delimited]
      cases read : spanDigits (readSign chars).2 with
      | mk found left =>
        simp only [read] at success
        cases found with
        | nil => cases success
        | cons digit digits =>
          cases success
          rfl
    · rename_i letter
      rw [if_neg letter]
      cases success
      rfl

theorem readLiteral?_append {negative : Bool} {chars rest after : List Char} {literal : Literal}
    (success : readLiteral? negative chars = some (literal, after)) (delimited : Delimited rest) :
    readLiteral? negative (chars ++ rest) = some (literal, after ++ rest) := by
  simp only [readLiteral?, Option.bind_eq_bind, Option.bind_eq_some_iff] at success
  obtain ⟨⟨whole, first⟩, readWhole, ⟨fraction, second⟩, readFraction, ⟨exponent, third⟩, readExponent, ended⟩ :=
    success
  cases ended
  simp [readLiteral?, readWhole?_append readWhole delimited, readFraction?_append readFraction delimited,
    readExponent?_append readExponent delimited]

/-- The number that is all of a text after its sign. -/
def unsigned? (negative : Bool) (chars : List Char) : Option Number :=
  match readLiteral? negative chars with
  | some (literal, []) => Number.ofLiteral? literal
  | _ => none

/-- A number is read the same whatever follows it. -/
theorem readNumber?_of_unsigned? {negative : Bool} {chars rest : List Char} {number : Number}
    (success : unsigned? negative chars = some number) (delimited : Delimited rest) :
    readNumber? negative (chars ++ rest) = some (.number number, rest) := by
  unfold unsigned? at success
  split at success
  · rename_i literal read
    have longer := readLiteral?_append read delimited
    rw [List.nil_append] at longer
    simp [readNumber?, longer, success]
  · cases success

theorem digitValue?_of_unsigned? {negative : Bool} {chars : List Char} {number : Number}
    (success : unsigned? negative chars = some number) :
    ∃ c more digit, chars = c :: more ∧ Text.digitValue? c = some digit := by
  unfold unsigned? at success
  split at success
  · rename_i literal read
    simp only [readLiteral?, Option.bind_eq_bind, Option.bind_eq_some_iff] at read
    obtain ⟨⟨whole, after⟩, readWhole, -⟩ := read
    obtain ⟨span, filled, -⟩ := readWhole?_iff.mp readWhole
    cases chars with
    | nil =>
      cases span
      exact absurd rfl filled
    | cons c more =>
      simp only [spanDigits] at span
      cases value : Text.digitValue? c with
      | none =>
        rw [value] at span
        cases span
        exact absurd rfl filled
      | some digit => exact ⟨c, more, digit, rfl, value⟩
  · cases success

namespace Number

/-- The number that is all of a text. -/
def read? : List Char → Option Number
  | '-' :: rest => unsigned? true rest
  | chars => unsigned? false chars

/-- A number that is read as it is printed. Whether a double is depends on how it is rounded. -/
def Rereads (number : Number) : Prop := read? number.chars = some number

instance (number : Number) : Decidable number.Rereads :=
  inferInstanceAs (Decidable (read? number.chars = some number))

/-- The number that digits stand for, if those before them have the value `value`. -/
def digitsValue (value : Nat) (digits : List Nat) : Nat := digits.foldl (fun value digit => value * 10 + digit) value

theorem le_digitsValue (value : Nat) (digits : List Nat) : value ≤ digitsValue value digits := by
  induction digits generalizing value with
  | nil => exact Nat.le_refl value
  | cons digit digits ih =>
    have step : value ≤ value * 10 + digit := by omega
    exact Nat.le_trans step (ih _)

/-- Digits whose number fits a word are all taken. -/
theorem takeDigits_of_lt {value : Nat} {digits : List Nat} (bounded : digitsValue value digits < Word.count64) :
    takeDigits value digits = (digitsValue value digits, []) := by
  induction digits generalizing value with
  | nil => rfl
  | cons digit digits ih =>
    have first : value * 10 + digit < Word.count64 := Nat.lt_of_le_of_lt (le_digitsValue _ digits) bounded
    rw [takeDigits, if_pos first]
    exact ih bounded

end Number

theorem digitValue?_digitChar {n : Nat} (small : n < 10) : Text.digitValue? (Nat.digitChar n) = some n := by
  have every : ∀ n : Fin 10, Text.digitValue? (Nat.digitChar n) = some n.val := by decide
  exact every ⟨n, small⟩

theorem spanDigits_append_of_all {chars : List Char} {digits : List Nat} (all : spanDigits chars = (digits, []))
    (more : List Char) : spanDigits (chars ++ more) = (digits ++ (spanDigits more).1, (spanDigits more).2) := by
  induction chars generalizing digits with
  | nil =>
    cases all
    rfl
  | cons c chars ih =>
    simp only [List.cons_append, spanDigits] at all ⊢
    cases value : Text.digitValue? c with
    | none =>
      rw [value] at all
      cases all
    | some digit =>
      simp only [value] at all
      obtain ⟨rfl, left⟩ := Prod.mk.inj all
      simp [ih (Prod.ext rfl left)]

/-- The printed digits of a natural number: the first of several is not zero, and they stand for the number. -/
theorem spanDigits_toDigits (n : Nat) :
    ∃ digits, spanDigits (Nat.toDigits 10 n) = (digits, []) ∧ digits ≠ [] ∧
      (∀ second more, digits ≠ 0 :: second :: more) ∧ (0 < n → ∀ more, digits ≠ 0 :: more) ∧
      Number.digitsValue 0 digits = n := by
  induction n using Nat.strongRecOn with
  | ind n ih =>
    by_cases small : n < 10
    · refine ⟨[n], ?_, by simp, by simp, ?_, Nat.zero_add n⟩
      · rw [Nat.toDigits_of_lt_base small]
        simp [spanDigits, digitValue?_digitChar small]
      · rintro positive more same
        cases same
        exact absurd positive (Nat.lt_irrefl 0)
    · have large : 10 ≤ n := Nat.le_of_not_lt small
      obtain ⟨digits, span, filled, -, leading, value⟩ := ih (n / 10) (by omega)
      have nonzero : ∀ more, digits ++ [n % 10] ≠ 0 :: more := by
        intro more same
        obtain ⟨first, others, rfl⟩ := List.exists_cons_of_ne_nil filled
        obtain ⟨zero, -⟩ := List.cons.inj same
        exact leading (by omega) others (by rw [zero])
      refine ⟨digits ++ [n % 10], ?_, by simp, fun second more => nonzero _, fun _ => nonzero, ?_⟩
      · rw [Nat.toDigits_of_base_le (by decide) large, spanDigits_append_of_all span]
        simp [spanDigits, digitValue?_digitChar (Nat.mod_lt n (by decide))]
      · unfold Number.digitsValue at value ⊢
        rw [List.foldl_append, value]
        exact Nat.div_add_mod' n 10

theorem unsigned?_toDigits (negative : Bool) {n : Nat} (bounded : n < Word.count64) :
    unsigned? negative (Nat.toDigits 10 n) = Number.ofInteger? negative n := by
  obtain ⟨digits, span, filled, single, -, value⟩ := spanDigits_toDigits n
  have whole : readWhole? (Nat.toDigits 10 n) = some (digits, []) := readWhole?_iff.mpr ⟨span, filled, single⟩
  have literal : readLiteral? negative (Nat.toDigits 10 n) = some (⟨negative, digits, none, none⟩, []) := by
    simp [readLiteral?, whole, readFraction?, readExponent?]
  have taken := Number.takeDigits_of_lt (value.symm ▸ bounded)
  rw [value] at taken
  simp [unsigned?, literal, Number.ofLiteral?, taken]

namespace Number

theorem read?_of_unsigned? {chars : List Char} {number : Number} (success : unsigned? false chars = some number) :
    read? chars = some number := by
  obtain ⟨c, more, digit, rfl, value⟩ := digitValue?_of_unsigned? success
  have other : c ≠ '-' := by
    rintro rfl
    simp [Text.digitValue?] at value
  simpa [read?, other] using success

/-- Integers are read as they are printed. -/
theorem rereads_integer (value : Int) (inWord : -(Word.half64 : Int) ≤ value ∧ value < Word.count64) :
    (integer value inWord).Rereads := by
  unfold Rereads
  by_cases negative : value < 0
  · have bounded : 0 < value.natAbs ∧ value.natAbs ≤ Word.half64 := by omega
    have same : -(value.natAbs : Int) = value := by omega
    have printed : (integer value inWord).chars = '-' :: Nat.toDigits 10 value.natAbs := by simp [chars, negative]
    rw [printed]
    change unsigned? true (Nat.toDigits 10 value.natAbs) = _
    rw [unsigned?_toDigits true (by unfold Word.half64 Word.count64 at *; omega)]
    simp only [ofInteger?, if_true, dif_pos bounded, same]
  · have bounded : value.natAbs < Word.count64 := by omega
    have same : (value.natAbs : Int) = value := by omega
    have printed : (integer value inWord).chars = Nat.toDigits 10 value.natAbs := by simp [chars, negative]
    rw [printed]
    refine read?_of_unsigned? ?_
    rw [unsigned?_toDigits false bounded]
    simp only [ofInteger?, Bool.false_eq_true, if_false, dif_pos bounded, same]

/-- A number that is all of a text is read so in front of what may follow it. -/
theorem readNumber?_of_read? {chars rest : List Char} {number : Number} (success : read? chars = some number)
    (delimited : Delimited rest) :
    (∃ more, chars = '-' :: more ∧ Json.readNumber? true (more ++ rest) = some (.number number, rest)) ∨
      ∃ c more digit, chars = c :: more ∧ Text.digitValue? c = some digit ∧
        Json.readNumber? false (c :: (more ++ rest)) = some (.number number, rest) := by
  cases chars with
  | nil => cases success
  | cons first more =>
    by_cases sign : first = '-'
    · subst sign
      exact .inl ⟨more, rfl, readNumber?_of_unsigned? success delimited⟩
    · have read : unsigned? false (first :: more) = some number := by simpa [read?, sign] using success
      obtain ⟨c, others, digit, same, value⟩ := digitValue?_of_unsigned? read
      cases same
      exact .inr ⟨first, more, digit, rfl, value, readNumber?_of_unsigned? read delimited⟩

end Number

end FilterRollout.Json
