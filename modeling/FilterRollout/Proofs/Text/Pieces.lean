import FilterRollout.Text.Blank
import FilterRollout.Text.Numeral
import FilterRollout.Text.Split
import Mathlib.Data.List.Basic
import Mathlib.Data.List.TakeWhile
import Mathlib.Data.Nat.Digits.Defs
import Mathlib.Tactic.Ring

/-! How texts come apart and what numerals are worth, without the functions that do it: pieces by where the separators
stand, a trimmed text by the blanks around it, and a row of digits by its value in base ten. -/

namespace FilterRollout.Text

section

variable {separator : Char}

/-- What stands before the first separator is the first piece, and what stands behind it is cut further. -/
theorem splitChars_eq_cons_iff {chars first : List Char} {others : List (List Char)} :
    splitChars separator chars = first :: others ↔ separator ∉ first ∧
      (chars = first ∧ others = [] ∨
        ∃ rest, chars = first ++ separator :: rest ∧ others = splitChars separator rest) := by
  constructor
  · intro cut
    by_cases parted : separator ∈ chars
    · obtain ⟨before, rest, rfl, absent⟩ := List.eq_append_cons_of_mem parted
      rw [splitChars_append absent] at cut
      obtain ⟨rfl, rfl⟩ := List.cons.inj cut
      exact ⟨absent, .inr ⟨rest, rfl, rfl⟩⟩
    · rw [splitChars_of_not_mem parted] at cut
      obtain ⟨rfl, rfl⟩ := List.cons.inj cut
      exact ⟨parted, .inl ⟨rfl, rfl⟩⟩
  · rintro ⟨absent, ⟨rfl, rfl⟩ | ⟨rest, rfl, rfl⟩⟩
    · exact splitChars_of_not_mem absent
    · exact splitChars_append absent rest

/-- What follows a piece: nothing, or the separator that ends the piece. -/
def Closes (separator : Char) (rest : List Char) : Prop := rest = [] ∨ rest.head? = some separator

theorem exists_splitChars_cons_iff {chars first : List Char} :
    (∃ others, splitChars separator chars = first :: others) ↔
      separator ∉ first ∧ ∃ rest, chars = first ++ rest ∧ Closes separator rest := by
  constructor
  · rintro ⟨others, cut⟩
    obtain ⟨absent, ⟨rfl, -⟩ | ⟨rest, rfl, -⟩⟩ := splitChars_eq_cons_iff.mp cut
    · exact ⟨absent, [], (List.append_nil _).symm, .inl rfl⟩
    · exact ⟨absent, separator :: rest, rfl, .inr rfl⟩
  · rintro ⟨absent, rest, rfl, rfl | closed⟩
    · exact ⟨[], splitChars_eq_cons_iff.mpr ⟨absent, .inl ⟨List.append_nil _, rfl⟩⟩⟩
    · obtain ⟨more, rfl⟩ := List.head?_eq_some_iff.mp closed
      exact ⟨_, splitChars_append absent more⟩

/-- The pieces on both sides of a separator are those of the whole. -/
theorem splitChars_append_cons (before after : List Char) :
    splitChars separator (before ++ separator :: after) =
      splitChars separator before ++ splitChars separator after := by
  induction before with
  | nil => simp [splitChars]
  | cons c rest ih =>
    by_cases parts : c = separator
    · simp [splitChars, parts, ih]
    · cases cut : splitChars separator rest with
      | nil => exact absurd cut (splitChars_ne_nil separator rest)
      | cons first others => simp [splitChars, parts, ih, cut]

/-- What stands behind the last separator. -/
theorem afterLast_append (before : List Char) {last : List Char} (absent : separator ∉ last) :
    afterLast separator (String.ofList (before ++ separator :: last)) = String.ofList last := by
  simp [afterLast, split, splitChars_append_cons, splitChars_of_not_mem absent]

theorem afterLast_of_not_mem {text : String} (absent : separator ∉ text.toList) : afterLast separator text = text := by
  simp [afterLast, split, splitChars_of_not_mem absent]

theorem cutChars?_of_not_mem {chars : List Char} (absent : separator ∉ chars) : cutChars? separator chars = none := by
  induction chars with
  | nil => rfl
  | cons c rest ih =>
    obtain ⟨different, later⟩ := List.ne_and_not_mem_of_not_mem_cons absent
    simp [cutChars?, Ne.symm different, ih later]

theorem cut?_of_toList {text before after : String} (whole : text.toList = before.toList ++ separator :: after.toList)
    (absent : separator ∉ before.toList) : cut? separator text = some (before, after) := by
  have differs : ∀ c ∈ before.toList, c ≠ separator := fun c member same => absent (same ▸ member)
  simp [cut?, whole, cutChars?_append differs]

theorem cut?_of_not_mem {text : String} (absent : separator ∉ text.toList) : cut? separator text = none := by
  rw [cut?, cutChars?_of_not_mem absent]
  rfl

theorem cut?_eq_some_iff {text before after : String} : cut? separator text = some (before, after) ↔
    text.toList = before.toList ++ separator :: after.toList ∧ separator ∉ before.toList := by
  constructor
  · intro cut
    by_cases parted : separator ∈ text.toList
    · obtain ⟨first, rest, whole, absent⟩ := List.eq_append_cons_of_mem parted
      have pieces : cut? separator text = some (String.ofList first, String.ofList rest) :=
        cut?_of_toList (by simpa using whole) (by simpa using absent)
      obtain ⟨rfl, rfl⟩ := Prod.mk.inj (Option.some.inj (cut.symm.trans pieces))
      simpa using ⟨whole, absent⟩
    · rw [cut?_of_not_mem parted] at cut
      cases cut
  · rintro ⟨whole, absent⟩
    exact cut?_of_toList whole absent

/-- What stands before the first separator, or all of a text without one. -/
def upTo (separator : Char) (text : String) : String := String.ofList (text.toList.takeWhile (· ≠ separator))

theorem takeWhile_ne_append {before : List Char} (absent : separator ∉ before) (rest : List Char) :
    (before ++ rest).takeWhile (· ≠ separator) = before ++ rest.takeWhile (· ≠ separator) :=
  List.takeWhile_append_of_pos fun _ member => decide_eq_true fun same => absent (same ▸ member)

theorem upTo_of_not_mem {text : String} (absent : separator ∉ text.toList) : upTo separator text = text := by
  have all := takeWhile_ne_append absent []
  rw [List.append_nil, List.takeWhile_nil, List.append_nil] at all
  rw [upTo, all, String.ofList_toList]

theorem elim_cut? (separator : Char) (text : String) :
    ((cut? separator text).elim text fun pieces => pieces.1) = upTo separator text := by
  by_cases parted : separator ∈ text.toList
  · obtain ⟨before, after, whole, absent⟩ := List.eq_append_cons_of_mem parted
    have pieces : cut? separator text = some (String.ofList before, String.ofList after) :=
      cut?_of_toList (by simpa using whole) (by simpa using absent)
    rw [pieces, upTo, whole, takeWhile_ne_append absent]
    simp
  · rw [cut?_of_not_mem parted, upTo_of_not_mem parted]
    rfl

/-- What is put behind a text shows in what stands before the first separator, unless the text has one itself. -/
theorem upTo_append_iff {text more : String} (begins : ∃ c ∈ more.toList.head?, c ≠ separator) :
    upTo separator (text ++ more) = upTo separator text ↔ separator ∈ text.toList := by
  obtain ⟨c, first, other⟩ := begins
  obtain ⟨rest, whole⟩ := List.head?_eq_some_iff.mp first
  constructor
  · intro same
    by_contra absent
    have longer := congrArg String.toList same
    rw [upTo_of_not_mem absent, upTo, String.toList_ofList, String.toList_append, takeWhile_ne_append absent,
      whole] at longer
    simp [other] at longer
  · intro parted
    obtain ⟨before, after, whole, absent⟩ := List.eq_append_cons_of_mem parted
    rw [upTo, upTo, String.toList_append, whole, List.append_assoc, takeWhile_ne_append absent,
      takeWhile_ne_append absent]
    simp

end

/-- A text without the blanks around it. -/
structure TrimmedFrom (whole core : List Char) : Prop where
  inside : ∃ before after, whole = before ++ core ++ after ∧ (∀ c ∈ before, isBlank c = true) ∧
    ∀ c ∈ after, isBlank c = true
  first : ∀ c ∈ core.head?, isBlank c = false
  last : ∀ c ∈ core.getLast?, isBlank c = false

/-- Dropping stops at the first character that is to stay. -/
theorem dropWhile_append_of_head {p : Char → Bool} {before rest : List Char} (inside : ∀ c ∈ before, p c = true)
    (stops : ∀ c ∈ rest.head?, p c = false) : (before ++ rest).dropWhile p = rest := by
  rw [List.dropWhile_append_of_pos inside]
  cases rest with
  | nil => rfl
  | cons c more => exact List.dropWhile_cons_of_neg (by simpa using stops c rfl)

theorem head?_dropWhile {p : Char → Bool} {chars : List Char} : ∀ c ∈ (chars.dropWhile p).head?, p c = false := by
  intro c first
  have stops := List.head?_dropWhile_not p chars
  rwa [Option.mem_def.mp first] at stops

theorem trimChars_of_trimmedFrom {whole core : List Char} (trimmed : TrimmedFrom whole core) :
    trimChars whole = core := by
  obtain ⟨⟨before, after, rfl, blankBefore, blankAfter⟩, first, last⟩ := trimmed
  by_cases empty : core = []
  · subst empty
    have blank : ∀ c ∈ before ++ [] ++ after, isBlank c = true := by
      simpa [or_imp, forall_and] using ⟨blankBefore, blankAfter⟩
    rw [trimChars, List.dropWhile_eq_nil_iff.mpr blank]
    rfl
  · have front : (before ++ core ++ after).dropWhile isBlank = core ++ after := by
      rw [List.append_assoc]
      refine dropWhile_append_of_head blankBefore fun c begins => first c ?_
      rwa [List.head?_append_of_ne_nil _ empty] at begins
    have back : (after.reverse ++ core.reverse).dropWhile isBlank = core.reverse := by
      refine dropWhile_append_of_head (fun c member => blankAfter c (List.mem_reverse.mp member)) fun c ends => ?_
      refine last c ?_
      rwa [List.head?_reverse] at ends
    rw [trimChars, front, List.reverse_append, back, List.reverse_reverse]

theorem trimmedFrom_trimChars (whole : List Char) : TrimmedFrom whole (trimChars whole) := by
  let front := whole.dropWhile isBlank
  have split : front = trimChars whole ++ (front.reverse.takeWhile isBlank).reverse := by
    rw [trimChars, ← List.reverse_append, List.takeWhile_append_dropWhile, List.reverse_reverse]
  refine ⟨⟨whole.takeWhile isBlank, (front.reverse.takeWhile isBlank).reverse, ?_, fun c => List.mem_takeWhile_imp,
    fun c member => List.mem_takeWhile_imp (List.mem_reverse.mp member)⟩, ?_, ?_⟩
  · rw [List.append_assoc, ← split, List.takeWhile_append_dropWhile]
  · intro c begins
    have here : c ∈ front.head? := by
      rw [split]
      exact List.mem_head?_append_of_mem_head? begins
    exact head?_dropWhile c here
  · intro c ends
    rw [trimChars, List.getLast?_reverse] at ends
    exact head?_dropWhile c ends

/-- A text is trimmed in one way. -/
theorem trimmedFrom_iff {whole core : List Char} : TrimmedFrom whole core ↔ trimChars whole = core :=
  ⟨trimChars_of_trimmedFrom, fun same => same ▸ trimmedFrom_trimChars whole⟩

/-- What a row of decimal digits is worth. -/
def decimalValue (digits : List Char) : Nat := Nat.ofDigits 10 (digits.reverse.map fun c => c.toNat - '0'.toNat)

theorem digitValue?_of_isDigit {c : Char} (digit : c.isDigit = true) : digitValue? c = some (c.toNat - '0'.toNat) := by
  have bounds : '0' ≤ c ∧ c ≤ '9' := by simpa [Char.isDigit, Char.le_def] using digit
  exact if_pos bounds

theorem digitsValue?_of_isDigit {digits : List Char} (decimal : ∀ c ∈ digits, c.isDigit = true) (value : Nat) :
    digitsValue? value digits = some (value * 10 ^ digits.length + decimalValue digits) := by
  induction digits generalizing value with
  | nil => simp [digitsValue?, decimalValue]
  | cons c rest ih =>
    have later := ih fun other member => decimal other (List.mem_cons_of_mem _ member)
    have worth : decimalValue (c :: rest) = decimalValue rest + 10 ^ rest.length * (c.toNat - '0'.toNat) := by
      simp [decimalValue, Nat.ofDigits_append]
    rw [digitsValue?, digitValue?_of_isDigit (decimal c List.mem_cons_self)]
    simp only [Option.bind_eq_bind, Option.bind_some, later, worth, List.length_cons, pow_succ]
    congr 1
    ring

/-- One or more digits are a numeral. -/
theorem numeral?_of_isDigit {digits : List Char} (some : digits ≠ []) (decimal : ∀ c ∈ digits, c.isDigit = true) :
    numeral? digits = .some (decimalValue digits) := by
  have worth := digitsValue?_of_isDigit decimal 0
  rw [Nat.zero_mul, Nat.zero_add] at worth
  rw [← worth]
  cases digits with
  | nil => exact absurd rfl some
  | cons c rest =>
    have plain : c ≠ '+' := by
      rintro rfl
      simpa using decimal '+' List.mem_cons_self
    unfold numeral?
    split
    · simp_all
    · simp_all
    · simp_all
    · rename_i same
      rw [same]

theorem isDigit_of_digitValue? {c : Char} {value : Nat} (read : digitValue? c = some value) : c.isDigit = true := by
  unfold digitValue? at read
  split at read
  · rename_i bounds
    simpa [Char.isDigit, Char.le_def] using bounds
  · cases read

theorem isDigit_of_digitsValue? {digits : List Char} {start value : Nat}
    (read : digitsValue? start digits = some value) : ∀ c ∈ digits, c.isDigit = true := by
  induction digits generalizing start with
  | nil => simp
  | cons c rest ih =>
    obtain ⟨digit, first, later⟩ := Option.bind_eq_some_iff.mp read
    exact List.forall_mem_cons.mpr ⟨isDigit_of_digitValue? first, ih later⟩

theorem digitsValue?_zero_eq_some_iff {digits : List Char} {value : Nat} :
    digitsValue? 0 digits = some value ↔ (∀ c ∈ digits, c.isDigit = true) ∧ decimalValue digits = value := by
  have worth (decimal : ∀ c ∈ digits, c.isDigit = true) : digitsValue? 0 digits = some (decimalValue digits) := by
    rw [digitsValue?_of_isDigit decimal, Nat.zero_mul, Nat.zero_add]
  constructor
  · intro read
    have decimal := isDigit_of_digitsValue? read
    exact ⟨decimal, Option.some.inj ((worth decimal).symm.trans read)⟩
  · rintro ⟨decimal, rfl⟩
    exact worth decimal

/-- A numeral is a row of one or more digits, possibly with a plus sign in front. -/
theorem numeral?_eq_some_iff {chars : List Char} {value : Nat} : numeral? chars = some value ↔
    ∃ digits, (chars = digits ∨ chars = '+' :: digits) ∧ digits ≠ [] ∧ (∀ c ∈ digits, c.isDigit = true) ∧
      decimalValue digits = value := by
  constructor
  · intro read
    unfold numeral? at read
    split at read
    · cases read
    · cases read
    · exact ⟨_, .inr rfl, List.cons_ne_nil _ _, digitsValue?_zero_eq_some_iff.mp read⟩
    · exact ⟨_, .inl rfl, List.cons_ne_nil _ _, digitsValue?_zero_eq_some_iff.mp read⟩
  · rintro ⟨digits, rfl | rfl, some, decimal, rfl⟩
    · exact numeral?_of_isDigit some decimal
    · cases digits with
      | nil => exact absurd rfl some
      | cons c rest => exact digitsValue?_zero_eq_some_iff.mpr ⟨decimal, rfl⟩

theorem numeralBelow?_eq_some_iff {bound value : Nat} {text : String} :
    numeralBelow? bound text = some value ↔ numeral? text.toList = some value ∧ value < bound := by
  simp [numeralBelow?, Option.filter_eq_some_iff]

end FilterRollout.Text
