import FilterRollout.Text.Lowercase
import Mathlib.Data.List.Forall2

/-! Texts that differ in the case of ASCII letters only, and what lower-casing has to do with them. Lower-casing ASCII
letters alone finds these texts. The full one finds the same, as long as the letter `k` is not involved: no other
lower-case letter of ASCII is the counterpart of a character beyond ASCII. -/

namespace FilterRollout.Text

/-- The same character, or the same ASCII letter in its other case. -/
def SameButCase (c d : Char) : Prop :=
  c = d ∨ c.isUpper = true ∧ d.toNat = c.toNat + 32 ∨ d.isUpper = true ∧ c.toNat = d.toNat + 32

/-- Texts of one length that differ in the case of ASCII letters only. -/
def CaseVariant (text token : String) : Prop := List.Forall₂ SameButCase text.toList token.toList

instance : DecidableRel SameButCase := fun _ _ => inferInstanceAs (Decidable (_ ∨ _))

instance (text token : String) : Decidable (CaseVariant text token) := inferInstanceAs (Decidable (List.Forall₂ _ _ _))

theorem isUpper_iff {c : Char} : c.isUpper = true ↔ 65 ≤ c.toNat ∧ c.toNat ≤ 90 := by
  have between : c.isUpper = decide (65 ≤ c.toNat ∧ c.toNat ≤ 90) := rfl
  simp [between]

theorem isLower_iff {c : Char} : c.isLower = true ↔ 97 ≤ c.toNat ∧ c.toNat ≤ 122 := by
  have between : c.isLower = (decide (97 ≤ c.toNat) && decide (c.toNat ≤ 122)) := rfl
  simp [between]

theorem ascii_of_isLower {c : Char} (lower : c.isLower = true) : c.toNat < 0x80 := by
  have bounds := isLower_iff.mp lower
  omega

theorem toLower_of_not_isUpper {c : Char} (plain : c.isUpper = false) : c.toLower = c := by
  exact dif_neg (of_decide_eq_false plain)

theorem toNat_toLower {c : Char} (upper : c.isUpper = true) : c.toLower.toNat = c.toNat + 32 := by
  have bounds := isUpper_iff.mp upper
  have lower : c.toLower = ⟨c.val + 32, _⟩ := dif_pos (of_decide_eq_true upper)
  have counted : c.toLower.toNat = (c.toNat + 32) % 2 ^ 32 := by
    rw [lower]
    rfl
  rw [counted, Nat.mod_eq_of_lt (by omega)]

/-- What is no upper-case letter is the lower-case form of all that differs from it in case only. -/
theorem sameButCase_iff_toLower {c d : Char} (plain : d.isUpper = false) : SameButCase c d ↔ c.toLower = d := by
  constructor
  · rintro (rfl | ⟨upper, above⟩ | ⟨upper, -⟩)
    · exact toLower_of_not_isUpper plain
    · exact Char.toNat_inj.mp ((toNat_toLower upper).trans above.symm)
    · simp [plain] at upper
  · rintro rfl
    cases upper : c.isUpper with
    | false => exact .inl (toLower_of_not_isUpper upper).symm
    | true => exact .inr (.inl ⟨upper, toNat_toLower upper⟩)

theorem SameButCase.ascii {c d : Char} (same : SameButCase c d) (ascii : d.toNat < 0x80) : c.toNat < 0x80 := by
  rcases same with rfl | ⟨upper, -⟩ | ⟨upper, below⟩
  · exact ascii
  · have bounds := isUpper_iff.mp upper
    omega
  · have bounds := isUpper_iff.mp upper
    omega

theorem CaseVariant.refl (text : String) : CaseVariant text text := List.forall₂_same.mpr fun _ _ => .inl rfl

/-- In a variant of an ASCII text all is ASCII. -/
theorem CaseVariant.ascii {text token : String} (variant : CaseVariant text token)
    (ascii : ∀ d ∈ token.toList, d.toNat < 0x80) : ∀ c ∈ text.toList, c.toNat < 0x80 := by
  unfold CaseVariant at variant
  generalize token.toList = letters at variant ascii
  generalize text.toList = chars at variant ⊢
  induction variant with
  | nil => simp
  | cons same _ ih =>
    obtain ⟨first, later⟩ := List.forall_mem_cons.mp ascii
    exact List.forall_mem_cons.mpr ⟨same.ascii first, ih later⟩

theorem asciiLowercase_eq_iff {text token : String} (plain : ∀ d ∈ token.toList, d.isUpper = false) :
    asciiLowercase text = token ↔ CaseVariant text token := by
  rw [asciiLowercase, CaseVariant, ← String.toList_inj, String.toList_ofList]
  generalize token.toList = letters at plain
  generalize text.toList = chars
  induction chars generalizing letters with
  | nil => cases letters <;> simp
  | cons c rest ih =>
    cases letters with
    | nil => simp
    | cons d more =>
      obtain ⟨first, later⟩ := List.forall_mem_cons.mp plain
      rw [List.map_cons, List.cons_eq_cons, List.forall₂_cons, sameButCase_iff_toLower first, ih more later]

/-- Of the counterparts in the table one lies in ASCII, that of the Kelvin sign. -/
theorem lower_of_mem_caseRuns : ∀ run ∈ caseRuns, 0x80 ≤ run.lower ∨ run.lower = 'k'.toNat ∧ run.last = run.first := by
  decide +kernel

theorem eq_of_lower? {run : CaseRun} {n lower : Nat} (found : run.lower? n = some lower) :
    n ≤ run.last ∧ lower = run.lower + (n - run.first) := by
  unfold CaseRun.lower? at found
  split at found
  · rename_i inside
    simp only [Bool.and_eq_true, decide_eq_true_eq] at inside
    exact ⟨inside.1.2, (Option.some.inj found).symm⟩
  · cases found

theorem beyond_or_k_of_findSome? {n lower : Nat} (found : caseRuns.findSome? (·.lower? n) = some lower) :
    0x80 ≤ lower ∨ lower = 'k'.toNat := by
  obtain ⟨run, member, here⟩ := List.exists_of_findSome?_eq_some found
  obtain ⟨bounded, rfl⟩ := eq_of_lower? here
  rcases lower_of_mem_caseRuns run member with far | ⟨kelvin, single⟩
  · exact .inl (Nat.le_add_right_of_le far)
  · right
    omega

theorem isLower_ofNat_of_beyond {n : Nat} (beyond : 0x80 ≤ n) : (Char.ofNat n).isLower = false := by
  refine Bool.eq_false_iff.mpr fun letter => ?_
  have bounds := isLower_iff.mp letter
  by_cases valid : n.isValidChar
  · have same : (Char.ofNat n).toNat = n := congrArg Char.toNat (dif_pos valid)
    omega
  · have none : Char.ofNat n = '\x00' := dif_neg valid
    simp [none] at bounds

/-- No character beyond ASCII has a lower-case letter of ASCII for its counterpart, the Kelvin sign apart. -/
theorem lowerChar_of_beyond {c : Char} (beyond : 0x80 ≤ c.toNat) (letter : (lowerChar c).isLower = true) :
    lowerChar c = 'k' := by
  rw [lowerChar, if_neg (by omega)] at letter ⊢
  split at letter
  · rename_i lower found
    rcases beyond_or_k_of_findSome? found with far | rfl
    · simp [isLower_ofNat_of_beyond far] at letter
    · exact Char.ofNat_toNat 'k'
  · have ascii := ascii_of_isLower letter
    omega

theorem lowerFrom_of_ascii {c : Char} (ascii : c.toNat < 0x80) (before rest : List Char) :
    lowerFrom before (c :: rest) = c.toLower :: lowerFrom (c :: before) rest := by
  have noSigma : c ≠ 'Σ' := by
    rintro rfl
    simp at ascii
  have noDotted : c ≠ '\u0130' := by
    rintro rfl
    simp at ascii
  simp [lowerFrom, noSigma, noDotted, lowerChar, ascii]

/-- What a character beyond ASCII becomes has in it a character that is no lower-case letter of ASCII, or a `k`. -/
theorem exists_mem_lowerFrom_of_beyond {c : Char} (beyond : 0x80 ≤ c.toNat) (before rest : List Char) :
    ∃ d ∈ lowerFrom before (c :: rest), d.isLower = true → d = 'k' := by
  unfold lowerFrom
  by_cases sigma : c = 'Σ'
  · by_cases final : (meetsCased before && !meetsCased rest) = true
    · exact ⟨'ς', by simp [sigma, final], by decide⟩
    · exact ⟨'σ', by simp [sigma, final], by decide⟩
  · by_cases dotted : c = '\u0130'
    · exact ⟨'\u0307', by simp [dotted], by decide⟩
    · exact ⟨lowerChar c, by simp [sigma, dotted], lowerChar_of_beyond beyond⟩

/-- Lower-case letters of ASCII other than `k` come from ASCII letters only, whatever precedes these. -/
theorem lowerFrom_eq_iff {letters : List Char} (plain : ∀ d ∈ letters, d.isLower = true ∧ d ≠ 'k')
    (before chars : List Char) : lowerFrom before chars = letters ↔ List.Forall₂ SameButCase chars letters := by
  induction chars generalizing before letters with
  | nil => cases letters <;> simp [lowerFrom]
  | cons c rest ih =>
    by_cases beyond : 0x80 ≤ c.toNat
    -- Neither side is so: the lower case shows the character, and no variant of the letters has it.
    · constructor
      · rintro rfl
        obtain ⟨d, member, only⟩ := exists_mem_lowerFrom_of_beyond beyond before rest
        obtain ⟨lower, other⟩ := plain d member
        exact absurd (only lower) other
      · intro variant
        cases variant with
        | cons same _ =>
          have ascii := same.ascii (ascii_of_isLower (plain _ List.mem_cons_self).1)
          omega
    · rw [lowerFrom_of_ascii (by omega)]
      cases letters with
      | nil => simp
      | cons d more =>
        obtain ⟨first, later⟩ := List.forall_mem_cons.mp plain
        have noUpper : d.isUpper = false := by
          refine Bool.eq_false_iff.mpr fun upper => ?_
          have above := isUpper_iff.mp upper
          have below := isLower_iff.mp first.1
          omega
        rw [List.cons_eq_cons, List.forall₂_cons, sameButCase_iff_toLower noUpper, ih later]

theorem lowercase_eq_iff {text token : String} (plain : ∀ d ∈ token.toList, d.isLower = true ∧ d ≠ 'k') :
    lowercase text = token ↔ CaseVariant text token := by
  rw [lowercase, ← String.toList_inj, String.toList_ofList]
  exact lowerFrom_eq_iff plain [] text.toList

-- With a `k` in the token it is not so: this is the Kelvin sign.
example : lowercase "\u212A" = "k" ∧ ¬ CaseVariant "\u212A" "k" := by decide +kernel

end FilterRollout.Text
