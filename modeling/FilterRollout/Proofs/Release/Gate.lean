import FilterRollout.Proofs.Text.Pieces
import FilterRollout.Release.AbiSupport
import Mathlib.Data.List.Induction

/-! The gate for filter images and the choice of a configuration schema, which look at one version. Each takes it apart
for itself: the gate by the texts of its first two components, the schema by the number in the second one. Main
statement: `abiGate_agrees`. -/

namespace FilterRollout

/-- A version names a release line if without the blanks around it, and then without the `v`s that it begins with, two
components stand in front, neither of them empty, with a point between them and another one behind them unless that is
the end. -/
inductive NamesLine (version : String) : (major minor : String) → Prop
  | intro {major minor : String} {marks : Nat} {core rest : List Char}
      (trimmed : Text.TrimmedFrom version.toList (List.replicate marks 'v' ++ core))
      (unmarked : core.head? ≠ some 'v')
      (begins : core = major.toList ++ '.' :: (minor.toList ++ rest)) (closed : Text.Closes '.' rest)
      (hasMajor : major ≠ "") (hasMinor : minor ≠ "")
      (majorWhole : '.' ∉ major.toList) (minorWhole : '.' ∉ minor.toList) : NamesLine version major minor

namespace ConfigSchema

/-- What is left of a trimmed text without the `v`s in front. -/
theorem dropWhile_marks_iff {text core : List Char} :
    text.dropWhile (· == 'v') = core ↔ core.head? ≠ some 'v' ∧ ∃ marks, text = List.replicate marks 'v' ++ core := by
  constructor
  · rintro rfl
    refine ⟨fun marked => ?_, (text.takeWhile (· == 'v')).length, ?_⟩
    · simpa using Text.head?_dropWhile (p := (· == 'v')) 'v' marked
    · have only : text.takeWhile (· == 'v') = List.replicate (text.takeWhile (· == 'v')).length 'v' :=
        List.eq_replicate_iff.mpr ⟨rfl, fun c member => by simpa using List.mem_takeWhile_imp member⟩
      rw [← only, List.takeWhile_append_dropWhile]
  · rintro ⟨unmarked, marks, rfl⟩
    refine Text.dropWhile_append_of_head (fun c member => by simp [List.eq_of_mem_replicate member]) fun c first => ?_
    refine beq_false_of_ne fun same => unmarked ?_
    rw [← same]
    exact first

/-- The first two components of a version are those of the line that it names, and no version without a first or second
component names a line. -/
theorem namesLine_iff {version major minor : String} : NamesLine version major minor ↔
    major ≠ "" ∧ minor ≠ "" ∧ ∃ others, components version = major :: minor :: others := by
  constructor
  · rintro ⟨trimmed, unmarked, rfl, closed, hasMajor, hasMinor, majorWhole, minorWhole⟩
    obtain ⟨others, cut⟩ := Text.exists_splitChars_cons_iff.mpr ⟨minorWhole, _, rfl, closed⟩
    refine ⟨hasMajor, hasMinor, others.map String.ofList, ?_⟩
    rw [components, Text.trimmedFrom_iff.mp trimmed, dropWhile_marks_iff.mpr ⟨unmarked, _, rfl⟩,
      Text.splitChars_append majorWhole, cut]
    simp
  · rintro ⟨hasMajor, hasMinor, others, cut⟩
    obtain ⟨unmarked, marks, trimmed⟩ := dropWhile_marks_iff.mp
      (rfl : (Text.trimChars version.toList).dropWhile (· == 'v') = _)
    obtain ⟨first, later, pieces, rfl, second⟩ := List.map_eq_cons_iff.mp cut
    obtain ⟨next, last, rfl, rfl, -⟩ := List.map_eq_cons_iff.mp second
    obtain ⟨majorWhole, ⟨-, alone⟩ | ⟨behind, begins, others⟩⟩ := Text.splitChars_eq_cons_iff.mp pieces
    · cases alone
    · obtain ⟨minorWhole, rest, rfl, closed⟩ := Text.exists_splitChars_cons_iff.mp ⟨_, others.symm⟩
      refine .intro (Text.trimmedFrom_iff.mpr trimmed) unmarked ?_ closed hasMajor hasMinor ?_ ?_
      · simpa using begins
      · simpa using majorWhole
      · simpa using minorWhole

/-- The minor number of a version, by which the schema is chosen if it can be read. -/
def minorNumber? (version : String) : Option Nat :=
  (components version)[1]?.bind (Text.numeralBelow? Word.count32)

theorem ofVersion_eq (version : String) : ofVersion version =
    match minorNumber? version with
    | some minor => if minor < typedMinor then legacy else typed
    | none => typed := rfl

theorem ofVersion_of_minorNumber? {version : String} {number : Nat} (read : minorNumber? version = some number) :
    ofVersion version = .legacy ↔ number < typedMinor := by
  have chosen : ofVersion version = if number < typedMinor then legacy else typed := by
    rw [ofVersion_eq, read]
  rw [chosen]
  split <;> simp [*]

theorem ofVersion_of_unreadable {version : String} (unread : minorNumber? version = none) :
    ofVersion version = .typed := by
  rw [ofVersion_eq, unread]

/-- A minor component of digits is read as its number, unless that takes more than a machine word. -/
theorem minorNumber?_of_namesLine {version major minor : String} (named : NamesLine version major minor)
    (digits : ∀ c ∈ minor.toList, c.isDigit = true) :
    minorNumber? version =
      if Text.decimalValue minor.toList < Word.count32 then some (Text.decimalValue minor.toList) else none := by
  obtain ⟨-, hasMinor, others, cut⟩ := namesLine_iff.mp named
  have some : minor.toList ≠ [] := fun empty => hasMinor (String.toList_eq_nil_iff.mp empty)
  rw [minorNumber?, cut]
  simp [Text.numeralBelow?, Text.numeral?_of_isDigit some digits, Option.filter]

/-- However long the minor component, the schema goes by its number. -/
theorem ofVersion_of_namesLine {version major minor : String} (named : NamesLine version major minor)
    (digits : ∀ c ∈ minor.toList, c.isDigit = true) :
    ofVersion version = .legacy ↔ Text.decimalValue minor.toList < 7 := by
  have read := minorNumber?_of_namesLine named digits
  split at read
  · exact ofVersion_of_minorNumber? read
  · rename_i large
    have more : ¬ Text.decimalValue minor.toList < 7 := fun small =>
      large (Nat.lt_trans small (by decide))
    rw [ofVersion_of_unreadable read]
    simp [more]

end ConfigSchema

namespace AbiSupport

/-- The support that is known from the start with further lines, added one after another. -/
def extended (additions : List (String × List String)) : AbiSupport :=
  additions.foldl (fun support addition => support.withLine addition.1 addition.2) known

/-- What a line supports: what the last addition of the line says, and what is known from the start if there is none. -/
def registered? (additions : List (String × List String)) (line : String) : Option (List String) :=
  ((additions.reverse.find? fun addition => addition.1 = line).map (·.2)).or (known.lines.get? line)

theorem get?_lines_extended (additions : List (String × List String)) (line : String) :
    (extended additions).lines.get? line = registered? additions line := by
  induction additions using List.reverseRecOn with
  | nil => rfl
  | append_singleton additions addition ih =>
    have added : (extended (additions ++ [addition])).lines =
        (extended additions).lines.insert addition.1 addition.2 := by simp [extended, withLine]
    rw [added, SortedMap.get?_insert, ih, registered?, registered?, List.reverse_append, List.reverse_singleton,
      List.singleton_append, List.find?_cons]
    split <;> simp [*]

theorem line?_eq_some_iff {version line : String} :
    line? version = some line ↔ ∃ major minor, NamesLine version major minor ∧ line = s!"{major}.{minor}" := by
  simp only [ConfigSchema.namesLine_iff, line?]
  constructor
  · intro found
    split at found
    · rename_i major minor others cut
      split at found
      · cases found
      · rename_i some
        simp only [Bool.or_eq_true, decide_eq_true_eq, not_or] at some
        obtain ⟨hasMajor, hasMinor⟩ := some
        exact ⟨major, minor, ⟨hasMajor, hasMinor, others, cut⟩, (Option.some.inj found).symm⟩
    · cases found
  · rintro ⟨major, minor, ⟨hasMajor, hasMinor, others, cut⟩, rfl⟩
    simp [cut, hasMajor, hasMinor]

theorem validate_ok_iff {support : AbiSupport} {abiVersions : List String} {version : String} :
    support.validate abiVersions version = .ok () ↔ ∃ line supported, line? version = some line ∧
      support.lines.get? line = some supported ∧ ∃ abi ∈ abiVersions, abi ∈ supported := by
  unfold validate
  cases line? version with
  | none => simp [invalid]
  | some line =>
    cases registered : support.lines.get? line with
    | none => simp [registered]
    | some supported => simp [registered]

/-- The lines that are known from the start have minor numbers, and those before 1.7 are two. -/
theorem minor_of_known : ∀ line ∈ known.lines.keys,
    ∃ number ∈ (Text.split '.' line)[1]?.bind (Text.numeralBelow? Word.count32),
      number < ConfigSchema.typedMinor ↔ line = "1.5" ∨ line = "1.6" := by
  have keys : known.lines.keys = ["1.5", "1.6", "1.7", "1.8", "1.9"] := by decide +kernel
  simp only [keys, List.forall_mem_cons]
  refine ⟨⟨5, ?_⟩, ⟨6, ?_⟩, ⟨7, ?_⟩, ⟨8, ?_⟩, ⟨9, ?_⟩, by simp⟩ <;> decide +kernel

theorem minorNumber?_of_line {version major minor : String} (named : NamesLine version major minor) :
    ConfigSchema.minorNumber? version =
      (Text.split '.' s!"{major}.{minor}")[1]?.bind (Text.numeralBelow? Word.count32) := by
  obtain ⟨-, -, others, cut⟩ := ConfigSchema.namesLine_iff.mp named
  obtain ⟨-, -, -, -, -, -, majorWhole, minorWhole⟩ := named
  have text : s!"{major}.{minor}".toList = major.toList ++ '.' :: minor.toList := by
    simp [toString, String.toList_append]
  have pieces : Text.split '.' s!"{major}.{minor}" = [major, minor] := by
    simp [Text.split, text, Text.splitChars_append majorWhole, Text.splitChars_of_not_mem minorWhole]
  rw [ConfigSchema.minorNumber?, cut, pieces]
  rfl

end AbiSupport

/-- An image that names interface versions passes the gate exactly if the version names a registered line that supports
one of them, and is incompatible with the version otherwise. The schema for the version goes by the number of the minor
component, however it is spelled. Whatever passes with the lines that are known from the start has such a number, which
tells the lines 1.5 and 1.6 from the others. -/
theorem abiGate_agrees (additions : List (String × List String)) (image version : String) {abiVersions : List String}
    (listed : abiVersions ≠ []) :
    let verdict := abiGate (.extended additions) false image abiVersions version
    (verdict = .ok () ↔ ∃ major minor supported, NamesLine version major minor ∧
        AbiSupport.registered? additions s!"{major}.{minor}" = some supported ∧ ∃ abi ∈ abiVersions, abi ∈ supported) ∧
      (verdict ≠ .ok () → ∃ reason, verdict = .error (.compatibility image version reason)) ∧
      (∀ major minor, NamesLine version major minor → (∀ c ∈ minor.toList, c.isDigit = true) →
        (ConfigSchema.ofVersion version = .legacy ↔ Text.decimalValue minor.toList < 7)) ∧
      (abiGate .known false image abiVersions version = .ok () → ∃ major minor number,
        NamesLine version major minor ∧ ConfigSchema.minorNumber? version = some number ∧
          (ConfigSchema.ofVersion version = .legacy ↔ s!"{major}.{minor}" = "1.5" ∨ s!"{major}.{minor}" = "1.6")) := by
  intro verdict
  have asked (support : AbiSupport) : abiGate support false image abiVersions version =
      (support.validate abiVersions version).mapError fun e => .compatibility image version e.message := by
    simp [abiGate, listed]
  have passes (additions : List (String × List String)) :
      abiGate (.extended additions) false image abiVersions version = .ok () ↔
        ∃ major minor supported, NamesLine version major minor ∧
          AbiSupport.registered? additions s!"{major}.{minor}" = some supported ∧
            ∃ abi ∈ abiVersions, abi ∈ supported := by
    have same : abiGate (.extended additions) false image abiVersions version = .ok () ↔
        (AbiSupport.extended additions).validate abiVersions version = .ok () := by
      rw [asked]
      cases (AbiSupport.extended additions).validate abiVersions version <;> simp [Except.mapError]
    rw [same, AbiSupport.validate_ok_iff]
    simp only [AbiSupport.line?_eq_some_iff, AbiSupport.get?_lines_extended]
    constructor
    · rintro ⟨_, supported, ⟨major, minor, named, rfl⟩, registered, shared⟩
      exact ⟨major, minor, supported, named, registered, shared⟩
    · rintro ⟨major, minor, supported, named, registered, shared⟩
      exact ⟨_, supported, ⟨major, minor, named, rfl⟩, registered, shared⟩
  refine ⟨passes additions, ?_, fun major minor => ConfigSchema.ofVersion_of_namesLine, ?_⟩
  · intro refused
    have mapped : verdict = _ := asked (.extended additions)
    cases ended : (AbiSupport.extended additions).validate abiVersions version with
    | ok value =>
      rw [ended] at mapped
      exact absurd mapped refused
    | error e =>
      rw [ended] at mapped
      exact ⟨e.message, mapped⟩
  · intro passed
    obtain ⟨major, minor, supported, named, registered, -⟩ := (passes []).mp passed
    have known : s!"{major}.{minor}" ∈ AbiSupport.known.lines.keys :=
      SortedMap.mem_keys_iff.mpr ⟨supported, registered⟩
    obtain ⟨number, read, early⟩ := AbiSupport.minor_of_known _ known
    have found := (AbiSupport.minorNumber?_of_line named).trans read
    exact ⟨major, minor, number, named, found, (ConfigSchema.ofVersion_of_minorNumber? found).trans early⟩

/-- A line that is added twice, and a version of it with blanks, marks and a leading zero. -/
theorem abiGate_agrees_padded :
    let additions := [("2.06", ["v0.2.0"]), ("2.06", ["v0.2.1"])]
    let version := " vv2.06.1\t"
    ["v0.1.0", "v0.2.1"] ≠ [] ∧
      abiGate (.extended additions) false "filters/auth:1" ["v0.1.0", "v0.2.1"] version = .ok () ∧
      NamesLine version "2" "06" ∧ ConfigSchema.ofVersion version = .legacy ∧
      ∃ reason, abiGate (.extended additions) false "filters/auth:1" ["v0.2.0"] version =
        .error (.compatibility "filters/auth:1" version reason) := by
  intro additions version
  have named : NamesLine version "2" "06" :=
    ConfigSchema.namesLine_iff.mpr ⟨by decide, by decide, ["1"], by decide +kernel⟩
  have digits : ∀ c ∈ "06".toList, c.isDigit = true := by simp
  have some : ["v0.1.0", "v0.2.1"] ≠ [] := by decide
  have passed : abiGate (.extended additions) false "filters/auth:1" ["v0.1.0", "v0.2.1"] version = .ok () := by
    decide +kernel
  have refused : abiGate (.extended additions) false "filters/auth:1" ["v0.2.0"] version ≠ .ok () := by
    decide +kernel
  obtain ⟨-, -, schema, -⟩ := abiGate_agrees additions "filters/auth:1" version some
  obtain ⟨-, fails, -⟩ := abiGate_agrees additions "filters/auth:1" version (List.cons_ne_nil "v0.2.0" [])
  exact ⟨some, passed, named, (schema "2" "06" named digits).mpr (by decide), fails refused⟩

end FilterRollout
