import FilterRollout.Filter.Image
import FilterRollout.Proofs.Text.Pieces

/-! Where the cache keeps the binary of an image. The digest of an image is any text that a registry gives for one, and
all proxies load what is at its path. Main statement: `cachedBinaryPath_faithful`. -/

namespace FilterRollout

/-- The hexadecimal digits of ASCII. -/
def hexDigits : String := "0123456789abcdefABCDEF"

/-- A digest consists of an algorithm and a body, neither of them empty. The first colon stands between them, and the
body has hexadecimal digits only. -/
inductive HasBody (digest body : String) : Prop
  | intro {algorithm : String} (whole : digest = algorithm ++ ":" ++ body) (first : ':' ∉ algorithm.toList)
      (hasAlgorithm : algorithm ≠ "") (some : body ≠ "")
      (hexadecimal : ∀ c ∈ body.toList, c ∈ hexDigits.toList)

/-- The name of a file without the folders before it and the ending behind it. -/
def stem (path : String) : String := Text.upTo '.' (Text.afterLast '/' path)

theorem isHexDigit_iff {c : Char} : isHexDigit c = true ↔ c ∈ hexDigits.toList := by
  constructor
  · intro digit
    have small : c.toNat < 103 := by
      simp only [isHexDigit, Char.isDigit, Char.reduceVal, ge_iff_le, UInt32.le_iff_toNat_le, UInt32.reduceToNat,
        Char.toNat_val, Char.le_def, Bool.or_eq_true, Bool.and_eq_true, decide_eq_true_eq] at digit
      omega
    have every : ∀ n : Fin 103, isHexDigit (.ofNat n) = true → .ofNat n ∈ hexDigits.toList := by decide
    simpa [digit] using every ⟨c.toNat, small⟩
  · intro member
    have every : ∀ c ∈ hexDigits.toList, isHexDigit c = true := by
      simp [hexDigits, isHexDigit, Char.isDigit]
    exact every c member

namespace HasBody

variable {digest body : String}

theorem iff_cut? : HasBody digest body ↔ ∃ algorithm, Text.cut? ':' digest = some (algorithm, body) ∧
    algorithm ≠ "" ∧ body ≠ "" ∧ body.toList.all isHexDigit = true := by
  simp only [Text.cut?_eq_some_iff, List.all_eq_true, isHexDigit_iff]
  constructor
  · rintro ⟨rfl, first, hasAlgorithm, some, hexadecimal⟩
    exact ⟨_, ⟨by simp, first⟩, hasAlgorithm, some, hexadecimal⟩
  · rintro ⟨algorithm, ⟨whole, first⟩, hasAlgorithm, some, hexadecimal⟩
    exact ⟨String.toList_inj.mp (by simp [whole]), first, hasAlgorithm, some, hexadecimal⟩

theorem not_mem (parts : HasBody digest body) {c : Char} (other : c ∉ hexDigits.toList) :
    c ∉ body.toList := by
  obtain ⟨-, -, -, -, hexadecimal⟩ := parts
  exact fun member => other (hexadecimal c member)

theorem slash_not_mem_file (parts : HasBody digest body) : '/' ∉ (body ++ ".wasm").toList := by
  simp [parts.not_mem (c := '/') (by decide)]

/-- The file has one point in its name. -/
theorem dots_not_infix_file (parts : HasBody digest body) : ¬ "..".toList <:+: (body ++ ".wasm").toList := by
  intro inside
  have dots := inside.sublist.count_le '.'
  have none : body.toList.count '.' = 0 := List.count_eq_zero.mpr (parts.not_mem (by decide))
  simp [none] at dots

/-- The body can be told from the path. -/
theorem stem_path (parts : HasBody digest body) : stem (cacheDirectory ++ "/" ++ body ++ ".wasm") = body := by
  have path : cacheDirectory ++ "/" ++ body ++ ".wasm" =
      String.ofList (cacheDirectory.toList ++ '/' :: (body ++ ".wasm").toList) := by
    refine String.toList_inj.mp ?_
    simp
  rw [stem, path, Text.afterLast_append _ parts.slash_not_mem_file, String.ofList_toList, Text.upTo,
    String.toList_append, Text.takeWhile_ne_append (parts.not_mem (by decide))]
  simp

end HasBody

theorem cachedBinaryPath_of_hasBody {digest body : String} (parts : HasBody digest body) :
    cachedBinaryPath digest = .ok (cacheDirectory ++ "/" ++ body ++ ".wasm") := by
  obtain ⟨algorithm, cut, hasAlgorithm, some, hexadecimal⟩ := HasBody.iff_cut?.mp parts
  simp [cachedBinaryPath, cut, hasAlgorithm, some, hexadecimal, toString]

theorem cachedBinaryPath_of_malformed {digest : String} (malformed : ∀ body, ¬ HasBody digest body) :
    ∃ message, cachedBinaryPath digest = .error (.validation message (some "digest")) := by
  unfold cachedBinaryPath
  split
  · exact ⟨_, rfl⟩
  · rename_i algorithm body cut
    split
    · exact ⟨_, rfl⟩
    · rename_i wellFormed
      simp only [Bool.or_eq_true, decide_eq_true_eq, Bool.not_eq_true', not_or, Bool.not_eq_false] at wellFormed
      obtain ⟨⟨hasAlgorithm, some⟩, hexadecimal⟩ := wellFormed
      exact absurd (HasBody.iff_cut?.mpr ⟨algorithm, cut, hasAlgorithm, some, hexadecimal⟩) (malformed body)

theorem cachedBinaryPath_ok_iff {digest path : String} : cachedBinaryPath digest = .ok path ↔
    ∃ body, HasBody digest body ∧ path = cacheDirectory ++ "/" ++ body ++ ".wasm" := by
  constructor
  · intro found
    by_cases wellFormed : ∃ body, HasBody digest body
    · obtain ⟨body, parts⟩ := wellFormed
      exact ⟨body, parts, Except.ok.inj (found.symm.trans (cachedBinaryPath_of_hasBody parts))⟩
    · obtain ⟨message, refused⟩ := cachedBinaryPath_of_malformed (not_exists.mp wellFormed)
      rw [refused] at found
      cases found
  · rintro ⟨body, parts, rfl⟩
    exact cachedBinaryPath_of_hasBody parts

/-- A digest has a path exactly if it has a body, and then the file in the cache directory that is named for the body.
The name stays inside the directory, the body can be told from the path, and so digests share a path exactly if they
share the body. All other texts are refused as digests. -/
theorem cachedBinaryPath_faithful (digest : String) :
    (∀ path, cachedBinaryPath digest = .ok path ↔
        ∃ body, HasBody digest body ∧ path = cacheDirectory ++ "/" ++ body ++ ".wasm") ∧
      (∀ path, cachedBinaryPath digest = .ok path → HasBody digest (stem path) ∧
        ∃ file, path = cacheDirectory ++ "/" ++ file ∧ '/' ∉ file.toList ∧ ¬ "..".toList <:+: file.toList) ∧
      (∀ other body otherBody, HasBody digest body → HasBody other otherBody →
        (cachedBinaryPath digest = cachedBinaryPath other ↔ body = otherBody)) ∧
      ((∀ body, ¬ HasBody digest body) →
        ∃ message, cachedBinaryPath digest = .error (.validation message (some "digest"))) := by
  refine ⟨fun path => cachedBinaryPath_ok_iff, ?_, ?_, cachedBinaryPath_of_malformed⟩
  · intro path found
    obtain ⟨body, parts, rfl⟩ := cachedBinaryPath_ok_iff.mp found
    rw [parts.stem_path]
    exact ⟨parts, body ++ ".wasm", String.append_assoc, parts.slash_not_mem_file, parts.dots_not_infix_file⟩
  · intro other body otherBody parts otherParts
    rw [cachedBinaryPath_of_hasBody parts, cachedBinaryPath_of_hasBody otherParts]
    constructor
    · intro same
      rw [← parts.stem_path, Except.ok.inj same, otherParts.stem_path]
    · rintro rfl
      rfl

/-- Two digests with one body, and one that would leave the directory. -/
theorem cachedBinaryPath_faithful_twins :
    let path := cacheDirectory ++ "/" ++ "0a1B" ++ ".wasm"
    HasBody "sha256:0a1B" "0a1B" ∧ HasBody "md5:0a1B" "0a1B" ∧
      cachedBinaryPath "sha256:0a1B" = cachedBinaryPath "md5:0a1B" ∧
      cachedBinaryPath "sha256:0a1B" = .ok path ∧ HasBody "sha256:0a1B" (stem path) ∧
      ∃ message, cachedBinaryPath "sha256:../0a" = .error (.validation message (some "digest")) := by
  intro path
  have parts : HasBody "sha256:0a1B" "0a1B" := HasBody.iff_cut?.mpr ⟨"sha256", by decide +kernel⟩
  have otherParts : HasBody "md5:0a1B" "0a1B" := HasBody.iff_cut?.mpr ⟨"md5", by decide +kernel⟩
  have malformed : ∀ body, ¬ HasBody "sha256:../0a" body := by
    intro body strange
    obtain ⟨algorithm, cut, -, -, hexadecimal⟩ := HasBody.iff_cut?.mp strange
    have pieces : Text.cut? ':' "sha256:../0a" = some ("sha256", "../0a") := by decide +kernel
    rw [← (Prod.mk.inj (Option.some.inj (pieces.symm.trans cut))).2] at hexadecimal
    exact absurd hexadecimal (by decide)
  obtain ⟨accepted, inside, shared, -⟩ := cachedBinaryPath_faithful "sha256:0a1B"
  obtain ⟨-, -, -, refused⟩ := cachedBinaryPath_faithful "sha256:../0a"
  have found := (accepted _).mpr ⟨"0a1B", parts, rfl⟩
  exact ⟨parts, otherParts, (shared _ _ _ parts otherParts).mpr rfl, found, (inside _ found).1, refused malformed⟩

end FilterRollout
