/-! Characters as bytes in UTF-8. Reading never fails: what cannot be the beginning of a character, and every
beginning that is not completed, becomes one replacement character. A character reads back as itself, whatever
follows it. -/

namespace FilterRollout.Text.Utf8

/-- The one to four bytes of a character. -/
def encodeChar (c : Char) : List Nat :=
  let n := c.toNat
  if n < 0x80 then [n]
  else if n < 0x800 then [0xC0 + n / 0x40, 0x80 + n % 0x40]
  else if n < 0x10000 then [0xE0 + n / 0x1000, 0x80 + n / 0x40 % 0x40, 0x80 + n % 0x40]
  else [0xF0 + n / 0x40000, 0x80 + n / 0x1000 % 0x40, 0x80 + n / 0x40 % 0x40, 0x80 + n % 0x40]

theorem lt_of_mem_encodeChar {c : Char} {byte : Nat} (member : byte ∈ encodeChar c) : byte < 0x100 := by
  have valid : c.toNat < 0xD800 ∨ (0xDFFF < c.toNat ∧ c.toNat < 0x110000) := c.valid
  unfold encodeChar at member
  simp only at member
  split at member
  · simp only [List.mem_singleton] at member; omega
  · split at member
    · simp only [List.mem_cons, List.not_mem_nil, or_false] at member; omega
    · split at member
      · simp only [List.mem_cons, List.not_mem_nil, or_false] at member; omega
      · simp only [List.mem_cons, List.not_mem_nil, or_false] at member; omega

/-- What stands for bytes that are no character. -/
def replacement : Char := '\uFFFD'

/-- A character of which the first bytes have been read. -/
structure Beginning where
  /-- The part of the code point that the bytes so far hold. -/
  value : Nat
  /-- How many bytes are still to come. -/
  missing : Nat
  /-- The least that the next byte may be. -/
  low : Nat
  /-- The greatest that the next byte may be. -/
  high : Nat

/-- The beginning that a first byte makes. The bounds of the second byte leave out code points that have a shorter
form, surrogates, and everything above the last code point. -/
def beginning? (byte : Nat) : Option Beginning :=
  if byte < 0xC2 then none
  else if byte < 0xE0 then some ⟨byte - 0xC0, 1, 0x80, 0xBF⟩
  else if byte = 0xE0 then some ⟨0, 2, 0xA0, 0xBF⟩
  else if byte = 0xED then some ⟨0xD, 2, 0x80, 0x9F⟩
  else if byte < 0xF0 then some ⟨byte - 0xE0, 2, 0x80, 0xBF⟩
  else if byte = 0xF0 then some ⟨0, 3, 0x90, 0xBF⟩
  else if byte < 0xF4 then some ⟨byte - 0xF0, 3, 0x80, 0xBF⟩
  else if byte = 0xF4 then some ⟨4, 3, 0x80, 0x8F⟩
  else none

/-- The characters that a byte ends, and the beginning that it makes, between two characters. -/
def start (byte : Nat) : List Char × Option Beginning :=
  if byte < 0x80 then ([Char.ofNat byte], none)
  else match beginning? byte with
    | some begun => ([], some begun)
    | none => ([replacement], none)

/-- The characters that a byte ends, and the beginning that stands after it. -/
def step : Option Beginning → Nat → List Char × Option Beginning
  | none, byte => start byte
  | some begun, byte =>
    if begun.low ≤ byte ∧ byte ≤ begun.high then
      let value := begun.value * 0x40 + (byte - 0x80)
      if begun.missing = 1 then ([Char.ofNat value], none)
      else ([], some ⟨value, begun.missing - 1, 0x80, 0xBF⟩)
    else
      let (chars, after) := start byte
      (replacement :: chars, after)

/-- Read bytes after a beginning. -/
def decodeFrom (begun : Option Beginning) : List Nat → List Char
  | [] => begun.toList.map fun _ => replacement
  | byte :: rest =>
    let (chars, after) := step begun byte
    chars ++ decodeFrom after rest

def decode (bytes : List Nat) : List Char := decodeFrom none bytes

/-- A byte that only begins a character. -/
theorem decodeFrom_beginning {byte : Nat} {begun : Beginning} (large : 0x80 ≤ byte)
    (begins : beginning? byte = some begun) (rest : List Nat) :
    decodeFrom none (byte :: rest) = decodeFrom (some begun) rest := by
  simp [decodeFrom, step, start, begins, Nat.not_lt.mpr large]

/-- A byte inside the bounds that leaves others missing. -/
theorem decodeFrom_inner {begun : Beginning} {byte : Nat} (above : begun.low ≤ byte) (below : byte ≤ begun.high)
    (more : begun.missing ≠ 1) (rest : List Nat) :
    decodeFrom (some begun) (byte :: rest) =
      decodeFrom (some ⟨begun.value * 0x40 + (byte - 0x80), begun.missing - 1, 0x80, 0xBF⟩) rest := by
  simp [decodeFrom, step, above, below, more]

/-- A byte inside the bounds that is the last one missing. -/
theorem decodeFrom_last {begun : Beginning} {byte : Nat} (above : begun.low ≤ byte) (below : byte ≤ begun.high)
    (last : begun.missing = 1) (rest : List Nat) :
    decodeFrom (some begun) (byte :: rest) =
      Char.ofNat (begun.value * 0x40 + (byte - 0x80)) :: decodeFrom none rest := by
  simp [decodeFrom, step, above, below, last]

/-- The first byte of two. -/
theorem beginning?_two {n : Nat} (above : 0x80 ≤ n) (below : n < 0x800) :
    beginning? (0xC0 + n / 0x40) = some ⟨n / 0x40, 1, 0x80, 0xBF⟩ := by
  unfold beginning?
  rw [if_neg (by omega), if_pos (by omega)]
  simp

/-- The first byte of three, with bounds that the second byte meets. -/
theorem beginning?_three {n : Nat} (above : 0x800 ≤ n) (below : n < 0x10000) (noHalf : n < 0xD800 ∨ 0xDFFF < n) :
    ∃ low high, beginning? (0xE0 + n / 0x1000) = some ⟨n / 0x1000, 2, low, high⟩ ∧
      low ≤ 0x80 + n / 0x40 % 0x40 ∧ 0x80 + n / 0x40 % 0x40 ≤ high := by
  unfold beginning?
  rw [if_neg (by omega), if_neg (by omega)]
  split
  · exact ⟨0xA0, 0xBF, by simp; omega, by omega, by omega⟩
  · split
    · exact ⟨0x80, 0x9F, by simp; omega, by omega, by omega⟩
    · exact ⟨0x80, 0xBF, by rw [if_pos (by omega)]; simp, by omega, by omega⟩

/-- The first byte of four, with bounds that the second byte meets. -/
theorem beginning?_four {n : Nat} (above : 0x10000 ≤ n) (below : n < 0x110000) :
    ∃ low high, beginning? (0xF0 + n / 0x40000) = some ⟨n / 0x40000, 3, low, high⟩ ∧
      low ≤ 0x80 + n / 0x1000 % 0x40 ∧ 0x80 + n / 0x1000 % 0x40 ≤ high := by
  unfold beginning?
  rw [if_neg (by omega), if_neg (by omega), if_neg (by omega), if_neg (by omega), if_neg (by omega)]
  split
  · exact ⟨0x90, 0xBF, by simp; omega, by omega, by omega⟩
  · split
    · exact ⟨0x80, 0xBF, by simp, by omega, by omega⟩
    · exact ⟨0x80, 0x8F, by rw [if_pos (by omega)]; simp; omega, by omega, by omega⟩

/-- A character reads back as itself, whatever follows it. -/
theorem decodeFrom_encodeChar (c : Char) (rest : List Nat) :
    decodeFrom none (encodeChar c ++ rest) = c :: decodeFrom none rest := by
  have whole : Char.ofNat c.toNat = c := Char.ofNat_toNat c
  have valid : c.toNat < 0xD800 ∨ (0xDFFF < c.toNat ∧ c.toNat < 0x110000) := c.valid
  unfold encodeChar
  generalize c.toNat = n at whole valid ⊢
  simp only
  split
  · rename_i one
    simp [decodeFrom, step, start, one, whole]
  · split
    · rename_i two
      rw [List.cons_append, List.cons_append, List.nil_append,
        decodeFrom_beginning (by omega) (beginning?_two (by omega) two),
        decodeFrom_last (by dsimp only; omega) (by dsimp only; omega) rfl]
      have value : n / 0x40 * 0x40 + (0x80 + n % 0x40 - 0x80) = n := by omega
      rw [value, whole]
    · split
      · rename_i three
        obtain ⟨low, high, begins, above, below⟩ :=
          beginning?_three (n := n) (by omega) three (by omega)
        rw [List.cons_append, List.cons_append, List.cons_append, List.nil_append,
          decodeFrom_beginning (by omega) begins, decodeFrom_inner above below (by simp),
          decodeFrom_last (by dsimp only; omega) (by dsimp only; omega) rfl]
        have value : (n / 0x1000 * 0x40 + (0x80 + n / 0x40 % 0x40 - 0x80)) * 0x40 + (0x80 + n % 0x40 - 0x80) = n := by
          omega
        rw [value, whole]
      · obtain ⟨low, high, begins, above, below⟩ := beginning?_four (n := n) (by omega) (by omega)
        rw [List.cons_append, List.cons_append, List.cons_append, List.cons_append, List.nil_append,
          decodeFrom_beginning (by omega) begins, decodeFrom_inner above below (by simp),
          decodeFrom_inner (by dsimp only; omega) (by dsimp only; omega) (by simp),
          decodeFrom_last (by dsimp only; omega) (by dsimp only; omega) rfl]
        have value : ((n / 0x40000 * 0x40 + (0x80 + n / 0x1000 % 0x40 - 0x80)) * 0x40 +
            (0x80 + n / 0x40 % 0x40 - 0x80)) * 0x40 + (0x80 + n % 0x40 - 0x80) = n := by
          omega
        rw [value, whole]

/-- A text reads back as itself. -/
theorem decode_flatMap_encodeChar (chars : List Char) : decode (chars.flatMap encodeChar) = chars := by
  unfold decode
  induction chars with
  | nil => rfl
  | cons c rest ih => rw [List.flatMap_cons, decodeFrom_encodeChar, ih]

example : decode [0x61, 0xFF, 0xC3, 0xA9, 0xE2, 0x82, 0x62] = ['a', '\uFFFD', 'é', '\uFFFD', 'b'] := by
  decide +kernel

end FilterRollout.Text.Utf8
