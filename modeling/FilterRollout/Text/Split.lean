/-! Cutting a text at a separator, and putting pieces together again. -/

namespace FilterRollout.Text

/-- The pieces between the occurrences of `separator`. There is always at least one, possibly empty. -/
def splitChars (separator : Char) : List Char → List (List Char)
  | [] => [[]]
  | c :: rest =>
    if c = separator then [] :: splitChars separator rest
    else match splitChars separator rest with
      | [] => [[c]]
      | piece :: pieces => (c :: piece) :: pieces

/-- What stands before and after the first `separator`, if there is one. -/
def cutChars? (separator : Char) : List Char → Option (List Char × List Char)
  | [] => none
  | c :: rest =>
    if c = separator then some ([], rest)
    else (cutChars? separator rest).map fun (before, after) => (c :: before, after)

def split (separator : Char) (text : String) : List String :=
  (splitChars separator text.toList).map String.ofList

def cut? (separator : Char) (text : String) : Option (String × String) :=
  (cutChars? separator text.toList).map fun (before, after) => (String.ofList before, String.ofList after)

/-- The pieces one after another with `separator` between neighbours. -/
def join (separator : String) : List String → String
  | [] => ""
  | [piece] => piece
  | piece :: next :: rest => piece ++ separator ++ join separator (next :: rest)

/-- The pieces with a comma and a space between neighbours, as messages list them. -/
def listed (pieces : List String) : String := join ", " pieces

/-- The text after the last `separator`, or all of it. -/
def afterLast (separator : Char) (text : String) : String :=
  match (split separator text).getLast? with
  | some piece => piece
  | none => text

theorem cutChars?_append {separator : Char} {before : List Char} (absent : ∀ c ∈ before, c ≠ separator)
    (after : List Char) : cutChars? separator (before ++ separator :: after) = some (before, after) := by
  induction before with
  | nil => simp [cutChars?]
  | cons c rest ih =>
    have tail := ih fun other member => absent other (List.mem_cons_of_mem _ member)
    simp [cutChars?, absent c List.mem_cons_self, tail]

theorem splitChars_ne_nil (separator : Char) (chars : List Char) : splitChars separator chars ≠ [] := by
  cases chars with
  | nil => simp [splitChars]
  | cons c rest =>
    unfold splitChars
    split
    · simp
    · split <;> simp

theorem splitChars_of_not_mem {separator : Char} {chars : List Char} (absent : separator ∉ chars) :
    splitChars separator chars = [chars] := by
  induction chars with
  | nil => rfl
  | cons c rest ih =>
    obtain ⟨different, later⟩ := List.ne_and_not_mem_of_not_mem_cons absent
    simp [splitChars, Ne.symm different, ih later]

theorem splitChars_append {separator : Char} {before : List Char} (absent : separator ∉ before) (after : List Char) :
    splitChars separator (before ++ separator :: after) = before :: splitChars separator after := by
  induction before with
  | nil => simp [splitChars]
  | cons c rest ih =>
    obtain ⟨different, later⟩ := List.ne_and_not_mem_of_not_mem_cons absent
    simp [splitChars, Ne.symm different, ih later]

/-- No piece has the separator in it. -/
theorem not_mem_of_mem_splitChars {separator : Char} {chars piece : List Char}
    (member : piece ∈ splitChars separator chars) : separator ∉ piece := by
  induction chars generalizing piece with
  | nil => simp_all [splitChars]
  | cons c rest ih =>
    unfold splitChars at member
    split at member
    · rcases List.mem_cons.mp member with rfl | later
      · exact List.not_mem_nil
      · exact ih later
    · rename_i different
      split at member
      · rename_i empty
        exact absurd empty (splitChars_ne_nil separator rest)
      · rename_i first others pieces
        rw [pieces] at ih
        rcases List.mem_cons.mp member with rfl | later
        · exact List.not_mem_cons_of_ne_of_not_mem (Ne.symm different) (ih List.mem_cons_self)
        · exact ih (List.mem_cons_of_mem _ later)

theorem not_mem_of_mem_split {separator : Char} {text piece : String} (member : piece ∈ split separator text) :
    separator ∉ piece.toList := by
  obtain ⟨chars, listed, rfl⟩ := List.mem_map.mp member
  simpa using not_mem_of_mem_splitChars listed

/-- Joined pieces come apart again, if there is one at least and none has the separator in it. -/
theorem split_join {separator : Char} {pieces : List String} (some : pieces ≠ [])
    (absent : ∀ piece ∈ pieces, separator ∉ piece.toList) :
    split separator (join (String.singleton separator) pieces) = pieces := by
  induction pieces with
  | nil => exact absurd rfl some
  | cons piece rest ih =>
    have first := absent piece List.mem_cons_self
    cases rest with
    | nil => simp [join, split, splitChars_of_not_mem first]
    | cons next others =>
      have later := ih (by simp) fun other member => absent other (List.mem_cons_of_mem _ member)
      simpa [join, split, splitChars_append first] using later

end FilterRollout.Text
