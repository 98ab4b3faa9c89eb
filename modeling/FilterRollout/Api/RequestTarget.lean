import FilterRollout.Text.Form

/-! Targets of requests: a path and after a question mark a query, in one text. Paths are written as they are, so
that a name with a question mark or a number sign in it ends the path early, and one with a blank cannot be sent. -/

namespace FilterRollout.Api

/-- A target as the server understands it. -/
structure RequestTarget where
  path : String
  /-- The parameters, decoded. -/
  query : SortedMap String

namespace RequestTarget

/-- The text of a target, without a query or with one of parameters, each after an ampersand. -/
def text (path : String) : Option (List (String × String)) → String
  | none => path
  | some parameters =>
    path ++ "?" ++ Text.join "" (parameters.map fun parameter => "&" ++ Text.Form.pair parameter.1 parameter.2)

/-- Whether a character may stand in any target: all but the ASCII controls and the blank. -/
def isVisible (c : Char) : Bool := 0x20 < c.toNat && c != '\x7f'

def allowedInPath (c : Char) : Bool := isVisible c && c != '<' && c != '>' && c != '`'

def allowedInQuery (c : Char) : Bool := isVisible c && c != '<' && c != '>' && c != '"'

/-- The longest target, in bytes. -/
def maxSize : Nat := 65534

/-- What stands before and after the first question mark. What follows a number sign is not sent. -/
def parts (text : String) : List Char × List Char :=
  let sent := text.toList.takeWhile (· ≠ '#')
  (Text.cutChars? '?' sent).getD (sent, [])

/-- Read a target, if it is not too long and has allowed characters only. -/
def read? (text : String) : Option RequestTarget :=
  let (path, query) := parts text
  if text.utf8ByteSize ≤ maxSize && path.all allowedInPath && query.all allowedInQuery then
    some ⟨String.ofList path, Text.Form.read query⟩
  else none

/-- A path of allowed characters that does not end early is read as it was written. -/
theorem read?_text_nil {path : String}
    (allowed : ∀ c ∈ path.toList, allowedInPath c = true ∧ c ≠ '?' ∧ c ≠ '#')
    (short : path.utf8ByteSize < maxSize) :
    read? (text path (some [])) = some ⟨path, .empty⟩ := by
  have noFragment : ∀ c ∈ path.toList ++ ['?'], c ≠ '#' := by
    intro c member
    rcases List.mem_append.mp member with inside | mark
    · exact (allowed c inside).2.2
    · rw [List.mem_singleton.mp mark]; decide
  have sent : (path.toList ++ ['?']).takeWhile (· ≠ '#') = path.toList ++ ['?'] := by
    rw [← List.append_nil (path.toList ++ ['?']),
      List.takeWhile_append_of_pos fun c member => decide_eq_true (noFragment c member), List.takeWhile_nil]
  have written : text path (some []) = path ++ "?" := by simp [text, Text.join]
  have split : parts (path ++ "?") = (path.toList, []) := by
    simp only [parts, String.toList_append, show "?".toList = ['?'] from rfl, sent]
    rw [Text.cutChars?_append fun c member => (allowed c member).2.1]
    rfl
  have size : path.utf8ByteSize + "?".utf8ByteSize ≤ maxSize := short
  have every : path.toList.all allowedInPath = true := List.all_eq_true.mpr fun c member => (allowed c member).1
  have empty : Text.Form.read [] = .empty := rfl
  simp [written, read?, split, size, every, empty]

example : ((read? "/events/a?b=c%2B+d#e").map fun target => (target.path, target.query.get? "b")) =
    some ("/events/a", some "c+ d") := by decide +kernel

end RequestTarget

end FilterRollout.Api
