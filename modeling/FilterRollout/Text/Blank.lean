import FilterRollout.Text.CodeTable

/-! Blank characters and the removal of blanks around a text. -/

namespace FilterRollout.Text

/-- The property `White_Space`. Zero width characters are not blank. -/
def blank : CodeTable :=
  [(0x9, 0xD), (0x20, 0x20), (0x85, 0x85), (0xA0, 0xA0), (0x1680, 0x1680), (0x2000, 0x200A), (0x2028, 0x2029),
   (0x202F, 0x202F), (0x205F, 0x205F), (0x3000, 0x3000)]

def isBlank (c : Char) : Bool := blank.contains c

/-- Drop the blanks before the first and after the last character that is not blank. -/
def trimChars (chars : List Char) : List Char :=
  ((chars.dropWhile isBlank).reverse.dropWhile isBlank).reverse

def trim (text : String) : String := String.ofList (trimChars text.toList)

end FilterRollout.Text
