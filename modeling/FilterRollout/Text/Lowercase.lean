import FilterRollout.Text.LetterCase.Mapping
import FilterRollout.Text.LetterCase.Context

/-! Lower-casing of texts. A letter goes to its counterpart whatever stands around it, with two exceptions: the
dotted capital I becomes two characters, and capital sigma has a form of its own at the end of a word. -/

namespace FilterRollout.Text

def isCased (c : Char) : Bool := cased.contains c

def isCaseIgnorable (c : Char) : Bool := caseIgnorable.contains c

/-- The lower-case counterpart of a single letter; other characters are their own. -/
def lowerChar (c : Char) : Char :=
  if c.toNat < 0x80 then c.toLower
  else match caseRuns.findSome? (·.lower? c.toNat) with
    | some lower => Char.ofNat lower
    | none => c

/-- Whether the first character that is not looked through is a cased letter. -/
def meetsCased (chars : List Char) : Bool :=
  match chars.dropWhile isCaseIgnorable with
  | c :: _ => isCased c
  | [] => false

/-- Lower-case `chars`, where `before` holds what precedes them, nearest first. -/
def lowerFrom (before : List Char) : List Char → List Char
  | [] => []
  | c :: rest =>
    let here :=
      if c = 'Σ' then (if meetsCased before && !meetsCased rest then ['ς'] else ['σ'])
      else if c = '\u0130' then ['i', '\u0307']
      else [lowerChar c]
    here ++ lowerFrom (c :: before) rest

def lowercase (text : String) : String := String.ofList (lowerFrom [] text.toList)

/-- Lower-case ASCII letters only. -/
def asciiLowercase (text : String) : String := String.ofList (text.toList.map Char.toLower)

end FilterRollout.Text
