import FilterRollout.Text.Unprintable
import FilterRollout.Text.GraphemeExtend
import FilterRollout.Text.Split

/-! Quoted texts, as messages show a value that came from outside: what could not be seen or would end the quote
is escaped, so that two different texts never look the same. -/

namespace FilterRollout.Text

/-- A code point as `\u` and its hexadecimal digits in braces. -/
def escapeCode (c : Char) : List Char :=
  ['\\', 'u', '\x7b'] ++ Nat.toDigits 16 c.toNat ++ ['\x7d']

/-- How a quoted text shows one character. Single quotes stay as they are. -/
def escapeChar (c : Char) : List Char :=
  if c = '\x00' then ['\\', '0']
  else if c = '\t' then ['\\', 't']
  else if c = '\r' then ['\\', 'r']
  else if c = '\n' then ['\\', 'n']
  else if c = '\\' then ['\\', '\\']
  else if c = '"' then ['\\', '"']
  else if isGraphemeExtend c || !isPrintable c then escapeCode c
  else [c]

def quoted (text : String) : String :=
  String.ofList ('"' :: text.toList.flatMap escapeChar ++ ['"'])

/-- A set of texts in braces, each quoted. -/
def quotedSet (texts : List String) : String :=
  "\x7b" ++ listed (texts.map quoted) ++ "\x7d"

example : quoted "a\t\"é\u0301" = "\"a\\t\\\"é\\u\x7b301\x7d\"" := by decide +kernel

end FilterRollout.Text
