/-! The base64 form of bytes, in which each digit stands for six bits. -/

namespace FilterRollout.Text

/-- The six bits that a digit stands for. -/
def sextet? (c : Char) : Option Nat :=
  if 'A' ≤ c ∧ c ≤ 'Z' then some (c.toNat - 'A'.toNat)
  else if 'a' ≤ c ∧ c ≤ 'z' then some (c.toNat - 'a'.toNat + 26)
  else if '0' ≤ c ∧ c ≤ '9' then some (c.toNat - '0'.toNat + 52)
  else if c = '+' then some 62
  else if c = '/' then some 63
  else none

/-- Whether a digit ends in bits that are zero, `scale` being two to their number. -/
def endsClear (scale : Nat) (c : Char) : Bool := (sextet? c).any (· % scale = 0)

/-- Groups of four digits. In the last group one or two equals signs may stand for digits, and the bits that no byte
needs are zero there. So each sequence of bytes has one form. -/
def isBase64 : List Char → Bool
  | [] => true
  | [first, second, '=', '='] => (sextet? first).isSome && endsClear 16 second
  | [first, second, third, '='] => (sextet? first).isSome && (sextet? second).isSome && endsClear 4 third
  | first :: second :: third :: fourth :: rest =>
    [first, second, third, fourth].all (fun c => (sextet? c).isSome) && isBase64 rest
  | _ => false

example : isBase64 "Zm9vYg==".toList && isBase64 "Zm9vYmE=".toList && !isBase64 "Zm9vYh==".toList := by decide +kernel

end FilterRollout.Text
