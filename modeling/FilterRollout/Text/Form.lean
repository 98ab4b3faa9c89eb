import FilterRollout.SortedMap
import FilterRollout.Text.Hexadecimal
import FilterRollout.Text.Split
import FilterRollout.Text.Utf8

/-! Names and values in one text, the way forms and the queries of URIs hold them: `name=value` with ampersands
between. Letters, digits and four marks stand for themselves, a plus sign for the blank, and every other character
is written byte by byte, each as a percent sign and two hexadecimal digits. A text that is written this way reads back
as itself. -/

namespace FilterRollout.Text.Form

/-- Whether a character stands for itself in what is written. -/
def isPlain (c : Char) : Bool := c.isAlphanum || c == '*' || c == '-' || c == '.' || c == '_'

def escapeByte (byte : Nat) : List Char := ['%', hexDigit (byte / 16), hexDigit (byte % 16)]

def encodeChar (c : Char) : List Char :=
  if isPlain c then [c]
  else if c = ' ' then ['+']
  else (Utf8.encodeChar c).flatMap escapeByte

def encode (text : String) : String := String.ofList (text.toList.flatMap encodeChar)

/-- The bytes of an encoded text. A percent sign without two digits after it stands for itself. -/
def decodeBytes : List Char → List Nat
  | [] => []
  | '+' :: rest => 0x20 :: decodeBytes rest
  | '%' :: high :: low :: rest =>
    match hexValue? high, hexValue? low with
    | some h, some l => (h * 16 + l) :: decodeBytes rest
    | _, _ => 0x25 :: decodeBytes (high :: low :: rest)
  | c :: rest => Utf8.encodeChar c ++ decodeBytes rest
  termination_by structural chars => chars

def decode (chars : List Char) : String := String.ofList (Utf8.decode (decodeBytes chars))

theorem decodeBytes_escapeByte {byte : Nat} (small : byte < 0x100) (rest : List Char) :
    decodeBytes (escapeByte byte ++ rest) = byte :: decodeBytes rest := by
  have value : byte / 16 * 16 + byte % 16 = byte := by omega
  simp [escapeByte, decodeBytes, hexValue?_hexDigit (show byte / 16 < 16 by omega),
    hexValue?_hexDigit (show byte % 16 < 16 by omega), value]

theorem decodeBytes_escapeBytes {bytes : List Nat} (small : ∀ byte ∈ bytes, byte < 0x100) (rest : List Char) :
    decodeBytes (bytes.flatMap escapeByte ++ rest) = bytes ++ decodeBytes rest := by
  induction bytes with
  | nil => rfl
  | cons byte bytes ih =>
    rw [List.flatMap_cons, List.append_assoc, decodeBytes_escapeByte (small byte List.mem_cons_self),
      ih fun other member => small other (List.mem_cons_of_mem _ member), List.cons_append]

theorem decodeBytes_encodeChar (c : Char) (rest : List Char) :
    decodeBytes (encodeChar c ++ rest) = Utf8.encodeChar c ++ decodeBytes rest := by
  unfold encodeChar
  split
  · rename_i plain
    have noPlus : c ≠ '+' := by rintro rfl; revert plain; decide
    have noPercent : c ≠ '%' := by rintro rfl; revert plain; decide
    rw [List.cons_append, List.nil_append, decodeBytes]
    · exact noPlus
    · intro _ _ _ same; exact absurd same noPercent
  · split
    · rename_i blank
      subst blank
      rfl
    · exact decodeBytes_escapeBytes (fun _ => Utf8.lt_of_mem_encodeChar) rest

/-- A text reads back as itself. -/
theorem decode_encode (text : String) : decode (encode text).toList = text := by
  have bytes : ∀ chars : List Char, decodeBytes (chars.flatMap encodeChar) = chars.flatMap Utf8.encodeChar := by
    intro chars
    induction chars with
    | nil => rfl
    | cons c rest ih => rw [List.flatMap_cons, decodeBytes_encodeChar, ih, List.flatMap_cons]
  rw [decode, encode, String.toList_ofList, bytes, Utf8.decode_flatMap_encodeChar, String.ofList_toList]

/-- A name with its value. -/
def pair (name value : String) : String := encode name ++ "=" ++ encode value

/-- What one piece between ampersands says. Without an equals sign it is a name with an empty value. -/
def readPair (piece : List Char) : String × String :=
  match cutChars? '=' piece with
  | some (name, value) => (decode name, decode value)
  | none => (decode piece, "")

/-- The values by name. Empty pieces say nothing, and the last value of a name counts. -/
def read (chars : List Char) : SortedMap String :=
  .ofList (((splitChars '&' chars).filter (· ≠ [])).map readPair)

end FilterRollout.Text.Form
