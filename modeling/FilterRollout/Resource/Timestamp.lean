import FilterRollout.Text.Blank
import FilterRollout.Text.Numeral

/-! Times in the fields of objects: a date, a time of day and the distance from universal time. Blanks may stand
around each number of them, and a blank may stand for the letter between date and time. Times are written in
universal time. -/

namespace FilterRollout

/-- A day of the Gregorian calendar, extended to all years. -/
structure Date where
  year : Int
  month : Nat
  day : Nat
  deriving DecidableEq

namespace Date

def isLeap (year : Int) : Bool := year % 4 = 0 && (year % 100 ≠ 0 || year % 400 = 0)

/-- How many days a month has. -/
def daysIn (year : Int) (month : Nat) : Nat :=
  if month = 2 then (if isLeap year then 29 else 28)
  else if month = 4 ∨ month = 6 ∨ month = 9 ∨ month = 11 then 30
  else 31

/-- A day that exists, in a year that can be counted. -/
def isValid (d : Date) : Bool :=
  -262143 ≤ d.year && d.year ≤ 262142 && 1 ≤ d.month && d.month ≤ 12 && 1 ≤ d.day &&
    d.day ≤ daysIn d.year d.month

def next (d : Date) : Date :=
  if d.day < daysIn d.year d.month then { d with day := d.day + 1 }
  else if d.month < 12 then ⟨d.year, d.month + 1, 1⟩
  else ⟨d.year + 1, 1, 1⟩

def previous (d : Date) : Date :=
  if 1 < d.day then { d with day := d.day - 1 }
  else if 1 < d.month then ⟨d.year, d.month - 1, daysIn d.year (d.month - 1)⟩
  else ⟨d.year - 1, 12, 31⟩

/-- The day before the next day is the day itself. -/
theorem previous_next {d : Date} (valid : d.isValid = true) : d.next.previous = d := by
  simp only [isValid, Bool.and_eq_true, decide_eq_true_eq] at valid
  unfold next
  split
  · have some : 1 < d.day + 1 := by omega
    simp [previous, some]
  · rename_i last
    have ends : daysIn d.year d.month = d.day := by omega
    split
    · have some : 1 < d.month + 1 := by omega
      simp [previous, some, ends]
    · rename_i december
      have month : d.month = 12 := by omega
      have day : d.day = 31 := by rw [← ends, month]; rfl
      cases d
      simp_all [previous]

end Date

/-- A moment in universal time. Its second is 60 in a leap second. -/
structure Timestamp where
  date : Date
  /-- The minute of the day. -/
  minute : Nat
  second : Nat
  nanosecond : Nat
  deriving DecidableEq

namespace Timestamp

/-- How finely times are written. -/
inductive Precision
  | seconds
  | microseconds
  deriving DecidableEq

/-- At least one digit and up to `most` of them, and what follows. -/
def digits? (most : Nat) (chars : List Char) : Option (Nat × List Char) := do
  let run := (chars.take most).takeWhile Char.isDigit
  if run.isEmpty then none else return (← Text.digitsValue? 0 run, chars.drop run.length)

/-- A number of one or two digits after any blanks. -/
def number? (low high : Nat) (chars : List Char) : Option (Nat × List Char) := do
  let (value, rest) ← digits? 2 (chars.dropWhile Text.isBlank)
  if low ≤ value ∧ value ≤ high then some (value, rest) else none

/-- A mark after any blanks. -/
def mark? (mark : Char) (chars : List Char) : Option (List Char) :=
  match chars.dropWhile Text.isBlank with
  | c :: rest => if c = mark then some rest else none
  | [] => none

/-- A year: up to four digits, or any number of digits after a sign. -/
def year? (chars : List Char) : Option (Int × List Char) :=
  match chars.dropWhile Text.isBlank with
  | '-' :: rest => (digits? rest.length rest).map fun (value, rest) => (-value, rest)
  | '+' :: rest => (digits? rest.length rest).map fun (value, rest) => (value, rest)
  | rest => (digits? 4 rest).map fun (value, rest) => (value, rest)

/-- A date, and what follows it. -/
def date? (chars : List Char) : Option (Date × List Char) := do
  let (year, rest) ← year? chars
  let (month, rest) ← number? 1 12 (← mark? '-' rest)
  let (day, rest) ← number? 1 31 (← mark? '-' rest)
  let date : Date := ⟨year, month, day⟩
  if date.isValid then some (date, rest) else none

/-- The fraction of a second in nanoseconds, zero if there is none. Digits after the ninth do not count. -/
def fraction? : List Char → Option (Nat × List Char)
  | '.' :: rest => do
    let run := rest.takeWhile Char.isDigit
    if run.isEmpty then none
    else return (← Text.digitsValue? 0 ((run ++ List.replicate 9 '0').take 9), rest.dropWhile Char.isDigit)
  | rest => some (0, rest)

/-- Two digits and what follows them. -/
def pair? : List Char → Option (Nat × List Char)
  | tens :: ones :: rest => do return (← Text.digitsValue? 0 [tens, ones], rest)
  | _ => none

/-- The minutes of a distance from universal time, which is less than a day. Colons and blanks may stand between
hours and minutes. -/
def distance? (chars : List Char) : Option (Nat × List Char) := do
  let (hours, rest) ← pair? chars
  let (minutes, rest) ← pair? (rest.dropWhile fun c => c = ':' || Text.isBlank c)
  if hours < 24 ∧ minutes < 60 then some (hours * 60 + minutes, rest) else none

/-- How many minutes a clock is ahead of universal time, and what follows. -/
def zone? (chars : List Char) : Option (Int × List Char) :=
  match chars.dropWhile Text.isBlank with
  | 'Z' :: rest | 'z' :: rest => some (0, rest)
  | '+' :: rest => (distance? rest).map fun (minutes, rest) => (minutes, rest)
  | '-' :: rest | '−' :: rest => (distance? rest).map fun (minutes, rest) => (-minutes, rest)
  | rest => if (rest.take 3).map Char.toLower = ['u', 't', 'c'] then some (0, rest.drop 3) else none

/-- The moment of a minute of a day, by a clock that is `ahead` minutes ahead of universal time. -/
def universal? (date : Date) (minute : Nat) (ahead : Int) (second nanosecond : Nat) : Option Timestamp :=
  let minutes : Int := minute - ahead
  let date := if minutes < 0 then date.previous else if minutes < 1440 then date else date.next
  if date.isValid then some ⟨date, (minutes % 1440).toNat, second, nanosecond⟩ else none

/-- Read a time. Only blanks may follow it. -/
def ofChars? (chars : List Char) : Option Timestamp := do
  let (date, rest) ← date? chars
  let rest ← match rest with
    | 'T' :: rest | 't' :: rest | ' ' :: rest => some rest
    | _ => none
  let (hour, rest) ← number? 0 23 rest
  let (minute, rest) ← number? 0 59 (← mark? ':' rest)
  let (second, rest) ← number? 0 60 (← mark? ':' rest)
  let (nanosecond, rest) ← fraction? rest
  let (ahead, rest) ← zone? rest
  if rest.all Text.isBlank then universal? date (hour * 60 + minute) ahead second nanosecond else none

/-- Decimal digits with zeros in front up to `width`. -/
def padded (width value : Nat) : List Char := (Nat.toDigits 10 value).leftpad width '0'

/-- A year of four digits; a sign stands in front of any other year. -/
def yearChars (year : Int) : List Char :=
  if 0 ≤ year ∧ year ≤ 9999 then padded 4 year.toNat
  else (if year < 0 then '-' else '+') :: padded 4 year.natAbs

/-- Write a time in universal time. What is finer than the precision is left out. -/
def text (precision : Precision) (t : Timestamp) : String :=
  let fraction := match precision with
    | .seconds => []
    | .microseconds => '.' :: padded 6 (t.nanosecond / 1000)
  String.ofList (yearChars t.date.year ++ '-' :: padded 2 t.date.month ++ '-' :: padded 2 t.date.day ++
    'T' :: padded 2 (t.minute / 60) ++ ':' :: padded 2 (t.minute % 60) ++ ':' :: padded 2 t.second ++ fraction ++ ['Z'])

/-- The first moment of 1970, which stands for a time that is not given. -/
def epoch : Timestamp := ⟨⟨1970, 1, 1⟩, 0, 0, 0⟩

example : (ofChars? "2024-02-29T23:30:00.5-01:00".toList).map (text .microseconds) =
    some "2024-03-01T00:30:00.500000Z" := by decide +kernel

example : (ofChars? "2024- 1-1 0:00:60 utc ".toList).map (text .seconds) = some "2024-01-01T00:00:60Z" := by
  decide +kernel

example : ofChars? "2023-02-29T00:00:00Z".toList = none ∧ ofChars? "2024-03-01".toList = none := by decide +kernel

end Timestamp

end FilterRollout
