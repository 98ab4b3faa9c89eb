import FilterRollout.Text.Split
import FilterRollout.Word

/-! Lengths of time, exact to the nanosecond and bounded like a count of seconds in one machine word. -/

namespace FilterRollout

namespace Duration

/-- The nanoseconds of a second. -/
abbrev perSecond : Nat := 1_000_000_000

/-- The nanoseconds of a millisecond. -/
abbrev perMillisecond : Nat := 1_000_000

/-- The nanoseconds of a microsecond. -/
abbrev perMicrosecond : Nat := 1_000

end Duration

/-- A length of time of fewer seconds than a 64-bit word counts. -/
structure Duration where
  nanoseconds : Nat
  bounded : nanoseconds < Word.count64 * Duration.perSecond
  deriving DecidableEq

namespace Duration

def zero : Duration := ⟨0, by decide⟩

instance : Inhabited Duration := ⟨zero⟩

def isZero (d : Duration) : Bool := d.nanoseconds == 0

/-- Whole seconds, counted modulo 2⁶⁴. -/
def ofSeconds (seconds : Nat) : Duration :=
  ⟨seconds % Word.count64 * perSecond, by unfold Word.count64 perSecond; omega⟩

/-- Whole milliseconds, counted modulo 2⁶⁴. -/
def ofMilliseconds (milliseconds : Nat) : Duration :=
  ⟨milliseconds % Word.count64 * perMillisecond, by unfold Word.count64 perSecond perMillisecond; omega⟩

/-- Seconds and further nanoseconds, which may add up to seconds of their own. Seconds are counted modulo 2⁶⁴. -/
def ofParts (seconds nanoseconds : Nat) : Duration :=
  ⟨(seconds * perSecond + nanoseconds) % (Word.count64 * perSecond), Nat.mod_lt _ (by decide)⟩

/-- The whole seconds in `d`; the rest is dropped. -/
def seconds (d : Duration) : Nat := d.nanoseconds / perSecond

/-- The whole milliseconds in `d`; the rest is dropped. -/
def milliseconds (d : Duration) : Nat := d.nanoseconds / perMillisecond

/-- The shorter of the two. -/
def atMost (d limit : Duration) : Duration := if d.nanoseconds ≤ limit.nanoseconds then d else limit

/-- How often `interval` fits into `d`. -/
def quotient (d interval : Duration) : Nat := d.nanoseconds / interval.nanoseconds

/-- What remains of `d` after `count` intervals, nothing if they are longer. -/
def minusTimes (d : Duration) (count : Nat) (interval : Duration) : Duration :=
  ⟨d.nanoseconds - count * interval.nanoseconds, Nat.lt_of_le_of_lt (Nat.sub_le ..) d.bounded⟩

/-- A fraction of `places` decimal places without the zeros at its end, and without the point if nothing is left. -/
def fractionText (places fraction : Nat) : String :=
  let digits := (Nat.toDigits 10 fraction).leftpad places '0'
  match (digits.reverse.dropWhile (· == '0')).reverse with
  | [] => ""
  | kept => String.ofList ('.' :: kept)

/-- The largest unit of seconds, milliseconds, microseconds and nanoseconds whose count is not zero, and the rest
as a decimal fraction of it. -/
def text (d : Duration) : String :=
  let n := d.nanoseconds
  if n ≥ perSecond then s!"{n / perSecond}{fractionText 9 (n % perSecond)}s"
  else if n ≥ perMillisecond then s!"{n / perMillisecond}{fractionText 6 (n % perMillisecond)}ms"
  else if n ≥ perMicrosecond then s!"{n / perMicrosecond}{fractionText 3 (n % perMicrosecond)}µs"
  else s!"{n}ns"

example : (ofParts 1 500000000).text = "1.5s" ∧ (ofParts 0 1000001).text = "1.000001ms" := by decide +kernel

example : (ofParts 0 1500).text = "1.5µs" ∧ (ofParts 1 1).text = "1.000000001s" := by decide +kernel

example : (ofParts 5 3000000001).text = "8.000000001s" := by decide +kernel

end Duration

end FilterRollout
