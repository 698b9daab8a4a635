/-
# Amend.Calendar — dates and times of day

Dates are those of the Gregorian calendar, carried on before its beginning.  A
timestamp is a date, the seconds since its midnight and nanoseconds; the time zone
is the reader's business.  A leap second is the second before it with a second's
worth of nanoseconds more.

Days and microseconds are counted from the first of January 2000; a part of a
microsecond is cut off towards that instant.
-/
import Amend.Text.Numeral

set_option autoImplicit false

namespace Amend

open Text (padded digitsValue?)

structure Date where
  year : Int
  month : Nat
  day : Nat
  deriving DecidableEq, Repr

/-- A day and a time of that day. -/
structure Timestamp where
  date : Date
  /-- The whole seconds since midnight. -/
  seconds : Nat
  /-- Less than a second's worth, or in a leap second less than two. -/
  nanos : Nat
  deriving DecidableEq, Repr

namespace Date

/-- The first day that is counted. -/
def epoch : Date := ⟨2000, 1, 1⟩

/-- Days since the first of March of the year zero, in years that begin in March. -/
def dayNumber (d : Date) : Int :=
  let year := if d.month ≤ 2 then d.year - 1 else d.year
  let month : Int := if d.month ≤ 2 then d.month + 9 else d.month - 3
  365 * year + year.fdiv 4 - year.fdiv 100 + year.fdiv 400 + (153 * month + 2) / 5 + d.day - 1

def daysSinceEpoch (d : Date) : Int :=
  d.dayNumber - epoch.dayNumber

/-- The year with four digits, or with a sign when it has more or is negative. -/
def yearText (year : Int) : String :=
  if 0 ≤ year ∧ year ≤ 9999 then padded 4 year.toNat
  else (if year < 0 then "-" else "+") ++ padded 4 year.natAbs

/-- Year, month and day, joined by hyphens. -/
def text (d : Date) : String :=
  yearText d.year ++ "-" ++ padded 2 d.month ++ "-" ++ padded 2 d.day

/-- The digits at the front, as a number, and what follows them. -/
def readDigits (s : List Char) : Option (Nat × List Char) :=
  (digitsValue? (s.takeWhile Char.isDigit)).map fun n => (n, s.dropWhile Char.isDigit)

/-- A date at the front, and what follows it. -/
def readFront (s : List Char) : Option (Date × List Char) := do
  let (sign, s) := match s with
    | '-' :: rest => ((-1 : Int), rest)
    | '+' :: rest => (1, rest)
    | _ => (1, s)
  let (year, s) ← readDigits s
  let '-' :: s := s | none
  let (month, s) ← readDigits s
  let '-' :: s := s | none
  let (day, s) ← readDigits s
  some (⟨sign * year, month, day⟩, s)

def ofText? (s : String) : Option Date :=
  match readFront s.toList with
  | some (d, []) => some d
  | _ => none

end Date

namespace Timestamp

def nanosPerSecond : Nat := 1000000000

/-- Microseconds since the epoch, where a leap second is counted with the next second. -/
def microsSinceEpoch (t : Timestamp) : Int :=
  ((t.date.daysSinceEpoch * 86400 + t.seconds) * nanosPerSecond + t.nanos).tdiv 1000

/-- A fraction of a second: nothing when it is zero, else three, six or nine digits. -/
def fractionText (nanos : Nat) : String :=
  if nanos = 0 then ""
  else if nanos % 1000000 = 0 then "." ++ padded 3 (nanos / 1000000)
  else if nanos % 1000 = 0 then "." ++ padded 6 (nanos / 1000)
  else "." ++ padded 9 nanos

/-- The date, a `T`, and hours, minutes, seconds and their fraction; a leap second has the
number 60. -/
def text (t : Timestamp) : String :=
  t.date.text ++ "T" ++ padded 2 (t.seconds / 3600) ++ ":" ++ padded 2 (t.seconds / 60 % 60)
    ++ ":" ++ padded 2 (t.seconds % 60 + t.nanos / nanosPerSecond)
    ++ fractionText (t.nanos % nanosPerSecond)

/-- The nanoseconds that the digits behind a point write; digits after the ninth do not count. -/
def readFraction : List Char → Option Nat
  | [] => some 0
  | '.' :: rest =>
    (digitsValue? rest).map fun _ =>
      ((digitsValue? ((rest ++ List.replicate 9 '0').take 9)).getD 0)
  | _ => none

def ofChars? (s : List Char) : Option Timestamp := do
  let (date, s) ← Date.readFront s
  let 'T' :: s := s | none
  let (hours, s) ← Date.readDigits s
  let ':' :: s := s | none
  let (minutes, s) ← Date.readDigits s
  let ':' :: s := s | none
  let (seconds, s) ← Date.readDigits s
  let fraction ← readFraction s
  let leap := seconds / 60
  some ⟨date, (hours * 60 + minutes) * 60 + seconds - leap, leap * nanosPerSecond + fraction⟩

def ofText? (s : String) : Option Timestamp :=
  ofChars? s.toList

end Timestamp

end Amend
