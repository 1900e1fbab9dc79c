import Scim.Number.Numeral
import Scim.Text.Blank

/-!
# Points in time

A point in time is counted in seconds and nanoseconds from the start of 1970 in UTC.  It is written
in the RFC 3339 form with `Z` and with 0, 3, 6 or 9 digits of a fraction, the fewest that lose
nothing.  Reading takes any offset, blanks around the separators, and a space or a small letter in
place of `T`.
-/

namespace Scim

/-- A point in time.  A leap second has its nanoseconds beyond one second. -/
structure Timestamp where
  seconds : Int
  nanos : Nat
deriving DecidableEq, Repr, Inhabited

namespace Timestamp

/-! ## The calendar -/

/-- Days from the start of 1970 to a date of the proleptic Gregorian calendar.  Years are counted
from March, so that the leap day is the last of its year. -/
def daysOfDate (year : Int) (month day : Nat) : Int :=
  let y := if month ≤ 2 then year - 1 else year
  let shifted := (month + 9) % 12
  y * 365 + y / 4 - y / 100 + y / 400 + ((153 * shifted + 2) / 5 + day - 1 : Nat) - 719468

/-- The date a number of days from the start of 1970. -/
def dateOfDays (days : Int) : Int × Nat × Nat :=
  let z := days + 719468
  let era := z / 146097
  let dayOfEra := (z % 146097).toNat
  let yearOfEra := (dayOfEra - dayOfEra / 1460 + dayOfEra / 36524 - dayOfEra / 146096) / 365
  let dayOfYear := dayOfEra - (365 * yearOfEra + yearOfEra / 4 - yearOfEra / 100)
  let shifted := (5 * dayOfYear + 2) / 153
  let day := dayOfYear - (153 * shifted + 2) / 5 + 1
  let month := if shifted < 10 then shifted + 3 else shifted - 9
  let year := era * 400 + yearOfEra
  (if month ≤ 2 then year + 1 else year, month, day)

def isLeapYear (year : Int) : Bool :=
  year % 4 = 0 && (year % 100 ≠ 0 || year % 400 = 0)

def daysInMonth (year : Int) (month : Nat) : Nat :=
  if month = 2 then if isLeapYear year then 29 else 28
  else if month = 4 ∨ month = 6 ∨ month = 9 ∨ month = 11 then 30
  else 31

/-! ## Writing -/

/-- A number with at least `width` digits. -/
def padded (width n : Nat) : String :=
  let digits := Nat.repr n
  String.ofList (List.replicate (width - digits.length) '0') ++ digits

/-- The fraction of a second with the fewest of 0, 3, 6 or 9 digits. -/
def fractionText (nanos : Nat) : String :=
  if nanos = 0 then ""
  else if nanos % 1000000 = 0 then "." ++ padded 3 (nanos / 1000000)
  else if nanos % 1000 = 0 then "." ++ padded 6 (nanos / 1000)
  else "." ++ padded 9 nanos

/-- Years outside of 0 to 9999 carry a sign. -/
def yearText (year : Int) : String :=
  if 0 ≤ year ∧ year ≤ 9999 then padded 4 year.natAbs
  else (if year < 0 then "-" else "+") ++ padded 4 year.natAbs

/-- The RFC 3339 form in UTC with a given fraction. -/
def textWith (fraction : String) (t : Timestamp) : String :=
  let (year, month, day) := dateOfDays (t.seconds / 86400)
  let clock := (t.seconds % 86400).toNat
  let leap := t.nanos / 1000000000
  yearText year ++ "-" ++ padded 2 month ++ "-" ++ padded 2 day ++ "T"
    ++ padded 2 (clock / 3600) ++ ":" ++ padded 2 (clock / 60 % 60) ++ ":"
    ++ padded 2 (clock % 60 + leap) ++ fraction ++ "Z"

/-- The RFC 3339 form in UTC with the shortest fraction. -/
def text (t : Timestamp) : String :=
  t.textWith (fractionText (t.nanos % 1000000000))

/-- The RFC 3339 form in UTC with milliseconds. -/
def milliText (t : Timestamp) : String :=
  t.textWith ("." ++ padded 3 (t.nanos % 1000000000 / 1000000))

/-! ## Reading -/

/-- Why a text is no point in time. -/
inductive ReadError where
  | invalid
  | tooShort
  | tooLong
  | outOfRange
deriving DecidableEq, Repr

/-- The text of the error. -/
def ReadError.message : ReadError → String
  | invalid => "input contains invalid characters"
  | tooShort => "premature end of input"
  | tooLong => "trailing input"
  | outOfRange => "input is out of range"

/-- At least one and at most `width` digits, behind blanks. -/
def digits (width : Nat) (cs : List Char) : Except ReadError (List Char × List Char) :=
  match cs with
  | [] => .error .tooShort
  | c :: _ =>
    let found := (cs.take width).takeWhile Char.isDigit
    if c.isDigit then .ok (found, cs.drop found.length) else .error .invalid

/-- A number of at most `width` digits, behind blanks. -/
def number (width : Nat) (cs : List Char) : Except ReadError (Nat × List Char) := do
  let (ds, rest) ← digits width (Text.trimStart cs)
  pure (Numeral.value ds, rest)

/-- A year: four digits, or any number of them behind a sign. -/
def year (cs : List Char) : Except ReadError (Int × List Char) :=
  match Text.trimStart cs with
  | '-' :: rest => do
    let (ds, rest) ← digits rest.length rest
    pure (-(Numeral.value ds : Int), rest)
  | '+' :: rest => do
    let (ds, rest) ← digits rest.length rest
    pure (Numeral.value ds, rest)
  | cs => do
    let (ds, rest) ← digits 4 cs
    pure (Numeral.value ds, rest)

/-- A separator, behind blanks. -/
def separator (c : Char) (cs : List Char) : Except ReadError (List Char) :=
  match Text.trimStart cs with
  | [] => .error .tooShort
  | d :: rest => if c = d then .ok rest else .error .invalid

/-- The bounds of a part of a date or time. -/
def within (low high : Int) (n : Int) : Except ReadError Unit :=
  if low ≤ n ∧ n ≤ high then .ok () else .error .outOfRange

/-- What stands between the date and the time. -/
def dateEnd : List Char → Except ReadError (List Char)
  | [] => .error .tooShort
  | c :: rest => if c = 'T' ∨ c = 't' ∨ c = ' ' then .ok rest else .error .invalid

/-- An optional fraction of a second in nanoseconds; digits behind the ninth are ignored. -/
def fraction (cs : List Char) : Except ReadError (Nat × List Char) :=
  match cs with
  | '.' :: rest => do
    let (ds, after) ← digits 9 rest
    pure (Numeral.value ds * tenTo (9 - ds.length), after.dropWhile Char.isDigit)
  | _ => .ok (0, cs)

/-- Two digits at the start of a text. -/
def twoDigits (cs : List Char) : Except ReadError (Nat × List Char) :=
  match cs with
  | a :: b :: rest =>
    if a.isDigit ∧ b.isDigit then .ok (Numeral.value [a, b], rest) else .error .invalid
  | _ => .error .tooShort

/-- An offset from UTC in seconds: `Z`, `UTC`, or a sign, two digits of hours and two of minutes. -/
def offset (cs : List Char) : Except ReadError (Int × List Char) :=
  match Text.dropWordIgnoreCase? ['U', 'T', 'C'] cs with
  | some rest => .ok (0, rest)
  | none =>
    match cs with
    | [] => .error .tooShort
    | c :: rest =>
      if c = 'Z' ∨ c = 'z' then .ok (0, rest)
      else if c = '+' ∨ c = '-' ∨ c = '\u2212' then do
        let (hours, rest) ← twoDigits rest
        let (minutes, rest) ← twoDigits (rest.dropWhile fun c => c = ':' || Text.isBlank c)
        if 60 ≤ minutes then throw .outOfRange
        let seconds : Int := hours * 3600 + minutes * 60
        pure (if c = '+' then seconds else -seconds, rest)
      else .error .invalid

/-- Years that a date may have. -/
def yearBound : Int := 262142

/-- The point in time that a text denotes. -/
def ofText (text : String) : Except ReadError Timestamp := do
  let (y, cs) ← year text.toList
  let cs ← separator '-' cs
  let (month, cs) ← number 2 cs
  within 1 12 month
  let cs ← separator '-' cs
  let (day, cs) ← number 2 cs
  within 1 31 day
  let cs ← dateEnd cs
  let (hour, cs) ← number 2 cs
  within 0 23 hour
  let cs ← separator ':' cs
  let (minute, cs) ← number 2 cs
  within 0 59 minute
  let cs ← separator ':' cs
  let (second, cs) ← number 2 cs
  within 0 60 second
  let (nanos, cs) ← fraction cs
  let (shift, cs) ← offset (Text.trimStart cs)
  if Text.trimStart cs ≠ [] then throw .tooLong
  within (-yearBound) yearBound y
  within 1 (daysInMonth y month) day
  within (-86399) 86399 shift
  let clock := hour * 3600 + minute * 60 + min second 59
  pure ⟨daysOfDate y month day * 86400 + clock - shift,
    nanos + if second = 60 then 1000000000 else 0⟩

end Timestamp

end Scim
