import Scim.Json.Basic
import Scim.Text.CodePoint

/-!
# Numbers, dates and times of configuration files

Integers have 64 bits and a sign, and may be written in other bases.  Underscores may stand between
digits.  A date, a time, or both with or without an offset is one value.
-/

namespace Scim.Toml

/-! ## Numbers -/

/-- Drops the underscores of a numeral; each has to stand between two digits. -/
def dropUnderscores? (isDigit : Char → Bool) : Bool → List Char → Option (List Char)
  | behindDigit, [] => if behindDigit then some [] else none
  | behindDigit, '_' :: c :: cs =>
    if behindDigit && isDigit c then (dropUnderscores? isDigit true cs).map (c :: ·) else none
  | _, c :: cs => if isDigit c then (dropUnderscores? isDigit true cs).map (c :: ·) else none

/-- The decimal digits of a numeral without its underscores. -/
def decimals? (cs : List Char) : Option (List Char) :=
  dropUnderscores? Char.isDigit false cs

/-- An integer of 64 bits with its sign. -/
def signed64? (negative : Bool) (n : Nat) : Option Number :=
  if negative then if n ≤ maxInt64 + 1 then some (.int (-(n : Int))) else none
  else if n ≤ maxInt64 then some (.int n) else none

/-- Digits without a superfluous zero in front. -/
def plainDigits? (cs : List Char) : Option (List Char) :=
  (decimals? cs).filter fun ds => ds.length = 1 || ds.head? != some '0'

/-- An integer in another base behind its mark. -/
def based? (base : Nat) (cs : List Char) : Option Number := do
  let isDigit (c : Char) : Bool := (Text.hexDigit? c).any (· < base)
  let ds ← dropUnderscores? isDigit false cs
  signed64? false (ds.foldl (fun n c => base * n + (Text.hexDigit? c).getD 0) 0)

/-- A float from its parts.  One above the greatest double is refused.  One below the least double
is taken, and as no setting takes a float, it is read as the float zero. -/
def float? (negative : Bool) (whole : List Char) (fraction exponent : Option (List Char)) :
    Option Number := do
  let whole ← plainDigits? whole
  let fraction ← match fraction with
    | some ds => decimals? ds
    | none => some []
  let e ← match exponent with
    | some cs =>
      let (down, ds) := Numeral.sign cs
      (decimals? ds).map fun ds => if down then -(Numeral.value ds : Int) else Numeral.value ds
    | none => some 0
  let x := Binary64.ofDecimal? negative (Numeral.value (whole ++ fraction)) (e - fraction.length)
  Number.float <$> x.or (if negative then some (.zero true) else none)

/-- The number that a word spells. -/
def numberOfWord? (word : List Char) : Option Number :=
  match word with
  | '0' :: 'x' :: cs => based? 16 cs
  | '0' :: 'o' :: cs => based? 8 cs
  | '0' :: 'b' :: cs => based? 2 cs
  | _ =>
    let (negative, body) := Numeral.sign word
    let isExponent (c : Char) : Bool := c = 'e' || c = 'E'
    let mantissa := body.takeWhile (!isExponent ·)
    let exponent := match body.dropWhile (!isExponent ·) with
      | [] => none
      | _ :: cs => some cs
    let whole := mantissa.takeWhile (· != '.')
    let fraction := match mantissa.dropWhile (· != '.') with
      | [] => none
      | _ :: cs => some cs
    if fraction.isNone ∧ exponent.isNone then
      (plainDigits? whole).bind fun ds => signed64? negative (Numeral.value ds)
    else float? negative whole fraction exponent

/-- The value of a word.  Infinity and the value that is no number have no form in JSON; no setting
takes a float, so both are read as the float zero. -/
def wordValue? (word : List Char) : Option Json :=
  match String.ofList word with
  | "true" => some (.bool true)
  | "false" => some (.bool false)
  | "inf" | "+inf" | "-inf" | "nan" | "+nan" | "-nan" => some (.num (.float (.zero false)))
  | _ => (numberOfWord? word).map .num

/-! ## Dates and times -/

/-- A number of exactly `count` digits between two bounds, and the rest. -/
def fixedDigits? (count low high : Nat) (cs : List Char) : Option (Nat × List Char) :=
  let ds := cs.take count
  let n := Numeral.value ds
  if ds.length = count ∧ ds.all Char.isDigit ∧ low ≤ n ∧ n ≤ high then some (n, cs.drop count)
  else none

/-- What follows a character. -/
def after? (c : Char) : List Char → Option (List Char)
  | d :: rest => if c = d then some rest else none
  | [] => none

/-- The days of a month. -/
def daysInMonth (year month : Nat) : Nat :=
  if month = 2 then
    if year % 4 = 0 ∧ (year % 100 ≠ 0 ∨ year % 400 = 0) then 29 else 28
  else if month = 4 ∨ month = 6 ∨ month = 9 ∨ month = 11 then 30
  else 31

/-- What follows a date. -/
def date? (cs : List Char) : Option (List Char) := do
  let (year, cs) ← fixedDigits? 4 0 9999 cs
  let (month, cs) ← fixedDigits? 2 1 12 (← after? '-' cs)
  let (_, cs) ← fixedDigits? 2 1 (daysInMonth year month) (← after? '-' cs)
  pure cs

/-- What follows a fraction of a second, if there is one. -/
def skipFraction : List Char → List Char
  | '.' :: c :: rest => if c.isDigit then rest.dropWhile Char.isDigit else '.' :: c :: rest
  | cs => cs

/-- What follows a time of day. -/
def time? (cs : List Char) : Option (List Char) := do
  let (_, cs) ← fixedDigits? 2 0 23 cs
  let (_, cs) ← fixedDigits? 2 0 59 (← after? ':' cs)
  let (_, cs) ← fixedDigits? 2 0 60 (← after? ':' cs)
  pure (skipFraction cs)

/-- What follows an offset from UTC. -/
def offset? : List Char → Option (List Char)
  | [] => none
  | c :: cs =>
    if c = 'Z' ∨ c = 'z' then some cs
    else if c = '+' ∨ c = '-' then do
      let (_, cs) ← fixedDigits? 2 0 23 cs
      let (_, cs) ← fixedDigits? 2 0 59 (← after? ':' cs)
      pure cs
    else none

/-- What follows a time of day behind a date, with its offset. -/
def timeBehindDate? : List Char → Option (List Char)
  | [] => none
  | c :: cs =>
    if c = 'T' ∨ c = 't' ∨ c = ' ' then
      (time? cs).map fun rest => (offset? rest).getD rest
    else none

/-- What follows a date, a time, or both. -/
def moment? (cs : List Char) : Option (List Char) :=
  match date? cs with
  | some rest => some ((timeBehindDate? rest).getD rest)
  | none => time? cs

/-- The value of a date or time is an object that holds its text. -/
def momentValue? (cs : List Char) : Option (Json × List Char) :=
  (moment? cs).map fun rest =>
    (.obj [("datetime", .str (String.ofList (cs.take (cs.length - rest.length))))], rest)

end Scim.Toml
