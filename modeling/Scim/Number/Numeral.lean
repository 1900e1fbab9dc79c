import Scim.Number.Shortest
import Scim.Text.Ascii

/-!
# Numerals

Two grammars of decimal numerals are read here.

* A *free numeral* has an optional sign, digits with at most one point (a digit on one side of it
  is enough) and an optional exponent; it is rounded correctly to the nearest double.
* A *document numeral* follows the JSON grammar.  Without fraction and exponent it is an integer as
  long as it fits 64 bits.  Otherwise its digits are gathered into a 64 bit significand, digits
  that no longer fit count as powers of ten in front of the point and are dropped behind it, and
  the significand is scaled by one power of ten in binary64 arithmetic.
-/

namespace Scim.Numeral

/-- The number written by ASCII digits. -/
def value (digits : List Char) : Nat :=
  digits.foldl (fun n c => 10 * n + (c.toNat - '0'.toNat)) 0

/-- Splits the ASCII digits off the start. -/
def spanDigits (cs : List Char) : List Char × List Char :=
  (cs.takeWhile Char.isDigit, cs.dropWhile Char.isDigit)

/-- Splits an optional sign off the start; `true` stands for minus. -/
def sign : List Char → Bool × List Char
  | '-' :: cs => (true, cs)
  | '+' :: cs => (false, cs)
  | cs => (false, cs)

/-- A digit string as a natural number; the empty string is none. -/
def natural? (cs : List Char) : Option Nat :=
  if cs ≠ [] ∧ cs.all Char.isDigit then some (value cs) else none

/-- A natural number of at most `limit`, with an optional plus sign. -/
def boundedNatural? (limit : Nat) (cs : List Char) : Option Nat :=
  let digits := match cs with
    | '+' :: rest => rest
    | _ => cs
  (natural? digits).filter (· ≤ limit)

/-! ## Free numerals -/

/-- The exponent after `e`: an optional sign and at least one digit, and nothing more. -/
def exponent? (cs : List Char) : Option Int :=
  let (negative, digits) := sign cs
  (natural? digits).map fun n => if negative then -(n : Int) else n

/-- The finite double that a free numeral denotes. -/
def free? (text : String) : Option Binary64 :=
  let (negative, body) := sign text.toList
  let (whole, afterWhole) := spanDigits body
  let (fraction, afterFraction) := match afterWhole with
    | '.' :: cs => spanDigits cs
    | cs => ([], cs)
  let exponent := match afterFraction with
    | [] => some 0
    | c :: cs => if c = 'e' ∨ c = 'E' then exponent? cs else none
  if whole = [] ∧ fraction = [] then none
  else exponent.bind fun e =>
    Binary64.ofDecimal? negative (value (whole ++ fraction)) (e - fraction.length)

/-! ## Document numerals -/

/-- A number of a document. -/
inductive Reading where
  | int (n : Int)
  | float (x : Binary64)

/-- The greatest significand. -/
def significandLimit : Nat := maxWord64

/-- Gathers digits before the point.  Answers the significand and the count of digits from the
first that does not fit. -/
def gatherWhole : Nat → List Char → Nat × Nat
  | significand, [] => (significand, 0)
  | significand, c :: cs =>
    let next := 10 * significand + (c.toNat - '0'.toNat)
    if next ≤ significandLimit then gatherWhole next cs else (significand, cs.length + 1)

/-- Gathers digits behind the point up to the first that does not fit.  Answers the significand and
the count of digits gathered. -/
def gatherFraction : Nat → List Char → Nat × Nat
  | significand, [] => (significand, 0)
  | significand, c :: cs =>
    let next := 10 * significand + (c.toNat - '0'.toNat)
    if next ≤ significandLimit then
      let (all, count) := gatherFraction next cs
      (all, count + 1)
    else (significand, 0)

/-- The double nearest to a power of ten. -/
def powerOfTen? (n : Nat) : Option Binary64 :=
  Binary64.ofDecimal? false 1 n

/-- Scales a double by `10 ^ exponent` with one rounded operation; exponents below those of the
doubles are reached in steps of `10 ^ 308`, at most `fuel` of them. -/
def scale? : Nat → Binary64 → Int → Option Binary64
  | 0, x, _ => some x
  | fuel + 1, x, exponent =>
    if x.isZero then some x
    else if 308 < exponent then none
    else if 0 ≤ exponent then (powerOfTen? exponent.toNat).bind x.mul?
    else if -308 ≤ exponent then (powerOfTen? (-exponent).toNat).bind x.div?
    else (powerOfTen? 308).bind x.div? |>.bind fun y => scale? fuel y (exponent + 308)

/-- The double `± significand · 10 ^ exponent` of a document; `none` beyond the greatest double.
Three steps of `10 ^ 308` bring every significand to zero. -/
def scaled? (negative : Bool) (significand : Nat) (exponent : Int) : Option Binary64 :=
  ((Binary64.ofInt? significand).bind fun x => scale? 4 x exponent).map
    fun x => { x with negative := negative }

/-- Exponents are read up to this bound; beyond it only zero significands and negative exponents
have a value, which is zero. -/
def exponentLimit : Nat := 2147483647

/-- The number of a document numeral from its parts: sign, digits before the point, digits behind
it, and the exponent with its sign. -/
def document? (negative : Bool) (whole : List Char) (fraction : Option (List Char))
    (exponent : Option (Bool × List Char)) : Option Reading :=
  let (head, extra) := gatherWhole 0 whole
  if fraction.isNone ∧ exponent.isNone ∧ extra = 0
      ∧ (negative = false ∨ (head ≠ 0 ∧ head ≤ maxInt64 + 1)) then
    some (.int (if negative then -(head : Int) else head))
  else
    let (significand, places) := gatherFraction head (fraction.getD [])
    let start : Int := (extra : Int) - places
    match exponent with
    | none => (scaled? negative significand start).map .float
    | some (down, digits) =>
      let e := value digits
      if exponentLimit < e then
        if significand ≠ 0 ∧ !down then none else some (.float (.zero negative))
      else (scaled? negative significand (if down then start - e else start + e)).map .float

/-! ## Integers at the start of a text -/

/-- The integer of the leading digits of a text behind an optional sign, capped at `cap` before the
sign applies; a text without leading digits has none. -/
def leading? (cap : Nat) (cs : List Char) : Option Int :=
  let (negative, body) := sign cs
  let digits := (spanDigits body).1
  if digits = [] then none
  else
    let n := min (value digits) cap
    some (if negative then -(n : Int) else n)

end Scim.Numeral
