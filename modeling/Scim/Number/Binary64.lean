import Scim.Number.Power

/-!
# Finite binary64 numbers

A finite double is `± significand · 2 ^ exponent` in its canonical form: the significand has 53
bits, or fewer when the exponent is the least one.  Every finite double but the two zeros has one
canonical form per value, so equality of numbers is equality of forms with the zeros identified.
Infinities and NaN are not represented: whatever would produce one answers `none`.
-/

namespace Scim

/-- The least significand of 53 bits. -/
def leadingBit : Nat := 4503599627370496

/-- The canonical pairs of significand and exponent. -/
def IsCanonical (significand : Nat) (exponent : Int) : Prop :=
  significand < 2 * leadingBit ∧ -1074 ≤ exponent ∧ exponent ≤ 971
    ∧ (leadingBit ≤ significand ∨ exponent = -1074)

instance (m : Nat) (q : Int) : Decidable (IsCanonical m q) :=
  inferInstanceAs (Decidable (_ ∧ _ ∧ _ ∧ _))

/-- A finite binary64 number. -/
structure Binary64 where
  negative : Bool
  significand : Nat
  exponent : Int
  canonical : IsCanonical significand exponent
deriving DecidableEq

namespace Binary64

/-- Zero with a sign. -/
def zero (negative : Bool) : Binary64 :=
  ⟨negative, 0, -1074, by decide⟩

instance : Inhabited Binary64 := ⟨zero false⟩

/-- The number with these parts, when they are canonical. -/
def ofParts? (negative : Bool) (significand : Nat) (exponent : Int) : Option Binary64 :=
  if h : IsCanonical significand exponent then some ⟨negative, significand, exponent, h⟩ else none

def isZero (x : Binary64) : Bool :=
  x.significand == 0

/-- Equality of values: the two zeros are equal. -/
def sameValue (x y : Binary64) : Bool :=
  (x.isZero && y.isZero) || x == y

/-- The numerator and denominator of the magnitude. -/
def ratio (x : Binary64) : Nat × Nat :=
  if 0 ≤ x.exponent then (x.significand * twoTo x.exponent.toNat, 1)
  else (x.significand, twoTo (-x.exponent).toNat)

/-! ## Rounding -/

/-- The quotient rounded to the nearest natural number, a half to the even neighbour. -/
def roundHalfEven (num den : Nat) : Nat :=
  let floor := num / den
  let rest := 2 * (num % den)
  if rest < den then floor else if den < rest then floor + 1 else floor + floor % 2

/-- The greatest `e` with `2 ^ e ≤ num / den`. -/
def binaryOrder (num den : Nat) : Int :=
  let e : Int := (Nat.log2 num : Int) - Nat.log2 den
  let reached := if 0 ≤ e then den * twoTo e.toNat ≤ num else den ≤ num * twoTo (-e).toNat
  if reached then e else e - 1

/-- The double nearest to `± num / den`, of two the one with the even significand; `none` when the
magnitude rounds beyond the greatest double. -/
def ofRatio? (negative : Bool) (num den : Nat) : Option Binary64 :=
  if num = 0 then some (zero negative)
  else
    let q := max (binaryOrder num den - 52) (-1074)
    let m := if 0 ≤ q then roundHalfEven num (den * twoTo q.toNat)
      else roundHalfEven (num * twoTo (-q).toNat) den
    if m = 2 * leadingBit then ofParts? negative leadingBit (q + 1) else ofParts? negative m q

/-- The double nearest to an integer. -/
def ofInt? (n : Int) : Option Binary64 :=
  ofRatio? (n < 0) n.natAbs 1

/-- The double nearest to `± digits · 10 ^ exponent`.  Exponents far outside the range of doubles
are answered without computing the power. -/
def ofDecimal? (negative : Bool) (digits : Nat) (exponent : Int) : Option Binary64 :=
  if digits = 0 then some (zero negative)
  else if exponent < -400 - (Nat.log2 digits : Int) then some (zero negative)
  else if 400 < exponent then none
  else if 0 ≤ exponent then ofRatio? negative (digits * tenTo exponent.toNat) 1
  else ofRatio? negative digits (tenTo (-exponent).toNat)

/-- The product of two doubles, rounded. -/
def mul? (x y : Binary64) : Option Binary64 :=
  ofRatio? (x.negative != y.negative) (x.ratio.1 * y.ratio.1) (x.ratio.2 * y.ratio.2)

/-- The quotient of two doubles, rounded; `none` for a zero divisor. -/
def div? (x y : Binary64) : Option Binary64 :=
  if y.isZero then none
  else ofRatio? (x.negative != y.negative) (x.ratio.1 * y.ratio.2) (x.ratio.2 * y.ratio.1)

/-! ## Order and integral values -/

/-- Order of the magnitudes. -/
def compareMagnitude (x y : Binary64) : Ordering :=
  compare (x.ratio.1 * y.ratio.2) (y.ratio.1 * x.ratio.2)

/-- Order of the values; the two zeros are equal. -/
def compareValue (x y : Binary64) : Ordering :=
  if x.isZero && y.isZero then .eq
  else match x.negative, y.negative with
    | false, false => compareMagnitude x y
    | true, true => compareMagnitude y x
    | true, false => .lt
    | false, true => .gt

/-- The value, when it is an integer. -/
def toInt? (x : Binary64) : Option Int :=
  let (num, den) := x.ratio
  if num % den = 0 then
    some (if x.negative then -((num / den : Nat) : Int) else ((num / den : Nat) : Int))
  else none

end Binary64

end Scim
