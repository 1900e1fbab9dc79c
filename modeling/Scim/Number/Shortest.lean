import Scim.Number.Binary64

/-!
# The shortest decimal of a double

Among the decimals that read back as a given double the shortest is wanted, and of the shortest
the one nearest to the double.  The reals that round to `m · 2 ^ q` form an interval around it,
whose ends belong to it exactly when `m` is even.  For one digit, two digits, and so on up to
seventeen, the two decimals of that many digits next to the value are tested in exact arithmetic;
the first count with a hit wins.
-/

namespace Scim

/-- A positive decimal `digits · 10 ^ exponent` whose digits do not end in zero. -/
structure ShortDecimal where
  digits : Nat
  exponent : Int
deriving DecidableEq, Repr

namespace ShortDecimal

/-- Which of two equally near decimals is taken. -/
inductive Tie where
  | even
  | up
deriving DecidableEq

/-- The greatest `e` with `10 ^ e ≤ num / den`. -/
def decimalOrder (num den : Nat) : Int :=
  if den ≤ num then ((Nat.repr (num / den)).length : Int) - 1
  else
    let d := (Nat.repr (den / num)).length
    if den ≤ num * tenTo (d - 1) then -((d : Int) - 1) else -(d : Int)

/-- Drops the zeros at the end of the digits, at most `fuel` of them. -/
def strip : Nat → Nat → Int → ShortDecimal
  | 0, digits, exponent => ⟨digits, exponent⟩
  | fuel + 1, digits, exponent =>
    if digits ≠ 0 ∧ digits % 10 = 0 then strip fuel (digits / 10) (exponent + 1)
    else ⟨digits, exponent⟩

/-- The decimal with `count` digits that rounds to `m · 2 ^ q`, if there is one. -/
def withDigits? (tie : Tie) (m : Nat) (q : Int) (order : Int) (count : Nat) :
    Option ShortDecimal :=
  -- lengths are counted in quarters of the last binary place
  let unitNum := if 2 ≤ q then twoTo (q - 2).toNat else 1
  let unitDen := if 2 ≤ q then 1 else twoTo (2 - q).toNat
  let value := 4 * m
  let low := if m = leadingBit ∧ -1074 < q then value - 1 else value - 2
  let high := value + 2
  let grid := order - count + 1
  let gridUp := tenTo grid.toNat
  let gridDown := tenTo (-grid).toNat
  let real (x : Nat) := x * unitNum * gridDown
  let decimal (t : Nat) := t * gridUp * unitDen
  let inside (t : Nat) : Bool :=
    if m % 2 = 0 then real low ≤ decimal t && decimal t ≤ real high
    else real low < decimal t && decimal t < real high
  let below := real value / decimal 1
  let gapBelow := real value - decimal below
  let gapAbove := decimal (below + 1) - real value
  let choice : Option Nat :=
    match inside below, inside (below + 1) with
    | true, false => some below
    | false, true => some (below + 1)
    | false, false => none
    | true, true =>
      if gapBelow < gapAbove then some below
      else if gapAbove < gapBelow then some (below + 1)
      else match tie with
        | .up => some (below + 1)
        | .even => some (below + below % 2)
  choice.map fun t => strip 20 t grid

/-- The shortest decimal of the positive double `m · 2 ^ q`. -/
def ofDouble (tie : Tie) (m : Nat) (q : Int) : ShortDecimal :=
  let order := if 0 ≤ q then decimalOrder (m * twoTo q.toNat) 1 else decimalOrder m (twoTo (-q).toNat)
  ((List.range 17).findSome? fun i => withDigits? tie m q order (i + 1)).getD ⟨m, 0⟩

/-! ## Positional and scientific notation -/

/-- `count` zeros. -/
def zeros (count : Nat) : String :=
  String.ofList (List.replicate count '0')

/-- Positional notation; integral values end in `fraction`. -/
def positional (fraction : String) (d : ShortDecimal) : String :=
  let digits := Nat.repr d.digits
  let count := digits.length
  if 0 ≤ d.exponent then digits ++ zeros d.exponent.toNat ++ fraction
  else
    let places := (-d.exponent).toNat
    if places < count then
      String.ofList (digits.toList.take (count - places)) ++ "."
        ++ String.ofList (digits.toList.drop (count - places))
    else "0." ++ zeros (places - count) ++ digits

/-- The exponent of the first digit. -/
def scientificExponent (d : ShortDecimal) : Int :=
  d.exponent + ((Nat.repr d.digits).length : Int) - 1

/-- One digit before the point and a signed exponent. -/
def scientific (d : ShortDecimal) : String :=
  let e := d.scientificExponent
  let mantissa := match (Nat.repr d.digits).toList with
    | [] => ""
    | [c] => String.singleton c
    | c :: rest => String.singleton c ++ "." ++ String.ofList rest
  mantissa ++ (if 0 ≤ e then "e+" else "e-") ++ Nat.repr e.natAbs

end ShortDecimal

namespace Binary64

/-- The text of a double in a JSON document: positional from `1e-5` up to below `1e16`, always with
a fraction, and scientific otherwise; a tie between two shortest decimals goes to the even one. -/
def jsonText (x : Binary64) : String :=
  let sign := if x.negative then "-" else ""
  if x.isZero then sign ++ "0.0"
  else
    let d := ShortDecimal.ofDouble .even x.significand x.exponent
    let e := d.scientificExponent
    sign ++ (if -5 ≤ e ∧ e < 16 then d.positional ".0" else d.scientific)

/-- The text of a double in positional notation without an idle fraction; a tie goes up. -/
def plainText (x : Binary64) : String :=
  let sign := if x.negative then "-" else ""
  if x.isZero then sign ++ "0"
  else sign ++ (ShortDecimal.ofDouble .up x.significand x.exponent).positional ""

end Binary64

end Scim
