import Scim.Text.CharSet

/-!
# Tables of properties

A table of a property has a row for each of its values.  A row holds the names of the value in
loose form and its code points in hexadecimal, in stretches separated by single spaces: `41` is one
code point, `41-5A` a range, and `100-136/2` every second code point of a range.  Some values are
derived: they have the code points of some rows less those of others.
-/

namespace Scim.Text

/-- A row with its code points. -/
structure NamedRanges where
  names : List String
  lines : List String

/-- A row with the rows from which it is derived. -/
structure DerivedRanges where
  names : List String
  plus : List String
  minus : List String

/-! ## Reading stretches -/

/-- The value of a capital hexadecimal digit. -/
def tableDigit (c : Char) : Nat :=
  if c.isDigit then c.toNat - '0'.toNat else c.toNat - 'A'.toNat + 10

/-- The number in front of a text, and the rest. -/
def tableNumber : Nat → List Char → Nat × List Char
  | n, [] => (n, [])
  | n, c :: cs => if c.isAlphanum then tableNumber (16 * n + tableDigit c) cs else (n, c :: cs)

/-- The single code points `first`, `first + step`, … up to `last`. -/
def everyStep (first last step : Nat) : List (Nat × Nat) :=
  (List.range ((last - first) / step + 1)).map fun i => (first + step * i, first + step * i)

/-- The ranges of a stretch. -/
def stretchRanges (cs : List Char) : List (Nat × Nat) :=
  match tableNumber 0 cs with
  | (first, '-' :: rest) =>
    match tableNumber 0 rest with
    | (last, '/' :: rest) => everyStep first last (tableNumber 0 rest).1
    | (last, _) => [(first, last)]
  | (first, _) => [(first, first)]

/-- Splits a text at its spaces. -/
def spacedWords : List Char → List (List Char)
  | [] => [[]]
  | c :: cs =>
    match spacedWords cs with
    | [] => [[c]]
    | word :: words => if c = ' ' then [] :: word :: words else (c :: word) :: words

/-- The set of the code points of a row. -/
def NamedRanges.set (row : NamedRanges) : CharSet :=
  .ranges (row.lines.flatMap fun line => (spacedWords line.toList).flatMap stretchRanges)

/-! ## Finding rows -/

/-- The set of the row with a name. -/
def rowSet? (rows : List NamedRanges) (name : String) : Option CharSet :=
  (rows.find? fun row => row.names.contains name).map NamedRanges.set

/-- The set of the rows with some names. -/
def rowsSet (rows : List NamedRanges) (names : List String) : CharSet :=
  .unions (names.filterMap (rowSet? rows))

/-- The set of the derived row with a name, from the rows that it is derived from. -/
def derivedSet? (rows : List NamedRanges) (derived : List DerivedRanges) (name : String) :
    Option CharSet :=
  (derived.find? fun row => row.names.contains name).map fun row =>
    if row.minus.isEmpty then rowsSet rows row.plus
    else .diff (rowsSet rows row.plus) (rowsSet rows row.minus)

end Scim.Text
