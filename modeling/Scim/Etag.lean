import Scim.Text.Blank
import Scim.Text.Case
import Scim.Number.Numeral

/-!
# Weak entity tags

The version of a resource is shown as the weak tag `W/"n"`.  A header is searched for the first weak
tag around decimal digits of any script; the tag names a version when its digits are ASCII and the
number fits 64 bits.
-/

namespace Scim.Etag

/-- What a weak tag starts with. -/
def opening : List Char := ['W', '/', '"']

/-- The weak tag of a version. -/
def weak (version : Nat) : String :=
  "W/\"" ++ Nat.repr version ++ "\""

/-- The digits of a weak tag at the start of a text. -/
def digitsAt? (cs : List Char) : Option (List Char) :=
  match Text.dropWord? opening cs with
  | none => none
  | some rest =>
    let digits := rest.takeWhile Text.isDecimalDigit
    let after := rest.dropWhile Text.isDecimalDigit
    if digits ≠ [] ∧ after.head? = some '"' then some digits else none

/-- The digits of the first weak tag in a text. -/
def firstDigits? : List Char → Option (List Char)
  | [] => none
  | c :: cs =>
    match digitsAt? (c :: cs) with
    | some digits => some digits
    | none => firstDigits? cs

/-- The version that the first weak tag of a header names. -/
def version? (header : String) : Option Nat :=
  (firstDigits? header.toList).bind (Numeral.boundedNatural? maxWord64)

/-- Whether a precondition holds for the current version: an absent or blank one and `*` always
do. -/
def permits (precondition : Option String) (version : Nat) : Bool :=
  match precondition.map Text.trimmed with
  | none => true
  | some header => header = "" || header = "*" || version? header == some version

end Scim.Etag
