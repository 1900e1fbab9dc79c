import Scim.Number.Numeral

/-!
# Numbers of a document

An integer and a double are different numbers even where their values agree (`2` is not `2.0`);
where values are compared, integers are first rounded to doubles.
-/

namespace Scim

/-- A number: an integer of at most 64 bits, or a finite double. -/
inductive Number where
  | int (n : Int)
  | float (x : Binary64)
deriving DecidableEq, Inhabited

namespace Number

instance : Coe Nat Number := ⟨fun n => .int n⟩

/-- The double nearest to the number. -/
def toDouble? : Number → Option Binary64
  | int n => Binary64.ofInt? n
  | float x => some x

/-- Structural equality: same kind and same value. -/
def same : Number → Number → Bool
  | int m, int n => m == n
  | float x, float y => x.sameValue y
  | _, _ => false

/-- Equality of values after rounding to doubles. -/
def sameValue (a b : Number) : Bool :=
  match a.toDouble?, b.toDouble? with
  | some x, some y => x.sameValue y
  | none, none => true
  | _, _ => false

def isZero (a : Number) : Bool :=
  (a.toDouble?.map Binary64.isZero).getD false

/-- The number as a document spells it. -/
def text : Number → String
  | int n => if n < 0 then "-" ++ Nat.repr n.natAbs else Nat.repr n.natAbs
  | float x => x.jsonText

/-- The value as a natural number of 64 bits; doubles have none. -/
def toNatural? : Number → Option Nat
  | int n => if 0 ≤ n ∧ n ≤ maxWord64 then some n.toNat else none
  | float _ => none

theorem same_self (a : Number) : a.same a = true := by
  cases a <;> simp [same, Binary64.sameValue]

theorem sameValue_self (a : Number) : a.sameValue a = true := by
  unfold sameValue
  cases a.toDouble? <;> simp [Binary64.sameValue]

theorem sameValue_comm (a b : Number) : a.sameValue b = b.sameValue a := by
  have h (x y : Binary64) : x.sameValue y = y.sameValue x := by
    simp [Binary64.sameValue, Bool.and_comm, Bool.beq_comm]
  unfold sameValue
  cases a.toDouble? <;> cases b.toDouble? <;> simp [h]

end Number

end Scim
