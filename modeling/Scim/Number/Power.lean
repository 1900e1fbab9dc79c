/-!
# Powers of two and ten, and the limits of machine words
-/

namespace Scim

/-- A power of two. -/
def twoTo (n : Nat) : Nat :=
  Nat.pow 2 n

/-- A power of ten. -/
def tenTo (n : Nat) : Nat :=
  Nat.pow 10 n

/-- The greatest natural number of 32 bits. -/
def maxWord32 : Nat := 4294967295

/-- The greatest natural number of 64 bits. -/
def maxWord64 : Nat := 18446744073709551615

/-- The greatest integer of 64 bits, one of which is the sign. -/
def maxInt64 : Nat := 9223372036854775807

end Scim
