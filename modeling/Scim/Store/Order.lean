import Scim.Filter.Match

/-!
# The order of documents

Documents are ordered by the first value at a path.  Missing values and `null` come first, then
numbers by value, strings by their characters, objects, arrays, and booleans with `false` before
`true`; objects are not told apart from one another, and neither are arrays.
-/

namespace Scim

inductive SortOrder where
  | ascending
  | descending
deriving DecidableEq, Repr

namespace SortOrder

/-- Only `descending`, in any case and with blanks around it, asks for the descending order. -/
def ofText : Option String → SortOrder
  | none => ascending
  | some text =>
    if Text.eqIgnoreAsciiCase (Text.trimmed text) "descending" then descending else ascending

end SortOrder

/-- What documents are ordered by. -/
structure SortSpec where
  path : String
  order : SortOrder
deriving DecidableEq, Repr

namespace Json

/-- The rank of the kind of a value. -/
def sortRank : Json → Nat
  | null => 0
  | num _ => 1
  | str _ => 2
  | obj _ => 3
  | arr _ => 4
  | bool _ => 5

end Json

/-- Order of numbers by value. -/
def Number.compareValue (a b : Number) : Ordering :=
  match a.toDouble?, b.toDouble? with
  | some x, some y => x.compareValue y
  | none, none => .eq
  | none, some _ => .lt
  | some _, none => .gt

namespace Collation

/-- The text by which a string is ordered. -/
def sortKey : Collation → String → String
  | simple, s => s
  | ignoreCase, s => Text.lowercase s

/-- Order of values. -/
def compare (collation : Collation) : Json → Json → Ordering
  | .num a, .num b => a.compareValue b
  | .str a, .str b => Ord.compare (collation.sortKey a) (collation.sortKey b)
  | .bool a, .bool b => Ord.compare a b
  | a, b => Ord.compare a.sortRank b.sortRank

end Collation

namespace SortSpec

/-- The value by which a document is ordered; a missing one counts as `null`. -/
def key (spec : SortSpec) (document : Json) : Json :=
  (document.resolve spec.path).head?.getD .null

/-- Order of documents, ascending. -/
def compare (spec : SortSpec) (collation : Collation) (a b : Json) : Ordering :=
  collation.compare (spec.key a) (spec.key b)

/-- Whether one document may stand before another. -/
def mayPrecede (spec : SortSpec) (collation : Collation) (a b : Json) : Bool :=
  match spec.order with
  | .ascending => spec.compare collation a b != .gt
  | .descending => spec.compare collation a b != .lt

end SortSpec

end Scim
