import Scim.Json.Basic
import Scim.Text.Ascii
import Scim.Text.Blank

/-!
# The primary element

At most one element of a multi-valued attribute may be primary.  Flags are read from booleans,
numbers and texts; the first that reads true is kept, every later one becomes false, and a flag that
cannot be read is removed.
-/

namespace Scim.Primary

/-- Reads a flag. -/
def read? : Json → Option Bool
  | .bool b => some b
  | .num n => some !n.isZero
  | .str s =>
    let text := Text.lowerAscii (Text.trimmed s)
    if text = "true" ∨ text = "1" then some true
    else if text = "false" ∨ text = "0" then some false
    else none
  | _ => none

/-- The flag of an element, if it has one that can be read. -/
def flag? (item : Json) : Option Bool :=
  (item.get? "primary").bind read?

/-- The element with its flag read; a true flag is kept only when none is true `before`. -/
def settle (before : Bool) (item : Json) : Json :=
  item.alterMember "primary" fun held =>
    (held.bind read?).map fun flag => .bool (flag && !before)

/-- Settles the flags of a list from the left. -/
def settleAll : Bool → List Json → List Json
  | _, [] => []
  | before, item :: items =>
    settle before item :: settleAll (before || flag? item == some true) items

/-- Settles the flags under one name. -/
def normalize (name : String) (members : Members) : Members :=
  Members.alter name (fun held => held.map fun
    | .arr items => .arr (settleAll false items)
    | j => j) members

/-- Settles the flags of the roles. -/
def normalizeRoles (members : Members) : Members :=
  normalize "roles" members

end Scim.Primary
