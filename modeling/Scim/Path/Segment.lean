import Scim.Json.Basic
import Scim.Path.Split
import Scim.Text.Blank
import Scim.Text.Case

/-!
# Segments of a path

A segment names an attribute, and `key[attribute eq value]` narrows a multi-valued one to its
elements with an equal sub-attribute.  A bracket that holds something else is dropped and only the
key is kept.
-/

namespace Scim

/-- Selects the elements of a multi-valued attribute by the value of a sub-attribute. -/
structure ElementFilter where
  name : String
  value : Json

/-- One step of a path. -/
structure Segment where
  raw : String
  key : String
  filter : Option ElementFilter

/-! ## The value of a filter -/

/-- The text without a pair of equal quotes around it. -/
def unquote : List Char → List Char
  | [] => []
  | c :: cs =>
    if (c = '"' ∨ c = '\'') ∧ cs.getLast? = some c then cs.dropLast else c :: cs

/-- The bound below which an integral number in a path is an integer. -/
def pathIntegerBound : Nat := tenTo 15

/-- The number of which a text is the canonical spelling. -/
def canonicalNumber? (text : String) : Option Number :=
  (Numeral.free? text).bind fun x =>
    match x.toInt?.filter (·.natAbs < pathIntegerBound) with
    | some n => if (Number.int n).text = text then some (.int n) else none
    | none => if x.plainText = text then some (.float x) else none

/-- The value a filter compares with: without quotes, `true` and `1` are true, `false` and `0` are
false, the canonical spelling of a number is the number, and all else is text. -/
def comparableValue (raw : String) : Json :=
  let text := String.ofList (unquote (Text.trim raw.toList))
  let small := Text.lowerAscii text
  if small = "true" ∨ small = "1" then .bool true
  else if small = "false" ∨ small = "0" then .bool false
  else match canonicalNumber? text with
    | some n => .num n
    | none => .str text

namespace ElementFilter

/-- Equality of a sub-attribute with the value: strings without regard to case, numbers by value,
booleans; values of other kinds are never equal. -/
def sameScalar : Json → Json → Bool
  | .str a, .str b => Text.eqIgnoreCase a b
  | .num a, .num b => a.sameValue b
  | .bool a, .bool b => a == b
  | _, _ => false

/-- Whether an element is selected. -/
def selects (f : ElementFilter) (item : Json) : Bool :=
  match item.get? f.name with
  | some actual => sameScalar actual f.value
  | none => false

/-- The members of a fresh element that carries the sub-attribute alone. -/
def seed (f : ElementFilter) : Members :=
  [(f.name, f.value)]

/-- Behind `eq`, at least one blank and then the value.  Where only blanks follow, the last of
several is the value. -/
def conditionValue? (cs : List Char) : Option (List Char) :=
  let blanks := cs.takeWhile Text.isBlank
  let rest := cs.dropWhile Text.isBlank
  if blanks.isEmpty then none
  else if !rest.isEmpty then some rest
  else if 2 ≤ blanks.length then blanks.getLast?.map ([·])
  else none

/-- Reads `attribute eq value`, with `eq` in any case. -/
def ofChars? (cs : List Char) : Option ElementFilter :=
  let body := Text.trimStart cs
  let name := body.takeWhile (!Text.isBlank ·)
  let behind := body.dropWhile (!Text.isBlank ·)
  if name.isEmpty || behind.isEmpty then none
  else
    (Text.dropWordIgnoreCase? ['e', 'q'] (Text.trimStart behind)).bind fun rest =>
      (conditionValue? rest).map fun value =>
        ⟨String.ofList name, comparableValue (String.ofList value)⟩

end ElementFilter

namespace Segment

/-- The key and the content of the bracket of a segment that ends in one.  The key is not empty and
neither is the content, and there is no line break. -/
def bracket? : List Char → Option (List Char × List Char)
  | [] => none
  | c :: cs =>
    let key := c :: cs.takeWhile (· != '[')
    let content := ((cs.dropWhile (· != '[')).drop 1)
    if content.getLast? = some ']' ∧ 2 ≤ content.length ∧ '\n' ∉ c :: cs then
      some (key, content.dropLast)
    else none

/-- The segment that a text spells. -/
def ofText (raw : String) : Segment :=
  match bracket? raw.toList with
  | some (key, content) => ⟨raw, String.ofList key, ElementFilter.ofChars? content⟩
  | none => ⟨raw, raw, none⟩

/-- The segments of a path. -/
def ofPath (path : String) : List Segment :=
  (Path.split (Path.normalize path)).map ofText

end Segment

end Scim
