import Scim.Json.Writer
import Scim.Text.Shown

/-!
# Typed values from JSON

A typed value is read from JSON by a decoder.  A record is read from an object, or from an array
that lists its fields in the order of their declaration.

* In an object the members are visited in the order of their keys, and the first one that its field
  cannot read is reported; after that the first field that is missing, in the order of declaration.
  Unknown members are ignored.
* In an array the items are read in order; an array that ends before a field without a default is
  too short, and one with more items than fields is too long.
-/

namespace Scim

/-- Why a typed value could not be read. -/
inductive DecodeError where
  | wrongKind (found : Json) (wanted : String)
  | outOfRange (found : Int) (wanted : String)
  | missing (field : String)
  | unknownVariant (found : String) (known : List String)
  | notOneVariant
  | tooShort (count : Nat) (typeName : String) (fields : Nat)
  | tooLong (count : Nat)
  | refused (reason : String)

namespace DecodeError

/-- A value as a message names it. -/
def describe : Json → String
  | .null => "null"
  | .bool b => "boolean `" ++ (if b then "true" else "false") ++ "`"
  | .num (.int n) => "integer `" ++ (Number.int n).text ++ "`"
  | .num (.float x) => "floating point `" ++ x.jsonText ++ "`"
  | .str s => "string " ++ Text.shown s
  | .arr _ => "sequence"
  | .obj _ => "map"

/-- The names of the variants of a choice, as a message lists them. -/
def listVariants (known : List String) : String :=
  let quoted := known.map fun name => "`" ++ name ++ "`"
  match quoted with
  | [a] => a
  | [a, b] => a ++ " or " ++ b
  | _ => "one of " ++ ", ".intercalate quoted

/-- The text of the error. -/
def message : DecodeError → String
  | wrongKind found wanted => "invalid type: " ++ describe found ++ ", expected " ++ wanted
  | outOfRange found wanted =>
    "invalid value: integer `" ++ (Number.int found).text ++ "`, expected " ++ wanted
  | missing field => "missing field `" ++ field ++ "`"
  | unknownVariant found known =>
    "unknown variant `" ++ found ++ "`, expected " ++ listVariants known
  | notOneVariant => "invalid value: map, expected map with a single key"
  | tooShort count typeName fields =>
    "invalid length " ++ Nat.repr count ++ ", expected struct " ++ typeName ++ " with "
      ++ Nat.repr fields ++ (if fields = 1 then " element" else " elements")
  | tooLong count =>
    "invalid length " ++ Nat.repr count ++ ", expected fewer elements in array"
  | refused reason => reason

end DecodeError

/-- Reads a typed value. -/
abbrev Decoder (α : Type) := Json → Except DecodeError α

namespace Decoder

/-! ## Scalars, lists and choices -/

def string : Decoder String
  | .str s => pure s
  | j => throw (.wrongKind j "a string")

def boolean : Decoder Bool
  | .bool b => pure b
  | j => throw (.wrongKind j "a boolean")

/-- Natural numbers of at most `limit`. -/
def natural (name : String) (limit : Nat) : Decoder Nat
  | .num (.int n) =>
    if 0 ≤ n ∧ n ≤ limit then pure n.toNat else throw (.outOfRange n name)
  | j => throw (.wrongKind j name)

/-- Natural numbers of 64 bits. -/
def u64 : Decoder Nat := natural "u64" maxWord64

/-- Natural numbers of 32 bits. -/
def u32 : Decoder Nat := natural "u32" maxWord32

/-- Any value as it is. -/
def any : Decoder Json := pure

def list (item : Decoder α) : Decoder (List α)
  | .arr items => items.mapM item
  | j => throw (.wrongKind j "a sequence")

/-- A value for which `null` stands for absence. -/
def nullable (d : Decoder α) : Decoder (Option α)
  | .null => pure none
  | j => some <$> d j

/-- One of several named variants: a string, or an object whose only key is the name and holds
`null`. -/
def variant (known : List (String × α)) : Decoder α
  | .str s => pick s
  | .obj [(key, held)] => do
    let a ← pick key
    if held.isNull then pure a else throw (.wrongKind held "unit")
  | .obj _ => throw .notOneVariant
  | j => throw (.wrongKind j "string or map")
where
  /-- The variant of a name. -/
  pick (s : String) : Except DecodeError α :=
    match known.find? (·.1 == s) with
    | some (_, a) => pure a
    | none => throw (.unknownVariant s (known.map Prod.fst))

end Decoder

/-! ## Records -/

/-- What the absence of a field means: a mistake, no value (in objects only), or a default. -/
inductive Absence where
  | mistake
  | noValue
  | default
deriving DecidableEq

/-- A field of a record: its name, whether it can read a value, and what its absence means. -/
structure Field where
  name : String
  check : Json → Except DecodeError Unit
  absence : Absence

namespace Field

/-- A field that has to be present. -/
def required (name : String) (d : Decoder α) : Field :=
  ⟨name, fun j => discard (d j), .mistake⟩

/-- A field that may hold `null` or be absent from an object. -/
def optional (name : String) (d : Decoder α) : Field :=
  ⟨name, fun j => discard (d.nullable j), .noValue⟩

/-- A field with a default. -/
def defaulted (name : String) (d : Decoder α) : Field :=
  ⟨name, fun j => discard (d j), .default⟩

/-- A field that may hold `null` and has no value by default. -/
def optionalDefaulted (name : String) (d : Decoder α) : Field :=
  defaulted name d.nullable

end Field

/-- A record by its name and its fields, in the order of declaration. -/
structure Shape where
  name : String
  fields : List Field

namespace Shape

/-- Checks the members of an object in the order of their keys. -/
def checkMembers (shape : Shape) : Members → Except DecodeError Unit
  | [] => pure ()
  | (key, value) :: rest => do
    match shape.fields.find? (·.name == key) with
    | some field => field.check value
    | none => pure ()
    checkMembers shape rest

/-- Reports the first field that an object lacks. -/
def checkPresence (members : Members) : List Field → Except DecodeError Unit
  | [] => pure ()
  | field :: rest =>
    if field.absence = .mistake ∧ !Members.contains field.name members then
      throw (.missing field.name)
    else checkPresence members rest

/-- Pairs the items of an array with the fields, from the field with the number `index` on. -/
def pairItems (shape : Shape) (count : Nat) :
    Nat → List Field → List Json → Except DecodeError (List (String × Json))
  | _, [], [] => pure []
  | _, [], _ :: _ => throw (.tooLong count)
  | index, field :: fields, [] =>
    if field.absence = .default then pairItems shape count (index + 1) fields []
    else throw (.tooShort index shape.name shape.fields.length)
  | index, field :: fields, item :: items => do
    field.check item
    let rest ← pairItems shape count (index + 1) fields items
    pure ((field.name, item) :: rest)

/-- The fields that a value holds, each by its name. -/
def row (shape : Shape) : Json → Except DecodeError Members
  | .obj members => do
    shape.checkMembers members
    checkPresence members shape.fields
    pure members
  | .arr items => Members.ofList <$> shape.pairItems items.length 0 shape.fields items
  | j => throw (.wrongKind j ("struct " ++ shape.name))

end Shape

namespace Members

/-- The value of a field that has to be present. -/
def need (name : String) (d : Decoder α) (row : Members) : Except DecodeError α :=
  match find? name row with
  | some j => d j
  | none => throw (.missing name)

/-- The value of a field that may hold `null` or be absent. -/
def want (name : String) (d : Decoder α) (row : Members) : Except DecodeError (Option α) :=
  match find? name row with
  | some j => d.nullable j
  | none => pure none

/-- The value of a field with a default. -/
def needOr (name : String) (d : Decoder α) (default : α) (row : Members) :
    Except DecodeError α :=
  match find? name row with
  | some j => d j
  | none => pure default

end Members

namespace Json

mutual

/-- How deep arrays and objects nest. -/
def depth : Json → Nat
  | arr items => depthItems items + 1
  | obj members => depthMembers members + 1
  | _ => 0

/-- The greatest depth of the items. -/
def depthItems : List Json → Nat
  | [] => 0
  | x :: xs => max x.depth (depthItems xs)

/-- The greatest depth of what the members hold. -/
def depthMembers : List (String × Json) → Nat
  | [] => 0
  | (_, x) :: xs => max x.depth (depthMembers xs)

end

/-- A member that is written only when it has a value. -/
def optionalMember (name : String) (f : α → Json) : Option α → List (String × Json)
  | none => []
  | some a => [(name, f a)]

/-- A member for a list that is written only when the list has items. -/
def listMember (name : String) (f : α → Json) : List α → List (String × Json)
  | [] => []
  | items => [(name, .arr (items.map f))]

end Json

end Scim
