import Scim.Message.Meta

/-!
# Schemas and their attributes
-/

namespace Scim

/-- The definition of an attribute. -/
structure SchemaAttribute where
  name : String
  type : String
  multiValued : Bool := false
  description : Option String := none
  required : Bool := false
  caseExact : Bool := false
  mutability : String := "readWrite"
  returned : String := "default"
  uniqueness : String := "none"
  subAttributes : List SchemaAttribute := []

namespace SchemaAttribute

/-! ## Building attributes -/

/-- A text attribute that has one value, ignores case and can be read and written. -/
def text (name description : String) : SchemaAttribute :=
  { name, type := "string", description := some description }

/-- A truth value. -/
def boolean (name description : String) : SchemaAttribute :=
  { text name description with type := "boolean" }

/-- A reference, which minds case. -/
def reference (name description : String) : SchemaAttribute :=
  { text name description with type := "reference", caseExact := true }

/-- An attribute with sub-attributes. -/
def complex (name description : String) (subAttributes : List SchemaAttribute) :
    SchemaAttribute :=
  { text name description with type := "complex", subAttributes }

def asRequired (a : SchemaAttribute) : SchemaAttribute :=
  { a with required := true }

/-- An attribute whose values the server keeps unique. -/
def asUnique (a : SchemaAttribute) : SchemaAttribute :=
  { a with uniqueness := "server" }

def asMultiValued (a : SchemaAttribute) : SchemaAttribute :=
  { a with multiValued := true }

/-- An attribute that is `readWrite`, `readOnly`, `writeOnly` or `immutable`. -/
def withMutability (a : SchemaAttribute) (mutability : String) : SchemaAttribute :=
  { a with mutability }

/-! ## Reading and writing -/

/-- The fields of an attribute whose sub-attributes are read by `sub`. -/
def shape (sub : Decoder SchemaAttribute) : Shape where
  name := "SchemaAttribute"
  fields := [.required "name" .string, .required "type" .string, .required "multiValued" .boolean,
    .optional "description" .string, .required "required" .boolean,
    .required "caseExact" .boolean, .required "mutability" .string, .required "returned" .string,
    .required "uniqueness" .string, .defaulted "subAttributes" (.list sub)]

/-- Reads attributes that nest at most `levels` deep. -/
def decodeWithin : Nat → Decoder SchemaAttribute
  | 0 => fun j => throw (.wrongKind j "struct SchemaAttribute")
  | levels + 1 => fun j => do
    let row ← (shape (decodeWithin levels)).row j
    pure {
      name := ← Members.need "name" .string row
      type := ← Members.need "type" .string row
      multiValued := ← Members.need "multiValued" .boolean row
      description := ← Members.want "description" .string row
      required := ← Members.need "required" .boolean row
      caseExact := ← Members.need "caseExact" .boolean row
      mutability := ← Members.need "mutability" .string row
      returned := ← Members.need "returned" .string row
      uniqueness := ← Members.need "uniqueness" .string row
      subAttributes := ← Members.needOr "subAttributes" (.list (decodeWithin levels)) [] row }

/-- Sub-attributes nest no deeper than the value that holds them. -/
def decode : Decoder SchemaAttribute := fun j =>
  decodeWithin (j.depth + 1) j

mutual

def encode : SchemaAttribute → Json
  | ⟨name, type, multiValued, description, required, caseExact, mutability, returned, uniqueness,
      subAttributes⟩ =>
    .ofPairs <| [("name", .str name), ("type", .str type), ("multiValued", .bool multiValued)]
      ++ Json.optionalMember "description" .str description
      ++ [("required", .bool required), ("caseExact", .bool caseExact),
        ("mutability", .str mutability), ("returned", .str returned),
        ("uniqueness", .str uniqueness)]
      ++ Json.listMember "subAttributes" id (encodeAll subAttributes)

/-- The encodings of a list of attributes. -/
def encodeAll : List SchemaAttribute → List Json
  | [] => []
  | a :: rest => encode a :: encodeAll rest

end

end SchemaAttribute

/-- A schema: a named list of attributes. -/
structure ResourceSchema where
  schemas : List String
  id : String
  name : String
  description : Option String := none
  attributes : List SchemaAttribute
  info : Option Meta := none

namespace ResourceSchema

def shape : Shape where
  name := "Schema"
  fields := [.required "schemas" (.list .string), .required "id" .string,
    .required "name" .string, .optional "description" .string,
    .required "attributes" (.list SchemaAttribute.decode), .optional "meta" Meta.decode]

def decode : Decoder ResourceSchema := fun j => do
  let row ← shape.row j
  pure {
    schemas := ← Members.need "schemas" (.list .string) row
    id := ← Members.need "id" .string row
    name := ← Members.need "name" .string row
    description := ← Members.want "description" .string row
    attributes := ← Members.need "attributes" (.list SchemaAttribute.decode) row
    info := ← Members.want "meta" Meta.decode row }

def encode (s : ResourceSchema) : Json :=
  .ofPairs <| [("schemas", .ofStrings s.schemas), ("id", .str s.id), ("name", .str s.name)]
    ++ Json.optionalMember "description" .str s.description
    ++ [("attributes", .arr (s.attributes.map SchemaAttribute.encode))]
    ++ Json.optionalMember "meta" Meta.encode s.info

end ResourceSchema

end Scim
