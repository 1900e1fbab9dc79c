import Scim.Json.Decode
import Scim.Schema.Names

/-!
# Errors and the messages that report them

An error of the protocol names its cause.  It has a text, and some causes have a kind that the
message which reports the error names.
-/

namespace Scim

/-- The kinds of error that a message may name. -/
inductive ErrorType where
  | invalidFilter
  | tooMany
  | uniqueness
  | mutability
  | invalidSyntax
  | invalidPath
  | noTarget
  | invalidValue
deriving DecidableEq, Repr

namespace ErrorType

/-- All kinds, in the order in which messages list them. -/
def all : List ErrorType :=
  [invalidFilter, tooMany, uniqueness, mutability, invalidSyntax, invalidPath, noTarget,
    invalidValue]

/-- The name of a kind in messages. -/
def name : ErrorType → String
  | invalidFilter => "invalidFilter"
  | tooMany => "tooMany"
  | uniqueness => "uniqueness"
  | mutability => "mutability"
  | invalidSyntax => "invalidSyntax"
  | invalidPath => "invalidPath"
  | noTarget => "noTarget"
  | invalidValue => "invalidValue"

def decode : Decoder ErrorType :=
  .variant (all.map fun t => (t.name, t))

def encode (t : ErrorType) : Json :=
  .str t.name

end ErrorType

/-- A message that reports an error. -/
structure ErrorResponse where
  schemas : List String := [Schemas.error]
  status : String
  scimType : Option ErrorType := none
  detail : String
deriving DecidableEq

namespace ErrorResponse

def shape : Shape where
  name := "ScimErrorResponse"
  fields := [.required "schemas" (.list .string), .required "status" .string,
    .optional "scimType" ErrorType.decode, .required "detail" .string]

def decode : Decoder ErrorResponse := fun j => do
  let row ← shape.row j
  pure {
    schemas := ← Members.need "schemas" (.list .string) row
    status := ← Members.need "status" .string row
    scimType := ← Members.want "scimType" ErrorType.decode row
    detail := ← Members.need "detail" .string row }

def encode (r : ErrorResponse) : Json :=
  .ofPairs <| [("schemas", .ofStrings r.schemas), ("status", .str r.status),
    ("detail", .str r.detail)] ++ Json.optionalMember "scimType" ErrorType.encode r.scimType

end ErrorResponse

/-- An error of the protocol. -/
inductive ProtocolError where
  | invalidValue (text : String)
  | notFound (text : String)
  | uniqueness (text : String)
  | mutability (text : String)
  | invalidSyntax (text : String)
  | tooMany
deriving DecidableEq, Repr

namespace ProtocolError

/-- The text of the error. -/
def message : ProtocolError → String
  | invalidValue text => "invalid value: " ++ text
  | notFound text => "resource not found: " ++ text
  | uniqueness text => "uniqueness violation: " ++ text
  | mutability text => "mutability violation: " ++ text
  | invalidSyntax text => "invalid syntax: " ++ text
  | tooMany => "too many operations"

/-- The kind that a message names. -/
def errorType? : ProtocolError → Option ErrorType
  | invalidValue _ => some .invalidValue
  | notFound _ => none
  | uniqueness _ => some .uniqueness
  | mutability _ => some .mutability
  | invalidSyntax _ => some .invalidSyntax
  | tooMany => some .tooMany

end ProtocolError

end Scim
