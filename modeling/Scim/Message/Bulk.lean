import Scim.Json.Decode
import Scim.Schema.Names

/-!
# Bulk requests and responses
-/

namespace Scim

/-- One operation of a bulk request. -/
structure BulkOperation where
  method : String
  path : String := ""
  bulkId : Option String := none
  data : Option Json := none

namespace BulkOperation

def shape : Shape where
  name := "BulkOperation"
  fields := [.required "method" .string, .defaulted "path" .string,
    .optionalDefaulted "bulkId" .string, .optionalDefaulted "data" .any]

def decode : Decoder BulkOperation := fun j => do
  let row ← shape.row j
  pure {
    method := ← Members.need "method" .string row
    path := ← Members.needOr "path" .string "" row
    bulkId := ← Members.want "bulkId" .string row
    data := ← Members.want "data" .any row }

def encode (op : BulkOperation) : Json :=
  .ofPairs <| [("method", .str op.method), ("path", .str op.path)]
    ++ Json.optionalMember "bulkId" .str op.bulkId ++ Json.optionalMember "data" id op.data

end BulkOperation

/-- A request of several operations. -/
structure BulkRequest where
  schemas : List String := []
  operations : List BulkOperation
  failOnErrors : Option Nat := none

namespace BulkRequest

def shape : Shape where
  name := "BulkRequest"
  fields := [.defaulted "schemas" (.list .string),
    .required "Operations" (.list BulkOperation.decode), .optionalDefaulted "failOnErrors" .u32]

def decode : Decoder BulkRequest := fun j => do
  let row ← shape.row j
  pure {
    schemas := ← Members.needOr "schemas" (.list .string) [] row
    operations := ← Members.need "Operations" (.list BulkOperation.decode) row
    failOnErrors := ← Members.want "failOnErrors" .u32 row }

def encode (r : BulkRequest) : Json :=
  .ofPairs <| [("schemas", .ofStrings r.schemas),
    ("Operations", .arr (r.operations.map BulkOperation.encode))]
    ++ Json.optionalMember "failOnErrors" .ofNat r.failOnErrors

end BulkRequest

/-- The outcome of one operation of a bulk request. -/
structure BulkOutcome where
  method : String
  bulkId : Option String := none
  status : String
  location : Option String := none
  response : Option Json := none

namespace BulkOutcome

def shape : Shape where
  name := "BulkOperationResponse"
  fields := [.required "method" .string, .optional "bulkId" .string, .required "status" .string,
    .optional "location" .string, .optional "response" .any]

def decode : Decoder BulkOutcome := fun j => do
  let row ← shape.row j
  pure {
    method := ← Members.need "method" .string row
    bulkId := ← Members.want "bulkId" .string row
    status := ← Members.need "status" .string row
    location := ← Members.want "location" .string row
    response := ← Members.want "response" .any row }

def encode (o : BulkOutcome) : Json :=
  .ofPairs <| [("method", .str o.method), ("status", .str o.status)]
    ++ Json.optionalMember "bulkId" .str o.bulkId
    ++ Json.optionalMember "location" .str o.location
    ++ Json.optionalMember "response" id o.response

end BulkOutcome

/-- The outcomes of a bulk request. -/
structure BulkResponse where
  schemas : List String := [Schemas.bulkResponse]
  operations : List BulkOutcome

namespace BulkResponse

def shape : Shape where
  name := "BulkResponse"
  fields := [.required "schemas" (.list .string),
    .required "Operations" (.list BulkOutcome.decode)]

def decode : Decoder BulkResponse := fun j => do
  let row ← shape.row j
  pure {
    schemas := ← Members.need "schemas" (.list .string) row
    operations := ← Members.need "Operations" (.list BulkOutcome.decode) row }

def encode (r : BulkResponse) : Json :=
  .ofPairs [("schemas", .ofStrings r.schemas),
    ("Operations", .arr (r.operations.map BulkOutcome.encode))]

end BulkResponse

end Scim
