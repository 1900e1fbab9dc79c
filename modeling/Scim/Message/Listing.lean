import Scim.Json.Decode
import Scim.Schema.Names

/-!
# Search requests and lists of resources
-/

namespace Scim

/-- A list of resources with its place in all results. -/
structure ListResponse where
  schemas : List String := [Schemas.listResponse]
  totalResults : Nat
  itemsPerPage : Nat
  startIndex : Nat
  resources : List Json

namespace ListResponse

def shape : Shape where
  name := "ListResponse"
  fields := [.required "schemas" (.list .string), .required "totalResults" .u64,
    .required "itemsPerPage" .u64, .required "startIndex" .u64,
    .required "Resources" (.list .any)]

def decode : Decoder ListResponse := fun j => do
  let row ← shape.row j
  pure {
    schemas := ← Members.need "schemas" (.list .string) row
    totalResults := ← Members.need "totalResults" .u64 row
    itemsPerPage := ← Members.need "itemsPerPage" .u64 row
    startIndex := ← Members.need "startIndex" .u64 row
    resources := ← Members.need "Resources" (.list .any) row }

def encode (r : ListResponse) : Json :=
  .ofPairs [("schemas", .ofStrings r.schemas), ("totalResults", .ofNat r.totalResults),
    ("itemsPerPage", .ofNat r.itemsPerPage), ("startIndex", .ofNat r.startIndex),
    ("Resources", .arr r.resources)]

end ListResponse

/-- A request to search for resources. -/
structure SearchRequest where
  schemas : List String := []
  filter : Option String := none
  startIndex : Option Nat := none
  count : Option Nat := none
  sortBy : Option String := none
  sortOrder : Option String := none
deriving DecidableEq

namespace SearchRequest

def shape : Shape where
  name := "SearchRequest"
  fields := [.defaulted "schemas" (.list .string), .optionalDefaulted "filter" .string,
    .optionalDefaulted "startIndex" .u64, .optionalDefaulted "count" .u64,
    .optionalDefaulted "sortBy" .string, .optionalDefaulted "sortOrder" .string]

def decode : Decoder SearchRequest := fun j => do
  let row ← shape.row j
  pure {
    schemas := ← Members.needOr "schemas" (.list .string) [] row
    filter := ← Members.want "filter" .string row
    startIndex := ← Members.want "startIndex" .u64 row
    count := ← Members.want "count" .u64 row
    sortBy := ← Members.want "sortBy" .string row
    sortOrder := ← Members.want "sortOrder" .string row }

def encode (r : SearchRequest) : Json :=
  .ofPairs <| [("schemas", .ofStrings r.schemas)]
    ++ Json.optionalMember "filter" .str r.filter
    ++ Json.optionalMember "startIndex" .ofNat r.startIndex
    ++ Json.optionalMember "count" .ofNat r.count
    ++ Json.optionalMember "sortBy" .str r.sortBy
    ++ Json.optionalMember "sortOrder" .str r.sortOrder

end SearchRequest

/-- The query parameters of a listing, as texts. -/
structure ListQuery where
  startIndex : Option String := none
  count : Option String := none
  filter : Option String := none
  sortBy : Option String := none
  sortOrder : Option String := none
deriving DecidableEq

namespace ListQuery

def shape : Shape where
  name := "ListQuery"
  fields := [.optional "startIndex" .string, .optional "count" .string,
    .optional "filter" .string, .optional "sortBy" .string, .optional "sortOrder" .string]

def decode : Decoder ListQuery := fun j => do
  let row ← shape.row j
  pure {
    startIndex := ← Members.want "startIndex" .string row
    count := ← Members.want "count" .string row
    filter := ← Members.want "filter" .string row
    sortBy := ← Members.want "sortBy" .string row
    sortOrder := ← Members.want "sortOrder" .string row }

end ListQuery

end Scim
