import Scim.Json.Decode
import Scim.Timestamp

/-!
# Resource metadata
-/

namespace Scim

/-- What a resource says about itself. -/
structure Meta where
  resourceType : String
  created : Timestamp
  lastModified : Timestamp
  location : Option String := none
  version : Option String := none
deriving DecidableEq

/-- Points in time are read from their RFC 3339 form. -/
def Decoder.timestamp : Decoder Timestamp
  | .str s =>
    match Timestamp.ofText s with
    | .ok t => pure t
    | .error e => throw (.refused e.message)
  | j => throw (.wrongKind j "an RFC 3339 formatted date and time string")

namespace Meta

def shape : Shape where
  name := "Meta"
  fields := [.required "resourceType" Decoder.string, .required "created" Decoder.timestamp,
    .required "lastModified" Decoder.timestamp, .optional "location" Decoder.string,
    .optional "version" Decoder.string]

def decode : Decoder Meta := fun j => do
  let row ← shape.row j
  pure {
    resourceType := ← Members.need "resourceType" Decoder.string row
    created := ← Members.need "created" Decoder.timestamp row
    lastModified := ← Members.need "lastModified" Decoder.timestamp row
    location := ← Members.want "location" Decoder.string row
    version := ← Members.want "version" Decoder.string row }

def encode (m : Meta) : Json :=
  .ofPairs <| [("resourceType", .str m.resourceType), ("created", .str m.created.text),
    ("lastModified", .str m.lastModified.text)]
    ++ Json.optionalMember "location" .str m.location
    ++ Json.optionalMember "version" .str m.version

end Meta

end Scim
