import Scim.Message.Meta

/-!
# What a service provider offers

The configuration of a service provider names the features it supports; a resource type names an
endpoint, its schema and the extensions of it.
-/

namespace Scim

/-- A way to authenticate. -/
structure AuthenticationScheme where
  type : String
  name : String
  description : String
  specUri : Option String := none
  primary : Bool
deriving DecidableEq

namespace AuthenticationScheme

def shape : Shape where
  name := "AuthenticationScheme"
  fields := [.required "type" .string, .required "name" .string, .required "description" .string,
    .optional "specUri" .string, .required "primary" .boolean]

def decode : Decoder AuthenticationScheme := fun j => do
  let row ← shape.row j
  pure {
    type := ← Members.need "type" .string row
    name := ← Members.need "name" .string row
    description := ← Members.need "description" .string row
    specUri := ← Members.want "specUri" .string row
    primary := ← Members.need "primary" .boolean row }

def encode (a : AuthenticationScheme) : Json :=
  .ofPairs <| [("type", .str a.type), ("name", .str a.name), ("description", .str a.description),
    ("primary", .bool a.primary)] ++ Json.optionalMember "specUri" .str a.specUri

end AuthenticationScheme

/-- A feature that is supported or not. -/
structure Feature where
  supported : Bool
deriving DecidableEq

namespace Feature

def shape : Shape where
  name := "Supported"
  fields := [.required "supported" .boolean]

def decode : Decoder Feature := fun j => do
  let row ← shape.row j
  pure { supported := ← Members.need "supported" .boolean row }

def encode (f : Feature) : Json :=
  .ofPairs [("supported", .bool f.supported)]

end Feature

/-- The support of bulk requests. -/
structure BulkFeature where
  supported : Bool
  maxOperations : Nat
  maxPayloadSize : Nat
deriving DecidableEq

namespace BulkFeature

def shape : Shape where
  name := "BulkSupported"
  fields := [.required "supported" .boolean, .required "maxOperations" .u32,
    .required "maxPayloadSize" .u64]

def decode : Decoder BulkFeature := fun j => do
  let row ← shape.row j
  pure {
    supported := ← Members.need "supported" .boolean row
    maxOperations := ← Members.need "maxOperations" .u32 row
    maxPayloadSize := ← Members.need "maxPayloadSize" .u64 row }

def encode (f : BulkFeature) : Json :=
  .ofPairs [("supported", .bool f.supported), ("maxOperations", .ofNat f.maxOperations),
    ("maxPayloadSize", .ofNat f.maxPayloadSize)]

end BulkFeature

/-- The support of filters. -/
structure FilterFeature where
  supported : Bool
  maxResults : Nat
deriving DecidableEq

namespace FilterFeature

def shape : Shape where
  name := "FilterSupported"
  fields := [.required "supported" .boolean, .required "maxResults" .u64]

def decode : Decoder FilterFeature := fun j => do
  let row ← shape.row j
  pure {
    supported := ← Members.need "supported" .boolean row
    maxResults := ← Members.need "maxResults" .u64 row }

def encode (f : FilterFeature) : Json :=
  .ofPairs [("supported", .bool f.supported), ("maxResults", .ofNat f.maxResults)]

end FilterFeature

/-- The configuration of a service provider. -/
structure ProviderConfig where
  schemas : List String
  patch : Feature
  bulk : BulkFeature
  filter : FilterFeature
  changePassword : Feature
  sort : Feature
  etag : Feature
  authenticationSchemes : List AuthenticationScheme
  info : Option Meta := none

namespace ProviderConfig

def shape : Shape where
  name := "ServiceProviderConfig"
  fields := [.required "schemas" (.list .string), .required "patch" Feature.decode,
    .required "bulk" BulkFeature.decode, .required "filter" FilterFeature.decode,
    .required "changePassword" Feature.decode, .required "sort" Feature.decode,
    .required "etag" Feature.decode,
    .required "authenticationSchemes" (.list AuthenticationScheme.decode),
    .optional "meta" Meta.decode]

def decode : Decoder ProviderConfig := fun j => do
  let row ← shape.row j
  pure {
    schemas := ← Members.need "schemas" (.list .string) row
    patch := ← Members.need "patch" Feature.decode row
    bulk := ← Members.need "bulk" BulkFeature.decode row
    filter := ← Members.need "filter" FilterFeature.decode row
    changePassword := ← Members.need "changePassword" Feature.decode row
    sort := ← Members.need "sort" Feature.decode row
    etag := ← Members.need "etag" Feature.decode row
    authenticationSchemes :=
      ← Members.need "authenticationSchemes" (.list AuthenticationScheme.decode) row
    info := ← Members.want "meta" Meta.decode row }

def encode (c : ProviderConfig) : Json :=
  .ofPairs <| [("schemas", .ofStrings c.schemas), ("patch", c.patch.encode),
    ("bulk", c.bulk.encode), ("filter", c.filter.encode),
    ("changePassword", c.changePassword.encode), ("sort", c.sort.encode),
    ("etag", c.etag.encode),
    ("authenticationSchemes", .arr (c.authenticationSchemes.map AuthenticationScheme.encode))]
    ++ Json.optionalMember "meta" Meta.encode c.info

end ProviderConfig

/-- An extension of the schema of a resource type. -/
structure SchemaExtension where
  schema : String
  required : Bool
deriving DecidableEq

namespace SchemaExtension

def shape : Shape where
  name := "SchemaExtension"
  fields := [.required "schema" .string, .required "required" .boolean]

def decode : Decoder SchemaExtension := fun j => do
  let row ← shape.row j
  pure {
    schema := ← Members.need "schema" .string row
    required := ← Members.need "required" .boolean row }

def encode (e : SchemaExtension) : Json :=
  .ofPairs [("schema", .str e.schema), ("required", .bool e.required)]

end SchemaExtension

/-- A type of resources. -/
structure ResourceType where
  schemas : List String
  id : String
  name : String
  description : String
  endpoint : String
  schema : String
  schemaExtensions : List SchemaExtension := []
  info : Option Meta := none

namespace ResourceType

def shape : Shape where
  name := "ResourceType"
  fields := [.required "schemas" (.list .string), .required "id" .string,
    .required "name" .string, .required "description" .string, .required "endpoint" .string,
    .required "schema" .string, .defaulted "schemaExtensions" (.list SchemaExtension.decode),
    .optional "meta" Meta.decode]

def decode : Decoder ResourceType := fun j => do
  let row ← shape.row j
  pure {
    schemas := ← Members.need "schemas" (.list .string) row
    id := ← Members.need "id" .string row
    name := ← Members.need "name" .string row
    description := ← Members.need "description" .string row
    endpoint := ← Members.need "endpoint" .string row
    schema := ← Members.need "schema" .string row
    schemaExtensions :=
      ← Members.needOr "schemaExtensions" (.list SchemaExtension.decode) [] row
    info := ← Members.want "meta" Meta.decode row }

def encode (t : ResourceType) : Json :=
  .ofPairs <| [("schemas", .ofStrings t.schemas), ("id", .str t.id), ("name", .str t.name),
    ("description", .str t.description), ("endpoint", .str t.endpoint), ("schema", .str t.schema)]
    ++ Json.listMember "schemaExtensions" SchemaExtension.encode t.schemaExtensions
    ++ Json.optionalMember "meta" Meta.encode t.info

end ResourceType

end Scim
