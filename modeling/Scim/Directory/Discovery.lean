import Scim.Directory.Basic
import Scim.Schema.Attribute
import Scim.Schema.Provider

/-!
# What the directory says about itself

Clients can ask for the features of the directory, for its resource types, and for its schemas.  The
features follow the configuration; the resource types and schemas are fixed.
-/

namespace Scim.Directory

/-! ## Features and resource types -/

/-- The metadata of a description at a path below the base URL. -/
def descriptionMeta (d : Directory) (resourceType path : String) : Meta :=
  let now := d.clock d.ticks
  { resourceType, created := now, lastModified := now,
    location := some (d.config.baseUrl ++ path) }

/-- The features of the directory. -/
def providerConfig (d : Directory) : ProviderConfig where
  schemas := [Schemas.serviceProviderConfig]
  patch := ⟨true⟩
  bulk := ⟨true, d.config.bulkMaxOperations, d.config.bulkMaxPayloadSize⟩
  filter := ⟨true, d.config.maxResults⟩
  changePassword := ⟨false⟩
  sort := ⟨true⟩
  etag := ⟨true⟩
  authenticationSchemes := [{
    type := "oauthbearertoken"
    name := "OAuth Bearer Token"
    description := "Bearer token via Authorization header."
    specUri := some "https://www.rfc-editor.org/info/rfc6750"
    primary := true }]
  info := some (d.descriptionMeta "ServiceProviderConfig" "/ServiceProviderConfig")

/-- The type of users. -/
def userType (d : Directory) : ResourceType where
  schemas := [Schemas.resourceType]
  id := "Users"
  name := "User"
  description := "User Account"
  endpoint := "/Users"
  schema := Schemas.user
  schemaExtensions := [⟨Schemas.enterpriseUser, false⟩]
  info := some (d.descriptionMeta "ResourceType" "/ResourceTypes/Users")

/-- The type of groups. -/
def groupType (d : Directory) : ResourceType where
  schemas := [Schemas.resourceType]
  id := "Groups"
  name := "Group"
  description := "Group"
  endpoint := "/Groups"
  schema := Schemas.group
  info := some (d.descriptionMeta "ResourceType" "/ResourceTypes/Groups")

/-- A list of all there is. -/
def wholeList (resources : List Json) : ListResponse where
  totalResults := resources.length
  itemsPerPage := resources.length
  startIndex := 1
  resources := resources

/-- The list of resource types. -/
def resourceTypes (d : Directory) : ListResponse :=
  wholeList [d.userType.encode, d.groupType.encode]

/-- The resource type of an id or a name, in any case. -/
def resourceType (d : Directory) (id : String) : Except ServiceError ResourceType :=
  let isNamed (t : ResourceType) : Bool :=
    Text.eqIgnoreAsciiCase t.id id || Text.eqIgnoreAsciiCase t.name id
  match [d.userType, d.groupType].find? isNamed with
  | some t => .ok t
  | none => .error (.notFound "ResourceType not found")

/-! ## Schemas -/

open SchemaAttribute

/-- Texts without a description. -/
def plainTexts (names : List String) : List SchemaAttribute :=
  names.map fun name => text name ""

/-- A list of typed values, of which one may be primary. -/
def typedValues (name : String) : SchemaAttribute :=
  (complex name "" (plainTexts ["value", "display", "type"] ++ [boolean "primary" ""])).asMultiValued

/-- A list of addresses to reach someone at, of which one may be primary. -/
def contacts (name : String) : SchemaAttribute :=
  (complex name "" (plainTexts ["value", "type"] ++ [boolean "primary" ""])).asMultiValued

/-- A list of references to other resources. -/
def references (name : String) : SchemaAttribute :=
  (complex name "" [text "value" "", reference "$ref" "", text "display" "",
    text "type" ""]).asMultiValued

/-- The core schema of users. -/
def userSchema : ResourceSchema where
  schemas := [Schemas.schema]
  id := Schemas.user
  name := "User"
  description := some "User Account"
  attributes :=
    [(text "userName" "Unique identifier for the User").asRequired.asUnique,
      complex "name" "Components of the user's real name"
        (plainTexts ["formatted", "familyName", "givenName", "middleName", "honorificPrefix",
          "honorificSuffix"])]
    ++ plainTexts ["displayName", "nickName", "profileUrl", "title", "userType",
      "preferredLanguage", "locale", "timezone"]
    ++ [boolean "active" "", (text "password" "").withMutability "writeOnly", contacts "emails",
      contacts "phoneNumbers",
      (complex "addresses" "" (plainTexts ["type", "formatted", "streetAddress", "locality",
        "region", "postalCode", "country"] ++ [boolean "primary" ""])).asMultiValued,
      (references "groups").withMutability "readOnly", typedValues "entitlements",
      typedValues "roles", typedValues "x509Certificates"]

/-- The core schema of groups. -/
def groupSchema : ResourceSchema where
  schemas := [Schemas.schema]
  id := Schemas.group
  name := "Group"
  description := some "Group"
  attributes := [(text "displayName" "").asRequired.asUnique, references "members"]

/-- The enterprise extension of users. -/
def enterpriseSchema : ResourceSchema where
  schemas := [Schemas.schema]
  id := Schemas.enterpriseUser
  name := "EnterpriseUser"
  description := some "User Enterprise Extension"
  attributes :=
    plainTexts ["employeeNumber", "costCenter", "organization", "division", "department"]
    ++ [complex "manager" "" [text "value" "", reference "$ref" "", text "display" ""]]

/-- All schemas. -/
def allSchemas : List ResourceSchema :=
  [userSchema, groupSchema, enterpriseSchema]

/-- The list of schemas. -/
def schemaList : ListResponse :=
  wholeList (allSchemas.map ResourceSchema.encode)

/-- The schema of an id. -/
def schema (id : String) : Except ServiceError ResourceSchema :=
  match allSchemas.find? (·.id == id) with
  | some s => .ok s
  | none => .error (.notFound "Schema not found")

end Scim.Directory
