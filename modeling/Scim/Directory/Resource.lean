import Scim.Etag
import Scim.Primary
import Scim.Schema.Names
import Scim.Store.Basic
import Scim.Timestamp

/-!
# Resources and the documents behind them

The directory keeps users and groups.  A stored document carries two members of the directory's own
besides the attributes: `_version`, the number behind the entity tag, and `meta` with the times of
creation and of the last write.  Clients never write them: input loses them, every write stamps
them anew, and they are shaped into the metadata of the resource whenever it is shown.
-/

namespace Scim

/-- The kinds of resources. -/
inductive ResourceKind where
  | user
  | group
deriving DecidableEq, Repr

namespace ResourceKind

/-- The collection that holds the documents. -/
def collection : ResourceKind → String
  | user => "users"
  | group => "groups"

/-- The name of the resource type. -/
def typeName : ResourceKind → String
  | user => "User"
  | group => "Group"

/-- The name of the endpoint. -/
def endpoint : ResourceKind → String
  | user => "Users"
  | group => "Groups"

/-- The attribute that is both required and unique. -/
def uniqueAttribute : ResourceKind → String
  | user => "userName"
  | group => "displayName"

end ResourceKind

/-! ## Truth -/

namespace Json

/-- Empty texts, zero, `false` and `null` do not count as values. -/
def isTruthy : Json → Bool
  | null => false
  | bool b => b
  | num n => !n.isZero
  | str s => !s.isEmpty
  | arr _ => true
  | obj _ => true

end Json

/-! ## The directory's own members -/

/-- The member that holds the version. -/
def versionKey : String := "_version"

/-- Whether a value lists the enterprise extension or carries its attributes. -/
def hasEnterprise (source : Json) : Bool :=
  let listed := (((source.get? "schemas").bind Json.items?).getD []).any fun j =>
    j.string? == some Schemas.enterpriseUser
  listed || ((source.get? Schemas.enterpriseUser).map Json.isTruthy).getD false

namespace ResourceKind

/-- The schemas of a resource.  Users have the core schema, and the enterprise extension where the
source asks for it; those of groups are fixed. -/
def schemasFor (kind : ResourceKind) (source : Json) : Json :=
  match kind with
  | user =>
    .ofStrings (if hasEnterprise source then [Schemas.user, Schemas.enterpriseUser]
      else [Schemas.user])
  | group => .ofStrings [Schemas.group]

/-- Settles the primary role of a user. -/
def normalize (kind : ResourceKind) (body : Members) : Members :=
  match kind with
  | user => Primary.normalizeRoles body
  | group => body

/-- The document of a client's input: without the members of the directory's own, and with the
schemas of the kind.  Anything but an object counts as an empty one. -/
def sanitize (kind : ResourceKind) (input : Json) : Members :=
  let body := ["id", "meta", "schemas", versionKey].foldl (fun ms key => Members.erase key ms)
    (input.members?.getD [])
  kind.normalize (Members.insert "schemas" (kind.schemasFor input) body)

end ResourceKind

/-- The version of a document; one without a version is in its first. -/
def versionOf (body : Members) : Nat :=
  ((Members.find? versionKey body).bind Json.natural?).getD 1

/-- The version after a write.  Versions are numbers of 64 bits and start over at zero. -/
def nextVersion (version : Nat) : Nat :=
  (version + 1) % (maxWord64 + 1)

/-- A text in the metadata of a document. -/
def metaText? (name : String) (body : Members) : Option String :=
  ((Members.find? "meta" body).bind (Json.get? name)).bind Json.string?

/-- Stamps the directory's own members onto a document. -/
def stamp (version : Nat) (created modified : String) (body : Members) : Members :=
  Members.insert "meta" (.ofPairs [("created", .str created), ("lastModified", .str modified)])
    (Members.insert versionKey (.ofNat version) body)

/-! ## Showing resources -/

/-- A resource as it is shown, with its location and entity tag. -/
structure Resource where
  id : String
  location : String
  etag : String
  content : Json

namespace ResourceKind

/-- The location of a resource. -/
def location (kind : ResourceKind) (baseUrl id : String) : String :=
  baseUrl ++ "/" ++ kind.endpoint ++ "/" ++ id

/-- Shapes a stored document into a resource.  Times that the document lacks are `now`. -/
def present (kind : ResourceKind) (baseUrl now : String) (entry : Entry) : Resource :=
  let body := kind.normalize (Members.erase versionKey entry.body)
  let id := entry.id.text
  let location := kind.location baseUrl id
  let etag := Etag.weak (versionOf entry.body)
  let info := Json.ofPairs [("resourceType", .str kind.typeName),
    ("created", .str ((metaText? "created" body).getD now)),
    ("lastModified", .str ((metaText? "lastModified" body).getD now)),
    ("version", .str etag), ("location", .str location)]
  let content := Members.insert "meta" info
    (Members.insert "schemas" (kind.schemasFor (.obj body)) (Members.insert "id" (.str id) body))
  { id, location, etag, content := .obj content }

end ResourceKind

end Scim
