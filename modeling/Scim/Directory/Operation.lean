import Scim.Directory.Error
import Scim.Directory.Resource
import Scim.Message.Patch

/-!
# Operations on resources

An operation creates, reads, replaces, patches or deletes one resource.  It either fails and leaves
the store alone, or answers and yields the next store.  Writes are guarded by the unique attribute of
the kind, and replacements by an optional precondition on the version.
-/

namespace Scim

/-- An operation on one resource. -/
inductive Operation where
  | create (kind : ResourceKind) (body : Json)
  | read (kind : ResourceKind) (id : String)
  | replace (kind : ResourceKind) (id : String) (body : Json) (ifMatch : Option String)
  | patch (kind : ResourceKind) (id : String) (body : Json) (ifMatch : Option String)
  | delete (kind : ResourceKind) (id : String)

/-- What an operation finds around it: where resources are located, the time, and the identifier
that the next resource gets. -/
structure Setting where
  baseUrl : String
  now : String
  fresh : Uuid

namespace ResourceKind

/-! ## Checks -/

/-- The error for an identifier that is not in use. -/
def notFound (kind : ResourceKind) : ServiceError :=
  .notFound (kind.typeName ++ " not found")

/-- The error for a unique value that another resource has. -/
def duplicate (kind : ResourceKind) : ServiceError :=
  .protocol (.uniqueness ("Duplicate " ++ kind.uniqueAttribute))

/-- The error for a version that is not the expected one. -/
def preconditionFailed : ServiceError :=
  .protocol (.mutability "Precondition Failed")

/-- The predicate of resources that hold a value in the unique attribute. -/
def guard (kind : ResourceKind) (value : Json) : Predicate :=
  .equals kind.uniqueAttribute value

/-- The value of the unique attribute, if it counts as one. -/
def uniqueValue? (kind : ResourceKind) (body : Members) : Option Json :=
  (Members.find? kind.uniqueAttribute body).filter Json.isTruthy

/-- The value of the unique attribute, which new content has to have. -/
def requiredValue (kind : ResourceKind) (body : Members) : Except ServiceError Json :=
  match kind.uniqueValue? body with
  | some value => .ok value
  | none => .error (.protocol (.invalidValue (kind.uniqueAttribute ++ " is required")))

/-- The stored document of an identifier. -/
def load (kind : ResourceKind) (store : Store) (id : String) : Except ServiceError Entry :=
  match store.findById kind.collection id with
  | some entry => .ok entry
  | none => .error kind.notFound

/-- The version of a document that a precondition permits. -/
def permittedVersion (body : Members) (ifMatch : Option String) : Except ServiceError Nat :=
  let version := versionOf body
  if Etag.permits ifMatch version then .ok version else .error preconditionFailed

/-! ## Writes -/

/-- Writes a document over a stored one.  With a guard, another resource that matches it makes the
write a duplicate. -/
def write (kind : ResourceKind) (store : Store) (id : Uuid) (body : Members)
    (guard : Option Predicate) : Except ServiceError Store :=
  match guard with
  | some p =>
    match store.replaceUnless kind.collection id.text body p .ignoreCase with
    | .replaced next => .ok next
    | .notFound => .error kind.notFound
    | .conflict => .error kind.duplicate
  | none =>
    match store.replace kind.collection id.text body with
    | some next => .ok next
    | none => .error kind.notFound

/-- Stamps the next version onto new content and writes it over a stored document. -/
def update (kind : ResourceKind) (setting : Setting) (store : Store) (existing : Entry)
    (version : Nat) (body : Members) (guard : Option Predicate) :
    Except ServiceError (Resource × Store) := do
  let created := (metaText? "created" existing.body).getD setting.now
  let body := stamp (nextVersion version) created setting.now body
  let next ← kind.write store existing.id body guard
  pure (kind.present setting.baseUrl setting.now ⟨existing.id, body⟩, next)

/-- The document after a patch: the schemas are made anew, and an identifier that the patch wrote
is dropped. -/
def patched (kind : ResourceKind) (ops : List PatchOperation) (body : Members) : Members :=
  let body := Members.erase "id" (PatchOperation.applyAll ops body)
  kind.normalize (Members.insert "schemas" (kind.schemasFor (.obj body)) body)

/-! ## The operations -/

def create (kind : ResourceKind) (setting : Setting) (store : Store) (input : Json) :
    Except ServiceError (Resource × Store) := do
  let body := kind.sanitize input
  let value ← kind.requiredValue body
  let body := stamp 1 setting.now setting.now body
  match store.insertUnless kind.collection setting.fresh body (kind.guard value) .ignoreCase with
  | some next => pure (kind.present setting.baseUrl setting.now ⟨setting.fresh, body⟩, next)
  | none => throw kind.duplicate

def read (kind : ResourceKind) (setting : Setting) (store : Store) (id : String) :
    Except ServiceError Resource := do
  pure (kind.present setting.baseUrl setting.now (← kind.load store id))

/-- The precondition is checked before the new content. -/
def replace (kind : ResourceKind) (setting : Setting) (store : Store) (id : String) (input : Json)
    (ifMatch : Option String) : Except ServiceError (Resource × Store) := do
  let existing ← kind.load store id
  let version ← permittedVersion existing.body ifMatch
  let body := kind.sanitize input
  let value ← kind.requiredValue body
  kind.update setting store existing version body (some (kind.guard value))

/-- The request is read before the resource is looked up. -/
def patch (kind : ResourceKind) (setting : Setting) (store : Store) (id : String) (request : Json)
    (ifMatch : Option String) : Except ServiceError (Resource × Store) := do
  let request ← (PatchRequest.ofBody request).mapError ServiceError.protocol
  let existing ← kind.load store id
  let version ← permittedVersion existing.body ifMatch
  let body := kind.patched request.operations existing.body
  kind.update setting store existing version body ((kind.uniqueValue? body).map kind.guard)

def delete (kind : ResourceKind) (store : Store) (id : String) : Except ServiceError Store :=
  match store.delete kind.collection id with
  | some next => .ok next
  | none => .error kind.notFound

end ResourceKind

namespace Operation

/-- Performs an operation.  Deletions answer no resource. -/
def run (setting : Setting) (store : Store) :
    Operation → Except ServiceError (Option Resource × Store)
  | create kind body => do
    let (resource, next) ← kind.create setting store body
    pure (some resource, next)
  | read kind id => do
    pure (some (← kind.read setting store id), store)
  | replace kind id body ifMatch => do
    let (resource, next) ← kind.replace setting store id body ifMatch
    pure (some resource, next)
  | patch kind id body ifMatch => do
    let (resource, next) ← kind.patch setting store id body ifMatch
    pure (some resource, next)
  | delete kind id => do
    pure (none, ← kind.delete store id)

/-- Whether the operation uses up an identifier when it succeeds. -/
def creates : Operation → Bool
  | create _ _ => true
  | _ => false

end Operation

end Scim
