import Scim.Directory.Basic
import Scim.Message.Bulk

/-!
# Bulk requests

A bulk request performs its operations in order.  A resource created or changed under a `bulkId` can
be referred to by `bulkId:` and that name, in later paths and as a string anywhere in later data.
After as many failures as `failOnErrors` allows, the remaining operations are skipped.
-/

namespace Scim

/-! ## References -/

/-- The identifiers of the resources that earlier operations named, the latest first. -/
abbrev BulkIds := List (String × String)

namespace BulkIds

/-- What a reference starts with. -/
def mark : List Char := ['b', 'u', 'l', 'k', 'I', 'd', ':']

/-- The identifier that a text refers to. -/
def resolve? (ids : BulkIds) (text : String) : Option String :=
  (Text.dropWord? mark text.toList).bind fun name => ids.lookup (String.ofList name)

/-- The text with its reference resolved; an unknown reference stays. -/
def resolve (ids : BulkIds) (text : String) : String :=
  (ids.resolve? text).getD text

mutual

/-- A value with the references in its strings resolved, at any depth; keys stay. -/
def resolveIn (ids : BulkIds) : Json → Json
  | .str s => .str (ids.resolve s)
  | .arr items => .arr (resolveItems ids items)
  | .obj members => .obj (resolveMembers ids members)
  | j => j

/-- The items with their references resolved. -/
def resolveItems (ids : BulkIds) : List Json → List Json
  | [] => []
  | x :: xs => resolveIn ids x :: resolveItems ids xs

/-- The members with their references resolved. -/
def resolveMembers (ids : BulkIds) : List (String × Json) → List (String × Json)
  | [] => []
  | (k, x) :: xs => (k, resolveIn ids x) :: resolveMembers ids xs

end

end BulkIds

/-! ## Operations -/

namespace BulkOperation

/-- What a path addresses: a kind, and a resource of it. -/
structure Target where
  kind : ResourceKind
  id : Option String
deriving DecidableEq, Repr

/-- The rest of a path behind the name of an endpoint. -/
def idBehind? (kind : ResourceKind) (path : List Char) : Option Target :=
  (Text.dropWord? kind.endpoint.toList path).bind fun rest =>
    match rest with
    | [] => some ⟨kind, none⟩
    | '/' :: c :: cs => some ⟨kind, some (String.ofList (c :: cs))⟩
    | _ => none

/-- What a path addresses; slashes at its start do not count. -/
def target? (path : String) : Option Target :=
  let cs := path.toList.dropWhile (· == '/')
  (idBehind? .user cs).or (idBehind? .group cs)

/-- The name of a method in capitals.  Of the letters outside of ASCII only those with capitals in
ASCII can make a difference. -/
def methodName (method : String) : String :=
  String.ofList (method.toList.flatMap fun c =>
    if c = 'ſ' then ['S'] else if c = 'ı' then ['I'] else if c = 'ﬅ' ∨ c = 'ﬆ' then ['S', 'T']
    else [c.toUpper])

/-- The data of an operation that needs some. -/
def requireData (data : Option Json) : Except ServiceError Json :=
  match data with
  | some j => .ok j
  | none => .error (.badRequest "Missing data")

/-- The operation on a resource that an operation of a bulk request asks for. -/
def toOperation (ids : BulkIds) (op : BulkOperation) : Except ServiceError Operation :=
  match target? op.path with
  | none => .error (.badRequest ("Invalid path: " ++ op.path))
  | some target =>
    let data := op.data.map ids.resolveIn
    let method := methodName op.method
    match target.id with
    | none =>
      if method = "POST" then return .create target.kind (← requireData data)
      else .error (.badRequest ("Unsupported operation: " ++ op.method ++ " " ++ op.path))
    | some id =>
      let id := ids.resolve id
      if method = "PUT" then return .replace target.kind id (← requireData data) none
      else if method = "PATCH" then return .patch target.kind id (← requireData data) none
      else if method = "DELETE" then return .delete target.kind id
      else .error (.badRequest ("Unsupported operation: " ++ op.method ++ " " ++ op.path))

/-! ## Outcomes -/

/-- The status of a success. -/
def successStatus : Operation → String
  | .create _ _ => "201"
  | .delete _ _ => "204"
  | _ => "200"

/-- The outcome of a skipped operation. -/
def skipped (op : BulkOperation) : BulkOutcome where
  method := op.method
  bulkId := op.bulkId
  status := "412"
  response := some (.ofPairs [("detail", .str "Operation skipped due to previous errors")])

/-- The outcome of a failure. -/
def failed (op : BulkOperation) (e : ServiceError) : BulkOutcome where
  method := op.method
  bulkId := op.bulkId
  status := Nat.repr e.status
  response := some e.response.encode

/-- The outcome of a success. -/
def succeeded (op : BulkOperation) (performed : Operation) (answer : Option Resource) :
    BulkOutcome where
  method := op.method
  bulkId := op.bulkId
  status := successStatus performed
  location := answer.map Resource.location
  response := answer.map Resource.content

/-- The identifier that a location ends in: what stands behind its last slash. -/
def idAtEnd (location : String) : String :=
  String.ofList (location.toList.reverse.takeWhile (· != '/')).reverse

/-- The references that are known after a success. -/
def remember (op : BulkOperation) (answer : Option Resource) (ids : BulkIds) : BulkIds :=
  match op.bulkId, answer with
  | some name, some resource => (name, idAtEnd resource.location) :: ids
  | _, _ => ids

/-- What becomes of an operation of a bulk request: it is skipped, it asks for nothing that could be
performed, or it is performed. -/
inductive Turn where
  | skipped
  | refused (error : ServiceError)
  | performed (operation : Operation) (answer : Except ServiceError (Option Resource))

/-- The outcome of a turn. -/
def outcome (op : BulkOperation) : Turn → BulkOutcome
  | .skipped => op.skipped
  | .refused e => op.failed e
  | .performed _ (.error e) => op.failed e
  | .performed operation (.ok answer) => op.succeeded operation answer

end BulkOperation

namespace Directory

/-- Takes the turns of a bulk request, where `allowed` failures, if that is not 0, end it, and
`failures` have come up. -/
def turnsFrom (allowed failures : Nat) (ids : BulkIds) :
    List BulkOperation → Directory → List (BulkOperation × BulkOperation.Turn) × Directory
  | [], d => ([], d)
  | op :: ops, d =>
    if 0 < allowed ∧ allowed ≤ failures then
      let (turns, d) := turnsFrom allowed failures ids ops d
      ((op, .skipped) :: turns, d)
    else
      match op.toOperation ids with
      | .error e =>
        let (turns, d) := turnsFrom allowed (failures + 1) ids ops d
        ((op, .refused e) :: turns, d)
      | .ok operation =>
        match d.perform operation with
        | (.error e, d) =>
          let (turns, d) := turnsFrom allowed (failures + 1) ids ops d
          ((op, .performed operation (.error e)) :: turns, d)
        | (.ok answer, d) =>
          let (turns, d) := turnsFrom allowed failures (op.remember answer ids) ops d
          ((op, .performed operation (.ok answer)) :: turns, d)

/-- The turns of a bulk request, each with its operation. -/
def turns (d : Directory) (request : BulkRequest) :
    List (BulkOperation × BulkOperation.Turn) × Directory :=
  turnsFrom (request.failOnErrors.getD 0) 0 [] request.operations d

/-- Whether a bulk request has more operations than the configuration allows. -/
def isTooLong (d : Directory) (request : BulkRequest) : Bool :=
  d.config.bulkMaxOperations < request.operations.length

/-- Performs a bulk request.  One that is too long is refused as a whole. -/
def bulk (d : Directory) (request : BulkRequest) :
    Except ServiceError BulkResponse × Directory :=
  if d.isTooLong request then (.error (.protocol .tooMany), d)
  else
    let (turns, d) := d.turns request
    (.ok { operations := turns.map fun (op, turn) => op.outcome turn }, d)

end Directory

end Scim
