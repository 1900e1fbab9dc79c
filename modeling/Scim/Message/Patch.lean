import Scim.Json.Decode
import Scim.Message.Error
import Scim.Patch.Apply

/-!
# Patch requests

A patch request lists operations.  An operation keeps apart a value that is absent and one that is
`null`.
-/

namespace Scim

namespace PatchKind

/-- The name of a kind of operation in messages. -/
def name : PatchKind → String
  | add => "add"
  | remove => "remove"
  | replace => "replace"

/-- The kind that a name denotes, in any case. -/
def ofText (text : String) : Except ProtocolError PatchKind :=
  let small := Text.lowerAscii text
  if small = "add" then .ok add
  else if small = "remove" then .ok remove
  else if small = "replace" then .ok replace
  else .error (.invalidSyntax ("unsupported patch op '" ++ small ++ "'"))

def decode : Decoder PatchKind := fun j => do
  match ofText (← Decoder.string j) with
  | .ok kind => pure kind
  | .error e => throw (.refused e.message)

end PatchKind

namespace PatchOperation

def shape : Shape where
  name := "PatchOperation"
  fields := [.required "op" PatchKind.decode, .optionalDefaulted "path" .string,
    .defaulted "value" .any]

def decode : Decoder PatchOperation := fun j => do
  let row ← shape.row j
  pure {
    kind := ← Members.need "op" PatchKind.decode row
    path := ← Members.want "path" .string row
    value := Members.find? "value" row }

def encode (op : PatchOperation) : Json :=
  .ofPairs <| [("op", .str op.kind.name)] ++ Json.optionalMember "path" .str op.path
    ++ Json.optionalMember "value" id op.value

end PatchOperation

/-- A request to patch a resource. -/
structure PatchRequest where
  schemas : List String := []
  operations : List PatchOperation

namespace PatchRequest

def shape : Shape where
  name := "PatchRequest"
  fields := [.defaulted "schemas" (.list .string),
    .required "Operations" (.list PatchOperation.decode)]

def decode : Decoder PatchRequest := fun j => do
  let row ← shape.row j
  pure {
    schemas := ← Members.needOr "schemas" (.list .string) [] row
    operations := ← Members.need "Operations" (.list PatchOperation.decode) row }

def encode (r : PatchRequest) : Json :=
  .ofPairs [("schemas", .ofStrings r.schemas),
    ("Operations", .arr (r.operations.map PatchOperation.encode))]

/-- Reads the operations of a request. -/
def operationsOf (items : List Json) : Except ProtocolError (List PatchOperation) :=
  items.mapM fun item =>
    match PatchOperation.decode item with
    | .ok op => .ok op
    | .error e => .error (.invalidSyntax ("Invalid PatchOp: " ++ e.message))

/-- Reads the body of a request: its `Operations` have to be an array of well-formed operations.
Schema names that are not strings are passed over. -/
def ofBody (body : Json) : Except ProtocolError PatchRequest := do
  match (body.get? "Operations").bind Json.items? with
  | none => throw (.invalidSyntax "Invalid PatchOp")
  | some items =>
    let operations ← operationsOf items
    let schemas := (((body.get? "schemas").bind Json.items?).getD []).filterMap Json.string?
    pure { schemas, operations }

end PatchRequest

end Scim
