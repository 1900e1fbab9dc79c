import Scim.Path.Segment
import Scim.Schema.Names

/-!
# Applying patch operations

An operation changes a document along one path.  At every level it passes what one key holds
through a function, so nothing off the path changes.

* Add and replace create what is missing on the way: an absent or scalar value becomes an object,
  and where a filter selects no element of an array, an element that carries the filtered
  sub-attribute is appended.  An array that the path would cross without a filter stops them.
* Remove creates nothing and stops where the way ends.

Operations whose target cannot be reached leave the document as it is from there on.
-/

namespace Scim

/-- What an operation does. -/
inductive PatchKind where
  | add
  | remove
  | replace
deriving DecidableEq, Repr

/-- One operation of a patch.  An absent value differs from the value `null`. -/
structure PatchOperation where
  kind : PatchKind
  path : Option String := none
  value : Option Json := none

namespace Patch

/-! ## Elements of an array -/

/-- Changes the members of the first element that a filter selects. -/
def changeFirst (f : ElementFilter) (change : Members → Members) : List Json → List Json
  | [] => []
  | .obj members :: items =>
    if f.selects (.obj members) then .obj (change members) :: items
    else .obj members :: changeFirst f change items
  | item :: items => item :: changeFirst f change items

/-- Changes the members of the first element that a filter selects; if there is none, those of a
fresh element at the end. -/
def changeOrAppend (f : ElementFilter) (change : Members → Members) (items : List Json) :
    List Json :=
  if items.any f.selects then changeFirst f change items
  else items ++ [.obj (change f.seed)]

/-- The items of an array; anything else counts as an empty one. -/
def itemsOf : Option Json → List Json
  | some (.arr items) => items
  | _ => []

/-! ## On the way -/

/-- Passes through a key on the way of a remove operation. -/
def passRemoving (filter : Option ElementFilter) (change : Members → Members) :
    Option Json → Option Json :=
  Option.map fun held =>
    match filter, held with
    | some f, .arr items => .arr (changeFirst f change items)
    | none, .obj members => .obj (change members)
    | _, held => held

/-- Passes through a key on the way of an add or replace operation. -/
def passCreating (filter : Option ElementFilter) (change : Members → Members)
    (held : Option Json) : Option Json :=
  match filter with
  | some f => some (.arr (changeOrAppend f change (itemsOf held)))
  | none =>
    match held with
    | some (.arr items) => some (.arr items)
    | some (.obj members) => some (.obj (change members))
    | _ => some (.obj (change []))

/-! ## At the end of a path -/

/-- The `manager` of the enterprise extension is complex: anything but an object becomes its
`value`. -/
def complexValue (key : String) (parent : Option String) (value : Json) : Json :=
  if key = "manager" ∧ parent = some Schemas.enterpriseUser ∧ !value.isObject then
    .obj [("value", value)]
  else value

/-- Merges a value into an element: an object member by member, anything else but `null` as the
member `value`. -/
def mergeValue (value : Json) (element : Members) : Members :=
  match value with
  | .obj members => Members.merge element members
  | .null => element
  | other => Members.insert "value" other element

/-- Adds a value to what a key holds: arrays grow, objects are merged, anything else is replaced by
`fresh`. -/
def addTo (value fresh : Json) (held : Option Json) : Json :=
  match held, value with
  | some (.arr items), .arr added => .arr (items ++ added)
  | some (.arr items), value => .arr (items ++ [value])
  | some (.obj members), .null => .obj members
  | some (.obj members), .obj added => .obj (Members.merge members added)
  | _, _ => fresh

/-- What add and replace make of the key at the end of a path. -/
def write (adding : Bool) (segment : Segment) (parent : Option String) (value : Json)
    (held : Option Json) : Option Json :=
  match segment.filter with
  | some f => some (.arr (changeOrAppend f (mergeValue value) (itemsOf held)))
  | none =>
    let fresh := complexValue segment.key parent value
    some (if adding then addTo value fresh held else fresh)

/-- The value by which an element is known: its `value`, `id` or `$ref`, or the element itself. -/
def identity (item : Json) : Json :=
  (((item.get? "value").or (item.get? "id")).or (item.get? "$ref")).getD item

/-- The text of a scalar, regardless of its kind. -/
def scalarText? : Json → Option String
  | .str s => some s
  | .num n => some n.text
  | .bool b => some (if b then "true" else "false")
  | _ => none

/-- Whether a removal names an element: by equality, or by the text of its identity. -/
def isRemoved (removal item : Json) : Bool :=
  item.same removal ||
    match scalarText? (identity item), scalarText? ((removal.get? "value").getD removal) with
    | some a, some b => a == b
    | _, _ => false

/-- Removes from an array the elements that some removal names. -/
def withoutNamed (removals items : List Json) : List Json :=
  items.filter fun item => !removals.any (isRemoved · item)

/-- What remove makes of the key at the end of a path.  An array loses the elements that the filter
selects or the value names, and stays as it is without either; anything else goes altogether. -/
def clear (filter : Option ElementFilter) (value : Option Json) : Option Json → Option Json
  | some (.arr items) =>
    match filter, value with
    | some f, _ => some (.arr (items.filter fun item => !f.selects item))
    | none, none => some (.arr items)
    | none, some .null => some (.arr items)
    | none, some (.arr removals) => some (.arr (withoutNamed removals items))
    | none, some removal => some (.arr (withoutNamed [removal] items))
  | _ => none

/-! ## Along a path -/

/-- What an operation makes of the key at the end of its path.  Without a value add and replace
change nothing there. -/
def arrive (kind : PatchKind) (value : Option Json) (parent : Option String) (segment : Segment)
    (held : Option Json) : Option Json :=
  match kind, value with
  | .remove, value => clear segment.filter value held
  | _, none => held
  | .add, some value => write true segment parent value held
  | .replace, some value => write false segment parent value held

/-- What an operation makes of a key on its way. -/
def pass (kind : PatchKind) (filter : Option ElementFilter) (change : Members → Members) :
    Option Json → Option Json :=
  match kind with
  | .remove => passRemoving filter change
  | _ => passCreating filter change

/-- Applies an operation along a path.  `parent` is the segment that leads here, as written. -/
def along (kind : PatchKind) (value : Option Json) :
    Option String → List Segment → Members → Members
  | _, [], members => members
  | parent, [segment], members =>
    Members.alter segment.key (arrive kind value parent segment) members
  | _, segment :: next :: rest, members =>
    Members.alter segment.key
      (pass kind segment.filter (along kind value (some segment.raw) (next :: rest))) members

/-! ## At the root -/

/-- Writes one member of a value at the root.  Its key is itself a path; a key without segments
stands for itself. -/
def writeMember (members : Members) (key : String) (value : Json) : Members :=
  match Segment.ofPath key with
  | [] => Members.insert key value members
  | segments => along .replace (some value) none segments members

/-- Applies an operation without a path: its value has to be an object, whose keys are removed or
whose members are written. -/
def atRoot (kind : PatchKind) (value : Option Json) (members : Members) : Members :=
  match value with
  | some (.obj fields) =>
    match kind with
    | .remove => fields.foldl (fun ms (key, _) => Members.erase key ms) members
    | _ => fields.foldl (fun ms (key, field) => writeMember ms key field) members
  | _ => members

end Patch

namespace PatchOperation

/-- Whether an operation has no path, or an empty one. -/
def targetsRoot (op : PatchOperation) : Bool :=
  op.path.all (·.isEmpty)

/-- Applies an operation to the members of a document. -/
def apply (op : PatchOperation) (members : Members) : Members :=
  match op.path with
  | none => Patch.atRoot op.kind op.value members
  | some path =>
    if path.isEmpty then Patch.atRoot op.kind op.value members
    else Patch.along op.kind op.value none (Segment.ofPath path) members

/-- Applies operations in order. -/
def applyAll (ops : List PatchOperation) (members : Members) : Members :=
  ops.foldl (fun ms op => op.apply ms) members

end PatchOperation

end Scim
