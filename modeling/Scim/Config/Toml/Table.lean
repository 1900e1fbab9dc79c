import Scim.Json.Basic

/-!
# Tables of configuration files

A document is built line by line.  A key may be set once.  A table may be opened by one header, and
dotted keys extend only tables that dotted keys made.  A header in double brackets adds a table to
an array, and keys below the array belong to the table that was added last.
-/

namespace Scim.Toml

/-- How a table came to be. -/
inductive Origin where
  /-- On the way to the table of a header. -/
  | passed
  /-- By a header of its own. -/
  | header
  /-- By dotted keys. -/
  | dotted
deriving DecidableEq, Repr

/-- A part of a document under construction.  Of an array of tables the finished ones are values,
the last one first. -/
inductive Node where
  | value (j : Json)
  | table (origin : Origin) (entries : List (String × Node))
  | tables (finished : List Json) (last : List (String × Node))

/-- The entries of a table under construction. -/
abbrev Entries := List (String × Node)

/-! ## Values -/

mutual

/-- The value of a finished part. -/
def Node.toJson : Node → Json
  | .value j => j
  | .table _ entries => .ofPairs (entriesToJson entries)
  | .tables finished last => .arr (finished.reverse ++ [.ofPairs (entriesToJson last)])

/-- The values of finished entries. -/
def entriesToJson : Entries → List (String × Json)
  | [] => []
  | (name, node) :: entries => (name, node.toJson) :: entriesToJson entries

end

/-! ## Dotted keys -/

/-- A table made by dotted keys that holds one value. -/
def nest : List String → Json → Node
  | [], j => .value j
  | part :: parts, j => .table .dotted [(part, nest parts j)]

mutual

/-- Sets a dotted key in a table; `none` when it is set already or belongs to a table that dotted
keys may not extend. -/
def setIn (path : List String) (j : Json) : Entries → Option Entries
  | [] =>
    match path with
    | [] => none
    | part :: parts => some [(part, nest parts j)]
  | (name, node) :: entries =>
    match path with
    | [] => none
    | part :: parts =>
      if name = part then (setNode parts j node).map fun node => (name, node) :: entries
      else (setIn path j entries).map ((name, node) :: ·)

/-- Sets a dotted key in what an entry holds.  Tables that headers passed may be on its way but not
at its end. -/
def setNode (path : List String) (j : Json) : Node → Option Node
  | .value _ => none
  | .table origin entries =>
    if path.isEmpty ∨ origin = .header ∨ (origin = .passed ∧ path.length = 1) then none
    else (setIn path j entries).map (.table origin)
  | .tables finished last =>
    if path.length ≤ 1 then none else (setIn path j last).map (.tables finished)

end

/-! ## Headers -/

/-- A table or an array of tables that a header starts. -/
def started (isArray : Bool) : Node :=
  if isArray then .tables [] [] else .table .header []

/-- What a header starts, within tables on the way to it. -/
def nestHeader (isArray : Bool) : List String → Node
  | [] => started isArray
  | part :: parts => .table .passed [(part, nestHeader isArray parts)]

mutual

/-- Opens the table of a header, or adds a table to the array of a header in double brackets;
`none` when the table is open already or what is there is something else. -/
def openIn (isArray : Bool) (path : List String) : Entries → Option Entries
  | [] =>
    match path with
    | [] => none
    | part :: parts => some [(part, nestHeader isArray parts)]
  | (name, node) :: entries =>
    match path with
    | [] => none
    | part :: parts =>
      if name = part then
        (openNode isArray parts node).map fun node => (name, node) :: entries
      else (openIn isArray path entries).map ((name, node) :: ·)

/-- Opens the table of a header below an entry. -/
def openNode (isArray : Bool) (path : List String) : Node → Option Node
  | .value _ => none
  | .table origin entries =>
    if path.isEmpty then
      if origin = .passed ∧ !isArray then some (.table .header entries) else none
    else (openIn isArray path entries).map (.table origin)
  | .tables finished last =>
    if path.isEmpty then
      if isArray then some (.tables (.ofPairs (entriesToJson last) :: finished) []) else none
    else (openIn isArray path last).map (.tables finished)

end

/-! ## Keys below headers -/

mutual

/-- Sets a dotted key in the table at a path of keys. -/
def setBelow (header path : List String) (j : Json) : Entries → Option Entries
  | [] => if header.isEmpty then setIn path j [] else none
  | (name, node) :: entries =>
    match header with
    | [] => setIn path j ((name, node) :: entries)
    | part :: parts =>
      if name = part then
        (setBelowNode parts path j node).map fun node => (name, node) :: entries
      else (setBelow header path j entries).map ((name, node) :: ·)

/-- Sets a dotted key in the table at a path below an entry. -/
def setBelowNode (header path : List String) (j : Json) : Node → Option Node
  | .value _ => none
  | .table origin entries => (setBelow header path j entries).map (.table origin)
  | .tables finished last => (setBelow header path j last).map (.tables finished)

end

end Scim.Toml
