import Scim.Text.Property.Age
import Scim.Text.Property.Binary
import Scim.Text.Property.Break
import Scim.Text.Property.Category
import Scim.Text.Property.Script
import Scim.Text.Property.ScriptExtension

/-!
# Finding a property by its name

Names are compared in loose form: the case of letters, spaces, hyphens, underscores and a leading
`is` do not count.  A name by itself is a property that a character has or lacks, a general
category or a script, in this order.  A name with a value is one of seven properties.
-/

namespace Scim.Text

/-! ## Loose names -/

/-- The characters of a name without a leading `is`. -/
def dropIs : List Char → List Char
  | i :: s :: rest => if i.toLower = 'i' ∧ s.toLower = 's' then rest else i :: s :: rest
  | cs => cs

/-- The loose form of a name.  The one name `isc` keeps its beginning, as `c` alone is the name of
a general category. -/
def looseName (cs : List Char) : String :=
  let bare := dropIs cs
  let kept := (bare.filter fun c => c.toNat < 0x80 && c != ' ' && c != '_' && c != '-').map
    Char.toLower
  if kept = ['c'] ∧ bare.length < cs.length then "isc" else String.ofList kept

/-! ## General categories -/

/-- The categories of a group. -/
def categoryGroup? : String → Option (List String)
  | "lc" | "casedletter" => some ["lu", "ll", "lt"]
  | "l" | "letter" => some ["lu", "ll", "lt", "lm", "lo"]
  | "m" | "mark" | "combiningmark" => some ["mn", "mc", "me"]
  | "n" | "number" => some ["nd", "nl", "no"]
  | "p" | "punctuation" | "punct" => some ["pc", "pd", "ps", "pe", "pi", "pf", "po"]
  | "s" | "symbol" => some ["sm", "sc", "sk", "so"]
  | "z" | "separator" => some ["zs", "zl", "zp"]
  | _ => none

/-- The code points that are assigned. -/
def assignedSet (rows : List NamedRanges) : CharSet :=
  .unions (rows.map NamedRanges.set)

/-- The set of a general category or of a group of them. -/
def categorySet? (name : String) : Option CharSet :=
  match name with
  | "any" => some .all
  | "ascii" => some (.ranges [(0, 0x7F)])
  | "assigned" => some (assignedSet categoryRows)
  | "cn" | "unassigned" => some (.complement (assignedSet categoryRows))
  | "c" | "other" =>
    some (.union (rowsSet categoryRows ["cc", "cf", "co"])
      (.complement (assignedSet categoryRows)))
  | _ =>
    match categoryGroup? name with
    | some names => some (rowsSet categoryRows names)
    | none => rowSet? categoryRows name

/-! ## Other properties -/

/-- The set of a property that a character has or lacks. -/
def binarySet? (name : String) : Option CharSet :=
  (rowSet? binaryRows name).or (derivedSet? (categoryRows ++ binaryRows) derivedRows name)

/-- The set of a script. -/
def scriptSet? (name : String) : Option CharSet :=
  rowSet? scriptRows name

/-- The set of the code points that are used with a script. -/
def scriptExtensionSet? (name : String) : Option CharSet :=
  (rowSet? scriptExtensionRows name).or (scriptSet? name)

/-- The set of the code points that are assigned in a version of Unicode. -/
def ageSet? (name : String) : Option CharSet :=
  if ageRows.any fun row => row.names.contains name then
    let older := ageRows.takeWhile fun row => !row.names.contains name
    some (.unions ((older.map NamedRanges.set) ++ (rowSet? ageRows name).toList))
  else none

/-- The set of a class of breaks. -/
def breakSet? (rows : List NamedRanges) (derived : List DerivedRanges) (name : String) :
    Option CharSet :=
  (rowSet? rows name).or
    (derivedSet? (categoryRows ++ binaryRows ++ breakPartRows) derived name)

/-! ## Names -/

/-- The set that a name by itself stands for.  Of the names that several properties share, `sc`,
`cf` and `lc` are general categories. -/
def propertySet? (name : List Char) : Option CharSet :=
  let name := looseName name
  (binarySet? name).or ((categorySet? name).or (scriptSet? name))

/-- The set that a name with a value stands for. -/
def propertyValueSet? (name value : List Char) : Option CharSet :=
  let value := looseName value
  match looseName name with
  | "gc" | "generalcategory" => categorySet? value
  | "sc" | "script" => scriptSet? value
  | "scx" | "scriptextensions" => scriptExtensionSet? value
  | "age" => ageSet? value
  | "gcb" | "graphemeclusterbreak" => breakSet? graphemeBreakRows graphemeBreakDerived value
  | "wb" | "wordbreak" => breakSet? wordBreakRows wordBreakDerived value
  | "sb" | "sentencebreak" => breakSet? sentenceBreakRows sentenceBreakDerived value
  | _ => none

/-! ## Letters and digits -/

/-- Whether a character belongs to a set, if there is one. -/
def isMember (s : Option CharSet) (c : Char) : Bool :=
  (s.map fun s => s.holds c).getD false

/-- A letter of any script. -/
def isLetter (c : Char) : Bool :=
  if c.toNat < 0x80 then c.isAlpha else isMember (binarySet? "alphabetic") c

/-- A letter or a digit of any script. -/
def isLetterOrDigit (c : Char) : Bool :=
  if c.toNat < 0x80 then c.isAlphanum else isLetter c || isMember (categorySet? "number") c

end Scim.Text
