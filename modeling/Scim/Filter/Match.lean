import Scim.Filter.Predicate
import Scim.Pattern.Reader
import Scim.Text.Case

/-!
# Which documents a predicate matches

A path leads through a document by its dotted names.  Where it crosses an array it goes on in every
element that is an object, and an array at its end stands for itself and for its elements.  Strings
are compared exactly or without regard to case; numbers by value, after rounding to doubles.
-/

namespace Scim

/-- How strings are compared. -/
inductive Collation where
  | simple
  | ignoreCase
deriving DecidableEq, Repr

namespace Collation

/-- Equality of strings. -/
def sameText : Collation → String → String → Bool
  | simple, a, b => a == b
  | ignoreCase, a, b => Text.eqIgnoreCase a b

/-- Equality of values. -/
def same (collation : Collation) : Json → Json → Bool
  | .str a, .str b => collation.sameText a b
  | .num a, .num b => a.sameValue b
  | a, b => a.same b

end Collation

/-! ## Paths through a document -/

/-- Splits a text at every `separator`; the parts are one more than the separators. -/
def splitAt (separator : Char) : List Char → List (List Char)
  | [] => [[]]
  | c :: cs =>
    if c = separator then [] :: splitAt separator cs
    else match splitAt separator cs with
      | [] => [[c]]
      | part :: parts => (c :: part) :: parts

/-- The names of a dotted path. -/
def dottedNames (path : String) : List String :=
  (splitAt '.' path.toList).map String.ofList

namespace Json

/-- The values one name further: the member of an object, or the members of the objects in an
array. -/
def step (name : String) : Json → List Json
  | obj members => (Members.find? name members).toList
  | arr items => items.filterMap (get? name)
  | _ => []

/-- The values that a list of names leads to. -/
def follow : List String → Json → List Json
  | [], j => [j]
  | name :: names, j => (j.step name).flatMap (follow names)

/-- The values at a dotted path. -/
def resolve (path : String) (j : Json) : List Json :=
  j.follow (dottedNames path)

/-- A value, and its elements if it is an array. -/
def withElements : Json → List Json
  | arr items => arr items :: items
  | j => [j]

/-- The values that a comparison at a path looks at. -/
def candidates (path : String) (j : Json) : List Json :=
  (j.resolve path).flatMap withElements

end Json

namespace Predicate

/-- Whether some string of the list holds a match of a pattern text; a text that is no pattern
matches nothing. -/
def patternFound (pattern : String) (values : List Json) : Bool :=
  match Pattern.ofText? pattern with
  | some p => values.any fun v => (v.string?.map fun s => p.found s.toList).getD false
  | none => false

mutual

/-- Whether a document matches. -/
def holds (collation : Collation) (document : Json) : Predicate → Bool
  | all => true
  | nothing => false
  | present path => !(document.resolve path).isEmpty
  | equals path value => (document.candidates path).any (collation.same · value)
  | pattern path p => patternFound p (document.candidates path)
  | and parts => holdsAll collation document parts
  | or parts => holdsAny collation document parts

/-- Whether a document matches every part. -/
def holdsAll (collation : Collation) (document : Json) : List Predicate → Bool
  | [] => true
  | p :: ps => holds collation document p && holdsAll collation document ps

/-- Whether a document matches some part. -/
def holdsAny (collation : Collation) (document : Json) : List Predicate → Bool
  | [] => false
  | p :: ps => holds collation document p || holdsAny collation document ps

end

end Predicate

end Scim
