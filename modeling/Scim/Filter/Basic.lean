import Scim.Filter.Token

/-!
# Filters

A filter is a tree of presence tests and comparisons under `and` and `or`.  Reading never fails: a
missing operand becomes `missing` or a comparison without a value, an open parenthesis is closed at
the end, and tokens behind the outermost expression are ignored.  `or` binds weaker than `and`, and
both group to the left.
-/

namespace Scim

/-- How a comparison relates an attribute to its operand. -/
inductive Comparison where
  | equal
  | contains
  | startsWith
deriving DecidableEq, Repr

/-- A filter expression. -/
inductive Filter where
  | present (path : String)
  | compare (path : String) (comparison : Comparison) (value : Option String)
  | and (left right : Filter)
  | or (left right : Filter)
  | missing
deriving DecidableEq, Repr

namespace Filter

/-- Whether some part of the filter was missing. -/
def isIncomplete : Filter → Bool
  | present _ => false
  | compare _ _ value => value.isNone
  | and left right => left.isIncomplete || right.isIncomplete
  | or left right => left.isIncomplete || right.isIncomplete
  | missing => true

/-! ## Reading

The reader stands either before an operand or behind one.  What it has read of the current
parenthesis is a `Group`; the groups around it wait in a list, the innermost first. -/

/-- The finished part of a parenthesis: the alternatives left of the last `or`, and the conjuncts
behind that up to the last `and`. -/
structure Group where
  alternatives : Option Filter := none
  conjuncts : Option Filter := none

/-- Joins an operand to what stands on its left. -/
def join (op : Filter → Filter → Filter) : Option Filter → Filter → Filter
  | none, right => right
  | some left, right => op left right

/-- The conjunction that ends in `last`. -/
def Group.conjunction (g : Group) (last : Filter) : Filter :=
  join Filter.and g.conjuncts last

/-- The whole parenthesis when `last` is its last operand. -/
def Group.close (g : Group) (last : Filter) : Filter :=
  join Filter.or g.alternatives (g.conjunction last)

/-- Closes the current group and all groups around it. -/
def closeAll (g : Group) (last : Filter) (outer : List Group) : Filter :=
  outer.foldl (fun inner group => group.close inner) (g.close last)

mutual

/-- Reads on before an operand.  A word without a comparison stands for the presence of the
attribute; behind a comparison the next token is its operand, whatever it is.  Any token that starts
no operand is taken for a missing one. -/
def beforeOperand (g : Group) (outer : List Group) : List Token → Filter
  | [] => closeAll g missing outer
  | .lparen :: ts => beforeOperand {} (g :: outer) ts
  | .word path :: ts =>
    match ts with
    | .pr :: ts => behindOperand g (present path) outer ts
    | .eq :: ts => beforeValue g outer path .equal ts
    | .co :: ts => beforeValue g outer path .contains ts
    | .sw :: ts => beforeValue g outer path .startsWith ts
    | ts => behindOperand g (present path) outer ts
  | _ :: ts => behindOperand g missing outer ts

/-- Reads the value of a comparison. -/
def beforeValue (g : Group) (outer : List Group) (path : String) (comparison : Comparison) :
    List Token → Filter
  | [] => closeAll g (compare path comparison none) outer
  | t :: ts => behindOperand g (compare path comparison t.literal?) outer ts

/-- Reads on behind an operand.  A closing parenthesis outside of every group ends the filter, and
so does any token but `and` and `or`. -/
def behindOperand (g : Group) (last : Filter) (outer : List Group) : List Token → Filter
  | .and :: ts => beforeOperand { g with conjuncts := some (g.conjunction last) } outer ts
  | .or :: ts => beforeOperand { alternatives := some (g.close last) } outer ts
  | .rparen :: ts =>
    match outer with
    | [] => g.close last
    | around :: outer => behindOperand around (g.close last) outer ts
  | _ => closeAll g last outer

end

/-- The filter that tokens spell; no tokens spell none. -/
def ofTokens? (tokens : List Token) : Option Filter :=
  if tokens.isEmpty then none else some (beforeOperand {} [] tokens)

/-- The filter that a text spells; a blank text spells none. -/
def ofText? (text : String) : Option Filter :=
  ofTokens? (Token.ofText text)

end Filter

end Scim
