import Scim.Text.CaseTable
import Scim.Text.ClassTable

/-!
# Lowercase and simple case folding

Strings are compared without regard to case in two ways.  Equality in the directory and in patch
filters lowers both sides with the full Unicode mapping, in which a capital sigma becomes `ς` at
the end of a word and `σ` elsewhere, and `İ` becomes two characters.  Patterns compare character
by character under simple case folding, which keeps the length of a text.
-/

namespace Scim.Text

/-! ## Simple case folding -/

/-- Simple case folding of a character: two characters match without regard to case exactly when
their foldings are equal. -/
def foldChar (c : Char) : Char :=
  if c.toNat < 0x80 then c.toLower else Char.ofNat (caseImage foldRows c.toNat)

/-- Simple case folding of a text, character by character. -/
def foldCase (cs : List Char) : List Char :=
  cs.map foldChar

theorem length_foldCase (cs : List Char) : (foldCase cs).length = cs.length := by
  simp [foldCase]

/-! ## Lowercase -/

/-- A character that has a case. -/
def isCased (c : Char) : Bool :=
  inRanges casedRanges c.toNat

/-- A character that the search for the end of a word passes over. -/
def isCaseIgnorable (c : Char) : Bool :=
  inRanges caseIgnorableRanges c.toNat

/-- Whether the next character, those passed over apart, has a case. -/
def nextIsCased (cs : List Char) : Bool :=
  ((cs.dropWhile isCaseIgnorable).head?.map isCased).getD false

/-- The lowercase of a character by itself. -/
def lowerChar (c : Char) : List Char :=
  if c.toNat < 0x80 then [c.toLower]
  else if c = 'İ' then ['i', '\u0307']
  else [Char.ofNat (caseImage lowercaseRows c.toNat)]

/-- Lowers a text whose reversed beginning is `before`: a capital sigma with a cased character
before it and none after it ends a word. -/
def lowerFrom : List Char → List Char → List Char
  | _, [] => []
  | before, c :: rest =>
    (if c = 'Σ' then
      (if nextIsCased before && !nextIsCased rest then ['ς'] else ['σ'])
    else lowerChar c) ++ lowerFrom (c :: before) rest

/-- The full lowercase of a text. -/
def lowercase (s : String) : String :=
  String.ofList (lowerFrom [] s.toList)

/-- Equality up to full lowercase. -/
def eqIgnoreCase (a b : String) : Bool :=
  lowercase a == lowercase b

/-! ## Digits -/

/-- A decimal digit of any script. -/
def isDecimalDigit (c : Char) : Bool :=
  inRanges decimalDigitRanges c.toNat

end Scim.Text
