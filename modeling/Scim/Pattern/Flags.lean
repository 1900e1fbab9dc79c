import Scim.Pattern.Basic

/-!
# Flags and the signs that depend on them

Flags are set for the rest of a group.  They say whether case counts, whether `^` and `$` also
stand for the borders of lines, what a dot matches, which characters are digits, blanks and parts
of words, and whether blanks and comments in a pattern count.  Without the flag `unicode` all
classes are those of ASCII, and what would match a part of a character is refused.
-/

namespace Scim.Pattern

/-- The flags of a place in a pattern. -/
structure Flags where
  caseless : Bool := true
  multiline : Bool := false
  dotAll : Bool := false
  carriage : Bool := false
  unicode : Bool := true
  spaced : Bool := false
deriving DecidableEq, Repr

namespace Flags

/-- The flags with the one of a letter set or unset.  The flag `U` exchanges the meanings of
repetitions with and without a lazy mark, which does not change whether there is a match. -/
def assign? (f : Flags) (letter : Char) (value : Bool) : Option Flags :=
  match letter with
  | 'i' => some { f with caseless := value }
  | 'm' => some { f with multiline := value }
  | 's' => some { f with dotAll := value }
  | 'R' => some { f with carriage := value }
  | 'u' => some { f with unicode := value }
  | 'x' => some { f with spaced := value }
  | 'U' => some f
  | _ => none

/-- Which characters a literal stands for. -/
def caseRule (f : Flags) : Text.CaseRule :=
  if f.caseless then (if f.unicode then .folded else .ascii) else .exact

/-- The characters of words. -/
def words (f : Flags) : Text.CharSet :=
  if f.unicode then .wordChars
  else .ranges [('0'.toNat, '9'.toNat), ('A'.toNat, 'Z'.toNat), ('_'.toNat, '_'.toNat),
    ('a'.toNat, 'z'.toNat)]

/-- The decimal digits. -/
def digits (f : Flags) : Text.CharSet :=
  if f.unicode then .digits else .ranges [('0'.toNat, '9'.toNat)]

/-- The blanks. -/
def blanks (f : Flags) : Text.CharSet :=
  if f.unicode then .blanks else .ranges [(9, 13), (0x20, 0x20)]

/-- The complement of a set.  Without `unicode` it would have bytes that are no characters. -/
def complement? (f : Flags) (s : Text.CharSet) : Option Text.CharSet :=
  if f.unicode then some (.complement s) else none

/-- A set or its complement. -/
def polarize? (f : Flags) (negated : Bool) (s : Text.CharSet) : Option Text.CharSet :=
  if negated then f.complement? s else some s

/-- The members of ranges, with their case variants where case does not count. -/
def members (f : Flags) (ranges : List (Nat × Nat)) : Text.CharSet :=
  if f.caseless then .caseless f.caseRule (.ranges ranges) else .ranges ranges

/-- What a dot matches. -/
def dot? (f : Flags) : Option Text.CharSet :=
  if !f.unicode then none
  else if f.dotAll then some .all
  else if f.carriage then
    some (.complement (.ranges [('\n'.toNat, '\n'.toNat), ('\r'.toNat, '\r'.toNat)]))
  else some (.complement (.ranges [('\n'.toNat, '\n'.toNat)]))

/-- What `^` asks for. -/
def caret (f : Flags) : Anchor :=
  if f.multiline then (if f.carriage then .carriageLineStart else .lineStart) else .textStart

/-- What `$` asks for. -/
def dollar (f : Flags) : Anchor :=
  if f.multiline then (if f.carriage then .carriageLineEnd else .lineEnd) else .textEnd

end Flags

end Scim.Pattern
