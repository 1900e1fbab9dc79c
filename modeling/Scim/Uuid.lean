import Scim.Text.Ascii

/-!
# Identifiers of resources

An identifier is a UUID, kept as its 32 hexadecimal digits in small letters.  It is written with
hyphens, and read with or without them, in braces, or behind `urn:uuid:`, in any case.
-/

namespace Scim

/-- A hexadecimal digit in small letters. -/
def isSmallHex (c : Char) : Bool :=
  c ∈ ['0', '1', '2', '3', '4', '5', '6', '7', '8', '9', 'a', 'b', 'c', 'd', 'e', 'f']

/-- A UUID. -/
structure Uuid where
  digits : List Char
  length_digits : digits.length = 32
  isSmallHex_digits : digits.all isSmallHex = true
deriving DecidableEq

namespace Uuid

/-- The hexadecimal digit of a number below 16. -/
def hexDigit (n : Fin 16) : Char :=
  ['0', '1', '2', '3', '4', '5', '6', '7', '8', '9', 'a', 'b', 'c', 'd', 'e', 'f'].get n

theorem isSmallHex_hexDigit (n : Fin 16) : isSmallHex (hexDigit n) = true := by
  revert n; decide

/-- The UUID with the given digits. -/
def ofFn (f : Fin 32 → Fin 16) : Uuid where
  digits := List.ofFn fun i => hexDigit (f i)
  length_digits := by simp
  isSmallHex_digits := by
    rw [List.all_eq_true]
    intro c hc
    obtain ⟨i, rfl⟩ := List.mem_ofFn.1 hc
    exact isSmallHex_hexDigit _

/-- The written form: groups of 8, 4, 4, 4 and 12 digits. -/
def text (u : Uuid) : String :=
  let ds := u.digits
  String.ofList (ds.take 8 ++ '-' :: (ds.drop 8).take 4 ++ '-' :: (ds.drop 12).take 4
    ++ '-' :: (ds.drop 16).take 4 ++ '-' :: ds.drop 20)

/-- The UUID with these digits, in any case. -/
def ofDigits? (cs : List Char) : Option Uuid :=
  let ds := cs.map Char.toLower
  if h : ds.length = 32 ∧ ds.all isSmallHex = true then some ⟨ds, h.1, h.2⟩ else none

/-- The digits of a form with hyphens. -/
def dropHyphens? (cs : List Char) : Option (List Char) :=
  if cs.length = 36 ∧ cs[8]? = some '-' ∧ cs[13]? = some '-' ∧ cs[18]? = some '-'
      ∧ cs[23]? = some '-' then
    some (cs.take 8 ++ (cs.drop 9).take 4 ++ (cs.drop 14).take 4 ++ (cs.drop 19).take 4
      ++ cs.drop 24)
  else none

/-- What stands between braces. -/
def dropBraces? (cs : List Char) : Option (List Char) :=
  match cs with
  | '\x7b' :: rest => if rest.getLast? = some '\x7d' then some rest.dropLast else none
  | _ => none

/-- The UUID that a text denotes. -/
def ofChars? (cs : List Char) : Option Uuid :=
  if cs.length = 32 then ofDigits? cs
  else if cs.length = 36 then (dropHyphens? cs).bind ofDigits?
  else if cs.length = 38 then ((dropBraces? cs).bind dropHyphens?).bind ofDigits?
  else
    ((Text.dropWordIgnoreCase? ['u', 'r', 'n', ':', 'u', 'u', 'i', 'd', ':'] cs).bind
      dropHyphens?).bind ofDigits?

/-- The UUID that a text denotes. -/
def ofText? (text : String) : Option Uuid :=
  ofChars? text.toList

end Uuid

end Scim
