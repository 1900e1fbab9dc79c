import Scim.Text.Ascii
import Scim.Text.Blank

/-!
# Tokens of a filter

A filter text is cut into tokens from the left.  At a character that is not blank there is always a
token: a parenthesis, a keyword, a quoted literal, or a word.  Keywords are recognised in any case
and wherever a token starts, and take only their own letters, so `organization` is `or` followed
by the word `ganization`.  A quoted literal knows no escapes: it runs to the next quote of its kind
or to the end of the text.
-/

namespace Scim

/-- A token of a filter text. -/
inductive Token where
  | lparen
  | rparen
  | and
  | or
  | pr
  | eq
  | co
  | sw
  | word (text : String)
  | quoted (text : String)
deriving DecidableEq, Repr

namespace Token

/-- The text that a word or a quoted literal carries. -/
def literal? : Token → Option String
  | word s => some s
  | quoted s => some s
  | _ => none

/-- The keywords, in the order in which they are tried. -/
def keywords : List (List Char × Token) :=
  [(['a', 'n', 'd'], and), (['o', 'r'], or), (['p', 'r'], pr), (['e', 'q'], eq), (['c', 'o'], co),
    (['s', 'w'], sw)]

/-- The keyword at the start of the text and what follows it. -/
def keyword? (cs : List Char) : Option (Token × List Char) :=
  keywords.findSome? fun (letters, token) => (Text.dropWordIgnoreCase? letters cs).map (token, ·)

/-- A character that belongs to a word. -/
def isWordChar (c : Char) : Bool :=
  !Text.isBlank c && c != '(' && c != ')'

/-- The content up to the next `quote`, and what follows that. -/
def splitQuoted (quote : Char) (cs : List Char) : List Char × List Char :=
  (cs.takeWhile (· != quote), (cs.dropWhile (· != quote)).drop 1)

/-- The token that starts at the character `c`, which is not blank, and what follows it. -/
def scan (c : Char) (cs : List Char) : Token × List Char :=
  if c = '(' then (lparen, cs)
  else if c = ')' then (rparen, cs)
  else match keyword? (c :: cs) with
    | some found => found
    | none =>
      if c = '"' ∨ c = '\'' then
        let (content, rest) := splitQuoted c cs
        (quoted (String.ofList content), rest)
      else
        (word (String.ofList (c :: cs.takeWhile isWordChar)), cs.dropWhile isWordChar)

theorem length_keyword?_lt {cs rest : List Char} {t : Token} (h : keyword? cs = some (t, rest)) :
    rest.length < cs.length := by
  obtain ⟨⟨letters, token⟩, hmem, hword⟩ := List.exists_of_findSome?_eq_some h
  obtain ⟨r, hr, heq⟩ := Option.map_eq_some_iff.1 hword
  simp only [Prod.mk.injEq] at heq
  have hlen := Text.length_of_dropWordIgnoreCase? hr
  have hpos : 0 < letters.length := by
    simp only [keywords, List.mem_cons, Prod.mk.injEq, List.not_mem_nil, or_false] at hmem
    rcases hmem with h | h | h | h | h | h <;> simp [h.1]
  rw [← heq.2]
  omega

/-- Scanning a token takes at least one character. -/
theorem length_scan_le (c : Char) (cs : List Char) : (scan c cs).2.length ≤ cs.length := by
  unfold scan
  split
  · exact Nat.le_refl _
  · split
    · exact Nat.le_refl _
    · split
      · next found h =>
        have : found.2.length < (c :: cs).length := length_keyword?_lt h
        simp only [List.length_cons] at this
        omega
      · split
        · have : (cs.dropWhile (· != c)).length ≤ cs.length :=
            (List.dropWhile_sublist _).length_le
          simp only [splitQuoted, List.length_drop]
          omega
        · exact (List.dropWhile_sublist _).length_le

/-- The tokens of a text. -/
def ofChars (cs : List Char) : List Token :=
  match _h : Text.trimStart cs with
  | [] => []
  | c :: rest => (scan c rest).1 :: ofChars (scan c rest).2
termination_by cs.length
decreasing_by
  have h1 := length_scan_le c rest
  have h2 := Text.length_trimStart_le cs
  rw [_h, List.length_cons] at h2
  omega

/-- The tokens of a filter text. -/
def ofText (text : String) : List Token :=
  ofChars text.toList

end Token

end Scim
