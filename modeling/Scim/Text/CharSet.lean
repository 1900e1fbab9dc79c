import Scim.Text.Blank
import Scim.Text.Case

/-!
# Sets of characters

A set of characters is given by ranges of code points and by the operations on sets.  Membership
follows the operations, so the laws of the operations are those of the Booleans.  A set may also
be taken without regard to case: it then holds the case variants of its members.
-/

namespace Scim.Text

/-! ## Case variants -/

/-- Which characters are variants of one another: none, the two cases of the letters of ASCII, or
all characters with one simple case folding. -/
inductive CaseRule where
  | exact
  | ascii
  | folded
deriving DecidableEq, Repr

namespace CaseRule

/-- The form that the variants of a character share. -/
def form : CaseRule → Char → Char
  | exact, c => c
  | ascii, c => c.toLower
  | folded, c => foldChar c

/-- Whether two characters are variants of one another. -/
def same (rule : CaseRule) (c d : Char) : Bool :=
  rule.form c == rule.form d

theorem same_iff {rule : CaseRule} {c d : Char} :
    rule.same c d = true ↔ rule.form c = rule.form d :=
  beq_iff_eq

theorem same_self (rule : CaseRule) (c : Char) : rule.same c c = true :=
  same_iff.2 rfl

theorem same_comm {rule : CaseRule} {c d : Char} (h : rule.same c d = true) :
    rule.same d c = true :=
  same_iff.2 (same_iff.1 h).symm

/-- The code points that fold to `n`, and `n` itself. -/
def foldSources (n : Nat) : List Nat :=
  n :: foldRows.filterMap fun (first, last, step, image) =>
    let source := first + (n - image)
    if image ≤ n ∧ source ≤ last ∧ (source - first) % step = 0 then some source else none

/-- The variants of a code point, itself included. -/
def variants : CaseRule → Nat → List Nat
  | exact, n => [n]
  | ascii, n =>
    if 0x41 ≤ n ∧ n ≤ 0x5A then [n, n + 0x20]
    else if 0x61 ≤ n ∧ n ≤ 0x7A then [n, n - 0x20]
    else [n]
  | folded, n => foldSources (caseImage foldRows n)

end CaseRule

/-! ## Sets -/

/-- A set of characters. -/
inductive CharSet where
  | ranges (ranges : List (Nat × Nat))
  | caseless (rule : CaseRule) (s : CharSet)
  | complement (s : CharSet)
  | union (s t : CharSet)
  | inter (s t : CharSet)
  | diff (s t : CharSet)
  | symmDiff (s t : CharSet)
deriving DecidableEq, Repr

namespace CharSet

/-- Whether a set has a code point. -/
def has : CharSet → Nat → Bool
  | ranges rs, n => inRanges rs n
  | caseless rule s, n => (rule.variants n).any s.has
  | complement s, n => !s.has n
  | union s t, n => s.has n || t.has n
  | inter s t, n => s.has n && t.has n
  | diff s t, n => s.has n && !t.has n
  | symmDiff s t, n => s.has n != t.has n

/-- Whether a set has a character. -/
def holds (s : CharSet) (c : Char) : Bool :=
  s.has c.toNat

/-- The set without members. -/
def empty : CharSet := ranges []

/-- The set of all characters. -/
def all : CharSet := ranges [(0, 0x10FFFF)]

/-- The set of the members of any set in a list. -/
def unions : List CharSet → CharSet
  | [] => empty
  | [s] => s
  | s :: sets => union s (unions sets)

/-- The decimal digits of all scripts. -/
def digits : CharSet := ranges decimalDigitRanges

/-- The blank characters. -/
def blanks : CharSet :=
  ranges [(9, 13), (0x20, 0x20), (0x85, 0x85), (0xA0, 0xA0), (0x1680, 0x1680), (0x2000, 0x200A),
    (0x2028, 0x2029), (0x202F, 0x202F), (0x205F, 0x205F), (0x3000, 0x3000)]

/-- The characters of words. -/
def wordChars : CharSet := ranges wordRanges

theorem holds_complement (s : CharSet) (c : Char) : s.complement.holds c = !s.holds c := rfl

theorem holds_union (s t : CharSet) (c : Char) : (s.union t).holds c = (s.holds c || t.holds c) :=
  rfl

theorem holds_inter (s t : CharSet) (c : Char) : (s.inter t).holds c = (s.holds c && t.holds c) :=
  rfl

theorem holds_diff (s t : CharSet) (c : Char) :
    (s.diff t).holds c = (s.inter t.complement).holds c := rfl

theorem not_holds_empty (c : Char) : empty.holds c = false := rfl

theorem holds_digits (c : Char) : digits.holds c = isDecimalDigit c := rfl

theorem holds_blanks (c : Char) : blanks.holds c = isBlank c := by
  rw [Bool.eq_iff_iff]
  simp only [blanks, holds, has, inRanges, isBlank, List.any_cons, List.any_nil, Bool.or_false,
    Bool.or_eq_true, Bool.and_eq_true, decide_eq_true_eq, beq_iff_eq]
  omega

theorem has_unions (sets : List CharSet) (n : Nat) :
    (unions sets).has n = sets.any fun s => s.has n := by
  induction sets with
  | nil => rfl
  | cons s sets ih =>
    cases sets with
    | nil => simp [unions]
    | cons t sets =>
      show (s.has n || (unions (t :: sets)).has n) = _
      rw [ih]
      rfl

end CharSet

end Scim.Text
