import Scim.Text.CharSet

/-!
# Patterns and what they match

A text of `n` characters has `n + 1` positions: in front of each character and at its end.  A
pattern takes marks at some positions to the marks at which a match from one of them may end.  The
marks that a pattern reaches from all positions together tell whether it matches a part of the
text, so that no part is looked at twice.
-/

namespace Scim

/-! ## Conditions on a position -/

/-- A condition on the characters in front of a position and behind it.  Lines end at `\n`, or at
`\r`, `\n` and the pair of both; words are made of the members of a set. -/
inductive Anchor where
  | textStart
  | textEnd
  | lineStart
  | lineEnd
  | carriageLineStart
  | carriageLineEnd
  | wordEdge (words : Text.CharSet)
  | noWordEdge (words : Text.CharSet)
  | wordStart (words : Text.CharSet)
  | wordEnd (words : Text.CharSet)
  | noWordBefore (words : Text.CharSet)
  | noWordAfter (words : Text.CharSet)
deriving DecidableEq, Repr

namespace Anchor

/-- Whether there is a character and it belongs to a set. -/
def isIn (words : Text.CharSet) (c : Option Char) : Bool :=
  (c.map words.holds).getD false

/-- Whether the condition holds between two characters; there is none at an end of the text. -/
def holds : Anchor → Option Char → Option Char → Bool
  | textStart, before, _ => before.isNone
  | textEnd, _, after => after.isNone
  | lineStart, before, _ => before.isNone || before == some '\n'
  | lineEnd, _, after => after.isNone || after == some '\n'
  | carriageLineStart, before, after =>
    before.isNone || before == some '\n' || (before == some '\r' && after != some '\n')
  | carriageLineEnd, before, after =>
    after.isNone || after == some '\r' || (after == some '\n' && before != some '\r')
  | wordEdge words, before, after => isIn words before != isIn words after
  | noWordEdge words, before, after => isIn words before == isIn words after
  | wordStart words, before, after => !isIn words before && isIn words after
  | wordEnd words, before, after => isIn words before && !isIn words after
  | noWordBefore words, before, _ => !isIn words before
  | noWordAfter words, _, after => !isIn words after

end Anchor

/-! ## Patterns -/

/-- A pattern. -/
inductive Pattern where
  | empty
  | literal (rule : Text.CaseRule) (c : Char)
  | set (s : Text.CharSet)
  | anchor (a : Anchor)
  | seq (first second : Pattern)
  | alt (first second : Pattern)
  | repeated (body : Pattern) (least : Nat) (most : Option Nat)
deriving DecidableEq, Repr

/-! ## Marks -/

/-- Marks at the positions of a text. -/
abbrev Marks := List Bool

namespace Marks

/-- Marks at all positions of a text. -/
def all (text : List Char) : Marks :=
  List.replicate (text.length + 1) true

/-- The marks of either of two lists. -/
def join (marks others : Marks) : Marks :=
  List.zipWith (fun m o => m || o) marks others

/-- Moves the marks in front of characters that pass a test behind them. -/
def advance (test : Char → Bool) (text : List Char) (marks : Marks) : Marks :=
  false :: List.zipWith (fun m c => m && test c) marks text

/-- Keeps the marks at which a condition holds; `before` is the character in front. -/
def keep (a : Anchor) (before : Option Char) : List Char → Marks → Marks
  | _, [] => []
  | [], m :: _ => [m && a.holds before none]
  | c :: cs, m :: ms => (m && a.holds before (some c)) :: keep a (some c) cs ms

/-- The marks after `count` steps.  Once a step changes nothing, no further step does. -/
def iterate (step : Marks → Marks) : Nat → Marks → Marks
  | 0, marks => marks
  | count + 1, marks =>
    let next := step marks
    if next = marks then marks else iterate step count next

/-- The marks after at most `count` steps. -/
def iterateUpTo (step : Marks → Marks) (count : Nat) (marks : Marks) : Marks :=
  iterate (fun marks => join marks (step marks)) count marks

theorem length_all (text : List Char) : (all text).length = text.length + 1 :=
  List.length_replicate

theorem length_join {marks others : Marks} (h : marks.length = others.length) :
    (join marks others).length = marks.length := by
  rw [join, List.length_zipWith, ← h, Nat.min_self]

theorem length_advance {test : Char → Bool} {text : List Char} {marks : Marks}
    (h : marks.length = text.length + 1) :
    (advance test text marks).length = text.length + 1 := by
  rw [advance, List.length_cons, List.length_zipWith, h,
    Nat.min_eq_right (Nat.le_succ text.length)]

theorem length_keep {a : Anchor} {before : Option Char} {text : List Char} {marks : Marks}
    (h : marks.length = text.length + 1) :
    (keep a before text marks).length = text.length + 1 := by
  induction text generalizing before marks with
  | nil =>
    cases marks with
    | nil => cases h
    | cons m ms => rfl
  | cons c cs ih =>
    cases marks with
    | nil => cases h
    | cons m ms => exact congrArg Nat.succ (ih (Nat.succ.inj h))

/-! ### The marks of each operation -/

theorem getD_all (text : List Char) (i : Nat) :
    (all text).getD i false = decide (i ≤ text.length) := by
  rw [List.getD_eq_getElem?_getD, all, List.getElem?_replicate]
  by_cases h : i ≤ text.length
  · rw [if_pos (Nat.lt_succ_of_le h), decide_eq_true h]
    rfl
  · rw [if_neg (fun hlt => h (Nat.le_of_lt_succ hlt)), decide_eq_false h]
    rfl

theorem getD_join {marks others : Marks} (h : marks.length = others.length) (i : Nat) :
    (join marks others).getD i false = (marks.getD i false || others.getD i false) := by
  rw [List.getD_eq_getElem?_getD, List.getD_eq_getElem?_getD, List.getD_eq_getElem?_getD, join,
    List.getElem?_zipWith]
  by_cases hi : i < marks.length
  · rw [List.getElem?_eq_getElem hi, List.getElem?_eq_getElem (h ▸ hi)]
    rfl
  · rw [List.getElem?_eq_none (Nat.le_of_not_lt hi),
      List.getElem?_eq_none (h ▸ Nat.le_of_not_lt hi)]
    rfl

theorem getD_advance_zero (test : Char → Bool) (text : List Char) (marks : Marks) :
    (advance test text marks).getD 0 false = false := rfl

/-- A mark moves on when the character behind it passes the test. -/
theorem getD_advance_succ (test : Char → Bool) (text : List Char) (marks : Marks) (i : Nat) :
    (advance test text marks).getD (i + 1) false
      = (marks.getD i false && (text[i]?.map test).getD false) := by
  rw [advance, List.getD_cons_succ, List.getD_eq_getElem?_getD, List.getD_eq_getElem?_getD,
    List.getElem?_zipWith]
  cases marks[i]? with
  | none => rfl
  | some m =>
    cases text[i]? with
    | none => exact (Bool.and_false m).symm
    | some c => rfl

/-- A mark is kept when the condition holds between the characters around it. -/
theorem getD_keep {a : Anchor} {before : Option Char} {text : List Char} {marks : Marks}
    (h : marks.length = text.length + 1) (i : Nat) :
    (keep a before text marks).getD i false
      = (marks.getD i false && a.holds (if i = 0 then before else text[i - 1]?) text[i]?) := by
  induction text generalizing before marks i with
  | nil =>
    cases marks with
    | nil => cases h
    | cons m ms =>
      cases i with
      | zero => rfl
      | succ i =>
        cases ms with
        | nil => rfl
        | cons m ms => cases h
  | cons c cs ih =>
    cases marks with
    | nil => cases h
    | cons m ms =>
      cases i with
      | zero => rfl
      | succ i =>
        show (keep a (some c) cs ms).getD i false = _
        rw [ih (Nat.succ.inj h) i]
        cases i with
        | zero => rfl
        | succ i => rfl

/-! ### Repeated steps -/

theorem iterate_zero (step : Marks → Marks) (marks : Marks) : iterate step 0 marks = marks := rfl

theorem iterate_of_fixed {step : Marks → Marks} {marks : Marks} (h : step marks = marks)
    (count : Nat) : iterate step count marks = marks := by
  cases count with
  | zero => rfl
  | succ count => exact if_pos h

theorem iterate_succ (step : Marks → Marks) (count : Nat) (marks : Marks) :
    iterate step (count + 1) marks = iterate step count (step marks) := by
  by_cases h : step marks = marks
  · rw [iterate_of_fixed h, h, iterate_of_fixed h]
  · exact if_neg h

theorem iterate_keeps {step : Marks → Marks} {n : Nat}
    (h : ∀ marks : Marks, marks.length = n → (step marks).length = n) (count : Nat)
    {marks : Marks} (hm : marks.length = n) : (iterate step count marks).length = n := by
  induction count generalizing marks with
  | zero => exact hm
  | succ count ih =>
    rw [iterate_succ]
    exact ih (h marks hm)

end Marks

/-! ## Matching -/

namespace Pattern

/-- The marks that a pattern reaches from some marks.  A repetition without a bound finds no new
marks after as many steps as the text has positions. -/
def reach (text : List Char) : Pattern → Marks → Marks
  | empty, marks => marks
  | literal rule c, marks => Marks.advance (rule.same c) text marks
  | set s, marks => Marks.advance s.holds text marks
  | anchor a, marks => Marks.keep a none text marks
  | seq p q, marks => q.reach text (p.reach text marks)
  | alt p q, marks => Marks.join (p.reach text marks) (q.reach text marks)
  | repeated p least most, marks =>
    let count := match most with
      | some most => most - least
      | none => text.length + 1
    Marks.iterateUpTo (p.reach text) count (Marks.iterate (p.reach text) least marks)

/-- Whether the pattern matches some part of the text. -/
def found (p : Pattern) (text : List Char) : Bool :=
  (p.reach text (Marks.all text)).contains true

theorem length_reach (text : List Char) (p : Pattern) {marks : Marks}
    (h : marks.length = text.length + 1) : (p.reach text marks).length = text.length + 1 := by
  induction p generalizing marks with
  | empty => exact h
  | literal rule c => exact Marks.length_advance h
  | set s => exact Marks.length_advance h
  | anchor a => exact Marks.length_keep h
  | seq p q ihp ihq => exact ihq (ihp h)
  | alt p q ihp ihq =>
    exact (Marks.length_join ((ihp h).trans (ihq h).symm)).trans (ihp h)
  | repeated p least most ih =>
    refine Marks.iterate_keeps (fun ms hms => ?_) _
      (Marks.iterate_keeps (fun ms hms => ih hms) least h)
    exact (Marks.length_join (hms.trans (ih hms).symm)).trans hms

end Pattern

end Scim
