import Mathlib.Data.List.Infix
import Scim.Filter.Match

/-!
# Patterns that quote a text

The comparisons `co` and `sw` look for their operand as it stands.  They quote it into a pattern, in
which a backslash stands in front of every sign, and the reader of patterns takes the quoted text
apart into literals again, one for each character of the operand (`Pattern.read?_escapePattern`).
Literals in sequence reach the positions behind the runs of characters with the same simple case
folding (`Pattern.getD_reach_literals`), so the pattern of an operand is found where the operand is,
up to case (`Filter.holds_compile_compare`).
-/

namespace Scim

/-! ## Marks behind characters -/

namespace Marks

theorem contains_true_iff {marks : Marks} :
    marks.contains true = true ↔ ∃ i, marks.getD i false = true := by
  simp only [List.contains_iff_mem, List.mem_iff_getElem?, List.getD_eq_getElem?_getD]
  refine exists_congr fun i => ?_
  cases marks[i]? <;> simp

theorem getD_advance_iff {test : Char → Bool} {text : List Char} {marks : Marks} {j : Nat} :
    (advance test text marks).getD j false = true
      ↔ ∃ i c, j = i + 1 ∧ marks.getD i false = true ∧ text[i]? = some c ∧ test c = true := by
  cases j with
  | zero =>
    rw [getD_advance_zero]
    simp
  | succ i =>
    rw [getD_advance_succ]
    simp only [Nat.add_right_cancel_iff, exists_and_left, exists_eq_left', Bool.and_eq_true]
    refine and_congr_right fun _ => ?_
    cases text[i]? <;> simp

/-- Of the positions of a text, the condition on its start keeps the first. -/
theorem getD_keep_textStart {text : List Char} {i : Nat} :
    (keep .textStart none text (all text)).getD i false = true ↔ i = 0 := by
  rw [getD_keep (length_all text), getD_all]
  cases i with
  | zero => simp [Anchor.holds]
  | succ i =>
    simp only [Anchor.holds, Nat.succ_ne_zero, if_false, Bool.and_eq_true, decide_eq_true_eq,
      iff_false, not_and]
    intro hi
    simp [Nat.lt_of_succ_le hi]

end Marks

/-! ## Literals in sequence -/

namespace Pattern

/-- Patterns one behind the other. -/
def inSequence : List Pattern → Pattern
  | [] => empty
  | [p] => p
  | p :: q :: ps => seq p (inSequence (q :: ps))

theorem reach_inSequence_cons (text : List Char) (p : Pattern) (ps : List Pattern)
    (marks : Marks) :
    (inSequence (p :: ps)).reach text marks = (inSequence ps).reach text (p.reach text marks) := by
  cases ps <;> rfl

/-- Literals lead from a mark over the characters that are variants of theirs. -/
theorem getD_reach_literals {rule : Text.CaseRule} {cs text : List Char} {marks : Marks}
    {j : Nat} : ((inSequence (cs.map (literal rule))).reach text marks).getD j false = true
      ↔ ∃ i, j = i + cs.length ∧ marks.getD i false = true
        ∧ cs.map rule.form <+: (text.drop i).map rule.form := by
  induction cs generalizing marks with
  | nil => simp [inSequence, reach]
  | cons c cs ih =>
    rw [List.map_cons, reach_inSequence_cons, ih]
    simp only [reach, Marks.getD_advance_iff, Text.CaseRule.same_iff]
    constructor
    · rintro ⟨_, rfl, ⟨i, d, rfl, hmark, hd, hsame⟩, hrest⟩
      obtain ⟨hi, rfl⟩ := List.getElem?_eq_some_iff.mp hd
      refine ⟨i, by simp only [List.length_cons]; omega, hmark, ?_⟩
      rw [List.drop_eq_getElem_cons hi, List.map_cons, List.map_cons, hsame]
      exact List.prefix_cons_inj _ |>.mpr hrest
    · rintro ⟨i, rfl, hmark, hbegins⟩
      cases hdrop : text.drop i with
      | nil =>
        rw [hdrop] at hbegins
        simp at hbegins
      | cons d rest =>
        rw [hdrop, List.map_cons, List.map_cons, List.cons_prefix_cons] at hbegins
        have hd : text[i]? = some d := by rw [← List.head?_drop, hdrop]; rfl
        have hrest : text.drop (i + 1) = rest := by rw [← List.tail_drop, hdrop]; rfl
        refine ⟨i + 1, by simp only [List.length_cons]; omega,
          ⟨i, d, rfl, hmark, hd, hbegins.1⟩, ?_⟩
        rw [hrest]
        exact hbegins.2

theorem found_iff {p : Pattern} {text : List Char} :
    p.found text = true ↔ ∃ i, (p.reach text (Marks.all text)).getD i false = true :=
  Marks.contains_true_iff

theorem found_literals_iff {rule : Text.CaseRule} {cs text : List Char} :
    (inSequence (cs.map (literal rule))).found text = true
      ↔ ∃ run, run <:+: text ∧ run.map rule.form = cs.map rule.form := by
  simp only [found_iff, getD_reach_literals, Marks.getD_all, decide_eq_true_eq]
  constructor
  · rintro ⟨-, i, -, -, hbegins⟩
    obtain ⟨run, hrun, hsame⟩ := List.prefix_map_iff.mp hbegins
    exact ⟨run, hrun.isInfix.trans (List.drop_suffix i text).isInfix, hsame.symm⟩
  · rintro ⟨run, ⟨before, behind, rfl⟩, hsame⟩
    refine ⟨_, before.length, rfl, by simp only [List.length_append]; omega, ?_⟩
    rw [← hsame, List.append_assoc, List.drop_left]
    exact (List.prefix_append run behind).map _

theorem found_textStart_literals_iff {rule : Text.CaseRule} {cs text : List Char} :
    (inSequence (anchor .textStart :: cs.map (literal rule))).found text = true
      ↔ ∃ run, run <+: text ∧ run.map rule.form = cs.map rule.form := by
  simp only [found_iff, reach_inSequence_cons, getD_reach_literals, reach,
    Marks.getD_keep_textStart]
  constructor
  · rintro ⟨-, i, -, rfl, hbegins⟩
    obtain ⟨run, hrun, hsame⟩ := List.prefix_map_iff.mp hbegins
    exact ⟨run, hrun, hsame.symm⟩
  · rintro ⟨run, hrun, hsame⟩
    exact ⟨_, 0, rfl, rfl, hsame ▸ hrun.map _⟩

/-! ## Reading a quoted text -/

theorem Level.pattern_sequence (l : Level) :
    l.sequence.pattern = inSequence (l.items.reverse.map Item.pattern) := by
  have hgo (before : List Item) (p : Pattern) (ps : List Pattern) :
      before.foldl (fun p item => .seq item.pattern p) (inSequence (p :: ps))
        = inSequence (before.reverse.map Item.pattern ++ p :: ps) := by
    induction before generalizing p ps with
    | nil => rfl
    | cons item before ih => exact (ih item.pattern (p :: ps)).trans (by simp)
  rw [sequence]
  cases l.items with
  | nil => rfl
  | cons last before => simpa [inSequence] using hgo before last.pattern []

/-- Parts that do not nest make a row that nests once at most. -/
theorem rowDepth_le_one {ds : List Nat} (h : ∀ d ∈ ds, d = 0) : rowDepth ds ≤ 1 := by
  have hgo : ds.foldl Nat.max 0 = 0 := by
    induction ds with
    | nil => rfl
    | cons d ds ih =>
      rw [List.forall_mem_cons] at h
      rw [List.foldl_cons, h.1]
      exact ih h.2
  match ds with
  | [] => decide
  | [d] => simp [rowDepth, h d List.mem_cons_self]
  | d :: e :: ds =>
    change (d :: e :: ds).foldl Nat.max 0 + 1 ≤ 1
    rw [hgo]

theorem skip_of_not_spaced {f : Flags} (h : f.spaced = false) (cs : List Char) :
    f.skip cs = cs := by
  simp [Flags.skip, h]

/-- Every sign may be escaped. -/
theorem isEscapable_of_isPatternSign {c : Char} (h : isPatternSign c = true) :
    isEscapable c = true := by
  simp only [isPatternSign, decide_eq_true_eq, List.mem_cons, List.not_mem_nil, or_false] at h
  rcases h with rfl | rfl | rfl | rfl | rfl | rfl | rfl | rfl | rfl | rfl | rfl | rfl | rfl | rfl
    <;> decide

/-- What a quoted text starts with opens and repeats nothing. -/
theorem exists_escapeChars_cons (c : Char) (rest : List Char) :
    ∃ d more, escapeChars [c] ++ rest = d :: more ∧ d ≠ '(' ∧ d ≠ ')' ∧ d ≠ '|'
      ∧ isTimesSign d = false := by
  cases hsign : isPatternSign c with
  | true => exact ⟨'\\', c :: rest, by simp [escapeChars, hsign], by decide⟩
  | false =>
    refine ⟨c, rest, by simp [escapeChars, hsign], ?_⟩
    simp only [isPatternSign, List.mem_cons, List.not_mem_nil, or_false, decide_eq_false_iff_not,
      not_or] at hsign
    simp [isTimesSign, hsign]

/-- The quoted form of a character is read as the character. -/
theorem item?_escapeChars_cons (f : Flags) (c : Char) (rest : List Char) :
    item? f (escapeChars [c] ++ rest) = some ((Sign.char c).item f, rest) := by
  cases hsign : isPatternSign c with
  | true => simp [escapeChars, hsign, item?, escape?, isEscapable_of_isPatternSign hsign]
  | false =>
    have hsame : escapeChars [c] = [c] := by simp [escapeChars, hsign]
    simp only [isPatternSign, List.mem_cons, List.not_mem_nil, or_false, decide_eq_false_iff_not,
      not_or] at hsign
    simp [hsame, item?, hsign]

section Reading

variable {level : Level} (hspaced : level.flags.spaced = false)
include hspaced

/-- One step of the reader takes the quoted form of one character. -/
theorem readFrom?_escapeChars_cons (fuel : Nat) (names : List (List Char)) (outer : List Level)
    (c : Char) (rest : List Char) :
    readFrom? (fuel + 1) names level outer (escapeChars [c] ++ rest)
      = readFrom? fuel names (level.push ((Sign.char c).item level.flags)) outer rest := by
  obtain ⟨d, more, hcs, hopen, hclose, hbar, htimes⟩ := exists_escapeChars_cons c rest
  have hitem := item?_escapeChars_cons level.flags c rest
  rw [hcs] at hitem
  rw [hcs, readFrom?, skip_of_not_spaced hspaced]
  simp [hopen, hclose, hbar, htimes, hitem]

/-- A quoted text is read to its end, a literal for each character. -/
theorem readFrom?_escapeChars {fuel : Nat} (names : List (List Char)) {cs : List Char}
    (hfuel : cs.length < fuel) :
    readFrom? fuel names level [] (escapeChars cs)
      = some { level with items := (cs.map fun c => (Sign.char c).item level.flags).reverse
          ++ level.items }.close := by
  induction cs generalizing level fuel with
  | nil =>
    obtain ⟨fuel, rfl⟩ := Nat.exists_eq_add_one_of_ne_zero (Nat.ne_of_gt hfuel)
    rw [escapeChars, List.flatMap_nil, readFrom?, skip_of_not_spaced hspaced]
    rfl
  | cons c cs ih =>
    obtain ⟨fuel, rfl⟩ := Nat.exists_eq_add_one_of_ne_zero (Nat.ne_zero_of_lt hfuel)
    have hcons : escapeChars (c :: cs) = escapeChars [c] ++ escapeChars cs := by
      simp [escapeChars]
    have hnext : (level.push ((Sign.char c).item level.flags)).flags.spaced = false := hspaced
    rw [hcons, readFrom?_escapeChars_cons hspaced, ih hnext (Nat.lt_of_succ_lt_succ hfuel)]
    simp [Level.push]

end Reading

theorem length_le_length_escapeChars (cs : List Char) : cs.length ≤ (escapeChars cs).length := by
  induction cs with
  | nil => exact Nat.le_refl 0
  | cons c cs ih =>
    rw [escapeChars, List.flatMap_cons, List.length_append, List.length_cons, Nat.add_comm]
    refine Nat.add_le_add ?_ ih
    split <;> simp

/-- Behind parts that do not nest, a quoted text is read within the limit of depth, and its
characters follow the parts in sequence. -/
theorem exists_readFrom?_escapeChars {items : List Item} (hitems : ∀ item ∈ items, item.depth = 0)
    {fuel : Nat} {cs : List Char} (hfuel : cs.length < fuel) :
    ∃ item, readFrom? fuel [] { flags := {}, items } [] (escapeChars cs) = some item
      ∧ item.depth ≤ depthLimit
      ∧ item.pattern
        = inSequence (items.reverse.map Item.pattern ++ cs.map (literal .folded)) := by
  refine ⟨_, readFrom?_escapeChars rfl [] hfuel, ?_, ?_⟩
  · refine Nat.le_trans (rowDepth_le_one fun d hd => ?_) (by decide : 1 ≤ depthLimit)
    obtain ⟨item, hitem, rfl⟩ := List.mem_map.mp hd
    rcases List.mem_append.mp hitem with hquoted | hbefore
    · obtain ⟨c, -, rfl⟩ := List.mem_map.mp (List.mem_reverse.mp hquoted)
      rfl
    · exact hitems item hbefore
  · refine (Level.pattern_sequence _).trans (congrArg inSequence ?_)
    simp only [List.reverse_append, List.reverse_reverse, List.map_append, List.map_map]
    rfl

/-- The pattern that looks for a text up to case. -/
def containing (text : String) : Pattern :=
  inSequence (text.toList.map (literal .folded))

/-- The pattern that looks for a text up to case at the start. -/
def startingWith (text : String) : Pattern :=
  inSequence (anchor .textStart :: text.toList.map (literal .folded))

theorem read?_escapePattern (text : String) :
    read? (escapePattern text) = some (containing text) := by
  have hfuel : text.toList.length < (escapeChars text.toList).length + 1 :=
    Nat.lt_succ_of_le (length_le_length_escapeChars _)
  have hnone : ∀ item ∈ ([] : List Item), item.depth = 0 := List.forall_mem_nil _
  obtain ⟨item, hread, hdepth, hpattern⟩ := exists_readFrom?_escapeChars hnone hfuel
  rw [read?, escapePattern, String.toList_ofList, hread, Option.bind_some, if_pos hdepth, hpattern]
  rfl

theorem read?_caret_escapePattern (text : String) :
    read? ("^" ++ escapePattern text) = some (startingWith text) := by
  have hfuel : text.toList.length < (escapeChars text.toList).length + 1 :=
    Nat.lt_succ_of_le (length_le_length_escapeChars _)
  let caret : Item := { pattern := .anchor .textStart }
  have hflat : ∀ item ∈ [caret], item.depth = 0 := by simp [caret]
  obtain ⟨item, hread, hdepth, hpattern⟩ := exists_readFrom?_escapeChars hflat hfuel
  have hchars : ("^" ++ escapePattern text).toList = '^' :: escapeChars text.toList := by
    simp [escapePattern]
  have hcaret (fuel : Nat) (cs : List Char) :
      readFrom? (fuel + 1) [] { flags := {} } [] ('^' :: cs)
        = readFrom? fuel [] { flags := {}, items := [caret] } [] cs := rfl
  rw [read?, hchars, List.length_cons, hcaret, hread, Option.bind_some, if_pos hdepth, hpattern]
  rfl

end Pattern

/-! ## What the comparisons find -/

/-- A pattern that can be read finds what it matches, within the limit of weight. -/
theorem Predicate.patternFound_iff {pattern : String} {p : Pattern}
    (hread : Pattern.read? pattern = some p) (values : List Json) :
    patternFound pattern values = true
      ↔ p.weight ≤ Pattern.weightLimit ∧ ∃ s, .str s ∈ values ∧ p.found s.toList = true := by
  rw [patternFound, Pattern.ofText?, hread, Option.bind_some]
  by_cases hweight : p.weight ≤ Pattern.weightLimit
  · simp only [hweight, if_true, true_and, List.any_eq_true]
    constructor
    · rintro ⟨v, hv, hfound⟩
      cases v with
      | str s => exact ⟨s, hv, hfound⟩
      | null | bool | num | arr | obj => cases hfound
    · rintro ⟨s, hs, hfound⟩
      exact ⟨.str s, hs, hfound⟩
  · simp [hweight]

/-- The pattern of `co` and of `sw` is always read, as the characters of the operand in sequence.
Up to the limit of weight, the first finds the operand anywhere in some string at the path and the
second at the start of one, under simple case folding. -/
theorem Filter.holds_compile_compare (path value : String) (document : Json)
    (collation : Collation) :
    Pattern.read? (escapePattern value) = some (Pattern.containing value)
      ∧ Pattern.read? ("^" ++ escapePattern value) = some (Pattern.startingWith value)
      ∧ (Predicate.holds collation document (compare path .contains (some value)).compile = true
        ↔ (Pattern.containing value).weight ≤ Pattern.weightLimit
          ∧ ∃ s, .str s ∈ document.candidates path
            ∧ ∃ run, run <:+: s.toList ∧ Text.foldCase run = Text.foldCase value.toList)
      ∧ (Predicate.holds collation document (compare path .startsWith (some value)).compile = true
        ↔ (Pattern.startingWith value).weight ≤ Pattern.weightLimit
          ∧ ∃ s, .str s ∈ document.candidates path
            ∧ ∃ run, run <+: s.toList ∧ Text.foldCase run = Text.foldCase value.toList) := by
  have hcontains := Pattern.read?_escapePattern value
  have hstarts := Pattern.read?_caret_escapePattern value
  refine ⟨hcontains, hstarts, ?_, ?_⟩
  · refine (Predicate.patternFound_iff hcontains _).trans ?_
    simp only [Pattern.containing, Pattern.found_literals_iff]
    rfl
  · refine (Predicate.patternFound_iff hstarts _).trans ?_
    simp only [Pattern.startingWith, Pattern.found_textStart_literals_iff]
    rfl

/-- A dot in the operand stands for itself. -/
example : (Pattern.containing "a.b").found "xA.By".toList = true
    ∧ (Pattern.containing "a.b").found "xaxb".toList = false := by decide

end Scim
