import Scim.Proofs.Path.Bracket
import Scim.Proofs.Path.Colon

/-!
# Literals in paths

A path may narrow an attribute to the elements with a value, as in `emails[type eq "work"].display`.
The splitter and the normal form do not know quotes.  They read the literal like the rest of the
path, so brackets in it, or the end of a schema name, may change how the path falls apart.  Other
literals do not: the path falls apart around them in one way, and the literal stands in one segment
(`Segment.ofPath_filtered`).
-/

namespace Scim

namespace Path

/-! ## Paths with a literal -/

/-- What stands between the name and the literal of a filter. -/
def beforeLiteral : List Char :=
  [' ', 'e', 'q', ' ', '"']

/-- A path that narrows an attribute to the elements with a quoted literal, as characters. -/
def filteredChars (left name literal right : List Char) : List Char :=
  left ++ '[' :: (name ++ beforeLiteral ++ literal ++ '"' :: ']' :: right)

/-! ## The normal form around a literal -/

theorem dotLastColon?_quoted {literal : List Char} (h : ¬ schemaEnd ++ [':'] <:+: literal) :
    dotLastColon? ('"' :: (literal ++ ['"'])) = none := by
  refine dotLastColon?_eq_none fun hinfix => ?_
  rw [← List.nil_append ('"' :: _), infix_append_cons_iff (by decide),
    infix_append_cons_iff (by decide)] at hinfix
  simp only [h, List.infix_nil, false_or] at hinfix
  exact absurd hinfix (by decide)

/-- A literal without a colon behind the end of a schema name is not seen by the search for that
colon. -/
theorem dotLastColon?_around {literal : List Char} (h : ¬ schemaEnd ++ [':'] <:+: literal)
    (inner right : List Char) :
    dotLastColon? (inner ++ '"' :: (literal ++ '"' :: right))
      = ((dotLastColon? ('"' :: right)).map (inner ++ '"' :: literal ++ ·)).or
        ((dotLastColon? (inner ++ ['"'])).map (· ++ (literal ++ '"' :: right))) := by
  have hquote : '"' ∉ schemaEnd ++ [':'] := by decide
  have hbehind := dotLastColon?_append hquote (inner ++ '"' :: literal) right
  have hfront := dotLastColon?_append hquote inner (literal ++ ['"'])
  rw [dotLastColon?_quoted h, Option.map_none, Option.none_or] at hfront
  simp only [List.append_assoc, List.cons_append] at hbehind hfront ⊢
  rw [hbehind, hfront]
  cases dotLastColon? (inner ++ ['"']) <;> simp

/-- A colon behind the bracket is changed in what follows it. -/
theorem exists_of_dotLastColon?_behind {right changed : List Char}
    (h : dotLastColon? ('"' :: ']' :: right) = some changed) :
    ∃ right', DotsColon right right' ∧ changed = '"' :: ']' :: right' := by
  obtain ⟨before, c, rest, heq, rfl, -⟩ := dotLastColon?_eq_some h
  match before with
  | [] => cases heq
  | [_] => cases heq
  | quote :: bracket :: before =>
    simp only [List.cons_append, List.cons.injEq] at heq
    obtain ⟨rfl, rfl, rfl⟩ := heq
    exact ⟨before ++ schemaEnd ++ '.' :: c :: rest,
      Or.inr ⟨before ++ schemaEnd, c :: rest, by simp [schemaEnd], rfl, rfl⟩, rfl⟩

/-- Of two characters in a text, one stands in front of the other. -/
theorem append_cons_cases {before behind front back : List Char} {s c : Char} (hne : s ≠ c)
    (h : before ++ s :: behind = front ++ c :: back) :
    (∃ more, before = front ++ c :: more ∧ back = more ++ s :: behind)
      ∨ ∃ more, front = before ++ s :: more ∧ behind = more ++ c :: back := by
  rcases List.append_eq_append_iff.mp h with ⟨more, rfl, hrest⟩ | ⟨more, rfl, hrest⟩
  · cases more with
    | nil => exact absurd (List.cons.inj hrest).1 hne
    | cons d more =>
      obtain ⟨rfl, rfl⟩ := List.cons.inj hrest
      exact Or.inr ⟨more, rfl, rfl⟩
  · cases more with
    | nil => exact absurd (List.cons.inj hrest).1.symm hne
    | cons d more =>
      obtain ⟨rfl, rfl⟩ := List.cons.inj hrest
      exact Or.inl ⟨more, rfl, rfl⟩

/-- A colon in front of the literal is changed in front of the bracket or in the name of the
filter. -/
theorem exists_of_dotLastColon?_front {start inner left name changed : List Char}
    (hfront : start ++ (inner ++ ['"']) = left ++ '[' :: (name ++ beforeLiteral))
    (h : dotLastColon? (inner ++ ['"']) = some changed) :
    ∃ left' name', DotsColon left left' ∧ DotsColon name name'
      ∧ (left'.getLast? = some '.' → left.getLast? = some '.')
      ∧ start ++ changed = left' ++ '[' :: (name' ++ beforeLiteral) := by
  obtain ⟨before, c, rest, heq, rfl, hstarts⟩ := dotLastColon?_eq_some h
  have hwhole : left ++ '[' :: (name ++ beforeLiteral)
      = start ++ before ++ schemaEnd ++ ':' :: c :: rest := by
    rw [← hfront, heq]
    simp
  rcases append_cons_cases (by decide) hwhole with ⟨more, rfl, hback⟩ | ⟨more, hmore, hname⟩
  · -- the colon stands in front of the bracket, and an attribute behind it
    cases more with
    | nil =>
      obtain ⟨rfl, -⟩ := List.cons.inj hback
      cases hstarts
    | cons d more =>
      refine ⟨start ++ before ++ schemaEnd ++ '.' :: d :: more, name, Or.inr ⟨_, _, ?_, rfl, rfl⟩,
        Or.inl rfl, ?_, ?_⟩
      · simp [schemaEnd]
      · simp
      · simp [hback]
  · rcases append_cons_cases (by decide) hname with ⟨behind, rfl, hback⟩ | ⟨behind, -, hword⟩
    · have hne : more ≠ [] := by
        rintro rfl
        have hlast := congrArg List.getLast? hmore
        simp [schemaEnd] at hlast
      refine ⟨left, more ++ '.' :: behind, Or.inl rfl, Or.inr ⟨more, behind, hne, rfl, rfl⟩, id, ?_⟩
      calc start ++ (before ++ schemaEnd ++ '.' :: c :: rest)
          = (start ++ before ++ schemaEnd) ++ '.' :: (c :: rest) := by simp
        _ = (left ++ '[' :: more) ++ '.' :: (behind ++ beforeLiteral) := by rw [hmore, hback]; rfl
        _ = left ++ '[' :: (more ++ '.' :: behind ++ beforeLiteral) := by simp
    · have hcolon : ':' ∈ ['e', 'q', ' ', '"'] := hword ▸ by simp
      exact absurd hcolon (by decide)

/-- The parts of a path around a literal, and the same parts where at most one colon became a
dot. -/
structure DotsColonAround (left name right left' name' right' : List Char) : Prop where
  inLeft : DotsColon left left'
  inName : DotsColon name name'
  inRight : DotsColon right right'
  /-- A dot in front of the bracket was there before. -/
  last : left'.getLast? = some '.' → left.getLast? = some '.'

theorem DotsColonAround.refl (left name right : List Char) :
    DotsColonAround left name right left name right :=
  ⟨.inl rfl, .inl rfl, .inl rfl, id⟩

/-- Behind the start of a schema name, too, the search for the colon goes around the literal. -/
theorem exists_dotLastColon?_filteredChars {start inner left name : List Char}
    (hfront : start ++ (inner ++ ['"']) = left ++ '[' :: (name ++ beforeLiteral))
    (right : List Char) :
    ∃ left' name' right', DotsColonAround left name right left' name' right'
      ∧ ∀ literal, ¬ schemaEnd ++ [':'] <:+: literal →
        start ++ (dotLastColon? (inner ++ '"' :: (literal ++ '"' :: ']' :: right))).getD
            (inner ++ '"' :: (literal ++ '"' :: ']' :: right))
          = filteredChars left' name' literal right' := by
  have hwhole {left' name' inner' : List Char}
      (h : start ++ inner' = left' ++ '[' :: (name' ++ beforeLiteral))
      (literal right' : List Char) :
      start ++ (inner' ++ (literal ++ '"' :: ']' :: right'))
        = filteredChars left' name' literal right' := by
    rw [← List.append_assoc, h]
    simp [filteredChars]
  cases hbehind : dotLastColon? ('"' :: ']' :: right) with
  | some changed =>
    obtain ⟨right', hright, rfl⟩ := exists_of_dotLastColon?_behind hbehind
    refine ⟨left, name, right', ⟨.inl rfl, .inl rfl, hright, id⟩, fun literal hliteral => ?_⟩
    rw [dotLastColon?_around hliteral, hbehind, ← hwhole hfront]
    simp
  | none =>
    cases hchanged : dotLastColon? (inner ++ ['"']) with
    | some changed =>
      obtain ⟨left', name', hleft, hname, hlast, hchars⟩ :=
        exists_of_dotLastColon?_front hfront hchanged
      refine ⟨left', name', right, ⟨hleft, hname, .inl rfl, hlast⟩, fun literal hliteral => ?_⟩
      rw [dotLastColon?_around hliteral, hbehind, hchanged, ← hwhole hchars]
      rfl
    | none =>
      refine ⟨left, name, right, .refl left name right, fun literal hliteral => ?_⟩
      rw [dotLastColon?_around hliteral, hbehind, hchanged, ← hwhole hfront]
      simp

/-- A path with a literal has a normal form around the literal.  It changes at most one colon, in
one of the three parts. -/
theorem exists_normalizeChars_filteredChars (left name right : List Char) :
    ∃ left' name' right', DotsColonAround left name right left' name' right'
      ∧ (¬ schemaStart <+: left → left' = left ∧ name' = name ∧ right' = right)
      ∧ ∀ literal, (schemaStart <+: left → ¬ schemaEnd ++ [':'] <:+: literal) →
        normalizeChars (filteredChars left name literal right)
          = filteredChars left' name' literal right' := by
  by_cases hstart : schemaStart <+: left
  · obtain ⟨more, rfl⟩ := hstart
    obtain ⟨c, inner, hinner⟩ := List.exists_cons_of_ne_nil
      (List.append_ne_nil_of_right_ne_nil more
        (List.cons_ne_nil '[' (name ++ [' ', 'e', 'q', ' '])))
    have hfront : (schemaStart ++ [c]) ++ (inner ++ ['"'])
        = schemaStart ++ more ++ '[' :: (name ++ beforeLiteral) := by
      calc (schemaStart ++ [c]) ++ (inner ++ ['"'])
          = schemaStart ++ (c :: inner) ++ ['"'] := by simp
        _ = schemaStart ++ more ++ '[' :: (name ++ beforeLiteral) := by
          rw [← hinner]
          simp [beforeLiteral]
    obtain ⟨left', name', right', hparts, hchanged⟩ :=
      exists_dotLastColon?_filteredChars hfront right
    refine ⟨left', name', right', hparts, absurd (List.prefix_append _ _), fun literal hend => ?_⟩
    have hpath : filteredChars (schemaStart ++ more) name literal right
        = schemaStart ++ c :: (inner ++ '"' :: (literal ++ '"' :: ']' :: right)) := by
      calc filteredChars (schemaStart ++ more) name literal right
          = (schemaStart ++ more ++ '[' :: (name ++ beforeLiteral))
            ++ (literal ++ '"' :: ']' :: right) := by simp [filteredChars]
        _ = schemaStart ++ c :: (inner ++ '"' :: (literal ++ '"' :: ']' :: right)) := by
          rw [← hfront]
          simp
    rw [hpath, normalizeChars_of_schemaStart, ← hchanged literal (hend (List.prefix_append _ _))]
    simp
  · refine ⟨left, name, right, .refl left name right, fun _ => ⟨rfl, rfl, rfl⟩, ?_⟩
    intro literal _
    refine normalizeChars_of_not_schemaStart fun h => hstart ?_
    exact (prefix_append_cons_iff (by decide) left _).mp h

/-! ## Segments around a literal -/

theorem runsOn_bracket (key name : List Char) : runsOn (key ++ '[' :: name)
    = (schemaStart.isPrefixOf key && !decide (schemaEnd <:+: key ∨ schemaEnd <:+: name)) := by
  rw [runsOn, isPrefixOf_schemaStart_append,
    decide_eq_decide.mpr (infix_append_cons_iff (by decide) key name)]

/-- Of the parts of a filter, the name and the literal alone can end a schema name. -/
theorem infix_filter_iff (key name literal : List Char) :
    schemaEnd <:+: key ++ ['['] ++ (name ++ beforeLiteral ++ literal ++ ['"'])
      ↔ schemaEnd <:+: key ∨ schemaEnd <:+: name ∨ schemaEnd <:+: literal := by
  have hsame : key ++ ['['] ++ (name ++ beforeLiteral ++ literal ++ ['"'])
      = key ++ '[' :: (name ++ ' ' :: (['e', 'q', ' '] ++ '"' :: (literal ++ '"' :: []))) := by
    simp [beforeLiteral]
  have hword : ¬ schemaEnd <:+: ['e', 'q', ' '] := by decide
  have hnil : ¬ schemaEnd <:+: [] := by decide
  rw [hsame, infix_append_cons_iff (by decide), infix_append_cons_iff (by decide),
    infix_append_cons_iff (by decide), infix_append_cons_iff (by decide)]
  simp only [hword, hnil, or_false, false_or]

/-- Behind a filter the schema name is open that was open behind the name of the filter, unless the
literal ends it. -/
theorem runsOn_filter {key name literal : List Char}
    (hend : runsOn key = true → ¬ schemaEnd <:+: literal) :
    (schemaStart.isPrefixOf key && !decide
        (schemaEnd <:+: key ++ ['['] ++ (name ++ beforeLiteral ++ literal ++ ['"'])))
      = runsOn (key ++ '[' :: name) := by
  rw [runsOn_bracket]
  simp only [infix_filter_iff]
  cases hruns : runsOn key with
  | false =>
    simp only [runsOn, Bool.and_eq_false_iff, Bool.not_eq_false', decide_eq_true_eq] at hruns
    rcases hruns with hstart | hended
    · rw [hstart, Bool.false_and, Bool.false_and]
    · simp [hended]
  | true => simp [hend hruns]

/-- The splitter goes through a filter without regard to its literal, unless the literal ends the
schema name that is open. -/
theorem splitFrom_filter {name literal : List Char} (hname : Unbracketed name)
    (hliteral : Balanced literal) {key : List Char}
    (hend : runsOn key = true → ¬ schemaEnd <:+: literal) (rest : List Char) :
    splitFrom key.reverse 0 (runsOn key)
        ('[' :: (name ++ beforeLiteral ++ literal ++ '"' :: ']' :: rest))
      = splitFrom (']' :: (key ++ '[' :: (name ++ beforeLiteral ++ literal ++ ['"'])).reverse) 0
        (runsOn (key ++ '[' :: name)) rest := by
  have hpart : openBehind? 0 (name ++ beforeLiteral ++ literal ++ ['"']) = some 0 := by
    rw [List.append_assoc, List.append_assoc,
      openBehind?_append (openBehind?_of_unbracketed hname 0),
      openBehind?_append (openBehind?_of_unbracketed (by decide) 0), openBehind?_append hliteral]
    rfl
  have hopened : runsOn key
      = (schemaStart.isPrefixOf key && !decide (schemaEnd <:+: key ++ ['['])) := by
    rw [runsOn, decide_eq_decide.mpr (infix_concat_bracket (.inl rfl) key)]
  calc splitFrom key.reverse 0 (runsOn key)
        ('[' :: (name ++ beforeLiteral ++ literal ++ '"' :: ']' :: rest))
      = splitFrom (key ++ ['[']).reverse (0 + 1)
          (schemaStart.isPrefixOf key && !decide (schemaEnd <:+: key ++ ['[']))
          (name ++ beforeLiteral ++ literal ++ ['"'] ++ ']' :: rest) := by
        rw [splitFrom_open, hopened]
        simp
    _ = splitFrom (key ++ ['['] ++ (name ++ beforeLiteral ++ literal ++ ['"'])).reverse (0 + 1)
          (runsOn (key ++ '[' :: name)) (']' :: rest) := by
        rw [splitFrom_nested (by simp) hpart, runsOn_filter hend]
    _ = splitFrom (']' :: (key ++ '[' :: (name ++ beforeLiteral ++ literal ++ ['"'])).reverse) 0
          (runsOn (key ++ '[' :: name)) rest := by
        rw [splitFrom_close]
        simp

/-- A path with a literal falls apart around it: one segment holds the literal, and what stands
around it there does not depend on it. -/
theorem exists_splitChars_filteredChars {left name right : List Char} (hleft : Unbracketed left)
    (hname : Unbracketed name) (hright : Unbracketed right) :
    ∃ before after key behind, key <:+ left
      ∧ (key = [] → left = [] ∨ left.getLast? = some '.') ∧ behind <+: right
      ∧ (behind = [] ↔ right = [] ∨ right.head? = some '.' ∧ runsOn (key ++ '[' :: name) = false)
      ∧ ∀ literal, Balanced literal → (runsOn key = true → ¬ schemaEnd <:+: literal) →
        splitChars (filteredChars left name literal right)
          = before ++ filteredChars key name literal behind :: after := by
  obtain ⟨before, key, hkey, hempty, hsplit⟩ := exists_splitFrom_bracket hleft []
  obtain ⟨behind, after, hbehind, hnone, hsplit'⟩ :=
    exists_splitFrom_behind hright [] (runsOn (key ++ '[' :: name))
  refine ⟨before, after, key, behind, hkey, hempty, hbehind, hnone, fun literal hliteral hend => ?_⟩
  have hfilter := hsplit' (key ++ '[' :: (name ++ beforeLiteral ++ literal ++ ['"'])).reverse
  rw [List.reverse_nil, List.nil_append, List.reverse_reverse] at hfilter
  calc splitChars (filteredChars left name literal right)
      = before ++ splitFrom key.reverse 0 (runsOn key)
          ('[' :: (name ++ beforeLiteral ++ literal ++ '"' :: ']' :: right)) :=
        (splitFrom_nil_bracket left _).trans (hsplit _)
    _ = before ++ filteredChars key name literal behind :: after := by
        rw [splitFrom_filter hname hliteral hend, hfilter]
        simp [filteredChars]

/-- How the segment of a literal comes from its path: `key` stands in front of the bracket,
`written` is the name of the filter, and `behind` stands behind the bracket. -/
structure HoldsLiteral (left name right key written behind : List Char) : Prop where
  /-- A path that does not start with a schema name is split as it stands. -/
  unchanged : ¬ schemaStart <+: left → key <:+ left ∧ written = name ∧ behind <+: right
  key_empty : key = [] → left = [] ∨ left.getLast? = some '.'
  key_line : '\n' ∈ key → '\n' ∈ left
  written_empty : written = [] ↔ name = []
  written_blank : (∀ c ∈ name, Text.isBlank c = false) → ∀ c ∈ written, Text.isBlank c = false
  /-- The bracket ends the segment at the end of the path, and at a dot that no schema name runs on
  over. -/
  behind_empty : behind = []
    ↔ right = [] ∨ right.head? = some '.' ∧ runsOn (key ++ '[' :: written) = false

/-- In its dotted form, too, a path with a literal falls apart around it. -/
theorem exists_splitChars_normalizeChars {left name right : List Char} (hleft : Unbracketed left)
    (hname : Unbracketed name) (hright : Unbracketed right) :
    ∃ before after key written behind, Unbracketed key ∧ Unbracketed written ∧ Unbracketed behind
      ∧ HoldsLiteral left name right key written behind
      ∧ ∀ literal, Balanced literal → (schemaStart <+: left → ¬ schemaEnd ++ [':'] <:+: literal) →
        (runsOn key = true → ¬ schemaEnd <:+: literal) →
        splitChars (normalizeChars (filteredChars left name literal right))
          = before ++ filteredChars key written literal behind :: after := by
  obtain ⟨left', written, right', ⟨hleft', hname', hright', hlast⟩, hsame, hnormal⟩ :=
    exists_normalizeChars_filteredChars left name right
  obtain ⟨before, after, key, behind, hkey, hempty, hbehind, hends, hsplit⟩ :=
    exists_splitChars_filteredChars (hleft'.unbracketed hleft) (hname'.unbracketed hname)
      (hright'.unbracketed hright)
  refine ⟨before, after, key, written, behind, (hleft'.unbracketed hleft).mono hkey.subset,
    hname'.unbracketed hname, (hright'.unbracketed hright).mono hbehind.subset, ?_, ?_⟩
  · exact
      { unchanged := by
          intro hstart
          obtain ⟨rfl, rfl, rfl⟩ := hsame hstart
          exact ⟨hkey, rfl, hbehind⟩
        key_empty := fun hnil => (hempty hnil).imp hleft'.eq_nil_iff.mp hlast
        key_line := fun hline => hleft'.mem (hkey.subset hline) (by decide)
        written_empty := hname'.eq_nil_iff
        written_blank := by
          intro hblank c hc
          by_cases hdot : c = '.'
          · rw [hdot]
            decide
          · exact hblank c (hname'.mem hc hdot)
        behind_empty := by rw [hends, hright'.eq_nil_iff, hright'.head?_eq] }
  · intro literal hliteral hcolon hend
    rw [hnormal literal hcolon]
    exact hsplit literal hliteral hend

/-- A path that narrows an attribute to the elements with a quoted literal. -/
def filtered (left name literal right : String) : String :=
  left ++ "[" ++ name ++ " eq \"" ++ literal ++ "\"]" ++ right

theorem toList_filtered (left name literal right : String) :
    (filtered left name literal right).toList
      = filteredChars left.toList name.toList literal.toList right.toList := by
  simp [filtered, filteredChars, beforeLiteral]

end Path

/-! ## Reading the segment -/

/-- A comparison with a quoted literal selects by it, unless there is no name. -/
theorem ElementFilter.ofChars?_quoted {name : List Char}
    (hname : ∀ c ∈ name, Text.isBlank c = false) (literal : List Char) :
    ofChars? (name ++ Path.beforeLiteral ++ literal ++ ['"'])
      = if name = [] then none
        else some
          ⟨String.ofList name, comparableValue (String.ofList ('"' :: (literal ++ ['"'])))⟩ := by
  have hquote : Text.isBlank '"' = false := by decide
  cases name with
  | nil =>
    -- the word in front of the quote is taken for the name, and no word is left
    have he : Text.isBlank 'e' = false := by decide
    have hq : Text.isBlank 'q' = false := by decide
    have hblank : Text.isBlank ' ' = true := by decide
    simp [ofChars?, Path.beforeLiteral, Text.trimStart, hblank, he, hq, hquote,
      Text.dropWordIgnoreCase?]
  | cons c name =>
    have hword : ∀ d ∈ c :: name, (!Text.isBlank d) = true := by simpa using hname
    have hblank : Text.isBlank ' ' = true := by decide
    have he : Text.isBlank 'e' = false := by decide
    have hwhole : c :: name ++ Path.beforeLiteral ++ literal ++ ['"']
        = c :: name ++ ' ' :: 'e' :: 'q' :: ' ' :: '"' :: (literal ++ ['"']) := by
      simp [Path.beforeLiteral]
    have hstart (rest : List Char) : Text.trimStart (c :: name ++ rest) = c :: name ++ rest := by
      rw [Text.trimStart, List.cons_append, List.dropWhile_cons_of_neg (by simp [hname])]
    have hvalue : conditionValue? (' ' :: '"' :: (literal ++ ['"']))
        = some ('"' :: (literal ++ ['"'])) := by
      simp [conditionValue?, hblank, hquote]
    rw [hwhole, ofChars?, hstart, List.takeWhile_append_of_pos hword,
      List.dropWhile_append_of_pos hword]
    simp [hblank, he, Text.trimStart, Text.dropWordIgnoreCase?, hvalue]

namespace Segment

section Bracket

variable {key name literal behind : List Char}

/-- A bracket is read at the end of a line, behind a key. -/
theorem bracket?_eq_some {cs content : List Char} (h : bracket? cs = some (key, content)) :
    cs = key ++ '[' :: (content ++ [']']) ∧ key ≠ [] ∧ '\n' ∉ cs := by
  cases cs with
  | nil => cases h
  | cons c cs =>
    simp only [bracket?] at h
    split at h
    · next hread =>
      obtain ⟨hlast, -, hline⟩ := hread
      obtain ⟨rfl, rfl⟩ := Prod.mk.inj (Option.some.inj h)
      have hmore : cs.dropWhile (· != '[') ≠ [] := by
        intro hnil
        simp [hnil] at hlast
      have hopen : cs.dropWhile (· != '[') = '[' :: (cs.dropWhile (· != '[')).drop 1 := by
        have hhead : (cs.dropWhile (· != '[')).head hmore = '[' := by
          simpa using List.head_dropWhile_not (· != '[') hmore
        conv_lhs => rw [← List.cons_head_tail hmore, hhead]
        rw [List.drop_one]
      refine ⟨?_, List.cons_ne_nil _ _, hline⟩
      rw [List.dropLast_append_getLast? _ hlast, ← hopen, List.cons_append,
        List.takeWhile_append_dropWhile]
    · cases h

theorem bracket?_filteredChars (hkey : Path.Unbracketed key) (hne : key ≠ [])
    (hline : '\n' ∉ Path.filteredChars key name literal []) :
    bracket? (Path.filteredChars key name literal [])
      = some (key, name ++ Path.beforeLiteral ++ literal ++ ['"']) := by
  obtain ⟨c, key, rfl⟩ := List.exists_cons_of_ne_nil hne
  have hopen : ∀ d ∈ key, (d != '[') = true := by
    intro d hd
    rw [bne_iff_ne]
    rintro rfl
    exact hkey.1 (List.mem_cons_of_mem _ hd)
  have hwhole : Path.filteredChars (c :: key) name literal []
      = c :: (key ++ '[' :: (name ++ Path.beforeLiteral ++ literal ++ ['"'] ++ [']'])) := by
    simp [Path.filteredChars]
  have hlength : 2 ≤ (name ++ Path.beforeLiteral ++ literal ++ ['"'] ++ [']']).length := by
    simp only [List.length_append, List.length_singleton]
    omega
  rw [hwhole] at hline ⊢
  simp only [bracket?, List.takeWhile_append_of_pos hopen, List.dropWhile_append_of_pos hopen]
  rw [if_pos ⟨by simp, hlength, hline⟩]
  simp

/-- A bracket is not read in front of further text, at the start of a text or behind a line
break. -/
theorem bracket?_filteredChars_eq_none (hname : Path.Unbracketed name)
    (hbehind : Path.Unbracketed behind) (hliteral : key = [] → '[' ∉ literal)
    (h : ¬ (behind = [] ∧ key ≠ [] ∧ '\n' ∉ key)) :
    bracket? (Path.filteredChars key name literal behind) = none := by
  rw [Option.eq_none_iff_forall_ne_some]
  rintro ⟨key', content⟩ hread
  obtain ⟨hwhole, hne, hline⟩ := bracket?_eq_some hread
  refine h ⟨?_, ?_, fun hmem => hline (List.mem_append_left _ hmem)⟩
  · by_contra hmore
    have hlast := congrArg List.getLast? hwhole
    have hend : Path.filteredChars key name literal behind
        = key ++ '[' :: (name ++ Path.beforeLiteral ++ literal ++ ['"', ']']) ++ behind := by
      simp [Path.filteredChars]
    rw [hend, List.getLast?_append_of_ne_nil _ hmore, ← List.cons_append, ← List.append_assoc,
      List.getLast?_concat] at hlast
    exact hbehind.2 (List.mem_of_getLast? hlast)
  · rintro rfl
    obtain ⟨c, key', rfl⟩ := List.exists_cons_of_ne_nil hne
    obtain ⟨-, hrest⟩ := List.cons.inj hwhole
    have hmem : '[' ∈ name ++ Path.beforeLiteral ++ literal ++ '"' :: ']' :: behind :=
      hrest ▸ by simp
    have hbefore : '[' ∉ Path.beforeLiteral := by decide
    simp [hname.1, hbefore, hliteral, hbehind.1] at hmem

end Bracket

/-- The segment that holds a literal.  Its bracket is read if nothing stands behind it and the key
is a line with at least one character. -/
def filtered (key name literal behind : String) : Segment :=
  let raw := Path.filtered key name literal behind
  if behind = "" ∧ key ≠ "" ∧ '\n' ∉ key.toList then
    ⟨raw, key, if name = "" then none else some ⟨name, comparableValue ("\"" ++ literal ++ "\"")⟩⟩
  else ⟨raw, raw, none⟩

theorem ofText_filtered {key name literal behind : String} (hkey : Path.Unbracketed key.toList)
    (hname : Path.Unbracketed name.toList) (hblank : ∀ c ∈ name.toList, Text.isBlank c = false)
    (hbehind : Path.Unbracketed behind.toList) (hline : '\n' ∉ literal.toList)
    (hopen : key = "" → '[' ∉ literal.toList) :
    ofText (Path.filtered key name literal behind) = filtered key name literal behind := by
  by_cases hread : behind = "" ∧ key ≠ "" ∧ '\n' ∉ key.toList
  · obtain ⟨rfl, hne, hkeyLine⟩ := hread
    have hwhole : '\n' ∉ Path.filteredChars key.toList name.toList literal.toList [] := by
      have hnameLine : '\n' ∉ name.toList := fun hmem => absurd (hblank _ hmem) (by decide)
      have hbefore : '\n' ∉ Path.beforeLiteral := by decide
      simp [Path.filteredChars, hkeyLine, hnameLine, hbefore, hline]
    have hbracket := bracket?_filteredChars hkey (by simpa using hne) hwhole
    have hquoted : String.ofList ('"' :: (literal.toList ++ ['"'])) = "\"" ++ literal ++ "\"" := by
      rw [← String.toList_inj]
      simp
    rw [ofText, Path.toList_filtered, String.toList_empty, hbracket, filtered,
      if_pos ⟨rfl, hne, hkeyLine⟩]
    simp only [ElementFilter.ofChars?_quoted hblank, hquoted, String.ofList_toList,
      String.toList_eq_nil_iff]
  · have hbracket : bracket?
        (Path.filteredChars key.toList name.toList literal.toList behind.toList) = none :=
      bracket?_filteredChars_eq_none hname hbehind (by simpa using hopen) (by simpa using hread)
    rw [ofText, Path.toList_filtered, hbracket, filtered, if_neg hread]

/-- A path with a literal has the same segments for each literal, but for the one that holds the
literal.  The literals are lines with balanced brackets; in a path, or a segment, that starts like a
schema name, they do not hold what would end it. -/
theorem ofPath_filtered {left name right : String} (hleft : Path.Unbracketed left.toList)
    (hname : Path.Unbracketed name.toList) (hblank : ∀ c ∈ name.toList, Text.isBlank c = false)
    (hright : Path.Unbracketed right.toList) :
    ∃ before after key written behind,
      Path.HoldsLiteral left.toList name.toList right.toList
          (String.toList key) (String.toList written) (String.toList behind)
        ∧ ∀ literal : String, '\n' ∉ literal.toList → Path.Balanced literal.toList →
          (key = "" → '[' ∉ literal.toList) →
          (Path.schemaStart <+: left.toList →
            ¬ Path.schemaEnd ++ [':'] <:+: literal.toList) →
          (Path.runsOn key.toList = true → ¬ Path.schemaEnd <:+: literal.toList) →
          ofPath (Path.filtered left name literal right)
            = before ++ filtered key written literal behind :: after := by
  obtain ⟨before, after, key, written, behind, hkey, hwritten, hbehind, hholds, hsplit⟩ :=
    Path.exists_splitChars_normalizeChars hleft hname hright
  refine ⟨before.map (ofText ∘ String.ofList), after.map (ofText ∘ String.ofList),
    String.ofList key, String.ofList written, String.ofList behind, by simpa using hholds, ?_⟩
  intro literal hline hbalanced hopen hcolon hend
  have hmiddle : ofText (String.ofList (Path.filteredChars key written literal.toList behind))
      = filtered (String.ofList key) (String.ofList written) literal (String.ofList behind) := by
    rw [← ofText_filtered (by simpa using hkey) (by simpa using hwritten)
      (by simpa using hholds.written_blank hblank) (by simpa using hbehind) hline hopen]
    congr 1
    rw [← String.toList_inj]
    simp [Path.toList_filtered]
  have hparts := hsplit literal.toList hbalanced hcolon (by simpa using hend)
  rw [← Path.toList_filtered] at hparts
  rw [ofPath, Path.split, Path.normalize, String.toList_ofList, hparts, List.map_map,
    List.map_append, List.map_cons, Function.comp_apply, hmiddle]

theorem ofPath_filtered_of_emails :
    (Path.Unbracketed "emails".toList ∧ Path.Unbracketed "type".toList
        ∧ (∀ c ∈ "type".toList, Text.isBlank c = false) ∧ Path.Unbracketed ".display".toList)
      ∧ ∃ before after key written behind,
        Path.HoldsLiteral "emails".toList "type".toList ".display".toList
            (String.toList key) (String.toList written) (String.toList behind)
          ∧ ofPath (Path.filtered "emails" "type" "work" ".display")
            = before ++ filtered key written "work" behind :: after
          ∧ ofPath (Path.filtered "emails" "type" "at [desk].two" ".display")
            = before ++ filtered key written "at [desk].two" behind :: after := by
  have hleft : Path.Unbracketed "emails".toList := by decide
  have hname : Path.Unbracketed "type".toList := by decide
  have hblank : ∀ c ∈ "type".toList, Text.isBlank c = false := by simp [Text.isBlank]
  have hright : Path.Unbracketed ".display".toList := by decide
  obtain ⟨before, after, key, written, behind, hholds, hsegments⟩ :=
    ofPath_filtered hleft hname hblank hright
  have hkey : key ≠ "" := by
    intro hempty
    have hdot := hholds.key_empty (by rw [hempty]; rfl)
    exact absurd hdot (by decide)
  exact ⟨⟨hleft, hname, hblank, hright⟩, before, after, key, written, behind, hholds,
    hsegments "work" (by decide) (by decide) (fun _ => by decide) (fun _ => by decide)
      (fun _ => by decide),
    hsegments "at [desk].two" (by decide) (by decide) (fun hempty => absurd hempty hkey)
      (fun _ => by decide) (fun _ => by decide)⟩

/-- Where further text stands behind the bracket, the literal is part of a key. -/
theorem not_forall_literals_alike :
    ¬ ∀ left name right literal literal' : String, left ≠ "" →
      (∀ text ∈ [left, name, right], '"' ∉ text.toList ∧ Path.Unbracketed text.toList) →
      (∀ c ∈ name.toList, Text.isBlank c = false) →
      (∀ text ∈ [literal, literal'], '"' ∉ text.toList ∧ '\n' ∉ text.toList) →
      (ofPath (Path.filtered left name literal right)).map
          (fun segment => (segment.key, segment.filter.map ElementFilter.name))
        = (ofPath (Path.filtered left name literal' right)).map
          (fun segment => (segment.key, segment.filter.map ElementFilter.name)) := by
  intro h
  have hsame := h "emails" "type" "x" "work" "home" (by decide) (by decide)
    (by simp [Text.isBlank]) (by decide)
  exact absurd hsame (by decide)

/-- A closing bracket in a literal closes the bracket around it, and a dot behind it splits the
path. -/
example : (ofPath (Path.filtered "emails" "value" "a].b" ".display")).map Segment.raw
    = ["emails[value eq \"a]", "b\"]", "display"] := by decide

end Segment

end Scim
