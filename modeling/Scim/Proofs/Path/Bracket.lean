import Scim.Proofs.Path.Dotted

/-!
# Brackets in paths

Inside of brackets no dot ends a segment, so a path falls apart in front of a bracket and behind it
alone.  What the splitter does with a stretch of a path depends on the stretch, on the segment that
is open in front of it, and on whether a schema name is open.  The lemmas here say what it does in
front of a bracket (`Path.exists_splitFrom_bracket`), inside (`Path.splitFrom_nested`) and behind it
(`Path.exists_splitFrom_behind`).
-/

namespace Scim

namespace Path

/-! ## In front of a bracket -/

/-- Whether a schema name is open behind the beginning of a segment that goes on with `part`. -/
def isOpen (before part : List Char) : Bool :=
  schemaStart.isPrefixOf (before ++ part) && !decide (schemaEnd <:+: before)

/-- Whether a text starts a schema name is seen in front of a bracket. -/
theorem isPrefixOf_schemaStart_append (part rest : List Char) :
    schemaStart.isPrefixOf (part ++ '[' :: rest) = schemaStart.isPrefixOf part := by
  rw [Bool.eq_iff_iff, List.isPrefixOf_iff_prefix, List.isPrefixOf_iff_prefix]
  exact prefix_append_cons_iff (by decide) part rest

theorem isOpen_nil (part : List Char) : isOpen [] part = schemaStart.isPrefixOf part := by
  have hnil : ¬ schemaEnd <:+: [] := by decide
  simp [isOpen, hnil]

theorem isOpen_nil_right (key : List Char) : isOpen key [] = runsOn key := by
  rw [isOpen, List.append_nil, runsOn]

theorem isOpen_concat (before : List Char) (c : Char) (part : List Char) :
    (isOpen before (c :: part) && !schemaEnd.reverse.isPrefixOf (c :: before.reverse))
      = isOpen (before ++ [c]) part := by
  rw [isOpen, and_not_ended, isOpen, List.append_assoc, List.singleton_append]

/-- At the start of a segment, the splitter finds out whether a schema name starts. -/
theorem splitFrom_nil_bracket (part rest : List Char) :
    splitFrom [] 0 false (part ++ '[' :: rest)
      = splitFrom [] 0 (isOpen [] part) (part ++ '[' :: rest) := by
  rw [isOpen_nil, ← isPrefixOf_schemaStart_append part rest]
  cases part ++ '[' :: rest with
  | nil => rfl
  | cons c cs => simp [splitFrom]

/-- A character in front of a bracket goes on with the segment, or it is a dot and ends it. -/
theorem splitFrom_cons_bracket (before : List Char) {c : Char} (hc : c ≠ '[' ∧ c ≠ ']')
    (part rest : List Char) :
    splitFrom before.reverse 0 (isOpen before (c :: part)) (c :: part ++ '[' :: rest)
      = if c = '.' ∧ isOpen before (c :: part) = false then
          before :: splitFrom [] 0 (isOpen [] part) (part ++ '[' :: rest)
        else
          splitFrom (before ++ [c]).reverse 0 (isOpen (before ++ [c]) part)
            (part ++ '[' :: rest) := by
  -- what comes next does not open a schema name that is not open already
  have hsame : (isOpen before (c :: part) || (before.reverse.isEmpty
      && schemaStart.isPrefixOf (c :: (part ++ '[' :: rest)))) = isOpen before (c :: part) := by
    cases before with
    | cons d before => simp
    | nil =>
      have hstart := isPrefixOf_schemaStart_append (c :: part) rest
      rw [List.cons_append] at hstart
      rw [hstart, isOpen_nil]
      simp
  rw [List.cons_append, splitFrom, if_neg hc.1, if_neg hc.2, hsame]
  by_cases hdot : c = '.' ∧ isOpen before (c :: part) = false
  · rw [if_pos ⟨hdot.1, rfl, hdot.2⟩, if_pos hdot, hdot.2, List.reverse_reverse,
      splitFrom_nil_bracket]
  · rw [if_neg (fun h => hdot ⟨h.1, h.2.2⟩), if_neg hdot, isOpen_concat, List.reverse_append]
    rfl

/-- What a text in front of a bracket leaves of the segment that the bracket belongs to, and the
segments before it. -/
theorem exists_splitFrom_bracket {part : List Char} (hfree : Unbracketed part)
    (before : List Char) :
    ∃ segments key, key <:+ before ++ part
      ∧ (key = [] → before ++ part = [] ∨ (before ++ part).getLast? = some '.')
      ∧ ∀ rest, splitFrom before.reverse 0 (isOpen before part) (part ++ '[' :: rest)
        = segments ++ splitFrom key.reverse 0 (runsOn key) ('[' :: rest) := by
  induction part generalizing before with
  | nil =>
    refine ⟨[], before, by simp, fun h => Or.inl (by simpa using h), fun rest => ?_⟩
    rw [isOpen_nil_right, List.nil_append, List.nil_append]
  | cons c part ih =>
    obtain ⟨hbracket, hnone⟩ := unbracketed_cons_iff.mp hfree
    by_cases hdot : c = '.' ∧ isOpen before (c :: part) = false
    · obtain ⟨segments, key, hkey, hempty, hsplit⟩ := ih hnone []
      rw [List.nil_append] at hkey hempty
      refine ⟨before :: segments, key, hkey.trans ⟨before ++ [c], by simp⟩, fun hnil => .inr ?_,
        fun rest => ?_⟩
      · rcases hempty hnil with hpart | hpart <;> simp [List.getLast?_cons, hpart, hdot.1]
      · rw [splitFrom_cons_bracket before hbracket, if_pos hdot]
        exact congrArg (before :: ·) (hsplit rest)
    · obtain ⟨segments, key, hkey, hempty, hsplit⟩ := ih hnone (before ++ [c])
      rw [List.append_assoc, List.singleton_append] at hkey hempty
      refine ⟨segments, key, hkey, hempty, fun rest => ?_⟩
      rw [splitFrom_cons_bracket before hbracket, if_neg hdot, hsplit rest]

/-! ## Inside of a bracket -/

/-- How many brackets are open behind a text with `depth` open in front of it, if it closes none of
those. -/
def openBehind? (depth : Nat) : List Char → Option Nat
  | [] => some depth
  | c :: cs =>
    if c = '[' then openBehind? (depth + 1) cs
    else if c = ']' then
      match depth with
      | 0 => none
      | depth + 1 => openBehind? depth cs
    else openBehind? depth cs

/-- The text closes the brackets that it opens, and no others. -/
def Balanced (cs : List Char) : Prop :=
  openBehind? 0 cs = some 0

instance (cs : List Char) : Decidable (Balanced cs) :=
  inferInstanceAs (Decidable (_ = _))

/-- A text in front of which brackets are counted opens one more, closes one, or goes on. -/
theorem openBehind?_cons_eq_some {depth behind : Nat} {c : Char} {cs : List Char}
    (h : openBehind? depth (c :: cs) = some behind) :
    c = '[' ∧ openBehind? (depth + 1) cs = some behind
      ∨ (∃ outer, c = ']' ∧ depth = outer + 1 ∧ openBehind? outer cs = some behind)
      ∨ (c ≠ '[' ∧ c ≠ ']') ∧ openBehind? depth cs = some behind := by
  simp only [openBehind?] at h
  split at h
  · next hopen => exact .inl ⟨hopen, h⟩
  · next hopen =>
    split at h
    · next hclose =>
      cases depth with
      | zero => cases h
      | succ outer => exact .inr (.inl ⟨outer, hclose, rfl, h⟩)
    · next hclose => exact .inr (.inr ⟨⟨hopen, hclose⟩, h⟩)

theorem openBehind?_of_unbracketed {part : List Char} (h : Unbracketed part) (depth : Nat) :
    openBehind? depth part = some depth := by
  induction part with
  | nil => rfl
  | cons c part ih =>
    obtain ⟨⟨hopen, hclose⟩, hnone⟩ := unbracketed_cons_iff.mp h
    simp only [openBehind?, if_neg hopen, if_neg hclose]
    exact ih hnone

theorem openBehind?_append {part : List Char} {depth behind : Nat}
    (h : openBehind? depth part = some behind) (rest : List Char) :
    openBehind? depth (part ++ rest) = openBehind? behind rest := by
  induction part generalizing depth with
  | nil =>
    cases h
    rfl
  | cons c part ih =>
    rcases openBehind?_cons_eq_some h with ⟨rfl, hrest⟩ | ⟨outer, rfl, rfl, hrest⟩ | ⟨hc, hrest⟩
    · exact ih hrest
    · exact ih hrest
    · simp only [List.cons_append, openBehind?, if_neg hc.1, if_neg hc.2]
      exact ih hrest

/-- A bracket does not end a schema name. -/
theorem infix_concat_bracket {c : Char} (hc : c = '[' ∨ c = ']') (before : List Char) :
    schemaEnd <:+: before ++ [c] ↔ schemaEnd <:+: before := by
  have hnotMem : c ∉ schemaEnd := by rcases hc with rfl | rfl <;> decide
  rw [infix_append_cons_iff hnotMem]
  simp [schemaEnd]

/-- Inside of a bracket nothing ends a segment, and a schema name stays open until its end was
read. -/
theorem splitFrom_nested {before part : List Char} (hbefore : before ≠ []) {depth behind : Nat}
    (h : openBehind? depth part = some behind) (starts : Bool) (rest : List Char) :
    splitFrom before.reverse (depth + 1) (starts && !decide (schemaEnd <:+: before)) (part ++ rest)
      = splitFrom (before ++ part).reverse (behind + 1)
        (starts && !decide (schemaEnd <:+: before ++ part)) rest := by
  induction part generalizing before depth with
  | nil =>
    cases h
    simp
  | cons c part ih =>
    have hnext {inner : Nat} (hinner : openBehind? inner part = some behind) :=
      ih (List.append_ne_nil_of_right_ne_nil before (List.cons_ne_nil c [])) hinner
    rw [List.append_assoc, List.singleton_append, List.reverse_append] at hnext
    rcases openBehind?_cons_eq_some h with ⟨rfl, hrest⟩ | ⟨outer, rfl, rfl, hrest⟩ | ⟨hc, hrest⟩
    · rw [← hnext hrest, decide_eq_decide.mpr (infix_concat_bracket (.inl rfl) before)]
      exact splitFrom_open _ _ _ _
    · rw [← hnext hrest, decide_eq_decide.mpr (infix_concat_bracket (.inr rfl) before)]
      exact splitFrom_close _ _ _ _
    · rw [← hnext hrest, List.cons_append, splitFrom_cons (by simpa using hbefore) hc,
        if_neg (fun hdot => Nat.succ_ne_zero depth hdot.2.1), and_not_ended]
      rfl

/-! ## Behind a bracket -/

/-- What stands behind a bracket belongs to its segment up to the first dot, if no schema name is
open. -/
theorem exists_splitFrom_behind {cs : List Char} (hfree : Unbracketed cs) (read : List Char)
    (inSchema : Bool) :
    ∃ rest segments, rest <+: cs ∧ (rest = [] ↔ cs = [] ∨ cs.head? = some '.' ∧ inSchema = false)
      ∧ ∀ filter, splitFrom (read.reverse ++ ']' :: filter) 0 inSchema cs
        = (filter.reverse ++ ']' :: (read ++ rest)) :: segments := by
  induction cs generalizing read inSchema with
  | nil => exact ⟨[], [], by simp, by simp, fun filter => by simp [splitFrom]⟩
  | cons c cs ih =>
    obtain ⟨hbracket, hnone⟩ := unbracketed_cons_iff.mp hfree
    have hread (filter : List Char) : read.reverse ++ ']' :: filter ≠ [] := by simp
    by_cases hdot : c = '.' ∧ inSchema = false
    · refine ⟨[], splitFrom [] 0 inSchema cs, List.nil_prefix, by simp [hdot], fun filter => ?_⟩
      rw [splitFrom_cons (hread filter) hbracket, if_pos ⟨hdot.1, rfl, hdot.2⟩]
      simp
    · obtain ⟨rest, segments, hrest, -, hsplit⟩ := ih hnone (read ++ [c])
        (inSchema && !schemaEnd.reverse.isPrefixOf (c :: read.reverse))
      refine ⟨c :: rest, segments, List.cons_prefix_cons.mpr ⟨rfl, hrest⟩, by simpa using hdot,
        fun filter => ?_⟩
      have hended : schemaEnd.reverse.isPrefixOf (c :: (read.reverse ++ ']' :: filter))
          = schemaEnd.reverse.isPrefixOf (c :: read.reverse) := by
        rw [Bool.eq_iff_iff, List.isPrefixOf_iff_prefix, List.isPrefixOf_iff_prefix]
        exact prefix_append_cons_iff (by decide) (c :: read.reverse) filter
      have hnext := hsplit filter
      rw [List.reverse_append, List.append_assoc read [c] rest] at hnext
      rw [splitFrom_cons (hread filter) hbracket, if_neg (fun h => hdot ⟨h.1, h.2.2⟩), hended]
      exact hnext

end Path

end Scim
