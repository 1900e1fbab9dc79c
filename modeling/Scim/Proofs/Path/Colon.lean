import Scim.Proofs.Path.Dotted

/-!
# The colon behind a schema name

The normal form of a path writes a dot for the last colon between the end of a schema name and an
attribute.  A character that schema names lack keeps what stands in front of it apart from what
stands behind it: a colon behind the character is changed, or else one in front of it
(`Path.dotLastColon?_append`).
-/

namespace Scim

namespace Path

/-! ## Around a character -/

theorem dropWord?_append {word : List Char} {s : Char} (hs : s ∉ word)
    (before behind : List Char) : Text.dropWord? word (before ++ s :: behind)
      = (Text.dropWord? word (before ++ [s])).map (· ++ behind) := by
  refine Option.ext fun rest => ?_
  rw [Text.dropWord?_eq_some_iff, Option.map_eq_some_iff]
  constructor
  · intro h
    -- the word ends before the character
    obtain ⟨more, rfl⟩ := (prefix_append_cons_iff hs before behind).mp ⟨rest, h.symm⟩
    refine ⟨more ++ [s], Text.dropWord?_eq_some_iff.mpr (List.append_assoc _ _ _), ?_⟩
    simpa using h
  · rintro ⟨more, hmore, rfl⟩
    rw [Text.dropWord?_eq_some_iff] at hmore
    rw [← List.append_assoc, ← hmore]
    simp

/-- The text with a dot for the colon behind the schema name whose end it starts with. -/
def dotHere? (cs : List Char) : Option (List Char) :=
  ((Text.dropWord? (schemaEnd ++ [':']) cs).filter startsAttribute).map (schemaEnd ++ '.' :: ·)

theorem dotLastColon?_cons (c : Char) (cs : List Char) :
    dotLastColon? (c :: cs) = ((dotLastColon? cs).map (c :: ·)).or (dotHere? (c :: cs)) := by
  rw [dotLastColon?, dotHere?]
  cases dotLastColon? cs with
  | some changed => rfl
  | none =>
    cases Text.dropWord? (schemaEnd ++ [':']) (c :: cs) with
    | none => rfl
    | some rest => cases h : startsAttribute rest <;> simp [Option.filter_some, h]

theorem dotLastColon?_eq_none {cs : List Char} (h : ¬ schemaEnd ++ [':'] <:+: cs) :
    dotLastColon? cs = none := by
  cases hchanged : dotLastColon? cs with
  | none => rfl
  | some changed =>
    obtain ⟨before, c, rest, rfl, -, -⟩ := dotLastColon?_eq_some hchanged
    exact absurd ⟨before, c :: rest, by simp⟩ h

theorem dotHere?_append {s : Char} (hs : s ∉ schemaEnd ++ [':']) (before behind : List Char) :
    dotHere? (before ++ s :: behind) = (dotHere? (before ++ [s])).map (· ++ behind) := by
  rw [dotHere?, dotHere?, dropWord?_append hs before behind]
  cases hword : Text.dropWord? (schemaEnd ++ [':']) (before ++ [s]) with
  | none => rfl
  | some rest =>
    -- the character itself stands behind the word
    have hrest : rest ≠ [] := by
      rintro rfl
      rw [Text.dropWord?_eq_some_iff, List.append_nil] at hword
      exact hs (hword ▸ by simp)
    obtain ⟨d, rest, rfl⟩ := List.exists_cons_of_ne_nil hrest
    have hstarts : startsAttribute (d :: rest ++ behind) = startsAttribute (d :: rest) := rfl
    rw [Option.map_some, Option.filter_some, Option.filter_some, hstarts]
    cases startsAttribute (d :: rest) <;> simp

/-- Changes in front of a character outside of schema names and changes behind it do not see each
other. -/
theorem dotLastColon?_append {s : Char} (hs : s ∉ schemaEnd ++ [':'])
    (before behind : List Char) :
    dotLastColon? (before ++ s :: behind) = ((dotLastColon? (s :: behind)).map (before ++ ·)).or
      ((dotLastColon? (before ++ [s])).map (· ++ behind)) := by
  induction before with
  | nil =>
    have hone : dotLastColon? [s] = none := by
      have hhere : dotHere? [s] = none := by
        have hlong : Text.dropWord? (schemaEnd ++ [':']) [s] = none := by
          simp [schemaEnd, Text.dropWord?]
        rw [dotHere?, hlong]
        rfl
      rw [dotLastColon?_cons, hhere]
      rfl
    simp [hone]
  | cons c before ih =>
    have hhere := dotHere?_append hs (c :: before) behind
    rw [List.cons_append, List.cons_append] at hhere
    rw [List.cons_append, List.cons_append, dotLastColon?_cons c (before ++ s :: behind), ih, hhere,
      dotLastColon?_cons c (before ++ [s])]
    generalize dotLastColon? (s :: behind) = later
    cases later <;> cases dotLastColon? (before ++ [s]) <;> simp

/-! ## Normal forms -/

theorem normalizeChars_of_schemaStart (c : Char) (rest : List Char) :
    normalizeChars (schemaStart ++ c :: rest)
      = schemaStart ++ c :: (dotLastColon? rest).getD rest := by
  have hdrop : Text.dropWord? schemaStart (schemaStart ++ c :: rest) = some (c :: rest) :=
    Text.dropWord?_eq_some_iff.mpr rfl
  rw [normalizeChars, hdrop]
  cases h : dotLastColon? rest <;> simp [h]

theorem normalizeChars_of_not_schemaStart {cs : List Char} (h : ¬ schemaStart <+: cs) :
    normalizeChars cs = cs := by
  have hdrop : Text.dropWord? schemaStart cs = none := by
    cases hdrop : Text.dropWord? schemaStart cs with
    | none => rfl
    | some rest => exact absurd ⟨rest, (Text.dropWord?_eq_some_iff.mp hdrop).symm⟩ h
  rw [normalizeChars, hdrop]

/-- At most one colon became a dot, and not the first character. -/
def DotsColon (cs changed : List Char) : Prop :=
  changed = cs ∨ ∃ before rest, before ≠ [] ∧ cs = before ++ ':' :: rest
    ∧ changed = before ++ '.' :: rest

namespace DotsColon

variable {cs changed : List Char} (h : DotsColon cs changed)
include h

theorem head?_eq : changed.head? = cs.head? := by
  rcases h with rfl | ⟨before, rest, hne, rfl, rfl⟩
  · rfl
  · rw [List.head?_append_of_ne_nil _ hne, List.head?_append_of_ne_nil _ hne]

theorem eq_nil_iff : changed = [] ↔ cs = [] := by
  rw [← List.head?_eq_none_iff, h.head?_eq, List.head?_eq_none_iff]

/-- No new characters but the dot. -/
theorem mem {c : Char} (hc : c ∈ changed) (hdot : c ≠ '.') : c ∈ cs := by
  rcases h with rfl | ⟨before, rest, -, rfl, rfl⟩
  · exact hc
  · simp only [List.mem_append, List.mem_cons, hdot, false_or] at hc ⊢
    exact hc.imp_right Or.inr

theorem unbracketed (hfree : Unbracketed cs) : Unbracketed changed :=
  ⟨fun hopen => hfree.1 (h.mem hopen (by decide)), fun hclose => hfree.2 (h.mem hclose (by decide))⟩

end DotsColon

end Path

end Scim
