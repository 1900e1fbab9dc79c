import Mathlib.Data.List.Infix
import Scim.Proofs.Filter.Agreement
import Scim.Proofs.Patch.Replace

/-!
# Two readings of a path

Filters read a path as its dotted names.  Patches write a dot for the colon behind a schema name and
then split the path into segments, where a segment that starts with `urn:` runs on over dots until
it ends in `:User`.  Both only take a path apart: joined by dots, the parts are the path again, or
the path with its dot in place of the colon (`intercalate_splitAt`, `Path.intercalate_splitChars`).

So the readings agree on a path exactly if no colon is changed in it and no segment runs on over a
dot, which can be seen from the names alone (`Path.IsDotted`, `Path.split_normalize_eq_iff`).  Where
they do not agree, neither list of parts is the beginning of the other
(`Path.not_prefix_of_not_isDotted`).
-/

namespace Scim

/-! ## Dotted names -/

theorem notMem_of_mem_splitAt {separator : Char} {cs part : List Char}
    (h : part ∈ splitAt separator cs) : separator ∉ part := by
  induction cs generalizing part with
  | nil => simp_all [splitAt]
  | cons c cs ih =>
    obtain ⟨next, rest, hsplit⟩ := List.exists_cons_of_ne_nil (splitAt_ne_nil separator cs)
    simp only [splitAt, hsplit] at h
    rw [hsplit] at ih
    split at h
    · rcases List.mem_cons.mp h with rfl | hrest
      · exact List.not_mem_nil
      · exact ih hrest
    · next hc =>
      rcases List.mem_cons.mp h with rfl | hrest
      · exact List.not_mem_cons_of_ne_of_not_mem (Ne.symm hc) (ih List.mem_cons_self)
      · exact ih (List.mem_cons_of_mem _ hrest)

namespace Path

/-! ## The text of a path -/

/-- The characters are no brackets. -/
def Unbracketed (cs : List Char) : Prop :=
  '[' ∉ cs ∧ ']' ∉ cs

instance (cs : List Char) : Decidable (Unbracketed cs) :=
  inferInstanceAs (Decidable (_ ∧ _))

theorem Unbracketed.mono {cs part : List Char} (h : Unbracketed cs) (hpart : part ⊆ cs) :
    Unbracketed part :=
  ⟨fun hopen => h.1 (hpart hopen), fun hclose => h.2 (hpart hclose)⟩

theorem unbracketed_cons_iff {c : Char} {cs : List Char} :
    Unbracketed (c :: cs) ↔ (c ≠ '[' ∧ c ≠ ']') ∧ Unbracketed cs := by
  simp only [Unbracketed, List.mem_cons, not_or, ne_comm]
  exact and_and_and_comm

/-- The text has an end, and that is not a dot. -/
def EndsInName (cs : List Char) : Prop :=
  ∃ c, cs.getLast? = some c ∧ c ≠ '.'

theorem EndsInName.behind_dot {part rest : List Char} (h : EndsInName (part ++ '.' :: rest)) :
    EndsInName rest := by
  obtain ⟨c, hlast, hc⟩ := h
  cases rest with
  | nil => simp [Ne.symm hc] at hlast
  | cons next rest => exact ⟨c, by simpa using hlast, hc⟩

theorem EndsInName.ne_nil {cs : List Char} (h : EndsInName cs) : cs ≠ [] := by
  rintro rfl
  simp [EndsInName] at h

theorem endsInName_of_ne_empty {path : String} (hpath : path ≠ "")
    (hdot : path.toList.getLast? ≠ some '.') : EndsInName path.toList := by
  have hchars : path.toList ≠ [] := by simpa using hpath
  rw [List.getLast?_eq_some_getLast hchars] at hdot
  exact ⟨_, List.getLast?_eq_some_getLast hchars, fun heq => hdot (congrArg some heq)⟩

/-- The colon form of a path becomes the dotted one: the colon that is changed stands between the
end of a schema name and an attribute. -/
theorem dotLastColon?_eq_some {cs changed : List Char} (h : dotLastColon? cs = some changed) :
    ∃ before c rest, cs = before ++ schemaEnd ++ ':' :: c :: rest
      ∧ changed = before ++ schemaEnd ++ '.' :: c :: rest ∧ startsAttribute (c :: rest) = true := by
  induction cs generalizing changed with
  | nil => simp [dotLastColon?] at h
  | cons c cs ih =>
    simp only [dotLastColon?] at h
    split at h
    · next further hfurther =>
      obtain ⟨before, d, rest, rfl, rfl, hstarts⟩ := ih hfurther
      cases h
      exact ⟨c :: before, d, rest, rfl, rfl, hstarts⟩
    · split at h
      · next rest hrest =>
        rw [Text.dropWord?_eq_some_iff] at hrest
        split at h
        · next hstarts =>
          cases h
          cases rest with
          | nil => simp [startsAttribute] at hstarts
          | cons d rest => exact ⟨[], d, rest, by simpa using hrest, rfl, hstarts⟩
        · cases h
      · cases h

/-- At most one colon is changed, and not the last character. -/
theorem normalizeChars_cases (cs : List Char) :
    normalizeChars cs = cs
      ∨ ∃ before c rest, cs = before ++ ':' :: c :: rest
        ∧ normalizeChars cs = before ++ '.' :: c :: rest := by
  unfold normalizeChars
  split
  · next d rest hdrop =>
    rw [Text.dropWord?_eq_some_iff] at hdrop
    split
    · next changed hchanged =>
      obtain ⟨before, c, rest, rfl, rfl, -⟩ := dotLastColon?_eq_some hchanged
      exact Or.inr ⟨schemaStart ++ d :: (before ++ schemaEnd), c, rest, by simpa using hdrop,
        by simp⟩
    · exact Or.inl rfl
  · exact Or.inl rfl

theorem length_normalizeChars (cs : List Char) : (normalizeChars cs).length = cs.length := by
  rcases normalizeChars_cases cs with h | ⟨before, c, rest, hcs, h⟩
  · rw [h]
  · rw [h, hcs, List.length_append, List.length_append]
    rfl

theorem Unbracketed.normalizeChars {cs : List Char} (h : Unbracketed cs) :
    Unbracketed (normalizeChars cs) := by
  rcases normalizeChars_cases cs with heq | ⟨before, c, rest, rfl, heq⟩
  · rwa [heq]
  · rw [heq]
    simpa [Unbracketed] using h

theorem EndsInName.normalizeChars {cs : List Char} (h : EndsInName cs) :
    EndsInName (normalizeChars cs) := by
  rcases normalizeChars_cases cs with heq | ⟨before, c, rest, rfl, heq⟩
  · rwa [heq]
  · rw [heq]
    simpa [EndsInName] using h

/-! ## Segments -/

/-- A character goes on with the segment, or it is a dot and ends it. -/
theorem splitFrom_cons_cases (current : List Char) (depth : Nat) (inSchema : Bool) (c : Char)
    (cs : List Char) :
    (∃ depth' inSchema', splitFrom current depth inSchema (c :: cs)
        = splitFrom (c :: current) depth' inSchema' cs)
      ∨ c = '.' ∧ ∃ inSchema', splitFrom current depth inSchema (c :: cs)
        = current.reverse :: splitFrom [] depth inSchema' cs := by
  simp only [splitFrom]
  split
  · exact Or.inl ⟨_, _, rfl⟩
  · split
    · exact Or.inl ⟨_, _, rfl⟩
    · split
      · next hdot => exact Or.inr ⟨hdot.1, _, rfl⟩
      · exact Or.inl ⟨_, _, rfl⟩

theorem splitFrom_open (current : List Char) (depth : Nat) (inSchema : Bool) (cs : List Char) :
    splitFrom current depth inSchema ('[' :: cs)
      = splitFrom ('[' :: current) (depth + 1) inSchema cs := by
  have hstart : schemaStart.isPrefixOf ('[' :: cs) = false := rfl
  rw [splitFrom, if_pos rfl, hstart, Bool.and_false, Bool.or_false]

theorem splitFrom_close (current : List Char) (depth : Nat) (inSchema : Bool) (cs : List Char) :
    splitFrom current depth inSchema (']' :: cs)
      = splitFrom (']' :: current) (depth - 1) inSchema cs := by
  have hstart : schemaStart.isPrefixOf (']' :: cs) = false := rfl
  rw [splitFrom, if_neg (by decide), if_pos rfl, hstart, Bool.and_false, Bool.or_false]

/-- No schema name starts in the middle of a segment. -/
theorem splitFrom_cons {current : List Char} (hcurrent : current ≠ []) {c : Char}
    (hc : c ≠ '[' ∧ c ≠ ']') (depth : Nat) (inSchema : Bool) (cs : List Char) :
    splitFrom current depth inSchema (c :: cs)
      = if c = '.' ∧ depth = 0 ∧ inSchema = false then
          current.reverse :: splitFrom [] depth inSchema cs
        else
          splitFrom (c :: current) depth
            (inSchema && !schemaEnd.reverse.isPrefixOf (c :: current)) cs := by
  have hempty : current.isEmpty = false := by simpa using hcurrent
  rw [splitFrom, if_neg hc.1, if_neg hc.2, hempty, Bool.false_and, Bool.or_false]

/-- Segments, joined by dots, are the text that was split. -/
theorem intercalate_splitFrom {cs : List Char} (hend : cs = [] ∨ EndsInName cs)
    (current : List Char) (depth : Nat) (inSchema : Bool) :
    ['.'].intercalate (splitFrom current depth inSchema cs) = current.reverse ++ cs := by
  induction cs generalizing current depth inSchema with
  | nil =>
    cases current with
    | nil => rfl
    | cons d current => simp [splitFrom]
  | cons c cs ih =>
    have hrest : cs = [] ∨ EndsInName cs := by
      cases cs with
      | nil => exact Or.inl rfl
      | cons next cs => simpa [EndsInName] using hend
    rcases splitFrom_cons_cases current depth inSchema c cs with
      ⟨depth', inSchema', hsplit⟩ | ⟨rfl, inSchema', hsplit⟩
    · rw [hsplit, ih hrest]
      simp
    · -- the dot does not stand at the end, so a segment follows it
      have hwhole : EndsInName ([] ++ '.' :: cs) := hend.resolve_left (List.cons_ne_nil _ _)
      have hmore : splitFrom [] depth inSchema' cs ≠ [] :=
        splitFrom_ne_nil (.inr hwhole.behind_dot.ne_nil) depth inSchema'
      rw [hsplit, List.intercalate_cons_of_ne_nil hmore, ih hrest]
      simp

theorem intercalate_splitChars {cs : List Char} (hend : EndsInName cs) :
    ['.'].intercalate (splitChars cs) = cs :=
  intercalate_splitFrom (Or.inr hend) [] 0 false

/-- A segment goes on from what was read of it. -/
theorem exists_splitFrom_eq_cons {current : List Char} (h : current ≠ []) (cs : List Char)
    (depth : Nat) (inSchema : Bool) :
    ∃ segment rest, splitFrom current depth inSchema cs = segment :: rest
      ∧ current.reverse <+: segment := by
  induction cs generalizing current depth inSchema with
  | nil => exact ⟨current.reverse, [], by simp [splitFrom, h], List.prefix_rfl⟩
  | cons c cs ih =>
    rcases splitFrom_cons_cases current depth inSchema c cs with
      ⟨depth', inSchema', hsplit⟩ | ⟨-, inSchema', hsplit⟩
    · obtain ⟨segment, rest, hmore, hbegins⟩ := ih (List.cons_ne_nil c current) depth' inSchema'
      rw [List.reverse_cons] at hbegins
      exact ⟨segment, rest, hsplit.trans hmore, (List.prefix_append _ _).trans hbegins⟩
    · exact ⟨current.reverse, _, hsplit, List.prefix_rfl⟩

/-- Whether a segment that begins with a dotted name runs on over the dot behind the name: it
starts like a schema name that has not come to its end. -/
def runsOn (name : List Char) : Bool :=
  schemaStart.isPrefixOf name && !decide (schemaEnd <:+: name)

theorem isPrefixOf_schemaEnd_reverse (c : Char) (before : List Char) :
    schemaEnd.reverse.isPrefixOf (c :: before.reverse)
      = decide (schemaEnd <:+ before ++ [c]) := by
  rw [Bool.eq_iff_iff, List.isPrefixOf_iff_prefix, decide_eq_true_eq, ← List.reverse_prefix,
    List.reverse_append]
  rfl

/-- A schema name that was open before a character still is, unless the character ends it. -/
theorem and_not_ended (starts : Bool) (before : List Char) (c : Char) :
    (starts && !decide (schemaEnd <:+: before)
        && !schemaEnd.reverse.isPrefixOf (c :: before.reverse))
      = (starts && !decide (schemaEnd <:+: before ++ [c])) := by
  rw [isPrefixOf_schemaEnd_reverse, Bool.and_assoc, ← Bool.not_or, ← Bool.decide_or]
  simp only [List.infix_concat_iff, or_comm]

/-- Where no dot ends a segment, for there is none or the schema name is still open behind them, the
name stays open until its end was read. -/
theorem splitFrom_append {before : List Char} (hbefore : before ≠ []) {part : List Char}
    (hfree : Unbracketed part) (starts : Bool)
    (hdots : '.' ∈ part → starts = true ∧ ¬ schemaEnd <:+: before ++ part) (rest : List Char) :
    splitFrom before.reverse 0 (starts && !decide (schemaEnd <:+: before)) (part ++ rest)
      = splitFrom (before ++ part).reverse 0
        (starts && !decide (schemaEnd <:+: before ++ part)) rest := by
  induction part generalizing before with
  | nil => simp
  | cons c part ih =>
    obtain ⟨hbracket, hrest⟩ := unbracketed_cons_iff.mp hfree
    have hwhole : before ++ c :: part = before ++ [c] ++ part := by simp
    have hgoesOn : ¬ (c = '.' ∧ 0 = 0 ∧ (starts && !decide (schemaEnd <:+: before)) = false) := by
      rintro ⟨rfl, -, hclosed⟩
      obtain ⟨rfl, hopen⟩ := hdots List.mem_cons_self
      have hearlier : ¬ schemaEnd <:+: before :=
        fun h => hopen (h.trans (List.prefix_append before _).isInfix)
      simp [hearlier] at hclosed
    have hnext := ih (List.append_ne_nil_of_right_ne_nil before (List.cons_ne_nil c [])) hrest
      (fun hmem => hwhole ▸ hdots (List.mem_cons_of_mem c hmem))
    rw [hwhole, ← hnext, List.cons_append, splitFrom_cons (by simpa using hbefore) hbracket,
      if_neg hgoesOn, and_not_ended, List.reverse_append]
    rfl

/-- A word does not reach beyond a character that it lacks. -/
theorem prefix_append_cons_iff {word : List Char} {c : Char} (hword : c ∉ word)
    (part behind : List Char) : word <+: part ++ c :: behind ↔ word <+: part := by
  refine ⟨fun h => ?_, fun h => h.trans (List.prefix_append _ _)⟩
  have hlonger : part ++ [c] <+: part ++ c :: behind :=
    (List.prefix_append_right_inj part).mpr ⟨behind, rfl⟩
  rcases List.prefix_or_prefix_of_prefix h hlonger with hshort | hlong
  · rcases List.prefix_concat_iff.mp hshort with rfl | hpart
    · exact absurd (by simp) hword
    · exact hpart
  · exact absurd (hlong.subset (by simp)) hword

/-- A word lies on one side of a character that it lacks. -/
theorem infix_append_cons_iff {word : List Char} {c : Char} (hword : c ∉ word)
    (part behind : List Char) :
    word <:+: part ++ c :: behind ↔ word <:+: part ∨ word <:+: behind := by
  induction part with
  | nil =>
    have hnone := prefix_append_cons_iff hword [] behind
    rw [List.nil_append] at hnone
    rw [List.nil_append, List.infix_cons_iff, hnone, List.prefix_nil, List.infix_nil]
  | cons d part ih =>
    have hfront := prefix_append_cons_iff hword (d :: part) behind
    rw [List.cons_append] at hfront
    rw [List.cons_append, List.infix_cons_iff, hfront, ih, List.infix_cons_iff, or_assoc]

/-- The same of what is behind `part` if it may also be nothing. -/
theorem prefix_append_iff {word rest : List Char} (hrest : ∀ c ∈ rest.head?, c ∉ word)
    (part : List Char) : word <+: part ++ rest ↔ word <+: part := by
  cases rest with
  | nil => rw [List.append_nil]
  | cons c behind => exact prefix_append_cons_iff (hrest c rfl) part behind

/-- At the end of the name that a text begins with, its first segment has come this far. -/
theorem splitChars_append {part rest : List Char} (hdot : '.' ∉ part) (hfree : Unbracketed part)
    (hrest : ∀ c ∈ rest.head?, c ∉ schemaStart) :
    splitChars (part ++ rest) = splitFrom part.reverse 0 (runsOn part) rest := by
  cases part with
  | nil => rfl
  | cons c part =>
    obtain ⟨hc, hpart⟩ : '.' ≠ c ∧ '.' ∉ part := by simpa using hdot
    obtain ⟨⟨hopen, hclose⟩, hnone⟩ := unbracketed_cons_iff.mp hfree
    have hstart : schemaStart.isPrefixOf (c :: (part ++ rest))
        = schemaStart.isPrefixOf (c :: part) := by
      rw [Bool.eq_iff_iff, List.isPrefixOf_iff_prefix, List.isPrefixOf_iff_prefix]
      exact prefix_append_iff hrest (c :: part)
    -- a single character is not the end of a schema name
    have hone : schemaEnd.reverse.isPrefixOf [c] = false := by
      simp [schemaEnd, List.isPrefixOf]
    have hended : decide (schemaEnd <:+: [c]) = false :=
      decide_eq_false fun h => by simpa [schemaEnd] using h.length_le
    have hgo := splitFrom_append (List.cons_ne_nil c []) hnone (schemaStart.isPrefixOf (c :: part))
      (fun hmem => absurd hmem hpart) rest
    rw [hended] at hgo
    rw [splitChars, List.cons_append, splitFrom, if_neg hopen, if_neg hclose,
      if_neg (fun h => hc h.1.symm), hone, hstart]
    exact hgo

/-- A segment that does not run on ends at a dot. -/
theorem splitFrom_dot_of_closed (part rest : List Char) :
    splitFrom part.reverse 0 false ('.' :: rest) = part :: splitChars rest := by
  have hstart : schemaStart.isPrefixOf ('.' :: rest) = false := rfl
  simp [splitFrom, hstart, splitChars]

/-- A segment that runs on takes the dot in. -/
theorem exists_splitFrom_dot_of_open (part rest : List Char) :
    ∃ segment more, splitFrom part.reverse 0 true ('.' :: rest) = segment :: more
      ∧ '.' ∈ segment := by
  have hopened : splitFrom part.reverse 0 true ('.' :: rest)
      = splitFrom ('.' :: part.reverse) 0 true rest := by
    simp [splitFrom, schemaEnd, List.isPrefixOf]
  obtain ⟨segment, more, hsegment, hbegins⟩ :=
    exists_splitFrom_eq_cons (List.cons_ne_nil '.' part.reverse) rest 0 true
  exact ⟨segment, more, hopened.trans hsegment, hbegins.subset (by simp)⟩

/-- A text falls apart at the dots between names exactly if no segment runs on over one of them. -/
theorem splitChars_intercalate_iff {parts : List (List Char)} (hne : parts ≠ [])
    (hfree : ∀ part ∈ parts, '.' ∉ part ∧ Unbracketed part)
    (hend : EndsInName (['.'].intercalate parts)) :
    splitChars (['.'].intercalate parts) = parts
      ↔ ∀ part ∈ parts.dropLast, runsOn part = false := by
  induction parts with
  | nil => exact absurd rfl hne
  | cons part parts ih =>
    obtain ⟨⟨hdot, hpart⟩, hrest⟩ := List.forall_mem_cons.mp hfree
    cases parts with
    | nil =>
      rw [List.intercalate_singleton] at hend ⊢
      have hend' : ∀ c ∈ ([] : List Char).head?, c ∉ schemaStart := by simp
      have hsplit := splitChars_append hdot hpart hend'
      rw [List.append_nil] at hsplit
      simp [hsplit, splitFrom, hend.ne_nil]
    | cons next more =>
      have hjoined : ['.'].intercalate (part :: next :: more)
          = part ++ '.' :: ['.'].intercalate (next :: more) := by
        rw [List.intercalate_cons_cons]
        simp
      rw [hjoined] at hend ⊢
      rw [splitChars_append hdot hpart (by simp [schemaStart]), List.dropLast_cons_cons,
        List.forall_mem_cons]
      cases hruns : runsOn part with
      | false =>
        rw [splitFrom_dot_of_closed, List.cons_inj_right,
          ih (List.cons_ne_nil _ _) hrest hend.behind_dot]
        simp
      | true =>
        obtain ⟨segment, rest, hsegment, hin⟩ :=
          exists_splitFrom_dot_of_open part (['.'].intercalate (next :: more))
        rw [hsegment]
        simp only [List.cons.injEq, Bool.true_eq_false, false_and, iff_false, not_and]
        rintro rfl
        exact absurd hin hdot

/-! ## The two readings -/

theorem mem_intercalate {separator : List Char} {parts : List (List Char)} {part : List Char}
    (hpart : part ∈ parts) {c : Char} (hc : c ∈ part) : c ∈ separator.intercalate parts := by
  induction parts with
  | nil => exact absurd hpart List.not_mem_nil
  | cons first parts ih =>
    cases parts with
    | nil =>
      rw [List.mem_singleton] at hpart
      rwa [List.intercalate_singleton, ← hpart]
    | cons next more =>
      rw [List.intercalate_cons_cons]
      rcases List.mem_cons.mp hpart with rfl | hrest
      · exact List.mem_append_left _ (List.mem_append_left _ hc)
      · exact List.mem_append_right _ (ih hrest)

/-- Parts that make up a text of the same length are not the beginning of others. -/
theorem eq_of_prefix_of_length {parts others : List (List Char)} (hne : parts ≠ [])
    (hbegins : parts <+: others)
    (hlength : (['.'].intercalate parts).length = (['.'].intercalate others).length) :
    parts = others := by
  induction parts generalizing others with
  | nil => exact absurd rfl hne
  | cons part parts ih =>
    obtain ⟨more, rfl⟩ := hbegins
    cases parts with
    | nil =>
      cases more with
      | nil => rfl
      | cons next more =>
        simp [List.intercalate_cons_cons] at hlength
    | cons next parts =>
      simp only [List.cons_append, List.intercalate_cons_cons, List.length_append,
        Nat.add_left_cancel_iff] at hlength
      rw [List.cons_append, ← ih (List.cons_ne_nil _ _) (List.prefix_append _ more) hlength]

/-- The path has no colon behind a schema name, and no name but the last starts like a schema name
without coming to its end. -/
def IsDotted (path : String) : Prop :=
  normalize path = path ∧ ∀ name ∈ (dottedNames path).dropLast,
    schemaStart <+: name.toList → schemaEnd <:+: name.toList

instance (path : String) : Decidable (IsDotted path) :=
  inferInstanceAs (Decidable (_ ∧ _))

theorem runsOn_eq_false_iff (name : List Char) :
    runsOn name = false ↔ (schemaStart <+: name → schemaEnd <:+: name) := by
  rw [← List.isPrefixOf_iff_prefix, runsOn]
  cases schemaStart.isPrefixOf name <;> simp

section Readings

variable {path : String} (hfree : Unbracketed path.toList) (hend : EndsInName path.toList)
include hfree hend

theorem splitChars_eq_splitAt_iff :
    splitChars path.toList = splitAt '.' path.toList
      ↔ ∀ name ∈ (dottedNames path).dropLast, schemaStart <+: name.toList →
        schemaEnd <:+: name.toList := by
  have hjoined := intercalate_splitAt '.' path.toList
  have hparts : ∀ part ∈ splitAt '.' path.toList, '.' ∉ part ∧ Unbracketed part := by
    intro part hpart
    have hsubset : part ⊆ path.toList := fun c hc => hjoined ▸ mem_intercalate hpart hc
    exact ⟨notMem_of_mem_splitAt hpart, hfree.mono hsubset⟩
  have hiff := splitChars_intercalate_iff (splitAt_ne_nil '.' path.toList) hparts
    (by rwa [hjoined])
  rw [hjoined] at hiff
  rw [hiff, dottedNames, ← List.map_dropLast, List.forall_mem_map]
  simp only [runsOn_eq_false_iff, String.toList_ofList]

/-- The names of a path are the segments of its dotted form exactly if the path is dotted. -/
theorem split_normalize_eq_iff : split (normalize path) = dottedNames path ↔ IsDotted path := by
  have hchars : (normalize path).toList = normalizeChars path.toList := String.toList_ofList
  rw [IsDotted, ← splitChars_eq_splitAt_iff hfree hend]
  constructor
  · intro h
    have hparts : splitChars (normalizeChars path.toList) = splitAt '.' path.toList := by
      rw [split, hchars, dottedNames] at h
      exact List.map_injective_iff.mpr (fun a b hab => by simpa using congrArg String.toList hab) h
    -- the parts make up the path, and with it its dotted form
    have hsame : normalizeChars path.toList = path.toList := by
      rw [← intercalate_splitChars hend.normalizeChars, hparts, intercalate_splitAt]
    refine ⟨String.toList_inj.mp (hchars.trans hsame), ?_⟩
    rwa [hsame] at hparts
  · rintro ⟨hsame, hparts⟩
    rw [hsame, split, hparts, dottedNames]

/-- Where the readings differ, neither list of parts is the beginning of the other. -/
theorem not_prefix_of_not_isDotted (h : ¬ IsDotted path) :
    ¬ split (normalize path) <+: dottedNames path
      ∧ ¬ dottedNames path <+: split (normalize path) := by
  have hchars : (normalize path).toList = normalizeChars path.toList := String.toList_ofList
  have hlength : (['.'].intercalate (splitChars (normalizeChars path.toList))).length
      = (['.'].intercalate (splitAt '.' path.toList)).length := by
    rw [intercalate_splitChars hend.normalizeChars, intercalate_splitAt, length_normalizeChars]
  have hsplit : splitChars (normalizeChars path.toList) ≠ [] :=
    splitFrom_ne_nil (.inr hend.normalizeChars.ne_nil) 0 false
  have hchange {parts others : List (List Char)}
      (hbegins : parts.map String.ofList <+: others.map String.ofList) : parts <+: others := by
    have := hbegins.map String.toList
    simpa using this
  rw [← split_normalize_eq_iff hfree hend, split, hchars, dottedNames] at h
  rw [split, hchars, dottedNames]
  exact ⟨fun hbegins => h (congrArg _ (eq_of_prefix_of_length hsplit (hchange hbegins) hlength)),
    fun hbegins => h (congrArg _
      (eq_of_prefix_of_length (splitAt_ne_nil '.' _) (hchange hbegins) hlength.symm).symm)⟩

end Readings

/-- A schema name without dots may stand in a dotted path, though not in front of a colon. -/
example : IsDotted "urn:acme:User.title" ∧ ¬ IsDotted "urn:acme:User:title" := by decide

/-- No path that starts with the schema name of the enterprise extension is dotted: the name holds a
dot. -/
theorem not_isDotted_of_enterpriseUser {path : String}
    (h : Schemas.enterpriseUser.toList <+: path.toList) : ¬ IsDotted path := by
  obtain ⟨rest, hrest⟩ := h
  let first : List Char := "urn:ietf:params:scim:schemas:extension:enterprise:2".toList
  have hnames : splitAt '.' path.toList = first :: splitAt '.' ("0:User".toList ++ rest) := by
    simp [← hrest, Schemas.enterpriseUser, splitAt, first]
  intro hdotted
  have hfirst : String.ofList first ∈ (dottedNames path).dropLast := by
    rw [dottedNames, hnames, List.map_cons,
      List.dropLast_cons_of_ne_nil (by simpa using splitAt_ne_nil _ _)]
    exact List.mem_cons_self
  have hstart : schemaStart <+: first := by simp [first, schemaStart]
  have hend : schemaEnd <:+: first := by simpa using hdotted.2 _ hfirst (by simpa using hstart)
  have hopen : ¬ schemaEnd <:+: first := by decide
  exact hopen hend

end Path

end Scim
