import Scim.Proofs.Patch.Reach
import Scim.Proofs.Path.Literal

/-!
# Printing paths

A path is printed with a dot between every two of its segments, and a segment as its key, maybe with
a filter in brackets behind it that compares a sub-attribute with a quoted literal.  Keys hold
neither dots nor brackets, while the name and the literal of a filter may hold dots.  Reading splits
a printed path at the dots that were printed between segments and at no others
(`Path.splitChars_joined`), so it finds the segments that were printed (`Segment.ofPath_print`).

The splitter carries three things from one character to the next, and at the end of every segment
they are what they were at its start: nothing of a segment is read, no bracket is open, and no
schema name is.
-/

namespace Scim

namespace Path

/-! ## Segments to print -/

/-- A filter to print: its sub-attribute is a word and its literal a line, and neither has
brackets. -/
structure WrittenFilter where
  name : String
  literal : String
  name_ne_empty : name ≠ ""
  unbracketed_name : Unbracketed name.toList
  isBlank_name : ∀ c ∈ name.toList, Text.isBlank c = false
  unbracketed_literal : Unbracketed literal.toList
  line_literal : '\n' ∉ literal.toList

/-- A segment to print: its key is a line without dots and brackets that does not start like a
schema name. -/
structure WrittenSegment where
  key : String
  filter : Option WrittenFilter
  key_ne_empty : key ≠ ""
  dot_notMem_key : '.' ∉ key.toList
  unbracketed_key : Unbracketed key.toList
  line_key : '\n' ∉ key.toList
  not_schemaStart_key : ¬ schemaStart <+: key.toList

namespace WrittenSegment

/-- The text of a segment. -/
def text (s : WrittenSegment) : String :=
  match s.filter with
  | none => s.key
  | some f => filtered s.key f.name f.literal ""

/-- The segment itself. -/
def segment (s : WrittenSegment) : Segment where
  raw := s.text
  key := s.key
  filter := s.filter.map fun f => ⟨f.name, comparableValue ("\"" ++ f.literal ++ "\"")⟩

end WrittenSegment

/-- The path with the given segments. -/
def print (segments : List WrittenSegment) : String :=
  ".".intercalate (segments.map WrittenSegment.text)

/-! ## Splitting -/

namespace WrittenSegment

variable (s : WrittenSegment)

theorem runsOn_key : runsOn s.key.toList = false :=
  (runsOn_eq_false_iff _).mpr fun hstart => absurd hstart s.not_schemaStart_key

theorem key_chars_ne_nil : s.key.toList ≠ [] := by
  simpa using s.key_ne_empty

/-- A segment is its key, behind which the text ends or a bracket opens. -/
theorem exists_toList_text :
    ∃ behind, s.text.toList = s.key.toList ++ behind ∧ ∀ c ∈ behind.head?, c = '[' := by
  unfold text
  cases s.filter with
  | none => exact ⟨[], by simp, by simp⟩
  | some f => exact ⟨_, (toList_filtered _ _ _ _).trans rfl, by simp⟩

theorem text_chars_ne_nil : s.text.toList ≠ [] := by
  obtain ⟨behind, htext, -⟩ := s.exists_toList_text
  rw [htext]
  exact List.append_ne_nil_of_left_ne_nil s.key_chars_ne_nil behind

/-- The splitter reads a segment as a whole, and then no bracket and no schema name is open. -/
theorem splitChars_text_append {rest : List Char} (hrest : ∀ c ∈ rest.head?, c = '.') :
    splitChars (s.text.toList ++ rest) = splitFrom s.text.toList.reverse 0 false rest := by
  have hkey {behind : List Char} (hbehind : ∀ c ∈ behind.head?, c ∉ schemaStart) :
      splitChars (s.key.toList ++ behind) = splitFrom s.key.toList.reverse 0 false behind := by
    rw [splitChars_append s.dot_notMem_key s.unbracketed_key hbehind, s.runsOn_key]
  unfold text
  cases s.filter with
  | none =>
    refine hkey fun c hc => ?_
    rw [hrest c hc]
    decide
  | some f =>
    have hwhole : (filtered s.key f.name f.literal "").toList ++ rest
        = s.key.toList ++ '[' :: (f.name.toList ++ beforeLiteral ++ f.literal.toList
          ++ '"' :: ']' :: rest) := by
      simp [toList_filtered, filteredChars]
    have hbalanced : Balanced f.literal.toList := openBehind?_of_unbracketed f.unbracketed_literal 0
    have hclosed : runsOn (s.key.toList ++ '[' :: f.name.toList) = false := by
      have hstart : schemaStart.isPrefixOf s.key.toList = false := by
        rw [Bool.eq_false_iff, Ne, List.isPrefixOf_iff_prefix]
        exact s.not_schemaStart_key
      rw [runsOn_bracket, hstart, Bool.false_and]
    have hend : runsOn s.key.toList = true → ¬ schemaEnd <:+: f.literal.toList := by
      simp [s.runsOn_key]
    have hfilter := splitFrom_filter f.unbracketed_name hbalanced hend rest
    rw [s.runsOn_key, hclosed] at hfilter
    rw [hwhole, hkey (by simp [schemaStart]), hfilter]
    simp [toList_filtered, filteredChars]

end WrittenSegment

/-- The characters of a printed path. -/
def joined (segments : List WrittenSegment) : List Char :=
  ['.'].intercalate (segments.map fun s => s.text.toList)

theorem toList_print (segments : List WrittenSegment) :
    (print segments).toList = joined segments := by
  rw [print, String.toList_intercalate, joined, List.map_map]
  rfl

theorem joined_cons_cons (s next : WrittenSegment) (segments : List WrittenSegment) :
    joined (s :: next :: segments) = s.text.toList ++ '.' :: joined (next :: segments) := by
  simp [joined, List.intercalate_cons_cons]

/-- A printed path is split where it was joined. -/
theorem splitChars_joined (segments : List WrittenSegment) :
    splitChars (joined segments) = segments.map fun s => s.text.toList := by
  induction segments with
  | nil => rfl
  | cons s segments ih =>
    cases segments with
    | nil =>
      have hend : ∀ c ∈ ([] : List Char).head?, c = '.' := by simp
      have hsplit := s.splitChars_text_append hend
      rw [List.append_nil] at hsplit
      simp [joined, hsplit, splitFrom, s.text_chars_ne_nil]
    | cons next segments =>
      rw [joined_cons_cons, s.splitChars_text_append (by simp), splitFrom_dot_of_closed, ih]
      rfl

/-- No printed path starts like a schema name, so its form is normal. -/
theorem normalizeChars_joined (segments : List WrittenSegment) :
    normalizeChars (joined segments) = joined segments := by
  refine normalizeChars_of_not_schemaStart ?_
  cases segments with
  | nil => decide
  | cons s segments =>
    obtain ⟨behind, htext, hbehind⟩ := s.exists_toList_text
    have hbracket : ∀ c ∈ behind.head?, c ∉ schemaStart := by
      intro c hc
      rw [hbehind c hc]
      decide
    have htext' : ¬ schemaStart <+: s.text.toList := by
      rw [htext, prefix_append_iff hbracket]
      exact s.not_schemaStart_key
    cases segments with
    | nil => simpa [joined] using htext'
    | cons next segments =>
      rwa [joined_cons_cons, prefix_append_cons_iff (by decide)]

end Path

/-! ## Reading what was printed -/

/-- The text of a segment spells the segment. -/
theorem Segment.ofText_text (s : Path.WrittenSegment) : ofText s.text = s.segment := by
  unfold Path.WrittenSegment.segment Path.WrittenSegment.text
  cases s.filter with
  | none => exact ofText_of_notMem s.unbracketed_key.2
  | some f =>
    have hopen : s.key = "" → '[' ∉ f.literal.toList := fun h => absurd h s.key_ne_empty
    simp only [Option.map_some]
    rw [ofText_filtered s.unbracketed_key f.unbracketed_name f.isBlank_name (by decide)
      f.line_literal hopen, filtered, if_pos ⟨rfl, s.key_ne_empty, s.line_key⟩,
      if_neg f.name_ne_empty]

/-- A path that was printed is read as its segments. -/
theorem Segment.ofPath_print (segments : List Path.WrittenSegment) :
    ofPath (Path.print segments) = segments.map Path.WrittenSegment.segment := by
  have hchars : (Path.normalize (Path.print segments)).toList = Path.joined segments := by
    rw [Path.normalize, String.toList_ofList, Path.toList_print, Path.normalizeChars_joined]
  rw [ofPath, Path.split, hchars, Path.splitChars_joined, List.map_map, List.map_map]
  refine List.map_congr_left fun s _ => ?_
  simp only [Function.comp_apply, String.ofList_toList]
  exact ofText_text s

/-- A segment whose literal has a dot, a quote and a blank. -/
def Path.quotedEmails : WrittenSegment where
  key := "emails"
  filter := some
    { name := "type"
      literal := "a.\" b."
      name_ne_empty := by decide
      unbracketed_name := by decide
      isBlank_name := by simp [Text.isBlank]
      unbracketed_literal := by decide
      line_literal := by decide }
  key_ne_empty := by decide
  dot_notMem_key := by decide
  unbracketed_key := by decide
  line_key := by decide
  not_schemaStart_key := by decide

/-- A segment without a filter. -/
def Path.plainDisplay : WrittenSegment where
  key := "display"
  filter := none
  key_ne_empty := by decide
  dot_notMem_key := by decide
  unbracketed_key := by decide
  line_key := by decide
  not_schemaStart_key := by decide

/-- Dots and quotes in a literal split nothing. -/
theorem Segment.ofPath_print_of_quotedEmails :
    Path.print [Path.quotedEmails, Path.plainDisplay] = "emails[type eq \"a.\" b.\"].display"
      ∧ ofPath "emails[type eq \"a.\" b.\"].display"
        = [⟨"emails[type eq \"a.\" b.\"]", "emails", some ⟨"type", .str "a.\" b."⟩⟩,
          ⟨"display", "display", none⟩] := by
  have hprint : Path.print [Path.quotedEmails, Path.plainDisplay]
      = "emails[type eq \"a.\" b.\"].display" := by decide
  have hread := ofPath_print [Path.quotedEmails, Path.plainDisplay]
  rw [hprint] at hread
  exact ⟨hprint, hread⟩

end Scim
