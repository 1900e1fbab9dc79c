import Scim.Proofs.Path.Bracket

/-!
# Splitting a path loses nothing

Which dots of a path separate its segments can be said without the splitter: a segment takes in a
dot where a bracket is open in front of it, or the schema name that the segment starts with
(`Path.GoesOn`), and all other dots separate.  A text can be cut in this way only once, and the
splitter does so with every text, whatever brackets and dots stand in it (`Path.cut_iff`).  So the
segments, joined by dots, are the path, up to a separating dot at its end (`Path.split_lossless`).
-/

namespace Scim

namespace Path

/-! ## Dots that a segment takes in -/

/-- How many brackets are open behind a text.  What closes no bracket of the text does not count. -/
def openBrackets (cs : List Char) : Nat :=
  cs.foldl (fun depth c =>
    if c = '[' then depth + 1 else if c = ']' then depth - 1 else depth) 0

/-- Whether a segment that begins with `part` takes in a dot behind that: a bracket is open, or the
segment starts like a schema name that has not come to its end. -/
def GoesOn (part : List Char) : Prop :=
  0 < openBrackets part ∨ (schemaStart <+: part ∧ ¬ schemaEnd <:+: part)

instance (part : List Char) : Decidable (GoesOn part) :=
  inferInstanceAs (Decidable (_ ∨ _))

/-- Every dot of the segment is one that it takes in. -/
def TakesDots (segment : List Char) : Prop :=
  ∀ front back, segment = front ++ '.' :: back → GoesOn front

/-- A text is cut into segments at the dots that none of them takes in.  There is no segment behind
the last of these dots if the text ends there. -/
inductive Cut : List Char → List (List Char) → Prop
  | nil : Cut [] []
  | last {segment : List Char} (ne_nil : segment ≠ []) (dots : TakesDots segment) :
      Cut segment [segment]
  | dot {segment rest : List Char} {segments : List (List Char)} (dots : TakesDots segment)
      (ends : ¬ GoesOn segment) (behind : Cut rest segments) :
      Cut (segment ++ '.' :: rest) (segment :: segments)

/-! ## One character more -/

theorem openBrackets_concat (part : List Char) (c : Char) :
    openBrackets (part ++ [c]) = if c = '[' then openBrackets part + 1
      else if c = ']' then openBrackets part - 1 else openBrackets part := by
  rw [openBrackets, List.foldl_concat]
  rfl

theorem takesDots_nil : TakesDots [] := by
  intro front back h
  simp at h

theorem takesDots_concat {part : List Char} (h : TakesDots part) {c : Char}
    (hc : c = '.' → GoesOn part) : TakesDots (part ++ [c]) := by
  intro front back heq
  rcases List.eq_nil_or_concat back with rfl | ⟨before, d, rfl⟩
  · obtain ⟨rfl, hlast⟩ := List.append_inj' heq rfl
    exact hc (List.singleton_inj.mp hlast)
  · have hmiddle : part ++ [c] = (front ++ '.' :: before) ++ [d] := by simpa using heq
    exact h front before (List.append_inj' hmiddle rfl).1

/-- In front of a dot it is seen whether a schema name is open. -/
theorem goesOn_iff (part rest : List Char) :
    GoesOn part ↔ ¬ (openBrackets part = 0 ∧ isOpen part ('.' :: rest) = false) := by
  have hstart : schemaStart <+: part ++ '.' :: rest ↔ schemaStart <+: part :=
    prefix_append_cons_iff (by decide) part rest
  rw [GoesOn, isOpen, not_and_or, Nat.pos_iff_ne_zero, Bool.not_eq_false, Bool.and_eq_true,
    List.isPrefixOf_iff_prefix, hstart, Bool.not_eq_true', decide_eq_false_iff_not]

/-! ## From the splitter to the cut -/

/-- A bracket does not change whether a schema name is open. -/
theorem isOpen_bracket {c : Char} (hc : c = '[' ∨ c = ']') (before cs : List Char) :
    isOpen before (c :: cs) = isOpen (before ++ [c]) cs := by
  have hend : schemaEnd.reverse.isPrefixOf (c :: before.reverse) = false := by
    rcases hc with rfl | rfl <;> rfl
  rw [← isOpen_concat, hend, Bool.not_false, Bool.and_true]

/-- At the start of a segment, the splitter finds out whether a schema name starts. -/
theorem splitFrom_nil (cs : List Char) :
    splitFrom [] 0 false cs = splitFrom [] 0 (isOpen [] cs) cs := by
  rw [isOpen_nil]
  cases cs with
  | nil => rfl
  | cons c cs => simp [splitFrom]

/-- A character that is no bracket goes on with the segment, or it is a dot and ends it. -/
theorem splitFrom_isOpen {c : Char} (hc : c ≠ '[' ∧ c ≠ ']') (before : List Char) (depth : Nat)
    (cs : List Char) :
    splitFrom before.reverse depth (isOpen before (c :: cs)) (c :: cs)
      = if c = '.' ∧ depth = 0 ∧ isOpen before (c :: cs) = false then
          before :: splitFrom [] depth false cs
        else splitFrom (before ++ [c]).reverse depth (isOpen (before ++ [c]) cs) cs := by
  -- a schema name that starts here is open already
  have hsame : (isOpen before (c :: cs) || (before.reverse.isEmpty
      && schemaStart.isPrefixOf (c :: cs))) = isOpen before (c :: cs) := by
    cases before with
    | nil => simp [isOpen_nil]
    | cons d before => simp
  rw [splitFrom, if_neg hc.1, if_neg hc.2, hsame, isOpen_concat, List.reverse_append,
    List.reverse_reverse]
  split
  · next hdot => rw [hdot.2.2]
  · rfl

/-- The state of the splitter tells what it has read of the segment, so what it makes of the rest
completes a cut. -/
theorem cut_splitFrom {before : List Char} (hbefore : TakesDots before) (cs : List Char) :
    Cut (before ++ cs)
      (splitFrom before.reverse (openBrackets before) (isOpen before cs) cs) := by
  induction cs generalizing before with
  | nil =>
    rw [List.append_nil, splitFrom, List.isEmpty_reverse, List.reverse_reverse]
    cases before with
    | nil => exact .nil
    | cons c before => exact .last (List.cons_ne_nil c before) hbefore
  | cons c cs ih =>
    have hnext (hdot : c = '.' → GoesOn before) : Cut (before ++ c :: cs)
        (splitFrom (c :: before.reverse) (openBrackets (before ++ [c])) (isOpen (before ++ [c]) cs)
          cs) := by
      simpa using ih (takesDots_concat hbefore hdot)
    by_cases hopen : c = '['
    · subst hopen
      rw [splitFrom_open, isOpen_bracket (.inl rfl)]
      simpa [openBrackets_concat] using hnext (by simp)
    by_cases hclose : c = ']'
    · subst hclose
      rw [splitFrom_close, isOpen_bracket (.inr rfl)]
      simpa [openBrackets_concat] using hnext (by simp)
    rw [splitFrom_isOpen ⟨hopen, hclose⟩]
    split
    · next hdot =>
      obtain ⟨rfl, hends⟩ := hdot
      have hnot : ¬ GoesOn before := fun h => (goesOn_iff before cs).mp h hends
      rw [hends.1, splitFrom_nil]
      exact .dot hbefore hnot (ih takesDots_nil)
    · next hdot =>
      have hgoes : c = '.' → GoesOn before := by
        rintro rfl
        exact (goesOn_iff before cs).mpr fun hends => hdot ⟨rfl, hends⟩
      simpa [openBrackets_concat, hopen, hclose] using hnext hgoes

/-- The splitter cuts every text. -/
theorem cut_splitChars (cs : List Char) : Cut cs (splitChars cs) := by
  have h := cut_splitFrom takesDots_nil cs
  rwa [List.reverse_nil, show openBrackets [] = 0 from rfl, ← splitFrom_nil, List.nil_append] at h

/-! ## From the cut to the splitter -/

/-- Two segments that both end at a dot end at the same one. -/
theorem eq_of_ends {segment rest other more : List Char} (dots : TakesDots segment)
    (dots' : TakesDots other) (ends : ¬ GoesOn segment) (ends' : ¬ GoesOn other)
    (h : segment ++ '.' :: rest = other ++ '.' :: more) : segment = other ∧ rest = more := by
  rcases List.append_eq_append_iff.mp h with ⟨between, rfl, hrest⟩ | ⟨between, rfl, hmore⟩
  · cases between with
    | nil => exact ⟨(List.append_nil segment).symm, (List.cons.inj hrest).2⟩
    | cons c between =>
      obtain ⟨rfl, -⟩ := List.cons.inj hrest
      exact absurd (dots' segment between rfl) ends
  · cases between with
    | nil => exact ⟨List.append_nil other, (List.cons.inj hmore).2.symm⟩
    | cons c between =>
      obtain ⟨rfl, -⟩ := List.cons.inj hmore
      exact absurd (dots other between rfl) ends'

/-- A text is cut in one way only. -/
theorem Cut.unique {cs : List Char} {segments others : List (List Char)} (h : Cut cs segments)
    (h' : Cut cs others) : segments = others := by
  induction h generalizing others with
  | nil =>
    generalize hcs : ([] : List Char) = cs at h'
    cases h' with
    | nil => rfl
    | last ne_nil dots => exact absurd hcs.symm ne_nil
    | dot dots ends behind => simp at hcs
  | @last segment ne_nil dots =>
    generalize hcs : segment = cs at h'
    cases h' with
    | nil => exact absurd hcs ne_nil
    | last ne_nil' dots' => rfl
    | dot dots' ends' behind => exact absurd (dots _ _ hcs) ends'
  | @dot segment rest segments dots ends behind ih =>
    generalize hcs : segment ++ '.' :: rest = cs at h'
    cases h' with
    | nil => simp at hcs
    | last ne_nil' dots' => exact absurd (dots' segment rest hcs.symm) ends
    | dot dots' ends' behind' =>
      obtain ⟨rfl, rfl⟩ := eq_of_ends dots dots' ends ends' hcs
      rw [ih behind']

/-- The splitter cuts a text as it is cut, and in no other way. -/
theorem cut_iff {cs : List Char} {segments : List (List Char)} :
    Cut cs segments ↔ splitChars cs = segments :=
  ⟨fun h => (cut_splitChars cs).unique h, fun h => h ▸ cut_splitChars cs⟩

/-! ## What a cut keeps -/

namespace Cut

variable {cs : List Char} {segments : List (List Char)}

theorem takesDots (h : Cut cs segments) : ∀ segment ∈ segments, TakesDots segment := by
  induction h with
  | nil => exact fun segment hmem => absurd hmem List.not_mem_nil
  | last ne_nil dots => exact List.forall_mem_singleton.mpr dots
  | dot dots ends behind ih => exact List.forall_mem_cons.mpr ⟨dots, ih⟩

/-- No segment in front of another one takes in the dot between them. -/
theorem not_goesOn (h : Cut cs segments) : ∀ segment ∈ segments.dropLast, ¬ GoesOn segment := by
  induction h with
  | nil => exact fun segment hmem => absurd hmem List.not_mem_nil
  | last ne_nil dots => exact fun segment hmem => absurd hmem List.not_mem_nil
  | @dot segment rest segments dots ends behind ih =>
    cases segments with
    | nil => exact fun other hmem => absurd hmem List.not_mem_nil
    | cons next segments => exact List.forall_mem_cons.mpr ⟨ends, ih⟩

/-- Joined by dots, the segments are the text, or the text lacks only a dot behind the last one that
this does not take in. -/
theorem joined (h : Cut cs segments) : ['.'].intercalate segments = cs
    ∨ ∃ last ∈ segments.getLast?, ¬ GoesOn last ∧ cs = ['.'].intercalate segments ++ ['.'] := by
  induction h with
  | nil => exact .inl rfl
  | @last segment ne_nil dots => exact .inl List.intercalate_singleton
  | @dot segment rest segments dots ends behind ih =>
    cases segments with
    | nil =>
      cases behind
      exact .inr ⟨segment, rfl, ends, by simp⟩
    | cons next segments =>
      have hjoin : ['.'].intercalate (segment :: next :: segments)
          = segment ++ '.' :: ['.'].intercalate (next :: segments) := by
        rw [List.intercalate_cons_cons]
        simp
      rw [hjoin]
      rcases ih with hrest | ⟨last, hlast, hends, hrest⟩
      · exact .inl (by rw [hrest])
      · refine .inr ⟨last, by rwa [List.getLast?_cons_cons], hends, ?_⟩
        rw [List.append_assoc, List.cons_append, ← hrest]

end Cut

/-! ## Paths -/

/-- Splitting a path loses nothing.  Joined by dots, the segments are the path, or the path has one
more dot behind its last segment, which that does not take in.  Every dot inside of a segment stands
where a bracket is open, or in a schema name that the segment starts with and that has not come to
its end; and no dot between two segments does. -/
theorem split_lossless (path : String) :
    (".".intercalate (split path) = path
      ∨ ∃ last ∈ (split path).getLast?, ¬ GoesOn last.toList
        ∧ path = ".".intercalate (split path) ++ ".")
    ∧ (∀ segment ∈ split path, ∀ front back : List Char,
        segment.toList = front ++ '.' :: back →
          0 < openBrackets front ∨ (schemaStart <+: front ∧ ¬ schemaEnd <:+: front))
    ∧ ∀ segment ∈ (split path).dropLast, ¬ GoesOn segment.toList := by
  have hcut := cut_splitChars path.toList
  have hchars : (".".intercalate (split path)).toList
      = ['.'].intercalate (splitChars path.toList) := by
    rw [String.toList_intercalate, split, List.map_map]
    simp [Function.comp_def]
  refine ⟨?_, ?_, ?_⟩
  · rcases hcut.joined with h | ⟨last, hlast, hends, h⟩
    · exact .inl (String.toList_inj.mp (hchars.trans h))
    · refine .inr ⟨String.ofList last, ?_, by rwa [String.toList_ofList], ?_⟩
      · rw [split, List.getLast?_map]
        exact Option.mem_map_of_mem String.ofList hlast
      · rw [← String.toList_inj, String.toList_append, hchars]
        exact h
  · intro segment hmem front back hsegment
    obtain ⟨chars, hchars, rfl⟩ := List.mem_map.mp hmem
    rw [String.toList_ofList] at hsegment
    exact hcut.takesDots chars hchars front back hsegment
  · intro segment hmem
    rw [split, ← List.map_dropLast] at hmem
    obtain ⟨chars, hchars, rfl⟩ := List.mem_map.mp hmem
    rw [String.toList_ofList]
    exact hcut.not_goesOn chars hchars

/-- A closing bracket without an opening one, a segment without characters, and two dots at the
end. -/
example : split "urn:x.y:User.a]..b[.c].." = ["urn:x.y:User", "a]", "", "b[.c]", ""] := by decide

end Path

end Scim
