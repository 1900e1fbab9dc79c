import Scim.Filter.Match
import Scim.Listing
import Scim.Proofs.Filter.Token

/-!
# What a filter looks at

A filter looks at a document along the paths that it names (`Filter.readPaths`), and there it only tells
scalars apart: an operand denotes a boolean, a number or a text, so an object that a path leads to
is present and equal to nothing.  Documents that look alike at every path of a filter are matched
alike (`Filter.holds_compile_eq`).
-/

namespace Scim

/-! ## Operands -/

/-- A text denotes a boolean, a number, or itself. -/
theorem operandValue_cases (text : String) :
    (∃ b, operandValue text = .bool b) ∨ (∃ n, operandValue text = .num n)
      ∨ operandValue text = .str text := by
  unfold operandValue
  split
  · exact Or.inl ⟨true, rfl⟩
  split
  · exact Or.inl ⟨false, rfl⟩
  cases numberOfText? (Text.trimmed text) with
  | some n => exact Or.inr (Or.inl ⟨n, rfl⟩)
  | none => exact Or.inr (Or.inr rfl)

theorem same_obj_operandValue (collation : Collation) (members : Members) (text : String) :
    collation.same (.obj members) (operandValue text) = false := by
  rcases operandValue_cases text with ⟨b, h⟩ | ⟨n, h⟩ | h <;> rw [h] <;> rfl

/-! ## The names of a path -/

theorem splitAt_ne_nil (separator : Char) (cs : List Char) : splitAt separator cs ≠ [] := by
  cases cs with
  | nil => simp [splitAt]
  | cons c cs =>
    simp only [splitAt]
    split
    · simp
    · split <;> simp

/-- The parts of a text, joined by the separator, are the text. -/
theorem intercalate_splitAt (separator : Char) (cs : List Char) :
    [separator].intercalate (splitAt separator cs) = cs := by
  induction cs with
  | nil => rfl
  | cons c cs ih =>
    obtain ⟨part, parts, hsplit⟩ := List.exists_cons_of_ne_nil (splitAt_ne_nil separator cs)
    simp only [splitAt, hsplit]
    rw [hsplit] at ih
    split
    · next hc =>
      rw [hc]
      exact congrArg (separator :: ·) ih
    · cases parts with
      | nil => exact congrArg (c :: ·) ih
      | cons next parts => exact congrArg (c :: ·) ih

theorem dottedNames_ne_nil (path : String) : dottedNames path ≠ [] := by
  simpa [dottedNames] using splitAt_ne_nil '.' path.toList

/-- A path is determined by its names. -/
theorem dottedNames_injective : Function.Injective dottedNames := by
  intro path other h
  have hparts : splitAt '.' path.toList = splitAt '.' other.toList := by
    refine List.map_injective_iff.mpr ?_ h
    intro a b hab
    simpa using congrArg String.toList hab
  rw [← String.toList_inj, ← intercalate_splitAt '.' path.toList, hparts, intercalate_splitAt]

/-! ## Documents that look alike -/

namespace Json

/-- Two documents look alike at a path: it leads to the same values, or to an object in each. -/
def AlikeAt (path : String) (a b : Json) : Prop :=
  a.resolve path = b.resolve path
    ∨ ∃ members more, a.resolve path = [.obj members] ∧ b.resolve path = [.obj more]

namespace AlikeAt

variable {path : String} {a b : Json}

theorem isEmpty_resolve_eq (h : AlikeAt path a b) :
    (a.resolve path).isEmpty = (b.resolve path).isEmpty := by
  rcases h with h | ⟨members, more, ha, hb⟩
  · rw [h]
  · rw [ha, hb]
    rfl

/-- A test of candidates that fails on objects does not tell the documents apart. -/
theorem any_candidates_eq (h : AlikeAt path a b) {test : Json → Bool}
    (htest : ∀ members, test (.obj members) = false) :
    (a.candidates path).any test = (b.candidates path).any test := by
  rcases h with h | ⟨members, more, ha, hb⟩
  · rw [candidates, candidates, h]
  · simp [candidates, ha, hb, withElements, htest]

theorem patternFound_eq (h : AlikeAt path a b) (pattern : String) :
    Predicate.patternFound pattern (a.candidates path)
      = Predicate.patternFound pattern (b.candidates path) := by
  unfold Predicate.patternFound
  cases Pattern.ofText? pattern with
  | none => rfl
  | some p => exact h.any_candidates_eq fun members => rfl

end AlikeAt

end Json

namespace Filter

/-- The paths that a filter looks at.  A comparison without a value looks at nothing. -/
def readPaths : Filter → List String
  | present path => [path]
  | compare path _ (some _) => [path]
  | compare _ _ none => []
  | and left right => left.readPaths ++ right.readPaths
  | or left right => left.readPaths ++ right.readPaths
  | missing => []

/-- The paths that a filter text looks at; an absent or blank one looks at nothing. -/
def readPathsOfText (text : Option String) : List String :=
  ((text.bind ofText?).map readPaths).getD []

/-- A comparison does not tell apart documents that look alike at its path. -/
theorem holds_comparePredicate_eq {path : String} {a b : Json} (h : Json.AlikeAt path a b)
    (collation : Collation) (comparison : Comparison) (value : String) :
    (comparePredicate path comparison value).holds collation a
      = (comparePredicate path comparison value).holds collation b := by
  cases comparison with
  | equal =>
    exact h.any_candidates_eq fun members => same_obj_operandValue collation members value
  | contains | startsWith => exact h.patternFound_eq _

/-- A filter does not tell apart documents that look alike at its paths. -/
theorem holds_compile_eq (collation : Collation) {a b : Json} {filter : Filter}
    (h : ∀ path ∈ filter.readPaths, Json.AlikeAt path a b) :
    filter.compile.holds collation a = filter.compile.holds collation b := by
  induction filter with
  | present path =>
    have hpath := h path List.mem_cons_self
    simp only [compile, Predicate.holds, hpath.isEmpty_resolve_eq]
  | compare path comparison value =>
    cases value with
    | none => rfl
    | some value => exact holds_comparePredicate_eq (h path List.mem_cons_self) _ _ _
  | and left right ihLeft ihRight =>
    obtain ⟨hleft, hright⟩ := List.forall_mem_append.mp h
    simp only [compile, Predicate.holds, Predicate.holdsAll, ihLeft hleft, ihRight hright]
  | or left right ihLeft ihRight =>
    obtain ⟨hleft, hright⟩ := List.forall_mem_append.mp h
    simp only [compile, Predicate.holds, Predicate.holdsAny, ihLeft hleft, ihRight hright]
  | missing => rfl

end Filter

namespace Predicate

theorem holds_ofText_eq (collation : Collation) {a b : Json} {text : Option String}
    (h : ∀ path ∈ Filter.readPathsOfText text, Json.AlikeAt path a b) :
    (ofText text).holds collation a = (ofText text).holds collation b := by
  unfold ofText
  cases hfilter : text.bind Filter.ofText? with
  | none => rfl
  | some filter =>
    simp only [Filter.readPathsOfText, hfilter, Option.map_some, Option.getD_some] at h
    exact Filter.holds_compile_eq collation h

/-- Blank texts may be taken for absent ones. -/
theorem ofText_nonBlank (text : Option String) :
    ofText (ListParams.nonBlank text) = ofText text := by
  cases text with
  | none => rfl
  | some text =>
    rw [ListParams.nonBlank, Option.filter_some]
    cases hblank : Text.isBlankText text with
    | false => rfl
    | true =>
      have htrim : Text.trimStart text.toList = [] :=
        (Text.trimStart_eq_nil_iff text.toList).mpr (List.all_eq_true.mp hblank)
      have htokens : Token.ofText text = [] := by
        rw [Token.ofText, Token.ofChars_eq_match, htrim]
      simp [ofText, Filter.ofText?, htokens, Filter.ofTokens?]

end Predicate

end Scim
