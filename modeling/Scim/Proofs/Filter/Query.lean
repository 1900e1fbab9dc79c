import Scim.Proofs.Filter.Operators
import Scim.Proofs.Json.Equality
import Scim.Proofs.Number.Rounding

/-!
# Query documents determine predicates

Leaves and logical nodes are rendered alike, as objects with one member, and a path may be spelled
like an operator.  Still nothing of a compiled filter is lost in its query document, which can be
read back: what the only member holds tells the kinds of predicates apart, since an operand denotes
a scalar (`Predicate.ofQuery?_query`).  It does not even matter that documents are compared by
values, which do not tell zeros with different signs apart, for no operand denotes a zero with a
sign (`Predicate.query_determines`).
-/

namespace Scim

/-! ## Equal values that are not the same -/

namespace Json

mutual

/-- No double in the value is a zero. -/
def NoDoubleZero : Json → Prop
  | num (.float x) => x.isZero = false
  | arr items => NoDoubleZeroItems items
  | obj members => NoDoubleZeroMembers members
  | _ => True

/-- `NoDoubleZero` of every item. -/
def NoDoubleZeroItems : List Json → Prop
  | [] => True
  | x :: xs => x.NoDoubleZero ∧ NoDoubleZeroItems xs

/-- `NoDoubleZero` of what every member holds. -/
def NoDoubleZeroMembers : List (String × Json) → Prop
  | [] => True
  | (_, x) :: xs => x.NoDoubleZero ∧ NoDoubleZeroMembers xs

end

end Json

/-- Numbers with equal values are the same, unless they are zeros. -/
theorem Number.eq_of_same {a b : Number} (hzero : (Json.num a).NoDoubleZero)
    (h : a.same b = true) : a = b := by
  cases a with
  | int m =>
    cases b with
    | int n => exact congrArg int (beq_iff_eq.mp h)
    | float y => cases h
  | float x =>
    cases b with
    | int n => cases h
    | float y =>
      have hx : x.isZero = false := hzero
      simp only [same, Binary64.sameValue, hx, Bool.false_and, Bool.false_or] at h
      exact congrArg float (beq_iff_eq.mp h)

namespace Json

mutual

/-- Zeros apart, equal values are the same. -/
theorem eq_of_same : ∀ {a b : Json}, a.NoDoubleZero → a.same b = true → a = b
  | .null, b, _, h => by
    cases b <;> simp only [same, Bool.false_eq_true] at h
    rfl
  | .bool a, b, _, h => by
    cases b <;> simp only [same, Bool.false_eq_true] at h
    rw [beq_iff_eq.mp h]
  | .num a, b, hzero, h => by
    cases b <;> simp only [same, Bool.false_eq_true] at h
    rw [Number.eq_of_same hzero h]
  | .str a, b, _, h => by
    cases b <;> simp only [same, Bool.false_eq_true] at h
    rw [beq_iff_eq.mp h]
  | .arr xs, b, hzero, h => by
    cases b <;> simp only [same, Bool.false_eq_true] at h
    rw [eq_of_sameItems hzero h]
  | .obj xs, b, hzero, h => by
    cases b <;> simp only [same, Bool.false_eq_true] at h
    rw [eq_of_sameMembers hzero h]

theorem eq_of_sameItems : ∀ {xs ys : List Json},
    NoDoubleZeroItems xs → sameItems xs ys = true → xs = ys
  | [], ys, _, h => by
    cases ys <;> simp only [sameItems, Bool.false_eq_true] at h
    rfl
  | x :: xs, ys, hzero, h => by
    cases ys <;> simp only [sameItems, Bool.false_eq_true, Bool.and_eq_true] at h
    rw [eq_of_same hzero.1 h.1, eq_of_sameItems hzero.2 h.2]

theorem eq_of_sameMembers : ∀ {xs ys : List (String × Json)},
    NoDoubleZeroMembers xs → sameMembers xs ys = true → xs = ys
  | [], ys, _, h => by
    cases ys <;> simp only [sameMembers, Bool.false_eq_true] at h
    rfl
  | (k, x) :: xs, ys, hzero, h => by
    cases ys <;> simp only [sameMembers, Bool.false_eq_true, Bool.and_eq_true, beq_iff_eq] at h
    rw [h.1.1, eq_of_same hzero.1 h.1.2, eq_of_sameMembers hzero.2 h.2]

end

end Json

/-! ## Operands -/

/-- A zero is read as an integer. -/
theorem noDoubleZero_of_numberOfText? {text : String} {n : Number}
    (h : numberOfText? text = some n) : (Json.num n).NoDoubleZero := by
  obtain ⟨x, -, hx⟩ := Option.map_eq_some_iff.mp h
  cases n with
  | int n => trivial
  | float y =>
    show y.isZero = false
    by_contra hzero
    rw [Bool.not_eq_false] at hzero
    split at hx
    · next n hn =>
      split at hx
      · cases hx
      · next hlarge =>
        obtain rfl := Number.float.inj hx
        rw [Binary64.toInt?_of_isZero hzero] at hn
        obtain rfl := Option.some.inj hn
        exact hlarge (by decide)
    · next hn =>
      obtain rfl := Number.float.inj hx
      rw [Binary64.toInt?_of_isZero hzero] at hn
      cases hn

theorem noDoubleZero_operandValue (text : String) : (operandValue text).NoDoubleZero := by
  unfold operandValue
  split
  · trivial
  split
  · trivial
  split
  · next n hn => exact noDoubleZero_of_numberOfText? hn
  · trivial

namespace Predicate

/-! ## Compiled predicates -/

/-- The predicates that filters compile to.  Logical ones have two parts, and values are those of
operands. -/
inductive Compiled : Predicate → Prop
  | nothing : Compiled .nothing
  | present (path : String) : Compiled (.present path)
  | equals (path operand : String) : Compiled (.equals path (operandValue operand))
  | pattern (path text : String) : Compiled (.pattern path text)
  | and {left right : Predicate} (first : Compiled left) (second : Compiled right) :
      Compiled (.and [left, right])
  | or {left right : Predicate} (first : Compiled left) (second : Compiled right) :
      Compiled (.or [left, right])

theorem compiled_compile (filter : Filter) : Compiled filter.compile := by
  induction filter with
  | present path => exact .present path
  | compare path comparison value =>
    cases value with
    | none => exact .nothing
    | some operand =>
      cases comparison with
      | equal => exact .equals path operand
      | contains | startsWith => exact .pattern path _
  | and left right ihLeft ihRight => exact .and ihLeft ihRight
  | or left right ihLeft ihRight => exact .or ihLeft ihRight
  | missing => exact .nothing

/-- A filter text compiles to the predicate without any condition, or to that of a filter. -/
theorem eq_all_or_compiled (text : Option String) :
    ofText text = .all ∨ Compiled (ofText text) := by
  rcases ofText_cases text with ⟨hall, -⟩ | ⟨filter, hcompile, -⟩
  · exact Or.inl hall
  · exact Or.inr (hcompile ▸ compiled_compile filter)

/-! ## Reading query documents -/

/-- The predicate that a query document renders.  An array belongs to a logical node and an object
to a test; anything else is the value of a comparison. -/
def ofQuery? : Json → Option Predicate
  | .obj [] => some .all
  | .obj [(key, .arr [left, right])] =>
    (ofQuery? left).bind fun p => (ofQuery? right).map fun q =>
      if key = "$and" then .and [p, q] else .or [p, q]
  | .obj [(path, .obj [(_, .bool held)])] => some (if held then .present path else .nothing)
  | .obj [(path, .obj [_, (_, .str text)])] => some (.pattern path text)
  | .obj [(path, value)] => some (.equals path value)
  | _ => none

/-- The query document of a compiled predicate is read back. -/
theorem Compiled.ofQuery?_query {p : Predicate} (h : Compiled p) : ofQuery? p.query = some p := by
  induction h with
  | nothing => rfl
  | present path => rfl
  | equals path operand =>
    rw [query, field]
    rcases operandValue_cases operand with ⟨b, h⟩ | ⟨n, h⟩ | h <;> rw [h] <;> rfl
  | pattern path text => rfl
  | and first second ihLeft ihRight | or first second ihLeft ihRight =>
    simp [query, queries, field, ofQuery?, ihLeft, ihRight]

theorem Compiled.noDoubleZero_query {p : Predicate} (h : Compiled p) : p.query.NoDoubleZero := by
  induction h with
  | equals path operand => exact ⟨noDoubleZero_operandValue operand, trivial⟩
  | nothing | present | pattern => simp [query, field, Json.NoDoubleZero, Json.NoDoubleZeroMembers]
  | and first second ihLeft ihRight | or first second ihLeft ihRight =>
    exact ⟨⟨ihLeft, ihRight, trivial⟩, trivial⟩

/-- Rendering a compiled filter loses nothing.  The query document of a filter text is read back as
the predicate that the text compiles to, so two filter texts compile to the same predicate exactly
if their query documents are equal. -/
theorem query_determines (first second : Option String) :
    ofQuery? (ofText first).query = some (ofText first)
      ∧ ((ofText first).query.same (ofText second).query = true
        ↔ ofText first = ofText second) := by
  have hread (text : Option String) : ofQuery? (ofText text).query = some (ofText text) := by
    rcases eq_all_or_compiled text with hall | hcompiled
    · rw [hall]
      rfl
    · exact hcompiled.ofQuery?_query
  have hzero : (ofText first).query.NoDoubleZero := by
    rcases eq_all_or_compiled first with hall | hcompiled
    · rw [hall]
      trivial
    · exact hcompiled.noDoubleZero_query
  refine ⟨hread first, ?_, ?_⟩
  · intro hsame
    have hquery := Json.eq_of_same hzero hsame
    have hboth := hread first
    rw [hquery, hread second] at hboth
    exact (Option.some.inj hboth).symm
  · intro heq
    rw [heq]
    exact Json.same_self _

/-- A comparison with an object would be rendered like a test. -/
example : (equals "title" (field "$exists" (.bool true))).query = (present "title").query := rfl

end Predicate

end Scim
