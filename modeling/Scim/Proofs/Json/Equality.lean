import Scim.Filter.Match

/-!
# Equality of values is an equivalence

Values are compared structurally, and under a collation with strings and numbers compared in ways of
their own.  Every value is structurally equal to itself.  Neither comparison depends on the order of
its sides, and values that are equal to the same value are equal to each other.
-/

namespace Scim

theorem Number.same_comm (a b : Number) : a.same b = b.same a := by
  cases a <;> cases b <;>
    simp only [same, Binary64.sameValue, Bool.beq_comm, Bool.and_comm]

namespace Json

mutual

theorem same_self : ∀ a : Json, a.same a = true
  | .null => rfl
  | .bool a => beq_self_eq_true a
  | .num a => Number.same_self a
  | .str a => beq_self_eq_true a
  | .arr xs => sameItems_self xs
  | .obj xs => sameMembers_self xs

theorem sameItems_self : ∀ xs : List Json, sameItems xs xs = true
  | [] => rfl
  | x :: xs => by rw [sameItems, same_self x, sameItems_self xs, Bool.and_self]

theorem sameMembers_self : ∀ xs : List (String × Json), sameMembers xs xs = true
  | [] => rfl
  | (k, x) :: xs => by
    rw [sameMembers, beq_self_eq_true, same_self x, sameMembers_self xs, Bool.and_self,
      Bool.and_self]

end

mutual

theorem same_comm : ∀ a b : Json, a.same b = b.same a
  | .null, b => by cases b <;> rfl
  | .bool a, b => by
    cases b <;> simp only [same]
    exact Bool.beq_comm
  | .num a, b => by
    cases b <;> simp only [same]
    exact Number.same_comm a _
  | .str a, b => by
    cases b <;> simp only [same]
    exact Bool.beq_comm
  | .arr xs, b => by
    cases b <;> simp only [same]
    exact sameItems_comm xs _
  | .obj xs, b => by
    cases b <;> simp only [same]
    exact sameMembers_comm xs _

theorem sameItems_comm : ∀ xs ys : List Json, sameItems xs ys = sameItems ys xs
  | [], ys => by cases ys <;> rfl
  | x :: xs, [] => rfl
  | x :: xs, y :: ys => by simp only [sameItems, same_comm x y, sameItems_comm xs ys]

theorem sameMembers_comm : ∀ xs ys : List (String × Json), sameMembers xs ys = sameMembers ys xs
  | [], ys => by cases ys <;> rfl
  | (k, x) :: xs, [] => rfl
  | (k, x) :: xs, (l, y) :: ys => by
    have hkey : (k == l) = (l == k) := Bool.beq_comm
    simp only [sameMembers, hkey, same_comm x y, sameMembers_comm xs ys]

end

end Json

namespace Collation

theorem sameText_comm (collation : Collation) (a b : String) :
    collation.sameText a b = collation.sameText b a := by
  cases collation <;> exact Bool.beq_comm

theorem same_comm (collation : Collation) (a b : Json) :
    collation.same a b = collation.same b a := by
  cases a <;> cases b <;> simp only [same, Json.same_comm, Number.sameValue_comm, sameText_comm]

end Collation

/-! ## Transitivity -/

namespace Binary64

theorem sameValue_trans {x y z : Binary64} (h : x.sameValue y = true) (h' : y.sameValue z = true) :
    x.sameValue z = true := by
  simp only [sameValue, Bool.or_eq_true, Bool.and_eq_true, beq_iff_eq] at h h' ⊢
  rcases h with ⟨hx, hy⟩ | rfl
  · rcases h' with ⟨-, hz⟩ | rfl
    · exact Or.inl ⟨hx, hz⟩
    · exact Or.inl ⟨hx, hy⟩
  · exact h'

/-- Zero is equal to zeros only. -/
theorem isZero_eq_of_sameValue {x y : Binary64} (h : x.sameValue y = true) :
    x.isZero = y.isZero := by
  simp only [sameValue, Bool.or_eq_true, Bool.and_eq_true, beq_iff_eq] at h
  rcases h with ⟨hx, hy⟩ | rfl
  · rw [hx, hy]
  · rfl

end Binary64

namespace Number

variable {a b c : Number}

theorem same_trans (h : a.same b = true) (h' : b.same c = true) : a.same c = true := by
  cases a <;> cases b <;> simp only [same, Bool.false_eq_true] at h <;>
    cases c <;> simp only [same, Bool.false_eq_true] at h' ⊢
  · exact beq_iff_eq.mpr ((beq_iff_eq.mp h).trans (beq_iff_eq.mp h'))
  · exact Binary64.sameValue_trans h h'

theorem sameValue_trans (h : a.sameValue b = true) (h' : b.sameValue c = true) :
    a.sameValue c = true := by
  unfold sameValue at h h' ⊢
  cases ha : a.toDouble? <;> cases hb : b.toDouble? <;> cases hc : c.toDouble? <;>
    simp only [ha, hb, hc, Bool.false_eq_true] at h h' ⊢
  exact Binary64.sameValue_trans h h'

theorem isZero_eq_of_sameValue (h : a.sameValue b = true) : a.isZero = b.isZero := by
  unfold sameValue at h
  unfold isZero
  cases ha : a.toDouble? <;> cases hb : b.toDouble? <;>
    simp only [ha, hb, Bool.false_eq_true] at h ⊢
  simpa using Binary64.isZero_eq_of_sameValue h

end Number

namespace Json

mutual

theorem same_trans : ∀ {a b c : Json}, a.same b = true → b.same c = true → a.same c = true
  | .null, b, c, h, h' => by
    cases b <;> simp only [same, Bool.false_eq_true] at h
    exact h'
  | .bool a, b, c, h, h' => by
    cases b <;> simp only [same, Bool.false_eq_true] at h
    rw [beq_iff_eq.mp h]
    exact h'
  | .num a, b, c, h, h' => by
    cases b <;> simp only [same, Bool.false_eq_true] at h
    cases c <;> simp only [same, Bool.false_eq_true] at h'
    exact Number.same_trans h h'
  | .str a, b, c, h, h' => by
    cases b <;> simp only [same, Bool.false_eq_true] at h
    rw [beq_iff_eq.mp h]
    exact h'
  | .arr xs, b, c, h, h' => by
    cases b <;> simp only [same, Bool.false_eq_true] at h
    cases c <;> simp only [same, Bool.false_eq_true] at h'
    exact sameItems_trans h h'
  | .obj xs, b, c, h, h' => by
    cases b <;> simp only [same, Bool.false_eq_true] at h
    cases c <;> simp only [same, Bool.false_eq_true] at h'
    exact sameMembers_trans h h'

theorem sameItems_trans : ∀ {xs ys zs : List Json},
    sameItems xs ys = true → sameItems ys zs = true → sameItems xs zs = true
  | [], ys, zs, h, h' => by
    cases ys <;> simp only [sameItems, Bool.false_eq_true] at h
    exact h'
  | x :: xs, ys, zs, h, h' => by
    cases ys <;> simp only [sameItems, Bool.false_eq_true, Bool.and_eq_true] at h
    cases zs <;> simp only [sameItems, Bool.false_eq_true, Bool.and_eq_true] at h' ⊢
    exact ⟨same_trans h.1 h'.1, sameItems_trans h.2 h'.2⟩

theorem sameMembers_trans : ∀ {xs ys zs : List (String × Json)},
    sameMembers xs ys = true → sameMembers ys zs = true → sameMembers xs zs = true
  | [], ys, zs, h, h' => by
    cases ys <;> simp only [sameMembers, Bool.false_eq_true] at h
    exact h'
  | (k, x) :: xs, ys, zs, h, h' => by
    cases ys <;> simp only [sameMembers, Bool.false_eq_true, Bool.and_eq_true, beq_iff_eq] at h
    cases zs <;> simp only [sameMembers, Bool.false_eq_true, Bool.and_eq_true, beq_iff_eq] at h' ⊢
    exact ⟨⟨h.1.1.trans h'.1.1, same_trans h.1.2 h'.1.2⟩, sameMembers_trans h.2 h'.2⟩

end

end Json

namespace Collation

theorem sameText_trans {collation : Collation} {a b c : String}
    (h : collation.sameText a b = true) (h' : collation.sameText b c = true) :
    collation.sameText a c = true := by
  cases collation
  · exact beq_iff_eq.mpr ((beq_iff_eq.mp h).trans (beq_iff_eq.mp h'))
  · exact beq_iff_eq.mpr ((beq_iff_eq.mp h).trans (beq_iff_eq.mp h'))

theorem same_trans {collation : Collation} {a b c : Json} (h : collation.same a b = true)
    (h' : collation.same b c = true) : collation.same a c = true := by
  cases a with
  | num a =>
    cases b <;> simp only [same, Json.same, Bool.false_eq_true] at h
    cases c <;> simp only [same, Json.same, Bool.false_eq_true] at h'
    exact Number.sameValue_trans h h'
  | str a =>
    cases b <;> simp only [same, Json.same, Bool.false_eq_true] at h
    cases c <;> simp only [same, Json.same, Bool.false_eq_true] at h'
    exact sameText_trans h h'
  | null =>
    cases b <;> simp only [same, Json.same, Bool.false_eq_true] at h
    exact h'
  | bool a =>
    cases b <;> simp only [same, Json.same, Bool.false_eq_true] at h
    rw [beq_iff_eq.mp h]
    exact h'
  | arr xs =>
    cases b <;> simp only [same, Json.same, Bool.false_eq_true] at h
    cases c <;> simp only [same, Json.same, Bool.false_eq_true] at h'
    exact Json.sameItems_trans h h'
  | obj xs =>
    cases b <;> simp only [same, Json.same, Bool.false_eq_true] at h
    cases c <;> simp only [same, Json.same, Bool.false_eq_true] at h'
    exact Json.sameMembers_trans h h'

end Collation

end Scim
