import Mathlib.Algebra.Order.Field.Rat
import Mathlib.Algebra.Order.GroupWithZero.Basic
import Mathlib.Order.WithBot
import Scim.Store.Order

/-!
# Numbers have values

A double stands for a rational number (`Binary64.value`), and doubles are compared by their values:
the comparison of signs and cross products says the same as that of the rational numbers
(`Binary64.compareValue_eq`).  So the two zeros are equal in the order as well, and the order of
numbers has all properties of a linear order but one: different numbers can be equal in it, such as
the zeros, or two integers that round to one double.
-/

namespace Scim

/-- Pairs that stand in the same order are compared alike. -/
theorem compare_eq_compare {α β : Type} [LinearOrder α] [LinearOrder β] {a b : α} {c d : β}
    (hlt : a < b ↔ c < d) (hgt : b < a ↔ d < c) : compare a b = compare c d := by
  rcases lt_trichotomy a b with h | rfl | h
  · rw [compare_lt_iff_lt.mpr h, compare_lt_iff_lt.mpr (hlt.mp h)]
  · have heq : c = d := le_antisymm (not_lt.mp fun h => lt_irrefl a (hgt.mpr h))
      (not_lt.mp fun h => lt_irrefl a (hlt.mpr h))
    rw [compare_eq_iff_eq.mpr rfl, compare_eq_iff_eq.mpr heq]
  · rw [compare_gt_iff_gt.mpr h, compare_gt_iff_gt.mpr (hgt.mp h)]

namespace Binary64

variable {x y : Binary64}

/-- The magnitude of a double. -/
def magnitude (x : Binary64) : ℚ :=
  x.ratio.1 / x.ratio.2

/-- The value of a double. -/
def value (x : Binary64) : ℚ :=
  if x.negative then -x.magnitude else x.magnitude

theorem ratio_snd_pos (x : Binary64) : 0 < x.ratio.2 := by
  unfold ratio
  split
  · exact Nat.one_pos
  · exact Nat.pow_pos Nat.two_pos

theorem ratio_fst_eq_zero_iff (x : Binary64) : x.ratio.1 = 0 ↔ x.isZero = true := by
  have hpower (n : Nat) : twoTo n ≠ 0 := (Nat.pow_pos Nat.two_pos).ne'
  unfold ratio isZero
  split
  · simp [hpower]
  · simp

theorem magnitude_nonneg (x : Binary64) : 0 ≤ x.magnitude :=
  div_nonneg (Nat.cast_nonneg _) (Nat.cast_nonneg _)

theorem magnitude_eq_zero_iff (x : Binary64) : x.magnitude = 0 ↔ x.isZero = true := by
  have hden : (x.ratio.2 : ℚ) ≠ 0 := Nat.cast_ne_zero.mpr x.ratio_snd_pos.ne'
  rw [magnitude, div_eq_zero_iff, or_iff_left hden, Nat.cast_eq_zero, ratio_fst_eq_zero_iff]

theorem magnitude_pos (h : x.isZero = false) : 0 < x.magnitude :=
  lt_of_le_of_ne x.magnitude_nonneg fun heq =>
    Bool.eq_false_iff.mp h ((magnitude_eq_zero_iff x).mp heq.symm)

/-- Cross products compare magnitudes. -/
theorem compareMagnitude_eq (x y : Binary64) :
    x.compareMagnitude y = compare x.magnitude y.magnitude := by
  have hlt (x y : Binary64) :
      x.ratio.1 * y.ratio.2 < y.ratio.1 * x.ratio.2 ↔ x.magnitude < y.magnitude := by
    have hx : (0 : ℚ) < x.ratio.2 := Nat.cast_pos.mpr x.ratio_snd_pos
    have hy : (0 : ℚ) < y.ratio.2 := Nat.cast_pos.mpr y.ratio_snd_pos
    rw [magnitude, magnitude, div_lt_div_iff₀ hx hy]
    exact_mod_cast Iff.rfl
  exact compare_eq_compare (hlt x y) (hlt y x)

/-- The order of doubles is that of their values. -/
theorem compareValue_eq (x y : Binary64) : x.compareValue y = compare x.value y.value := by
  have hx := x.magnitude_nonneg
  have hy := y.magnitude_nonneg
  cases hzero : x.isZero && y.isZero with
  | true =>
    -- two zeros, whatever their signs
    obtain ⟨hx, hy⟩ := Bool.and_eq_true_iff.mp hzero
    have hvalue {z : Binary64} (hz : z.isZero = true) : z.value = 0 := by
      rw [value, (magnitude_eq_zero_iff z).mpr hz, neg_zero, ite_self]
    rw [compareValue, if_pos hzero, hvalue hx, hvalue hy, compare_eq_iff_eq.mpr rfl]
  | false =>
    have hpos : 0 < x.magnitude + y.magnitude := by
      rcases Bool.and_eq_false_iff.mp hzero with h | h
      · exact add_pos_of_pos_of_nonneg (magnitude_pos h) hy
      · exact add_pos_of_nonneg_of_pos hx (magnitude_pos h)
    have hdiffer : ¬ (x.isZero && y.isZero) = true := Bool.eq_false_iff.mp hzero
    rw [compareValue, if_neg hdiffer]
    cases hsign : x.negative <;> cases hsign' : y.negative <;>
      simp only [value, hsign, hsign', if_true, Bool.false_eq_true, if_false]
    · exact compareMagnitude_eq x y
    · exact (compare_gt_iff_gt.mpr (neg_lt_iff_pos_add.mpr hpos)).symm
    · exact (compare_lt_iff_lt.mpr (neg_lt_iff_pos_add'.mpr hpos)).symm
    · rw [compareMagnitude_eq]
      exact compare_eq_compare neg_lt_neg_iff.symm neg_lt_neg_iff.symm

end Binary64

namespace Number

/-- The value of a number after rounding to a double; one without a nearest double is below all
others. -/
def value (a : Number) : WithBot ℚ :=
  match a.toDouble? with
  | some x => x.value
  | none => ⊥

/-- The order of numbers is that of their values. -/
theorem compareValue_eq (a b : Number) : a.compareValue b = compare a.value b.value := by
  unfold compareValue value
  cases a.toDouble? with
  | none =>
    cases b.toDouble? with
    | none => exact (compare_eq_iff_eq.mpr rfl).symm
    | some y => exact (compare_lt_iff_lt.mpr (WithBot.bot_lt_coe y.value)).symm
  | some x =>
    cases b.toDouble? with
    | none => exact (compare_gt_iff_gt.mpr (WithBot.bot_lt_coe x.value)).symm
    | some y =>
      exact (Binary64.compareValue_eq x y).trans
        (compare_eq_compare WithBot.coe_lt_coe.symm WithBot.coe_lt_coe.symm)

end Number

end Scim
