import Mathlib.Algebra.Order.Ring.Nat
import Mathlib.Data.Nat.Log
import Scim.Number

/-!
# Integers as doubles

The double nearest to an integer of 64 bits is an integer again (`Binary64.rounded`), and integers
have the same double exactly if they are rounded alike (`Binary64.ofInt?_eq_iff`).  Up to 53 bits
every integer is its own double.  Beyond that the last places are lost, so an integer either is
rounded away or takes in a neighbour.  The only exceptions have 54 bits: between them and their
neighbours there is a tie, which goes to the number with the even significand, so those with an odd
one still stand alone (`Binary64.StandsAlone`).
-/

namespace Scim

/-! ## Machine words -/

/-- An integer of 64 bits, one of which is the sign. -/
def IsSignedWord (n : Int) : Prop :=
  -(maxInt64 + 1 : Int) ≤ n ∧ n ≤ maxInt64

/-- An integer of 64 bits, with a sign or without one. -/
def IsWord (n : Int) : Prop :=
  -(maxInt64 + 1 : Int) ≤ n ∧ n ≤ maxWord64

instance (n : Int) : Decidable (IsSignedWord n) :=
  inferInstanceAs (Decidable (_ ∧ _))

instance (n : Int) : Decidable (IsWord n) :=
  inferInstanceAs (Decidable (_ ∧ _))

theorem IsSignedWord.isWord {n : Int} (h : IsSignedWord n) : IsWord n := by
  unfold IsSignedWord maxInt64 at h
  unfold IsWord maxInt64 maxWord64
  omega

theorem IsWord.natAbs_le {n : Int} (h : IsWord n) : n.natAbs ≤ maxWord64 := by
  unfold IsWord maxInt64 maxWord64 at *
  omega

namespace Binary64

variable {n : Nat}

/-! ## Rounding a quotient -/

/-- A quotient without a rest is not changed. -/
theorem roundHalfEven_mul {den : Nat} (h : 0 < den) (n : Nat) :
    roundHalfEven (n * den) den = n := by
  have hrest : 2 * (n * den % den) < den := by rw [Nat.mul_mod_left]; exact h
  rw [roundHalfEven, if_pos hrest, Nat.mul_div_cancel _ h]

/-- One more than a multiple is rounded down, unless it is a tie beside an odd number. -/
theorem roundHalfEven_mul_succ {den : Nat} (h : 4 ≤ den ∨ den = 2 ∧ n % 2 = 0) :
    roundHalfEven (n * den + 1) den = n := by
  have hfloor : (n * den + 1) / den = n := by
    rw [Nat.mul_comm, Nat.mul_add_div (by omega), Nat.div_eq_of_lt (by omega), Nat.add_zero]
  have hrest : (n * den + 1) % den = 1 := by
    rw [Nat.mul_comm, Nat.mul_add_mod, Nat.mod_eq_of_lt (by omega)]
  rw [roundHalfEven, hfloor, hrest]
  rcases h with h | ⟨rfl, heven⟩
  · rw [if_pos (by omega)]
  · rw [if_neg (by omega), if_neg (by omega), heven, Nat.add_zero]

theorem div_le_roundHalfEven (num den : Nat) : num / den ≤ roundHalfEven num den := by
  unfold roundHalfEven
  dsimp only
  split
  · omega
  · split <;> omega

theorem roundHalfEven_le (num den : Nat) : roundHalfEven num den ≤ num / den + 1 := by
  unfold roundHalfEven
  dsimp only
  split
  · omega
  · split <;> omega

/-! ## Rounding a natural number -/

/-- The nearest number of 53 significant bits, of two the one with the even significand. -/
def roundedNatural (n : Nat) : Nat :=
  roundHalfEven n (2 ^ (n.log2 - 52)) * 2 ^ (n.log2 - 52)

theorem roundedNatural_of_dvd (h : 2 ^ (n.log2 - 52) ∣ n) : roundedNatural n = n := by
  obtain ⟨m, hm⟩ := h
  have hround := roundHalfEven_mul (Nat.two_pow_pos (n.log2 - 52)) m
  rw [Nat.mul_comm, ← hm] at hround
  rw [roundedNatural, hround, Nat.mul_comm, ← hm]

theorem roundedNatural_of_lt (h : n < 2 ^ 53) : roundedNatural n = n := by
  have hlog : n.log2 - 52 = 0 := by
    rcases Nat.eq_zero_or_pos n with rfl | hpos
    · rfl
    · have := (Nat.log2_lt (Nat.ne_of_gt hpos)).mpr h
      omega
  apply roundedNatural_of_dvd
  rw [hlog, Nat.pow_zero]
  exact Nat.one_dvd n

theorem two_pow_log2_eq (h : 2 ^ 52 ≤ n) : 2 ^ n.log2 = 2 ^ 52 * 2 ^ (n.log2 - 52) := by
  have hlog : 52 ≤ n.log2 := (Nat.le_log2 (by omega)).mpr h
  rw [← Nat.pow_add, Nat.add_sub_cancel' hlog]

/-- The significand of a number of at least 53 bits may grow by one bit, and only to a power. -/
theorem roundHalfEven_bounds (h : 2 ^ 52 ≤ n) :
    leadingBit ≤ roundHalfEven n (2 ^ (n.log2 - 52))
      ∧ roundHalfEven n (2 ^ (n.log2 - 52)) ≤ 2 * leadingBit := by
  have hlow : 2 ^ 52 * 2 ^ (n.log2 - 52) ≤ n := two_pow_log2_eq h ▸ Nat.log2_self_le (by omega)
  have hhigh : n < 2 ^ 53 * 2 ^ (n.log2 - 52) := by
    have hlt := Nat.lt_log2_self (n := n)
    rw [Nat.pow_succ, two_pow_log2_eq h] at hlt
    omega
  have hfloor : 2 ^ 52 ≤ n / 2 ^ (n.log2 - 52) :=
    (Nat.le_div_iff_mul_le (Nat.two_pow_pos _)).mpr hlow
  have hfloor' : n / 2 ^ (n.log2 - 52) < 2 ^ 53 :=
    (Nat.div_lt_iff_lt_mul (Nat.two_pow_pos _)).mpr hhigh
  have hround := div_le_roundHalfEven n (2 ^ (n.log2 - 52))
  have hround' := roundHalfEven_le n (2 ^ (n.log2 - 52))
  unfold leadingBit
  omega

/-- Rounding does not cross a power of two. -/
theorem roundedNatural_bounds (hne : n ≠ 0) :
    2 ^ n.log2 ≤ roundedNatural n ∧ roundedNatural n ≤ 2 ^ (n.log2 + 1) := by
  rcases Nat.lt_or_ge n (2 ^ 53) with hsmall | hlarge
  · rw [roundedNatural_of_lt hsmall]
    exact ⟨Nat.log2_self_le hne, Nat.le_of_lt Nat.lt_log2_self⟩
  · have hlarge' : 2 ^ 52 ≤ n := by omega
    obtain ⟨hlow, hhigh⟩ := roundHalfEven_bounds hlarge'
    rw [Nat.pow_succ, two_pow_log2_eq hlarge', Nat.mul_right_comm]
    exact ⟨Nat.mul_le_mul_right _ hlow, Nat.mul_le_mul_right _ hhigh⟩

theorem two_pow_le_roundedNatural {k : Nat} (h : 2 ^ k ≤ n) : 2 ^ k ≤ roundedNatural n := by
  have hne : n ≠ 0 := by
    have := Nat.two_pow_pos k
    omega
  have hlog : k ≤ n.log2 := (Nat.le_log2 hne).mpr h
  exact Nat.le_trans (Nat.pow_le_pow_right Nat.two_pos hlog) (roundedNatural_bounds hne).1

theorem roundedNatural_le_two_pow {k : Nat} (h : n < 2 ^ k) : roundedNatural n ≤ 2 ^ k := by
  by_cases hne : n = 0
  · subst hne
    exact Nat.zero_le _
  · have hlog : n.log2 < k := (Nat.log2_lt hne).mpr h
    exact Nat.le_trans (roundedNatural_bounds hne).2 (Nat.pow_le_pow_right Nat.two_pos hlog)

theorem log2_mul_two_pow {m : Nat} (hlow : leadingBit ≤ m) (hhigh : m < 2 * leadingBit) (k : Nat) :
    (m * 2 ^ k).log2 = 52 + k := by
  have hpos := Nat.two_pow_pos k
  have hne : m ≠ 0 := by
    unfold leadingBit at hlow
    omega
  rw [Nat.log2_eq_iff (Nat.mul_ne_zero hne (by omega))]
  constructor
  · rw [Nat.pow_add]
    exact Nat.mul_le_mul_right _ hlow
  · rw [Nat.add_right_comm, Nat.pow_add]
    exact Nat.mul_lt_mul_of_pos_right hhigh hpos

theorem binaryOrder_one (h : n ≠ 0) : binaryOrder n 1 = n.log2 := by
  have hone : Nat.log2 1 = 0 := by decide
  have hreached : twoTo n.log2 ≤ n := Nat.log2_self_le h
  simp [binaryOrder, hone, hreached]

theorem ofRatio?_of_two_pow_le (negative : Bool) (h : 2 ^ 52 ≤ n) :
    ofRatio? negative n 1
      = if roundHalfEven n (2 ^ (n.log2 - 52)) = 2 * leadingBit
        then ofParts? negative leadingBit ((n.log2 - 52 : Nat) + 1)
        else ofParts? negative (roundHalfEven n (2 ^ (n.log2 - 52))) (n.log2 - 52 : Nat) := by
  have hne : n ≠ 0 := by omega
  have hlog : 52 ≤ n.log2 := (Nat.le_log2 hne).mpr h
  have hexponent : max (binaryOrder n 1 - 52) (-1074) = ((n.log2 - 52 : Nat) : Int) := by
    rw [binaryOrder_one hne]
    omega
  have hden : 1 * twoTo (n.log2 - 52) = 2 ^ (n.log2 - 52) := Nat.one_mul _
  rw [ofRatio?, if_neg hne, hexponent]
  simp only [Int.natCast_nonneg, if_true, Int.toNat_natCast, hden]

/-- The parts of the double of a number of at least 53 bits. -/
theorem exists_scaled (h : 2 ^ 52 ≤ n) :
    ∃ m k : Nat, leadingBit ≤ m ∧ m < 2 * leadingBit ∧ roundedNatural n = m * 2 ^ k
      ∧ ∀ negative, ofRatio? negative n 1 = ofParts? negative m k := by
  obtain ⟨hlow, hhigh⟩ := roundHalfEven_bounds h
  by_cases hgrown : roundHalfEven n (2 ^ (n.log2 - 52)) = 2 * leadingBit
  · refine ⟨leadingBit, n.log2 - 52 + 1, Nat.le_refl _, by decide, ?_, ?_⟩
    · rw [roundedNatural, hgrown, Nat.mul_comm 2, Nat.mul_assoc, Nat.pow_succ,
        Nat.mul_comm 2 (2 ^ _)]
    · intro negative
      rw [ofRatio?_of_two_pow_le negative h, if_pos hgrown]
      rfl
  · refine ⟨roundHalfEven n (2 ^ (n.log2 - 52)), n.log2 - 52, hlow,
      Nat.lt_of_le_of_ne hhigh hgrown, rfl, ?_⟩
    intro negative
    rw [ofRatio?_of_two_pow_le negative h, if_neg hgrown]

/-- A rounded number is its own rounding. -/
theorem roundedNatural_roundedNatural (n : Nat) :
    roundedNatural (roundedNatural n) = roundedNatural n := by
  rcases Nat.lt_or_ge n (2 ^ 53) with hsmall | hlarge
  · rw [roundedNatural_of_lt hsmall, roundedNatural_of_lt hsmall]
  · obtain ⟨m, k, hlow, hhigh, hrounded, -⟩ := exists_scaled (n := n) (by omega)
    apply roundedNatural_of_dvd
    rw [hrounded, log2_mul_two_pow hlow hhigh, Nat.add_sub_cancel_left]
    exact Nat.dvd_mul_left _ _

/-- A number has the double of its rounding. -/
theorem ofRatio?_roundedNatural (negative : Bool) (n : Nat) :
    ofRatio? negative (roundedNatural n) 1 = ofRatio? negative n 1 := by
  rcases Nat.lt_or_ge n (2 ^ 53) with hsmall | hlarge
  · rw [roundedNatural_of_lt hsmall]
  · obtain ⟨m, k, hlow, hhigh, hrounded, hparts⟩ := exists_scaled (n := n) (by omega)
    have hlarge' : 2 ^ 52 ≤ m * 2 ^ k :=
      Nat.le_trans hlow (Nat.le_mul_of_pos_right m (Nat.two_pow_pos k))
    have hkept : roundHalfEven (m * 2 ^ k) (2 ^ k) = m := roundHalfEven_mul (Nat.two_pow_pos k) m
    rw [hrounded, hparts, ofRatio?_of_two_pow_le negative hlarge', log2_mul_two_pow hlow hhigh,
      Nat.add_sub_cancel_left, hkept, if_neg (Nat.ne_of_lt hhigh)]

/-! ## Values of doubles -/

theorem toInt?_of_isZero {x : Binary64} (h : x.isZero = true) : x.toInt? = some 0 := by
  have hnum : x.ratio.1 = 0 := by
    unfold ratio
    split <;> simp [beq_iff_eq.mp h]
  unfold toInt?
  simp [hnum]

/-- Moved up to 53 bits, a smaller number is the significand of a double. -/
theorem isCanonical_mul_two_pow {k : Nat} (hne : n ≠ 0) (hk : n.log2 + (k + 1) = 52) :
    IsCanonical (n * 2 ^ (k + 1)) (-(k + 1 : Nat)) := by
  have hlow : leadingBit ≤ n * 2 ^ (k + 1) :=
    calc 2 ^ 52 = 2 ^ n.log2 * 2 ^ (k + 1) := by rw [← Nat.pow_add, hk]
      _ ≤ n * 2 ^ (k + 1) := Nat.mul_le_mul_right _ (Nat.log2_self_le hne)
  have hhigh : n * 2 ^ (k + 1) < 2 * leadingBit :=
    calc n * 2 ^ (k + 1) < 2 ^ (n.log2 + 1) * 2 ^ (k + 1) :=
          Nat.mul_lt_mul_of_pos_right Nat.lt_log2_self (Nat.two_pow_pos (k + 1))
      _ = 2 ^ 53 := by rw [← Nat.pow_add, Nat.add_right_comm, hk]
  exact ⟨hhigh, by omega, by omega, .inl hlow⟩

theorem toInt?_of_mul_two_pow (negative : Bool) {k : Nat}
    (h : IsCanonical (n * 2 ^ (k + 1)) (-(k + 1 : Nat))) :
    toInt? ⟨negative, n * 2 ^ (k + 1), -(k + 1 : Nat), h⟩
      = some (if negative then -(n : Int) else n) := by
  have hnegative : ¬ (0 : Int) ≤ -((k + 1 : Nat) : Int) := by omega
  have hrest : n * 2 ^ (k + 1) % twoTo (k + 1) = 0 := Nat.mul_mod_left n _
  have hexact : n * 2 ^ (k + 1) / twoTo (k + 1) = n :=
    Nat.mul_div_cancel n (Nat.two_pow_pos (k + 1))
  simp only [toInt?, ratio, if_neg hnegative, Int.neg_neg, Int.toNat_natCast, hrest, if_true,
    hexact]

/-- A number of less than 53 bits is a double as it is. -/
theorem exists_ofRatio?_of_lt (negative : Bool) (hne : n ≠ 0) (h : n < 2 ^ 52) :
    ∃ x, ofRatio? negative n 1 = some x
      ∧ x.toInt? = some (if negative then -(n : Int) else n) ∧ x.isZero = false := by
  have hlog : n.log2 < 52 := (Nat.log2_lt hne).mpr h
  obtain ⟨k, hk⟩ : ∃ k, n.log2 + (k + 1) = 52 := ⟨51 - n.log2, by omega⟩
  have hcanonical := isCanonical_mul_two_pow hne hk
  have hexponent : max (binaryOrder n 1 - 52) (-1074) = -((k + 1 : Nat) : Int) := by
    rw [binaryOrder_one hne]
    omega
  have hnegative : ¬ (0 : Int) ≤ -((k + 1 : Nat) : Int) := by omega
  have hround : roundHalfEven (n * twoTo (k + 1)) 1 = n * 2 ^ (k + 1) := by
    have := roundHalfEven_mul Nat.one_pos (n * 2 ^ (k + 1))
    rwa [Nat.mul_one] at this
  refine ⟨⟨negative, n * 2 ^ (k + 1), -(k + 1 : Nat), hcanonical⟩, ?_,
    toInt?_of_mul_two_pow negative hcanonical, ?_⟩
  · rw [ofRatio?, if_neg hne, hexponent]
    simp only [if_neg hnegative, Int.neg_neg, Int.toNat_natCast, hround,
      if_neg (Nat.ne_of_lt hcanonical.1)]
    rw [ofParts?, dif_pos hcanonical]
  · exact beq_false_of_ne (Nat.mul_ne_zero hne (Nat.two_pow_pos (k + 1)).ne')

/-- The value of the double of a number of up to 64 bits is its rounding. -/
theorem exists_ofRatio?_one (negative : Bool) (h : n ≤ maxWord64) :
    ∃ x, ofRatio? negative n 1 = some x
      ∧ x.toInt? = some (if negative then -(roundedNatural n : Int) else roundedNatural n)
      ∧ (x.isZero = true → n = 0) := by
  rcases Nat.lt_or_ge n (2 ^ 52) with hsmall | hlarge
  · rw [roundedNatural_of_lt (by omega)]
    by_cases hne : n = 0
    · subst hne
      exact ⟨zero negative, rfl, by cases negative <;> exact toInt?_of_isZero rfl, fun _ => rfl⟩
    · obtain ⟨x, hx, hvalue, hzero⟩ := exists_ofRatio?_of_lt negative hne hsmall
      exact ⟨x, hx, hvalue, by simp [hzero]⟩
  · obtain ⟨m, k, hlow, hhigh, hrounded, hparts⟩ := exists_scaled hlarge
    have hk : 52 + k ≤ 64 := by
      have hbound : n < 2 ^ 64 := Nat.lt_of_le_of_lt h (by decide)
      rw [← Nat.pow_le_pow_iff_right (a := 2) (by decide)]
      calc 2 ^ (52 + k) = leadingBit * 2 ^ k := Nat.pow_add 2 52 k
        _ ≤ m * 2 ^ k := Nat.mul_le_mul_right _ hlow
        _ ≤ 2 ^ 64 := hrounded ▸ roundedNatural_le_two_pow hbound
    have hcanonical : IsCanonical m k := ⟨hhigh, by omega, by omega, .inl hlow⟩
    refine ⟨⟨negative, m, k, hcanonical⟩, ?_, ?_, ?_⟩
    · rw [hparts, ofParts?, dif_pos hcanonical]
    · simp [toInt?, ratio, hrounded, twoTo, Nat.mod_one]
    · intro hzero
      have hm : m = 0 := beq_iff_eq.mp hzero
      rw [hm] at hlow
      exact absurd hlow (by decide)

/-! ## Integers -/

/-- The integer of 53 significant bits nearest to an integer. -/
def rounded (n : Int) : Int :=
  if n < 0 then -(roundedNatural n.natAbs : Int) else roundedNatural n.natAbs

theorem natAbs_rounded (n : Int) : (rounded n).natAbs = roundedNatural n.natAbs := by
  unfold rounded
  split <;> omega

theorem rounded_neg_iff (n : Int) : rounded n < 0 ↔ n < 0 := by
  unfold rounded
  split
  · next hneg =>
    have := two_pow_le_roundedNatural (n := n.natAbs) (k := 0) (by omega)
    omega
  · omega

theorem rounded_eq_iff {m n : Int} :
    rounded m = rounded n
      ↔ roundedNatural m.natAbs = roundedNatural n.natAbs ∧ (m < 0 ↔ n < 0) := by
  rw [← natAbs_rounded m, ← natAbs_rounded n, ← rounded_neg_iff m, ← rounded_neg_iff n]
  omega

theorem rounded_rounded (n : Int) : rounded (rounded n) = rounded n := by
  rw [rounded_eq_iff, natAbs_rounded, roundedNatural_roundedNatural, rounded_neg_iff]
  exact ⟨rfl, Iff.rfl⟩

/-- The value of the double of an integer is its rounding. -/
theorem exists_ofInt? {n : Int} (h : IsWord n) :
    ∃ x, ofInt? n = some x ∧ x.toInt? = some (rounded n) ∧ (x.isZero = true → n = 0) := by
  obtain ⟨x, hx, hvalue, hzero⟩ := exists_ofRatio?_one (n < 0) h.natAbs_le
  refine ⟨x, hx, ?_, fun h => Int.natAbs_eq_zero.mp (hzero h)⟩
  simpa only [decide_eq_true_eq, rounded] using hvalue

theorem ofInt?_rounded (n : Int) : ofInt? (rounded n) = ofInt? n := by
  rw [ofInt?, ofInt?, natAbs_rounded, ofRatio?_roundedNatural]
  simp only [rounded_neg_iff]

/-- Integers have the same double if they are rounded alike. -/
theorem ofInt?_eq_iff {m n : Int} (hm : IsWord m) (hn : IsWord n) :
    ofInt? m = ofInt? n ↔ rounded m = rounded n := by
  constructor
  · intro h
    obtain ⟨x, hx, hvalue, -⟩ := exists_ofInt? hm
    obtain ⟨y, hy, hvalue', -⟩ := exists_ofInt? hn
    obtain rfl : x = y := Option.some.inj (by rw [← hx, ← hy, h])
    exact Option.some.inj (hvalue.symm.trans hvalue')
  · intro h
    rw [← ofInt?_rounded m, h, ofInt?_rounded]

/-! ## Integers that no other is rounded to -/

/-- A rounded number of more than 53 bits whose last place is even is what its successor is rounded
to. -/
theorem roundedNatural_succ (hn : roundedNatural n = n) (h : 2 ^ 54 ≤ n ∨ 2 ^ 53 ≤ n ∧ n % 4 = 0) :
    roundedNatural (n + 1) = n := by
  have hne : n ≠ 0 := by omega
  have hlog : 53 ≤ n.log2 := (Nat.le_log2 hne).mpr (by omega)
  obtain ⟨k, hk⟩ : ∃ k, n.log2 = 53 + k := ⟨n.log2 - 53, by omega⟩
  have hplace : 53 + k - 52 = k + 1 := by omega
  obtain ⟨m, hm⟩ : ∃ m, m * 2 ^ (k + 1) = n := by
    rw [roundedNatural, hk, hplace] at hn
    exact ⟨_, hn⟩
  have hlow : 2 ^ (53 + k) ≤ n := hk ▸ Nat.log2_self_le hne
  have hhigh : n < 2 ^ (53 + k + 1) := hk ▸ Nat.lt_log2_self
  have hlog' : (n + 1).log2 = 53 + k := by
    rw [Nat.log2_eq_iff (Nat.succ_ne_zero n)]
    have heven : m * 2 ^ (k + 1) = 2 * (m * 2 ^ k) := by
      rw [Nat.pow_succ, Nat.mul_comm 2, Nat.mul_assoc]
    rw [Nat.pow_succ] at hhigh ⊢
    omega
  have hround : roundHalfEven (n + 1) (2 ^ (k + 1)) = m := by
    rw [← hm]
    apply roundHalfEven_mul_succ
    cases k with
    | zero => exact .inr ⟨rfl, by omega⟩
    | succ j =>
      have hpos := Nat.two_pow_pos j
      rw [Nat.pow_succ, Nat.pow_succ]
      omega
  rw [roundedNatural, hlog', hplace, hround, hm]

/-- Nothing else is rounded to a number of 53 bits, or to one of 54 bits whose last place is odd. -/
theorem eq_of_roundedNatural_eq {m : Nat} (h : roundedNatural m = roundedNatural n)
    (hn : n < 2 ^ 53 ∨ n < 2 ^ 54 ∧ n % 4 = 2) : m = n := by
  have hlog : ∀ a, 2 ^ 53 ≤ a → a < 2 ^ 54 → a.log2 - 52 = 1 := by
    intro a hlow hhigh
    have : a.log2 = 53 := (Nat.log2_eq_iff (by omega)).mpr ⟨hlow, hhigh⟩
    omega
  have hself : roundedNatural n = n := by
    rcases Nat.lt_or_ge n (2 ^ 53) with hsmall | hlarge
    · exact roundedNatural_of_lt hsmall
    · apply roundedNatural_of_dvd
      rw [hlog n hlarge (by omega)]
      omega
  rw [hself] at h
  rcases Nat.lt_or_ge m (2 ^ 53) with hsmall | hlarge
  · rw [← h, roundedNatural_of_lt hsmall]
  · have hlarge' := two_pow_le_roundedNatural hlarge
    rcases Nat.lt_or_ge m (2 ^ 54) with hbits | hbits
    · -- the last place has the value two, and a tie goes to a multiple of four
      rw [roundedNatural, hlog m hlarge hbits] at h
      unfold roundHalfEven at h
      dsimp only at h
      split at h
      · omega
      · split at h <;> omega
    · have := two_pow_le_roundedNatural hbits
      omega

theorem even_of_roundedNatural_eq (hn : roundedNatural n = n) (h : 2 ^ 53 ≤ n) : n % 2 = 0 := by
  have hlog : 53 ≤ n.log2 := (Nat.le_log2 (by omega)).mpr h
  obtain ⟨k, hk⟩ : ∃ k, n.log2 - 52 = k + 1 := ⟨n.log2 - 53, by omega⟩
  rw [roundedNatural, hk, Nat.pow_succ, ← Nat.mul_assoc] at hn
  omega

/-- The integers whose double no other integer has: those of 53 bits, and among those of 54 bits the
ones whose last place is odd. -/
def StandsAlone (n : Int) : Prop :=
  n.natAbs < 2 ^ 53 ∨ n.natAbs < 2 ^ 54 ∧ n % 4 = 2

instance (n : Int) : Decidable (StandsAlone n) :=
  inferInstanceAs (Decidable (_ ∨ _))

/-- The double of such an integer is that of no other one. -/
theorem StandsAlone.eq_of_ofInt?_eq {m n : Int} (halone : StandsAlone n) (hm : IsWord m)
    (hn : IsWord n) (h : ofInt? m = ofInt? n) : m = n := by
  obtain ⟨habs, hsign⟩ := rounded_eq_iff.mp ((ofInt?_eq_iff hm hn).mp h)
  have hsame := eq_of_roundedNatural_eq habs (by unfold StandsAlone at halone; omega)
  omega

/-- Every other integer is rounded itself, or another one is rounded to it. -/
theorem exists_rounded_eq {n : Int} (hn : IsSignedWord n) (hcrowd : ¬ StandsAlone n) :
    ∃ m, IsWord m ∧ m ≠ n ∧ rounded m = rounded n := by
  by_cases hleast : n = -(maxInt64 + 1 : Int)
  · -- nothing of 64 bits is below the least integer, so its partner stands above it
    subst hleast
    exact ⟨-maxInt64, by decide, by decide, by decide +kernel⟩
  have hbound : n.natAbs < 2 ^ 63 := by
    unfold IsSignedWord maxInt64 at *
    omega
  have hword : ∀ m : Int, m.natAbs ≤ 2 ^ 63 → IsWord m := by
    intro m hm
    unfold IsWord maxInt64 maxWord64
    omega
  unfold StandsAlone at hcrowd
  by_cases hself : rounded n = n
  · have hnatural : roundedNatural n.natAbs = n.natAbs := by rw [← natAbs_rounded, hself]
    have heven := even_of_roundedNatural_eq hnatural (by omega)
    have hnext := roundedNatural_succ hnatural (by omega)
    obtain ⟨m, habs, hsign⟩ : ∃ m : Int, m.natAbs = n.natAbs + 1 ∧ (m < 0 ↔ n < 0) := by
      rcases Int.lt_or_le n 0 with hneg | hpos
      · exact ⟨n - 1, by omega, by omega⟩
      · exact ⟨n + 1, by omega, by omega⟩
    refine ⟨m, hword m (by omega), by rintro rfl; omega, rounded_eq_iff.mpr ⟨?_, hsign⟩⟩
    rw [habs, hnext, hnatural]
  · refine ⟨rounded n, hword _ ?_, hself, rounded_rounded n⟩
    rw [natAbs_rounded]
    exact roundedNatural_le_two_pow hbound

/-- Every other integer shares its double. -/
theorem exists_ofInt?_eq {n : Int} (hn : IsSignedWord n) (hcrowd : ¬ StandsAlone n) :
    ∃ m, IsWord m ∧ m ≠ n ∧ ofInt? m = ofInt? n := by
  obtain ⟨m, hm, hne, hround⟩ := exists_rounded_eq hn hcrowd
  exact ⟨m, hm, hne, (ofInt?_eq_iff hm hn.isWord).mpr hround⟩

end Binary64

/-! ## Numbers -/

/-- An integer has the same value as a number with the double of an integer if their doubles are
the same. -/
theorem Number.sameValue_int_iff {m n : Int} (hm : IsWord m) (hn : IsWord n) {a : Number}
    (ha : a.toDouble? = Binary64.ofInt? n) :
    (Number.int m).sameValue a = true ↔ Binary64.ofInt? m = Binary64.ofInt? n := by
  obtain ⟨x, hx, -, hzero⟩ := Binary64.exists_ofInt? hm
  obtain ⟨y, hy, -, hzero'⟩ := Binary64.exists_ofInt? hn
  have hvalues : (Number.int m).sameValue a = x.sameValue y := by
    have hx' : (Number.int m).toDouble? = some x := hx
    rw [sameValue, hx', ha.trans hy]
  rw [hvalues, hx, hy, Option.some.injEq]
  constructor
  · intro hsame
    rcases Bool.or_eq_true_iff.mp hsame with hzeros | heq
    · -- there is one zero among the integers
      obtain ⟨hxzero, hyzero⟩ := Bool.and_eq_true_iff.mp hzeros
      rw [hzero hxzero, ← hzero' hyzero, hy] at hx
      exact (Option.some.inj hx).symm
    · exact beq_iff_eq.mp heq
  · rintro rfl
    simp [Binary64.sameValue]

end Scim
