import Mathlib.Logic.Function.Basic
import Scim.Uuid

/-!
# Written identifiers are read back

An identifier is written in five groups of digits with hyphens between them.  Reading takes the
hyphens at four fixed places out again, so what the groups hold never matters, only how long they
are.  It follows that no two identifiers are written alike.
-/

namespace Scim.Uuid

/-! ## Hyphens -/

/-- Groups of 8, 4, 4, 4 and 12 characters are found between their hyphens. -/
theorem dropHyphens?_groups {a b c d e : List Char} (ha : a.length = 8) (hb : b.length = 4)
    (hc : c.length = 4) (hd : d.length = 4) (he : e.length = 12) :
    dropHyphens? (a ++ '-' :: b ++ '-' :: c ++ '-' :: d ++ '-' :: e)
      = some (a ++ b ++ c ++ d ++ e) := by
  have hlength : (a ++ '-' :: b ++ '-' :: c ++ '-' :: d ++ '-' :: e).length = 36 := by
    simp [ha, hb, hc, hd, he]
  have hmarks : ∀ i ∈ [8, 13, 18, 23],
      (a ++ '-' :: b ++ '-' :: c ++ '-' :: d ++ '-' :: e)[i]? = some '-' := by
    simp [List.getElem?_append, List.getElem?_cons, ha, hb, hc, hd]
  simp only [List.mem_cons, List.not_mem_nil, or_false, forall_eq_or_imp, forall_eq] at hmarks
  rw [dropHyphens?, if_pos ⟨hlength, hmarks⟩]
  simp [List.drop_append, ha, hb, hc, hd, List.drop_of_length_le]

/-- The groups of the digits of an identifier are the digits. -/
theorem groups_digits (ds : List Char) :
    ds.take 8 ++ (ds.drop 8).take 4 ++ (ds.drop 12).take 4 ++ (ds.drop 16).take 4 ++ ds.drop 20
      = ds := by
  have hnext (n k : Nat) : (ds.drop n).take k ++ ds.drop (n + k) = ds.drop n := by
    rw [← List.drop_drop, List.take_append_drop]
  calc _ = ds.take 8 ++ ((ds.drop 8).take 4 ++ ((ds.drop 12).take 4
        ++ ((ds.drop 16).take 4 ++ ds.drop 20))) := by simp only [List.append_assoc]
    _ = ds.take 8 ++ ds.drop 8 := by rw [hnext 16 4, hnext 12 4, hnext 8 4]
    _ = ds := List.take_append_drop 8 ds

/-! ## Digits -/

theorem toLower_of_isSmallHex {c : Char} (h : isSmallHex c = true) : c.toLower = c := by
  simp only [isSmallHex, decide_eq_true_eq, List.mem_cons, List.not_mem_nil, or_false] at h
  rcases h with rfl | rfl | rfl | rfl | rfl | rfl | rfl | rfl | rfl | rfl | rfl | rfl | rfl | rfl
    | rfl | rfl <;> rfl

/-- The digits of an identifier denote it. -/
theorem ofDigits?_digits (u : Uuid) : ofDigits? u.digits = some u := by
  have hlower : u.digits.map Char.toLower = u.digits := by
    refine (List.map_congr_left fun c hc => ?_).trans (List.map_id u.digits)
    exact toLower_of_isSmallHex (List.all_eq_true.mp u.isSmallHex_digits c hc)
  unfold ofDigits?
  simp only [hlower]
  rw [dif_pos ⟨u.length_digits, u.isSmallHex_digits⟩]

/-- The written form of an identifier denotes it. -/
@[simp] theorem ofText?_text (u : Uuid) : ofText? u.text = some u := by
  have hlength := u.length_digits
  -- the written form has 36 characters, which only the form with hyphens has
  have hread := dropHyphens?_groups (a := u.digits.take 8) (b := (u.digits.drop 8).take 4)
    (c := (u.digits.drop 12).take 4) (d := (u.digits.drop 16).take 4) (e := u.digits.drop 20)
    (by simp [hlength]) (by simp [hlength]) (by simp [hlength]) (by simp [hlength])
    (by simp [hlength])
  rw [groups_digits] at hread
  rw [ofText?, text, String.toList_ofList, ofChars?, if_neg (by simp [hlength]),
    if_pos (by simp [hlength]), hread]
  exact ofDigits?_digits u

/-- No two identifiers are written alike. -/
theorem text_injective : Function.Injective text := by
  intro u v h
  have hread : ofText? u.text = ofText? v.text := by rw [h]
  simpa using hread

/-- Nothing stands in an identifier but small hexadecimal digits and hyphens. -/
theorem notMem_text (u : Uuid) {c : Char} (hdigit : isSmallHex c = false) (hhyphen : c ≠ '-') :
    c ∉ u.text.toList := by
  have hdigits : c ∉ u.digits := by
    intro hmem
    have hsmall := List.all_eq_true.mp u.isSmallHex_digits c hmem
    rw [hdigit] at hsmall
    cases hsmall
  -- a group holds nothing but digits of the identifier
  have hgroup (n k : Nat) : c ∉ (u.digits.drop n).take k := by
    intro hmem
    exact hdigits (List.mem_of_mem_drop (List.mem_of_mem_take hmem))
  have hfirst : c ∉ u.digits.take 8 := fun hmem => hdigits (List.mem_of_mem_take hmem)
  have hlast : c ∉ u.digits.drop 20 := fun hmem => hdigits (List.mem_of_mem_drop hmem)
  simp [text, hgroup, hfirst, hlast, hhyphen]

/-- A slash never stands in an identifier. -/
theorem slash_notMem_text (u : Uuid) : '/' ∉ u.text.toList :=
  u.notMem_text (by decide) (by decide)

end Scim.Uuid
