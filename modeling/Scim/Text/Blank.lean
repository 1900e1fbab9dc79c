/-!
# Blank characters and trimming

The characters that separate words are those with the Unicode property `White_Space`: besides the
ASCII blanks also U+0085, U+00A0, U+1680, U+2000 to U+200A, U+2028, U+2029, U+202F, U+205F and
U+3000.  The zero width characters U+200B and U+FEFF are not among them.
-/

namespace Scim.Text

/-- A character with the Unicode property `White_Space`. -/
def isBlank (c : Char) : Bool :=
  let n := c.toNat
  (9 ≤ n && n ≤ 13) || n == 0x20 || n == 0x85 || n == 0xA0 || n == 0x1680
    || (0x2000 ≤ n && n ≤ 0x200A) || n == 0x2028 || n == 0x2029 || n == 0x202F || n == 0x205F
    || n == 0x3000

/-- The text from its first character that is not blank. -/
def trimStart (cs : List Char) : List Char :=
  cs.dropWhile isBlank

/-- The text up to its last character that is not blank. -/
def trimEnd (cs : List Char) : List Char :=
  (cs.reverse.dropWhile isBlank).reverse

/-- The text without the blanks at its two ends. -/
def trim (cs : List Char) : List Char :=
  trimEnd (trimStart cs)

/-- `trim` on strings. -/
def trimmed (s : String) : String :=
  String.ofList (trim s.toList)

/-- A string that holds blanks only. -/
def isBlankText (s : String) : Bool :=
  s.toList.all isBlank

/-- The visible characters of ASCII are not blank. -/
theorem isBlank_of_visible {c : Char} (h : 0x21 ≤ c.toNat ∧ c.toNat ≤ 0x7E) :
    isBlank c = false := by
  obtain ⟨hlow, hhigh⟩ := h
  simp only [isBlank, Bool.or_eq_false_iff, Bool.and_eq_false_iff, decide_eq_false_iff_not,
    beq_eq_false_iff_ne]
  omega

theorem length_trimStart_le (cs : List Char) : (trimStart cs).length ≤ cs.length :=
  (List.dropWhile_sublist isBlank).length_le

theorem trimStart_eq_nil_iff (cs : List Char) :
    trimStart cs = [] ↔ ∀ c ∈ cs, isBlank c = true := by
  induction cs with
  | nil => exact ⟨fun _ c hc => absurd hc List.not_mem_nil, fun _ => rfl⟩
  | cons c cs ih =>
    unfold trimStart at ih ⊢
    rw [List.forall_mem_cons]
    cases h : isBlank c with
    | true =>
      rw [List.dropWhile_cons_of_pos h, ih]
      exact ⟨fun hall => ⟨rfl, hall⟩, fun hall => hall.2⟩
    | false =>
      rw [List.dropWhile_cons_of_neg (by rw [h]; exact Bool.false_ne_true)]
      exact ⟨fun hnil => absurd hnil (List.cons_ne_nil c cs), fun hall => absurd hall.1 Bool.false_ne_true⟩

theorem takeWhile_append_trimStart (cs : List Char) :
    cs.takeWhile isBlank ++ trimStart cs = cs :=
  List.takeWhile_append_dropWhile

end Scim.Text
