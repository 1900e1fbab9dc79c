import Mathlib.Data.List.TakeWhile
import Scim.Etag

/-!
# Entity tags name their versions

The weak tag of a version, used as a precondition, holds for that version and for no other one, for
every version of 64 bits.  It does so wherever it stands in a header, as long as no other weak tag
stands in front of it (`Etag.first_tag_names_version`).  Three facts carry this: the digits of a
number are read back as the number, the search passes over a text that holds no tag, and trimming
takes nothing from the tag.  The search cannot start in front of the tag and end in it, since only
the first character of a tag is the letter that tags start with.
-/

namespace Scim

/-! ## Decimal digits -/

namespace Numeral

@[simp] theorem value_toDigits (n : Nat) : value (Nat.toDigits 10 n) = n := by
  show Nat.ofDigitChars 10 (Nat.toDigits 10 n) 0 = n
  rw [Nat.ofDigitChars_ten_toDigits]

theorem isDigit_of_mem_toDigits {n : Nat} {c : Char} (hc : c ∈ Nat.toDigits 10 n) :
    c.isDigit = true :=
  Nat.isDigit_of_mem_toDigits (by omega) (by omega) hc

/-- The decimal digits of a number within the limit denote it. -/
theorem boundedNatural?_toDigits {limit n : Nat} (h : n ≤ limit) :
    boundedNatural? limit (Nat.toDigits 10 n) = some n := by
  have hdigit : ∀ c ∈ Nat.toDigits 10 n, c.isDigit = true := fun c => isDigit_of_mem_toDigits
  have hread : natural? (Nat.toDigits 10 n) = some n := by
    rw [natural?, if_pos ⟨Nat.toDigits_ne_nil, List.all_eq_true.mpr hdigit⟩, value_toDigits]
  unfold boundedNatural?
  split
  · -- a plus sign is no digit
    next rest hplus => simpa using hdigit '+' (by simp [hplus])
  · simp [hread, h]

end Numeral

/-! ## Trimming -/

namespace Text

/-- Blanks are taken off the start only up to a character that is not blank. -/
theorem trimStart_append_cons {c : Char} (hc : isBlank c = false) (before behind : List Char) :
    trimStart (before ++ c :: behind) = trimStart before ++ c :: behind := by
  unfold trimStart
  rw [List.dropWhile_append]
  split
  · next hempty =>
    rw [List.isEmpty_iff.mp hempty, List.dropWhile_cons_of_neg (by simp [hc]), List.nil_append]
  · rfl

theorem trimEnd_append_cons {c : Char} (hc : isBlank c = false) (before behind : List Char) :
    trimEnd (before ++ c :: behind) = before ++ c :: trimEnd behind := by
  have hturned : (before ++ c :: behind).reverse = behind.reverse ++ c :: before.reverse := by simp
  have hstart := trimStart_append_cons hc behind.reverse before.reverse
  unfold trimStart at hstart
  rw [trimEnd, hturned, hstart, trimEnd]
  simp

/-- What stands between two characters that are not blank is not trimmed. -/
theorem trim_around {first last : Char} (hfirst : isBlank first = false)
    (hlast : isBlank last = false) (before middle behind : List Char) :
    trim (before ++ first :: (middle ++ last :: behind))
      = trimStart before ++ first :: (middle ++ last :: trimEnd behind) := by
  have hend := trimEnd_append_cons hlast (trimStart before ++ first :: middle) behind
  rw [List.append_assoc, List.append_assoc] at hend
  rw [trim, trimStart_append_cons hfirst]
  exact hend

/-- The range of the ASCII digits. -/
theorem toNat_of_isDigit {c : Char} (h : c.isDigit = true) : 0x30 ≤ c.toNat ∧ c.toNat ≤ 0x39 := by
  simp only [Char.isDigit, Bool.and_eq_true, decide_eq_true_eq, ge_iff_le,
    UInt32.le_iff_toNat_le] at h
  exact h

/-- The digits of ASCII are decimal digits. -/
theorem isDecimalDigit_of_isDigit {c : Char} (h : c.isDigit = true) : isDecimalDigit c = true := by
  obtain ⟨hlow, hhigh⟩ := toNat_of_isDigit h
  rw [isDecimalDigit, inRanges, decimalDigitRanges, List.any_cons]
  simp [hlow, hhigh]

end Text

/-! ## Tags -/

namespace Etag

/-- The characters of a tag: opening, digits and a closing quote. -/
theorem toList_weak (version : Nat) :
    (weak version).toList = opening ++ (Nat.toDigits 10 version ++ ['"']) := by
  simp [weak, opening]

/-- Digits of any script between the opening and the closing quote of a tag. -/
def IsTag (digits tag : List Char) : Prop :=
  digits ≠ [] ∧ (∀ c ∈ digits, Text.isDecimalDigit c = true) ∧ tag = opening ++ (digits ++ ['"'])

theorem isTag_weak (version : Nat) : IsTag (Nat.toDigits 10 version) (weak version).toList := by
  refine ⟨Nat.toDigits_ne_nil, fun c hc => ?_, toList_weak version⟩
  exact Text.isDecimalDigit_of_isDigit (Numeral.isDigit_of_mem_toDigits hc)

/-- A tag starts with a letter that stands nowhere else in it. -/
theorem IsTag.exists_eq_cons {digits tag : List Char} (h : IsTag digits tag) :
    ∃ tail, tag = 'W' :: tail ∧ 'W' ∉ tail := by
  obtain ⟨-, hdigits, rfl⟩ := h
  refine ⟨'/' :: '"' :: (digits ++ ['"']), rfl, ?_⟩
  have hletter : Text.isDecimalDigit 'W' = false := by rfl
  have hnotMem : 'W' ∉ digits := fun hmem => by simp [hdigits 'W' hmem] at hletter
  simp [hnotMem]

/-- The digits that are found at the start of a text are those of the tag that stands there. -/
theorem digitsAt?_eq_some_iff {cs digits : List Char} :
    digitsAt? cs = some digits ↔ ∃ tag, IsTag digits tag ∧ tag <+: cs := by
  have hquote : Text.isDecimalDigit '"' = false := by rfl
  constructor
  · intro h
    unfold digitsAt? at h
    split at h
    · cases h
    · next rest hdrop =>
      obtain rfl := Text.dropWord?_eq_some_iff.mp hdrop
      obtain ⟨⟨hne, hclose⟩, hdigits⟩ := Option.ite_none_right_eq_some.mp h
      obtain rfl := Option.some.inj hdigits
      obtain ⟨behind, hbehind⟩ := List.head?_eq_some_iff.mp hclose
      refine ⟨_, ⟨hne, fun c hc => List.mem_takeWhile_imp hc, rfl⟩, behind, ?_⟩
      simp only [List.append_assoc, List.singleton_append, ← hbehind,
        List.takeWhile_append_dropWhile]
  · rintro ⟨tag, ⟨hne, hdigits, rfl⟩, behind, rfl⟩
    have hdrop : Text.dropWord? opening (opening ++ (digits ++ ['"']) ++ behind)
        = some (digits ++ '"' :: behind) := by
      rw [Text.dropWord?_eq_some_iff]
      simp
    -- the closing quote ends the digits
    simp only [digitsAt?, hdrop, List.takeWhile_append_of_pos hdigits,
      List.dropWhile_append_of_pos hdigits]
    simp [hquote, hne]

/-! ## The first tag of a text -/

/-- A text that holds a tag. -/
def HoldsTag (cs : List Char) : Prop :=
  ∃ digits tag, IsTag digits tag ∧ tag <:+: cs

theorem HoldsTag.mono {part cs : List Char} (h : HoldsTag part) (hpart : part <:+: cs) :
    HoldsTag cs := by
  obtain ⟨digits, tag, htag, hinfix⟩ := h
  exact ⟨digits, tag, htag, hinfix.trans hpart⟩

/-- A text is searched without success exactly if it holds no tag. -/
theorem firstDigits?_eq_none_iff (cs : List Char) : firstDigits? cs = none ↔ ¬ HoldsTag cs := by
  induction cs with
  | nil =>
    refine iff_of_true rfl ?_
    rintro ⟨digits, tag, ⟨-, -, rfl⟩, hinfix⟩
    simp [opening] at hinfix
  | cons c cs ih =>
    have hcons : HoldsTag (c :: cs)
        ↔ (∃ digits, digitsAt? (c :: cs) = some digits) ∨ HoldsTag cs := by
      simp only [HoldsTag, List.infix_cons_iff, and_or_left, exists_or, digitsAt?_eq_some_iff]
    rw [firstDigits?, hcons]
    cases digitsAt? (c :: cs) with
    | none => simpa using ih
    | some digits => simp

instance (cs : List Char) : Decidable (HoldsTag cs) :=
  decidable_of_iff (firstDigits? cs ≠ none) (by rw [ne_eq, firstDigits?_eq_none_iff, not_not])

/-- No tag starts in a text that holds none and ends in a tag behind it. -/
theorem digitsAt?_append_eq_none {before digits tag : List Char} (hne : before ≠ [])
    (hbefore : ¬ HoldsTag before) (htag : IsTag digits tag) (behind : List Char) :
    digitsAt? (before ++ (tag ++ behind)) = none := by
  cases hfound : digitsAt? (before ++ (tag ++ behind)) with
  | none => rfl
  | some others =>
    obtain ⟨other, hother, hprefix⟩ := digitsAt?_eq_some_iff.mp hfound
    exfalso
    rcases List.prefix_or_prefix_of_prefix hprefix (List.prefix_append before (tag ++ behind))
      with hinside | ⟨shared, rfl⟩
    · exact hbefore ⟨others, other, hother, hinside.isInfix⟩
    · obtain ⟨rest, rfl, -⟩ := htag.exists_eq_cons
      obtain ⟨tail, htail, hnotMem⟩ := hother.exists_eq_cons
      obtain ⟨c, before, rfl⟩ := List.exists_cons_of_ne_nil hne
      obtain ⟨rfl, rfl⟩ := List.cons.inj htail
      -- what the two tags share starts with a letter that the other one has at its start only
      cases shared with
      | nil => exact hbefore ⟨others, _, hother, by simp⟩
      | cons d shared =>
        obtain ⟨rfl, -⟩ := List.cons_prefix_cons.mp ((List.prefix_append_right_inj _).mp hprefix)
        exact hnotMem (by simp)

/-- The search passes over a text that holds no tag. -/
theorem firstDigits?_append {before digits tag : List Char} (hbefore : ¬ HoldsTag before)
    (htag : IsTag digits tag) (behind : List Char) :
    firstDigits? (before ++ (tag ++ behind)) = some digits := by
  induction before with
  | nil =>
    have hfound : digitsAt? (tag ++ behind) = some digits :=
      digitsAt?_eq_some_iff.mpr ⟨tag, htag, List.prefix_append tag behind⟩
    obtain ⟨tail, rfl, -⟩ := htag.exists_eq_cons
    rw [List.cons_append] at hfound
    rw [List.nil_append, List.cons_append, firstDigits?, hfound]
  | cons c before ih =>
    have hnone := digitsAt?_append_eq_none (List.cons_ne_nil c before) hbefore htag behind
    have hrest : ¬ HoldsTag before := fun h => hbefore (h.mono (List.suffix_cons c before).isInfix)
    rw [List.cons_append] at hnone ⊢
    rw [firstDigits?, hnone]
    exact ih hrest

/-! ## Headers -/

/-- A header names the version of its first tag. -/
theorem version?_eq_some {version : Nat} (h : version ≤ maxWord64) {header : String}
    {before behind : List Char}
    (hheader : header.toList = before ++ ((weak version).toList ++ behind))
    (hbefore : ¬ HoldsTag before) : version? header = some version := by
  rw [version?, hheader, firstDigits?_append hbefore (isTag_weak version)]
  exact Numeral.boundedNatural?_toDigits h

/-- Trimming takes nothing from a tag. -/
theorem trim_weak (version : Nat) (before behind : List Char) :
    Text.trim (before ++ ((weak version).toList ++ behind))
      = Text.trimStart before ++ ((weak version).toList ++ Text.trimEnd behind) := by
  have hopening : Text.isBlank 'W' = false := by rfl
  have hclosing : Text.isBlank '"' = false := by rfl
  have hchars (rest : List Char) : (weak version).toList ++ rest
      = 'W' :: (('/' :: '"' :: Nat.toDigits 10 version) ++ '"' :: rest) := by
    simp [toList_weak, opening]
  rw [hchars, hchars, Text.trim_around hopening hclosing]

/-- A header holds for the version of its first tag and no other. -/
theorem permits_iff {version : Nat} (h : version ≤ maxWord64) {header : String}
    {before behind : List Char}
    (hheader : header.toList = before ++ ((weak version).toList ++ behind))
    (hbefore : ¬ HoldsTag before) (current : Nat) :
    permits (some header) current = true ↔ version = current := by
  have htrim : (Text.trimmed header).toList
      = Text.trimStart before ++ ((weak version).toList ++ Text.trimEnd behind) := by
    rw [Text.trimmed, String.toList_ofList, hheader, trim_weak]
  have hstart : ¬ HoldsTag (Text.trimStart before) := fun h =>
    hbefore (h.mono (List.dropWhile_suffix Text.isBlank).isInfix)
  have hne (s : String) (hs : s.toList.length ≤ 3) : Text.trimmed header ≠ s := by
    rintro rfl
    rw [htrim, toList_weak] at hs
    simp [opening] at hs
    omega
  have hversion : version? (Text.trimmed header) = some version := version?_eq_some h htrim hstart
  simp [permits, hne "" (by decide), hne "*" (by decide), hversion]

theorem not_holdsTag_nil : ¬ HoldsTag [] :=
  (firstDigits?_eq_none_iff []).mp rfl

/-- The tag of a version holds for that version and no other. -/
theorem permits_weak_iff {version : Nat} (h : version ≤ maxWord64) (current : Nat) :
    permits (some (weak version)) current = true ↔ version = current := by
  have hheader : (weak version).toList = [] ++ ((weak version).toList ++ []) := by simp
  exact permits_iff h hheader not_holdsTag_nil current

/-- A header is searched for its first tag.  Behind a text that holds none, the tag of a version of
64 bits names that version, whatever else is in the header, and the header holds for that version
and no other. -/
theorem first_tag_names_version {version : Nat} (h : version ≤ maxWord64) {before : String}
    (hbefore : ¬ HoldsTag before.toList) (behind : String) :
    version? (before ++ weak version ++ behind) = some version
      ∧ ∀ current, permits (some (before ++ weak version ++ behind)) current = true
          ↔ version = current := by
  have hheader : (before ++ weak version ++ behind).toList
      = before.toList ++ ((weak version).toList ++ behind.toList) := by
    rw [String.toList_append, String.toList_append, List.append_assoc]
  exact ⟨version?_eq_some h hheader hbefore, permits_iff h hheader hbefore⟩

/-- Behind a strong tag, a tag without a closing quote and an opening, the greatest version is named
and not the one behind it. -/
theorem first_tag_names_version_of_partialTags :
    18446744073709551615 ≤ maxWord64
      ∧ ¬ HoldsTag " \"3\", W/\"12, W/\"٣W/\"".toList
      ∧ version? (" \"3\", W/\"12, W/\"٣W/\"" ++ weak 18446744073709551615 ++ "\", W/\"7\" ")
        = some 18446744073709551615
      ∧ permits (some (" \"3\", W/\"12, W/\"٣W/\"" ++ weak 18446744073709551615
        ++ "\", W/\"7\" ")) 7 = false := by
  have hle : 18446744073709551615 ≤ maxWord64 := by decide
  have hnone : ¬ HoldsTag " \"3\", W/\"12, W/\"٣W/\"".toList := by decide
  obtain ⟨hversion, hpermits⟩ := first_tag_names_version hle hnone "\", W/\"7\" "
  have hother : (18446744073709551615 : Nat) ≠ 7 := by decide
  exact ⟨hle, hnone, hversion, Bool.eq_false_iff.mpr fun h => hother ((hpermits 7).mp h)⟩

end Etag

end Scim
