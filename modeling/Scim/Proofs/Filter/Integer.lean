import Scim.Filter.Match
import Scim.Proofs.Filter.Source
import Scim.Proofs.Listing
import Scim.Proofs.Number.Rounding

/-!
# Filters for integers

A filter that compares an attribute with an integer reads the decimal digits as a double, makes an
integer of that if it can, and compares doubles in the end.  Only the first step loses anything
(`exists_operandValue_toString`), so the filter matches the integers that share the double of the
one that is written (`Predicate.integer_equality_rounds`).  That is the integer alone up to 53 bits,
and for a quarter of the integers of 54 bits.
-/

namespace Scim

/-! ## Decimal texts -/

/-- A sign or a digit, by its place in ASCII. -/
def IsNumeralChar (c : Char) : Prop :=
  0x2D ≤ c.toNat ∧ c.toNat ≤ 0x39

namespace IsNumeralChar

variable {c : Char}

theorem of_isDigit (h : c.isDigit = true) : IsNumeralChar c := by
  have := Text.toNat_of_isDigit h
  unfold IsNumeralChar
  omega

theorem not_blank (h : IsNumeralChar c) : Text.isBlank c = false :=
  Text.isBlank_of_visible (by unfold IsNumeralChar at h; omega)

theorem ne_of_lt (h : IsNumeralChar c) {d : Char} (hd : d.toNat < 0x2D) : c ≠ d := by
  rintro rfl
  unfold IsNumeralChar at h
  omega

theorem isAlpha_toLower (h : IsNumeralChar c) : c.toLower.isAlpha = false := by
  rw [← Bool.not_eq_true]
  intro halpha
  have hrange := Text.toNat_of_isAlpha (Text.isAlpha_of_isAlpha_toLower halpha)
  unfold IsNumeralChar at h
  omega

end IsNumeralChar

/-- A text of signs and digits starts with no letter, in any case. -/
theorem not_prefix_of_isNumeralChar {text : String} {letter : Char} {letters : List Char}
    (h : ∀ c ∈ text.toList, IsNumeralChar c) (hletter : letter.isAlpha = true) :
    ¬ letter :: letters <+: text.toList.map Char.toLower := by
  rintro ⟨behind, hbehind⟩
  obtain ⟨c, cs, hcs, hc, -⟩ := List.map_eq_cons_iff.mp hbehind.symm
  have hnumeral := (h c (by rw [hcs]; exact List.mem_cons_self)).isAlpha_toLower
  rw [hc, hletter] at hnumeral
  cases hnumeral

theorem eqIgnoreAsciiCase_of_isNumeralChar {text word : String} {letter : Char}
    {letters : List Char} (h : ∀ c ∈ text.toList, IsNumeralChar c)
    (hword : word.toList.map Char.toLower = letter :: letters) (hletter : letter.isAlpha = true) :
    Text.eqIgnoreAsciiCase text word = false := by
  rw [← Bool.not_eq_true]
  intro hsame
  apply not_prefix_of_isNumeralChar h hletter
  rw [beq_iff_eq.mp hsame, hword]

theorem isPlainPath_of_isNumeralChar {text : String} (hne : text ≠ "")
    (h : ∀ c ∈ text.toList, IsNumeralChar c) : IsPlainPath text where
  ne_empty := hne
  not_blank := fun c hc => (h c hc).not_blank
  not_paren := fun c hc => ⟨(h c hc).ne_of_lt (by decide), (h c hc).ne_of_lt (by decide)⟩
  not_quote := fun c hc =>
    have hmem := List.mem_of_mem_head? hc
    ⟨(h c hmem).ne_of_lt (by decide), (h c hmem).ne_of_lt (by decide)⟩
  not_operator := by
    have hletters : ∀ w ∈ Token.operators,
        ∃ letter letters, w.toList = letter :: letters ∧ letter.isAlpha = true := by
      simp [Token.operators]
    intro w hw
    obtain ⟨letter, letters, hword, hletter⟩ := hletters w hw
    rw [hword]
    exact not_prefix_of_isNumeralChar h hletter

/-- A decimal text is a sign, if the integer is negative, and digits. -/
theorem toList_toString (n : Int) :
    (toString n).toList = (if n < 0 then ['-'] else []) ++ Nat.toDigits 10 n.natAbs := by
  cases n with
  | ofNat n => simp [toString, Int.repr]
  | negSucc n => simp [toString, Int.repr]

theorem isNumeralChar_of_mem_toString {n : Int} {c : Char} (hc : c ∈ (toString n).toList) :
    IsNumeralChar c := by
  rw [toList_toString, List.mem_append] at hc
  rcases hc with hsign | hdigit
  · obtain rfl : c = '-' := by
      split at hsign <;> simp_all
    exact ⟨by decide, by decide⟩
  · exact .of_isDigit (Numeral.isDigit_of_mem_toDigits hdigit)

theorem toString_ne_empty (n : Int) : toString n ≠ "" := by
  intro h
  have hchars := toList_toString n
  rw [h] at hchars
  exact Nat.toDigits_ne_nil (List.append_eq_nil_iff.mp hchars.symm).2

/-! ## Reading an integer -/

/-- The decimal digits of an integer are read as its double. -/
theorem Numeral.free?_toString (n : Int) : free? (toString n) = Binary64.ofInt? n := by
  have hsign : sign (toString n).toList = (decide (n < 0), Nat.toDigits 10 n.natAbs) := by
    rw [toList_toString]
    split
    · next hneg => simp [sign, hneg]
    · next hpos =>
      obtain ⟨c, cs, hcons, hdigit⟩ := exists_toDigits_eq_cons n.natAbs
      rw [List.nil_append, hcons, sign_of_isDigit hdigit, decide_eq_false hpos]
  have hspan : spanDigits (Nat.toDigits 10 n.natAbs) = (Nat.toDigits 10 n.natAbs, []) := by
    have hdigits : ∀ c ∈ Nat.toDigits 10 n.natAbs, c.isDigit = true :=
      fun c => isDigit_of_mem_toDigits
    rw [spanDigits, List.takeWhile_eq_self_iff.mpr hdigits, List.dropWhile_eq_nil_iff.mpr hdigits]
  have hdecimal : Binary64.ofDecimal? (decide (n < 0)) n.natAbs 0 = Binary64.ofInt? n := by
    by_cases hzero : n.natAbs = 0
    · rw [Binary64.ofDecimal?, if_pos hzero, Binary64.ofInt?, Binary64.ofRatio?, if_pos hzero]
    · have hone : n.natAbs * tenTo (Int.toNat 0) = n.natAbs := Nat.mul_one _
      rw [Binary64.ofDecimal?, if_neg hzero, if_neg (by omega), if_neg (by omega),
        if_pos (by omega), hone, Binary64.ofInt?]
  simp only [free?, hsign, hspan, Nat.toDigits_ne_nil, false_and, if_false, List.append_nil,
    value_toDigits, Option.bind_some]
  simpa using hdecimal

/-- Nothing is trimmed off a text without blanks. -/
theorem Text.trimmed_eq_self {text : String} (h : ∀ c ∈ text.toList, isBlank c = false) :
    trimmed text = text := by
  have hstart : ∀ cs : List Char, (∀ c ∈ cs, isBlank c = false) → cs.dropWhile isBlank = cs := by
    intro cs hcs
    rw [List.dropWhile_eq_self_iff]
    intro hlength
    simp [hcs _ (List.getElem_mem hlength)]
  have hend : text.toList.reverse.dropWhile isBlank = text.toList.reverse :=
    hstart _ fun c hc => h c (List.mem_reverse.mp hc)
  rw [trimmed, trim, trimStart, hstart _ h, trimEnd, hend, List.reverse_reverse,
    String.ofList_toList]

/-- The operand that an integer is read as has the double of the integer. -/
theorem exists_operandValue_toString {n : Int} (hn : IsWord n) :
    ∃ a, operandValue (toString n) = .num a ∧ a.toDouble? = Binary64.ofInt? n := by
  have hnumeral : ∀ c ∈ (toString n).toList, IsNumeralChar c :=
    fun c => isNumeralChar_of_mem_toString
  have htrue : Text.eqIgnoreAsciiCase (toString n) "true" = false :=
    eqIgnoreAsciiCase_of_isNumeralChar hnumeral rfl rfl
  have hfalse : Text.eqIgnoreAsciiCase (toString n) "false" = false :=
    eqIgnoreAsciiCase_of_isNumeralChar hnumeral rfl rfl
  obtain ⟨x, hx, hvalue, -⟩ := Binary64.exists_ofInt? hn
  refine ⟨if (Binary64.rounded n).natAbs < integerBound then .int (Binary64.rounded n)
    else .float x, ?_, ?_⟩
  · have hread : numberOfText? (toString n) = some (if (Binary64.rounded n).natAbs < integerBound
        then .int (Binary64.rounded n) else .float x) := by
      rw [numberOfText?, Numeral.free?_toString, hx]
      simp only [Option.map_some, hvalue]
    rw [operandValue, htrue, hfalse,
      Text.trimmed_eq_self fun c hc => (hnumeral c hc).not_blank, hread]
    rfl
  · split
    · exact Binary64.ofInt?_rounded n
    · exact hx.symm

/-! ## The filter -/

/-- A path is scanned as a word exactly if it is plain. -/
theorem isPlainPath_iff_ofText {path : String} :
    IsPlainPath path ↔ Token.ofText path = [.word path] := by
  rw [Token.ofText, ← Token.spells_iff]
  constructor
  · intro h
    have hblank : ∀ c ∈ ([] : List Char), Text.isBlank c = true := by simp
    have hword : Token.Source (.word path) path.toList [] := .word h (by simp)
    simpa using Token.Spells.cons hblank hword (.blanks hblank)
  · intro h
    generalize path.toList = cs at h
    cases h with
    | cons blank first behind =>
      cases first with
      | word plain ends => exact plain
      | operator known => simp [Token.keywords] at known

/-- The filter text that asks for an integer in decimal digits. -/
def integerText (path : String) (n : Int) : String :=
  path ++ " eq " ++ toString n

theorem Predicate.ofText_integerText {path : String} (h : IsPlainPath path) (n : Int) :
    ofText (some (integerText path n)) = .equals path (operandValue (toString n)) := by
  have hnumeral : IsPlainPath (toString n) :=
    isPlainPath_of_isNumeralChar (toString_ne_empty n) fun c => isNumeralChar_of_mem_toString
  have hchars : (integerText path n).toList
      = path.toList ++ ' ' :: 'e' :: 'q' :: ' ' :: (toString n).toList := by
    simp [integerText]
  have htokens : Token.ofText (integerText path n) = [.word path, .eq, .word (toString n)] := by
    have hlast := isPlainPath_iff_ofText.mp hnumeral
    rw [Token.ofText] at hlast
    rw [Token.ofText, hchars, Token.ofChars_word h, Token.ofChars_eq,
      Token.ofChars_cons_of_blank rfl, hlast]
  rw [ofText, Option.bind_some, Filter.ofText?, htokens]
  rfl

/-! ## Documents -/

namespace Json

/-- The numbers that a comparison at a path looks at are integers of 64 bits. -/
def IntegersAt (path : String) (document : Json) : Prop :=
  ∀ a, .num a ∈ document.candidates path → ∃ m, a = .int m ∧ IsWord m

/-- Objects of one member each around a value, along a list of names. -/
def nested : List String → Json → Json
  | [], j => j
  | name :: names, j => .obj [(name, nested names j)]

theorem follow_nested (names : List String) (j : Json) : (nested names j).follow names = [j] := by
  induction names with
  | nil => rfl
  | cons name names ih => simp [nested, follow, step, Members.find?, ih]

/-- Any integer is all that there is at some path of some document. -/
theorem candidates_nested (path : String) (m : Int) :
    (nested (dottedNames path) (.num (.int m))).candidates path = [.num (.int m)] := by
  rw [candidates, resolve, follow_nested]
  rfl

end Json

theorem Collation.same_num_iff {collation : Collation} {v : Json} {a : Number} :
    collation.same v (.num a) = true ↔ ∃ b, v = .num b ∧ b.sameValue a = true := by
  cases v <;> simp [same, Json.same]

namespace Predicate

variable {path : String} {n : Int}

/-- The filter for an integer matches where there is an integer with the same double. -/
theorem holds_integerText_iff (hpath : Token.ofText path = [.word path]) (hn : IsWord n)
    (collation : Collation) {document : Json} (hdocument : document.IntegersAt path) :
    (ofText (some (integerText path n))).holds collation document = true
      ↔ ∃ m, Json.num (.int m) ∈ document.candidates path
        ∧ Binary64.ofInt? m = Binary64.ofInt? n := by
  obtain ⟨a, hoperand, ha⟩ := exists_operandValue_toString hn
  rw [ofText_integerText (isPlainPath_iff_ofText.mpr hpath), hoperand, holds, List.any_eq_true]
  constructor
  · rintro ⟨v, hmem, hsame⟩
    obtain ⟨b, rfl, hvalue⟩ := Collation.same_num_iff.mp hsame
    obtain ⟨m, rfl, hm⟩ := hdocument b hmem
    exact ⟨m, hmem, (Number.sameValue_int_iff hm hn ha).mp hvalue⟩
  · rintro ⟨m, hmem, hdouble⟩
    obtain ⟨k, hk, hm⟩ := hdocument _ hmem
    obtain rfl := Number.int.inj hk
    exact ⟨_, hmem, Collation.same_num_iff.mpr
      ⟨_, rfl, (Number.sameValue_int_iff hm hn ha).mpr hdouble⟩⟩

/-- A filter for an integer matches the integers with the same double, for every attribute path and
every document whose numbers at the path are integers.  If the integer has up to 53 bits, or 54 bits
and a rest of two when divided by four, it is the only one.  For every other integer of 64 bits
there is a document whose only value at the path is a different integer, and the filter matches
it. -/
theorem integer_equality_rounds (hpath : Token.ofText path = [.word path]) (hn : IsSignedWord n) :
    (∀ collation document, document.IntegersAt path →
      ((ofText (some (integerText path n))).holds collation document = true
        ↔ ∃ m, Json.num (.int m) ∈ document.candidates path
          ∧ Binary64.ofInt? m = Binary64.ofInt? n))
    ∧ (Binary64.StandsAlone n → ∀ collation document, document.IntegersAt path →
      ((ofText (some (integerText path n))).holds collation document = true
        ↔ Json.num (.int n) ∈ document.candidates path))
    ∧ (¬ Binary64.StandsAlone n → ∃ document m, IsWord m ∧ m ≠ n
      ∧ document.candidates path = [Json.num (.int m)]
      ∧ ∀ collation, (ofText (some (integerText path n))).holds collation document = true) := by
  refine ⟨fun collation document => holds_integerText_iff hpath hn.isWord collation, ?_, ?_⟩
  · intro halone collation document hdocument
    rw [holds_integerText_iff hpath hn.isWord collation hdocument]
    constructor
    · rintro ⟨m, hmem, hdouble⟩
      obtain ⟨k, hk, hm⟩ := hdocument _ hmem
      obtain rfl := Number.int.inj hk
      rwa [halone.eq_of_ofInt?_eq hm hn.isWord hdouble] at hmem
    · intro hmem
      exact ⟨n, hmem, rfl⟩
  · intro hcrowd
    obtain ⟨m, hm, hne, hdouble⟩ := Binary64.exists_ofInt?_eq hn hcrowd
    have hcandidates := Json.candidates_nested path m
    refine ⟨_, m, hm, hne, hcandidates, fun collation => ?_⟩
    rw [holds_integerText_iff hpath hn.isWord collation]
    · exact ⟨m, by rw [hcandidates]; exact List.mem_singleton_self _, hdouble⟩
    · intro a ha
      rw [hcandidates, List.mem_singleton] at ha
      exact ⟨m, Json.num.inj ha, hm⟩

/-- A filter for thirty finds it in a list, and one for the first integer that is no double finds
its neighbour. -/
theorem integer_equality_rounds_of_age :
    (ofText (some "age eq 30")).holds .simple (.obj [("age", .arr [.num (.int 30)])]) = true
      ∧ (ofText (some "age eq 9007199254740993")).holds .simple
        (.obj [("age", .num (.int 9007199254740992))]) = true
      ∧ ∃ document m, m ≠ 9007199254740993 ∧ document.candidates "age" = [Json.num (.int m)]
        ∧ (ofText (some "age eq 9007199254740993")).holds .ignoreCase document = true := by
  have hpath : Token.ofText "age" = [.word "age"] := isPlainPath_iff_ofText.mp (by decide)
  obtain ⟨-, halone, -⟩ := integer_equality_rounds (n := 30) hpath (by decide)
  obtain ⟨hrounds, -, hcrowd⟩ :=
    integer_equality_rounds (n := 9007199254740993) hpath (by decide)
  have hlist : (Json.obj [("age", .arr [.num (.int 30)])]).candidates "age"
      = [.arr [.num (.int 30)], .num (.int 30)] := rfl
  have hnumber : (Json.obj [("age", .num (.int 9007199254740992))]).candidates "age"
      = [.num (.int 9007199254740992)] := rfl
  refine ⟨(halone (by decide) .simple _ ?_).mpr ?_, (hrounds .simple _ ?_).mpr ?_, ?_⟩
  · intro a ha
    rw [hlist] at ha
    obtain rfl : a = .int 30 := by simpa using ha
    exact ⟨30, rfl, by decide⟩
  · rw [hlist]
    simp
  · intro a ha
    rw [hnumber] at ha
    obtain rfl : a = .int 9007199254740992 := by simpa using ha
    exact ⟨9007199254740992, rfl, by decide⟩
  · rw [hnumber]
    exact ⟨9007199254740992, by simp, by decide +kernel⟩
  · obtain ⟨document, m, -, hne, hcandidates, hholds⟩ := hcrowd (by decide)
    exact ⟨document, m, hne, hcandidates, hholds .ignoreCase⟩

/-- The filter for the first integer that is no double matches a document with its neighbour. -/
theorem not_forall_integer_equality_exact :
    ¬ ∀ (path : String) (n : Int), Token.ofText path = [.word path] → IsSignedWord n →
      ∀ (collation : Collation) (document : Json),
        (∀ v ∈ document.candidates path, ∃ m, v = .num (.int m) ∧ IsWord m) →
        ((ofText (some (integerText path n))).holds collation document = true
          ↔ Json.num (.int n) ∈ document.candidates path) := by
  intro hexact
  have hcandidates : (Json.obj [("a", .num (.int 9007199254740992))]).candidates "a"
      = [.num (.int 9007199254740992)] := rfl
  have hagree := hexact "a" 9007199254740993 (isPlainPath_iff_ofText.mp (by decide)) (by decide)
    .simple (.obj [("a", .num (.int 9007199254740992))]) (by
      rw [hcandidates]
      rintro v hv
      exact ⟨9007199254740992, List.mem_singleton.mp hv, by decide⟩)
  rw [hcandidates] at hagree
  have hmatch := hagree.mp (by decide +kernel)
  simp at hmatch

end Predicate

end Scim
