import Mathlib.Data.List.Basic
import Scim.Filter.Token

/-!
# Scanning the spelling of a token

For each kind of token this module gives a spelling that is scanned back to it, with anything behind
it: a parenthesis, a keyword in small letters, a literal between quotes, and a word before a
character that ends words.  A word has to be plain, since a keyword is taken off the front of a text
wherever it stands.
-/

namespace Scim

/-! ## Words that start no keyword -/

/-- The words that are taken for operators. -/
def Token.operators : List String := ["and", "or", "pr", "eq", "co", "sw"]

/-- A path that is scanned as one word: it is not empty, holds no blank and no parenthesis, and
starts neither with a quote nor, in any case of ASCII, with an operator. -/
structure IsPlainPath (path : String) : Prop where
  ne_empty : path ≠ ""
  not_blank : ∀ c ∈ path.toList, Text.isBlank c = false
  not_paren : ∀ c ∈ path.toList, c ≠ '(' ∧ c ≠ ')'
  not_quote : ∀ c ∈ path.toList.head?, c ≠ '"' ∧ c ≠ '\''
  not_operator : ∀ w ∈ Token.operators, ¬ w.toList <+: path.toList.map Char.toLower

/-- The conditions on a plain path, to be evaluated. -/
def isPlainPath (path : String) : Bool :=
  path != ""
    && path.toList.all (fun c => !Text.isBlank c && c != '(' && c != ')')
    && path.toList.head?.all (fun c => c != '"' && c != '\'')
    && Token.operators.all fun w => !w.toList.isPrefixOf (path.toList.map Char.toLower)

theorem isPlainPath_iff {path : String} : isPlainPath path = true ↔ IsPlainPath path := by
  simp only [isPlainPath, Bool.and_eq_true, bne_iff_ne, List.all_eq_true, Bool.not_eq_true',
    Option.all_eq_true, ← Bool.not_eq_true, List.isPrefixOf_iff_prefix]
  constructor
  · rintro ⟨⟨⟨hne, hchars⟩, hquote⟩, hoperator⟩
    refine ⟨hne, fun c hc => ?_, fun c hc => (hchars c hc).imp And.right id, hquote, hoperator⟩
    simpa using (hchars c hc).1.1
  · intro h
    refine ⟨⟨⟨h.ne_empty, fun c hc => ?_⟩, h.not_quote⟩, h.not_operator⟩
    exact ⟨⟨by simp [h.not_blank c hc], (h.not_paren c hc).1⟩, (h.not_paren c hc).2⟩

instance (path : String) : Decidable (IsPlainPath path) :=
  decidable_of_iff _ isPlainPath_iff

namespace Text

/-- A word is found in front of a text exactly if the text starts with a spelling of it. -/
theorem dropWordIgnoreCase?_eq_some_iff {word cs rest : List Char} :
    dropWordIgnoreCase? word cs = some rest
      ↔ ∃ written, cs = written ++ rest ∧ written.map Char.toLower = word.map Char.toLower := by
  induction word generalizing cs with
  | nil => simp [dropWordIgnoreCase?]
  | cons w word ih =>
    cases cs with
    | nil =>
      simp only [dropWordIgnoreCase?, List.map_cons, reduceCtorEq, false_iff]
      rintro ⟨written, hnil, hwritten⟩
      rw [(List.append_eq_nil_iff.mp hnil.symm).1] at hwritten
      cases hwritten
    | cons c cs =>
      by_cases hw : w.toLower = c.toLower
      · rw [dropWordIgnoreCase?, if_pos hw, ih, List.map_cons, hw]
        constructor
        · rintro ⟨written, rfl, hwritten⟩
          exact ⟨c :: written, rfl, by rw [List.map_cons, hwritten]⟩
        · rintro ⟨written, hcs, hwritten⟩
          obtain ⟨d, tail, rfl, -, htail⟩ := List.map_eq_cons_iff.mp hwritten
          obtain ⟨rfl, rfl⟩ := List.cons.inj hcs
          exact ⟨tail, rfl, htail⟩
      · rw [dropWordIgnoreCase?, if_neg hw, List.map_cons]
        constructor
        · intro hnone
          cases hnone
        · rintro ⟨written, hcs, hwritten⟩
          obtain ⟨d, tail, rfl, hd, -⟩ := List.map_eq_cons_iff.mp hwritten
          obtain ⟨rfl, -⟩ := List.cons.inj hcs
          exact absurd hd.symm hw

/-- A word found in front of a text does not reach into a rest that starts with no letter of it. -/
theorem isPrefix_of_dropWordIgnoreCase? {word before rest found : List Char}
    (hrest : ∀ c ∈ rest.head?, c.toLower ∉ word.map Char.toLower)
    (h : dropWordIgnoreCase? word (before ++ rest) = some found) :
    word.map Char.toLower <+: before.map Char.toLower := by
  obtain ⟨written, htext, hwritten⟩ := dropWordIgnoreCase?_eq_some_iff.mp h
  rw [← hwritten]
  rcases List.append_eq_append_iff.mp htext with ⟨more, rfl, hmore⟩ | ⟨more, rfl, -⟩
  · cases more with
    | nil => exact ⟨[], by simp⟩
    | cons c more =>
      refine absurd ?_ (hrest c (by rw [hmore]; rfl))
      rw [← hwritten]
      exact List.mem_map_of_mem (by simp)
  · exact ⟨more.map Char.toLower, (List.map_append).symm⟩

/-- The ranges of the ASCII letters. -/
theorem toNat_of_isAlpha {c : Char} (h : c.isAlpha = true) :
    (65 ≤ c.toNat ∧ c.toNat ≤ 90) ∨ (97 ≤ c.toNat ∧ c.toNat ≤ 122) := by
  rcases Bool.or_eq_true_iff.mp h with hupper | hlower
  · exact Or.inl (of_decide_eq_true hupper)
  · obtain ⟨hlow, hhigh⟩ := Bool.and_eq_true_iff.mp hlower
    exact Or.inr ⟨of_decide_eq_true hlow, of_decide_eq_true hhigh⟩

/-- The small form of a letter is a letter, and that of no other character is one. -/
theorem isAlpha_of_isAlpha_toLower {c : Char} (h : c.toLower.isAlpha = true) :
    c.isAlpha = true := by
  by_cases hupper : c.isUpper = true
  · exact Bool.or_eq_true_iff.mpr (Or.inl hupper)
  · -- what is no capital is its own small form
    have hself : c.toLower = c := dif_neg fun hcapital => hupper (decide_eq_true hcapital)
    rwa [hself] at h

end Text

namespace Token

/-! ## One token -/

theorem ofChars_eq_match (cs : List Char) :
    ofChars cs = match Text.trimStart cs with
      | [] => []
      | c :: rest => (scan c rest).1 :: ofChars (scan c rest).2 := by
  rw [ofChars]
  split <;> simp only [*]

/-- Blanks between tokens do not count. -/
theorem ofChars_cons_of_blank {c : Char} (h : Text.isBlank c = true) (cs : List Char) :
    ofChars (c :: cs) = ofChars cs := by
  have htrim : Text.trimStart (c :: cs) = Text.trimStart cs := List.dropWhile_cons_of_pos h
  rw [ofChars_eq_match, htrim, ← ofChars_eq_match]

theorem ofChars_cons {c : Char} (h : Text.isBlank c = false) (cs : List Char) :
    ofChars (c :: cs) = (scan c cs).1 :: ofChars (scan c cs).2 := by
  have htrim : Text.trimStart (c :: cs) = c :: cs := List.dropWhile_cons_of_neg (by simp [h])
  rw [ofChars_eq_match, htrim]

theorem ofChars_nil : ofChars [] = [] := by
  rw [ofChars]
  rfl

theorem ofChars_lparen (rest : List Char) : ofChars ('(' :: rest) = lparen :: ofChars rest :=
  ofChars_cons rfl rest

theorem ofChars_rparen (rest : List Char) : ofChars (')' :: rest) = rparen :: ofChars rest :=
  ofChars_cons rfl rest

theorem ofChars_and (rest : List Char) :
    ofChars ('a' :: 'n' :: 'd' :: rest) = and :: ofChars rest :=
  ofChars_cons rfl _

theorem ofChars_or (rest : List Char) : ofChars ('o' :: 'r' :: rest) = or :: ofChars rest :=
  ofChars_cons rfl _

theorem ofChars_pr (rest : List Char) : ofChars ('p' :: 'r' :: rest) = pr :: ofChars rest :=
  ofChars_cons rfl _

theorem ofChars_eq (rest : List Char) : ofChars ('e' :: 'q' :: rest) = eq :: ofChars rest :=
  ofChars_cons rfl _

theorem ofChars_co (rest : List Char) : ofChars ('c' :: 'o' :: rest) = co :: ofChars rest :=
  ofChars_cons rfl _

theorem ofChars_sw (rest : List Char) : ofChars ('s' :: 'w' :: rest) = sw :: ofChars rest :=
  ofChars_cons rfl _

theorem splitQuoted_append {quote : Char} {content : List Char} (h : quote ∉ content)
    (rest : List Char) : splitQuoted quote (content ++ quote :: rest) = (content, rest) := by
  have hcontent : ∀ c ∈ content, (c != quote) = true := by
    intro c hc
    simp only [bne_iff_ne, ne_eq]
    rintro rfl
    exact h hc
  simp [splitQuoted, List.takeWhile_append_of_pos hcontent, List.dropWhile_append_of_pos hcontent]

/-- At a quote a literal is scanned, since no operator starts with one. -/
theorem scan_quote {quote : Char} (hquote : quote = '"' ∨ quote = '\'') (cs : List Char) :
    scan quote cs
      = (quoted (String.ofList (splitQuoted quote cs).1), (splitQuoted quote cs).2) := by
  rcases hquote with rfl | rfl <;>
    simp [scan, keyword?, keywords, Text.dropWordIgnoreCase?]

/-- A literal between quotes of a kind that it does not hold. -/
theorem ofChars_quoted {quote : Char} (hquote : quote = '"' ∨ quote = '\'') {content : List Char}
    (h : quote ∉ content) (rest : List Char) :
    ofChars (quote :: (content ++ quote :: rest))
      = quoted (String.ofList content) :: ofChars rest := by
  have hblank : Text.isBlank quote = false := by rcases hquote with rfl | rfl <;> rfl
  rw [ofChars_cons hblank, scan_quote hquote, splitQuoted_append h]

/-! ## Words -/

/-- Letters belong to words. -/
theorem isWordChar_of_isAlpha {c : Char} (h : c.isAlpha = true) : isWordChar c = true := by
  have hrange := Text.toNat_of_isAlpha h
  have hblank : Text.isBlank c = false := Text.isBlank_of_visible (by omega)
  have hparen : c ≠ '(' ∧ c ≠ ')' := by
    constructor <;> rintro rfl <;> revert h <;> decide
  simp [isWordChar, hblank, hparen]

/-- Operators consist of small letters. -/
theorem letters_of_mem_keywords {letters : List Char} {token : Token}
    (h : (letters, token) ∈ keywords) : letters ∈ operators.map String.toList
      ∧ letters.map Char.toLower = letters ∧ ∀ c ∈ letters, c.isAlpha = true := by
  have hall : ∀ known ∈ keywords, known.1 ∈ operators.map String.toList
      ∧ known.1.map Char.toLower = known.1 ∧ known.1.all Char.isAlpha = true := by decide
  obtain ⟨hmem, hlower, halpha⟩ := hall _ h
  exact ⟨hmem, hlower, List.all_eq_true.mp halpha⟩

/-- No operator is found where a plain path stands in front of a character that ends words. -/
theorem keyword?_of_isPlainPath {path : String} (h : IsPlainPath path) {rest : List Char}
    (hrest : ∀ c ∈ rest.head?, isWordChar c = false) : keyword? (path.toList ++ rest) = none := by
  rw [keyword?, List.findSome?_eq_none_iff]
  rintro ⟨letters, token⟩ hmem
  obtain ⟨hword, hlower, halpha⟩ := letters_of_mem_keywords hmem
  obtain ⟨w, hw, rfl⟩ := List.mem_map.mp hword
  rw [Option.map_eq_none_iff]
  cases hfound : Text.dropWordIgnoreCase? w.toList (path.toList ++ rest) with
  | none => rfl
  | some found =>
    have hstop : ∀ c ∈ rest.head?, c.toLower ∉ w.toList.map Char.toLower := by
      intro c hc hmem
      rw [hlower] at hmem
      have hc' := isWordChar_of_isAlpha (Text.isAlpha_of_isAlpha_toLower (halpha _ hmem))
      rw [hrest c hc] at hc'
      cases hc'
    have hprefix := Text.isPrefix_of_dropWordIgnoreCase? hstop hfound
    rw [hlower] at hprefix
    exact absurd hprefix (h.not_operator w hw)

/-- A plain path is scanned as one word, up to a character that ends words. -/
theorem scan_word {path : String} (h : IsPlainPath path) {c : Char} {cs : List Char}
    (hpath : path.toList = c :: cs) {rest : List Char}
    (hrest : ∀ d ∈ rest.head?, isWordChar d = false) : scan c (cs ++ rest) = (word path, rest) := by
  have hkeyword := keyword?_of_isPlainPath h hrest
  have hword : ∀ d ∈ cs, isWordChar d = true := by
    intro d hd
    have hmem : d ∈ path.toList := by rw [hpath]; exact List.mem_cons_of_mem c hd
    simp [isWordChar, h.not_blank d hmem, h.not_paren d hmem]
  rw [hpath, List.cons_append] at hkeyword
  have hquote := h.not_quote c (by simp [hpath])
  have hstop : rest.takeWhile isWordChar = [] ∧ rest.dropWhile isWordChar = rest := by
    cases rest with
    | nil => exact ⟨rfl, rfl⟩
    | cons d rest => simp [hrest d rfl]
  have htake : (cs ++ rest).takeWhile isWordChar = cs := by
    rw [List.takeWhile_append_of_pos hword, hstop.1, List.append_nil]
  have hdrop : (cs ++ rest).dropWhile isWordChar = rest := by
    rw [List.dropWhile_append_of_pos hword, hstop.2]
  simp only [scan, h.not_paren c (by simp [hpath]), hkeyword, hquote, if_false, or_false, htake,
    hdrop, ← hpath, String.ofList_toList]

/-- A plain path before a blank. -/
theorem ofChars_word {path : String} (h : IsPlainPath path) (rest : List Char) :
    ofChars (path.toList ++ ' ' :: rest) = word path :: ofChars rest := by
  obtain ⟨c, cs, hpath⟩ := List.exists_cons_of_ne_nil (String.toList_eq_nil_iff.not.mpr h.ne_empty)
  have hblank : Text.isBlank c = false := h.not_blank c (by simp [hpath])
  have hscan : scan c (cs ++ ' ' :: rest) = (word path, ' ' :: rest) :=
    scan_word h hpath (by rintro d ⟨⟩; rfl)
  rw [hpath, List.cons_append, ofChars_cons hblank, hscan]
  exact congrArg _ (ofChars_cons_of_blank rfl rest)

end Token

end Scim
