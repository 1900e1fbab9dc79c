import Mathlib.Data.List.TakeWhile
import Scim.Filter.Predicate
import Scim.Proofs.Filter.Token

/-!
# What a filter text is made of

Cutting a filter text into tokens loses nothing of it.  Between the blanks of the text there is one
source after the other, and each is the source of a token (`Token.Source`, `Token.Spells`).  A text
can be taken apart in this way only once, and the tokens are those that it is cut into
(`Token.spells_iff`).  So the scanner gets to the end of every text, whatever stands in it, and it
finds no token in blank texts alone (`Token.no_text_lost`).
-/

namespace Scim

namespace Token

/-! ## Sources -/

/-- The source of a token in front of the rest of a text. -/
inductive Source : Token → List Char → List Char → Prop
  | lparen (rest : List Char) : Source lparen ['('] rest
  | rparen (rest : List Char) : Source rparen [')'] rest
  /-- An operator, in any case of ASCII.  What follows it does not matter. -/
  | operator {letters written : List Char} {token : Token} (known : (letters, token) ∈ keywords)
      (spelled : written.map Char.toLower = letters) (rest : List Char) :
      Source token written rest
  /-- A literal between two equal quotes, which it does not hold. -/
  | closed {quote : Char} {content : List Char} (isQuote : quote = '"' ∨ quote = '\'')
      (notMem : quote ∉ content) (rest : List Char) :
      Source (quoted (String.ofList content)) (quote :: (content ++ [quote])) rest
  /-- A literal without a second quote, which ends with the text. -/
  | unclosed {quote : Char} {content : List Char} (isQuote : quote = '"' ∨ quote = '\'')
      (notMem : quote ∉ content) : Source (quoted (String.ofList content)) (quote :: content) []
  /-- A word, as long as can be. -/
  | word {text : String} {rest : List Char} (plain : IsPlainPath text)
      (ends : ∀ c ∈ rest.head?, isWordChar c = false) : Source (word text) text.toList rest

/-- The tokens that a text spells: their sources in order, with blanks around them. -/
inductive Spells : List Token → List Char → Prop
  | blanks {gap : List Char} (blank : ∀ c ∈ gap, Text.isBlank c = true) : Spells [] gap
  | cons {gap source rest : List Char} {token : Token} {tokens : List Token}
      (blank : ∀ c ∈ gap, Text.isBlank c = true) (first : Source token source rest)
      (behind : Spells tokens rest) : Spells (token :: tokens) (gap ++ (source ++ rest))

/-! ## From the text to the source -/

/-- The operator at the start of a text is the one that the text starts with a spelling of. -/
theorem keyword?_eq_some_iff {cs rest : List Char} {token : Token} :
    keyword? cs = some (token, rest)
      ↔ ∃ letters written, (letters, token) ∈ keywords ∧ cs = written ++ rest
        ∧ written.map Char.toLower = letters := by
  constructor
  · intro h
    obtain ⟨⟨letters, found⟩, hmem, hword⟩ := List.exists_of_findSome?_eq_some h
    obtain ⟨behind, hdrop, heq⟩ := Option.map_eq_some_iff.mp hword
    obtain ⟨rfl, rfl⟩ := Prod.mk.inj heq
    obtain ⟨written, hcs, hwritten⟩ := Text.dropWordIgnoreCase?_eq_some_iff.mp hdrop
    rw [(letters_of_mem_keywords hmem).2.1] at hwritten
    exact ⟨letters, written, hmem, hcs, hwritten⟩
  · rintro ⟨letters, written, hmem, rfl, rfl⟩
    -- operators differ in their first letters, so none is found before this one
    simp only [keywords, List.mem_cons, Prod.mk.injEq, List.not_mem_nil, or_false,
      List.map_eq_cons_iff, List.map_eq_nil_iff] at hmem
    rcases hmem with ⟨⟨a, _, rfl, ha, b, _, rfl, hb, c, _, rfl, hc, rfl⟩, rfl⟩
      | ⟨⟨a, _, rfl, ha, b, _, rfl, hb, rfl⟩, rfl⟩ | ⟨⟨a, _, rfl, ha, b, _, rfl, hb, rfl⟩, rfl⟩
      | ⟨⟨a, _, rfl, ha, b, _, rfl, hb, rfl⟩, rfl⟩ | ⟨⟨a, _, rfl, ha, b, _, rfl, hb, rfl⟩, rfl⟩
      | ⟨⟨a, _, rfl, ha, b, _, rfl, hb, rfl⟩, rfl⟩ <;>
      simp [keyword?, keywords, Text.dropWordIgnoreCase?, *]

/-- Where no operator is found, the text starts with no spelling of one. -/
theorem not_prefix_of_keyword?_eq_none {before rest : List Char}
    (h : keyword? (before ++ rest) = none) :
    ∀ w ∈ operators, ¬ w.toList <+: before.map Char.toLower := by
  rintro w hw ⟨more, hmore⟩
  have hknown : ∀ w ∈ operators, w.toList ∈ keywords.map Prod.fst := by decide
  obtain ⟨⟨letters, token⟩, hmem, hletters⟩ := List.mem_map.mp (hknown w hw)
  obtain ⟨written, tail, rfl, hwritten, -⟩ := List.map_eq_append_iff.mp hmore.symm
  have hfound : keyword? (written ++ tail ++ rest) = some (token, tail ++ rest) :=
    keyword?_eq_some_iff.mpr
      ⟨letters, written, hmem, List.append_assoc .., hwritten.trans hletters.symm⟩
  rw [h] at hfound
  cases hfound

/-- A literal without a second quote is all that is left. -/
theorem splitQuoted_of_notMem {quote : Char} {content : List Char} (h : quote ∉ content) :
    splitQuoted quote content = (content, []) := by
  have hcontent : ∀ c ∈ content, (c != quote) = true := by
    intro c hc
    exact bne_iff_ne.mpr (ne_of_mem_of_not_mem hc h)
  rw [splitQuoted, List.takeWhile_eq_self_iff.mpr hcontent, List.dropWhile_eq_nil_iff.mpr hcontent,
    List.drop_nil]

/-- A literal reaches up to the next quote, or to the end. -/
theorem exists_source_splitQuoted {quote : Char} (hquote : quote = '"' ∨ quote = '\'')
    (cs : List Char) : ∃ source, quote :: cs = source ++ (splitQuoted quote cs).2 ∧
      Source (quoted (String.ofList (splitQuoted quote cs).1)) source (splitQuoted quote cs).2 := by
  have hcontent : quote ∉ cs.takeWhile (· != quote) := by
    intro hmem
    simpa using List.mem_takeWhile_imp hmem
  have hcs : cs.takeWhile (· != quote) ++ cs.dropWhile (· != quote) = cs :=
    List.takeWhile_append_dropWhile
  rw [splitQuoted]
  cases hrest : cs.dropWhile (· != quote) with
  | nil =>
    rw [hrest, List.append_nil] at hcs
    have hunclosed := Source.unclosed hquote (hcs ▸ hcontent)
    exact ⟨quote :: cs, by simp, by simpa only [hcs, List.drop_nil] using hunclosed⟩
  | cons c rest =>
    obtain rfl : c = quote := by
      have := List.head?_dropWhile_not (· != quote) cs
      simpa [hrest] using this
    rw [hrest] at hcs
    refine ⟨c :: (cs.takeWhile (· != c) ++ [c]), ?_, .closed hquote hcontent rest⟩
    rw [List.cons_append, List.append_assoc, List.singleton_append, List.drop_one, List.tail_cons,
      hcs]

/-- A word that starts no operator reaches up to the next character that ends words. -/
theorem source_word {c : Char} {cs : List Char} (hc : isWordChar c = true)
    (hquote : ¬ (c = '"' ∨ c = '\'')) (hkeyword : keyword? (c :: cs) = none) :
    Source (word (String.ofList (c :: cs.takeWhile isWordChar))) (c :: cs.takeWhile isWordChar)
      (cs.dropWhile isWordChar) := by
  have hchars : ∀ d ∈ c :: cs.takeWhile isWordChar,
      Text.isBlank d = false ∧ d ≠ '(' ∧ d ≠ ')' := by
    intro d hd
    have hword : isWordChar d = true := by
      rcases List.mem_cons.mp hd with rfl | hd
      · exact hc
      · exact List.mem_takeWhile_imp hd
    simpa [isWordChar, and_assoc] using hword
  have hends : ∀ d ∈ (cs.dropWhile isWordChar).head?, isWordChar d = false := by
    intro d hd
    have := List.head?_dropWhile_not isWordChar cs
    rwa [hd] at this
  have hplain : IsPlainPath (String.ofList (c :: cs.takeWhile isWordChar)) := by
    refine ⟨by simp, ?_, ?_, ?_, ?_⟩ <;> rw [String.toList_ofList]
    · exact fun d hd => (hchars d hd).1
    · exact fun d hd => (hchars d hd).2
    · rintro d ⟨⟩
      exact not_or.mp hquote
    · apply not_prefix_of_keyword?_eq_none
      rwa [List.cons_append, List.takeWhile_append_dropWhile]
  simpa only [String.toList_ofList] using Source.word hplain hends

/-- What is scanned at a character that is no blank is the token of a source. -/
theorem exists_source_scan {c : Char} (hc : Text.isBlank c = false) (cs : List Char) :
    ∃ source, c :: cs = source ++ (scan c cs).2
      ∧ Source (scan c cs).1 source (scan c cs).2 := by
  unfold scan
  split
  · next hopen =>
    subst hopen
    exact ⟨['('], rfl, .lparen cs⟩
  · next hopen =>
    split
    · next hclose =>
      subst hclose
      exact ⟨[')'], rfl, .rparen cs⟩
    · next hclose =>
      split
      · next found hkeyword =>
        obtain ⟨letters, written, hmem, hstart, hwritten⟩ := keyword?_eq_some_iff.mp hkeyword
        exact ⟨written, hstart, .operator hmem hwritten found.2⟩
      · next hkeyword =>
        split
        · next hquote => exact exists_source_splitQuoted hquote cs
        · next hquote =>
          have hword : isWordChar c = true := by simp [isWordChar, hc, hopen, hclose]
          exact ⟨_, by rw [List.cons_append, List.takeWhile_append_dropWhile],
            source_word hword hquote hkeyword⟩

/-! ## From the source to the token -/

/-- A source is scanned as its token, whatever is behind it. -/
theorem Source.scan_eq {token : Token} {source rest : List Char} (h : Source token source rest) :
    ∃ c cs, source ++ rest = c :: cs ∧ Text.isBlank c = false ∧ scan c cs = (token, rest) := by
  cases h with
  | lparen => exact ⟨'(', rest, rfl, rfl, rfl⟩
  | rparen => exact ⟨')', rest, rfl, rfl, rfl⟩
  | @operator letters written token known spelled =>
    have hkeyword : keyword? (source ++ rest) = some (token, rest) :=
      keyword?_eq_some_iff.mpr ⟨letters, source, known, rfl, spelled⟩
    cases source with
    | nil =>
      subst spelled
      simp [keywords] at known
    | cons c tail =>
      -- an operator starts with a letter, so it is tried
      have hletter : c.toLower ∈ letters := by simp [← spelled]
      have halpha := (letters_of_mem_keywords known).2.2 _ hletter
      have hword := isWordChar_of_isAlpha (Text.isAlpha_of_isAlpha_toLower halpha)
      simp only [isWordChar, Bool.and_eq_true, Bool.not_eq_true', bne_iff_ne] at hword
      obtain ⟨⟨hblank, hopen⟩, hclose⟩ := hword
      rw [List.cons_append] at hkeyword
      refine ⟨c, tail ++ rest, rfl, hblank, ?_⟩
      rw [scan, if_neg hopen, if_neg hclose, hkeyword]
  | @closed quote content isQuote notMem =>
    have hblank : Text.isBlank quote = false := by rcases isQuote with rfl | rfl <;> rfl
    refine ⟨quote, content ++ quote :: rest, by simp, hblank, ?_⟩
    rw [scan_quote isQuote, splitQuoted_append notMem]
  | @unclosed quote content isQuote notMem =>
    have hblank : Text.isBlank quote = false := by rcases isQuote with rfl | rfl <;> rfl
    refine ⟨quote, content, by simp, hblank, ?_⟩
    rw [scan_quote isQuote, splitQuoted_of_notMem notMem]
  | @word text rest plain ends =>
    obtain ⟨c, cs, htext⟩ :=
      List.exists_cons_of_ne_nil (String.toList_eq_nil_iff.not.mpr plain.ne_empty)
    refine ⟨c, cs ++ rest, by rw [htext, List.cons_append], plain.not_blank c (by simp [htext]), ?_⟩
    exact scan_word plain htext ends

/-! ## Texts -/

/-- What stands between the blanks of a text are the sources of its tokens. -/
theorem spells_ofChars (cs : List Char) : Spells (ofChars cs) cs := by
  induction cs using ofChars.induct with
  | case1 cs htrim =>
    rw [ofChars_eq_match, htrim]
    exact .blanks ((Text.trimStart_eq_nil_iff cs).mp htrim)
  | case2 cs c rest htrim ih =>
    have hc : Text.isBlank c = false := by
      have := List.head?_dropWhile_not Text.isBlank cs
      rwa [← Text.trimStart, htrim] at this
    obtain ⟨source, hstart, hsource⟩ := exists_source_scan hc rest
    have hgap : ∀ d ∈ cs.takeWhile Text.isBlank, Text.isBlank d = true :=
      fun d hd => List.mem_takeWhile_imp hd
    have hcs : cs.takeWhile Text.isBlank ++ (source ++ (scan c rest).2) = cs := by
      rw [← hstart, ← htrim, Text.takeWhile_append_trimStart]
    have hspells := Spells.cons hgap hsource ih
    rw [hcs] at hspells
    rwa [ofChars_eq_match, htrim]

theorem ofChars_append_of_blank {gap : List Char} (h : ∀ c ∈ gap, Text.isBlank c = true)
    (cs : List Char) : ofChars (gap ++ cs) = ofChars cs := by
  induction gap with
  | nil => rfl
  | cons c gap ih =>
    obtain ⟨hc, hgap⟩ := List.forall_mem_cons.mp h
    rw [List.cons_append, ofChars_cons_of_blank hc, ih hgap]

/-- The tokens that a text spells are those that it is cut into. -/
theorem Spells.ofChars_eq {tokens : List Token} {cs : List Char} (h : Spells tokens cs) :
    ofChars cs = tokens := by
  induction h with
  | @blanks gap blank => rw [ofChars_eq_match, (Text.trimStart_eq_nil_iff gap).mpr blank]
  | @cons gap source rest token tokens blank first behind ih =>
    obtain ⟨c, cs, hstart, hc, hscan⟩ := first.scan_eq
    rw [ofChars_append_of_blank blank, hstart, ofChars_cons hc, hscan, ih]

theorem spells_iff {tokens : List Token} {cs : List Char} :
    Spells tokens cs ↔ ofChars cs = tokens :=
  ⟨Spells.ofChars_eq, fun h => h ▸ spells_ofChars cs⟩

/-- There is no token in a blank text, and one in every other. -/
theorem ofChars_eq_nil_iff (cs : List Char) :
    ofChars cs = [] ↔ ∀ c ∈ cs, Text.isBlank c = true := by
  rw [← spells_iff]
  constructor
  · rintro ⟨blank⟩
    exact blank
  · exact Spells.blanks

end Token

/-- A filter never compiles to the predicate without any condition. -/
theorem Filter.compile_ne_all (filter : Filter) : filter.compile ≠ .all := by
  cases filter with
  | compare path comparison value =>
    cases value with
    | none => exact Predicate.noConfusion
    | some value => cases comparison <;> exact Predicate.noConfusion
  | present | and | or | missing => exact Predicate.noConfusion

/-- Every document matches a text without tokens, and no other text gives that predicate. -/
theorem Predicate.ofText_eq_all_iff (text : String) :
    ofText (some text) = .all ↔ Token.ofText text = [] := by
  rw [ofText, Option.bind_some, Filter.ofText?, Filter.ofTokens?]
  cases Token.ofText text with
  | nil => exact iff_of_true rfl rfl
  | cons token tokens =>
    exact iff_of_false (Filter.compile_ne_all _) (List.cons_ne_nil token tokens)

/-- No character of a filter text is lost.  The text consists of the sources of its tokens, one
after the other, with nothing but blanks in front of each and at the end, and it can be taken apart
into sources and blanks in no other way.  So there is no token, and every document matches, exactly
if the whole text is blank. -/
theorem Token.no_text_lost (text : String) :
    Spells (ofText text) text.toList
      ∧ (∀ tokens, Spells tokens text.toList → tokens = ofText text)
      ∧ (ofText text = [] ↔ ∀ c ∈ text.toList, Text.isBlank c = true)
      ∧ (Predicate.ofText (some text) = .all ↔ ∀ c ∈ text.toList, Text.isBlank c = true) := by
  have hnil : ofText text = [] ↔ ∀ c ∈ text.toList, Text.isBlank c = true :=
    ofChars_eq_nil_iff text.toList
  refine ⟨spells_ofChars text.toList, ?_, hnil, ?_⟩
  · intro tokens hspells
    exact hspells.ofChars_eq.symm
  · rw [Predicate.ofText_eq_all_iff, hnil]

end Scim
