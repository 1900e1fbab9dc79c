import Scim.Filter.Basic
import Scim.Proofs.Filter.Token

/-!
# Printing filters

A complete filter is printed with as few parentheses as the grammar allows, and reading the text
gives the filter back.  The proof has two halves.  The text is cut into the tokens that spell the
filter, whatever follows it.  Behind these tokens the reader stands where it would stand behind one
operand: the group it is in has grown by the filter.
-/

namespace Scim

/-! ## The printer -/

namespace Comparison

/-- The operator of a comparison. -/
def token : Comparison → Token
  | equal => .eq
  | contains => .co
  | startsWith => .sw

/-- The spelling of the operator. -/
def letters : Comparison → List Char
  | equal => ['e', 'q']
  | contains => ['c', 'o']
  | startsWith => ['s', 'w']

end Comparison

namespace Filter

def isOr : Filter → Bool
  | or _ _ => true
  | _ => false

def isLogical : Filter → Bool
  | and _ _ => true
  | or _ _ => true
  | _ => false

/-- A text in parentheses, where they are needed. -/
def enclose (needed : Bool) (cs : List Char) : List Char :=
  if needed then '(' :: (cs ++ [')']) else cs

/-- The text of a filter, where `quote` chooses the quotes around a value. -/
def chars (quote : String → Char) : Filter → List Char
  | present path => path.toList ++ ' ' :: ['p', 'r']
  | compare path comparison none => path.toList ++ ' ' :: comparison.letters
  | compare path comparison (some value) =>
    path.toList ++ ' ' :: (comparison.letters
      ++ ' ' :: quote value :: (value.toList ++ [quote value]))
  | and left right =>
    enclose left.isOr (left.chars quote)
      ++ ' ' :: 'a' :: 'n' :: 'd' :: ' ' :: enclose right.isLogical (right.chars quote)
  | or left right =>
    left.chars quote ++ ' ' :: 'o' :: 'r' :: ' ' :: enclose right.isOr (right.chars quote)
  | missing => []

/-- The printed filter. -/
def print (quote : String → Char) (f : Filter) : String :=
  String.ofList (f.chars quote)

/-! ## What can be printed -/

/-- The paths of a filter. -/
def paths : Filter → List String
  | present path => [path]
  | compare path _ _ => [path]
  | and left right => left.paths ++ right.paths
  | or left right => left.paths ++ right.paths
  | missing => []

/-- The values of a filter. -/
def values : Filter → List String
  | compare _ _ (some value) => [value]
  | and left right => left.values ++ right.values
  | or left right => left.values ++ right.values
  | _ => []

/-- A quote that can stand around a value. -/
def Encloses (quote : Char) (value : String) : Prop :=
  (quote = '"' ∨ quote = '\'') ∧ quote ∉ value.toList

/-- The double quote, unless the value holds one. -/
def usualQuote (value : String) : Char :=
  if '"' ∈ value.toList then '\'' else '"'

theorem encloses_usualQuote {value : String} (h : ¬ ('"' ∈ value.toList ∧ '\'' ∈ value.toList)) :
    Encloses (usualQuote value) value := by
  unfold usualQuote Encloses
  by_cases hdouble : '"' ∈ value.toList
  · rw [if_pos hdouble]
    exact ⟨.inr rfl, fun hsingle => h ⟨hdouble, hsingle⟩⟩
  · rw [if_neg hdouble]
    exact ⟨.inl rfl, hdouble⟩

/-- A filter whose text is read back: nothing is missing, its paths are plain, and its values stand
between quotes that they do not hold. -/
def Printable (quote : String → Char) : Filter → Prop
  | present path => IsPlainPath path
  | compare path _ (some value) => IsPlainPath path ∧ Encloses (quote value) value
  | compare _ _ none => False
  | and left right => left.Printable quote ∧ right.Printable quote
  | or left right => left.Printable quote ∧ right.Printable quote
  | missing => False

theorem printable_of_complete {quote : String → Char} {f : Filter}
    (hcomplete : f.isIncomplete = false) (hpaths : ∀ path ∈ f.paths, IsPlainPath path)
    (hvalues : ∀ value ∈ f.values, Encloses (quote value) value) : f.Printable quote := by
  induction f with
  | present path => exact hpaths path (by simp [paths])
  | compare path comparison value =>
    cases value with
    | none => simp [isIncomplete] at hcomplete
    | some value => exact ⟨hpaths path (by simp [paths]), hvalues value (by simp [values])⟩
  | and left right ihl ihr | or left right ihl ihr =>
    -- both connectives gather what their operands need
    simp only [isIncomplete, Bool.or_eq_false_iff] at hcomplete
    simp only [paths, values, List.mem_append] at hpaths hvalues
    exact ⟨ihl hcomplete.1 (fun p hp => hpaths p (.inl hp)) (fun v hv => hvalues v (.inl hv)),
      ihr hcomplete.2 (fun p hp => hpaths p (.inr hp)) (fun v hv => hvalues v (.inr hv))⟩
  | missing => simp [isIncomplete] at hcomplete

/-! ## From the text to its tokens -/

/-- Tokens in parentheses, where they are needed. -/
def encloseTokens (needed : Bool) (tokens : List Token) : List Token :=
  if needed then .lparen :: (tokens ++ [.rparen]) else tokens

/-- The tokens that spell a filter. -/
def tokens : Filter → List Token
  | present path => [.word path, .pr]
  | compare path comparison none => [.word path, comparison.token]
  | compare path comparison (some value) => [.word path, comparison.token, .quoted value]
  | and left right =>
    encloseTokens left.isOr left.tokens ++ .and :: encloseTokens right.isLogical right.tokens
  | or left right => left.tokens ++ .or :: encloseTokens right.isOr right.tokens
  | missing => []

theorem ofChars_enclose {cs : List Char} {ts : List Token}
    (h : ∀ rest, Token.ofChars (cs ++ rest) = ts ++ Token.ofChars rest) (needed : Bool)
    (rest : List Char) :
    Token.ofChars (enclose needed cs ++ rest) = encloseTokens needed ts ++ Token.ofChars rest := by
  cases needed with
  | false => exact h rest
  | true =>
    simp only [enclose, encloseTokens, if_true, List.cons_append, List.append_assoc,
      List.nil_append]
    rw [Token.ofChars_lparen, h, Token.ofChars_rparen]

theorem ofChars_letters (comparison : Comparison) (rest : List Char) :
    Token.ofChars (comparison.letters ++ rest) = comparison.token :: Token.ofChars rest := by
  cases comparison with
  | equal => exact Token.ofChars_eq rest
  | contains => exact Token.ofChars_co rest
  | startsWith => exact Token.ofChars_sw rest

theorem ofChars_blank (rest : List Char) : Token.ofChars (' ' :: rest) = Token.ofChars rest :=
  Token.ofChars_cons_of_blank rfl rest

/-- The text of a filter is cut into the tokens that spell it, whatever follows. -/
theorem ofChars_chars {quote : String → Char} {f : Filter} (h : f.Printable quote)
    (rest : List Char) :
    Token.ofChars (f.chars quote ++ rest) = f.tokens ++ Token.ofChars rest := by
  induction f generalizing rest with
  | present path =>
    simp only [chars, tokens, List.append_assoc, List.cons_append, List.nil_append]
    rw [Token.ofChars_word h, Token.ofChars_pr]
  | compare path comparison value =>
    cases value with
    | none => exact h.elim
    | some value =>
      obtain ⟨hpath, hquote, hvalue⟩ := h
      simp only [chars, tokens, List.append_assoc, List.cons_append, List.nil_append]
      rw [Token.ofChars_word hpath, ofChars_letters, ofChars_blank,
        Token.ofChars_quoted hquote hvalue, String.ofList_toList]
  | and left right ihl ihr =>
    simp only [chars, tokens, List.append_assoc, List.cons_append]
    rw [ofChars_enclose (ihl h.1), ofChars_blank, Token.ofChars_and, ofChars_blank,
      ofChars_enclose (ihr h.2)]
  | or left right ihl ihr =>
    simp only [chars, tokens, List.append_assoc, List.cons_append]
    rw [ihl h.1, ofChars_blank, Token.ofChars_or, ofChars_blank, ofChars_enclose (ihr h.2)]
  | missing => exact h.elim

/-! ## From the tokens to the filter -/

/-- What the reader makes of tokens that spell `f`, when it stands in the group `g` before an
operand.  It goes on behind an operand, with the group at `g'` and that operand `last`. -/
def ReadsTo (ts : List Token) (g g' : Group) (last : Filter) : Prop :=
  ∀ outer rest, beforeOperand g outer (ts ++ rest) = behindOperand g' last outer rest

/-- Tokens that are read as one operand in every group. -/
def ReadsAsOperand (ts : List Token) (f : Filter) : Prop := ∀ g, ReadsTo ts g g f

/-- Tokens that are read as a conjunction in a group without conjuncts. -/
def ReadsAsConjunction (ts : List Token) (f : Filter) : Prop :=
  ∀ alternatives, ∃ conjuncts last,
    ReadsTo ts { alternatives } { alternatives, conjuncts } last
      ∧ join Filter.and conjuncts last = f

/-- Tokens that are read as a whole parenthesis. -/
def ReadsAsGroup (ts : List Token) (f : Filter) : Prop :=
  ∃ g last, ReadsTo ts {} g last ∧ g.close last = f

theorem ReadsAsOperand.conjunction {ts : List Token} {f : Filter} (h : ReadsAsOperand ts f) :
    ReadsAsConjunction ts f :=
  fun alternatives => ⟨none, f, h { alternatives }, rfl⟩

theorem ReadsAsConjunction.group {ts : List Token} {f : Filter} (h : ReadsAsConjunction ts f) :
    ReadsAsGroup ts f := by
  obtain ⟨conjuncts, last, hreads, hf⟩ := h none
  exact ⟨_, last, hreads, hf⟩

/-- Parentheses make an operand of a group. -/
theorem ReadsAsGroup.enclosed {ts : List Token} {f : Filter} (h : ReadsAsGroup ts f) :
    ReadsAsOperand (.lparen :: (ts ++ [.rparen])) f := by
  obtain ⟨g', last, hreads, rfl⟩ := h
  intro g outer rest
  simp only [List.cons_append, List.append_assoc, List.nil_append, beforeOperand]
  rw [hreads, behindOperand]

theorem ReadsAsConjunction.and {ls rs : List Token} {left right : Filter}
    (hl : ReadsAsConjunction ls left) (hr : ReadsAsOperand rs right) :
    ReadsAsConjunction (ls ++ .and :: rs) (.and left right) := by
  intro alternatives
  -- the left side waits as the conjuncts of the group while the right side is read
  obtain ⟨conjuncts, last, hreads, rfl⟩ := hl alternatives
  refine ⟨some (join Filter.and conjuncts last), right, ?_, rfl⟩
  intro outer rest
  rw [List.append_assoc, List.cons_append, hreads, behindOperand]
  exact hr _ outer rest

theorem ReadsAsGroup.or {ls rs : List Token} {left right : Filter}
    (hl : ReadsAsGroup ls left) (hr : ReadsAsConjunction rs right) :
    ReadsAsGroup (ls ++ .or :: rs) (.or left right) := by
  obtain ⟨g, last, hreadsl, rfl⟩ := hl
  -- the whole left side waits as the alternatives, behind which a new conjunction starts
  obtain ⟨conjuncts, last', hreadsr, rfl⟩ := hr (some (g.close last))
  refine ⟨{ alternatives := some (g.close last), conjuncts }, last', ?_, rfl⟩
  intro outer rest
  rw [List.append_assoc, List.cons_append, hreadsl, behindOperand]
  exact hreadsr outer rest

theorem readsAsOperand_compare (path : String) (comparison : Comparison) (value : String) :
    ReadsAsOperand [.word path, comparison.token, .quoted value]
      (compare path comparison (some value)) := by
  intro g outer rest
  cases comparison <;> rfl

/-- A printable filter is read back as a group from the tokens that spell it; as a conjunction
unless it is a disjunction; and as an operand unless it is logical. -/
theorem readsAs_tokens {quote : String → Char} {f : Filter} (h : f.Printable quote) :
    (f.isLogical = false → ReadsAsOperand f.tokens f) ∧
      (f.isOr = false → ReadsAsConjunction f.tokens f) ∧ ReadsAsGroup f.tokens f := by
  induction f with
  | present path =>
    have hoperand : ReadsAsOperand (present path).tokens (present path) := fun g outer rest => rfl
    exact ⟨fun _ => hoperand, fun _ => hoperand.conjunction, hoperand.conjunction.group⟩
  | compare path comparison value =>
    cases value with
    | none => exact h.elim
    | some value =>
      have hoperand := readsAsOperand_compare path comparison value
      exact ⟨fun _ => hoperand, fun _ => hoperand.conjunction, hoperand.conjunction.group⟩
  | and left right ihl ihr =>
    obtain ⟨-, hlc, hlg⟩ := ihl h.1
    obtain ⟨hro, -, hrg⟩ := ihr h.2
    have hleft : ReadsAsConjunction (encloseTokens left.isOr left.tokens) left := by
      cases hor : left.isOr with
      | false => exact hlc hor
      | true => exact hlg.enclosed.conjunction
    have hright : ReadsAsOperand (encloseTokens right.isLogical right.tokens) right := by
      cases hlogical : right.isLogical with
      | false => exact hro hlogical
      | true => exact hrg.enclosed
    have hand := hleft.and hright
    exact ⟨fun hlogical => by simp [isLogical] at hlogical, fun _ => hand, hand.group⟩
  | or left right ihl ihr =>
    obtain ⟨-, -, hlg⟩ := ihl h.1
    obtain ⟨-, hrc, hrg⟩ := ihr h.2
    have hright : ReadsAsConjunction (encloseTokens right.isOr right.tokens) right := by
      cases hor : right.isOr with
      | false => exact hrc hor
      | true => exact hrg.enclosed.conjunction
    exact ⟨fun hlogical => by simp [isLogical] at hlogical, fun hor => by simp [isOr] at hor,
      hlg.or hright⟩
  | missing => exact h.elim

/-! ## Reading what was printed -/

theorem tokens_ne_nil {quote : String → Char} {f : Filter} (h : f.Printable quote) :
    f.tokens ≠ [] := by
  cases f with
  | present path => simp [tokens]
  | compare path comparison value => cases value <;> simp [tokens]
  | and left right => simp [tokens]
  | or left right => simp [tokens]
  | missing => exact h.elim

/-- A printable filter is read back from its text. -/
theorem Printable.ofText?_eq {quote : String → Char} {f : Filter} (h : f.Printable quote) :
    ofText? (f.print quote) = some f := by
  have htokens : Token.ofText (f.print quote) = f.tokens := by
    have hchars := ofChars_chars h []
    rw [List.append_nil, Token.ofChars_nil, List.append_nil] at hchars
    rw [Token.ofText, print, String.toList_ofList, hchars]
  obtain ⟨-, -, g, last, hreads, hf⟩ := readsAs_tokens h
  have hread : beforeOperand {} [] f.tokens = f := calc
    beforeOperand {} [] f.tokens = beforeOperand {} [] (f.tokens ++ []) := by rw [List.append_nil]
    _ = behindOperand g last [] [] := hreads [] []
    _ = g.close last := rfl
    _ = f := hf
  rw [ofText?, htokens, ofTokens?, hread, if_neg (by simpa using tokens_ne_nil h)]

/-- A complete filter with plain paths, whose values hold at most one kind of quote, is read back
from its text.  This is so for the usual quotes, and for any others that enclose its values. -/
theorem ofText?_print {f : Filter} (hcomplete : f.isIncomplete = false)
    (hpaths : ∀ path ∈ f.paths, IsPlainPath path)
    (hvalues : ∀ value ∈ f.values, ¬ ('"' ∈ value.toList ∧ '\'' ∈ value.toList)) :
    ofText? (f.print usualQuote) = some f ∧
      ∀ quote : String → Char, (∀ value ∈ f.values, Encloses (quote value) value) →
        ofText? (f.print quote) = some f := by
  have hread : ∀ quote : String → Char, (∀ value ∈ f.values, Encloses (quote value) value) →
      ofText? (f.print quote) = some f :=
    fun quote hquote => (printable_of_complete hcomplete hpaths hquote).ofText?_eq
  exact ⟨hread usualQuote fun value hvalue => encloses_usualQuote (hvalues value hvalue), hread⟩

/-- A disjunction under `and`, with an apostrophe in one value and double quotes in the other. -/
theorem ofText?_print_quotes :
    ofText? "(title pr or userName eq \"o'brien\") and emails.value co '\"x\"'"
      = some (.and (.or (.present "title") (.compare "userName" .equal (some "o'brien")))
        (.compare "emails.value" .contains (some "\"x\""))) := by
  have hread := (ofText?_print
    (f := .and (.or (.present "title") (.compare "userName" .equal (some "o'brien")))
      (.compare "emails.value" .contains (some "\"x\"")))
    rfl (by decide) (by decide)).1
  exact hread

end Filter

end Scim
