import Mathlib.Data.List.TakeWhile
import Mathlib.Data.UInt
import Scim.Listing
import Scim.Proofs.Etag

/-!
# The parameters of a listing are in range

A query hands the parameters of a listing over as texts and a search request as numbers.  The
parameters are in range whatever the texts are, words of 64 bits are enough to compute them, and the
decimal texts of the numbers of a search request give the parameters of the request
(`ListParams.query_agrees_with_search`).
-/

namespace Scim

/-! ## Leading digits -/

namespace Text

theorem isBlank_of_isDigit {c : Char} (h : c.isDigit = true) : isBlank c = false := by
  have hrange := toNat_of_isDigit h
  exact isBlank_of_visible (by omega)

end Text

namespace Numeral

theorem exists_toDigits_eq_cons (n : Nat) :
    ∃ c cs, Nat.toDigits 10 n = c :: cs ∧ c.isDigit = true := by
  obtain ⟨c, cs, hcons⟩ := List.exists_cons_of_ne_nil (Nat.toDigits_ne_nil (n := n) (b := 10))
  exact ⟨c, cs, hcons, isDigit_of_mem_toDigits (n := n) (by rw [hcons]; exact List.mem_cons_self)⟩

/-- A sign is no digit. -/
theorem sign_of_isDigit {c : Char} (h : c.isDigit = true) (cs : List Char) :
    sign (c :: cs) = (false, c :: cs) := by
  unfold sign
  split
  · next hminus =>
    obtain rfl := (List.cons.inj hminus).1
    cases h
  · next hplus =>
    obtain rfl := (List.cons.inj hplus).1
    cases h
  · rfl

/-- The decimal digits of a number up to the cap denote it. -/
theorem leading?_toDigits {cap n : Nat} (h : n ≤ cap) :
    leading? cap (Nat.toDigits 10 n) = some (n : Int) := by
  have hsign : sign (Nat.toDigits 10 n) = (false, Nat.toDigits 10 n) := by
    obtain ⟨c, cs, hcons, hdigit⟩ := exists_toDigits_eq_cons n
    rw [hcons, sign_of_isDigit hdigit]
  have hspan : (spanDigits (Nat.toDigits 10 n)).1 = Nat.toDigits 10 n :=
    List.takeWhile_eq_self_iff.mpr fun c => isDigit_of_mem_toDigits
  simp only [leading?, hsign, hspan, Nat.toDigits_ne_nil, if_false, value_toDigits]
  rw [Nat.min_eq_left h]
  rfl

/-- Whatever the sign is, the cap holds. -/
theorem natAbs_leading?_le {cap : Nat} {cs : List Char} {n : Int} (h : leading? cap cs = some n) :
    n.natAbs ≤ cap := by
  unfold leading? at h
  generalize sign cs = signed at h
  obtain ⟨negative, body⟩ := signed
  simp only at h
  split at h
  · cases h
  · cases negative <;> cases h <;> omega

end Numeral

namespace ListParams

/-- The decimal text of a number up to the cap is read as the number. -/
theorem leadingNumber?_repr {n : Nat} (h : n ≤ numberCap) :
    leadingNumber? (Nat.repr n) = some (n : Int) := by
  have htrim : Text.trimStart (Nat.toDigits 10 n) = Nat.toDigits 10 n := by
    obtain ⟨c, cs, hcons, hdigit⟩ := Numeral.exists_toDigits_eq_cons n
    have hblank : ¬ Text.isBlank c = true := by simp [Text.isBlank_of_isDigit hdigit]
    rw [hcons, Text.trimStart, List.dropWhile_cons_of_neg hblank]
  rw [leadingNumber?, Nat.toList_repr, htrim, Numeral.leading?_toDigits h]

/-! ## The two numbers of a query -/

/-- The index of the first result: the number of the parameter, raised to one. -/
theorem startIndex_ofQuery (query : ListQuery) (config : ServiceConfig) :
    (ofQuery query config).startIndex
      = (query.startIndex.bind leadingNumber?).elim 1 fun n => (max n 1).toNat := by
  unfold ofQuery
  cases query.startIndex.bind leadingNumber? <;> rfl

/-- The count: the number of the parameter, raised to zero, within the limit. -/
theorem count_ofQuery (query : ListQuery) (config : ServiceConfig) :
    (ofQuery query config).count
      = min ((query.count.bind leadingNumber?).elim config.defaultCount fun n => (max n 0).toNat)
        config.maxResults := by
  unfold ofQuery
  cases query.count.bind leadingNumber? <;> rfl

theorem one_le_startIndex (query : ListQuery) (config : ServiceConfig) :
    1 ≤ (ofQuery query config).startIndex := by
  rw [startIndex_ofQuery]
  cases query.startIndex.bind leadingNumber? with
  | none => exact Nat.le_refl 1
  | some n =>
    show 1 ≤ (max n 1).toNat
    omega

theorem startIndex_le_numberCap (query : ListQuery) (config : ServiceConfig) :
    (ofQuery query config).startIndex ≤ numberCap := by
  have hone : 1 ≤ numberCap := by decide
  rw [startIndex_ofQuery]
  cases hread : query.startIndex.bind leadingNumber? with
  | none => exact hone
  | some n =>
    obtain ⟨text, -, hnumber⟩ := Option.bind_eq_some_iff.mp hread
    have hcap : n.natAbs ≤ numberCap := Numeral.natAbs_leading?_le hnumber
    show (max n 1).toNat ≤ numberCap
    omega

theorem count_le_maxResults (query : ListQuery) (config : ServiceConfig) :
    (ofQuery query config).count ≤ config.maxResults := by
  rw [count_ofQuery]
  exact Nat.min_le_right _ _

/-! ## In words of 64 bits -/

/-- The number at the start of a parameter, as a signed word.  Digits that do not fit count as the
greatest word, and the product with the sign is the one of words. -/
def leadingWord? (text : String) : Option Int64 :=
  let (negative, body) := Numeral.sign (Text.trimStart text.toList)
  let digits := (Numeral.spanDigits body).1
  if digits = [] then none
  else
    let value := Numeral.value digits
    let magnitude := if value ≤ maxInt64 then Int64.ofNat value else Int64.maxValue
    some ((if negative then -1 else 1) * magnitude)

/-- The index of the first result, as a word. -/
def startIndexWord (query : ListQuery) : UInt64 :=
  (query.startIndex.bind leadingWord?).elim 1 fun n => (max n 1).toUInt64

/-- The count, as a word, where the configuration is in words as well. -/
def countWord (query : ListQuery) (defaultCount maxResults : UInt64) : UInt64 :=
  min ((query.count.bind leadingWord?).elim defaultCount fun n => (max n 0).toUInt64) maxResults

theorem magnitude_eq (value : Nat) :
    (if value ≤ maxInt64 then Int64.ofNat value else Int64.maxValue)
      = Int64.ofNat (min value numberCap) := by
  split
  · next hfits => rw [Nat.min_eq_left (show value ≤ numberCap from hfits)]
  · next hover =>
    rw [Nat.min_eq_right (show numberCap ≤ value from Nat.le_of_not_le hover)]
    rfl

/-- The product with the sign does not overflow. -/
theorem toInt_signed {magnitude : Nat} (h : magnitude ≤ numberCap) (negative : Bool) :
    ((if negative then -1 else 1) * Int64.ofNat magnitude).toInt
      = if negative then -(magnitude : Int) else magnitude := by
  have hbound : magnitude < 2 ^ 63 := Nat.lt_of_le_of_lt h (by decide)
  cases negative with
  | false =>
    show ((1 : Int64) * Int64.ofNat magnitude).toInt = magnitude
    rw [Int64.one_mul, Int64.toInt_ofNat_of_lt hbound]
  | true =>
    show ((-1 : Int64) * Int64.ofNat magnitude).toInt = -(magnitude : Int)
    rw [← Int64.neg_eq_neg_one_mul, Int64.toInt_neg_ofNat_of_le (Nat.le_of_lt hbound)]

/-- The words are the numbers that are read. -/
theorem toInt_leadingWord? (text : String) :
    (leadingWord? text).map Int64.toInt = leadingNumber? text := by
  unfold leadingWord? leadingNumber? Numeral.leading?
  generalize Numeral.sign (Text.trimStart text.toList) = signed
  obtain ⟨negative, body⟩ := signed
  simp only [magnitude_eq]
  split
  · rfl
  · rw [Option.map_some, toInt_signed (Nat.min_le_right _ _)]

theorem toInt_max (a b : Int64) : (max a b).toInt = max a.toInt b.toInt := by
  show (if a ≤ b then b else a).toInt = max a.toInt b.toInt
  split
  · next hle => rw [Int.max_eq_right (Int64.le_iff_toInt_le.mp hle)]
  · next hlt =>
    have hle : b.toInt ≤ a.toInt := by
      rw [Int64.le_iff_toInt_le] at hlt
      omega
    rw [Int.max_eq_left hle]

/-- What is raised to a floor that is not negative can be read without its sign. -/
theorem toNat_toUInt64_max {floor : Int64} (hfloor : 0 ≤ floor.toInt) (n : Int64) :
    (max n floor).toUInt64.toNat = (max n.toInt floor.toInt).toNat := by
  have hle : 0 ≤ max n floor := by
    rw [Int64.le_iff_toInt_le, toInt_max]
    exact Int.le_trans hfloor (Int.le_max_right _ _)
  rw [Int64.toNat_toUInt64_of_le hle, ← Int64.toNat_toInt, toInt_max]

/-- The words of a parameter are the numbers that are read from it. -/
theorem bind_leadingNumber? (parameter : Option String) :
    parameter.bind leadingNumber? = (parameter.bind leadingWord?).map Int64.toInt := by
  cases parameter with
  | none => rfl
  | some text => exact (toInt_leadingWord? text).symm

theorem toNat_startIndexWord (query : ListQuery) (config : ServiceConfig) :
    (startIndexWord query).toNat = (ofQuery query config).startIndex := by
  rw [startIndex_ofQuery, startIndexWord, bind_leadingNumber?]
  cases query.startIndex.bind leadingWord? with
  | none => rfl
  | some n => exact toNat_toUInt64_max (by decide) n

theorem toNat_countWord (query : ListQuery) {config : ServiceConfig}
    {defaultCount maxResults : UInt64} (hdefault : config.defaultCount = defaultCount.toNat)
    (hmax : config.maxResults = maxResults.toNat) :
    (countWord query defaultCount maxResults).toNat = (ofQuery query config).count := by
  rw [count_ofQuery, countWord, UInt64.toNat_min, bind_leadingNumber?, hdefault, hmax]
  cases query.count.bind leadingWord? with
  | none => rfl
  | some n => exact congrArg (min · maxResults.toNat) (toNat_toUInt64_max (by decide) n)

/-- The subtraction of words does not overflow either. -/
theorem toNat_startIndexWord_sub_one (query : ListQuery) (config : ServiceConfig) :
    (startIndexWord query - 1).toNat = (ofQuery query config).skip := by
  have hone : 1 ≤ startIndexWord query := by
    rw [UInt64.le_iff_toNat_le, toNat_startIndexWord query config]
    exact one_le_startIndex query config
  rw [UInt64.toNat_sub_of_le _ _ hone, toNat_startIndexWord query config]
  rfl

/-! ## Queries and search requests -/

/-- The query with the decimal texts of the numbers of a search request. -/
def asQuery (request : SearchRequest) : ListQuery where
  startIndex := request.startIndex.map Nat.repr
  count := request.count.map Nat.repr
  filter := request.filter
  sortBy := request.sortBy
  sortOrder := request.sortOrder

/-- The text of a number is read as the number. -/
theorem bind_leadingNumber?_repr {number : Option Nat} (h : ∀ n ∈ number, n < 2 ^ 63) :
    (number.map Nat.repr).bind leadingNumber? = number.map Nat.cast := by
  cases number with
  | none => rfl
  | some n => exact leadingNumber?_repr (Nat.le_of_lt_succ (h n rfl))

theorem startIndex_ofQuery_asQuery {request : SearchRequest}
    (h : ∀ n ∈ request.startIndex, n < 2 ^ 63) (config : ServiceConfig) :
    (ofQuery (asQuery request) config).startIndex = (ofSearch request config).startIndex := by
  rw [startIndex_ofQuery, asQuery, bind_leadingNumber?_repr h, ofSearch]
  cases request.startIndex with
  | none => rfl
  | some n =>
    show (max (n : Int) 1).toNat = max n 1
    omega

theorem count_ofQuery_asQuery {request : SearchRequest}
    (h : ∀ n ∈ request.count, n < 2 ^ 63) (config : ServiceConfig) :
    (ofQuery (asQuery request) config).count = (ofSearch request config).count := by
  rw [count_ofQuery, asQuery, bind_leadingNumber?_repr h, ofSearch]
  cases request.count with
  | none => rfl
  | some n =>
    show min (max (n : Int) 0).toNat config.maxResults = min n config.maxResults
    omega

/-- Queries and search requests agree.  Whatever the texts of a query and the configuration are,
the first index is at least one, the count is within the limit and as many results are passed over
as come before the first index, and the arithmetic of words of 64 bits computes these numbers
without overflow.  A query with the decimal texts of the numbers of a search request comes to the
same parameters as the request, as long as the numbers are below `2 ^ 63`. -/
theorem query_agrees_with_search (config : ServiceConfig) :
    (∀ query : ListQuery,
      1 ≤ (ofQuery query config).startIndex
      ∧ (ofQuery query config).startIndex ≤ maxInt64
      ∧ (ofQuery query config).count ≤ config.maxResults
      ∧ (ofQuery query config).skip + 1 = (ofQuery query config).startIndex
      ∧ (startIndexWord query).toNat = (ofQuery query config).startIndex
      ∧ (startIndexWord query - 1).toNat = (ofQuery query config).skip
      ∧ ∀ defaultCount maxResults : UInt64, config.defaultCount = defaultCount.toNat →
          config.maxResults = maxResults.toNat →
          (countWord query defaultCount maxResults).toNat = (ofQuery query config).count)
    ∧ ∀ request : SearchRequest, (∀ n ∈ request.startIndex, n < 2 ^ 63) →
        (∀ n ∈ request.count, n < 2 ^ 63) →
        ofQuery (asQuery request) config = ofSearch request config := by
  refine ⟨fun query => ?_, fun request hstart hcount => ?_⟩
  · have hone := one_le_startIndex query config
    exact ⟨hone, startIndex_le_numberCap query config, count_le_maxResults query config,
      Nat.sub_add_cancel hone, toNat_startIndexWord query config,
      toNat_startIndexWord_sub_one query config,
      fun _ _ hdefault hmax => toNat_countWord query hdefault hmax⟩
  · have hindex := startIndex_ofQuery_asQuery hstart config
    have hlimit := count_ofQuery_asQuery hcount config
    -- the texts of the two are handled alike
    unfold ofQuery ofSearch at hindex hlimit ⊢
    simp only at hindex hlimit
    rw [hindex, hlimit]
    rfl

/-- A configuration whose default count is above its limit. -/
def tightConfig : ServiceConfig := { maxResults := 50 }

/-- The least index and the greatest count. -/
def extremeRequest : SearchRequest :=
  { startIndex := some 0, count := some 9223372036854775807, filter := some " " }

theorem query_agrees_with_search_of_extreme :
    (countWord { count := some "+99999999999999999999" } 100 50).toNat
      = (ofQuery { count := some "+99999999999999999999" } tightConfig).count
    ∧ ofQuery (asQuery extremeRequest) tightConfig = ofSearch extremeRequest tightConfig
    ∧ ofSearch extremeRequest tightConfig = ⟨1, 50, none, none, .ascending⟩ := by
  obtain ⟨hquery, hsearch⟩ := query_agrees_with_search tightConfig
  obtain ⟨-, -, -, -, -, -, hcount⟩ := hquery { count := some "+99999999999999999999" }
  have hstart : ∀ n ∈ extremeRequest.startIndex, n < 2 ^ 63 := by decide
  have hlimit : ∀ n ∈ extremeRequest.count, n < 2 ^ 63 := by decide
  exact ⟨hcount 100 50 rfl rfl, hsearch extremeRequest hstart hlimit, rfl⟩

/-- Beyond the cap the two differ. -/
example : ofQuery (asQuery { startIndex := some 9223372036854775808 }) {}
    ≠ ofSearch { startIndex := some 9223372036854775808 } {} := by
  decide

end ListParams

end Scim
