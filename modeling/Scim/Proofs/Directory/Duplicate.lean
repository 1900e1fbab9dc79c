import Scim.Proofs.Directory.Failure
import Scim.Proofs.Directory.Unique
import Scim.Proofs.Filter.Agreement
import Scim.Proofs.Filter.Printing

/-!
# Duplicates and searches

Before it creates a resource, a client may search for the value of the unique attribute.  The guard
of a creation compares the value itself; the search reads it from the filter, where a boolean or a
number in quotes denotes that boolean or number (`operandValue`).  So both look for the same exactly
when the text denotes itself.  Then the creation is a duplicate just in case the search finds
something, in every state.  For any other text they come apart as soon as a resource has it.
-/

namespace Scim

/-! ## What a text denotes -/

/-- A text denotes itself if it spells neither a boolean in any case nor, between blanks, a
number. -/
theorem operandValue_eq_str_iff {text : String} :
    operandValue text = .str text ↔ Text.eqIgnoreAsciiCase text "true" = false
      ∧ Text.eqIgnoreAsciiCase text "false" = false
      ∧ numberOfText? (Text.trimmed text) = none := by
  unfold operandValue
  cases Text.eqIgnoreAsciiCase text "true" with
  | true => simp
  | false =>
    cases Text.eqIgnoreAsciiCase text "false" with
    | true => simp
    | false => cases numberOfText? (Text.trimmed text) <;> simp

namespace ResourceKind

variable {kind : ResourceKind} {v : String}

/-- The content that consists of the unique attribute alone. -/
def named (kind : ResourceKind) (v : String) : Json :=
  .obj [(kind.uniqueAttribute, .str v)]

/-- The filter for a value of the unique attribute, in double quotes. -/
def searchText (kind : ResourceKind) (v : String) : String :=
  kind.uniqueAttribute ++ " eq \"" ++ v ++ "\""

/-- A text that is not empty is a unique value. -/
theorem uniqueValue?_sanitize_named (kind : ResourceKind) (hv : v ≠ "") :
    kind.uniqueValue? (kind.sanitize (kind.named v)) = some (.str v) := by
  have hfind : Members.find? kind.uniqueAttribute (kind.sanitize (kind.named v))
      = some (.str v) := by
    cases kind <;> rfl
  have htruthy : (Json.str v).isTruthy = true := by
    simp [Json.isTruthy, hv]
  rw [uniqueValue?, hfind, Option.filter_some, if_pos htruthy]

/-- The filter is printed from the comparison that it is read as. -/
theorem ofText_searchText (kind : ResourceKind) (hquote : '"' ∉ v.toList) :
    Predicate.ofText (some (kind.searchText v))
      = .equals kind.uniqueAttribute (operandValue v) := by
  have hpath : IsPlainPath kind.uniqueAttribute := by
    cases kind <;> decide
  have hprintable : (Filter.compare kind.uniqueAttribute .equal (some v)).Printable fun _ => '"' :=
    ⟨hpath, Or.inl rfl, hquote⟩
  have hprint : (Filter.compare kind.uniqueAttribute .equal (some v)).print (fun _ => '"')
      = kind.searchText v := by
    rw [← String.toList_inj]
    simp [Filter.print, Filter.chars, Comparison.letters, searchText]
  have hread := hprintable.ofText?_eq
  rw [hprint] at hread
  rw [Predicate.ofText, Option.bind_some, hread]
  rfl

/-- The filter is not blank. -/
theorem nonBlank_searchText (kind : ResourceKind) (v : String) :
    ListParams.nonBlank (some (kind.searchText v)) = some (kind.searchText v) := by
  have hblank : Text.isBlankText (kind.searchText v) = false := by
    cases kind <;> simp [Text.isBlankText, searchText, uniqueAttribute, Text.isBlank]
  rw [ListParams.nonBlank, Option.filter_some, if_pos (by simp [hblank])]

end ResourceKind

/-- Something is counted exactly if some entry matches. -/
theorem Store.count_pos_iff {store : Store} {collection : String} {p : Predicate}
    {collation : Collation} :
    0 < store.count collection p collation
      ↔ (store.entries collection).any (Store.matching p collation) = true := by
  rw [Store.count, List.length_pos_iff_exists_mem, List.any_eq_true]
  simp only [List.mem_filter]

namespace Directory

variable {d : Directory} {kind : ResourceKind} {v : String}

/-! ## What both look for -/

/-- The search counts the documents with the value that the text denotes. -/
theorem totalResults_list_searchText (d : Directory) {query : ListQuery}
    (hquote : '"' ∉ v.toList) (hfilter : query.filter = some (kind.searchText v)) :
    (d.list kind (.ofQuery query d.config)).totalResults
      = d.store.count kind.collection (.equals kind.uniqueAttribute (operandValue v))
        .ignoreCase := by
  have hparams : (ListParams.ofQuery query d.config).filter = some (kind.searchText v) := by
    show ListParams.nonBlank query.filter = _
    rw [hfilter, kind.nonBlank_searchText]
  show d.store.count kind.collection (Predicate.ofText (ListParams.ofQuery query d.config).filter)
    .ignoreCase = _
  rw [hparams, kind.ofText_searchText hquote]

/-- The creation of a resource with the value alone is a duplicate. -/
def RejectsNamed (d : Directory) (kind : ResourceKind) (v : String) : Prop :=
  ∃ e, (d.perform (.create kind (kind.named v))).1 = .error e ∧ e.status = 409

/-- The creation is a duplicate exactly if some document has the text itself. -/
theorem rejectsNamed_iff (hv : v ≠ "") :
    d.RejectsNamed kind v ↔ (d.store.entries kind.collection).any
      (Store.matching (kind.guard (.str v)) .ignoreCase) = true := by
  have hvalue := kind.uniqueValue?_sanitize_named hv
  rw [← Bool.not_eq_false, ← ResourceKind.unclaimed_iff hvalue]
  constructor
  · rintro ⟨e, herror, hstatus⟩
    rw [perform_fst_eq_error_iff, Operation.run_create_eq_error_iff,
      ResourceKind.create_eq_error_iff, hvalue] at herror
    rcases herror with ⟨hnone, -⟩ | ⟨hclaimed, -⟩
    · cases hnone
    · exact hclaimed
  · intro hclaimed
    refine ⟨kind.duplicate, ?_, rfl⟩
    rw [perform_fst_eq_error_iff, Operation.run_create_eq_error_iff,
      ResourceKind.create_eq_error_iff]
    exact Or.inr ⟨hclaimed, rfl⟩

/-! ## A single resource -/

/-- A text that denotes something else is not found where it is the value. -/
theorem matching_operandValue_eq_false {e : Entry} (hvalue : kind.uniqueValue? e.body = some (.str v))
    (hother : operandValue v ≠ .str v) :
    Store.matching (.equals kind.uniqueAttribute (operandValue v)) .ignoreCase e = false := by
  have hfind : Members.find? kind.uniqueAttribute e.body = some (.str v) :=
    (Option.filter_eq_some_iff.mp hvalue).1
  have hcandidates : (Json.obj e.body).candidates kind.uniqueAttribute = [.str v] := by
    simp [Json.candidates, Json.resolve, ResourceKind.dottedNames_uniqueAttribute, Json.follow,
      Json.step, hfind, Json.withElements]
  show ((Json.obj e.body).candidates kind.uniqueAttribute).any
    (Collation.ignoreCase.same · (operandValue v)) = false
  rw [hcandidates]
  rcases operandValue_cases v with ⟨b, hb⟩ | ⟨n, hn⟩ | hself
  · rw [hb]
    rfl
  · rw [hn]
    rfl
  · exact absurd hself hother

/-- The first resource of its kind is the only entry, and holds the value. -/
theorem entries_perform_create_of_nil (hempty : d.store.entries kind.collection = [])
    (hv : v ≠ "") :
    ∃ e, (d.perform (.create kind (kind.named v))).2.store.entries kind.collection = [e]
      ∧ kind.uniqueValue? e.body = some (.str v) := by
  have hvalue := kind.uniqueValue?_sanitize_named hv
  have hunclaimed : kind.Unclaimed (kind.sanitize (kind.named v))
      (d.store.entries kind.collection) := by
    intro value _ e he
    rw [hempty] at he
    exact absurd he List.not_mem_nil
  have hsucceeds : (Operation.create kind (kind.named v)).Succeeds d.setting d.store _ _ :=
    .created (by rw [hvalue]; rfl) hunclaimed
  have hrun := Operation.run_eq_ok_iff.mpr hsucceeds
  refine ⟨⟨d.setting.fresh, d.setting.stampNew (kind.sanitize (kind.named v))⟩, ?_, ?_⟩
  · rw [perform, hrun]
    show (d.store.insert kind.collection _ _).entries kind.collection = _
    rw [Store.insert, Store.entries_change_self, hempty, List.nil_append]
  · rw [Setting.stampNew, uniqueValue?_stamp]
    exact hvalue

/-! ## Duplicates are what a search finds -/

/-- Duplicates are what a search finds, for every text that denotes itself: in every state a
creation with that value is a duplicate exactly if a search for the value finds something.  For any
other text the two come apart: once a resource has it as its value, another creation is a duplicate,
and the search finds nothing. -/
theorem duplicate_iff_found (kind : ResourceKind) {v : String} (hv : v ≠ "")
    (hquote : '"' ∉ v.toList) :
    (operandValue v = .str v → ∀ (d : Directory) (query : ListQuery),
      query.filter = some (kind.searchText v) →
        (d.RejectsNamed kind v ↔ 0 < (d.list kind (.ofQuery query d.config)).totalResults)) ∧
    (operandValue v ≠ .str v → ∀ config database ids clock events d,
      (opened config database ids clock).serveAll [.operation (.create kind (kind.named v))]
          = (events, d) →
        d.RejectsNamed kind v ∧ ∀ query : ListQuery, query.filter = some (kind.searchText v) →
          (d.list kind (.ofQuery query d.config)).totalResults = 0) := by
  constructor
  · intro hself d query hfilter
    rw [rejectsNamed_iff hv, totalResults_list_searchText d hquote hfilter, hself,
      Store.count_pos_iff]
    rfl
  · intro hother config database ids clock events d hrun
    have hd : d = ((opened config database ids clock).perform (.create kind (kind.named v))).2 :=
      (congrArg Prod.snd hrun).symm
    have hempty : (opened config database ids clock).store.entries kind.collection = [] := rfl
    obtain ⟨e, hentries, hvalue⟩ := entries_perform_create_of_nil hempty hv
    rw [← hd] at hentries
    constructor
    · rw [rejectsNamed_iff hv, hentries, List.any_cons, ResourceKind.matching_guard hvalue,
        Bool.true_or]
      simp [Collation.same, Collation.sameText, Text.eqIgnoreCase]
    · intro query hfilter
      rw [totalResults_list_searchText d hquote hfilter, Store.count, hentries,
        List.filter_cons_of_neg (by simp [matching_operandValue_eq_false hvalue hother])]
      rfl

/-- A plain directory with a single resource. -/
def plainWith (kind : ResourceKind) (v : String) : Directory :=
  (plain.perform (.create kind (kind.named v))).2

/-- A creation with a name in another case is a duplicate, and the search finds the user.  A group
whose name is a number is a duplicate as well, but the search finds nothing. -/
theorem duplicate_iff_found_of_ada :
    (((plainWith .user "ADA").RejectsNamed .user "ada"
        ↔ 0 < ((plainWith .user "ADA").list .user
          (.ofQuery { filter := some "userName eq \"ada\"" } {})).totalResults)
      ∧ ((plainWith .user "ADA").list .user
          (.ofQuery { filter := some "userName eq \"ada\"" } {})).totalResults = 1)
    ∧ ((plainWith .group "1e3").RejectsNamed .group "1e3"
      ∧ ((plainWith .group "1e3").list .group
          (.ofQuery { filter := some "displayName eq \"1e3\"" } {})).totalResults = 0) := by
  have hself : operandValue "ada" = .str "ada" :=
    operandValue_eq_str_iff.mpr ⟨by decide, by decide, by decide +kernel⟩
  have hother : operandValue "1e3" ≠ .str "1e3" := by
    rw [Ne, operandValue_eq_str_iff]
    rintro ⟨-, -, hnumber⟩
    revert hnumber
    decide +kernel
  obtain ⟨hagree, -⟩ := duplicate_iff_found .user (v := "ada") (by decide) (by decide)
  obtain ⟨-, hapart⟩ := duplicate_iff_found .group (v := "1e3") (by decide) (by decide)
  obtain ⟨hrejected, hmissed⟩ := hapart hother {} "scim"
    (fun n => .ofFn fun _ => Fin.ofNat 16 n) (fun _ => ⟨0, 0⟩) _ _ rfl
  exact ⟨⟨hagree hself _ { filter := some "userName eq \"ada\"" } rfl, by decide +kernel⟩,
    hrejected, hmissed { filter := some "displayName eq \"1e3\"" } rfl⟩

/-- A second user of the name "true" is a duplicate, and the search for the name finds nothing. -/
theorem duplicate_not_found_of_true :
    ¬ ((plainWith .user "true").RejectsNamed .user "true"
      ↔ 0 < ((plainWith .user "true").list .user
        (.ofQuery { filter := some "userName eq \"true\"" } {})).totalResults) := by
  have htotal : ((plainWith .user "true").list .user
      (.ofQuery { filter := some "userName eq \"true\"" } {})).totalResults = 0 := by
    decide +kernel
  have hrejected : (plainWith .user "true").RejectsNamed .user "true" :=
    (rejectsNamed_iff (by decide)).mpr (by decide +kernel)
  rw [htotal]
  intro hagree
  exact absurd (hagree.mp hrejected) (Nat.lt_irrefl 0)

end Directory

end Scim
