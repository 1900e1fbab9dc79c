import Scim.Proofs.Directory.Bookkeeping
import Scim.Proofs.Directory.Frame
import Scim.Proofs.Filter.Agreement
import Scim.Proofs.Filter.Printing

/-!
# Filters and what clients see

A filter is evaluated on the stored document, and a client that reads the resource sees another one:
its identifier is not part of the document, the version is not part of the resource, and of the
metadata only the times are stored.  So there are five paths at which a stored document and the
resource differ (`ResourceKind.shapedPaths`).  At every other path they look alike
(`ResourceKind.Document.alikeAt`), and a filter that stays clear of the five counts a resource
exactly if the resource that a client reads matches it.  At each of the five already the presence
test counts what it should not, or leaves out what it should count
(`Directory.filter_counts_shown`).
-/

namespace Scim

namespace ResourceKind

/-- The paths at which a resource is not what is stored. -/
def shapedPaths : List String :=
  ["id", versionKey, "meta.resourceType", "meta.version", "meta.location"]

variable {kind : ResourceKind} {version : Nat} {created modified baseUrl path : String}
  {id : Uuid} {body : Members}

/-! ## Metadata -/

theorem get?_storedTimes (created modified name : String) :
    (storedTimes created modified).get? name
      = if name = "lastModified" then some (.str modified)
        else if name = "created" then some (.str created) else none := by
  simp only [storedTimes, Json.ofPairs, Json.get?, Members.ofList, List.foldl_cons, List.foldl_nil,
    Members.find?_insert, Members.find?]

theorem get?_shownInfo (kind : ResourceKind) (baseUrl id : String) (version : Nat)
    (created modified name : String) :
    (kind.shownInfo baseUrl id version created modified).get? name
      = if name = "location" then some (.str (kind.location baseUrl id))
        else if name = "version" then some (.str (Etag.weak version))
        else if name = "lastModified" then some (.str modified)
        else if name = "created" then some (.str created)
        else if name = "resourceType" then some (.str kind.typeName) else none := by
  simp only [shownInfo, Json.ofPairs, Json.get?, Members.ofList, List.foldl_cons, List.foldl_nil,
    Members.find?_insert, Members.find?]

/-- Apart from the three texts that are not stored, metadata is shown as it is stored. -/
theorem get?_shownInfo_eq (kind : ResourceKind) (baseUrl id : String) (version : Nat)
    (created modified : String) {name : String}
    (hname : name ∉ ["resourceType", "version", "location"]) :
    (kind.shownInfo baseUrl id version created modified).get? name
      = (storedTimes created modified).get? name := by
  obtain ⟨htype, hversion, hlocation⟩ :
      name ≠ "resourceType" ∧ name ≠ "version" ∧ name ≠ "location" := by simpa using hname
  rw [get?_shownInfo, get?_storedTimes, if_neg hlocation, if_neg hversion, if_neg htype]

/-! ## Paths -/

/-- A path leads on from what its first name leads to. -/
theorem resolve_obj {first : String} {rest : List String} (h : dottedNames path = first :: rest)
    (members : Members) :
    (Json.obj members).resolve path
      = ((Members.find? first members).toList).flatMap (Json.follow rest) := by
  rw [Json.resolve, h]
  rfl

theorem follow_storedTimes (name : String) (names : List String) :
    (storedTimes created modified).follow (name :: names)
      = (((storedTimes created modified).get? name).toList).flatMap (Json.follow names) := rfl

theorem follow_shownInfo (name : String) (names : List String) :
    (kind.shownInfo baseUrl id.text version created modified).follow (name :: names)
      = (((kind.shownInfo baseUrl id.text version created modified).get? name).toList).flatMap
        (Json.follow names) := rfl

/-- Inside of the metadata, a resource shows what is stored unless a path ends in one of the three
texts that are not. -/
theorem follow_shownInfo_eq {name : String} {names : List String}
    (h : name ∈ ["resourceType", "version", "location"] → names ≠ []) :
    (storedTimes created modified).follow (name :: names)
      = (kind.shownInfo baseUrl id.text version created modified).follow (name :: names) := by
  rw [follow_storedTimes, follow_shownInfo]
  by_cases hname : name ∈ ["resourceType", "version", "location"]
  · -- the text is not stored, and the path goes on behind it
    obtain ⟨next, rest, rfl⟩ := List.exists_cons_of_ne_nil (h hname)
    simp only [List.mem_cons, List.not_mem_nil, or_false] at hname
    rcases hname with rfl | rfl | rfl <;> rw [get?_storedTimes, get?_shownInfo] <;> rfl
  · rw [get?_shownInfo_eq _ _ _ _ _ _ hname]

namespace Document

variable (h : kind.Document version created modified body)
include h

/-- A stored document and the resource look alike at every path but the five. -/
theorem alikeAt (baseUrl : String) (id : Uuid) (hpath : path ∉ shapedPaths) :
    Json.AlikeAt path (.obj body)
      (.obj (kind.shownMembers baseUrl id version created modified body)) := by
  obtain ⟨first, rest, hnames⟩ := List.exists_cons_of_ne_nil (dottedNames_ne_nil path)
  have hne (other : String) (hother : other ∈ shapedPaths) : dottedNames path ≠ dottedNames other :=
    fun heq => hpath (dottedNames_injective heq ▸ hother)
  rw [Json.AlikeAt, resolve_obj hnames, resolve_obj hnames]
  by_cases hfirst : first ∈ ["id", "meta", versionKey]
  · simp only [List.mem_cons, List.not_mem_nil, or_false] at hfirst
    rcases hfirst with rfl | rfl | rfl
    · -- nothing is stored, and behind the identifier there is nothing
      left
      rw [h.id, find?_id_shownMembers]
      cases rest with
      | nil => exact absurd hnames (hne "id" (by decide))
      | cons => rfl
    · rw [h.times, find?_meta_shownMembers]
      cases rest with
      | nil => exact Or.inr ⟨_, _, rfl, rfl⟩
      | cons name names =>
        left
        simp only [Option.toList_some, List.flatMap_singleton]
        refine follow_shownInfo_eq fun hname hnil => ?_
        simp only [List.mem_cons, List.not_mem_nil, or_false] at hname
        subst hnil
        rcases hname with rfl | rfl | rfl
        · exact hne "meta.resourceType" (by decide) hnames
        · exact hne "meta.version" (by decide) hnames
        · exact hne "meta.location" (by decide) hnames
    · -- nothing is shown, and behind the version there is nothing
      left
      rw [h.version, h.find?_versionKey_shownMembers]
      cases rest with
      | nil => exact absurd hnames (hne versionKey (by decide))
      | cons => rfl
  · left
    rw [h.find?_shownMembers_of_not_mem baseUrl id hfirst]

/-- A resource shows three texts in its metadata that are not stored. -/
theorem holds_present_meta_ne (baseUrl : String) (id : Uuid) (collation : Collation) {name : String}
    (hname : name ∈ ["resourceType", "version", "location"])
    (hnames : dottedNames path = ["meta", name]) :
    (Predicate.present path).holds collation (.obj body)
      ≠ (Predicate.present path).holds collation
        (.obj (kind.shownMembers baseUrl id version created modified body)) := by
  simp only [Predicate.holds, resolve_obj hnames, h.times, find?_meta_shownMembers,
    Option.toList_some, List.flatMap_singleton]
  rw [follow_storedTimes, follow_shownInfo, get?_storedTimes, get?_shownInfo]
  simp only [List.mem_cons, List.not_mem_nil, or_false] at hname
  rcases hname with rfl | rfl | rfl <;> simp [Json.follow]

/-- At each of the five, the presence test tells the stored document and the resource apart. -/
theorem holds_present_ne (baseUrl : String) (id : Uuid) (collation : Collation)
    (hpath : path ∈ shapedPaths) :
    (Predicate.present path).holds collation (.obj body)
      ≠ (Predicate.present path).holds collation
        (.obj (kind.shownMembers baseUrl id version created modified body)) := by
  have hid : dottedNames "id" = ["id"] := rfl
  have hversion : dottedNames versionKey = [versionKey] := rfl
  simp only [shapedPaths, List.mem_cons, List.not_mem_nil, or_false] at hpath
  rcases hpath with rfl | rfl | rfl | rfl | rfl
  · simp [Predicate.holds, resolve_obj hid, h.id, find?_id_shownMembers, Json.follow]
  · simp [Predicate.holds, resolve_obj hversion, h.version, h.find?_versionKey_shownMembers,
      Json.follow]
  · exact h.holds_present_meta_ne baseUrl id collation (by decide) rfl
  · exact h.holds_present_meta_ne baseUrl id collation (by decide) rfl
  · exact h.holds_present_meta_ne baseUrl id collation (by decide) rfl

end Document

end ResourceKind

/-! ## Filters that test for presence -/

/-- The filter text that tests whether an attribute is present. -/
def presenceText (path : String) : String :=
  path ++ " pr"

theorem ofText?_presenceText {path : String} (h : IsPlainPath path) :
    Filter.ofText? (presenceText path) = some (.present path) := by
  have hprintable : (Filter.present path).Printable fun _ => '"' := h
  have hprint : (Filter.present path).print (fun _ => '"') = presenceText path := by
    rw [← String.toList_inj]
    simp [Filter.print, Filter.chars, presenceText]
  rw [← hprint]
  exact hprintable.ofText?_eq

theorem ofText_presenceText {path : String} (h : IsPlainPath path) :
    Predicate.ofText (some (presenceText path)) = .present path := by
  rw [Predicate.ofText, Option.bind_some, ofText?_presenceText h]
  rfl

theorem readPathsOfText_presenceText {path : String} (h : IsPlainPath path) :
    Filter.readPathsOfText (some (presenceText path)) = [path] := by
  rw [Filter.readPathsOfText, Option.bind_some, ofText?_presenceText h]
  rfl

theorem isPlainPath_of_mem_shapedPaths {path : String} (h : path ∈ ResourceKind.shapedPaths) :
    IsPlainPath path := by
  simp only [ResourceKind.shapedPaths, List.mem_cons, List.not_mem_nil, or_false] at h
  rcases h with rfl | rfl | rfl | rfl | rfl <;> decide

/-! ## What is counted -/

namespace Directory

variable {clock : Nat → Timestamp} {events : List Event} {d : Directory} {kind : ResourceKind}
  {e : Entry}

/-- Whether the resource that a client reads matches a predicate. -/
def shownMatches (d : Directory) (kind : ResourceKind) (p : Predicate) (e : Entry) : Bool :=
  match (d.perform (.read kind e.id.text)).1 with
  | .ok (some resource) => p.holds .ignoreCase resource.content
  | _ => false

/-- A stored resource can be read, and is read as it is shown. -/
theorem Keyed.perform_read (h : d.Keyed) (he : e ∈ d.store.entries kind.collection) :
    (d.perform (.read kind e.id.text)).1 = .ok (some (d.setting.shown kind e)) := by
  have hfound : d.store.findById kind.collection e.id.text = some e := by
    rw [Store.findById_of_ofText? (Uuid.ofText?_text e.id),
      Store.lookup_eq_some_iff (h.distinct kind)]
    exact ⟨he, rfl⟩
  exact perform_read_eq_ok_iff.mpr ⟨e, hfound, rfl⟩

/-- A listing counts the stored documents that match. -/
theorem totalResults_list (d : Directory) (kind : ResourceKind) {params : ListParams}
    {text : Option String} (h : params.filter = ListParams.nonBlank text) :
    (d.list kind params).totalResults = (d.store.entries kind.collection).countP
      (Store.matching (Predicate.ofText text) .ignoreCase) := by
  rw [← Predicate.ofText_nonBlank, ← h, List.countP_eq_length_filter]
  rfl

/-- What a client reads of a stored resource, and how filters see the two. -/
theorem Bookkept.exists_read (h : Bookkept clock events d) (hkeyed : d.Keyed)
    (he : e ∈ d.store.entries kind.collection) :
    ∃ resource, (d.perform (.read kind e.id.text)).1 = .ok (some resource)
      ∧ (∀ path ∉ ResourceKind.shapedPaths, Json.AlikeAt path (.obj e.body) resource.content)
      ∧ ∀ path ∈ ResourceKind.shapedPaths, ∀ collation,
        (Predicate.present path).holds collation (.obj e.body)
          ≠ (Predicate.present path).holds collation resource.content := by
  obtain ⟨version, created, modified, hrecord, hdocument⟩ := h.documents kind e he
  refine ⟨_, hkeyed.perform_read he, ?_⟩
  rw [Setting.shown, hdocument.present_eq hrecord.version_le]
  exact ⟨fun path hpath => hdocument.alikeAt _ _ hpath,
    fun path hpath collation => hdocument.holds_present_ne _ _ collation hpath⟩

/-- Filters and what clients see.  After any run, every stored resource can be read.  A filter that
stays clear of the five paths at which resources are shaped matches the stored document exactly if it
matches the resource that is read, and so listings and searches count the resources that match as
they are read.  At each of the five paths the presence test does not agree on any resource. -/
theorem filter_counts_shown {config : ServiceConfig} {database : String} {ids : Nat → Uuid}
    {requests : List Request}
    (hrun : (opened config database ids clock).serveAll requests = (events, d))
    (hapart : d.IssuedApart) (hsorted : ∀ request ∈ requests, request.Sorted)
    (kind : ResourceKind) :
    (∀ text, (∀ path ∈ Filter.readPathsOfText text, path ∉ ResourceKind.shapedPaths) →
        (∀ e ∈ d.store.entries kind.collection, ∃ resource,
          (d.perform (.read kind e.id.text)).1 = .ok (some resource)
            ∧ Store.matching (Predicate.ofText text) .ignoreCase e
              = (Predicate.ofText text).holds .ignoreCase resource.content)
        ∧ (∀ query : ListQuery, query.filter = text →
          (d.list kind (.ofQuery query d.config)).totalResults
            = (d.store.entries kind.collection).countP
              (d.shownMatches kind (Predicate.ofText text)))
        ∧ ∀ (target : SearchTarget) (request : SearchRequest), target.kind = kind →
          request.filter = text → (d.search target request).totalResults
            = (d.store.entries kind.collection).countP
              (d.shownMatches kind (Predicate.ofText text)))
      ∧ ∀ path ∈ ResourceKind.shapedPaths, ∀ e ∈ d.store.entries kind.collection, ∃ resource,
        (d.perform (.read kind e.id.text)).1 = .ok (some resource)
          ∧ Store.matching (Predicate.ofText (some (presenceText path))) .ignoreCase e
            ≠ (Predicate.ofText (some (presenceText path))).holds .ignoreCase resource.content := by
  have hbook := bookkept_of_serveAll hrun hapart hsorted
  have hkeyed := keyed_of_serveAll hrun hapart
  constructor
  · intro text hpaths
    have hread : ∀ e ∈ d.store.entries kind.collection, ∃ resource,
        (d.perform (.read kind e.id.text)).1 = .ok (some resource)
          ∧ Store.matching (Predicate.ofText text) .ignoreCase e
            = (Predicate.ofText text).holds .ignoreCase resource.content := by
      intro e he
      obtain ⟨resource, hresource, halike, -⟩ := hbook.exists_read hkeyed he
      exact ⟨resource, hresource, Predicate.holds_ofText_eq .ignoreCase fun path hpath =>
        halike path (hpaths path hpath)⟩
    have hcount : (d.store.entries kind.collection).countP
          (Store.matching (Predicate.ofText text) .ignoreCase)
        = (d.store.entries kind.collection).countP
          (d.shownMatches kind (Predicate.ofText text)) := by
      refine List.countP_congr fun e he => ?_
      obtain ⟨resource, hresource, hsame⟩ := hread e he
      rw [shownMatches, hresource, hsame]
    refine ⟨hread, ?_, ?_⟩
    · rintro query rfl
      exact (d.totalResults_list kind rfl).trans hcount
    · rintro target request rfl rfl
      exact (d.totalResults_list target.kind rfl).trans hcount
  · intro path hpath e he
    obtain ⟨resource, hresource, -, hdiffers⟩ := hbook.exists_read hkeyed he
    refine ⟨resource, hresource, ?_⟩
    rw [ofText_presenceText (isPlainPath_of_mem_shapedPaths hpath)]
    exact hdiffers path hpath .ignoreCase

/-- A client creates a user. -/
def requestsOfAda : List Request :=
  [.operation (.create .user (.obj [("userName", .str "ada")]))]

/-- A search for users with a name counts the user. -/
theorem filter_counts_shown_of_ada :
    ((plain.serveAll requestsOfAda).2.search .users
        { filter := some (presenceText "userName") }).totalResults
      = ((plain.serveAll requestsOfAda).2.store.entries ResourceKind.user.collection).countP
        ((plain.serveAll requestsOfAda).2.shownMatches .user (.present "userName")) := by
  have hrun : plain.serveAll requestsOfAda = (_, _) := rfl
  have hapart : (plain.serveAll requestsOfAda).2.IssuedApart :=
    issuedApart_of_le_one (Nat.le_refl 1)
  have hsorted : ∀ request ∈ requestsOfAda, request.Sorted := by decide
  have hplain : IsPlainPath "userName" := by decide
  have hpaths : ∀ path ∈ Filter.readPathsOfText (some (presenceText "userName")),
      path ∉ ResourceKind.shapedPaths := by
    rw [readPathsOfText_presenceText hplain]
    decide
  obtain ⟨-, -, hsearch⟩ := (filter_counts_shown hrun hapart hsorted .user).1 _ hpaths
  rw [ofText_presenceText hplain] at hsearch
  exact hsearch .users { filter := some (presenceText "userName") } rfl rfl

/-- A listing of the users with an identifier counts none, and every user that is read has one. -/
theorem identifier_not_counted :
    ((plain.serveAll requestsOfAda).2.list .user
        (.ofQuery { filter := some (presenceText "id") } {})).totalResults
      ≠ ((plain.serveAll requestsOfAda).2.store.entries ResourceKind.user.collection).countP
        ((plain.serveAll requestsOfAda).2.shownMatches .user
          (Predicate.ofText (some (presenceText "id")))) := by
  have hplain : IsPlainPath "id" := by decide
  have hfilter : (ListParams.ofQuery { filter := some (presenceText "id") } {}).filter
      = ListParams.nonBlank (some (presenceText "id")) := rfl
  rw [totalResults_list _ _ hfilter, ofText_presenceText hplain]
  decide +kernel

end Directory

end Scim
