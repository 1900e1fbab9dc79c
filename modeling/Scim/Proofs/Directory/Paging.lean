import Scim.Proofs.Directory.Stored

/-!
# Paging

A client that wants all results of a listing asks for one page after the other: from the first
result on, then from behind the page that it got, until a page is empty.  Time passes between two
pages.  As long as nothing is written, this loses nothing and repeats nothing: the pages in a row
are the whole listing, whatever the size of a page, the filter and the order
(`Directory.pages_in_a_row`).

Three things come together.  A page is a part of one and the same list (`Directory.resources_list`),
the results that are counted are the members of that list (`Directory.length_listing`), and
resources are shown alike at any time (`Directory.Documented.listing_atMoment`).
-/

namespace Scim

/-- Sorting keeps the number of results. -/
theorem Store.length_select (store : Store) (collection : String) (p : Predicate)
    (collation : Collation) (sort : Option SortSpec) :
    (store.select collection p collation sort).length = store.count collection p collation := by
  cases sort with
  | none => rfl
  | some spec => exact List.length_mergeSort _

namespace Directory

variable {d : Directory} {kind : ResourceKind} {params : ListParams} {size : Nat}

/-! ## The whole listing -/

/-- The directory at another moment, with nothing written in between. -/
def atMoment (d : Directory) (moment : Nat) : Directory :=
  { d with ticks := moment }

/-- The resources that a listing is about, in its order, whatever part of them is asked for. -/
def listing (d : Directory) (kind : ResourceKind) (params : ListParams) : List Json :=
  let sort := params.sortBy.map fun path => SortSpec.mk path params.sortOrder
  (d.store.select kind.collection (Predicate.ofText params.filter) .ignoreCase sort).map fun e =>
    (kind.present d.config.baseUrl d.now e).content

/-- A response holds a part of the listing. -/
theorem resources_list (d : Directory) (kind : ResourceKind) (params : ListParams) :
    (d.list kind params).resources
      = ((d.listing kind params).drop params.skip).take params.count := by
  simp only [list, listing, Store.find, List.map_take, List.map_drop]

/-- All of the listing is counted. -/
theorem length_listing (d : Directory) (kind : ResourceKind) (params : ListParams) :
    (d.listing kind params).length = (d.list kind params).totalResults := by
  rw [listing, List.length_map, Store.length_select]
  rfl

/-- The listing is the same at any moment. -/
theorem Documented.listing_atMoment (h : d.Documented) (moment : Nat) :
    (d.atMoment moment).listing kind params = d.listing kind params := by
  refine List.map_congr_left fun e he => congrArg Resource.content ?_
  have hfound : e ∈ d.store.find kind.collection (Predicate.ofText params.filter) .ignoreCase
      (params.sortBy.map fun path => SortSpec.mk path params.sortOrder) 0 none := he
  exact (h kind e (Store.mem_of_mem_find hfound)).present_eq_present _ _ _ e.id

/-! ## Pages -/

/-- The page of a size from a result on, asked for at a moment. -/
def page (d : Directory) (kind : ResourceKind) (params : ListParams) (size moment start : Nat) :
    ListResponse :=
  (d.atMoment moment).list kind { params with startIndex := start, count := size }

/-- The pages of a size from a result on, each asked for behind the one before at a moment of its
own, up to the first empty one. -/
inductive Paged (d : Directory) (kind : ResourceKind) (params : ListParams) (size : Nat) :
    Nat → List ListResponse → Prop
  | last {start : Nat} (moment : Nat)
      (empty : (d.page kind params size moment start).resources = []) :
      Paged d kind params size start [d.page kind params size moment start]
  | next {start : Nat} {pages : List ListResponse} (moment : Nat)
      (nonempty : (d.page kind params size moment start).resources ≠ [])
      (rest : Paged d kind params size (start + size) pages) :
      Paged d kind params size start (d.page kind params size moment start :: pages)

theorem Documented.resources_page (h : d.Documented) (moment start : Nat) :
    (d.page kind params size moment start).resources
      = ((d.listing kind params).drop (start - 1)).take size := by
  rw [page, resources_list, h.listing_atMoment]
  rfl

/-- A page is empty where the listing is at its end. -/
theorem Documented.resources_page_eq_nil_iff (h : d.Documented) (hsize : 1 ≤ size)
    (moment start : Nat) :
    (d.page kind params size moment start).resources = []
      ↔ (d.listing kind params).drop (start - 1) = [] := by
  rw [h.resources_page, List.take_eq_nil_iff, or_iff_right (Nat.one_le_iff_ne_zero.mp hsize)]

/-- The pages come to an end. -/
theorem Documented.exists_paged (h : d.Documented) (hsize : 1 ≤ size) {start : Nat}
    (hstart : 1 ≤ start) : ∃ pages, d.Paged kind params size start pages := by
  -- the part of the listing that is left becomes shorter with every page
  generalize hleft : ((d.listing kind params).drop (start - 1)).length = left
  induction left using Nat.strong_induction_on generalizing start with
  | _ left ih =>
    by_cases hempty : (d.page kind params size 0 start).resources = []
    · exact ⟨_, .last 0 hempty⟩
    · rw [List.length_drop] at hleft
      have hrest := mt (h.resources_page_eq_nil_iff hsize 0 start).mpr hempty
      rw [List.drop_eq_nil_iff, Nat.not_le] at hrest
      have hless : ((d.listing kind params).drop (start + size - 1)).length < left := by
        rw [List.length_drop]
        omega
      obtain ⟨pages, hpages⟩ := ih _ hless (Nat.le_add_right_of_le hstart) rfl
      exact ⟨_, .next 0 hempty hpages⟩

/-- The pages in a row are what is left of the listing. -/
theorem Paged.flatMap_resources {start : Nat} {pages : List ListResponse}
    (hpages : d.Paged kind params size start pages) (h : d.Documented) (hsize : 1 ≤ size)
    (hstart : 1 ≤ start) :
    pages.flatMap ListResponse.resources = (d.listing kind params).drop (start - 1) := by
  induction hpages with
  | @last start moment empty =>
    rw [List.flatMap_singleton, empty, (h.resources_page_eq_nil_iff hsize moment start).mp empty]
  | @next start pages moment nonempty rest ih =>
    have hnext : start + size - 1 = start - 1 + size := by omega
    rw [List.flatMap_cons, ih (Nat.le_add_right_of_le hstart), h.resources_page, hnext,
      ← List.drop_drop, List.take_append_drop]

/-- Each of the pages is one that was asked for. -/
theorem Paged.exists_eq_page {start : Nat} {pages : List ListResponse}
    (hpages : d.Paged kind params size start pages) {p : ListResponse} (hp : p ∈ pages) :
    ∃ moment first, p = d.page kind params size moment first := by
  induction hpages with
  | last moment => exact ⟨moment, _, List.mem_singleton.mp hp⟩
  | next moment _ _ ih =>
    rcases List.mem_cons.mp hp with rfl | hrest
    · exact ⟨moment, _, rfl⟩
    · exact ih hrest

/-- Paging loses nothing and repeats nothing.  After any run, for every filter, order and size, the
pages from the first result on come to an end, and whenever they are asked for, they are in a row
the listing that is asked for from the first result on with a count that leaves nothing out.  Each
of them counts the results of that listing, and its own, which are not more than its size. -/
theorem pages_in_a_row {config : ServiceConfig} {database : String} {ids : Nat → Uuid}
    {clock : Nat → Timestamp} {requests : List Request} {events : List Event}
    (hrun : (opened config database ids clock).serveAll requests = (events, d))
    (hsorted : ∀ request ∈ requests, request.Sorted) (kind : ResourceKind) (params : ListParams)
    (hsize : 1 ≤ size) :
    (∃ pages, d.Paged kind params size 1 pages)
      ∧ ∀ pages, d.Paged kind params size 1 pages → ∀ bound moment,
        (d.list kind params).totalResults ≤ bound →
          pages.flatMap ListResponse.resources = (d.page kind params bound moment 1).resources
          ∧ ∀ p ∈ pages, p.totalResults = (d.page kind params bound moment 1).resources.length
            ∧ p.itemsPerPage = p.resources.length ∧ p.itemsPerPage ≤ size := by
  have hdocumented := documented_of_serveAll hrun hsorted
  refine ⟨hdocumented.exists_paged hsize (Nat.le_refl 1), ?_⟩
  intro pages hpages bound moment hbound
  -- a count that is large enough asks for the whole listing
  rw [← length_listing] at hbound
  have hwhole : (d.page kind params bound moment 1).resources = d.listing kind params := by
    rw [hdocumented.resources_page, Nat.sub_self, List.drop_zero, List.take_of_length_le hbound]
  rw [hwhole]
  refine ⟨hpages.flatMap_resources hdocumented hsize (Nat.le_refl 1), ?_⟩
  intro p hp
  obtain ⟨moment, first, rfl⟩ := hpages.exists_eq_page hp
  have hitems : (d.page kind params size moment first).itemsPerPage
      = (d.page kind params size moment first).resources.length := rfl
  refine ⟨(length_listing d kind params).symm, hitems, ?_⟩
  rw [hitems, hdocumented.resources_page]
  exact List.length_take_le _ _

/-- A client creates three users. -/
def requestsOfTrio : List Request :=
  [.operation (.create .user (.obj [("userName", .str "bob")])),
    .operation (.create .user (.obj [("userName", .str "ada")])),
    .operation (.create .user (.obj [("userName", .str "cyd")]))]

/-- The parameters of a listing of the users with a name, the last one first. -/
def byNameDescending : ListParams where
  startIndex := 1
  count := 0
  filter := some "userName pr"
  sortBy := some "userName"
  sortOrder := .descending

/-- Pages of two users are in a row the listing of up to three users. -/
theorem pages_in_a_row_of_trio :
    ∃ pages, (plain.serveAll requestsOfTrio).2.Paged .user byNameDescending 2 1 pages
      ∧ pages.flatMap ListResponse.resources
        = ((plain.serveAll requestsOfTrio).2.page .user byNameDescending 3 0 1).resources
      ∧ ∀ p ∈ pages, p.itemsPerPage ≤ 2 := by
  have hrun : plain.serveAll requestsOfTrio = (_, _) := rfl
  have hsorted : ∀ request ∈ requestsOfTrio, request.Sorted := by decide
  have hthree : ((plain.serveAll requestsOfTrio).2.store.entries
      ResourceKind.user.collection).length = 3 := rfl
  have hbound : ((plain.serveAll requestsOfTrio).2.list .user byNameDescending).totalResults ≤ 3 :=
    (List.length_filter_le _ _).trans (Nat.le_of_eq hthree)
  obtain ⟨⟨pages, hpages⟩, hall⟩ :=
    pages_in_a_row hrun hsorted .user byNameDescending (Nat.le_succ 1)
  obtain ⟨hrow, hcounts⟩ := hall pages hpages 3 0 hbound
  exact ⟨pages, hpages, hrow, fun p hp => (hcounts p hp).2.2⟩

end Directory

end Scim
