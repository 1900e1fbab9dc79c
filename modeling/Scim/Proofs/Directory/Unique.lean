import Scim.Proofs.Directory.Resource
import Scim.Proofs.Directory.Run
import Scim.Proofs.Json.Equality

/-!
# Unique values stay unique

Every write of a unique value is guarded: a creation and a replacement by the value that they
require, a patch by the value that the patched document has.  A patch may also leave no value that
counts, and then it is written without a guard.  In all cases no other entry of the collection has
an equal value afterwards, where strings are equal up to case (`Directory.Unique`).

The guard is a predicate and looks at more than the value itself, since a path goes on in arrays.
Only one direction matters here: what two documents hold under the attribute is among what the guard
looks at, so where the guard does not match, the values differ.
-/

namespace Scim

namespace ResourceKind

variable {kind : ResourceKind}

/-- Two documents have equal unique values. -/
def Clash (kind : ResourceKind) (a b : Members) : Prop :=
  ∃ v w, kind.uniqueValue? a = some v ∧ kind.uniqueValue? b = some w
    ∧ Collation.ignoreCase.same v w = true

theorem Clash.symm {a b : Members} (h : kind.Clash a b) : kind.Clash b a := by
  obtain ⟨v, w, hv, hw, hsame⟩ := h
  rw [Collation.same_comm] at hsame
  exact ⟨w, v, hw, hv, hsame⟩

theorem clash_stamp_iff {version : Nat} {created modified : String} {a b : Members} :
    kind.Clash (stamp version created modified a) b ↔ kind.Clash a b := by
  simp only [Clash, uniqueValue?_stamp]

/-- The name of the unique attribute is a path of one name. -/
theorem dottedNames_uniqueAttribute (kind : ResourceKind) :
    dottedNames kind.uniqueAttribute = [kind.uniqueAttribute] := by
  cases kind <;> rfl

/-- The guard looks at the unique value. -/
theorem mem_candidates_of_find? {body : Members} {w : Json}
    (h : Members.find? kind.uniqueAttribute body = some w) :
    w ∈ (Json.obj body).candidates kind.uniqueAttribute := by
  have hresolve : (Json.obj body).resolve kind.uniqueAttribute = [w] := by
    simp [Json.resolve, dottedNames_uniqueAttribute, Json.follow, Json.step, h]
  rw [Json.candidates, hresolve, List.flatMap_singleton]
  cases w <;> simp [Json.withElements]

/-- The guard of a value matches every document with an equal one. -/
theorem matching_guard {e : Entry} {value w : Json} (hw : kind.uniqueValue? e.body = some w)
    (hsame : Collation.ignoreCase.same w value = true) :
    Store.matching (kind.guard value) .ignoreCase e = true := by
  have hfind : Members.find? kind.uniqueAttribute e.body = some w :=
    (Option.filter_eq_some_iff.mp hw).1
  simp only [Store.matching, guard, Predicate.holds, List.any_eq_true]
  exact ⟨w, mem_candidates_of_find? hfind, hsame⟩

/-- Content that no entry claims does not clash with any. -/
theorem Unclaimed.not_clash {content : Members} {entries : List Entry}
    (h : kind.Unclaimed content entries) {e : Entry} (he : e ∈ entries) :
    ¬ kind.Clash content e.body := by
  rintro ⟨v, w, hv, hw, hsame⟩
  have hmatches := matching_guard hw (by rwa [Collation.same_comm])
  rw [h v hv e he] at hmatches
  cases hmatches

end ResourceKind

/-! ## Steps -/

namespace Operation

variable {setting : Setting} {store : Store} {op : Operation} {kind : ResourceKind} {a b : Entry}

/-- A new entry does not clash with an old one, which its guard has looked at. -/
theorem Leaves.not_clash_of_mem (ha : op.Leaves setting store kind a)
    (hb : b ∈ store.entries kind.collection) (hne : a.id ≠ b.id)
    (hbefore : a ∈ store.entries kind.collection → ¬ kind.Clash a.body b.body) :
    ¬ kind.Clash a.body b.body := by
  cases ha with
  | kept mem => exact hbefore mem
  | created asked required unclaimed =>
    intro hclash
    exact unclaimed.not_clash hb (ResourceKind.clash_stamp_iff.mp hclash)
  | rewritten mem revised rewrites unclaimed =>
    intro hclash
    have hother : b ∈ (store.entries kind.collection).filter fun e => e.id != _ :=
      List.mem_filter.mpr ⟨hb, bne_iff_ne.mpr hne.symm⟩
    exact unclaimed.not_clash hother (ResourceKind.clash_stamp_iff.mp hclash)

/-- Entries that a success leaves do not clash if those before it did not. -/
theorem Leaves.not_clash (ha : op.Leaves setting store kind a) (hb : op.Leaves setting store kind b)
    (hne : a.id ≠ b.id)
    (hbefore : a ∈ store.entries kind.collection → b ∈ store.entries kind.collection →
      ¬ kind.Clash a.body b.body) :
    ¬ kind.Clash a.body b.body := by
  by_cases hmemB : b ∈ store.entries kind.collection
  · exact ha.not_clash_of_mem hmemB hne fun hmemA => hbefore hmemA hmemB
  · by_cases hmemA : a ∈ store.entries kind.collection
    · intro hclash
      exact hb.not_clash_of_mem hmemA hne.symm (fun h => absurd h hmemB) hclash.symm
    · exact absurd (ha.id_eq_of_new hb hmemA hmemB) hne

end Operation

namespace Directory

/-- No two documents of a kind have equal unique values. -/
def Unique (d : Directory) : Prop :=
  ∀ kind : ResourceKind, ∀ a ∈ d.store.entries kind.collection,
    ∀ b ∈ d.store.entries kind.collection, a.id ≠ b.id → ¬ kind.Clash a.body b.body

theorem Unique.step {d next : Directory} {event : Event} (h : d.Unique) (hkeyed : d.Keyed)
    (hstep : d.Step event next) : next.Unique := by
  cases hstep with
  | failed => exact h
  | succeeded succeeds =>
    intro kind a ha b hb hne
    have hleft := succeeds.leaves (hkeyed.distinct kind) ha
    have hright := succeeds.leaves (hkeyed.distinct kind) hb
    exact hleft.not_clash hright hne fun ha hb => h kind a ha b hb hne
  | listed => exact h

theorem History.unique {start d : Directory} {events : List Event} (h : History start events d)
    (hkeyed : start.Keyed) (hstart : start.Unique) (hapart : d.IssuedApart) : d.Unique :=
  h.invariant (P := fun _ d => d.Unique) hkeyed hapart hstart fun hbefore hkeyed hstep _ =>
    hbefore.step hkeyed hstep

theorem unique_opened (config : ServiceConfig) (database : String) (ids : Nat → Uuid)
    (clock : Nat → Timestamp) : (opened config database ids clock).Unique := by
  intro kind a ha
  exact absurd ha List.not_mem_nil

/-- Uniqueness.  After any run, the users at two places of their collection do not have equal user
names, and the groups at two places of theirs do not have equal display names, as far as these count
as values. -/
theorem unique_values_differ {config : ServiceConfig} {database : String} {ids : Nat → Uuid}
    {clock : Nat → Timestamp} {requests : List Request} {events : List Event} {d : Directory}
    (hrun : (opened config database ids clock).serveAll requests = (events, d))
    (hapart : d.IssuedApart) {kind : ResourceKind} {i j : Nat} {a b : Entry}
    (ha : (d.store.entries kind.collection)[i]? = some a)
    (hb : (d.store.entries kind.collection)[j]? = some b) (hne : i ≠ j) {v w : Json}
    (hv : Members.find? kind.uniqueAttribute a.body = some v) (hvalue : v.isTruthy = true)
    (hw : Members.find? kind.uniqueAttribute b.body = some w) (hvalue' : w.isTruthy = true) :
    Collation.ignoreCase.same v w = false := by
  have hkeyed := keyed_opened config database ids clock
  have hhistory := history_serveAll (opened config database ids clock) requests
  rw [hrun] at hhistory
  have hunique := hhistory.unique hkeyed (unique_opened config database ids clock) hapart
  -- entries at different places have different identifiers
  have hid : a.id ≠ b.id := by
    intro heq
    have hlt : i < ((d.store.entries kind.collection).map Entry.id).length := by
      rw [List.length_map]
      exact (List.getElem?_eq_some_iff.mp ha).1
    refine hne ((List.getElem?_inj hlt ((hhistory.keyed hkeyed hapart).distinct kind)).mp ?_)
    rw [List.getElem?_map, List.getElem?_map, ha, hb, Option.map_some, Option.map_some, heq]
  have hclash := hunique kind a (List.mem_of_getElem? ha) b (List.mem_of_getElem? hb) hid
  refine Bool.eq_false_iff.mpr fun hsame => hclash ⟨v, w, ?_, ?_, hsame⟩
  · rw [ResourceKind.uniqueValue?, hv, Option.filter_some, if_pos hvalue]
  · rw [ResourceKind.uniqueValue?, hw, Option.filter_some, if_pos hvalue']

/-- A client creates two users, and tries to give the second the name of the first in capitals. -/
def requestsOfNamesakes : List Request :=
  [.operation (.create .user (.obj [("userName", .str "ada")])),
    .operation (.create .user (.obj [("userName", .str "grace")])),
    .operation (.patch .user "11111111-1111-1111-1111-111111111111"
      (.obj [("Operations", .arr [.obj [("op", .str "replace"), ("path", .str "userName"),
        ("value", .str "ADA")]])]) none)]

/-- The users keep different names. -/
theorem unique_values_differ_of_namesakes :
    ((plain.serveAll requestsOfNamesakes).2.store.entries ResourceKind.user.collection).map
        (fun e => (Members.find? "userName" e.body).bind Json.string?) = [some "ada", some "grace"]
      ∧ Collation.ignoreCase.same (.str "ada") (.str "grace") = false := by
  have hnames : ((plain.serveAll requestsOfNamesakes).2.store.entries
      ResourceKind.user.collection).map (fun e => (Members.find? "userName" e.body).bind
        Json.string?) = [some "ada", some "grace"] := by decide +kernel
  refine ⟨hnames, ?_⟩
  have hrun : plain.serveAll requestsOfNamesakes = ((plain.serveAll requestsOfNamesakes).1,
      (plain.serveAll requestsOfNamesakes).2) := (Prod.eta _).symm
  have hapart : (plain.serveAll requestsOfNamesakes).2.IssuedApart := by
    intro i j hij hj
    have htwo : (plain.serveAll requestsOfNamesakes).2.issued = 2 := by decide +kernel
    obtain ⟨rfl, rfl⟩ : i = 0 ∧ j = 1 := by omega
    rw [(history_serveAll plain requestsOfNamesakes).ids_eq]
    decide
  generalize (plain.serveAll requestsOfNamesakes).2 = d at hnames hrun hapart
  have htext {held : Option Json} {s : String} (h : held.bind Json.string? = some s) :
      held = some (.str s) := by
    rcases held with _ | j
    · cases h
    · cases j <;> cases h
      rfl
  obtain ⟨a, b, hentries⟩ : ∃ a b, d.store.entries ResourceKind.user.collection = [a, b] := by
    refine List.length_eq_two.mp ?_
    simpa using congrArg List.length hnames
  rw [hentries] at hnames
  obtain ⟨ha, hb⟩ : (Members.find? "userName" a.body).bind Json.string? = some "ada"
      ∧ (Members.find? "userName" b.body).bind Json.string? = some "grace" := by simpa using hnames
  have hfirst : (d.store.entries ResourceKind.user.collection)[0]? = some a := by
    rw [hentries]
    rfl
  have hsecond : (d.store.entries ResourceKind.user.collection)[1]? = some b := by
    rw [hentries]
    rfl
  exact unique_values_differ hrun hapart hfirst hsecond (by decide) (htext ha) rfl (htext hb) rfl

end Directory

end Scim
