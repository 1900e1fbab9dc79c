import Scim.Proofs.Directory.Frame
import Scim.Proofs.Directory.Paging

/-!
# The life of a resource

A resource lives from the creation that answers its identifier to the deletion that names it, in
whatever spelling.  Which resources of a kind live at some point of a run, and in which order they
are listed, is decided by these events alone (`Event.living`): replacements and patches, failures,
and operations on the other kind have no part in it.

The proof is a refinement.  What an operation does to the identifiers of a collection is what its
event does to the identifiers that live (`Operation.Succeeds.identifiers_eq`), so the two are the
same at every point of a run (`Directory.History.identifiers_eq`).  Identifiers that are drawn
afresh add what needs more than one step: no identifier is listed twice, and one that was deleted
does not come back (`Directory.living_resources_listed`).
-/

namespace Scim

/-! ## Which resources live -/

namespace Event

/-- The identifier that a creation answers, on its own or in a bulk request. -/
def created? (kind : ResourceKind) : Event → Option String
  | .performed (.create kind' _) (.ok (some resource)) =>
    if kind' = kind then some resource.id else none
  | _ => none

/-- The resource was deleted, on its own or in a bulk request, under any text of its identifier. -/
def deletes (kind : ResourceKind) (id : String) : Event → Bool
  | .performed (.delete kind' text) (.ok _) =>
    kind' = kind ∧ (Uuid.ofText? text).map Uuid.text = some id
  | _ => false

/-- The identifiers of the resources that were created and not deleted since, in the order of their
creation. -/
def living (kind : ResourceKind) : List Event → List String
  | [] => []
  | event :: later =>
    ((event.created? kind).toList.filter fun id => !later.any (deletes kind id))
      ++ living kind later

/-- One more event takes away what it deletes and adds what it creates. -/
theorem living_append_singleton (kind : ResourceKind) (events : List Event) (event : Event) :
    living kind (events ++ [event])
      = ((living kind events).filter fun id => !event.deletes kind id)
        ++ (event.created? kind).toList := by
  induction events with
  | nil => simp [living]
  | cons first later ih =>
    simp only [List.cons_append, living, ih, List.any_append, List.any_cons, List.any_nil,
      Bool.or_false, Bool.not_or, List.filter_append, List.filter_filter, List.append_assoc]
    simp only [Bool.and_comm]

/-- Failures end and begin no life. -/
theorem deletes_performed_error (kind : ResourceKind) (id : String) (op : Operation)
    (e : ServiceError) : (performed op (.error e)).deletes kind id = false := by
  cases op <;> rfl

@[inherit_doc deletes_performed_error]
theorem created?_performed_error (kind : ResourceKind) (op : Operation) (e : ServiceError) :
    (performed op (.error e)).created? kind = none := by
  cases op <;> rfl

end Event

/-! ## What a step does to the identifiers -/

/-- The identifiers of the entries of a kind, as they are written. -/
def Store.identifiers (store : Store) (kind : ResourceKind) : List String :=
  ((store.entries kind.collection).map Entry.id).map Uuid.text

namespace Operation

variable {setting : Setting} {store next : Store} {op : Operation} {answer : Option Resource}

/-- A success does to the identifiers of a kind what its event does to those that live. -/
theorem Succeeds.identifiers_eq (h : op.Succeeds setting store answer next)
    (kind : ResourceKind) :
    next.identifiers kind
      = ((store.identifiers kind).filter fun id =>
          !(Event.performed op (.ok answer)).deletes kind id)
        ++ ((Event.performed op (.ok answer)).created? kind).toList := by
  unfold Store.identifiers
  cases h with
  | @created kind' input required unclaimed =>
    rw [Store.insert, ResourceKind.entries_change]
    by_cases hkind : kind = kind'
    · simp [Event.deletes, Event.created?, hkind, Setting.shown, ResourceKind.present]
    · simp [Event.deletes, Event.created?, hkind, Ne.symm hkind]
  | read => simp [Event.deletes, Event.created?]
  | @rewritten _ kind' text ifMatch old content found permitted rewrites unclaimed =>
    -- a document is written over in its place
    have hsame : ((store.change kind'.collection (Store.overwrite old.id
        (setting.stampOver old.body content))).entries kind.collection).map Entry.id
        = (store.entries kind.collection).map Entry.id := by
      rw [ResourceKind.entries_change]
      split
      · exact Store.map_id_overwrite _ _ _
      · rfl
    rw [hsame]
    cases rewrites <;> simp [Event.deletes, Event.created?]
  | @deleted kind' text entry found =>
    obtain ⟨-, htext⟩ := Store.mem_of_findById found
    rw [ResourceKind.entries_change]
    by_cases hkind : kind' = kind
    · subst hkind
      have hdeletes (id : Uuid) :
          (Event.performed (.delete kind' text) (.ok none)).deletes kind' id.text
            = (id == entry.id) := by
        rw [Bool.eq_iff_iff]
        simp only [Event.deletes, htext, Option.map_some, Option.some.injEq, true_and,
          decide_eq_true_eq, beq_iff_eq, Uuid.text_injective.eq_iff]
        exact eq_comm
      simp [Event.created?, List.filter_map, Function.comp_def, hdeletes, bne]
    · simp [Event.deletes, Event.created?, hkind, Ne.symm hkind]

/-- What a success creates has the identifier that was drawn for it. -/
theorem Succeeds.of_created? (h : op.Succeeds setting store answer next) {kind : ResourceKind}
    {id : String} (hcreated : (Event.performed op (.ok answer)).created? kind = some id) :
    op.creates = true ∧ setting.fresh.text = id := by
  cases h with
  | created required unclaimed =>
    simp only [Event.created?, Option.ite_none_right_eq_some] at hcreated
    exact ⟨rfl, Option.some.inj hcreated.2⟩
  | read | deleted => cases hcreated
  | rewritten found permitted rewrites unclaimed => cases rewrites <;> cases hcreated

/-- What a success deletes was there. -/
theorem Succeeds.of_deletes (h : op.Succeeds setting store answer next) {kind : ResourceKind}
    {id : String} (hdeletes : (Event.performed op (.ok answer)).deletes kind id = true) :
    op.creates = false ∧ ∃ e ∈ store.entries kind.collection, e.id.text = id := by
  cases h with
  | created | read => cases hdeletes
  | rewritten found permitted rewrites unclaimed => cases rewrites <;> cases hdeletes
  | deleted found =>
    obtain ⟨hmem, htext⟩ := Store.mem_of_findById found
    simp only [Event.deletes, htext, decide_eq_true_eq, Option.map_some, Option.some.injEq]
      at hdeletes
    exact ⟨rfl, _, hdeletes.1 ▸ hmem, hdeletes.2⟩

end Operation

namespace Directory

variable {start d next : Directory} {events : List Event} {event : Event} {kind : ResourceKind}
  {id : Uuid}

theorem Step.identifiers_eq (h : d.Step event next) (kind : ResourceKind) :
    next.store.identifiers kind
      = ((d.store.identifiers kind).filter fun id => !event.deletes kind id)
        ++ (event.created? kind).toList := by
  cases h with
  | failed => simp [Event.deletes_performed_error, Event.created?_performed_error]
  | succeeded succeeds => exact succeeds.identifiers_eq kind
  | listed => simp [Event.deletes, Event.created?]

theorem Issued.step (h : d.Issued id) (hstep : d.Step event next) : next.Issued id := by
  obtain ⟨i, hi, heq⟩ := h
  exact ⟨i, Nat.lt_of_lt_of_le hi hstep.issued_le, by rw [hstep.ids_eq, heq]⟩

/-- What a step creates was not drawn before. -/
theorem Step.not_issued_of_created? (h : d.Step event next) (hapart : next.IssuedApart)
    (hcreated : event.created? kind = some id.text) : ¬ d.Issued id := by
  cases h with
  | failed => simp [Event.created?_performed_error] at hcreated
  | succeeded succeeds =>
    obtain ⟨hcreates, hfresh⟩ := succeeds.of_created? hcreated
    rw [← Uuid.text_injective hfresh]
    exact hapart.not_issued hcreates
  | listed => cases hcreated

/-- What a step deletes was there, and the step creates nothing. -/
theorem Step.of_deletes (h : d.Step event next) {text : String}
    (hdeletes : event.deletes kind text = true) :
    event.created? kind = none ∧ ∃ e ∈ d.store.entries kind.collection, e.id.text = text := by
  cases h with
  | failed => simp [Event.deletes_performed_error] at hdeletes
  | @succeeded op answer _ succeeds =>
    obtain ⟨hcreates, hentry⟩ := succeeds.of_deletes hdeletes
    refine ⟨Option.eq_none_iff_forall_ne_some.mpr fun id hcreated => ?_, hentry⟩
    exact absurd (succeeds.of_created? hcreated).1 (by simp [hcreates])
  | listed => cases hdeletes

/-! ## The refinement -/

/-- At every point of a run the entries of a kind are those of the resources that live. -/
theorem History.identifiers_eq (h : History start events d)
    (hstart : start.store.identifiers kind = []) :
    d.store.identifiers kind = Event.living kind events := by
  induction h with
  | start => exact hstart
  | step _ hstep ih => rw [hstep.identifiers_eq, ih, Event.living_append_singleton]

/-- What was deleted was drawn, and it does not live. -/
def Departed (kind : ResourceKind) (events : List Event) (d : Directory) : Prop :=
  ∀ text, events.any (Event.deletes kind text) = true →
    (∃ id, d.Issued id ∧ id.text = text) ∧ text ∉ d.store.identifiers kind

theorem Departed.step (h : Departed kind events d) (hkeyed : d.Keyed) (hstep : d.Step event next)
    (hapart : next.IssuedApart) : Departed kind (events ++ [event]) next := by
  intro text htext
  rw [List.any_append, Bool.or_eq_true] at htext
  rw [hstep.identifiers_eq, List.mem_append, not_or]
  rcases htext with hearlier | hnow
  · obtain ⟨⟨id, hissued, rfl⟩, habsent⟩ := h text hearlier
    refine ⟨⟨id, hissued.step hstep, rfl⟩, fun hmem => habsent (List.mem_of_mem_filter hmem), ?_⟩
    -- the identifier of a new resource is a fresh one
    intro hmem
    exact hstep.not_issued_of_created? hapart (Option.mem_toList.mp hmem) hissued
  · have hdeletes : event.deletes kind text = true := by simpa using hnow
    obtain ⟨hnone, e, he, rfl⟩ := hstep.of_deletes hdeletes
    refine ⟨⟨e.id, (hkeyed.issued kind e he).step hstep, rfl⟩, ?_, ?_⟩
    · simp [hdeletes]
    · simp [hnone]

theorem History.departed (h : History start events d) (hkeyed : start.Keyed)
    (hapart : d.IssuedApart) : Departed kind events d :=
  h.invariant (P := Departed kind) hkeyed hapart (by intro text htext; cases htext)
    fun hbefore hkeyed hstep hapart => hbefore.step hkeyed hstep hapart

/-! ## What clients see -/

/-- The resources of a kind are those with the given identifiers, each once and in this order, as
far as clients can tell. -/
structure Holds (d : Directory) (kind : ResourceKind) (ids : List String) : Prop where
  nodup : ids.Nodup
  /-- Without a filter, an order and a limit, the store finds their entries. -/
  found : ∀ collation, (d.store.find kind.collection .all collation none 0 none).map
    (fun e => e.id.text) = ids
  /-- A listing of the kind from the first resource on, with a count that leaves none out. -/
  listed : ∀ params : ListParams, params.filter = none → params.sortBy = none →
    params.startIndex ≤ 1 → ids.length ≤ params.count →
    (d.list kind params).resources.map (Json.get? "id") = ids.map fun id => some (.str id)
  /-- Under any other text there is nothing. -/
  missing : ∀ text, (∀ id, Uuid.ofText? text = some id → id.text ∉ ids) →
    ∀ op : Operation, op.Seeks kind text →
      ∃ e, (d.perform op).1 = .error e ∧ e.status = 404

theorem Keyed.holds (h : d.Keyed) (kind : ResourceKind) :
    d.Holds kind (d.store.identifiers kind) where
  nodup := (h.distinct kind).map Uuid.text_injective
  found := by
    intro collation
    have hall : (d.store.entries kind.collection).filter
        (Store.matching .all collation) = d.store.entries kind.collection :=
      List.filter_eq_self.mpr fun _ _ => rfl
    simp [Store.find, Store.select, hall, Store.identifiers]
  listed := by
    intro params hfilter hsort hstart hcount
    have hall : (d.store.entries kind.collection).filter
        (Store.matching (Predicate.ofText none) .ignoreCase) = d.store.entries kind.collection :=
      List.filter_eq_self.mpr fun _ _ => rfl
    have hskip : params.skip = 0 := Nat.sub_eq_zero_of_le hstart
    have hlength : (d.store.entries kind.collection).length ≤ params.count := by
      simpa [Store.identifiers] using hcount
    have hid (e : Entry) : (kind.present d.config.baseUrl d.now e).content.get? "id"
        = some (.str e.id.text) :=
      ((kind.showsTag_content_present_iff _ _ e).mpr ⟨rfl, rfl⟩).1
    rw [resources_list, hskip, listing, hfilter, hsort, Option.map_none, Store.select, hall,
      List.drop_zero, List.take_of_length_le (by simpa using hlength)]
    simp [Store.identifiers, hid]
  missing := by
    intro text habsent op hseeks
    have hnone : d.store.findById kind.collection text = none := by
      rw [Option.eq_none_iff_forall_ne_some]
      intro e hfound
      obtain ⟨hmem, htext⟩ := Store.mem_of_findById hfound
      exact habsent e.id htext (List.mem_map_of_mem (List.mem_map_of_mem hmem))
    exact ⟨kind.notFound, perform_fst_eq_error_iff.mpr
      (Operation.run_eq_error_iff.mpr (.missing hseeks hnone)), rfl⟩

/-- A patch that cannot be read fails with 400, whatever it addresses. -/
theorem perform_patch_of_unreadable (d : Directory) (kind : ResourceKind) (text : String)
    {body : Json} (ifMatch : Option String) {cause : ProtocolError}
    (hbody : PatchRequest.ofBody body = .error cause) :
    ∃ e, (d.perform (.patch kind text body ifMatch)).1 = .error e ∧ e.status = 400 := by
  obtain ⟨detail, rfl⟩ := PatchRequest.exists_invalidSyntax_of_ofBody_error hbody
  exact ⟨_, perform_fst_eq_error_iff.mpr (Operation.run_eq_error_iff.mpr (.unreadable hbody)), rfl⟩

/-- Only creations add identifiers. -/
theorem identifiers_perform_of_not_creates {op : Operation} (h : op.creates = false)
    (kind : ResourceKind) :
    ((d.perform op).2.store.identifiers kind).Sublist (d.store.identifiers kind) := by
  rcases d.perform_cases op with ⟨e, -, hperform⟩ | ⟨answer, next, hsucceeds, hperform⟩
  · rw [hperform]
  · rw [hperform]
    have hnone : (Event.performed op (.ok answer)).created? kind = none := by
      refine Option.eq_none_iff_forall_ne_some.mpr fun id hcreated => ?_
      exact absurd (hsucceeds.of_created? hcreated).1 (by simp [h])
    show (next.identifiers kind).Sublist _
    rw [hsucceeds.identifiers_eq, hnone, Option.toList_none, List.append_nil]
    exact List.filter_sublist

/-- The life of resources.  Take a run in which no identifier is drawn twice, and any point of it,
within a bulk request or not.  The resources of a kind that are there are those that were created
and not deleted since, each once, in the order of their creation.  Reads, replacements, patches and
deletions under any other text fail with 404, and a patch that cannot be read with 400.  An
identifier that was deleted is not there, and no operation but a creation adds an entry. -/
theorem living_resources_listed {config : ServiceConfig} {database : String} {ids : Nat → Uuid}
    {clock : Nat → Timestamp} {requests : List Request}
    (hrun : (opened config database ids clock).serveAll requests = (events, d))
    (hapart : d.IssuedApart) {before after : List Event} (hpoint : events = before ++ after)
    (kind : ResourceKind) :
    ∃ point, History (opened config database ids clock) before point ∧ History point after d
      ∧ point.Holds kind (Event.living kind before)
      ∧ (∀ text body ifMatch cause, PatchRequest.ofBody body = .error cause →
        ∃ e, (point.perform (.patch kind text body ifMatch)).1 = .error e ∧ e.status = 400)
      ∧ (∀ text, before.any (Event.deletes kind text) = true → text ∉ Event.living kind before)
      ∧ ∀ op : Operation, op.creates = false →
        ((point.perform op).2.store.identifiers kind).Sublist (Event.living kind before) := by
  have hhistory := history_of_serveAll hrun
  rw [hpoint] at hhistory
  obtain ⟨point, hbefore, hafter⟩ := hhistory.split
  have hkeyed := keyed_opened config database ids clock
  have hissued := hafter.issuedApart hapart
  have hliving : point.store.identifiers kind = Event.living kind before :=
    hbefore.identifiers_eq rfl
  refine ⟨point, hbefore, hafter, ?_, ?_, ?_, ?_⟩
  · rw [← hliving]
    exact (hbefore.keyed hkeyed hissued).holds kind
  · intro text body ifMatch cause hbody
    exact point.perform_patch_of_unreadable kind text ifMatch hbody
  · intro text hdeleted
    rw [← hliving]
    exact (hbefore.departed hkeyed hissued text hdeleted).2
  · intro op hcreates
    rw [← hliving]
    exact identifiers_perform_of_not_creates hcreates kind

/-- A client creates two users, patches the second, and deletes the first under a text without
hyphens. -/
def requestsOfDeparture : List Request :=
  [.operation (.create .user (.obj [("userName", .str "ada")])),
    .operation (.create .user (.obj [("userName", .str "grace")])),
    .operation (.patch .user "11111111-1111-1111-1111-111111111111"
      (.obj [("Operations", .arr [.obj [("op", .str "replace"), ("path", .str "title"),
        ("value", .str "Admiral")]])]) none),
    .operation (.delete .user "00000000000000000000000000000000")]

/-- The second user is left, and the first does not come back. -/
theorem living_resources_listed_of_departure :
    ∃ point, History plain (plain.serveAll requestsOfDeparture).1 point
      ∧ point.Holds .user ["11111111-1111-1111-1111-111111111111"]
      ∧ "00000000-0000-0000-0000-000000000000"
        ∉ Event.living .user (plain.serveAll requestsOfDeparture).1 := by
  have hliving : Event.living .user (plain.serveAll requestsOfDeparture).1
      = ["11111111-1111-1111-1111-111111111111"] := by decide +kernel
  have hdeleted : (plain.serveAll requestsOfDeparture).1.any
      (Event.deletes .user "00000000-0000-0000-0000-000000000000") = true := by decide +kernel
  have hrun : plain.serveAll requestsOfDeparture = ((plain.serveAll requestsOfDeparture).1,
      (plain.serveAll requestsOfDeparture).2) := (Prod.eta _).symm
  have hapart : (plain.serveAll requestsOfDeparture).2.IssuedApart := by
    intro i j hij hj
    have htwo : (plain.serveAll requestsOfDeparture).2.issued = 2 := by decide +kernel
    obtain ⟨rfl, rfl⟩ : i = 0 ∧ j = 1 := by omega
    rw [(history_serveAll plain requestsOfDeparture).ids_eq]
    decide
  have hpoint : (plain.serveAll requestsOfDeparture).1
      = (plain.serveAll requestsOfDeparture).1 ++ [] := (List.append_nil _).symm
  obtain ⟨point, hbefore, -, hholds, -, hgone, -⟩ :=
    living_resources_listed hrun hapart hpoint .user
  rw [hliving] at hholds
  exact ⟨point, hbefore, hholds, hgone _ hdeleted⟩

end Directory

end Scim
