import Scim.Proofs.Directory.Bookkeeping

/-!
# Whatever is stored is a document

Whatever a client sends, and by whichever operation, what the directory stores is content with a
stamp.  That is an invariant of bodies one by one.  An operation leaves the bodies that were there,
and besides them at most one that it has stamped itself (`Operation.Succeeds.forall_body`).  So it
needs no identifiers that differ, and it holds even while two resources share one.
-/

namespace Scim

/-! ## Bodies -/

/-- Of the bodies, writing over an entry only brings in the new one. -/
theorem Store.mem_or_body_eq_of_mem_overwrite {id : Uuid} {body : Members} {entries : List Entry}
    {e : Entry} (h : e ∈ overwrite id body entries) : e ∈ entries ∨ e.body = body := by
  induction entries with
  | nil => exact absurd h List.not_mem_nil
  | cons head rest ih =>
    rw [overwrite] at h
    split at h
    · rcases List.mem_cons.mp h with rfl | hrest
      · exact Or.inr rfl
      · exact Or.inl (List.mem_cons_of_mem _ hrest)
    · rcases List.mem_cons.mp h with rfl | hrest
      · exact Or.inl List.mem_cons_self
      · exact (ih hrest).imp_left (List.mem_cons_of_mem _)

/-- What holds of all bodies of a kind holds of them after a success, if it holds of the body that a
creation stores, and of the one that is written over a body of which it holds. -/
theorem Operation.Succeeds.forall_body {setting : Setting} {store next : Store} {op : Operation}
    {answer : Option Resource} (h : op.Succeeds setting store answer next) {kind : ResourceKind}
    {P : Members → Prop} (hbefore : ∀ e ∈ store.entries kind.collection, P e.body)
    (hcreated : ∀ input, op = .create kind input → P (setting.stampNew (kind.sanitize input)))
    (hrewritten : ∀ {text ifMatch old content}, P old →
      op.Rewrites kind text ifMatch old content → P (setting.stampOver old content)) :
    ∀ e ∈ next.entries kind.collection, P e.body := by
  cases h with
  | @created kind' input =>
    rw [Store.insert, ResourceKind.entries_change]
    split
    · next hkind =>
      subst hkind
      intro e he
      rcases List.mem_append.mp he with hold | hnew
      · exact hbefore e hold
      · rw [List.mem_singleton.mp hnew]
        exact hcreated input rfl
    · exact hbefore
  | read => exact hbefore
  | rewritten found permitted rewrites =>
    rw [ResourceKind.entries_change]
    split
    · next hkind =>
      subst hkind
      intro e he
      rcases Store.mem_or_body_eq_of_mem_overwrite he with hold | hnew
      · exact hbefore e hold
      · rw [hnew]
        exact hrewritten (hbefore _ (Store.mem_of_findById found).1) rewrites
    · exact hbefore
  | deleted =>
    rw [ResourceKind.entries_change]
    split
    · exact fun e he => hbefore e (List.mem_of_mem_filter he)
    · exact hbefore

/-! ## Documents -/

namespace ResourceKind

variable {kind : ResourceKind} {setting : Setting} {body content : Members}

/-- The body is a document of the kind, of some version and times. -/
def Stored (kind : ResourceKind) (body : Members) : Prop :=
  ∃ version created modified, version ≤ maxWord64 ∧ kind.Document version created modified body

theorem Content.stored_stampNew (h : kind.Content content) :
    kind.Stored (setting.stampNew content) :=
  ⟨1, _, _, by decide, document_stamp h 1 setting.now setting.now⟩

theorem Content.stored_stampOver (h : kind.Content content) (old : Members) :
    kind.Stored (setting.stampOver old content) :=
  ⟨nextVersion (versionOf old), _, _, nextVersion_le _, document_stamp h _ _ _⟩

/-- A document is shown alike at any time. -/
theorem Stored.present_eq_present (h : kind.Stored body) (baseUrl now later : String) (id : Uuid) :
    kind.present baseUrl now ⟨id, body⟩ = kind.present baseUrl later ⟨id, body⟩ := by
  obtain ⟨version, created, modified, hle, hdocument⟩ := h
  rw [hdocument.present_eq hle, hdocument.present_eq hle]

end ResourceKind

/-! ## Runs -/

namespace Directory

variable {events : List Event} {event : Event} {start d next : Directory}

/-- Whatever the directory stores is a document. -/
def Documented (d : Directory) : Prop :=
  ∀ kind : ResourceKind, ∀ e ∈ d.store.entries kind.collection, kind.Stored e.body

theorem Documented.step (h : d.Documented) (hstep : d.Step event next) (hevent : event.Sorted) :
    next.Documented := by
  intro kind
  cases hstep with
  | failed => exact h kind
  | listed => exact h kind
  | succeeded succeeds =>
    refine succeeds.forall_body (h kind) ?_ ?_
    · rintro input rfl
      exact (ResourceKind.content_sanitize (Members.sortedHeld_some_iff.mp hevent)).stored_stampNew
    · rintro text ifMatch old content ⟨version, created, modified, -, hdocument⟩ rewrites
      exact (rewrites.content hevent hdocument.sorted).stored_stampOver old

theorem History.documented (h : History start events d) (hstart : start.Documented)
    (hevents : ∀ event ∈ events, event.Sorted) : d.Documented := by
  induction h with
  | start => exact hstart
  | step _ hstep ih =>
    obtain ⟨hearlier, hlast⟩ := List.forall_mem_append.mp hevents
    exact (ih hearlier).step hstep (List.forall_mem_singleton.mp hlast)

/-- After any run, whatever is stored is a document. -/
theorem documented_of_serveAll {config : ServiceConfig} {database : String} {ids : Nat → Uuid}
    {clock : Nat → Timestamp} {requests : List Request}
    (hrun : (opened config database ids clock).serveAll requests = (events, d))
    (hsorted : ∀ request ∈ requests, request.Sorted) : d.Documented := by
  refine (history_of_serveAll hrun).documented ?_ (sorted_of_serveAll hrun hsorted)
  intro kind e he
  exact absurd he List.not_mem_nil

end Directory

end Scim
