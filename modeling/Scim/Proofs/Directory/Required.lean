import Scim.Proofs.Directory.Version

/-!
# The required attribute

Creations and replacements refuse content without a value in the attribute that is required.
Patches do not: a patch that removes the attribute, or puts an empty text or `null` in its place, is
written without a guard, and the resource stays without a value until the next write.  This is the
only way to such a resource.  Whatever else has happened in a run, a resource that lacks its
required value was last written by a patch (`Directory.lacking_written_by_patch`).
-/

namespace Scim

/-- A patch of the document succeeded, whether on its own or in a bulk request. -/
def Event.patches (kind : ResourceKind) (id : Uuid) : Event → Bool
  | .performed (.patch kind' text _ _) (.ok _) => kind' = kind ∧ Uuid.ofText? text = some id
  | _ => false

/-- The document was last written by a patch, and not by a creation or a replacement. -/
def LastPatched (kind : ResourceKind) (id : Uuid) (events : List Event) : Prop :=
  ∃ before event after, Event.IsLast (Event.writes kind id) events before event after
    ∧ event.patches kind id = true

/-- An event that does not write a document leaves the way in which it was last written. -/
theorem LastPatched.append {kind : ResourceKind} {id : Uuid} {events : List Event} {event : Event}
    (h : LastPatched kind id events) (hsilent : event.writes kind id = false) :
    LastPatched kind id (events ++ [event]) := by
  obtain ⟨before, last, after, hlast, hpatches⟩ := h
  exact ⟨before, last, after ++ [event], hlast.append hsilent, hpatches⟩

/-- Content without its required value comes from a patch. -/
theorem Operation.Rewrites.patches_of_lacking {op : Operation} {kind : ResourceKind} {text : String}
    {ifMatch : Option String} {old content : Members} {id : Uuid} {answer : Option Resource}
    (h : op.Rewrites kind text ifMatch old content) (hrevised : op.revised? = some (kind, id))
    (hlacks : kind.uniqueValue? content = none) :
    (Event.performed op (.ok answer)).patches kind id = true := by
  cases h with
  | replace required =>
    rw [hlacks] at required
    cases required
  | patch =>
    obtain ⟨_, htext, heq⟩ := Option.map_eq_some_iff.mp hrevised
    cases heq
    simp [Event.patches, htext]

namespace Directory

variable {events : List Event} {event : Event} {d next : Directory}

/-- Documents that lack their required value were last written by patches. -/
def Required (events : List Event) (d : Directory) : Prop :=
  ∀ kind : ResourceKind, ∀ e ∈ d.store.entries kind.collection,
    kind.uniqueValue? e.body = none → LastPatched kind e.id events

theorem Required.step (h : Required events d) (hkeyed : d.Keyed) (hstep : d.Step event next) :
    Required (events ++ [event]) next := by
  intro kind e he hlacks
  cases hstep with
  | failed => exact (h kind e he hlacks).append rfl
  | listed => exact (h kind e he hlacks).append rfl
  | succeeded succeeds =>
    cases succeeds.leaves (hkeyed.distinct kind) he with
    | kept mem untouched => exact (h kind e mem hlacks).append (by simp [Event.writes, untouched])
    | created asked required =>
      rw [Setting.stampNew, uniqueValue?_stamp] at hlacks
      rw [hlacks] at required
      cases required
    | rewritten mem revised rewrites =>
      rw [Setting.stampOver, uniqueValue?_stamp] at hlacks
      exact ⟨events, _, [], Event.isLast_append_self (by simp [Event.writes, revised]),
        rewrites.patches_of_lacking revised hlacks⟩

theorem History.required {start : Directory} (h : History start events d) (hkeyed : start.Keyed)
    (hstart : Required [] start) (hapart : d.IssuedApart) : Required events d :=
  h.invariant hkeyed hapart hstart fun hbefore hkeyed hstep _ => hbefore.step hkeyed hstep

theorem required_opened (config : ServiceConfig) (database : String) (ids : Nat → Uuid)
    (clock : Nat → Timestamp) : Required [] (opened config database ids clock) := by
  intro kind e he
  exact absurd he List.not_mem_nil

/-- The only way to lose the required attribute.  After any run, a user without a user name that
counts as a value, or a group without such a display name, was last written by a patch. -/
theorem lacking_written_by_patch {config : ServiceConfig} {database : String} {ids : Nat → Uuid}
    {clock : Nat → Timestamp} {requests : List Request} {d : Directory}
    (hrun : (opened config database ids clock).serveAll requests = (events, d))
    (hapart : d.IssuedApart) {kind : ResourceKind} {e : Entry}
    (he : e ∈ d.store.entries kind.collection) (hlacks : kind.uniqueValue? e.body = none) :
    LastPatched kind e.id events :=
  (history_of_serveAll hrun).required (keyed_opened config database ids clock)
    (required_opened config database ids clock) hapart kind e he hlacks

/-- A client creates a user and removes the user's name. -/
def requestsOfRemoval : List Request :=
  [.operation (.create .user (.obj [("userName", .str "ada")])),
    .operation (.patch .user "00000000-0000-0000-0000-000000000000"
      (.obj [("Operations", .arr [.obj [("op", .str "remove"), ("path", .str "userName")]])])
      none)]

/-- The user is left without a name. -/
theorem removal_drops_required :
    ¬ ∀ kind : ResourceKind,
      ∀ e ∈ (plain.serveAll requestsOfRemoval).2.store.entries kind.collection,
        (kind.uniqueValue? e.body).isSome := by
  intro h
  have hkept := h .user ⟨.ofFn fun _ => 0, _⟩ List.mem_cons_self
  cases hkept

/-- The patch that removed the name is the last write. -/
theorem lacking_written_by_patch_of_removal :
    ∃ e ∈ (plain.serveAll requestsOfRemoval).2.store.entries ResourceKind.user.collection,
      ResourceKind.user.uniqueValue? e.body = none
        ∧ LastPatched .user e.id (plain.serveAll requestsOfRemoval).1 := by
  have hrun : plain.serveAll requestsOfRemoval = (_, _) := rfl
  have hapart : (plain.serveAll requestsOfRemoval).2.IssuedApart :=
    issuedApart_of_le_one (Nat.le_refl 1)
  refine ⟨⟨.ofFn fun _ => 0, _⟩, List.mem_cons_self, rfl, ?_⟩
  exact lacking_written_by_patch hrun hapart List.mem_cons_self rfl

end Directory

end Scim
