import Scim.Proofs.Directory.Resource
import Scim.Proofs.Directory.Run
import Scim.Proofs.Etag

/-!
# Entity tags across a run

The version of a document counts its writes: it is one more than the number of replacements and
patches that succeeded since the run began, as a number of 64 bits (`Directory.Versioned`).
Whatever a patch does to the members of the directory's own, the stamp behind it decides.  Since a
tag that was shown names the version of its time, a precondition on that tag fails exactly if the
resource has been written in between (`Directory.revision_fails_iff_written`).
-/

namespace Scim

/-! ## What events say about a resource -/

namespace Event

/-- A replacement or a patch of the document succeeded, whether on its own or in a bulk request. -/
def writes (kind : ResourceKind) (id : Uuid) : Event → Bool
  | .performed op (.ok _) => op.revised? = some (kind, id)
  | _ => false

/-- The event shows the resource of an identifier with an entity tag. -/
def Shows (kind : ResourceKind) (id : Uuid) (tag : String) : Event → Prop
  | .performed op (.ok (some resource)) => op.kind = kind ∧ resource.ShowsTag id.text tag
  | .performed _ _ => False
  | .listed kind' response =>
    kind' = kind ∧ ∃ content ∈ response.resources, content.ShowsTag id.text tag

end Event

namespace Operation

variable {setting : Setting} {store next : Store} {op : Operation}

/-- Only documents of the collection are written over. -/
theorem Succeeds.exists_revised {answer : Option Resource}
    (h : op.Succeeds setting store answer next) {kind : ResourceKind} {id : Uuid}
    (hrevised : op.revised? = some (kind, id)) :
    ∃ e ∈ store.entries kind.collection, e.id = id := by
  cases h with
  | rewritten found permitted rewrites unclaimed =>
    obtain ⟨hold, htext⟩ := Store.mem_of_findById found
    rw [rewrites.revised?_eq htext] at hrevised
    cases hrevised
    exact ⟨_, hold, rfl⟩
  | created | read | deleted => cases hrevised

/-- A resource that is answered shows an entry that is there afterwards. -/
theorem Succeeds.exists_shown {resource : Resource}
    (h : op.Succeeds setting store (some resource) next)
    (hdistinct : ((store.entries op.kind.collection).map Entry.id).Nodup) :
    ∃ e ∈ next.entries op.kind.collection, setting.shown op.kind e = resource := by
  cases h with
  | @created kind =>
    refine ⟨_, ?_, rfl⟩
    simp [Operation.kind, Store.insert]
  | read found => exact ⟨_, (Store.mem_of_findById found).1, rfl⟩
  | @rewritten _ kind text ifMatch old content found permitted rewrites unclaimed =>
    obtain ⟨hold, -⟩ := Store.mem_of_findById found
    rw [rewrites.kind_eq] at hdistinct ⊢
    refine ⟨_, ?_, rfl⟩
    rw [Store.entries_change_self, Store.mem_overwrite_iff hdistinct]
    exact Or.inr ⟨List.mem_map_of_mem hold, rfl⟩

end Operation

namespace Directory

/-- An event that shows a tag shows that of an entry which is there afterwards. -/
theorem Step.exists_tagged {d next : Directory} {event : Event} (h : d.Step event next)
    (hkeyed : d.Keyed) {kind : ResourceKind} {id : Uuid} {tag : String}
    (hshows : event.Shows kind id tag) :
    ∃ e ∈ next.store.entries kind.collection, e.id = id ∧ Etag.weak (versionOf e.body) = tag := by
  cases h with
  | failed => exact hshows.elim
  | @succeeded op answer store succeeds =>
    cases answer with
    | none => exact hshows.elim
    | some resource =>
      obtain ⟨rfl, htag⟩ := hshows
      obtain ⟨e, he, rfl⟩ := succeeds.exists_shown (hkeyed.distinct op.kind)
      obtain ⟨hid, hversion⟩ := (ResourceKind.showsTag_present_iff _ _ _ _).mp htag
      exact ⟨e, he, Uuid.text_injective hid, hversion⟩
  | listed kind' params =>
    obtain ⟨rfl, content, hcontent, htag⟩ := hshows
    obtain ⟨e, he, rfl⟩ := List.mem_map.mp hcontent
    obtain ⟨hid, hversion⟩ := (ResourceKind.showsTag_content_present_iff _ _ _ _).mp htag
    exact ⟨e, Store.mem_of_mem_find he, Uuid.text_injective hid, hversion⟩

/-! ## Versions count writes -/

/-- The version of a document is one more than the number of its writes, and only identifiers that
were drawn have been written under. -/
structure Versioned (events : List Event) (d : Directory) : Prop where
  version : ∀ kind : ResourceKind, ∀ e ∈ d.store.entries kind.collection,
    versionOf e.body = (1 + events.countP (Event.writes kind e.id)) % (maxWord64 + 1)
  written : ∀ (kind : ResourceKind) (id : Uuid), ∀ event ∈ events, event.writes kind id = true →
    d.Issued id

variable {events : List Event} {event : Event} {d next : Directory}

/-- An identifier that was not drawn yet has no writes. -/
theorem Versioned.countP_eq_zero (h : Versioned events d) {id : Uuid} (hid : ¬ d.Issued id)
    (kind : ResourceKind) : events.countP (Event.writes kind id) = 0 := by
  rw [List.countP_eq_zero]
  intro event hevent hwrites
  exact hid (h.written kind id event hevent hwrites)

/-- An event that writes nothing leaves the counts alone. -/
theorem Versioned.silent (h : Versioned events d)
    (hsilent : ∀ kind id, event.writes kind id = false) : Versioned (events ++ [event]) d where
  version := by
    intro kind e he
    rw [List.countP_append]
    simpa [hsilent] using h.version kind e he
  written := by
    intro kind id other hother hwrites
    rcases List.mem_append.mp hother with hother | hother
    · exact h.written kind id other hother hwrites
    · rw [List.mem_singleton.mp hother, hsilent] at hwrites
      cases hwrites

/-- Every step counts the write that it makes. -/
theorem Versioned.step (h : Versioned events d) (hkeyed : d.Keyed) (hstep : d.Step event next)
    (hapart : next.IssuedApart) : Versioned (events ++ [event]) next := by
  cases hstep with
  | failed run =>
    have hsame : Versioned events { d with ticks := d.ticks + 1 } := ⟨h.version, h.written⟩
    exact hsame.silent fun kind id => rfl
  | listed => exact h.silent fun kind id => rfl
  | @succeeded op answer store succeeds =>
    constructor
    · intro kind e he
      rw [List.countP_append]
      cases succeeds.leaves (hkeyed.distinct kind) he with
      | kept mem untouched => simpa [Event.writes, untouched] using h.version kind _ mem
      | created asked required unclaimed =>
        -- the identifier is new, and nothing was written under it
        subst asked
        rw [h.countP_eq_zero (hapart.not_issued rfl), Setting.stampNew,
          versionOf_stamp _ _ _ (by decide)]
        simp [Event.writes, Operation.revised?, maxWord64]
      | rewritten mem revised rewrites unclaimed =>
        -- the stamp goes on from the version before, and the event counts
        have hold := h.version kind _ mem
        rw [Setting.stampOver, versionOf_stamp _ _ _ (nextVersion_le _), nextVersion, hold,
          Nat.mod_add_mod]
        simp [Event.writes, revised, Nat.add_assoc]
    · intro kind id event hevent hwrites
      rcases List.mem_append.mp hevent with hevent | hevent
      · exact (h.written kind id event hevent hwrites).advanced op store
      · rw [List.mem_singleton.mp hevent] at hwrites
        obtain ⟨e, he, rfl⟩ := succeeds.exists_revised (of_decide_eq_true hwrites)
        exact (hkeyed.issued kind e he).advanced op store

theorem History.versioned {start : Directory} (h : History start events d) (hkeyed : start.Keyed)
    (hstart : Versioned [] start) (hapart : d.IssuedApart) : Versioned events d :=
  h.invariant hkeyed hapart hstart fun hbefore hkeyed hstep hapart =>
    hbefore.step hkeyed hstep hapart

theorem versioned_opened (config : ServiceConfig) (database : String) (ids : Nat → Uuid)
    (clock : Nat → Timestamp) : Versioned [] (opened config database ids clock) where
  version := by
    intro kind e he
    exact absurd he List.not_mem_nil
  written := by
    intro kind id event hevent
    exact absurd hevent List.not_mem_nil

/-! ## Preconditions -/

/-- Optimistic locking.  Say an event of a run showed a resource with an entity tag, and the
resource is still there at the end of the run.  Then a replacement or a well-formed patch under that
tag fails its precondition if and only if the resource was written after the event.  The bound on
the writes keeps the version from coming round to the same number again. -/
theorem revision_fails_iff_written {config : ServiceConfig} {database : String} {ids : Nat → Uuid}
    {clock : Nat → Timestamp} {requests : List Request} {before between : List Event}
    {shown : Event} {d : Directory} {kind : ResourceKind} {id : Uuid} {tag : String}
    {op : Operation}
    (hrun : (opened config database ids clock).serveAll requests = (before ++ shown :: between, d))
    (hapart : d.IssuedApart) (hshown : shown.Shows kind id tag)
    (hlive : (d.store.findById kind.collection id.text).isSome)
    (hshort : between.countP (Event.writes kind id) < 2 ^ 64 - 1)
    (hop : op.Revises kind id (some tag)) :
    (d.perform op).1 = .error ResourceKind.preconditionFailed
      ↔ ∃ event ∈ between, event.writes kind id = true := by
  have hkeyed := keyed_opened config database ids clock
  have hstart := versioned_opened config database ids clock
  have hhistory := history_serveAll (opened config database ids clock) requests
  rw [hrun] at hhistory
  -- the tag is that of the version right after the event
  rw [List.append_cons] at hhistory
  obtain ⟨middle, hbefore, hbetween⟩ := hhistory.split
  obtain ⟨earlier, hearlier, hstep⟩ := hbefore.last
  have hmiddle := hbetween.issuedApart hapart
  have hkeyedEarlier := hearlier.keyed hkeyed (hstep.issuedApart hmiddle)
  obtain ⟨e, he, rfl, rfl⟩ := hstep.exists_tagged hkeyedEarlier hshown
  have hshownVersion := (hbefore.versioned hkeyed hstart hmiddle).version kind e he
  -- the version at the end counts the writes in between on top
  obtain ⟨old, hold⟩ := Option.isSome_iff_exists.mp hlive
  rw [Store.findById_of_ofText? (Uuid.ofText?_text e.id)] at hold
  obtain ⟨hmem, hid⟩ := Store.mem_of_lookup hold
  have hversion := (hhistory.versioned hkeyed hstart hapart).version kind old hmem
  rw [hid, List.countP_append] at hversion
  have hle : versionOf e.body ≤ maxWord64 := by
    rw [hshownVersion]
    exact Nat.le_of_lt_succ (Nat.mod_lt _ (Nat.succ_pos maxWord64))
  rw [perform_fst_eq_error_iff, Operation.run_eq_preconditionFailed_iff hop hold,
    ← Bool.not_eq_true, Etag.permits_weak_iff hle, hshownVersion, hversion, ← List.countP_pos_iff]
  -- a count below the number of versions leaves the same version only if it is zero
  unfold maxWord64
  omega

/-- A client creates a user, and a bulk request patches the user's version back to the first. -/
def requestsOfReset : List Request :=
  [.operation (.create .user (.obj [("userName", .str "ada")])),
    .bulk { operations := [{
      method := "patch"
      path := "/Users/00000000-0000-0000-0000-000000000000"
      data := some (.obj [("Operations", .arr [.obj [("op", .str "replace"),
        ("path", .str "_version"), ("value", .ofNat 1)]])]) }] }]

/-- The tag of the creation has expired all the same. -/
theorem revision_fails_after_reset :
    ((plain.serveAll requestsOfReset).2.perform
      (.replace .user "urn:uuid:00000000-0000-0000-0000-000000000000"
        (.obj [("userName", .str "ada")]) (some "W/\"1\""))).1
      = .error ResourceKind.preconditionFailed := by
  have hrun : plain.serveAll requestsOfReset = ([] ++ _ :: [_], _) := rfl
  have hapart : (plain.serveAll requestsOfReset).2.IssuedApart := by
    intro i j hij hj
    have hone : (plain.serveAll requestsOfReset).2.issued = 1 := rfl
    omega
  have hop : (Operation.replace .user "urn:uuid:00000000-0000-0000-0000-000000000000"
      (.obj [("userName", .str "ada")]) (some "W/\"1\"")).Revises .user (.ofFn fun _ => 0)
      (some "W/\"1\"") := ⟨rfl, rfl, rfl⟩
  have hiff := revision_fails_iff_written hrun hapart ⟨rfl, Or.inl ⟨rfl, rfl⟩⟩ rfl (by decide) hop
  exact hiff.mpr ⟨_, List.mem_singleton_self _, rfl⟩

end Directory

end Scim
