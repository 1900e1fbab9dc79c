import Scim.Proofs.Directory.Bodies
import Scim.Proofs.Directory.Document
import Scim.Proofs.Directory.Version

/-!
# The directory keeps its own books

Clients may send an identifier, a version, times and schemas, and may patch them under any path.
What is stored is decided by the events alone.  A resource has a record (`Recorded`): the event that
created it, the writes since then, and the last event that wrote it.  In every state that a run
leads to, the document has no identifier of its own, its version is one more than the number of its
writes, its times are those of its creation and of its last write, and its schemas are one of the
lists of its kind.  What responses show of these members is a function of the identifier, the
version and the times (`Directory.own_members_recorded`).
-/

namespace Scim

/-! ## The record of a resource -/

namespace Event

/-- An operation was performed, and time has passed. -/
def isOperation : Event → Bool
  | .performed _ _ => true
  | .listed _ _ => false

/-- The resource was created, whether on its own or in a bulk request. -/
def creates (kind : ResourceKind) (id : Uuid) : Event → Bool
  | .performed (.create kind' _) (.ok (some resource)) => kind' = kind ∧ resource.id = id.text
  | _ => false

/-- The document was created or written over. -/
def stamps (kind : ResourceKind) (id : Uuid) (event : Event) : Bool :=
  event.creates kind id || event.writes kind id

/-- A failure stamps nothing. -/
theorem stamps_performed_error (kind : ResourceKind) (id : Uuid) (op : Operation)
    (e : ServiceError) : (performed op (.error e)).stamps kind id = false := by
  cases op <;> rfl

end Event

/-- The time that an operation behind the events reads from the clock. -/
def timeAfter (clock : Nat → Timestamp) (events : List Event) : String :=
  (clock (events.countP Event.isOperation)).milliText

/-- The record of a resource among events: its version counts the writes since its creation, as a
number of 64 bits, and its times are those of the creation and of the last write. -/
structure Recorded (clock : Nat → Timestamp) (kind : ResourceKind) (id : Uuid)
    (events : List Event) (version : Nat) (created modified : String) : Prop where
  creation : ∃ before event after, Event.IsLast (Event.creates kind id) events before event after
    ∧ timeAfter clock before = created
    ∧ (1 + after.countP (Event.writes kind id)) % (maxWord64 + 1) = version
  write : ∃ before event after, Event.IsLast (Event.stamps kind id) events before event after
    ∧ timeAfter clock before = modified

namespace Recorded

variable {clock : Nat → Timestamp} {kind : ResourceKind} {id : Uuid} {events : List Event}
  {version : Nat} {created modified : String} {event : Event}

theorem version_le (h : Recorded clock kind id events version created modified) :
    version ≤ maxWord64 := by
  obtain ⟨_, _, _, _, _, rfl⟩ := h.creation
  exact Nat.le_of_lt_succ (Nat.mod_lt _ (Nat.succ_pos maxWord64))

/-- A record says one thing: it depends on the clock and on the events alone. -/
theorem unique {version' : Nat} {created' modified' : String}
    (h : Recorded clock kind id events version created modified)
    (h' : Recorded clock kind id events version' created' modified') :
    version = version' ∧ created = created' ∧ modified = modified' := by
  obtain ⟨_, _, _, hcreation, rfl, rfl⟩ := h.creation
  obtain ⟨_, _, _, hcreation', rfl, rfl⟩ := h'.creation
  obtain ⟨_, _, _, hwrite, rfl⟩ := h.write
  obtain ⟨_, _, _, hwrite', rfl⟩ := h'.write
  obtain ⟨rfl, -, rfl⟩ := hcreation.unique hcreation'
  obtain ⟨rfl, -, -⟩ := hwrite.unique hwrite'
  exact ⟨rfl, rfl, rfl⟩

/-- A creation opens a record. -/
theorem opened (h : event.creates kind id = true) :
    Recorded clock kind id (events ++ [event]) 1 (timeAfter clock events)
      (timeAfter clock events) where
  creation := ⟨events, event, [], Event.isLast_append_self h, rfl, by simp [maxWord64]⟩
  write := ⟨events, event, [], Event.isLast_append_self (by simp [Event.stamps, h]), rfl⟩

/-- An event that has nothing to do with the document leaves its record. -/
theorem silent (h : Recorded clock kind id events version created modified)
    (hsilent : event.stamps kind id = false) :
    Recorded clock kind id (events ++ [event]) version created modified := by
  obtain ⟨hcreates, hwrites⟩ := Bool.or_eq_false_iff.mp hsilent
  obtain ⟨before, first, after, hcreation, hcreated, hversion⟩ := h.creation
  obtain ⟨before', last, after', hwrite, hmodified⟩ := h.write
  refine ⟨⟨before, first, after ++ [event], hcreation.append hcreates, hcreated, ?_⟩,
    ⟨before', last, after' ++ [event], hwrite.append hsilent, hmodified⟩⟩
  rw [List.countP_append, List.countP_singleton, hwrites, if_neg Bool.false_ne_true]
  exact hversion

/-- A write goes on from the record before. -/
theorem written (h : Recorded clock kind id events version created modified)
    (hcreates : event.creates kind id = false) (hwrites : event.writes kind id = true) :
    Recorded clock kind id (events ++ [event]) (nextVersion version) created
      (timeAfter clock events) := by
  obtain ⟨before, first, after, hcreation, hcreated, rfl⟩ := h.creation
  refine ⟨⟨before, first, after ++ [event], hcreation.append hcreates, hcreated, ?_⟩,
    ⟨events, event, [], Event.isLast_append_self (by simp [Event.stamps, hwrites]), rfl⟩⟩
  rw [List.countP_append, List.countP_singleton, hwrites, if_pos rfl, nextVersion, Nat.mod_add_mod,
    Nat.add_assoc]

end Recorded

/-! ## What is recorded of an operation -/

namespace Operation

variable {setting : Setting} {store next : Store} {op : Operation} {answer : Option Resource}
  {kind : ResourceKind}

/-- A creation shows the identifier that it took. -/
theorem Succeeds.creates_iff (h : op.Succeeds setting store answer next) {id : Uuid} :
    (Event.performed op (.ok answer)).creates kind id = true
      ↔ op.creates = true ∧ op.kind = kind ∧ setting.fresh = id := by
  cases h with
  | created required unclaimed =>
    simp only [Event.creates, decide_eq_true_eq, Operation.creates, Operation.kind, true_and]
    exact and_congr_right fun _ => Uuid.text_injective.eq_iff
  | read | deleted => simp [Event.creates, Operation.creates]
  | rewritten found permitted rewrites unclaimed =>
    cases rewrites <;> simp [Event.creates, Operation.creates]

section Rewrites

variable {text : String} {ifMatch : Option String} {old new : Members}

theorem Rewrites.creates_eq_false (h : op.Rewrites kind text ifMatch old new) (id : Uuid) :
    (Event.performed op (.ok answer)).creates kind id = false := by
  cases h <;> rfl

/-- What is written over a document is content, whatever was asked for. -/
theorem Rewrites.content (h : op.Rewrites kind text ifMatch old new) (hop : op.Sorted)
    (hold : Members.Sorted old) : kind.Content new := by
  cases h with
  | replace => exact ResourceKind.content_sanitize (Members.sortedHeld_some_iff.mp hop)
  | patch reads =>
    exact ResourceKind.content_patched
      (PatchRequest.sortedHeld_of_ofBody reads (Members.sortedHeld_some_iff.mp hop)) hold

end Rewrites

end Operation

/-! ## Steps -/

namespace Directory

variable {clock : Nat → Timestamp} {events : List Event} {event : Event} {d next : Directory}
  {kind : ResourceKind} {e : Entry}

/-- The clock goes with the operations, and every stored document is as its record says. -/
structure Bookkept (clock : Nat → Timestamp) (events : List Event) (d : Directory) : Prop where
  clock_eq : d.clock = clock
  ticks_eq : d.ticks = events.countP Event.isOperation
  documents : ∀ kind : ResourceKind, ∀ e ∈ d.store.entries kind.collection,
    ∃ version created modified, Recorded clock kind e.id events version created modified
      ∧ kind.Document version created modified e.body

theorem Bookkept.now_eq (h : Bookkept clock events d) :
    d.setting.now = timeAfter clock events := by
  rw [timeAfter, ← h.ticks_eq, ← h.clock_eq]
  rfl

theorem Bookkept.step (h : Bookkept clock events d) (hkeyed : d.Keyed) (hstep : d.Step event next)
    (hapart : next.IssuedApart) (hevent : event.Sorted) :
    Bookkept clock (events ++ [event]) next where
  clock_eq := hstep.clock_eq.trans h.clock_eq
  ticks_eq := by
    rw [List.countP_append, ← h.ticks_eq]
    cases hstep <;> rfl
  documents := by
    intro kind e he
    cases hstep with
    | failed =>
      obtain ⟨version, created, modified, hrecord, hdocument⟩ := h.documents kind e he
      exact ⟨version, created, modified, hrecord.silent (Event.stamps_performed_error _ _ _ _),
        hdocument⟩
    | listed =>
      obtain ⟨version, created, modified, hrecord, hdocument⟩ := h.documents kind e he
      exact ⟨version, created, modified, hrecord.silent rfl, hdocument⟩
    | @succeeded op answer store succeeds =>
      cases succeeds.leaves (hkeyed.distinct kind) he with
      | kept mem untouched =>
        obtain ⟨version, created, modified, hrecord, hdocument⟩ := h.documents kind e mem
        refine ⟨version, created, modified, hrecord.silent ?_, hdocument⟩
        -- a creation has drawn another identifier
        have hcreates : (Event.performed op (.ok answer)).creates kind e.id = false := by
          refine Bool.eq_false_iff.mpr fun hcreates => ?_
          obtain ⟨hcreate, -, hfresh⟩ := succeeds.creates_iff.mp hcreates
          exact hapart.not_issued hcreate (hfresh ▸ hkeyed.issued kind e mem)
        simp [Event.stamps, Event.writes, hcreates, untouched]
      | created asked required unclaimed =>
        subst asked
        have hcreates := succeeds.creates_iff.mpr ⟨rfl, rfl, rfl⟩
        refine ⟨1, _, _, Recorded.opened hcreates, ?_⟩
        have hinput := Members.sortedHeld_some_iff.mp hevent
        rw [Setting.stampNew, h.now_eq]
        exact ResourceKind.document_stamp (ResourceKind.content_sanitize hinput) _ _ _
      | rewritten mem revised rewrites unclaimed =>
        -- version and time of creation are those of the record before
        obtain ⟨version, created, modified, hrecord, hdocument⟩ := h.documents kind _ mem
        have hwrites : (Event.performed op (.ok answer)).writes kind _ = true :=
          decide_eq_true revised
        refine ⟨_, _, _, hrecord.written (rewrites.creates_eq_false _) hwrites, ?_⟩
        rw [Setting.stampOver, hdocument.versionOf_eq hrecord.version_le,
          hdocument.metaText?_created, Option.getD_some, h.now_eq]
        exact ResourceKind.document_stamp (rewrites.content hevent hdocument.sorted) _ _ _

theorem bookkept_opened (config : ServiceConfig) (database : String) (ids : Nat → Uuid)
    (clock : Nat → Timestamp) : Bookkept clock [] (opened config database ids clock) where
  clock_eq := rfl
  ticks_eq := rfl
  documents := by
    intro kind e he
    exact absurd he List.not_mem_nil

theorem History.bookkept {start : Directory} (h : History start events d) (hkeyed : start.Keyed)
    (hstart : Bookkept clock [] start) (hapart : d.IssuedApart)
    (hevents : ∀ event ∈ events, event.Sorted) : Bookkept clock events d := by
  refine h.invariant (P := fun events d => (∀ event ∈ events, event.Sorted) →
    Bookkept clock events d) hkeyed hapart (fun _ => hstart) ?_ hevents
  intro events event d next hbefore hkeyed hstep hapart hevents
  obtain ⟨hearlier, hlast⟩ := List.forall_mem_append.mp hevents
  exact (hbefore hearlier).step hkeyed hstep hapart (List.forall_mem_singleton.mp hlast)

/-- The state at the end of a run of requests in order. -/
theorem bookkept_of_serveAll {config : ServiceConfig} {database : String} {ids : Nat → Uuid}
    {requests : List Request}
    (hrun : (opened config database ids clock).serveAll requests = (events, d))
    (hapart : d.IssuedApart) (hsorted : ∀ request ∈ requests, request.Sorted) :
    Bookkept clock events d :=
  (history_of_serveAll hrun).bookkept (keyed_opened config database ids clock)
    (bookkept_opened config database ids clock) hapart (sorted_of_serveAll hrun hsorted)

end Directory

/-! ## What is shown -/

/-- The content of a resource shows an identifier, a version and times. -/
def ResourceKind.ShowsOwn (kind : ResourceKind) (baseUrl : String) (id : Uuid) (version : Nat)
    (created modified : String) (content : Json) : Prop :=
  content.get? "id" = some (.str id.text)
    ∧ content.get? "meta" = some (kind.shownInfo baseUrl id.text version created modified)

/-- A resource shows an identifier, a version and times, in its fields and in its content. -/
structure Resource.ShowsOwn (kind : ResourceKind) (baseUrl : String) (id : Uuid) (version : Nat)
    (created modified : String) (resource : Resource) : Prop where
  id_eq : resource.id = id.text
  location_eq : resource.location = kind.location baseUrl id.text
  etag_eq : resource.etag = Etag.weak version
  content : kind.ShowsOwn baseUrl id version created modified resource.content

/-- Every resource that an event shows is as its record says. -/
def Event.ShowsRecorded (baseUrl : String) (clock : Nat → Timestamp) (events : List Event) :
    Event → Prop
  | .performed op (.ok (some resource)) =>
    ∃ id version created modified, Recorded clock op.kind id events version created modified
      ∧ resource.ShowsOwn op.kind baseUrl id version created modified
  | .performed _ _ => True
  | .listed kind response => ∀ content ∈ response.resources,
    ∃ id version created modified, Recorded clock kind id events version created modified
      ∧ kind.ShowsOwn baseUrl id version created modified content

namespace Directory

variable {clock : Nat → Timestamp} {events : List Event} {event : Event} {d next : Directory}
  {kind : ResourceKind} {e : Entry}

/-- An entry is shown as its record says. -/
theorem Bookkept.exists_showsOwn (h : Bookkept clock events d)
    (he : e ∈ d.store.entries kind.collection) (baseUrl now : String) :
    ∃ id version created modified, Recorded clock kind id events version created modified
      ∧ (kind.present baseUrl now e).ShowsOwn kind baseUrl id version created modified := by
  obtain ⟨version, created, modified, hrecord, hdocument⟩ := h.documents kind e he
  refine ⟨e.id, version, created, modified, hrecord, ?_⟩
  rw [hdocument.present_eq hrecord.version_le baseUrl now e.id]
  exact ⟨rfl, rfl, rfl, ResourceKind.find?_id_shownMembers baseUrl e.id,
    ResourceKind.find?_meta_shownMembers baseUrl e.id⟩

/-- A step shows what is recorded at its end. -/
theorem Bookkept.showsRecorded (h : Bookkept clock (events ++ [event]) next)
    (hstep : d.Step event next) (hkeyed : d.Keyed) :
    event.ShowsRecorded d.config.baseUrl clock (events ++ [event]) := by
  cases hstep with
  | failed => trivial
  | @succeeded op answer store succeeds =>
    cases answer with
    | none => trivial
    | some resource =>
      obtain ⟨e, he, rfl⟩ := succeeds.exists_shown (hkeyed.distinct op.kind)
      exact h.exists_showsOwn he _ _
  | listed kind params =>
    intro content hcontent
    obtain ⟨e, he, rfl⟩ := List.mem_map.mp hcontent
    obtain ⟨id, version, created, modified, hrecord, hshows⟩ :=
      h.exists_showsOwn (Store.mem_of_mem_find he) d.config.baseUrl d.now
    exact ⟨id, version, created, modified, hrecord, hshows.content⟩

/-- The members of the directory's own are out of reach.  After any run, a stored document has no
identifier, and its version, times and schemas are those of its record.  And whatever an event of
the run shows of a resource, its identifier, location, entity tag and metadata come from the record
at that time. -/
theorem own_members_recorded {config : ServiceConfig} {database : String} {ids : Nat → Uuid}
    {requests : List Request}
    (hrun : (opened config database ids clock).serveAll requests = (events, d))
    (hapart : d.IssuedApart) (hsorted : ∀ request ∈ requests, request.Sorted) :
    (∀ kind : ResourceKind, ∀ e ∈ d.store.entries kind.collection, ∃ version created modified,
        Recorded clock kind e.id events version created modified
          ∧ Members.find? "id" e.body = none
          ∧ Members.find? versionKey e.body = some (.ofNat version)
          ∧ Members.find? "meta" e.body = some (storedTimes created modified)
          ∧ ∃ names ∈ kind.schemaLists, Members.find? "schemas" e.body = some (.ofStrings names))
      ∧ ∀ before event after, events = before ++ event :: after →
        event.ShowsRecorded config.baseUrl clock (before ++ [event]) := by
  have hkeyed := keyed_opened config database ids clock
  constructor
  · intro kind e he
    obtain ⟨version, created, modified, hrecord, hdocument⟩ :=
      (bookkept_of_serveAll hrun hapart hsorted).documents kind e he
    obtain ⟨names, hnames, hschemas⟩ := kind.exists_schemasFor_eq (.obj e.body)
    exact ⟨version, created, modified, hrecord, hdocument.id, hdocument.version, hdocument.times,
      names, hnames, hdocument.schemas.trans (congrArg some hschemas)⟩
  · intro before event after hsplit
    have hhistory := history_of_serveAll hrun
    have hevents := sorted_of_serveAll hrun hsorted
    -- the run passes through the state behind the event
    rw [hsplit, List.append_cons] at hhistory hevents
    obtain ⟨middle, hbefore, hafter⟩ := hhistory.split
    have hmiddle := hafter.issuedApart hapart
    have hbook := hbefore.bookkept hkeyed (bookkept_opened config database ids clock) hmiddle
      fun event hevent => hevents event (List.mem_append_left _ hevent)
    obtain ⟨earlier, hearlier, hstep⟩ := hbefore.last
    have hshows := hbook.showsRecorded hstep
      (hearlier.keyed hkeyed (hstep.issuedApart hmiddle))
    rwa [hearlier.config_eq] at hshows

/-- A client sends a user with an identifier, a version, times and schemas, and patches them. -/
def requestsOfIntrusion : List Request :=
  [.operation (.create .user (.obj [("_version", .ofNat 7), ("id", .str "mine"),
      ("meta", .obj [("created", .str "long ago")]), ("schemas", .arr []),
      ("userName", .str "ada")])),
    .operation (.patch .user "00000000-0000-0000-0000-000000000000"
      (.obj [("Operations", .arr [
        .obj [("op", .str "add"), ("value", .obj [("id", .str "mine")])],
        .obj [("op", .str "replace"), ("path", .str "meta.created"), ("value", .str "long ago")],
        .obj [("op", .str "replace"), ("path", .str "_version"), ("value", .ofNat 7)],
        .obj [("op", .str "remove"), ("path", .str "schemas")]])]) none)]

/-- Nothing of it is stored: the document of the user is as its record says. -/
theorem own_members_recorded_of_intrusion :
    ∃ e ∈ (plain.serveAll requestsOfIntrusion).2.store.entries ResourceKind.user.collection,
      Members.find? "id" e.body = none
        ∧ ∃ version created modified, Recorded (fun _ => ⟨0, 0⟩) .user e.id
            (plain.serveAll requestsOfIntrusion).1 version created modified
          ∧ Members.find? versionKey e.body = some (.ofNat version)
          ∧ Members.find? "meta" e.body = some (storedTimes created modified) := by
  have hrun : plain.serveAll requestsOfIntrusion = (_, _) := rfl
  have hapart : (plain.serveAll requestsOfIntrusion).2.IssuedApart :=
    issuedApart_of_le_one (Nat.le_refl 1)
  have hsorted : ∀ request ∈ requestsOfIntrusion, request.Sorted := by decide
  obtain ⟨version, created, modified, hrecord, hid, hversion, htimes, -⟩ :=
    (own_members_recorded hrun hapart hsorted).1 .user ⟨.ofFn fun _ => 0, _⟩ List.mem_cons_self
  exact ⟨_, List.mem_cons_self, hid, version, created, modified, hrecord, hversion, htimes⟩

end Directory

end Scim
