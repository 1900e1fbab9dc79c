import Scim.Directory.Basic
import Scim.Proofs.Store

/-!
# The effect of an operation

This module says once what an operation can do.  `Operation.Succeeds` lists the four ways in which
one succeeds, with everything that was checked on the way: a document is created, one is read, one
is written over, or one is removed.  Replacements and patches share a case; they differ only in how
the new content comes about, which is `Operation.Rewrites`.  An operation runs to an answer and a
store exactly if it succeeds with them (`Operation.run_eq_ok_iff`), so nothing that holds of the
directory over time needs the bodies of the operations again.  Of the failures one says something
about a document that is there: a precondition fails exactly if it does not permit the version
(`Operation.run_eq_preconditionFailed_iff`).
-/

namespace Scim

/-! ## What is checked and what is written -/

/-- No entry matches the guard of the content; content without a unique value has none. -/
def ResourceKind.Unclaimed (kind : ResourceKind) (content : Members) (entries : List Entry) :
    Prop :=
  ∀ value, kind.uniqueValue? content = some value →
    ∀ e ∈ entries, Store.matching (kind.guard value) .ignoreCase e = false

namespace Setting

/-- The document that new content becomes. -/
def stampNew (setting : Setting) (content : Members) : Members :=
  stamp 1 setting.now setting.now content

/-- The document that new content becomes when it is written over another one. -/
def stampOver (setting : Setting) (old content : Members) : Members :=
  stamp (nextVersion (versionOf old)) ((metaText? "created" old).getD setting.now) setting.now
    content

/-- The resource that an entry is shown as. -/
def shown (setting : Setting) (kind : ResourceKind) (entry : Entry) : Resource :=
  kind.present setting.baseUrl setting.now entry

end Setting

namespace Operation

/-- The operation writes over a document: it addresses one of a kind by a text, under a
precondition, and makes content out of the old document. -/
inductive Rewrites : Operation → ResourceKind → String → Option String → Members → Members → Prop
  | replace {kind : ResourceKind} {text : String} {input : Json} {ifMatch : Option String}
      {old : Members} (required : (kind.uniqueValue? (kind.sanitize input)).isSome) :
      Rewrites (.replace kind text input ifMatch) kind text ifMatch old (kind.sanitize input)
  | patch {kind : ResourceKind} {text : String} {body : Json} {ifMatch : Option String}
      {old : Members} {request : PatchRequest} (reads : PatchRequest.ofBody body = .ok request) :
      Rewrites (.patch kind text body ifMatch) kind text ifMatch old
        (kind.patched request.operations old)

/-- The ways in which an operation succeeds, with its answer and the next store. -/
inductive Succeeds (setting : Setting) (store : Store) :
    Operation → Option Resource → Store → Prop
  | created {kind : ResourceKind} {input : Json}
      (required : (kind.uniqueValue? (kind.sanitize input)).isSome)
      (unclaimed : kind.Unclaimed (kind.sanitize input) (store.entries kind.collection)) :
      Succeeds setting store (.create kind input)
        (some (setting.shown kind ⟨setting.fresh, setting.stampNew (kind.sanitize input)⟩))
        (store.insert kind.collection setting.fresh (setting.stampNew (kind.sanitize input)))
  | read {kind : ResourceKind} {text : String} {entry : Entry}
      (found : store.findById kind.collection text = some entry) :
      Succeeds setting store (.read kind text) (some (setting.shown kind entry)) store
  | rewritten {op : Operation} {kind : ResourceKind} {text : String} {ifMatch : Option String}
      {old : Entry} {content : Members}
      (found : store.findById kind.collection text = some old)
      (permitted : Etag.permits ifMatch (versionOf old.body) = true)
      (rewrites : op.Rewrites kind text ifMatch old.body content)
      (unclaimed : kind.Unclaimed content
        ((store.entries kind.collection).filter fun e => e.id != old.id)) :
      Succeeds setting store op
        (some (setting.shown kind ⟨old.id, setting.stampOver old.body content⟩))
        (store.change kind.collection
          (Store.overwrite old.id (setting.stampOver old.body content)))
  | deleted {kind : ResourceKind} {text : String} {entry : Entry}
      (found : store.findById kind.collection text = some entry) :
      Succeeds setting store (.delete kind text) none
        (store.change kind.collection fun entries => entries.filter fun e => e.id != entry.id)

end Operation

/-! ## The checks of the operations -/

section Bind

variable {α β : Type}

theorem ok_bind (a : α) (f : α → Except ServiceError β) : (.ok a >>= f) = f a := rfl

theorem error_bind (e : ServiceError) (f : α → Except ServiceError β) :
    (.error e >>= f) = .error e := rfl

/-- A success of two steps is a success of each. -/
theorem bind_eq_ok_iff {x : Except ServiceError α} {f : α → Except ServiceError β} {b : β} :
    (x >>= f) = .ok b ↔ ∃ a, x = .ok a ∧ f a = .ok b := by
  cases x <;> simp [ok_bind, error_bind]

/-- When the second step cannot fail, the errors are those of the first. -/
theorem bind_eq_error_iff {x : Except ServiceError α} {f : α → Except ServiceError β}
    (hf : ∀ a, ∃ b, f a = .ok b) {e : ServiceError} : (x >>= f) = .error e ↔ x = .error e := by
  cases x with
  | error e' => simp [error_bind]
  | ok a =>
    obtain ⟨b, hb⟩ := hf a
    simp [ok_bind, hb]

end Bind

namespace ResourceKind

variable {kind : ResourceKind} {setting : Setting} {store : Store}

theorem load_eq_ok_iff {text : String} {entry : Entry} :
    kind.load store text = .ok entry ↔ store.findById kind.collection text = some entry := by
  unfold load
  cases store.findById kind.collection text <;> simp

theorem permittedVersion_eq_ok_iff {body : Members} {ifMatch : Option String} {version : Nat} :
    permittedVersion body ifMatch = .ok version
      ↔ Etag.permits ifMatch (versionOf body) = true ∧ versionOf body = version := by
  simp only [permittedVersion]
  split <;> simp [*]

theorem requiredValue_eq_ok_iff {body : Members} {value : Json} :
    kind.requiredValue body = .ok value ↔ kind.uniqueValue? body = some value := by
  unfold requiredValue
  cases kind.uniqueValue? body <;> simp

/-- Content is claimed when some entry matches the guard of its unique value. -/
theorem unclaimed_iff {content : Members} {value : Json}
    (hvalue : kind.uniqueValue? content = some value) {entries : List Entry} :
    kind.Unclaimed content entries
      ↔ entries.any (Store.matching (kind.guard value) .ignoreCase) = false := by
  simp [Unclaimed, hvalue]

theorem unclaimed_of_uniqueValue?_eq_none {content : Members}
    (hvalue : kind.uniqueValue? content = none) (entries : List Entry) :
    kind.Unclaimed content entries := by
  intro value hother
  rw [hvalue] at hother
  cases hother

section Write

variable {id : Uuid} {old : Entry} {content body : Members}

/-- A write over a live document goes through unless another document has its unique value. -/
theorem write_eq_ok_iff (hlive : Store.lookup id (store.entries kind.collection) = some old)
    {next : Store} :
    kind.write store id body ((kind.uniqueValue? content).map kind.guard) = .ok next
      ↔ kind.Unclaimed content ((store.entries kind.collection).filter fun e => e.id != id)
        ∧ store.change kind.collection (Store.overwrite id body) = next := by
  unfold write
  cases hvalue : kind.uniqueValue? content with
  | none =>
    simp [Store.replace_of_live hlive, unclaimed_of_uniqueValue?_eq_none hvalue]
  | some value =>
    simp only [Option.map_some, Store.replaceUnless_of_live hlive, unclaimed_iff hvalue]
    cases ((store.entries kind.collection).filter fun e => e.id != id).any
      (Store.matching (kind.guard value) .ignoreCase) <;> simp

/-- A write over a live document can fail as a duplicate only. -/
theorem eq_duplicate_of_write_error
    (hlive : Store.lookup id (store.entries kind.collection) = some old)
    {guard : Option Predicate} {e : ServiceError} (h : kind.write store id body guard = .error e) :
    e = kind.duplicate := by
  unfold write at h
  cases guard with
  | none => simp [Store.replace_of_live hlive] at h
  | some p =>
    simp only [Store.replaceUnless_of_live hlive] at h
    cases hany : ((store.entries kind.collection).filter (·.id != id)).any
      (Store.matching p .ignoreCase) <;> simp_all

/-- An update writes content over a stored document whose unique value nobody else claims, and
answers what it wrote. -/
def Updates (kind : ResourceKind) (setting : Setting) (store : Store) (old : Entry)
    (content : Members) (resource : Resource) (next : Store) : Prop :=
  kind.Unclaimed content ((store.entries kind.collection).filter fun e => e.id != old.id)
    ∧ setting.shown kind ⟨old.id, setting.stampOver old.body content⟩ = resource
    ∧ store.change kind.collection (Store.overwrite old.id (setting.stampOver old.body content))
      = next

theorem update_eq_ok_iff (hlive : Store.lookup old.id (store.entries kind.collection) = some old)
    {resource : Resource} {next : Store} :
    kind.update setting store old (versionOf old.body) content
        ((kind.uniqueValue? content).map kind.guard) = .ok (resource, next)
      ↔ kind.Updates setting store old content resource next := by
  simp only [update, bind_eq_ok_iff, write_eq_ok_iff hlive]
  constructor
  · rintro ⟨written, ⟨hunclaimed, rfl⟩, hanswer⟩
    cases hanswer
    exact ⟨hunclaimed, rfl, rfl⟩
  · rintro ⟨hunclaimed, rfl, rfl⟩
    exact ⟨_, ⟨hunclaimed, rfl⟩, rfl⟩

theorem eq_duplicate_of_update_error
    (hlive : Store.lookup old.id (store.entries kind.collection) = some old) {version : Nat}
    {guard : Option Predicate} {e : ServiceError}
    (h : kind.update setting store old version content guard = .error e) : e = kind.duplicate := by
  simp only [update] at h
  cases hwrite : kind.write store old.id (stamp (nextVersion version)
      ((metaText? "created" old.body).getD setting.now) setting.now content) guard with
  | ok next => rw [hwrite] at h; cases h
  | error e' =>
    rw [hwrite] at h
    cases h
    exact eq_duplicate_of_write_error hlive hwrite

end Write

/-! ## One lemma for each operation -/

variable {resource : Resource} {next : Store}

theorem create_eq_ok_iff {input : Json} :
    kind.create setting store input = .ok (resource, next)
      ↔ (kind.uniqueValue? (kind.sanitize input)).isSome
        ∧ kind.Unclaimed (kind.sanitize input) (store.entries kind.collection)
        ∧ setting.shown kind ⟨setting.fresh, setting.stampNew (kind.sanitize input)⟩ = resource
        ∧ store.insert kind.collection setting.fresh (setting.stampNew (kind.sanitize input))
          = next := by
  simp only [create, bind_eq_ok_iff, requiredValue_eq_ok_iff]
  cases hvalue : kind.uniqueValue? (kind.sanitize input) with
  | none => simp
  | some value =>
    simp only [Option.some.injEq, exists_eq_left', Store.insertUnless, unclaimed_iff hvalue]
    cases (store.entries kind.collection).any (Store.matching (kind.guard value) .ignoreCase) with
    | true => simp
    | false => simp [pure, Except.pure, Setting.shown, Setting.stampNew]

theorem read_eq_ok_iff {text : String} :
    kind.read setting store text = .ok resource
      ↔ ∃ entry, store.findById kind.collection text = some entry
        ∧ setting.shown kind entry = resource := by
  simp only [read, bind_eq_ok_iff, load_eq_ok_iff, pure, Except.pure, Except.ok.injEq]
  rfl

theorem replace_eq_ok_iff {text : String} {input : Json} {ifMatch : Option String} :
    kind.replace setting store text input ifMatch = .ok (resource, next)
      ↔ ∃ old, store.findById kind.collection text = some old
        ∧ Etag.permits ifMatch (versionOf old.body) = true
        ∧ (kind.uniqueValue? (kind.sanitize input)).isSome
        ∧ kind.Updates setting store old (kind.sanitize input) resource next := by
  simp only [replace, bind_eq_ok_iff, load_eq_ok_iff, permittedVersion_eq_ok_iff,
    requiredValue_eq_ok_iff]
  refine exists_congr fun old => and_congr_right fun hfound => ?_
  -- the required value is the one that guards the update
  have hupdate (value : Json) (hvalue : kind.uniqueValue? (kind.sanitize input) = some value) :
      kind.update setting store old (versionOf old.body) (kind.sanitize input)
          (some (kind.guard value)) = .ok (resource, next)
        ↔ kind.Updates setting store old (kind.sanitize input) resource next := by
    rw [← update_eq_ok_iff (Store.lookup_of_findById hfound), hvalue, Option.map_some]
  constructor
  · rintro ⟨_, ⟨hpermitted, rfl⟩, value, hvalue, hupdated⟩
    exact ⟨hpermitted, by simp [hvalue], (hupdate value hvalue).mp hupdated⟩
  · rintro ⟨hpermitted, hrequired, hupdates⟩
    obtain ⟨value, hvalue⟩ := Option.isSome_iff_exists.mp hrequired
    exact ⟨_, ⟨hpermitted, rfl⟩, value, hvalue, (hupdate value hvalue).mpr hupdates⟩

theorem patch_eq_ok_iff {text : String} {body : Json} {ifMatch : Option String} :
    kind.patch setting store text body ifMatch = .ok (resource, next)
      ↔ ∃ request, PatchRequest.ofBody body = .ok request
        ∧ ∃ old, store.findById kind.collection text = some old
        ∧ Etag.permits ifMatch (versionOf old.body) = true
        ∧ kind.Updates setting store old (kind.patched request.operations old.body) resource
          next := by
  simp only [patch, bind_eq_ok_iff, load_eq_ok_iff, permittedVersion_eq_ok_iff]
  refine exists_congr fun request => and_congr ?_ (exists_congr fun old =>
    and_congr_right fun hfound => ?_)
  · cases PatchRequest.ofBody body <;> simp [Except.mapError]
  · have hlive := Store.lookup_of_findById hfound
    constructor
    · rintro ⟨_, ⟨hpermitted, rfl⟩, hupdate⟩
      exact ⟨hpermitted, (update_eq_ok_iff hlive).mp hupdate⟩
    · rintro ⟨hpermitted, hupdates⟩
      exact ⟨_, ⟨hpermitted, rfl⟩, (update_eq_ok_iff hlive).mpr hupdates⟩

/-- A document is removed exactly if it is found. -/
theorem delete_eq_ok_iff {text : String} {next : Store} :
    kind.delete store text = .ok next
      ↔ ∃ entry, store.findById kind.collection text = some entry
        ∧ store.change kind.collection (fun entries => entries.filter fun e => e.id != entry.id)
          = next := by
  unfold delete Store.delete Store.findById
  cases Uuid.ofText? text with
  | none => simp
  | some id =>
    cases hlookup : Store.lookup id (store.entries kind.collection) with
    | none =>
      have hany : (store.entries kind.collection).any (·.id == id) = false := by
        simpa [Store.lookup] using hlookup
      simp only [Option.bind_some, hany, hlookup]
      simp
    | some entry =>
      obtain ⟨hmem, rfl⟩ := Store.mem_of_lookup hlookup
      have hany : (store.entries kind.collection).any (·.id == entry.id) = true :=
        List.any_eq_true.mpr ⟨entry, hmem, by simp⟩
      simp only [Option.bind_some, hany, hlookup]
      simp

/-! ## Preconditions -/

section Precondition

variable {old : Entry} {text : String} {ifMatch : Option String}

theorem update_ne_preconditionFailed
    (hlive : Store.lookup old.id (store.entries kind.collection) = some old) {version : Nat}
    {content : Members} {guard : Option Predicate} :
    kind.update setting store old version content guard ≠ .error preconditionFailed := by
  intro hfailed
  have hduplicate := eq_duplicate_of_update_error hlive hfailed
  cases hduplicate

/-- Of all that can go wrong with the replacement of a live document, only the precondition fails as
one, and it does whatever the new content is. -/
theorem replace_eq_preconditionFailed_iff
    (hfound : store.findById kind.collection text = some old) {input : Json} :
    kind.replace setting store text input ifMatch = .error preconditionFailed
      ↔ Etag.permits ifMatch (versionOf old.body) = false := by
  simp only [replace, load_eq_ok_iff.mpr hfound, ok_bind, permittedVersion]
  cases Etag.permits ifMatch (versionOf old.body) with
  | false => simp [error_bind]
  | true =>
    simp only [if_true, ok_bind, requiredValue, Bool.true_eq_false, iff_false]
    cases kind.uniqueValue? (kind.sanitize input) with
    | none =>
      intro hfailed
      cases hfailed
    | some value => exact update_ne_preconditionFailed (Store.lookup_of_findById hfound)

/-- The same of a patch whose request can be read. -/
theorem patch_eq_preconditionFailed_iff
    (hfound : store.findById kind.collection text = some old) {body : Json} {request : PatchRequest}
    (hreads : PatchRequest.ofBody body = .ok request) :
    kind.patch setting store text body ifMatch = .error preconditionFailed
      ↔ Etag.permits ifMatch (versionOf old.body) = false := by
  simp only [patch, hreads, Except.mapError, load_eq_ok_iff.mpr hfound, ok_bind, permittedVersion]
  cases Etag.permits ifMatch (versionOf old.body) with
  | false => simp [error_bind]
  | true =>
    simp only [if_true, ok_bind, Bool.true_eq_false, iff_false]
    exact update_ne_preconditionFailed (Store.lookup_of_findById hfound)

end Precondition

end ResourceKind

/-! ## The effect -/

namespace Operation

variable {setting : Setting} {store next : Store} {op : Operation} {answer : Option Resource}

/-- An operation runs to an answer and a store exactly if it succeeds with them. -/
theorem run_eq_ok_iff :
    op.run setting store = .ok (answer, next) ↔ op.Succeeds setting store answer next := by
  constructor
  · intro h
    cases op with
    | create kind input =>
      simp only [run, bind_eq_ok_iff] at h
      obtain ⟨⟨resource, after⟩, hcreate, hanswer⟩ := h
      cases hanswer
      obtain ⟨hrequired, hunclaimed, rfl, rfl⟩ := ResourceKind.create_eq_ok_iff.mp hcreate
      exact .created hrequired hunclaimed
    | read kind text =>
      simp only [run, bind_eq_ok_iff] at h
      obtain ⟨resource, hread, hanswer⟩ := h
      cases hanswer
      obtain ⟨entry, hfound, rfl⟩ := ResourceKind.read_eq_ok_iff.mp hread
      exact .read hfound
    | replace kind text input ifMatch =>
      simp only [run, bind_eq_ok_iff] at h
      obtain ⟨⟨resource, after⟩, hreplace, hanswer⟩ := h
      cases hanswer
      obtain ⟨old, hfound, hpermitted, hrequired, hunclaimed, rfl, rfl⟩ :=
        ResourceKind.replace_eq_ok_iff.mp hreplace
      exact .rewritten hfound hpermitted (.replace hrequired) hunclaimed
    | patch kind text body ifMatch =>
      simp only [run, bind_eq_ok_iff] at h
      obtain ⟨⟨resource, after⟩, hpatch, hanswer⟩ := h
      cases hanswer
      obtain ⟨request, hreads, old, hfound, hpermitted, hunclaimed, rfl, rfl⟩ :=
        ResourceKind.patch_eq_ok_iff.mp hpatch
      exact .rewritten hfound hpermitted (.patch hreads) hunclaimed
    | delete kind text =>
      simp only [run, bind_eq_ok_iff] at h
      obtain ⟨after, hdelete, hanswer⟩ := h
      cases hanswer
      obtain ⟨entry, hfound, rfl⟩ := ResourceKind.delete_eq_ok_iff.mp hdelete
      exact .deleted hfound
  · intro h
    cases h with
    | created required unclaimed =>
      rw [run, ResourceKind.create_eq_ok_iff.mpr ⟨required, unclaimed, rfl, rfl⟩]
      rfl
    | read found =>
      rw [run, ResourceKind.read_eq_ok_iff.mpr ⟨_, found, rfl⟩]
      rfl
    | rewritten found permitted rewrites unclaimed =>
      cases rewrites with
      | replace required =>
        rw [run, ResourceKind.replace_eq_ok_iff.mpr
          ⟨_, found, permitted, required, unclaimed, rfl, rfl⟩]
        rfl
      | patch reads =>
        rw [run, ResourceKind.patch_eq_ok_iff.mpr
          ⟨_, reads, _, found, permitted, unclaimed, rfl, rfl⟩]
        rfl
    | deleted found =>
      rw [run, ResourceKind.delete_eq_ok_iff.mpr ⟨_, found, rfl⟩]
      rfl

/-! ## Revisions -/

/-- The operation is a revision: a replacement, or a patch whose request can be read, of the
document under an identifier, which any text of the identifier may address, under a precondition. -/
def Revises (kind : ResourceKind) (id : Uuid) (ifMatch : Option String) : Operation → Prop
  | replace kind' text _ ifMatch' =>
    kind' = kind ∧ Uuid.ofText? text = some id ∧ ifMatch' = ifMatch
  | patch kind' text body ifMatch' =>
    kind' = kind ∧ Uuid.ofText? text = some id ∧ ifMatch' = ifMatch
      ∧ ∃ request, PatchRequest.ofBody body = .ok request
  | _ => False

/-- A revision of a live document fails its precondition exactly if that does not permit the version
of the document. -/
theorem run_eq_preconditionFailed_iff {kind : ResourceKind} {id : Uuid} {ifMatch : Option String}
    {old : Entry} (hrevises : op.Revises kind id ifMatch)
    (hlive : Store.lookup id (store.entries kind.collection) = some old) :
    op.run setting store = .error ResourceKind.preconditionFailed
      ↔ Etag.permits ifMatch (versionOf old.body) = false := by
  cases op with
  | replace kind' text input ifMatch' =>
    obtain ⟨rfl, htext, rfl⟩ := hrevises
    have hfound := (Store.findById_of_ofText? htext).trans hlive
    rw [run, bind_eq_error_iff (by intro answer; exact ⟨_, rfl⟩)]
    exact ResourceKind.replace_eq_preconditionFailed_iff hfound
  | patch kind' text body ifMatch' =>
    obtain ⟨rfl, htext, rfl, request, hreads⟩ := hrevises
    have hfound := (Store.findById_of_ofText? htext).trans hlive
    rw [run, bind_eq_error_iff (by intro answer; exact ⟨_, rfl⟩)]
    exact ResourceKind.patch_eq_preconditionFailed_iff hfound hreads
  | create | read | delete => exact hrevises.elim

end Operation

/-! ## The directory -/

namespace Directory

/-- The directory after an operation succeeded. -/
def advanced (d : Directory) (op : Operation) (next : Store) : Directory :=
  { d with
    store := next
    ticks := d.ticks + 1
    issued := if op.creates then d.issued + 1 else d.issued }

/-- An operation fails and only takes time, or it succeeds and the directory advances. -/
theorem perform_cases (d : Directory) (op : Operation) :
    (∃ e, op.run d.setting d.store = .error e
        ∧ d.perform op = (.error e, { d with ticks := d.ticks + 1 }))
      ∨ ∃ answer next, op.Succeeds d.setting d.store answer next
        ∧ d.perform op = (.ok answer, d.advanced op next) := by
  unfold perform
  cases hrun : op.run d.setting d.store with
  | error e => exact Or.inl ⟨e, rfl, rfl⟩
  | ok result => exact Or.inr ⟨result.1, result.2, Operation.run_eq_ok_iff.mp hrun, rfl⟩

/-- The error of an operation is that of its run. -/
theorem perform_fst_eq_error_iff {d : Directory} {op : Operation} {e : ServiceError} :
    (d.perform op).1 = .error e ↔ op.run d.setting d.store = .error e := by
  unfold perform
  cases op.run d.setting d.store <;> simp

end Directory

end Scim
