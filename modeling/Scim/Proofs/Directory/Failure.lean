import Scim.Proofs.Directory.Effect

/-!
# How operations fail

The counterpart of `Operation.Succeeds`.  An operation fails in one of five ways, tried in this
order: the request of a patch cannot be read, the document is missing, the precondition does not
permit the version of the document, new content lacks the required value, or another document claims
its unique value.  `Operation.Fails` lists them with what was checked before, and an operation runs
to an error exactly if it fails with it (`Operation.run_eq_error_iff`).

So the status of an error is 400, 404, 409 or 412 (`Operation.Fails.status_mem`), and 412 needs a
precondition (`Operation.Fails.status_ne_of_unconditional`).
-/

namespace Scim

/-! ## The ways to fail -/

/-- The error for new content without the required value. -/
def ResourceKind.incomplete (kind : ResourceKind) : ServiceError :=
  .protocol (.invalidValue (kind.uniqueAttribute ++ " is required"))

namespace Operation

/-- The operation looks for a document of a kind under a text.  A patch only does once its request
has been read. -/
inductive Seeks : Operation → ResourceKind → String → Prop
  | read {kind : ResourceKind} {text : String} : Seeks (.read kind text) kind text
  | replace {kind : ResourceKind} {text : String} {input : Json} {ifMatch : Option String} :
      Seeks (.replace kind text input ifMatch) kind text
  | patch {kind : ResourceKind} {text : String} {body : Json} {ifMatch : Option String}
      {request : PatchRequest} (reads : PatchRequest.ofBody body = .ok request) :
      Seeks (.patch kind text body ifMatch) kind text
  | delete {kind : ResourceKind} {text : String} : Seeks (.delete kind text) kind text

/-- The ways in which an operation fails, with its error. -/
inductive Fails (store : Store) : Operation → ServiceError → Prop
  | unreadable {kind : ResourceKind} {text : String} {body : Json} {ifMatch : Option String}
      {e : ProtocolError} (unreadable : PatchRequest.ofBody body = .error e) :
      Fails store (.patch kind text body ifMatch) (.protocol e)
  | missing {op : Operation} {kind : ResourceKind} {text : String} (seeks : op.Seeks kind text)
      (missing : store.findById kind.collection text = none) : Fails store op kind.notFound
  | refused {op : Operation} {kind : ResourceKind} {ifMatch : Option String} {old : Entry}
      (revises : op.Revises kind old.id ifMatch)
      (live : Store.lookup old.id (store.entries kind.collection) = some old)
      (refused : Etag.permits ifMatch (versionOf old.body) = false) :
      Fails store op ResourceKind.preconditionFailed
  | createIncomplete {kind : ResourceKind} {input : Json}
      (incomplete : kind.uniqueValue? (kind.sanitize input) = none) :
      Fails store (.create kind input) kind.incomplete
  | replaceIncomplete {kind : ResourceKind} {text : String} {input : Json}
      {ifMatch : Option String} {old : Entry}
      (found : store.findById kind.collection text = some old)
      (permitted : Etag.permits ifMatch (versionOf old.body) = true)
      (incomplete : kind.uniqueValue? (kind.sanitize input) = none) :
      Fails store (.replace kind text input ifMatch) kind.incomplete
  | createClaimed {kind : ResourceKind} {input : Json}
      (claimed : ¬ kind.Unclaimed (kind.sanitize input) (store.entries kind.collection)) :
      Fails store (.create kind input) kind.duplicate
  | rewriteClaimed {op : Operation} {kind : ResourceKind} {text : String}
      {ifMatch : Option String} {old : Entry} {content : Members}
      (found : store.findById kind.collection text = some old)
      (permitted : Etag.permits ifMatch (versionOf old.body) = true)
      (rewrites : op.Rewrites kind text ifMatch old.body content)
      (claimed : ¬ kind.Unclaimed content
        ((store.entries kind.collection).filter fun e => e.id != old.id)) :
      Fails store op kind.duplicate

end Operation

/-! ## The checks -/

/-- Two steps fail in the first or, behind it, in the second. -/
theorem bind_eq_error_iff_or {α β : Type} {x : Except ServiceError α}
    {f : α → Except ServiceError β} {e : ServiceError} :
    (x >>= f) = .error e ↔ x = .error e ∨ ∃ a, x = .ok a ∧ f a = .error e := by
  cases x <;> simp [ok_bind, error_bind]

namespace ResourceKind

variable {kind : ResourceKind} {setting : Setting} {store : Store} {e : ServiceError}

theorem load_eq_error_iff {text : String} :
    kind.load store text = .error e
      ↔ store.findById kind.collection text = none ∧ kind.notFound = e := by
  unfold load
  cases store.findById kind.collection text <;> simp

theorem permittedVersion_eq_error_iff {body : Members} {ifMatch : Option String} :
    permittedVersion body ifMatch = .error e
      ↔ Etag.permits ifMatch (versionOf body) = false ∧ preconditionFailed = e := by
  simp only [permittedVersion]
  split <;> simp [*]

theorem requiredValue_eq_error_iff {body : Members} :
    kind.requiredValue body = .error e
      ↔ kind.uniqueValue? body = none ∧ kind.incomplete = e := by
  unfold requiredValue incomplete
  cases kind.uniqueValue? body <;> simp

/-- Content that is claimed has a unique value. -/
theorem isSome_uniqueValue?_of_claimed {content : Members} {entries : List Entry}
    (h : ¬ kind.Unclaimed content entries) : (kind.uniqueValue? content).isSome := by
  cases hvalue : kind.uniqueValue? content with
  | none => exact absurd (unclaimed_of_uniqueValue?_eq_none hvalue entries) h
  | some value => rfl

/-- An update of a live document fails exactly if another document claims its unique value. -/
theorem update_eq_error_iff {old : Entry} {content : Members}
    (hlive : Store.lookup old.id (store.entries kind.collection) = some old) :
    kind.update setting store old (versionOf old.body) content
        ((kind.uniqueValue? content).map kind.guard) = .error e
      ↔ ¬ kind.Unclaimed content ((store.entries kind.collection).filter fun e => e.id != old.id)
        ∧ kind.duplicate = e := by
  constructor
  · intro h
    refine ⟨?_, (eq_duplicate_of_update_error hlive h).symm⟩
    intro hunclaimed
    -- otherwise the update would have gone through
    rw [(update_eq_ok_iff hlive).mpr ⟨hunclaimed, rfl, rfl⟩] at h
    cases h
  · rintro ⟨hclaimed, rfl⟩
    cases hupdate : kind.update setting store old (versionOf old.body) content
        ((kind.uniqueValue? content).map kind.guard) with
    | error e' => rw [eq_duplicate_of_update_error hlive hupdate]
    | ok result =>
      obtain ⟨resource, next⟩ := result
      obtain ⟨hunclaimed, -, -⟩ := (update_eq_ok_iff hlive).mp hupdate
      exact absurd hunclaimed hclaimed

/-! ## One lemma for each operation -/

theorem create_eq_error_iff {input : Json} :
    kind.create setting store input = .error e
      ↔ (kind.uniqueValue? (kind.sanitize input) = none ∧ kind.incomplete = e)
        ∨ (¬ kind.Unclaimed (kind.sanitize input) (store.entries kind.collection)
          ∧ kind.duplicate = e) := by
  simp only [create, bind_eq_error_iff_or, requiredValue_eq_error_iff, requiredValue_eq_ok_iff]
  cases hvalue : kind.uniqueValue? (kind.sanitize input) with
  | none => simp [unclaimed_of_uniqueValue?_eq_none hvalue]
  | some value =>
    simp only [Option.some.injEq, exists_eq_left', Store.insertUnless, unclaimed_iff hvalue]
    cases (store.entries kind.collection).any (Store.matching (kind.guard value) .ignoreCase) with
    | true => simp [throw, throwThe, MonadExceptOf.throw]
    | false => simp [pure, Except.pure]

theorem read_eq_error_iff {text : String} :
    kind.read setting store text = .error e
      ↔ store.findById kind.collection text = none ∧ kind.notFound = e := by
  simp only [read]
  rw [bind_eq_error_iff (by intro entry; exact ⟨_, rfl⟩), load_eq_error_iff]

/-- A replacement fails at one of its four checks. -/
theorem replace_eq_error_iff {text : String} {input : Json} {ifMatch : Option String} :
    kind.replace setting store text input ifMatch = .error e
      ↔ (store.findById kind.collection text = none ∧ kind.notFound = e)
        ∨ ∃ old, store.findById kind.collection text = some old
          ∧ ((Etag.permits ifMatch (versionOf old.body) = false ∧ preconditionFailed = e)
            ∨ Etag.permits ifMatch (versionOf old.body) = true
              ∧ ((kind.uniqueValue? (kind.sanitize input) = none ∧ kind.incomplete = e)
                ∨ ¬ kind.Unclaimed (kind.sanitize input)
                    ((store.entries kind.collection).filter fun e => e.id != old.id)
                  ∧ kind.duplicate = e)) := by
  simp only [replace, bind_eq_error_iff_or, load_eq_error_iff, load_eq_ok_iff,
    permittedVersion_eq_error_iff, permittedVersion_eq_ok_iff, requiredValue_eq_error_iff,
    requiredValue_eq_ok_iff]
  refine or_congr_right (exists_congr fun old => and_congr_right fun hfound => ?_)
  refine or_congr_right ?_
  have hlive := Store.lookup_of_findById hfound
  -- the required value is the one that guards the update
  have hupdate (value : Json) (hvalue : kind.uniqueValue? (kind.sanitize input) = some value) :
      kind.update setting store old (versionOf old.body) (kind.sanitize input)
          (some (kind.guard value)) = .error e
        ↔ ¬ kind.Unclaimed (kind.sanitize input)
            ((store.entries kind.collection).filter fun e => e.id != old.id)
          ∧ kind.duplicate = e := by
    rw [← update_eq_error_iff hlive, hvalue, Option.map_some]
  constructor
  · rintro ⟨_, ⟨hpermitted, rfl⟩, hincomplete | ⟨value, hvalue, hfailed⟩⟩
    · exact ⟨hpermitted, Or.inl hincomplete⟩
    · exact ⟨hpermitted, Or.inr ((hupdate value hvalue).mp hfailed)⟩
  · rintro ⟨hpermitted, hincomplete | hclaimed⟩
    · exact ⟨_, ⟨hpermitted, rfl⟩, Or.inl hincomplete⟩
    · obtain ⟨value, hvalue⟩ := Option.isSome_iff_exists.mp
        (isSome_uniqueValue?_of_claimed hclaimed.1)
      exact ⟨_, ⟨hpermitted, rfl⟩, Or.inr ⟨value, hvalue, (hupdate value hvalue).mpr hclaimed⟩⟩

/-- A patch fails when its request cannot be read, or at one of the three checks behind that. -/
theorem patch_eq_error_iff {text : String} {body : Json} {ifMatch : Option String} :
    kind.patch setting store text body ifMatch = .error e
      ↔ (∃ cause, PatchRequest.ofBody body = .error cause ∧ .protocol cause = e)
        ∨ ∃ request, PatchRequest.ofBody body = .ok request
          ∧ ((store.findById kind.collection text = none ∧ kind.notFound = e)
            ∨ ∃ old, store.findById kind.collection text = some old
              ∧ ((Etag.permits ifMatch (versionOf old.body) = false ∧ preconditionFailed = e)
                ∨ Etag.permits ifMatch (versionOf old.body) = true
                  ∧ ¬ kind.Unclaimed (kind.patched request.operations old.body)
                      ((store.entries kind.collection).filter fun e => e.id != old.id)
                  ∧ kind.duplicate = e)) := by
  simp only [patch, bind_eq_error_iff_or, load_eq_error_iff, load_eq_ok_iff,
    permittedVersion_eq_error_iff, permittedVersion_eq_ok_iff]
  refine or_congr ?_ (exists_congr fun request => and_congr ?_ ?_)
  · cases PatchRequest.ofBody body <;> simp [Except.mapError]
  · cases PatchRequest.ofBody body <;> simp [Except.mapError]
  · refine or_congr_right (exists_congr fun old => and_congr_right fun hfound => ?_)
    refine or_congr_right ?_
    have hlive := Store.lookup_of_findById hfound
    constructor
    · rintro ⟨_, ⟨hpermitted, rfl⟩, hupdate⟩
      exact ⟨hpermitted, (update_eq_error_iff hlive).mp hupdate⟩
    · rintro ⟨hpermitted, hclaimed⟩
      exact ⟨_, ⟨hpermitted, rfl⟩, (update_eq_error_iff hlive).mpr hclaimed⟩

/-- A document is not removed exactly if it is missing. -/
theorem delete_eq_error_iff {text : String} :
    kind.delete store text = .error e
      ↔ store.findById kind.collection text = none ∧ kind.notFound = e := by
  cases hfound : store.findById kind.collection text with
  | none =>
    have hnot : ∀ next, kind.delete store text ≠ .ok next := by
      intro next hok
      obtain ⟨entry, hentry, -⟩ := delete_eq_ok_iff.mp hok
      rw [hfound] at hentry
      cases hentry
    unfold delete at hnot ⊢
    cases hdelete : store.delete kind.collection text with
    | none => simp
    | some next => exact absurd (by rw [hdelete]) (hnot next)
  | some entry => simp [delete_eq_ok_iff.mpr ⟨entry, hfound, rfl⟩]

end ResourceKind

/-! ## The failure -/

namespace Operation

variable {setting : Setting} {store : Store} {op : Operation} {e : ServiceError}
  {kind : ResourceKind} {text : String} {body : Json} {ifMatch : Option String}

/-! A run fails exactly if the operation on the kind does; putting the answer together cannot. -/

theorem run_create_eq_error_iff :
    (create kind body).run setting store = .error e
      ↔ kind.create setting store body = .error e :=
  bind_eq_error_iff fun _ => ⟨_, rfl⟩

theorem run_read_eq_error_iff :
    (read kind text).run setting store = .error e ↔ kind.read setting store text = .error e :=
  bind_eq_error_iff fun _ => ⟨_, rfl⟩

theorem run_replace_eq_error_iff :
    (replace kind text body ifMatch).run setting store = .error e
      ↔ kind.replace setting store text body ifMatch = .error e :=
  bind_eq_error_iff fun _ => ⟨_, rfl⟩

theorem run_patch_eq_error_iff :
    (patch kind text body ifMatch).run setting store = .error e
      ↔ kind.patch setting store text body ifMatch = .error e :=
  bind_eq_error_iff fun _ => ⟨_, rfl⟩

theorem run_delete_eq_error_iff :
    (delete kind text).run setting store = .error e ↔ kind.delete store text = .error e :=
  bind_eq_error_iff fun _ => ⟨_, rfl⟩

/-- A failed run is one of the ways to fail. -/
theorem Fails.of_run (h : op.run setting store = .error e) : op.Fails store e := by
  cases op with
  | create kind input =>
    rw [run_create_eq_error_iff, ResourceKind.create_eq_error_iff] at h
    rcases h with ⟨hincomplete, rfl⟩ | ⟨hclaimed, rfl⟩
    · exact .createIncomplete hincomplete
    · exact .createClaimed hclaimed
  | read kind text =>
    rw [run_read_eq_error_iff, ResourceKind.read_eq_error_iff] at h
    obtain ⟨hmissing, rfl⟩ := h
    exact .missing .read hmissing
  | replace kind text input ifMatch =>
    rw [run_replace_eq_error_iff, ResourceKind.replace_eq_error_iff] at h
    rcases h with ⟨hmissing, rfl⟩ | ⟨old, hfound, h⟩
    · exact .missing .replace hmissing
    · rcases h with ⟨hrefused, rfl⟩ | ⟨hpermitted, ⟨hincomplete, rfl⟩ | ⟨hclaimed, rfl⟩⟩
      · exact .refused ⟨rfl, (Store.mem_of_findById hfound).2, rfl⟩
          (Store.lookup_of_findById hfound) hrefused
      · exact .replaceIncomplete hfound hpermitted hincomplete
      · have hrequired := ResourceKind.isSome_uniqueValue?_of_claimed hclaimed
        exact .rewriteClaimed hfound hpermitted (.replace hrequired) hclaimed
  | patch kind text body ifMatch =>
    rw [run_patch_eq_error_iff, ResourceKind.patch_eq_error_iff] at h
    rcases h with ⟨cause, hunreadable, rfl⟩ | ⟨request, hreads, h⟩
    · exact .unreadable hunreadable
    · rcases h with ⟨hmissing, rfl⟩ | ⟨old, hfound, ⟨hrefused, rfl⟩ | ⟨hpermitted, hclaimed, rfl⟩⟩
      · exact .missing (.patch hreads) hmissing
      · exact .refused ⟨rfl, (Store.mem_of_findById hfound).2, rfl, request, hreads⟩
          (Store.lookup_of_findById hfound) hrefused
      · exact .rewriteClaimed hfound hpermitted (.patch hreads) hclaimed
  | delete kind text =>
    rw [run_delete_eq_error_iff, ResourceKind.delete_eq_error_iff] at h
    obtain ⟨hmissing, rfl⟩ := h
    exact .missing .delete hmissing

/-- Each way to fail is a failed run. -/
theorem Fails.run_eq (h : op.Fails store e) : op.run setting store = .error e := by
  cases h with
  | unreadable hunreadable =>
    rw [run_patch_eq_error_iff, ResourceKind.patch_eq_error_iff]
    exact Or.inl ⟨_, hunreadable, rfl⟩
  | missing seeks hmissing =>
    cases seeks with
    | read =>
      rw [run_read_eq_error_iff, ResourceKind.read_eq_error_iff]
      exact ⟨hmissing, rfl⟩
    | replace =>
      rw [run_replace_eq_error_iff, ResourceKind.replace_eq_error_iff]
      exact Or.inl ⟨hmissing, rfl⟩
    | patch hreads =>
      rw [run_patch_eq_error_iff, ResourceKind.patch_eq_error_iff]
      exact Or.inr ⟨_, hreads, Or.inl ⟨hmissing, rfl⟩⟩
    | delete =>
      rw [run_delete_eq_error_iff, ResourceKind.delete_eq_error_iff]
      exact ⟨hmissing, rfl⟩
  | refused revises live hrefused => exact (run_eq_preconditionFailed_iff revises live).mpr hrefused
  | createIncomplete hincomplete =>
    rw [run_create_eq_error_iff, ResourceKind.create_eq_error_iff]
    exact Or.inl ⟨hincomplete, rfl⟩
  | replaceIncomplete found permitted hincomplete =>
    rw [run_replace_eq_error_iff, ResourceKind.replace_eq_error_iff]
    exact Or.inr ⟨_, found, Or.inr ⟨permitted, Or.inl ⟨hincomplete, rfl⟩⟩⟩
  | createClaimed hclaimed =>
    rw [run_create_eq_error_iff, ResourceKind.create_eq_error_iff]
    exact Or.inr ⟨hclaimed, rfl⟩
  | rewriteClaimed found permitted rewrites hclaimed =>
    cases rewrites with
    | replace required =>
      rw [run_replace_eq_error_iff, ResourceKind.replace_eq_error_iff]
      exact Or.inr ⟨_, found, Or.inr ⟨permitted, Or.inr ⟨hclaimed, rfl⟩⟩⟩
    | patch reads =>
      rw [run_patch_eq_error_iff, ResourceKind.patch_eq_error_iff]
      exact Or.inr ⟨_, reads, Or.inr ⟨_, found, Or.inr ⟨permitted, hclaimed, rfl⟩⟩⟩

/-- An operation runs to an error exactly if it fails with it. -/
theorem run_eq_error_iff : op.run setting store = .error e ↔ op.Fails store e :=
  ⟨Fails.of_run, Fails.run_eq⟩

end Operation

/-! ## Statuses -/

namespace PatchRequest

/-- A patch request that cannot be read is a matter of its syntax. -/
theorem exists_invalidSyntax_of_operationsOf_error {items : List Json} {e : ProtocolError}
    (h : operationsOf items = .error e) : ∃ text, e = .invalidSyntax text := by
  induction items with
  | nil => cases h
  | cons item items ih =>
    simp only [operationsOf, List.mapM_cons] at h
    cases hitem : PatchOperation.decode item with
    | error cause =>
      simp only [hitem] at h
      cases h
      exact ⟨_, rfl⟩
    | ok op =>
      -- the first operation is well-formed, so the error is that of a later one
      cases hitems : operationsOf items with
      | error cause =>
        have hcause : cause = e := by
          simp only [operationsOf] at hitems
          simp only [hitem, hitems] at h
          cases h
          rfl
        exact ih (hcause ▸ hitems)
      | ok ops =>
        simp only [operationsOf] at hitems
        simp only [hitem, hitems] at h
        cases h

theorem exists_invalidSyntax_of_ofBody_error {body : Json} {e : ProtocolError}
    (h : ofBody body = .error e) : ∃ text, e = .invalidSyntax text := by
  unfold ofBody at h
  cases hitems : (body.get? "Operations").bind Json.items? with
  | none =>
    simp only [hitems] at h
    cases h
    exact ⟨_, rfl⟩
  | some items =>
    simp only [hitems] at h
    cases hoperations : operationsOf items with
    | error cause =>
      rw [hoperations] at h
      cases h
      exact exists_invalidSyntax_of_operationsOf_error hoperations
    | ok ops =>
      rw [hoperations] at h
      cases h

end PatchRequest

namespace Operation

/-- The precondition of an operation. -/
def precondition? : Operation → Option String
  | replace _ _ _ ifMatch => ifMatch
  | patch _ _ _ ifMatch => ifMatch
  | _ => none

variable {store : Store} {op : Operation} {e : ServiceError}

theorem Revises.precondition?_eq {kind : ResourceKind} {id : Uuid} {ifMatch : Option String}
    (h : op.Revises kind id ifMatch) : op.precondition? = ifMatch := by
  cases op with
  | replace => exact h.2.2
  | patch => exact h.2.2.1
  | create | read | delete => exact h.elim

/-- The status of an error is one of four. -/
theorem Fails.status_mem (h : op.Fails store e) : e.status ∈ [400, 404, 409, 412] := by
  cases h with
  | unreadable hunreadable =>
    obtain ⟨text, rfl⟩ := PatchRequest.exists_invalidSyntax_of_ofBody_error hunreadable
    show 400 ∈ [400, 404, 409, 412]
    decide
  | missing =>
    show 404 ∈ [400, 404, 409, 412]
    decide
  | refused =>
    show 412 ∈ [400, 404, 409, 412]
    decide
  | createIncomplete | replaceIncomplete =>
    show 400 ∈ [400, 404, 409, 412]
    decide
  | createClaimed | rewriteClaimed =>
    show 409 ∈ [400, 404, 409, 412]
    decide

/-- Without a precondition none can fail. -/
theorem Fails.status_ne_of_unconditional (h : op.Fails store e) (hop : op.precondition? = none) :
    e.status ≠ 412 := by
  cases h with
  | unreadable hunreadable =>
    obtain ⟨text, rfl⟩ := PatchRequest.exists_invalidSyntax_of_ofBody_error hunreadable
    show 400 ≠ 412
    decide
  | missing =>
    show 404 ≠ 412
    decide
  | refused revises live hrefused =>
    -- an absent precondition permits every version
    rw [revises.precondition?_eq] at hop
    rw [hop] at hrefused
    cases hrefused
  | createIncomplete | replaceIncomplete =>
    show 400 ≠ 412
    decide
  | createClaimed | rewriteClaimed =>
    show 409 ≠ 412
    decide

end Operation

end Scim
