import Scim.Proofs.Directory.Frame
import Scim.Proofs.Directory.Unique

/-!
# Updates that keep the unique value

The guard of an update looks at the unique value of every other document, and where that is an array
it also looks at the elements.  No other document has an equal unique value (`Directory.Unique`).  So
an update that leaves its own unique value as it was is a duplicate exactly if another document has
an array there with an element equal to the value (`Directory.keeping_conflicts_iff`).

The converse look is not taken: the guard of an array is compared with other values as a whole.
That is how such an array can come in beside the value that it lists
(`Directory.keeping_conflicts_with_list`).
-/

namespace Scim

/-! ## Equal values count alike -/

namespace Text

theorem lowerChar_ne_nil (c : Char) : lowerChar c ≠ [] := by
  unfold lowerChar
  split
  · simp
  · split <;> simp

/-- Only the empty text has an empty lowercase. -/
theorem lowercase_eq_empty_iff {s : String} : lowercase s = "" ↔ s = "" := by
  rw [lowercase, ← String.toList_inj, ← String.toList_inj, String.toList_ofList]
  cases hs : s.toList with
  | nil => rfl
  | cons c rest =>
    have hfirst := lowerChar_ne_nil c
    simp only [lowerFrom, String.toList_empty, List.append_eq_nil_iff, reduceCtorEq, iff_false,
      not_and]
    intro hnil
    split at hnil
    · split at hnil <;> cases hnil
    · exact absurd hnil hfirst

end Text

/-- Of two equal values both count as values or neither does. -/
theorem Json.isTruthy_eq_of_same {v w : Json} (h : Collation.ignoreCase.same v w = true) :
    v.isTruthy = w.isTruthy := by
  cases v with
  | num a =>
    cases w <;> simp only [Collation.same, Json.same, Bool.false_eq_true] at h
    rw [isTruthy, isTruthy, Number.isZero_eq_of_sameValue h]
  | str a =>
    cases w <;> simp only [Collation.same, Json.same, Bool.false_eq_true] at h
    next b =>
    have hlower : Text.lowercase a = Text.lowercase b := beq_iff_eq.mp h
    have hempty : a.isEmpty = b.isEmpty := by
      rw [Bool.eq_iff_iff, String.isEmpty_iff, String.isEmpty_iff, ← Text.lowercase_eq_empty_iff,
        hlower, Text.lowercase_eq_empty_iff]
    rw [isTruthy, isTruthy, hempty]
  | bool a =>
    cases w <;> simp only [Collation.same, Json.same, Bool.false_eq_true] at h
    rw [beq_iff_eq.mp h]
  | null | arr | obj =>
    cases w <;> simp only [Collation.same, Json.same, Bool.false_eq_true] at h
    rfl

namespace ResourceKind

variable {kind : ResourceKind} {old content : Members} {value : Json}

/-! ## What the guard looks at -/

/-- The unique attribute of a document is an array, and some element of it equals the value. -/
def Lists (kind : ResourceKind) (body : Members) (value : Json) : Prop :=
  ∃ items, Members.find? kind.uniqueAttribute body = some (.arr items)
    ∧ ∃ item ∈ items, Collation.ignoreCase.same item value = true

/-- The guard matches the documents that hold an equal value and those that list one. -/
theorem matching_guard_iff {e : Entry} :
    Store.matching (kind.guard value) .ignoreCase e = true
      ↔ (∃ held, Members.find? kind.uniqueAttribute e.body = some held
          ∧ Collation.ignoreCase.same held value = true)
        ∨ kind.Lists e.body value := by
  simp only [Store.matching, guard, Predicate.holds, List.any_eq_true, Json.candidates,
    Json.resolve, dottedNames_uniqueAttribute, Json.follow, Json.step, Lists]
  cases hfind : Members.find? kind.uniqueAttribute e.body with
  | none => simp
  | some held =>
    cases held with
    | arr items => simp [Json.withElements]
    | null | bool | num | str | obj => simp [Json.withElements]

/-! ## Keeping the value -/

/-- New content keeps the unique attribute: what it has there equals what the old document has. -/
def Keeps (kind : ResourceKind) (old content : Members) : Prop :=
  ∀ value, Members.find? kind.uniqueAttribute content = some value →
    ∃ held, Members.find? kind.uniqueAttribute old = some held
      ∧ Collation.ignoreCase.same held value = true

/-- A document with a value equal to the kept one clashes with the old document. -/
theorem Keeps.clash_of_same (h : kind.Keeps old content)
    (hvalue : kind.uniqueValue? content = some value) {other : Members} {held : Json}
    (hother : Members.find? kind.uniqueAttribute other = some held)
    (hsame : Collation.ignoreCase.same held value = true) : kind.Clash old other := by
  obtain ⟨hfind, htruthy⟩ := Option.filter_eq_some_iff.mp hvalue
  obtain ⟨own, hown, hkept⟩ := h value hfind
  refine ⟨own, held, ?_, ?_, ?_⟩
  · rw [uniqueValue?, hown, Option.filter_some, Json.isTruthy_eq_of_same hkept, if_pos htruthy]
  · rw [uniqueValue?, hother, Option.filter_some, Json.isTruthy_eq_of_same hsame, if_pos htruthy]
  · rw [Collation.same_comm] at hsame
    exact Collation.same_trans hkept hsame

/-- Where nobody clashes with the old document, the kept value is claimed by those who list it. -/
theorem Keeps.unclaimed_iff (h : kind.Keeps old content)
    (hvalue : kind.uniqueValue? content = some value) {others : List Entry}
    (hunique : ∀ e ∈ others, ¬ kind.Clash old e.body) :
    kind.Unclaimed content others ↔ ∀ e ∈ others, ¬ kind.Lists e.body value := by
  have hmatching (e : Entry) (he : e ∈ others) :
      Store.matching (kind.guard value) .ignoreCase e = true ↔ kind.Lists e.body value := by
    rw [matching_guard_iff]
    refine or_iff_right ?_
    rintro ⟨held, hheld, hsame⟩
    exact hunique e he (h.clash_of_same hvalue hheld hsame)
  simp only [Unclaimed, hvalue, Option.some.injEq, forall_eq']
  refine forall₂_congr fun e he => ?_
  rw [← hmatching e he, Bool.not_eq_true]

end ResourceKind

/-! ## Updates -/

namespace Operation

variable {op : Operation} {store : Store} {kind : ResourceKind} {old : Entry}

/-- The operation gets as far as the guard: it writes content with a unique value over a document,
under a precondition that permits the version of the document. -/
def Offers (op : Operation) (kind : ResourceKind) (old : Members) (value : Json) : Prop :=
  ∃ text ifMatch content, op.Rewrites kind text ifMatch old content
    ∧ Etag.permits ifMatch (versionOf old) = true ∧ kind.uniqueValue? content = some value

theorem Rewrites.ofText?_eq {text : String} {ifMatch : Option String} {body content : Members}
    {id : Uuid} (h : op.Rewrites kind text ifMatch body content)
    (hrevised : op.revised? = some (kind, id)) : Uuid.ofText? text = some id := by
  cases h <;> simpa [revised?, Option.map_eq_some_iff] using hrevised

/-- An update of a live document is a duplicate exactly if its content is claimed by another one. -/
theorem fails_as_duplicate_iff (hdistinct : ((store.entries kind.collection).map Entry.id).Nodup)
    (hold : old ∈ store.entries kind.collection) (hrevised : op.revised? = some (kind, old.id)) :
    (∃ e, op.Fails store e ∧ e.status = 409)
      ↔ ∃ text ifMatch content, op.Rewrites kind text ifMatch old.body content
        ∧ Etag.permits ifMatch (versionOf old.body) = true
        ∧ ¬ kind.Unclaimed content
            ((store.entries kind.collection).filter fun e => e.id != old.id) := by
  have hlive : Store.lookup old.id (store.entries kind.collection) = some old :=
    (Store.lookup_eq_some_iff hdistinct).mpr ⟨hold, rfl⟩
  constructor
  · rintro ⟨e, hfails, hstatus⟩
    cases hfails with
    | unreadable hunreadable =>
      obtain ⟨text, rfl⟩ := PatchRequest.exists_invalidSyntax_of_ofBody_error hunreadable
      cases hstatus
    | missing | refused | createIncomplete | replaceIncomplete => cases hstatus
    | createClaimed => cases hrevised
    | @rewriteClaimed _ kind' text ifMatch found content hfound hpermitted hrewrites hclaimed =>
      -- the document that was found is the one that the operation addresses
      obtain ⟨-, htext⟩ := Store.mem_of_findById hfound
      have haddressed := hrewrites.revised?_eq htext
      rw [hrevised] at haddressed
      obtain ⟨rfl, hid⟩ := Prod.mk.inj (Option.some.inj haddressed)
      have hfoundLive := Store.lookup_of_findById hfound
      rw [← hid, hlive] at hfoundLive
      obtain rfl := Option.some.inj hfoundLive
      exact ⟨text, ifMatch, content, hrewrites, hpermitted, hclaimed⟩
  · rintro ⟨text, ifMatch, content, hrewrites, hpermitted, hclaimed⟩
    have hfound : store.findById kind.collection text = some old := by
      rw [Store.findById_of_ofText? (hrewrites.ofText?_eq hrevised), hlive]
    exact ⟨kind.duplicate, .rewriteClaimed hfound hpermitted hrewrites hclaimed, rfl⟩

end Operation

namespace Directory

/-- Keeping the unique value.  Say a replacement or a patch addresses a document that is there at the
end of a run, and leaves its unique attribute equal to what it was.  It is a duplicate if and only if
it gets as far as the guard and another document of the kind has an array as its unique attribute,
with an element that equals the value.  So while no unique attribute is an array, such an update is
never a duplicate. -/
theorem keeping_conflicts_iff {config : ServiceConfig} {database : String} {ids : Nat → Uuid}
    {clock : Nat → Timestamp} {requests : List Request} {events : List Event} {d : Directory}
    (hrun : (opened config database ids clock).serveAll requests = (events, d))
    (hapart : d.IssuedApart) {kind : ResourceKind} {old : Entry}
    (hold : old ∈ d.store.entries kind.collection) {op : Operation}
    (hrevised : op.revised? = some (kind, old.id))
    (hkeeps : ∀ text ifMatch content, op.Rewrites kind text ifMatch old.body content →
      kind.Keeps old.body content) :
    (∃ e, (d.perform op).1 = .error e ∧ e.status = 409)
      ↔ ∃ value, op.Offers kind old.body value
        ∧ ∃ other ∈ d.store.entries kind.collection, other.id ≠ old.id
          ∧ kind.Lists other.body value := by
  have hkeyed := keyed_opened config database ids clock
  have hunique := (history_of_serveAll hrun).unique hkeyed (unique_opened config database ids clock)
    hapart
  have hothers : ∀ e ∈ (d.store.entries kind.collection).filter (fun e => e.id != old.id),
      ¬ kind.Clash old.body e.body := by
    intro e he
    obtain ⟨hmem, hne⟩ := List.mem_filter.mp he
    exact hunique kind old hold e hmem (bne_iff_ne.mp hne).symm
  simp only [perform_fst_eq_error_iff, Operation.run_eq_error_iff]
  rw [Operation.fails_as_duplicate_iff ((keyed_of_serveAll hrun hapart).distinct kind) hold hrevised]
  constructor
  · rintro ⟨text, ifMatch, content, hrewrites, hpermitted, hclaimed⟩
    obtain ⟨value, hvalue⟩ := Option.isSome_iff_exists.mp
      (ResourceKind.isSome_uniqueValue?_of_claimed hclaimed)
    rw [(hkeeps _ _ _ hrewrites).unclaimed_iff hvalue hothers] at hclaimed
    push Not at hclaimed
    obtain ⟨other, hother, hlists⟩ := hclaimed
    obtain ⟨hmem, hne⟩ := List.mem_filter.mp hother
    exact ⟨value, ⟨text, ifMatch, content, hrewrites, hpermitted, hvalue⟩, other, hmem,
      bne_iff_ne.mp hne, hlists⟩
  · rintro ⟨value, ⟨text, ifMatch, content, hrewrites, hpermitted, hvalue⟩, other, hmem, hne,
      hlists⟩
    refine ⟨text, ifMatch, content, hrewrites, hpermitted, ?_⟩
    rw [(hkeeps _ _ _ hrewrites).unclaimed_iff hvalue hothers]
    intro hnone
    exact hnone other (List.mem_filter.mpr ⟨hmem, bne_iff_ne.mpr hne⟩) hlists

/-- A client creates a user, and then one whose name is a list with the name of the first. -/
def requestsOfListedName : List Request :=
  [.operation (.create .user (.obj [("userName", .str "ada")])),
    .operation (.create .user (.obj [("userName", .arr [.str "ada"])]))]

/-- Both users are there, the second with its list. -/
theorem entries_of_listedName :
    ∃ a b, (plain.serveAll requestsOfListedName).2.store.entries ResourceKind.user.collection
        = [a, b]
      ∧ a.id = .ofFn (fun _ => 0) ∧ b.id = .ofFn (fun _ => 1)
      ∧ Members.find? "userName" a.body = some (.str "ada")
      ∧ Members.find? "userName" b.body = some (.arr [.str "ada"]) :=
  ⟨_, _, rfl, rfl, rfl, rfl, rfl⟩

/-- Replaces the first user, whose name stays the same up to case. -/
def replacingFirst : Operation :=
  .replace .user "00000000-0000-0000-0000-000000000000"
    (.obj [("title", .str "Countess"), ("userName", .str "Ada")]) none

/-- The replacement is a duplicate, since the second user lists the name. -/
theorem keeping_conflicts_iff_of_listedName :
    ∃ e, ((plain.serveAll requestsOfListedName).2.perform replacingFirst).1 = .error e
      ∧ e.status = 409 := by
  have hrun : plain.serveAll requestsOfListedName = ((plain.serveAll requestsOfListedName).1,
      (plain.serveAll requestsOfListedName).2) := (Prod.eta _).symm
  have hapart : (plain.serveAll requestsOfListedName).2.IssuedApart := by
    intro i j hij hj
    have htwo : (plain.serveAll requestsOfListedName).2.issued = 2 := rfl
    obtain ⟨rfl, rfl⟩ : i = 0 ∧ j = 1 := by omega
    rw [(history_serveAll plain requestsOfListedName).ids_eq]
    decide
  obtain ⟨a, b, hentries, ha, hb, hname, hlist⟩ := entries_of_listedName
  generalize (plain.serveAll requestsOfListedName).2 = d at hrun hapart hentries ⊢
  have hsame : Collation.ignoreCase.same (.str "ada") (.str "Ada") = true := by decide
  have hcontent : Members.find? "userName" (ResourceKind.user.sanitize (.obj
      [("title", .str "Countess"), ("userName", .str "Ada")])) = some (.str "Ada") := rfl
  have hmem : a ∈ d.store.entries ResourceKind.user.collection := by simp [hentries]
  refine (keeping_conflicts_iff hrun hapart hmem ?_ ?_).mpr
    ⟨.str "Ada", ⟨_, _, _, .replace rfl, rfl, rfl⟩, b, by simp [hentries], ?_, ?_⟩
  · rw [ha]
    rfl
  · rintro text ifMatch content ⟨⟩
    intro value hvalue
    refine ⟨.str "ada", hname, ?_⟩
    rw [← Option.some.inj (hcontent.symm.trans hvalue)]
    exact hsame
  · rw [ha, hb]
    decide
  · exact ⟨_, hlist, _, List.mem_singleton_self _, hsame⟩

/-- Gives the first user a title, and leaves all else as it is. -/
def titlingFirst : Operation :=
  .patch .user "00000000-0000-0000-0000-000000000000"
    (.obj [("Operations", .arr [.obj [("op", .str "replace"), ("path", .str "title"),
      ("value", .str "Countess")]])]) none

/-- An update that keeps the unique value may be a duplicate.  The patch of the title addresses the
first user and leaves its name alone, but the second user has come to list the name. -/
theorem keeping_conflicts_with_list :
    ∃ old ∈ (plain.serveAll requestsOfListedName).2.store.entries ResourceKind.user.collection,
      titlingFirst.revised? = some (.user, old.id)
        ∧ Members.find? "userName" old.body = some (.str "ada")
        ∧ (∀ text ifMatch content, titlingFirst.Rewrites .user text ifMatch old.body content →
          Members.find? "userName" content = some (.str "ada"))
        ∧ ∃ e, ((plain.serveAll requestsOfListedName).2.perform titlingFirst).1 = .error e
          ∧ e.status = 409 := by
  refine ⟨_, List.mem_cons_self, rfl, rfl, ?_, _, rfl, rfl⟩
  rintro text ifMatch content ⟨⟩
  next reads =>
  cases reads
  rfl

end Directory

end Scim
