import Scim.Proofs.Directory.Failure
import Scim.Proofs.Directory.Run

/-!
# What operations leave alone

An operation that fails leaves all entries as they are, and so does a bulk request that is refused
as a whole.  An operation that succeeds is about one identifier: the one that it draws, or the one
that it addresses.  The entries under other identifiers keep their documents and their order, and
the collection of the other kind stays (`Directory.changes_confined`).

This holds in every state.  In a state that a run leads to identifiers are apart
(`Directory.Keyed`), so there it is a single entry that may change.
-/

namespace Scim

/-! ## Entries under other identifiers -/

namespace Store

/-- The entries under identifiers other than `id` are the same, with the same documents and in the
same order. -/
def AgreeApartFrom (id : Uuid) (before after : List Entry) : Prop :=
  (after.filter fun e => e.id != id) = before.filter fun e => e.id != id

variable {id : Uuid} {body : Members} {entries : List Entry}

theorem AgreeApartFrom.refl (id : Uuid) (entries : List Entry) : AgreeApartFrom id entries entries :=
  rfl

theorem agreeApartFrom_append (id : Uuid) (body : Members) (entries : List Entry) :
    AgreeApartFrom id entries (entries ++ [⟨id, body⟩]) := by
  unfold AgreeApartFrom
  rw [List.filter_append, List.filter_cons_of_neg (by simp), List.filter_nil, List.append_nil]

theorem agreeApartFrom_overwrite (id : Uuid) (body : Members) (entries : List Entry) :
    AgreeApartFrom id entries (overwrite id body entries) := by
  unfold AgreeApartFrom
  induction entries with
  | nil => rfl
  | cons head rest ih =>
    by_cases hhead : head.id = id
    · -- the head is written over, and neither the old nor the new one counts
      have hnew : overwrite id body (head :: rest) = { head with body } :: rest := if_pos hhead
      rw [hnew, List.filter_cons_of_neg (by simp [hhead]), List.filter_cons_of_neg (by simp [hhead])]
    · have hkept : overwrite id body (head :: rest) = head :: overwrite id body rest :=
        if_neg hhead
      rw [hkept, List.filter_cons_of_pos (by simp [hhead]), List.filter_cons_of_pos
        (by simp [hhead]), ih]

theorem agreeApartFrom_remove (id : Uuid) (entries : List Entry) :
    AgreeApartFrom id entries (entries.filter fun e => e.id != id) := by
  unfold AgreeApartFrom
  rw [List.filter_filter]
  simp only [Bool.and_self]

end Store

/-! ## Successes -/

namespace Operation

/-- The identifier that an operation is about. -/
def target? (setting : Setting) : Operation → Option Uuid
  | create _ _ => some setting.fresh
  | read _ text => Uuid.ofText? text
  | replace _ text _ _ => Uuid.ofText? text
  | patch _ text _ _ => Uuid.ofText? text
  | delete _ text => Uuid.ofText? text

theorem Rewrites.target?_eq {op : Operation} {kind : ResourceKind} {text : String}
    {ifMatch : Option String} {old content : Members}
    (h : op.Rewrites kind text ifMatch old content) (setting : Setting) :
    op.target? setting = Uuid.ofText? text := by
  cases h <;> rfl

variable {setting : Setting} {store next : Store} {op : Operation} {answer : Option Resource}

/-- A success changes the collection of its kind under one identifier. -/
theorem Succeeds.agreeApartFrom (h : op.Succeeds setting store answer next) :
    ∃ id, op.target? setting = some id ∧
      Store.AgreeApartFrom id (store.entries op.kind.collection)
        (next.entries op.kind.collection) := by
  cases h with
  | @created kind input required unclaimed =>
    refine ⟨setting.fresh, rfl, ?_⟩
    show Store.AgreeApartFrom _ (store.entries kind.collection) _
    rw [Operation.kind, Store.insert, Store.entries_change_self]
    exact Store.agreeApartFrom_append _ _ _
  | read found =>
    obtain ⟨-, htext⟩ := Store.mem_of_findById found
    exact ⟨_, htext, Store.AgreeApartFrom.refl _ _⟩
  | rewritten found permitted rewrites unclaimed =>
    obtain ⟨-, htext⟩ := Store.mem_of_findById found
    refine ⟨_, (rewrites.target?_eq setting).trans htext, ?_⟩
    rw [rewrites.kind_eq, Store.entries_change_self]
    exact Store.agreeApartFrom_overwrite _ _ _
  | @deleted kind text entry found =>
    obtain ⟨-, htext⟩ := Store.mem_of_findById found
    refine ⟨_, htext, ?_⟩
    show Store.AgreeApartFrom _ (store.entries kind.collection) _
    rw [Operation.kind, Store.entries_change_self]
    exact Store.agreeApartFrom_remove _ _

/-- A creation appends an entry, and keeps all others, whatever identifiers they have. -/
theorem Succeeds.entries_of_creates (h : op.Succeeds setting store answer next)
    (hcreates : op.creates = true) :
    ∃ body, next.entries op.kind.collection
      = store.entries op.kind.collection ++ [⟨setting.fresh, body⟩] := by
  cases h with
  | @created kind input required unclaimed =>
    exact ⟨_, Store.entries_change_self _ _ _⟩
  | read found => cases hcreates
  | rewritten found permitted rewrites unclaimed =>
    cases rewrites with
    | replace required => cases hcreates
    | patch reads => cases hcreates
  | deleted found => cases hcreates

/-- A success leaves the collection of the other kind alone. -/
theorem Succeeds.entries_of_ne (h : op.Succeeds setting store answer next) {kind : ResourceKind}
    (hne : kind ≠ op.kind) : next.entries kind.collection = store.entries kind.collection := by
  cases h with
  | created =>
    rw [Store.insert, ResourceKind.entries_change]
    exact if_neg hne
  | read => rfl
  | rewritten found permitted rewrites unclaimed =>
    rw [rewrites.kind_eq] at hne
    rw [ResourceKind.entries_change]
    exact if_neg hne
  | deleted =>
    rw [ResourceKind.entries_change]
    exact if_neg hne

end Operation

/-! ## The directory -/

namespace Directory

variable {d : Directory} {op : Operation}

theorem perform_of_error {e : ServiceError} (h : (d.perform op).1 = .error e) :
    op.Fails d.store e ∧ (d.perform op).2.store = d.store := by
  have hrun := perform_fst_eq_error_iff.mp h
  refine ⟨Operation.run_eq_error_iff.mp hrun, ?_⟩
  rcases d.perform_cases op with ⟨e', -, hperform⟩ | ⟨answer, next, -, hperform⟩
  · rw [hperform]
  · rw [hperform] at h
    cases h

theorem perform_of_ok {answer : Option Resource} (h : (d.perform op).1 = .ok answer) :
    op.Succeeds d.setting d.store answer (d.perform op).2.store := by
  rcases d.perform_cases op with ⟨e, -, hperform⟩ | ⟨answer', next, hsucceeds, hperform⟩
  · rw [hperform] at h
    cases h
  · rw [hperform] at h ⊢
    cases h
    exact hsucceeds

section Answers

variable {kind : ResourceKind} {text : String} {ifMatch : Option String} {answer : Option Resource}

/-- A read that is answered shows an entry of the kind. -/
theorem perform_read_eq_ok_iff {resource : Resource} :
    (d.perform (.read kind text)).1 = .ok (some resource)
      ↔ ∃ entry, d.store.findById kind.collection text = some entry
        ∧ d.setting.shown kind entry = resource := by
  constructor
  · intro h
    have hsucceeds := perform_of_ok h
    generalize (d.perform (.read kind text)).2.store = next at hsucceeds
    generalize hanswer : some resource = answer at hsucceeds
    cases hsucceeds with
    | read found => exact ⟨_, found, (Option.some.inj hanswer).symm⟩
    | rewritten found permitted rewrites unclaimed => cases rewrites
  · rintro ⟨entry, hfound, rfl⟩
    have hsucceeds : (Operation.read kind text).Succeeds d.setting d.store
        (some (d.setting.shown kind entry)) d.store := .read hfound
    rw [perform, Operation.run_eq_ok_iff.mpr hsucceeds]

/-- A read takes time, and nothing else. -/
theorem perform_read_snd (d : Directory) (kind : ResourceKind) (text : String) :
    (d.perform (.read kind text)).2 = { d with ticks := d.ticks + 1 } := by
  rcases d.perform_cases (.read kind text) with ⟨e, -, hperform⟩ | ⟨answer, next, hread, hperform⟩
  · rw [hperform]
  · rw [hperform]
    cases hread with
    | read found => rfl
    | rewritten found permitted rewrites unclaimed => cases rewrites

/-- A replacement that is answered wrote what is sanitized of its input. -/
theorem perform_replace_of_ok {input : Json}
    (h : (d.perform (.replace kind text input ifMatch)).1 = .ok answer) :
    ∃ old, d.store.findById kind.collection text = some old
      ∧ answer = some (d.setting.shown kind
        ⟨old.id, d.setting.stampOver old.body (kind.sanitize input)⟩)
      ∧ (d.perform (.replace kind text input ifMatch)).2.store
        = d.store.change kind.collection
          (Store.overwrite old.id (d.setting.stampOver old.body (kind.sanitize input))) := by
  have hsucceeds := perform_of_ok h
  generalize (d.perform (.replace kind text input ifMatch)).2.store = next at hsucceeds ⊢
  cases hsucceeds with
  | rewritten found permitted rewrites unclaimed =>
    cases rewrites with
    | replace required => exact ⟨_, found, rfl, rfl⟩

/-- A patch that is answered wrote what its operations make of the document. -/
theorem perform_patch_of_ok {body : Json}
    (h : (d.perform (.patch kind text body ifMatch)).1 = .ok answer) :
    ∃ request old, PatchRequest.ofBody body = .ok request
      ∧ d.store.findById kind.collection text = some old
      ∧ answer = some (d.setting.shown kind
        ⟨old.id, d.setting.stampOver old.body (kind.patched request.operations old.body)⟩) := by
  have hsucceeds := perform_of_ok h
  generalize (d.perform (.patch kind text body ifMatch)).2.store = next at hsucceeds
  cases hsucceeds with
  | rewritten found permitted rewrites unclaimed =>
    cases rewrites with
    | patch reads => exact ⟨_, _, reads, found, rfl⟩

end Answers

/-- A bulk request with too many operations is refused, and nothing of it is performed. -/
theorem bulk_of_isTooLong {request : BulkRequest} (h : d.isTooLong request = true) :
    d.bulk request = (.error (.protocol .tooMany), d) := by
  rw [bulk, if_pos h]

/-- Changes are confined.  A failed operation leaves the entries of both kinds as they are.  A
successful one is about one identifier of one kind: under all others the entries keep their
documents and their order, and the other kind keeps all of its entries.  A creation keeps even those
under its own identifier, and adds one behind them.  A bulk request of more operations than allowed
leaves everything as it is. -/
theorem changes_confined (d : Directory) :
    (∀ op e, (d.perform op).1 = .error e →
      e.status ∈ [400, 404, 409, 412] ∧
        ∀ kind : ResourceKind, (d.perform op).2.store.entries kind.collection
          = d.store.entries kind.collection) ∧
    (∀ op answer, (d.perform op).1 = .ok answer →
      ∃ id, op.target? d.setting = some id ∧
        Store.AgreeApartFrom id (d.store.entries op.kind.collection)
          ((d.perform op).2.store.entries op.kind.collection) ∧
        (op.creates = true → ∃ body, (d.perform op).2.store.entries op.kind.collection
          = d.store.entries op.kind.collection ++ [⟨id, body⟩]) ∧
        ∀ kind : ResourceKind, kind ≠ op.kind →
          (d.perform op).2.store.entries kind.collection = d.store.entries kind.collection) ∧
    (∀ request : BulkRequest, d.config.bulkMaxOperations < request.operations.length →
      (d.bulk request).1 = .error (.protocol .tooMany) ∧
        ∀ kind : ResourceKind, (d.bulk request).2.store.entries kind.collection
          = d.store.entries kind.collection) := by
  refine ⟨?_, ?_, ?_⟩
  · intro op e herror
    obtain ⟨hfails, hstore⟩ := perform_of_error herror
    refine ⟨hfails.status_mem, ?_⟩
    intro kind
    rw [hstore]
  · intro op answer hok
    have hsucceeds := perform_of_ok hok
    obtain ⟨id, htarget, hagree⟩ := hsucceeds.agreeApartFrom
    refine ⟨id, htarget, hagree, ?_, ?_⟩
    · intro hcreates
      -- a creation is about the identifier that it draws
      have hid : d.setting.fresh = id := by
        cases op with
        | create => exact Option.some.inj htarget
        | read | replace | patch | delete => cases hcreates
      rw [← hid]
      exact hsucceeds.entries_of_creates hcreates
    · intro kind hne
      exact hsucceeds.entries_of_ne hne
  · intro request hlong
    have htooLong : d.isTooLong request = true := by
      simpa [isTooLong] using hlong
    rw [bulk_of_isTooLong htooLong]
    refine ⟨rfl, ?_⟩
    intro kind
    rfl

/-- A client creates two users and a group. -/
def requestsOfTeam : List Request :=
  [.operation (.create .user (.obj [("userName", .str "ada")])),
    .operation (.create .user (.obj [("userName", .str "grace")])),
    .operation (.create .group (.obj [("displayName", .str "team"),
      ("members", .arr [.obj [("value", .str "00000000-0000-0000-0000-000000000000")]])]))]

/-- Gives the second user the name of the first in capitals. -/
def renamingSecond : Operation :=
  .patch .user "11111111-1111-1111-1111-111111111111"
    (.obj [("Operations", .arr [.obj [("op", .str "replace"), ("path", .str "userName"),
      ("value", .str "ADA")]])]) none

/-- The name is taken, and the users and the group stay as they are. -/
theorem changes_confined_of_renamingSecond :
    ∃ e, ((plain.serveAll requestsOfTeam).2.perform renamingSecond).1 = .error e ∧ e.status = 409 ∧
      ∀ kind : ResourceKind,
        ((plain.serveAll requestsOfTeam).2.perform renamingSecond).2.store.entries kind.collection
          = (plain.serveAll requestsOfTeam).2.store.entries kind.collection := by
  have hstatus : (match ((plain.serveAll requestsOfTeam).2.perform renamingSecond).1 with
      | .error e => e.status
      | .ok _ => 200) = 409 := by decide +kernel
  generalize (plain.serveAll requestsOfTeam).2 = d at hstatus ⊢
  cases hanswer : (d.perform renamingSecond).1 with
  | error e =>
    rw [hanswer] at hstatus
    obtain ⟨hfailures, -, -⟩ := changes_confined d
    exact ⟨e, rfl, hstatus, (hfailures renamingSecond e hanswer).2⟩
  | ok answer =>
    rw [hanswer] at hstatus
    cases hstatus

end Directory

end Scim
