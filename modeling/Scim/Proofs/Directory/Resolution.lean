import Mathlib.Data.List.Forall2
import Scim.Proofs.Directory.InOrder

/-!
# Values with their references resolved

A text is a reference if it is `bulkId:` and a name that the table knows.  Neither is a longer text
with a reference in it, nor one with an unknown name, nor a key.  Resolving a value replaces its
references, at any depth, and nothing else (`BulkIds.references_replaced_for_good`).

Whether any reference is left then is up to the identifiers, for one that begins with `bulkId:` may
be a reference itself.  If none does (`BulkIds.Unmarked`), none is left, and resolving the value
again changes nothing.  The tables that record the outcomes of operations in order are of this kind,
because they hold identifiers of resources; so references to earlier outcomes are always resolved
for good (`Directory.InOrder.mapStrings_dereference`).
-/

namespace Scim

namespace BulkIds

/-! ## References -/

/-- The text is a reference to the identifier. -/
def Refers (ids : BulkIds) (text id : String) : Prop :=
  ∃ name, text = "bulkId:" ++ name ∧ ids.lookup name = some id

/-- What becomes of a text: a reference is replaced by its identifier, and any other text stays. -/
inductive Replaces (ids : BulkIds) : String → String → Prop
  | reference {text id : String} (refers : ids.Refers text id) : Replaces ids text id
  | other {text : String} (unrelated : ∀ id, ¬ ids.Refers text id) : Replaces ids text text

/-- No identifier in the table begins the way references do. -/
def Unmarked (ids : BulkIds) : Prop :=
  ∀ name id, ids.lookup name = some id → ∀ rest, id ≠ "bulkId:" ++ rest

variable {ids : BulkIds} {text id : String}

theorem toList_reference (name : String) : ("bulkId:" ++ name).toList = mark ++ name.toList := by
  rw [String.toList_append]
  rfl

/-- A text that does not begin with the mark of references is none. -/
theorem ne_reference (h : ¬ mark <+: text.toList) (rest : String) : text ≠ "bulkId:" ++ rest := by
  rintro rfl
  exact h ⟨rest.toList, (toList_reference rest).symm⟩

theorem resolve?_eq_some_iff : ids.resolve? text = some id ↔ ids.Refers text id := by
  constructor
  · intro h
    obtain ⟨name, hname, hlookup⟩ := Option.bind_eq_some_iff.mp h
    refine ⟨String.ofList name, ?_, hlookup⟩
    rw [← String.toList_inj, toList_reference, String.toList_ofList]
    exact Text.dropWord?_eq_some_iff.mp hname
  · rintro ⟨name, rfl, hlookup⟩
    have hname : Text.dropWord? mark ("bulkId:" ++ name).toList = some name.toList :=
      Text.dropWord?_eq_some_iff.mpr (toList_reference name)
    rw [resolve?, hname, Option.bind_some, String.ofList_toList, hlookup]

theorem replaces_resolve (ids : BulkIds) (text : String) : ids.Replaces text (ids.resolve text) := by
  rw [resolve]
  cases h : ids.resolve? text with
  | some id => exact .reference (resolve?_eq_some_iff.mp h)
  | none =>
    refine .other ?_
    intro id hrefers
    rw [resolve?_eq_some_iff.mpr hrefers] at h
    cases h

theorem Replaces.resolve_eq {result : String} (h : ids.Replaces text result) :
    ids.resolve text = result := by
  cases h with
  | reference refers => rw [resolve, resolve?_eq_some_iff.mpr refers, Option.getD_some]
  | other unrelated =>
    cases hresolve : ids.resolve? text with
    | some id => exact absurd (resolve?_eq_some_iff.mp hresolve) (unrelated id)
    | none => rw [resolve, hresolve, Option.getD_none]

/-- Texts that are replaced one by one are resolved. -/
theorem forall₂_replaces_iff {texts results : List String} :
    List.Forall₂ ids.Replaces texts results ↔ results = texts.map ids.resolve := by
  have hreplaces : ids.Replaces = fun text result => ids.resolve text = result := by
    funext text result
    exact propext ⟨Replaces.resolve_eq, fun h => h ▸ replaces_resolve ids text⟩
  rw [hreplaces, ← List.forall₂_map_left_iff, List.forall₂_eq_eq_eq, eq_comm]

/-! ## Once and for all -/

theorem unmarked_nil : Unmarked [] := by
  intro name id h
  cases h

theorem Unmarked.cons (h : ids.Unmarked) (name : String) (hid : ∀ rest, id ≠ "bulkId:" ++ rest) :
    Unmarked ((name, id) :: ids) := by
  intro other held hlookup
  rw [List.lookup_cons] at hlookup
  split at hlookup
  · obtain rfl := Option.some.inj hlookup
    exact hid
  · exact h other held hlookup

/-- An identifier that takes the place of a reference is no reference. -/
theorem Unmarked.not_refers_resolve (h : ids.Unmarked) (text id : String) :
    ¬ ids.Refers (ids.resolve text) id := by
  intro hrefers
  have hreplaces := replaces_resolve ids text
  generalize ids.resolve text = result at hreplaces hrefers
  cases hreplaces with
  | reference refers =>
    obtain ⟨name, -, hlookup⟩ := refers
    obtain ⟨rest, heq, -⟩ := hrefers
    exact h name result hlookup rest heq
  | other unrelated => exact unrelated id hrefers

theorem Unmarked.resolve_resolve (h : ids.Unmarked) (text : String) :
    ids.resolve (ids.resolve text) = ids.resolve text :=
  (Replaces.other (h.not_refers_resolve text)).resolve_eq

/-- No reference is left in a value that has been resolved. -/
theorem Unmarked.not_refers_of_mem (h : ids.Unmarked) {value : Json}
    (htext : text ∈ (ids.resolveIn value).strings) (id : String) : ¬ ids.Refers text id := by
  rw [resolveIn_eq_mapStrings, Json.strings_mapStrings] at htext
  obtain ⟨before, -, rfl⟩ := List.mem_map.mp htext
  exact h.not_refers_resolve before id

/-- A value without references stays. -/
theorem resolveIn_of_not_refers {value : Json}
    (h : ∀ text ∈ value.strings, ∀ id, ¬ ids.Refers text id) : ids.resolveIn value = value := by
  rw [resolveIn_eq_mapStrings]
  refine Json.mapStrings_eq_self ?_
  intro text htext
  exact (Replaces.other (h text htext)).resolve_eq

/-- Resolving a value replaces its references and nothing else.  The result has the outline of the
value, so its keys, their order, the items of its arrays and all scalars but strings are the same;
of its strings, every reference is replaced by the identifier, and every other string stays.  If no
identifier begins the way references do, no reference is left, and resolving the result again
changes nothing. -/
theorem references_replaced_for_good (ids : BulkIds) (value : Json) :
    (∀ result, ids.resolveIn value = result ↔
        result.outline = value.outline ∧ List.Forall₂ ids.Replaces value.strings result.strings)
      ∧ (ids.Unmarked →
        (∀ text ∈ (ids.resolveIn value).strings, ∀ id, ¬ ids.Refers text id)
          ∧ ids.resolveIn (ids.resolveIn value) = ids.resolveIn value) := by
  constructor
  · intro result
    rw [resolveIn_eq_mapStrings, Json.mapStrings_eq_iff, forall₂_replaces_iff]
  · intro hunmarked
    have hleft : ∀ text ∈ (ids.resolveIn value).strings, ∀ id, ¬ ids.Refers text id :=
      fun _ htext => hunmarked.not_refers_of_mem htext
    exact ⟨hleft, resolveIn_of_not_refers hleft⟩

/-- A user and a group that were created under names. -/
def createdIds : BulkIds :=
  [("g1", "5678"), ("u1", "1234")]

/-- A group with references to what was created, with texts and keys that only look like them, and
with scalars of other kinds. -/
def groupData : Json :=
  .obj [("bulkId:u1", .str "bulkId:"), ("displayName", .str "see bulkId:u1"),
    ("members", .arr [.obj [("value", .str "bulkId:u1")], .obj [("value", .str "bulkId:u2")],
      .arr [.str "bulkId:g1", .null, .bool true, .num (.int 1)]]),
    ("note", .str "bulkId:u1")]

/-- The group with its three references replaced. -/
def resolvedGroupData : Json :=
  .obj [("bulkId:u1", .str "bulkId:"), ("displayName", .str "see bulkId:u1"),
    ("members", .arr [.obj [("value", .str "1234")], .obj [("value", .str "bulkId:u2")],
      .arr [.str "5678", .null, .bool true, .num (.int 1)]]),
    ("note", .str "1234")]

theorem unmarked_createdIds : createdIds.Unmarked :=
  (unmarked_nil.cons "u1" (ne_reference (by decide))).cons "g1" (ne_reference (by decide))

/-- The three references are replaced, whatever their depth; the key, the longer text and the
unknown name stay, and nothing changes the second time. -/
theorem references_replaced_for_good_of_group :
    createdIds.Unmarked ∧ createdIds.resolveIn groupData = resolvedGroupData
      ∧ (∀ text ∈ resolvedGroupData.strings, ∀ id, ¬ createdIds.Refers text id)
      ∧ createdIds.resolveIn resolvedGroupData = resolvedGroupData := by
  obtain ⟨hreplaced, hgood⟩ := references_replaced_for_good createdIds groupData
  have hresolve : createdIds.resolveIn groupData = resolvedGroupData := by
    refine (hreplaced resolvedGroupData).mpr ⟨rfl, forall₂_replaces_iff.mpr ?_⟩
    decide
  obtain ⟨hleft, hagain⟩ := hgood unmarked_createdIds
  rw [hresolve] at hleft hagain
  exact ⟨unmarked_createdIds, hresolve, hleft, hagain⟩

/-- An identifier that is a reference itself is resolved the second time. -/
example : resolveIn [("a", "bulkId:b"), ("b", "5")] (.str "bulkId:a") = .str "bulkId:b"
    ∧ resolveIn [("a", "bulkId:b"), ("b", "5")] (.str "bulkId:b") = .str "5" :=
  ⟨rfl, rfl⟩

/-! ## The tables of bulk requests -/

/-- A success is remembered by the identifier of a resource, if at all. -/
theorem remember_cases {setting : Setting} {store next : Store} {operation : Operation}
    {answer : Option Resource} (h : operation.Succeeds setting store answer next)
    (op : BulkOperation) (ids : BulkIds) :
    op.remember answer ids = ids
      ∨ ∃ name, ∃ held : Uuid, op.remember answer ids = (name, held.text) :: ids := by
  cases hname : op.bulkId with
  | none =>
    left
    simp [BulkOperation.remember, hname]
  | some name =>
    rcases h.eq_none_or_shown with rfl | ⟨kind, entry, rfl⟩
    · left
      simp [BulkOperation.remember, hname]
    · right
      refine ⟨name, entry.id, ?_⟩
      have hend : BulkOperation.idAtEnd (setting.shown kind entry).location = entry.id.text :=
        kind.idAtEnd_location setting.baseUrl entry.id
      simpa [BulkOperation.remember, hname] using hend

/-- What a success adds to the table does not begin the way references do, for a colon never stands
in an identifier. -/
theorem Unmarked.remember (h : ids.Unmarked) {setting : Setting} {store next : Store}
    {operation : Operation} {answer : Option Resource}
    (hsucceeds : operation.Succeeds setting store answer next) (op : BulkOperation) :
    (op.remember answer ids).Unmarked := by
  rcases remember_cases hsucceeds op ids with hsame | ⟨name, held, hcons⟩
  · rwa [hsame]
  · have hmark : ¬ mark <+: held.text.toList := by
      intro hprefix
      have hcolon : ':' ∈ held.text.toList := hprefix.subset (by decide)
      exact held.notMem_text (by decide) (by decide) hcolon
    rw [hcons]
    exact h.cons name (ne_reference hmark)

end BulkIds

theorem Operation.mapStrings_mapStrings (f g : String → String) (op : Operation) :
    (op.mapStrings f).mapStrings g = op.mapStrings (g ∘ f) := by
  cases op with
  | create | replace | patch => simp [mapStrings, Json.mapStrings_mapStrings]
  | read | delete => rfl

namespace Directory

open BulkOutcome

variable {start d next : Directory} {ids : BulkIds} {outcomes : List BulkOutcome}

/-- One more outcome is recorded by one more identifier of a resource, if by any. -/
theorem Issues.exists_records {op : BulkOperation} {o : BulkOutcome}
    (h : d.Issues outcomes op o next) (hrecords : ids.Records outcomes)
    (hunmarked : ids.Unmarked) :
    ∃ known : BulkIds, known.Records (outcomes ++ [o]) ∧ known.Unmarked := by
  cases h with
  | @refused e asks status =>
    have hfailure : (op.failed e).isSuccess = false := isSuccess_failed op (by simp [status])
    exact ⟨ids, hrecords.failed hfailure, hunmarked⟩
  | failed asks performs =>
    have hstatus := status_of_perform performs (asks.precondition?_mapStrings _)
    exact ⟨ids, hrecords.failed (isSuccess_failed op hstatus), hunmarked⟩
  | @succeeded written answer _ asks performs =>
    have hsucceeds := perform_of_ok (by rw [performs])
    exact ⟨op.remember answer ids, hrecords.succeeded hsucceeds, hunmarked.remember hsucceeds op⟩

/-- The outcomes of operations in order are recorded by identifiers of resources. -/
theorem InOrder.exists_records {ops : List BulkOperation} (h : start.InOrder ops outcomes d) :
    ∃ known : BulkIds, known.Records outcomes ∧ known.Unmarked := by
  induction h with
  | start => exact ⟨[], BulkIds.records_nil, BulkIds.unmarked_nil⟩
  | step _ issues ih =>
    obtain ⟨known, hrecords, hunmarked⟩ := ih
    exact issues.exists_records hrecords hunmarked

/-- Behind operations in order, an operation has its references resolved for good: resolving them
again changes nothing. -/
theorem InOrder.mapStrings_dereference {ops : List BulkOperation}
    (h : start.InOrder ops outcomes d) (operation : Operation) :
    (operation.mapStrings (dereference outcomes)).mapStrings (dereference outcomes)
      = operation.mapStrings (dereference outcomes) := by
  obtain ⟨known, hrecords, hunmarked⟩ := h.exists_records
  have htwice : known.resolve ∘ known.resolve = known.resolve :=
    funext hunmarked.resolve_resolve
  rw [← hrecords.resolve_eq, Operation.mapStrings_mapStrings, htwice]

end Directory

end Scim
