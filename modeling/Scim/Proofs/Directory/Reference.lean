import Scim.Directory.Bulk
import Scim.Proofs.Directory.Failure
import Scim.Proofs.Directory.Resource
import Scim.Proofs.Json.Strings
import Scim.Proofs.Uuid

/-!
# References to earlier outcomes

A text in a bulk request may refer to a resource by the name that an earlier operation had.  What it
refers to can be told from the outcomes alone: the resource that the latest success under the name
reported (`BulkOutcome.named?`).  The table of names that a bulk request carries along instead takes
identifiers from the ends of locations.  Both agree (`BulkIds.Records`), because a location ends in
the identifier that the response shows.

An operation of a bulk request is written as an operation on a resource, or as none
(`BulkOperation.Asks`); what is performed is the written one with its references resolved.
-/

namespace Scim

/-! ## The strings of an operation -/

/-- The operation with its identifier and the strings of its body passed through a function. -/
def Operation.mapStrings (f : String → String) : Operation → Operation
  | create kind body => create kind (body.mapStrings f)
  | read kind id => read kind (f id)
  | replace kind id body ifMatch => replace kind (f id) (body.mapStrings f) ifMatch
  | patch kind id body ifMatch => patch kind (f id) (body.mapStrings f) ifMatch
  | delete kind id => delete kind (f id)

namespace BulkIds

variable (ids : BulkIds)

mutual

/-- References are resolved string by string. -/
theorem resolveIn_eq_mapStrings (j : Json) : ids.resolveIn j = j.mapStrings ids.resolve := by
  cases j with
  | str s => rfl
  | arr items => rw [resolveIn, Json.mapStrings, resolveItems_eq_mapStringsOfItems items]
  | obj members => rw [resolveIn, Json.mapStrings, resolveMembers_eq_mapStringsOfMembers members]
  | null | bool | num => rfl

theorem resolveItems_eq_mapStringsOfItems (items : List Json) :
    ids.resolveItems items = Json.mapStringsOfItems ids.resolve items := by
  cases items with
  | nil => rfl
  | cons x xs =>
    rw [resolveItems, Json.mapStringsOfItems, resolveIn_eq_mapStrings x,
      resolveItems_eq_mapStringsOfItems xs]

theorem resolveMembers_eq_mapStringsOfMembers (members : List (String × Json)) :
    ids.resolveMembers members = Json.mapStringsOfMembers ids.resolve members := by
  cases members with
  | nil => rfl
  | cons head xs =>
    obtain ⟨k, x⟩ := head
    rw [resolveMembers, Json.mapStringsOfMembers, resolveIn_eq_mapStrings x,
      resolveMembers_eq_mapStringsOfMembers xs]

end

end BulkIds

/-! ## What an operation of a bulk request asks for -/

namespace BulkOperation

/-- The operation on a resource that an operation of a bulk request is written as, with the
references in it as they stand.  None has a precondition. -/
inductive Asks (op : BulkOperation) : Operation → Prop
  | create {kind : ResourceKind} {data : Json} (method : methodName op.method = "POST")
      (target : target? op.path = some ⟨kind, none⟩) (data_eq : op.data = some data) :
      Asks op (.create kind data)
  | replace {kind : ResourceKind} {id : String} {data : Json}
      (method : methodName op.method = "PUT") (target : target? op.path = some ⟨kind, some id⟩)
      (data_eq : op.data = some data) : Asks op (.replace kind id data none)
  | patch {kind : ResourceKind} {id : String} {data : Json}
      (method : methodName op.method = "PATCH") (target : target? op.path = some ⟨kind, some id⟩)
      (data_eq : op.data = some data) : Asks op (.patch kind id data none)
  | delete {kind : ResourceKind} {id : String} (method : methodName op.method = "DELETE")
      (target : target? op.path = some ⟨kind, some id⟩) : Asks op (.delete kind id)

variable {ids : BulkIds} {op : BulkOperation} {operation written : Operation} {e : ServiceError}

/-- What is written is what is performed, with its references resolved. -/
theorem Asks.toOperation_eq (h : op.Asks written) (ids : BulkIds) :
    op.toOperation ids = .ok (written.mapStrings ids.resolve) := by
  cases h with
  | create method target data_eq | replace method target data_eq | patch method target data_eq =>
    simp [toOperation, method, target, data_eq, requireData, Operation.mapStrings,
      BulkIds.resolveIn_eq_mapStrings, ok_bind, pure, Except.pure]
  | delete method target =>
    simp [toOperation, method, target, Operation.mapStrings, pure, Except.pure]

/-- An operation of a bulk request asks for something, or it is a bad request. -/
theorem asks_or_toOperation_eq_error (op : BulkOperation) (ids : BulkIds) :
    (∃ written, op.Asks written) ∨ ∃ text, op.toOperation ids = .error (.badRequest text) := by
  rcases htarget : target? op.path with _ | ⟨kind, _ | id⟩
  · -- the path addresses nothing
    right
    exact ⟨"Invalid path: " ++ op.path, by simp [toOperation, htarget]⟩
  · by_cases hpost : methodName op.method = "POST"
    · cases hdata : op.data with
      | some data =>
        left
        exact ⟨_, .create hpost htarget hdata⟩
      | none =>
        right
        exact ⟨"Missing data", by simp [toOperation, htarget, hpost, hdata, requireData]⟩
    · right
      exact ⟨"Unsupported operation: " ++ op.method ++ " " ++ op.path, by
        simp [toOperation, htarget, hpost]⟩
  · by_cases hdelete : methodName op.method = "DELETE"
    · left
      exact ⟨_, .delete hdelete htarget⟩
    by_cases hput : methodName op.method = "PUT"
    · cases hdata : op.data with
      | some data =>
        left
        exact ⟨_, .replace hput htarget hdata⟩
      | none =>
        right
        exact ⟨"Missing data", by simp [toOperation, htarget, hput, hdata, requireData]⟩
    by_cases hpatch : methodName op.method = "PATCH"
    · cases hdata : op.data with
      | some data =>
        left
        exact ⟨_, .patch hpatch htarget hdata⟩
      | none =>
        right
        exact ⟨"Missing data", by simp [toOperation, htarget, hpatch, hdata, requireData]⟩
    · right
      exact ⟨"Unsupported operation: " ++ op.method ++ " " ++ op.path, by
        simp [toOperation, htarget, hput, hpatch, hdelete]⟩

/-- What is performed is what the operation asks for, with the references in it resolved. -/
theorem exists_asks_of_toOperation (h : op.toOperation ids = .ok operation) :
    ∃ written, op.Asks written ∧ written.mapStrings ids.resolve = operation := by
  rcases op.asks_or_toOperation_eq_error ids with ⟨written, hasks⟩ | ⟨text, herror⟩
  · rw [hasks.toOperation_eq ids] at h
    cases h
    exact ⟨written, hasks, rfl⟩
  · rw [herror] at h
    cases h

/-- What is refused asks for nothing, and is a bad request. -/
theorem refused_of_toOperation (h : op.toOperation ids = .error e) :
    (∀ written, ¬ op.Asks written) ∧ e.status = 400 := by
  constructor
  · intro written hasks
    rw [hasks.toOperation_eq ids] at h
    cases h
  · rcases op.asks_or_toOperation_eq_error ids with ⟨written, hasks⟩ | ⟨text, herror⟩
    · rw [hasks.toOperation_eq ids] at h
      cases h
    · rw [herror] at h
      cases h
      rfl

/-- Nothing that is asked for has a precondition. -/
theorem Asks.precondition?_mapStrings (h : op.Asks written) (f : String → String) :
    (written.mapStrings f).precondition? = none := by
  cases h <;> rfl

end BulkOperation

/-! ## What outcomes report -/

namespace BulkOutcome

/-- Whether the outcome is that of a success: the statuses of successes start with a 2. -/
def isSuccess (o : BulkOutcome) : Bool :=
  o.status.toList.head? == some '2'

/-- The identifier of the resource in the response. -/
def resourceId? (o : BulkOutcome) : Option String :=
  (o.response.bind (Json.get? "id")).bind Json.string?

/-- The identifier of the resource that the latest success under a name reported. -/
def named? (earlier : List BulkOutcome) (name : String) : Option String :=
  (earlier.reverse.find? fun o => o.isSuccess && o.bulkId == some name && o.location.isSome).bind
    resourceId?

/-- The text with its reference to an earlier outcome resolved; an unknown reference stays. -/
def dereference (earlier : List BulkOutcome) (text : String) : String :=
  match Text.dropWord? BulkIds.mark text.toList with
  | some name => (named? earlier (String.ofList name)).getD text
  | none => text

/-- Each success has the status of one. -/
theorem isSuccess_succeeded (op : BulkOperation) (operation : Operation)
    (answer : Option Resource) : (op.succeeded operation answer).isSuccess = true := by
  cases operation with
  | create =>
    show ("201".toList.head? == some '2') = true
    decide
  | delete =>
    show ("204".toList.head? == some '2') = true
    decide
  | read | replace | patch =>
    show ("200".toList.head? == some '2') = true
    decide

/-- No failure of an operation has the status of a success. -/
theorem isSuccess_failed (op : BulkOperation) {e : ServiceError}
    (h : e.status ∈ [400, 404, 409]) : (op.failed e).isSuccess = false := by
  have hstatuses : ∀ n ∈ [400, 404, 409],
      ((Nat.repr n).toList.head? == some '2') = false := by decide
  exact hstatuses e.status h

/-- The response to a success shows the identifier of its resource. -/
theorem resourceId?_succeeded_shown (op : BulkOperation) (operation : Operation)
    (setting : Setting) (kind : ResourceKind) (entry : Entry) :
    (op.succeeded operation (some (setting.shown kind entry))).resourceId?
      = some entry.id.text := by
  have hshows := (kind.showsTag_content_present_iff setting.baseUrl setting.now entry).mpr
    ⟨rfl, rfl⟩
  show ((setting.shown kind entry).content.get? "id").bind Json.string? = some entry.id.text
  rw [Setting.shown, hshows.1]
  rfl

end BulkOutcome

/-! ## The table of names -/

/-- A success answers no resource, or one that its setting shows. -/
theorem Operation.Succeeds.eq_none_or_shown {setting : Setting} {store next : Store}
    {operation : Operation} {answer : Option Resource}
    (h : operation.Succeeds setting store answer next) :
    answer = none ∨ ∃ kind entry, answer = some (setting.shown kind entry) := by
  cases h with
  | created | read | rewritten => exact Or.inr ⟨_, _, rfl⟩
  | deleted => exact Or.inl rfl

/-- The end of a location is the identifier. -/
theorem ResourceKind.idAtEnd_location (kind : ResourceKind) (baseUrl : String) (id : Uuid) :
    BulkOperation.idAtEnd (kind.location baseUrl id.text) = id.text := by
  have hslash : ∀ c ∈ id.text.toList.reverse, (c != '/') = true := by
    intro c hc
    rw [bne_iff_ne]
    rintro rfl
    exact id.slash_notMem_text (List.mem_reverse.mp hc)
  have hreverse : (kind.location baseUrl id.text).toList.reverse
      = id.text.toList.reverse ++ '/' :: (baseUrl ++ "/" ++ kind.endpoint).toList.reverse := by
    simp [location]
  rw [BulkOperation.idAtEnd, hreverse, List.takeWhile_append_of_pos hslash,
    List.takeWhile_cons_of_neg (by decide), List.append_nil, List.reverse_reverse,
    String.ofList_toList]

namespace BulkIds

open BulkOutcome

/-- The table holds the names that the outcomes so far have given. -/
def Records (ids : BulkIds) (earlier : List BulkOutcome) : Prop :=
  ∀ name, ids.lookup name = named? earlier name

variable {ids : BulkIds} {earlier : List BulkOutcome} {op : BulkOperation}

/-- At first no name is known. -/
theorem records_nil : Records [] [] := by
  intro name
  rfl

/-- The table resolves what refers to an earlier outcome. -/
theorem Records.resolve_eq (h : ids.Records earlier) : ids.resolve = dereference earlier := by
  funext text
  unfold resolve resolve? dereference
  cases Text.dropWord? mark text.toList with
  | none => rfl
  | some name => rw [Option.bind_some, h]

/-- A failure gives no name. -/
theorem Records.failed (h : ids.Records earlier) {o : BulkOutcome} (ho : o.isSuccess = false) :
    ids.Records (earlier ++ [o]) := by
  intro name
  rw [h name]
  simp [named?, ho]

/-- A success gives its resource the name that it was performed under. -/
theorem Records.succeeded (h : ids.Records earlier) {setting : Setting} {store next : Store}
    {operation : Operation} {answer : Option Resource}
    (hsucceeds : operation.Succeeds setting store answer next) :
    (op.remember answer ids).Records (earlier ++ [op.succeeded operation answer]) := by
  intro name
  rcases hsucceeds.eq_none_or_shown with rfl | ⟨kind, entry, rfl⟩
  · -- without a resource there is no location
    have hremember : op.remember none ids = ids := by
      cases hown : op.bulkId <;> simp [BulkOperation.remember, hown]
    rw [hremember, h name]
    simp [named?, BulkOperation.succeeded]
  · have hreported := resourceId?_succeeded_shown op operation setting kind entry
    have hend : BulkOperation.idAtEnd (setting.shown kind entry).location = entry.id.text :=
      kind.idAtEnd_location setting.baseUrl entry.id
    by_cases hown : op.bulkId = some name
    · have hnamed : named? (earlier ++ [op.succeeded operation (some (setting.shown kind entry))])
          name = some entry.id.text := by
        rw [named?, List.reverse_append, List.reverse_singleton, List.singleton_append,
          List.find?_cons_of_pos
            (by rw [isSuccess_succeeded]; simp [BulkOperation.succeeded, hown]), Option.bind_some,
          hreported]
      rw [hnamed]
      simp [BulkOperation.remember, hown, hend]
    · -- the latest outcome under the name is an earlier one
      have hnamed : named? (earlier ++ [op.succeeded operation (some (setting.shown kind entry))])
          name = named? earlier name := by
        rw [named?, List.reverse_append, List.reverse_singleton, List.singleton_append,
          List.find?_cons_of_neg (by simp [BulkOperation.succeeded, hown]), named?]
      rw [hnamed, ← h name]
      cases hother : op.bulkId with
      | none => simp [BulkOperation.remember, hother]
      | some other =>
        have hne : (name == other) = false := by
          rw [beq_eq_false_iff_ne]
          rintro rfl
          exact hown hother
        simp [BulkOperation.remember, hother, List.lookup_cons, hne]

end BulkIds

end Scim
