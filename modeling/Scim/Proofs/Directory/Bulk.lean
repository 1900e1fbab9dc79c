import Scim.Proofs.Directory.InOrder

/-!
# Bulk requests are executed in order

A bulk request issues its operations one by one until the failures are as many as it allows, and
answers the rest with status 412, which none of the issued operations has
(`Directory.bulk_in_order`).

The turns of a bulk request carry a table of names and a count of failures along.  `BulkProgress` is
what holds of both in front of every turn.
-/

namespace Scim

namespace BulkOutcome

/-- How many of the outcomes are failures. -/
def failures (outcomes : List BulkOutcome) : Nat :=
  outcomes.countP fun o => !o.isSuccess

variable {o : BulkOutcome}

theorem failures_append_of_failure (h : o.isSuccess = false) (outcomes : List BulkOutcome) :
    failures (outcomes ++ [o]) = failures outcomes + 1 := by
  simp [failures, h]

theorem failures_append_of_success (h : o.isSuccess = true) (outcomes : List BulkOutcome) :
    failures (outcomes ++ [o]) = failures outcomes := by
  simp [failures, h]

/-- The last outcome adds no more than one failure. -/
theorem failures_le_dropLast (outcomes : List BulkOutcome) :
    failures outcomes ≤ failures outcomes.dropLast + 1 := by
  rcases List.eq_nil_or_concat outcomes with rfl | ⟨earlier, last, rfl⟩
  · exact Nat.zero_le _
  · rw [List.concat_eq_append, List.dropLast_concat]
    cases hlast : last.isSuccess with
    | false => rw [failures_append_of_failure hlast]
    | true =>
      rw [failures_append_of_success hlast]
      exact Nat.le_succ _

end BulkOutcome

namespace Directory

open BulkOutcome

/-! ## The turns -/

/-- What holds in front of a turn, behind the operations that have been executed: they have been
issued in order, the table records the names that they gave, their failures have been counted, and
the last of them was executed because the failures before it were fewer than allowed. -/
structure BulkProgress (start : Directory) (allowed failed : Nat) (ids : BulkIds)
    (executed : List BulkOperation) (outcomes : List BulkOutcome) (d : Directory) : Prop where
  inOrder : start.InOrder executed outcomes d
  records : ids.Records outcomes
  counted : failures outcomes = failed
  within : 0 < allowed → failures outcomes.dropLast < allowed

namespace BulkProgress

variable {start d next : Directory} {allowed failed : Nat} {ids : BulkIds}
  {executed : List BulkOperation} {outcomes : List BulkOutcome} {op : BulkOperation}

/-- Nothing has been executed yet. -/
theorem initial (start : Directory) (allowed : Nat) : start.BulkProgress allowed 0 [] [] [] start where
  inOrder := .start
  records := BulkIds.records_nil
  counted := rfl
  within := by
    intro hallowed
    exact hallowed

/-- The last operation was executed, so the failures are no more than allowed. -/
theorem failed_le (h : start.BulkProgress allowed failed ids executed outcomes d)
    (hallowed : 0 < allowed) : failed ≤ allowed := by
  have hwithin := h.within hallowed
  have hle := failures_le_dropLast outcomes
  rw [h.counted] at hle
  omega

/-- Another operation has been executed, and failed. -/
theorem failure (h : start.BulkProgress allowed failed ids executed outcomes d)
    (hgo : ¬ (0 < allowed ∧ allowed ≤ failed)) {e : ServiceError}
    (hissues : d.Issues outcomes op (op.failed e) next)
    (hstatus : e.status ∈ [400, 404, 409]) :
    start.BulkProgress allowed (failed + 1) ids (executed ++ [op]) (outcomes ++ [op.failed e])
      next := by
  have hfailure := isSuccess_failed op hstatus
  refine ⟨h.inOrder.step hissues, h.records.failed hfailure, ?_, ?_⟩
  · rw [failures_append_of_failure hfailure, h.counted]
  · intro hallowed
    rw [List.dropLast_concat, h.counted]
    omega

/-- Another operation has been executed, and succeeded. -/
theorem success (h : start.BulkProgress allowed failed ids executed outcomes d)
    (hgo : ¬ (0 < allowed ∧ allowed ≤ failed)) {operation : Operation} {answer : Option Resource}
    (hissues : d.Issues outcomes op (op.succeeded operation answer) next)
    (hsucceeds : operation.Succeeds d.setting d.store answer next.store) :
    start.BulkProgress allowed failed (op.remember answer ids) (executed ++ [op])
      (outcomes ++ [op.succeeded operation answer]) next := by
  refine ⟨h.inOrder.step hissues, h.records.succeeded hsucceeds, ?_, ?_⟩
  · rw [failures_append_of_success (isSuccess_succeeded op operation answer), h.counted]
  · intro hallowed
    rw [List.dropLast_concat, h.counted]
    omega

end BulkProgress

/-- Behind as many failures as are allowed, all operations are skipped. -/
theorem turnsFrom_of_exhausted {allowed failed : Nat} (h : 0 < allowed ∧ allowed ≤ failed)
    (ids : BulkIds) (ops : List BulkOperation) (d : Directory) :
    turnsFrom allowed failed ids ops d = (ops.map fun op => (op, .skipped), d) := by
  induction ops with
  | nil => rfl
  | cons op ops ih => rw [turnsFrom, if_pos h, ih, List.map_cons]

/-! ## The whole request -/

/-- How a bulk request comes to its responses: the first of its operations are executed in order,
the rest are skipped.  Up to the last executed one the failures were fewer than allowed, and if any
operation is skipped, that one brought them to what is allowed. -/
structure BulkExecution (start : Directory) (allowed : Nat) (ops : List BulkOperation)
    (responses : List BulkOutcome) (last : Directory) (executed skipped : List BulkOperation)
    (outcomes : List BulkOutcome) : Prop where
  operations : executed ++ skipped = ops
  responses : outcomes ++ skipped.map BulkOperation.skipped = responses
  inOrder : start.InOrder executed outcomes last
  within : 0 < allowed → failures outcomes.dropLast < allowed
  stopped : skipped ≠ [] → 0 < allowed ∧ failures outcomes = allowed

/-- Each operation has one response, executed or not, which repeats its method and its name. -/
theorem BulkExecution.labels_eq {start last : Directory} {allowed : Nat}
    {ops executed skipped : List BulkOperation} {responses outcomes : List BulkOutcome}
    (h : start.BulkExecution allowed ops responses last executed skipped outcomes) :
    (responses.map fun o => (o.method, o.bulkId)) = ops.map fun op => (op.method, op.bulkId) := by
  rw [← h.operations, ← h.responses, List.map_append, List.map_append, h.inOrder.labels_eq,
    List.map_map]
  rfl

/-- The outcomes of turns. -/
def outcomesOf (turns : List (BulkOperation × BulkOperation.Turn)) : List BulkOutcome :=
  turns.map fun (op, turn) => op.outcome turn

theorem append_outcomesOf_cons (outcomes : List BulkOutcome) (op : BulkOperation)
    (turn : BulkOperation.Turn) (turns : List (BulkOperation × BulkOperation.Turn)) :
    outcomes ++ outcomesOf ((op, turn) :: turns)
      = (outcomes ++ [op.outcome turn]) ++ outcomesOf turns := by
  rw [List.append_assoc]
  rfl

/-- The turns that are left complete what has been executed so far. -/
theorem BulkProgress.exists_execution {start d : Directory} {allowed failed : Nat} {ids : BulkIds}
    {executed : List BulkOperation} {outcomes : List BulkOutcome}
    (h : start.BulkProgress allowed failed ids executed outcomes d) (ops : List BulkOperation) :
    ∃ all skipped shown, start.BulkExecution allowed (executed ++ ops)
      (outcomes ++ outcomesOf (turnsFrom allowed failed ids ops d).1)
      (turnsFrom allowed failed ids ops d).2 all skipped shown := by
  induction ops generalizing failed ids executed outcomes d with
  | nil =>
    refine ⟨executed, [], outcomes, rfl, rfl, h.inOrder, h.within, ?_⟩
    intro hskipped
    exact absurd rfl hskipped
  | cons op ops ih =>
    by_cases hstop : 0 < allowed ∧ allowed ≤ failed
    · -- this operation and all behind it are skipped
      rw [turnsFrom_of_exhausted hstop]
      refine ⟨executed, op :: ops, outcomes, rfl, ?_, h.inOrder, h.within, ?_⟩
      · simp [outcomesOf, BulkOperation.outcome]
      · intro _
        rw [h.counted]
        exact ⟨hstop.1, Nat.le_antisymm (h.failed_le hstop.1) hstop.2⟩
    · rw [turnsFrom, if_neg hstop, List.append_cons executed op ops]
      cases hoperation : op.toOperation ids with
      | error e =>
        obtain ⟨hasks, hstatus⟩ := BulkOperation.refused_of_toOperation hoperation
        have hnext := h.failure hstop (.refused hasks hstatus) (by simp [hstatus])
        simp only [append_outcomesOf_cons]
        exact ih hnext
      | ok operation =>
        obtain ⟨written, hasks, rfl⟩ := BulkOperation.exists_asks_of_toOperation hoperation
        rw [h.records.resolve_eq]
        rcases hperform : d.perform (written.mapStrings (dereference outcomes)) with
          ⟨e | answer, next⟩
        · have hstatus := status_of_perform hperform (hasks.precondition?_mapStrings _)
          have hnext := h.failure hstop (.failed hasks hperform) hstatus
          simp only [hperform, append_outcomesOf_cons]
          exact ih hnext
        · have hsucceeds := perform_of_ok (by rw [hperform])
          rw [hperform] at hsucceeds
          have hnext := h.success hstop (.succeeded hasks hperform) hsucceeds
          simp only [hperform, append_outcomesOf_cons]
          exact ih hnext

/-- A bulk request is executed in order.  One that is not too long is answered with one outcome for
each of its operations, which repeats the method and the name.  The first operations are issued one
by one, and the rest skipped once the failures are as many as allowed.  Status 412 tells the skipped
operations from the ones that are issued.  Issuing the executed operations leads to the same
directory with the same statuses in every way in which it can be done. -/
theorem bulk_in_order (d : Directory) (request : BulkRequest)
    (hlength : request.operations.length ≤ d.config.bulkMaxOperations) :
    ∃ response last executed skipped outcomes, d.bulk request = (.ok response, last)
      ∧ (response.operations.map fun o => (o.method, o.bulkId))
        = (request.operations.map fun op => (op.method, op.bulkId))
      ∧ d.BulkExecution (request.failOnErrors.getD 0) request.operations response.operations last
        executed skipped outcomes
      ∧ (∀ o ∈ outcomes, o.status ≠ "412") ∧ (∀ op ∈ skipped, op.skipped.status = "412")
      ∧ ∀ outcomes' last', d.InOrder executed outcomes' last' →
        outcomes'.map BulkOutcome.status = outcomes.map BulkOutcome.status ∧ last' = last := by
  obtain ⟨executed, skipped, outcomes, hexecution⟩ :=
    (BulkProgress.initial d (request.failOnErrors.getD 0)).exists_execution request.operations
  have hnot : d.isTooLong request = false := by
    simpa [isTooLong] using hlength
  have hbulk : d.bulk request = (.ok { operations := outcomesOf (d.turns request).1 },
      (d.turns request).2) := by
    simp [bulk, hnot, outcomesOf]
  refine ⟨_, _, executed, skipped, outcomes, hbulk, hexecution.labels_eq, hexecution,
    hexecution.inOrder.status_ne, ?_, ?_⟩
  · intro op _
    rfl
  · intro outcomes' last' hissued
    obtain ⟨halike, hlast⟩ := hissued.unique hexecution.inOrder
    exact ⟨statuses_eq_of_alike halike, hlast⟩

/-- Creates a user and a group with that user in it, fails to replace a user that does not exist,
and would remove the first user if one failure were not enough to end it. -/
def bulkOfTeam : BulkRequest where
  operations := [
    { method := "POST", path := "/Users", bulkId := some "u1",
      data := some (.obj [("userName", .str "ada")]) },
    { method := "POST", path := "/Groups", bulkId := some "g1",
      data := some (.obj [("displayName", .str "team"),
        ("members", .arr [.obj [("value", .str "bulkId:u1")]])]) },
    { method := "PUT", path := "/Users/bulkId:u2", data := some (.obj [("userName", .str "eve")]) },
    { method := "DELETE", path := "/Users/bulkId:u1" }]
  failOnErrors := some 1

/-- The removal is skipped, and the user is still there. -/
theorem bulk_in_order_of_team :
    ∃ response last executed skipped outcomes, plain.bulk bulkOfTeam = (.ok response, last)
      ∧ response.operations.map BulkOutcome.status = ["201", "201", "404", "412"]
      ∧ (last.store.entries ResourceKind.user.collection).length = 1
      ∧ plain.BulkExecution 1 bulkOfTeam.operations response.operations last executed skipped
        outcomes := by
  have hstatuses : (match (plain.bulk bulkOfTeam).1 with
      | .ok response => response.operations.map BulkOutcome.status
      | .error _ => []) = ["201", "201", "404", "412"] := by decide +kernel
  have husers : ((plain.bulk bulkOfTeam).2.store.entries
      ResourceKind.user.collection).length = 1 := by decide +kernel
  obtain ⟨response, last, executed, skipped, outcomes, hbulk, -, hexecution, -, -, -⟩ :=
    bulk_in_order plain bulkOfTeam (by decide)
  rw [hbulk] at hstatuses husers
  exact ⟨response, last, executed, skipped, outcomes, hbulk, hstatuses, husers, hexecution⟩

end Directory

end Scim
