import Mathlib.Data.List.Forall2
import Scim.Proofs.Directory.Frame
import Scim.Proofs.Directory.Reference

/-!
# Operations one by one

What it means to issue the operations of a bulk request one by one.  Each operation is read with the
references to the outcomes so far resolved, and performed without a precondition on the directory
that the ones before it left (`Directory.Issues`).  Operations in order are such steps one behind
the other (`Directory.InOrder`).

The operations decide what comes of them: they leave one directory, and outcomes that differ at most
in what they explain about a failure (`Directory.InOrder.unique`).  None has the status 412, since
nothing is issued under a precondition (`Directory.InOrder.status_ne`).
-/

namespace Scim

/-- An operation of a bulk request asks for one operation at most. -/
theorem BulkOperation.Asks.unique {op : BulkOperation} {written written' : Operation}
    (h : op.Asks written) (h' : op.Asks written') : written = written' := by
  cases h with
  | create method target data_eq => cases h' <;> simp_all
  | replace method target data_eq => cases h' <;> simp_all
  | patch method target data_eq => cases h' <;> simp_all
  | delete method target => cases h' <;> simp_all

/-- No success has the status of an operation that is skipped. -/
theorem BulkOperation.successStatus_ne (operation : Operation) :
    successStatus operation ≠ "412" := by
  cases operation with
  | create =>
    show "201" ≠ "412"
    decide
  | delete =>
    show "204" ≠ "412"
    decide
  | read | replace | patch =>
    show "200" ≠ "412"
    decide

/-! ## Outcomes that say the same -/

namespace BulkOutcome

/-- Two outcomes that say the same, except for what they explain about a failure. -/
structure Alike (o o' : BulkOutcome) : Prop where
  bulkId_eq : o.bulkId = o'.bulkId
  status_eq : o.status = o'.status
  location_eq : o.location = o'.location
  response_eq : o.isSuccess = true → o.response = o'.response

theorem Alike.refl (o : BulkOutcome) : Alike o o :=
  ⟨rfl, rfl, rfl, fun _ => rfl⟩

variable {outcomes outcomes' : List BulkOutcome}

/-- Outcomes that say the same name the same resources. -/
theorem named?_eq_of_alike (h : List.Forall₂ Alike outcomes outcomes') (name : String) :
    named? outcomes name = named? outcomes' name := by
  have hreverse := List.rel_reverse h
  unfold named?
  generalize outcomes.reverse = latest at hreverse ⊢
  generalize outcomes'.reverse = latest' at hreverse ⊢
  induction hreverse with
  | nil => rfl
  | @cons o o' latest latest' halike _ ih =>
    have hsuccess : o.isSuccess = o'.isSuccess := by
      rw [isSuccess, isSuccess, halike.status_eq]
    rw [List.find?_cons, List.find?_cons, ← hsuccess, ← halike.bulkId_eq, ← halike.location_eq]
    cases hnames : o.isSuccess && o.bulkId == some name && o.location.isSome with
    | false => exact ih
    | true =>
      simp only [Bool.and_eq_true] at hnames
      rw [Option.bind_some, Option.bind_some, resourceId?, resourceId?,
        halike.response_eq hnames.1.1]

/-- Outcomes that say the same have the same statuses. -/
theorem statuses_eq_of_alike (h : List.Forall₂ Alike outcomes outcomes') :
    outcomes.map status = outcomes'.map status := by
  induction h with
  | nil => rfl
  | cons halike _ ih => rw [List.map_cons, List.map_cons, halike.status_eq, ih]

/-- Outcomes that say the same resolve the same references. -/
theorem dereference_eq_of_alike (h : List.Forall₂ Alike outcomes outcomes') :
    dereference outcomes = dereference outcomes' := by
  funext text
  unfold dereference
  cases Text.dropWord? BulkIds.mark text.toList with
  | none => rfl
  | some name => simp only [named?_eq_of_alike h]

end BulkOutcome

namespace Directory

open BulkOutcome

/-- The status of a failure that is performed without a precondition. -/
theorem status_of_perform {d next : Directory} {op : Operation} {e : ServiceError}
    (h : d.perform op = (.error e, next)) (hop : op.precondition? = none) :
    e.status ∈ [400, 404, 409] := by
  have hfails : op.Fails d.store e := (perform_of_error (by rw [h])).1
  have hmem := hfails.status_mem
  have hne := hfails.status_ne_of_unconditional hop
  simp only [List.mem_cons, List.not_mem_nil, or_false] at hmem ⊢
  omega

/-! ## One operation -/

/-- An operation of a bulk request, issued behind earlier outcomes, has this outcome and leads to
this directory.  One that asks for nothing is a bad request and leaves the directory alone.  Any
other performs what it asks for, with the references to the earlier outcomes resolved. -/
inductive Issues (d : Directory) (earlier : List BulkOutcome) (op : BulkOperation) :
    BulkOutcome → Directory → Prop
  | refused {e : ServiceError} (asks : ∀ written, ¬ op.Asks written) (status : e.status = 400) :
      Issues d earlier op (op.failed e) d
  | failed {written : Operation} {e : ServiceError} {next : Directory} (asks : op.Asks written)
      (performs : d.perform (written.mapStrings (dereference earlier)) = (.error e, next)) :
      Issues d earlier op (op.failed e) next
  | succeeded {written : Operation} {answer : Option Resource} {next : Directory}
      (asks : op.Asks written)
      (performs : d.perform (written.mapStrings (dereference earlier)) = (.ok answer, next)) :
      Issues d earlier op (op.succeeded (written.mapStrings (dereference earlier)) answer) next

namespace Issues

variable {d next next' : Directory} {earlier earlier' : List BulkOutcome} {op : BulkOperation}
  {o o' : BulkOutcome}

/-- The outcome repeats the method and the name of the operation. -/
theorem label_eq (h : d.Issues earlier op o next) : (o.method, o.bulkId) = (op.method, op.bulkId) := by
  cases h <;> rfl

/-- The outcome does not have the status of an operation that is skipped. -/
theorem status_ne (h : d.Issues earlier op o next) : o.status ≠ "412" := by
  have hfailed : ∀ n ∈ [400, 404, 409], Nat.repr n ≠ "412" := by decide
  cases h with
  | @refused e asks status => exact hfailed e.status (by simp [status])
  | @failed written e _ asks performs =>
    exact hfailed e.status (status_of_perform performs (asks.precondition?_mapStrings _))
  | succeeded asks performs => exact BulkOperation.successStatus_ne _

/-- Behind outcomes that say the same, what comes of an operation is the same. -/
theorem unique (h : d.Issues earlier op o next) (h' : d.Issues earlier' op o' next')
    (hearlier : List.Forall₂ Alike earlier earlier') : Alike o o' ∧ next = next' := by
  have hdereference := dereference_eq_of_alike hearlier
  cases h with
  | @refused e asks status =>
    cases h' with
    | @refused e' asks' status' =>
      have hfailure : (op.failed e).isSuccess = false := isSuccess_failed op (by simp [status])
      refine ⟨⟨rfl, ?_, rfl, ?_⟩, rfl⟩
      · show Nat.repr e.status = Nat.repr e'.status
        rw [status, status']
      · intro hsuccess
        rw [hfailure] at hsuccess
        cases hsuccess
    | failed asks' performs' => exact absurd asks' (asks _)
    | succeeded asks' performs' => exact absurd asks' (asks _)
  | failed asks performs =>
    cases h' with
    | refused asks' status' => exact absurd asks (asks' _)
    | failed asks' performs' =>
      obtain rfl := asks.unique asks'
      rw [← hdereference, performs] at performs'
      cases performs'
      exact ⟨Alike.refl _, rfl⟩
    | succeeded asks' performs' =>
      obtain rfl := asks.unique asks'
      rw [← hdereference, performs] at performs'
      cases performs'
  | succeeded asks performs =>
    cases h' with
    | refused asks' status' => exact absurd asks (asks' _)
    | failed asks' performs' =>
      obtain rfl := asks.unique asks'
      rw [← hdereference, performs] at performs'
      cases performs'
    | succeeded asks' performs' =>
      obtain rfl := asks.unique asks'
      rw [← hdereference, performs] at performs'
      cases performs'
      rw [hdereference]
      exact ⟨Alike.refl _, rfl⟩

end Issues

/-! ## Operations one behind the other -/

/-- The operations of a bulk request, issued on a directory one by one, have these outcomes and lead
to this directory. -/
inductive InOrder (start : Directory) : List BulkOperation → List BulkOutcome → Directory → Prop
  | start : InOrder start [] [] start
  | step {ops : List BulkOperation} {outcomes : List BulkOutcome} {d next : Directory}
      {op : BulkOperation} {o : BulkOutcome} (before : InOrder start ops outcomes d)
      (issues : d.Issues outcomes op o next) : InOrder start (ops ++ [op]) (outcomes ++ [o]) next

namespace InOrder

variable {start d d' : Directory} {ops : List BulkOperation} {outcomes outcomes' : List BulkOutcome}

/-- Each operation has one outcome, which repeats its method and its name. -/
theorem labels_eq (h : start.InOrder ops outcomes d) :
    (outcomes.map fun o => (o.method, o.bulkId)) = ops.map fun op => (op.method, op.bulkId) := by
  induction h with
  | start => rfl
  | step _ issues ih =>
    rw [List.map_append, List.map_append, ih, List.map_singleton, List.map_singleton,
      issues.label_eq]

/-- No operation that is issued has the status of one that is skipped. -/
theorem status_ne (h : start.InOrder ops outcomes d) : ∀ o ∈ outcomes, o.status ≠ "412" := by
  induction h with
  | start => exact List.forall_mem_nil _
  | step _ issues ih =>
    exact List.forall_mem_append.mpr ⟨ih, List.forall_mem_singleton.mpr issues.status_ne⟩

/-- Without operations nothing happens. -/
theorem eq_start (h : start.InOrder [] outcomes d) : outcomes = [] ∧ d = start := by
  generalize hops : ([] : List BulkOperation) = ops at h
  cases h with
  | start => exact ⟨rfl, rfl⟩
  | step => simp at hops

/-- The last operation is issued behind the others. -/
theorem last {op : BulkOperation} (h : start.InOrder (ops ++ [op]) outcomes d) :
    ∃ earlier o middle, outcomes = earlier ++ [o] ∧ start.InOrder ops earlier middle
      ∧ middle.Issues earlier op o d := by
  generalize hall : ops ++ [op] = all at h
  cases h with
  | start => simp at hall
  | step before issues =>
    obtain ⟨rfl, hlast⟩ := List.append_inj' hall rfl
    cases hlast
    exact ⟨_, _, _, rfl, before, issues⟩

/-- What comes of operations is decided by them. -/
theorem unique (h : start.InOrder ops outcomes d) (h' : start.InOrder ops outcomes' d') :
    List.Forall₂ Alike outcomes outcomes' ∧ d = d' := by
  induction h generalizing outcomes' d' with
  | start =>
    obtain ⟨rfl, rfl⟩ := h'.eq_start
    exact ⟨.nil, rfl⟩
  | step before issues ih =>
    obtain ⟨earlier', o', middle', rfl, hbefore', hissues'⟩ := h'.last
    obtain ⟨hearlier, rfl⟩ := ih hbefore'
    obtain ⟨halike, rfl⟩ := issues.unique hissues' hearlier
    exact ⟨List.rel_append hearlier (.cons halike .nil), rfl⟩

end InOrder

end Directory

end Scim
