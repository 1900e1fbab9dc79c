import Mathlib.Data.List.Induction
import Scim.Directory.Bulk
import Scim.Proofs.Directory.Entries

/-!
# Runs of a directory

A directory serves requests one after the other: operations on resources, listings, searches and
bulk requests.  What clients learn from a run is a list of events, one for each operation that was
performed and one for each listing.  A bulk request is not an event of its own.  The operations that
it performs are events like any other, in their order, and what it skips or refuses leaves no trace
but in its response.

A `Directory.History` is a run seen event by event.  It is what invariants are proved along: a
history can be put together and taken apart at any event, and it ends where the run ends.
-/

namespace Scim

/-! ## Requests and events -/

/-- A request to the service. -/
inductive Request where
  | operation (op : Operation)
  | list (kind : ResourceKind) (query : ListQuery)
  | search (target : Directory.SearchTarget) (request : SearchRequest)
  | bulk (request : BulkRequest)

/-- What becomes visible while a request is served. -/
inductive Event where
  | performed (op : Operation) (answer : Except ServiceError (Option Resource))
  | listed (kind : ResourceKind) (response : ListResponse)

/-- The event of a turn of a bulk request, if it performs an operation. -/
def BulkOperation.Turn.event? : Turn → Option Event
  | .skipped => none
  | .refused _ => none
  | .performed op answer => some (.performed op answer)

/-- The events of the turns of a bulk request. -/
def eventsOfTurns (turns : List (BulkOperation × BulkOperation.Turn)) : List Event :=
  turns.filterMap fun (_, turn) => turn.event?

namespace Event

/-- The last of the events that pass a test, between the events before it and those behind it. -/
structure IsLast (test : Event → Bool) (events before : List Event) (event : Event)
    (after : List Event) : Prop where
  split : events = before ++ event :: after
  passes : test event = true
  later : ∀ other ∈ after, test other = false

variable {test : Event → Bool} {events before after : List Event} {event next : Event}

theorem isLast_append_self (h : test event = true) :
    IsLast test (events ++ [event]) events event [] :=
  ⟨rfl, h, by simp⟩

/-- An event that fails the test leaves the last one that passed it. -/
theorem IsLast.append (h : IsLast test events before event after) (hnext : test next = false) :
    IsLast test (events ++ [next]) before event (after ++ [next]) where
  split := by rw [h.split, List.append_assoc, List.cons_append]
  passes := h.passes
  later := by
    intro other hother
    rcases List.mem_append.mp hother with hother | hother
    · exact h.later other hother
    · rwa [List.mem_singleton.mp hother]

/-- There is one last event that passes a test. -/
theorem IsLast.unique {before' after' : List Event} {event' : Event}
    (h : IsLast test events before event after) (h' : IsLast test events before' event' after') :
    before = before' ∧ event = event' ∧ after = after' := by
  -- an event that passes does not stand behind the last one
  have hnever {a : Event} {between rest last : List Event} (hpasses : test a = true)
      (hlater : ∀ other ∈ last, test other = false) : last ≠ between ++ a :: rest := by
    rintro rfl
    rw [hlater a (by simp)] at hpasses
    cases hpasses
  rcases List.append_eq_append_iff.mp (h.split.symm.trans h'.split) with
    ⟨between, hbefore, hafter⟩ | ⟨between, hbefore, hafter⟩
  · cases between with
    | nil =>
      cases hafter
      exact ⟨by simpa using hbefore.symm, rfl, rfl⟩
    | cons first between => exact absurd (List.cons.inj hafter).2 (hnever h'.passes h.later)
  · cases between with
    | nil =>
      cases hafter
      exact ⟨by simpa using hbefore, rfl, rfl⟩
    | cons first between => exact absurd (List.cons.inj hafter).2 (hnever h.passes h'.later)

end Event

namespace Directory

/-- A directory without resources. -/
def opened (config : ServiceConfig) (database : String) (ids : Nat → Uuid)
    (clock : Nat → Timestamp) : Directory where
  config := config
  store := .empty database
  ids := ids
  clock := clock

/-- A directory without resources whose identifiers repeat a digit and whose clock stands still. -/
def plain : Directory :=
  opened {} "scim" (fun n => .ofFn fun _ => Fin.ofNat 16 n) fun _ => ⟨0, 0⟩

/-- Serves a request. -/
def serve (d : Directory) : Request → List Event × Directory
  | .operation op => ([.performed op (d.perform op).1], (d.perform op).2)
  | .list kind query => ([.listed kind (d.list kind (.ofQuery query d.config))], d)
  | .search target request => ([.listed target.kind (d.search target request)], d)
  | .bulk request =>
    (if d.isTooLong request then [] else eventsOfTurns (d.turns request).1, (d.bulk request).2)

/-- Serves requests one after the other. -/
def serveAll (d : Directory) : List Request → List Event × Directory
  | [] => ([], d)
  | request :: requests =>
    let (events, d) := d.serve request
    let (later, d) := d.serveAll requests
    (events ++ later, d)

/-! ## Steps -/

/-- A step of a directory with the event that it shows: an operation fails and takes no more than
time, an operation succeeds, or a kind is listed. -/
inductive Step (d : Directory) : Event → Directory → Prop
  | failed {op : Operation} {e : ServiceError} (run : op.run d.setting d.store = .error e) :
      Step d (.performed op (.error e)) { d with ticks := d.ticks + 1 }
  | succeeded {op : Operation} {answer : Option Resource} {next : Store}
      (succeeds : op.Succeeds d.setting d.store answer next) :
      Step d (.performed op (.ok answer)) (d.advanced op next)
  | listed (kind : ResourceKind) (params : ListParams) :
      Step d (.listed kind (d.list kind params)) d

/-- Performing an operation is a step. -/
theorem step_perform (d : Directory) (op : Operation) :
    d.Step (.performed op (d.perform op).1) (d.perform op).2 := by
  rcases d.perform_cases op with ⟨e, hrun, hperform⟩ | ⟨answer, next, hsucceeds, hperform⟩
  · rw [hperform]
    exact .failed hrun
  · rw [hperform]
    exact .succeeded hsucceeds

namespace Step

variable {d next : Directory} {event : Event}

theorem ids_eq (h : d.Step event next) : next.ids = d.ids := by
  cases h <;> rfl

theorem clock_eq (h : d.Step event next) : next.clock = d.clock := by
  cases h <;> rfl

theorem config_eq (h : d.Step event next) : next.config = d.config := by
  cases h <;> rfl

theorem issued_le (h : d.Step event next) : d.issued ≤ next.issued := by
  cases h with
  | failed => exact Nat.le_refl _
  | succeeded => exact d.issued_le_advanced _ _
  | listed => exact Nat.le_refl _

/-- Identifiers that are apart after a step were so before. -/
theorem issuedApart (h : d.Step event next) (hapart : next.IssuedApart) : d.IssuedApart := by
  intro i j hij hj
  have := hapart i j hij (Nat.lt_of_lt_of_le hj h.issued_le)
  rwa [h.ids_eq] at this

/-- Entries keep identifiers of their own as long as the supply does. -/
theorem keyed (h : d.Step event next) (hkeyed : d.Keyed) (hapart : next.IssuedApart) :
    next.Keyed := by
  cases h with
  | failed => exact ⟨hkeyed.issued, hkeyed.distinct⟩
  | succeeded succeeds => exact hkeyed.advanced succeeds hapart
  | listed => exact hkeyed

end Step

/-! ## Histories -/

/-- The events that lead from one directory to another. -/
inductive History (start : Directory) : List Event → Directory → Prop
  | start : History start [] start
  | step {events : List Event} {event : Event} {d next : Directory}
      (before : History start events d) (step : d.Step event next) :
      History start (events ++ [event]) next

namespace History

variable {start middle d : Directory} {events before between : List Event}

theorem single {event : Event} (h : start.Step event d) : History start [event] d :=
  .step .start h

theorem trans (first : History start before middle) (second : History middle between d) :
    History start (before ++ between) d := by
  induction second with
  | start => rwa [List.append_nil]
  | step _ hstep ih =>
    rw [← List.append_assoc]
    exact .step ih hstep

/-- The last event of a history is its last step. -/
theorem last {event : Event} (h : History start (events ++ [event]) d) :
    ∃ middle, History start events middle ∧ middle.Step event d := by
  generalize hall : events ++ [event] = all at h
  cases h with
  | start => simp at hall
  | step before hstep =>
    obtain ⟨rfl, hlast⟩ := List.append_inj' hall rfl
    cases hlast
    exact ⟨_, before, hstep⟩

/-- A history passes through a directory between any two of its events. -/
theorem split (h : History start (before ++ between) d) :
    ∃ middle, History start before middle ∧ History middle between d := by
  induction between using List.reverseRecOn generalizing d with
  | nil => exact ⟨d, by rwa [List.append_nil] at h, .start⟩
  | append_singleton rest event ih =>
    rw [← List.append_assoc] at h
    obtain ⟨earlier, hrest, hstep⟩ := h.last
    obtain ⟨middle, hbefore, hbetween⟩ := ih hrest
    exact ⟨middle, hbefore, .step hbetween hstep⟩

theorem ids_eq (h : History start events d) : d.ids = start.ids := by
  induction h with
  | start => rfl
  | step _ hstep ih => rw [hstep.ids_eq, ih]

theorem clock_eq (h : History start events d) : d.clock = start.clock := by
  induction h with
  | start => rfl
  | step _ hstep ih => rw [hstep.clock_eq, ih]

theorem config_eq (h : History start events d) : d.config = start.config := by
  induction h with
  | start => rfl
  | step _ hstep ih => rw [hstep.config_eq, ih]

theorem issuedApart (h : History start events d) (hapart : d.IssuedApart) : start.IssuedApart := by
  induction h with
  | start => exact hapart
  | step _ hstep ih => exact ih (hstep.issuedApart hapart)

theorem keyed (h : History start events d) (hstart : start.Keyed) (hapart : d.IssuedApart) :
    d.Keyed := by
  induction h with
  | start => exact hstart
  | step _ hstep ih => exact hstep.keyed (ih (hstep.issuedApart hapart)) hapart

/-- What every step keeps holds at the end of a history.  A step finds the entries under identifiers
of their own. -/
theorem invariant {P : List Event → Directory → Prop} (h : History start events d)
    (hkeyed : start.Keyed) (hapart : d.IssuedApart) (hstart : P [] start)
    (hstep : ∀ {events : List Event} {event : Event} {d next : Directory}, P events d → d.Keyed →
      d.Step event next → next.IssuedApart → P (events ++ [event]) next) : P events d := by
  induction h with
  | start => exact hstart
  | step earlier last ih =>
    have hbefore := last.issuedApart hapart
    exact hstep (ih hbefore) (earlier.keyed hkeyed hbefore) last hapart

end History

/-! ## Every run is a history -/

/-- The turns of a bulk request are the operations that it performs. -/
theorem history_turnsFrom (allowed failures : Nat) (ids : BulkIds) (ops : List BulkOperation)
    (d : Directory) :
    History d (eventsOfTurns (turnsFrom allowed failures ids ops d).1)
      (turnsFrom allowed failures ids ops d).2 := by
  induction ops generalizing failures ids d with
  | nil => exact .start
  | cons op ops ih =>
    rw [turnsFrom]
    split
    · -- a skipped operation has no event
      exact ih failures ids d
    · cases op.toOperation ids with
      | error e => exact ih (failures + 1) ids d
      | ok operation =>
        have hfirst := History.single (d.step_perform operation)
        rcases hperform : d.perform operation with ⟨answer, next⟩
        rw [hperform] at hfirst
        cases answer with
        | error e =>
          simp only [hperform]
          exact hfirst.trans (ih (failures + 1) ids next)
        | ok answer =>
          simp only [hperform]
          exact hfirst.trans (ih failures (op.remember answer ids) next)

theorem history_serve (d : Directory) (request : Request) :
    History d (d.serve request).1 (d.serve request).2 := by
  cases request with
  | operation op => exact .single (d.step_perform op)
  | list kind query => exact .single (.listed kind _)
  | search target request => exact .single (.listed target.kind _)
  | bulk request =>
    simp only [serve, bulk]
    split
    · exact .start
    · exact history_turnsFrom _ _ _ _ d

/-- A run is a history. -/
theorem history_serveAll (d : Directory) (requests : List Request) :
    History d (d.serveAll requests).1 (d.serveAll requests).2 := by
  induction requests generalizing d with
  | nil => exact .start
  | cons request requests ih => exact (history_serve d request).trans (ih _)

theorem history_of_serveAll {start d : Directory} {requests : List Request} {events : List Event}
    (hrun : start.serveAll requests = (events, d)) : History start events d := by
  have hhistory := history_serveAll start requests
  rwa [hrun] at hhistory

/-- A directory without resources has nothing to keep apart. -/
theorem keyed_opened (config : ServiceConfig) (database : String) (ids : Nat → Uuid)
    (clock : Nat → Timestamp) : (opened config database ids clock).Keyed where
  issued := by
    intro kind e he
    exact absurd he List.not_mem_nil
  distinct := by
    intro kind
    exact List.nodup_nil

/-- After any run, the entries have identifiers of their own. -/
theorem keyed_of_serveAll {config : ServiceConfig} {database : String} {ids : Nat → Uuid}
    {clock : Nat → Timestamp} {requests : List Request} {events : List Event} {d : Directory}
    (hrun : (opened config database ids clock).serveAll requests = (events, d))
    (hapart : d.IssuedApart) : d.Keyed :=
  (history_of_serveAll hrun).keyed (keyed_opened config database ids clock) hapart

end Directory

end Scim
