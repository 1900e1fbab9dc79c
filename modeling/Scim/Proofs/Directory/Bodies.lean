import Scim.Proofs.Directory.Reference
import Scim.Proofs.Directory.Run
import Scim.Proofs.Json.Sorted

/-!
# Bodies in order

Whatever was read from a text is in order at any depth, and so are the bodies of requests.  The
operations that become visible in a run have bodies in order as well (`Directory.sorted_serveAll`).
For operations of bulk requests there is something to show, since their references are resolved
first: that exchanges strings and leaves the keys of objects as they are.
-/

namespace Scim

open Members (SortedHeld sortedHeld_none sortedHeld_some_iff)

namespace Json

theorem keys_mapStringsOfMembers (f : String → String) (members : Members) :
    (mapStringsOfMembers f members).map Prod.fst = members.map Prod.fst := by
  induction members with
  | nil => rfl
  | cons head members ih =>
    obtain ⟨key, value⟩ := head
    rw [mapStringsOfMembers, List.map_cons, List.map_cons, ih]

mutual

/-- Values in order stay so when their strings are exchanged. -/
theorem sorted_mapStrings (f : String → String) {j : Json} (h : j.Sorted) :
    (j.mapStrings f).Sorted := by
  cases j with
  | arr items => exact sortedItems_mapStrings f h
  | obj members =>
    refine ⟨?_, sortedMembers_mapStrings f h.2⟩
    rw [keys_mapStringsOfMembers]
    exact h.1
  | null | bool | num | str => trivial

theorem sortedItems_mapStrings (f : String → String) {items : List Json} (h : SortedItems items) :
    SortedItems (mapStringsOfItems f items) := by
  cases items with
  | nil => trivial
  | cons item items => exact ⟨sorted_mapStrings f h.1, sortedItems_mapStrings f h.2⟩

theorem sortedMembers_mapStrings (f : String → String) {members : List (String × Json)}
    (h : SortedMembers members) : SortedMembers (mapStringsOfMembers f members) := by
  cases members with
  | nil => trivial
  | cons head members =>
    obtain ⟨key, value⟩ := head
    exact ⟨sorted_mapStrings f h.1, sortedMembers_mapStrings f h.2⟩

end

end Json

/-! ## Operations, requests and events -/

/-- The body of an operation, if it has one. -/
def Operation.body? : Operation → Option Json
  | create _ body => some body
  | replace _ _ body _ => some body
  | patch _ _ body _ => some body
  | read _ _ => none
  | delete _ _ => none

/-- The body of the operation is in order. -/
def Operation.Sorted (op : Operation) : Prop :=
  SortedHeld op.body?

instance (op : Operation) : Decidable op.Sorted :=
  inferInstanceAs (Decidable (SortedHeld op.body?))

/-- The bodies in the request are in order. -/
def Request.Sorted : Request → Prop
  | .operation op => op.Sorted
  | .bulk request => ∀ op ∈ request.operations, SortedHeld op.data
  | .list _ _ => True
  | .search _ _ => True

instance : DecidablePred Request.Sorted
  | .operation op => inferInstanceAs (Decidable op.Sorted)
  | .bulk request => inferInstanceAs (Decidable (∀ op ∈ request.operations, SortedHeld op.data))
  | .list _ _ => isTrue trivial
  | .search _ _ => isTrue trivial

/-- The body of the operation that was performed is in order. -/
def Event.Sorted : Event → Prop
  | .performed op _ => op.Sorted
  | .listed _ _ => True

theorem Operation.sorted_mapStrings (f : String → String) {op : Operation} (h : op.Sorted) :
    (op.mapStrings f).Sorted := by
  cases op with
  | create | replace | patch =>
    exact sortedHeld_some_iff.mpr (Json.sorted_mapStrings f (sortedHeld_some_iff.mp h))
  | read | delete => exact sortedHeld_none

namespace BulkOperation

variable {op : BulkOperation} {operation : Operation}

theorem Asks.sorted (h : op.Asks operation) (hdata : SortedHeld op.data) : operation.Sorted := by
  cases h with
  | create method target data_eq | replace method target data_eq | patch method target data_eq =>
    rw [data_eq] at hdata
    exact hdata
  | delete => exact sortedHeld_none

theorem sorted_of_toOperation {ids : BulkIds} (h : op.toOperation ids = .ok operation)
    (hdata : SortedHeld op.data) : operation.Sorted := by
  obtain ⟨written, hasks, rfl⟩ := exists_asks_of_toOperation h
  exact Operation.sorted_mapStrings ids.resolve (hasks.sorted hdata)

end BulkOperation

/-! ## Runs -/

namespace Directory

theorem sorted_eventsOfTurns_turnsFrom (allowed : Nat) {ops : List BulkOperation}
    (h : ∀ op ∈ ops, SortedHeld op.data) (failures : Nat) (ids : BulkIds) (d : Directory) :
    ∀ event ∈ eventsOfTurns (turnsFrom allowed failures ids ops d).1, event.Sorted := by
  induction ops generalizing failures ids d with
  | nil =>
    intro event hevent
    exact absurd hevent List.not_mem_nil
  | cons op ops ih =>
    obtain ⟨hop, hops⟩ := List.forall_mem_cons.mp h
    rw [turnsFrom]
    split
    · exact ih hops failures ids d
    · cases hoperation : op.toOperation ids with
      | error e => exact ih hops (failures + 1) ids d
      | ok operation =>
        have hsorted := BulkOperation.sorted_of_toOperation hoperation hop
        rcases hperform : d.perform operation with ⟨answer, next⟩
        have hfirst : (Event.performed operation answer).Sorted := hsorted
        cases answer with
        | error e =>
          simp only [hperform]
          exact List.forall_mem_cons.mpr ⟨hfirst, ih hops (failures + 1) ids next⟩
        | ok answer =>
          simp only [hperform]
          exact List.forall_mem_cons.mpr ⟨hfirst, ih hops failures (op.remember answer ids) next⟩

theorem sorted_serve {request : Request} (h : request.Sorted) (d : Directory) :
    ∀ event ∈ (d.serve request).1, event.Sorted := by
  cases request with
  | operation op => exact List.forall_mem_singleton.mpr h
  | list | search => exact List.forall_mem_singleton.mpr trivial
  | bulk request =>
    simp only [serve]
    split
    · simp
    · exact sorted_eventsOfTurns_turnsFrom _ h 0 [] d

/-- What is performed in a run of requests in order is in order. -/
theorem sorted_serveAll {requests : List Request} (h : ∀ request ∈ requests, request.Sorted)
    (d : Directory) : ∀ event ∈ (d.serveAll requests).1, event.Sorted := by
  induction requests generalizing d with
  | nil => simp [serveAll]
  | cons request requests ih =>
    obtain ⟨hrequest, hrequests⟩ := List.forall_mem_cons.mp h
    exact List.forall_mem_append.mpr ⟨sorted_serve hrequest d, ih hrequests _⟩

theorem sorted_of_serveAll {start d : Directory} {requests : List Request} {events : List Event}
    (hrun : start.serveAll requests = (events, d))
    (hsorted : ∀ request ∈ requests, request.Sorted) : ∀ event ∈ events, event.Sorted := by
  have hevents := sorted_serveAll hsorted start
  rwa [hrun] at hevents

end Directory

end Scim
