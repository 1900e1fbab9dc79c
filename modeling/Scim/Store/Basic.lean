import Scim.Config.Basic
import Scim.Store.Order
import Scim.Uuid

/-!
# The document store

A store holds collections of documents in the order of their insertion, each document under an
identifier.  A write may carry a guard, a predicate that no other document of the collection may
match; the check and the write are one step.
-/

namespace Scim

/-- Why a store could not be opened or used. -/
inductive StoreError where
  | unsupportedUri (uri : String)
  | backend (text : String)
deriving DecidableEq, Repr

/-- The text of the error. -/
def StoreError.message : StoreError → String
  | unsupportedUri uri => "unsupported store uri: " ++ uri
  | backend text => "store backend error: " ++ text

/-- A stored document. -/
structure Entry where
  id : Uuid
  body : Members

/-- A store: its collections by name, where a collection without documents counts as empty. -/
structure Store where
  database : String
  entries : String → List Entry

/-- The outcome of a guarded replacement. -/
inductive Replacement where
  | replaced (store : Store)
  | notFound
  | conflict

namespace Store

/-- The store without documents. -/
def empty (database : String) : Store :=
  ⟨database, fun _ => []⟩

/-- Opens the store of a configuration.  Documents are kept in memory only. -/
def ofConfig (config : StoreConfig) : Except StoreError Store :=
  if (Text.dropWord? "memory://".toList config.uri.toList).isSome then .ok (empty config.database)
  else .error (.unsupportedUri config.uri)

/-- Passes the documents of one collection through a function. -/
def change (store : Store) (collection : String) (f : List Entry → List Entry) : Store :=
  { store with
    entries := fun name => if name = collection then f (store.entries name) else store.entries name }

@[simp] theorem entries_change_self (store : Store) (collection : String)
    (f : List Entry → List Entry) :
    (store.change collection f).entries collection = f (store.entries collection) := by
  simp [change]

theorem entries_change_of_ne (store : Store) {collection name : String} (h : name ≠ collection)
    (f : List Entry → List Entry) :
    (store.change collection f).entries name = store.entries name := by
  simp [change, h]

/-- Whether a document matches a predicate. -/
def matching (p : Predicate) (collation : Collation) (e : Entry) : Bool :=
  p.holds collation (.obj e.body)

/-! ## Reading -/

/-- The first entry with an identifier. -/
def lookup (id : Uuid) (entries : List Entry) : Option Entry :=
  entries.find? (·.id == id)

/-- The document under the identifier that a text denotes. -/
def findById (store : Store) (collection id : String) : Option Entry :=
  (Uuid.ofText? id).bind fun u => lookup u (store.entries collection)

/-- The first document that matches. -/
def findOne (store : Store) (collection : String) (p : Predicate) (collation : Collation) :
    Option Entry :=
  (store.entries collection).find? (matching p collation)

/-- How many documents match. -/
def count (store : Store) (collection : String) (p : Predicate) (collation : Collation) : Nat :=
  ((store.entries collection).filter (matching p collation)).length

/-- The documents that match, in the order asked for; documents that are equal in that order keep
the order of insertion. -/
def select (store : Store) (collection : String) (p : Predicate) (collation : Collation)
    (sort : Option SortSpec) : List Entry :=
  let found := (store.entries collection).filter (matching p collation)
  match sort with
  | none => found
  | some spec => found.mergeSort fun a b => spec.mayPrecede collation (.obj a.body) (.obj b.body)

/-- A part of the documents that match. -/
def find (store : Store) (collection : String) (p : Predicate) (collation : Collation)
    (sort : Option SortSpec) (skip : Nat) (limit : Option Nat) : List Entry :=
  let rest := (store.select collection p collation sort).drop skip
  match limit with
  | none => rest
  | some n => rest.take n

/-! ## Writing -/

/-- Appends a document. -/
def insert (store : Store) (collection : String) (id : Uuid) (body : Members) : Store :=
  store.change collection (· ++ [⟨id, body⟩])

/-- Appends a document unless some document matches the guard. -/
def insertUnless (store : Store) (collection : String) (id : Uuid) (body : Members)
    (guard : Predicate) (collation : Collation) : Option Store :=
  if (store.entries collection).any (matching guard collation) then none
  else some (store.insert collection id body)

/-- Writes a document over the first one with an identifier. -/
def overwrite (id : Uuid) (body : Members) : List Entry → List Entry
  | [] => []
  | e :: rest => if e.id = id then { e with body } :: rest else e :: overwrite id body rest

/-- Writes a document over another one; `none` when the identifier is not in use. -/
def replace (store : Store) (collection id : String) (body : Members) : Option Store :=
  (Uuid.ofText? id).bind fun u =>
    if (lookup u (store.entries collection)).isSome then
      some (store.change collection (overwrite u body))
    else none

/-- Writes a document over another one unless a third one matches the guard. -/
def replaceUnless (store : Store) (collection id : String) (body : Members) (guard : Predicate)
    (collation : Collation) : Replacement :=
  match Uuid.ofText? id with
  | none => .notFound
  | some u =>
    let entries := store.entries collection
    if (lookup u entries).isNone then .notFound
    else if entries.any fun e => e.id != u && matching guard collation e then .conflict
    else .replaced (store.change collection (overwrite u body))

/-- Removes a document; `none` when the identifier is not in use. -/
def delete (store : Store) (collection id : String) : Option Store :=
  (Uuid.ofText? id).bind fun u =>
    if (store.entries collection).any (·.id == u) then
      some (store.change collection (·.filter (·.id != u)))
    else none

end Store

end Scim
