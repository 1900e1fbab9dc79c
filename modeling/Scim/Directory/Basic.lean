import Scim.Directory.Operation
import Scim.Listing

/-!
# The directory

A directory is a store with a configuration, a supply of identifiers and a clock.  Each operation
reads the clock once, and each resource created takes the next identifier.  An operation that fails
changes neither the store nor the supply.
-/

namespace Scim

/-- A directory of users and groups. -/
structure Directory where
  config : ServiceConfig
  store : Store
  ids : Nat → Uuid
  clock : Nat → Timestamp
  issued : Nat := 0
  ticks : Nat := 0

namespace Directory

/-- The time as resources show it. -/
def now (d : Directory) : String :=
  (d.clock d.ticks).milliText

/-- What the next operation finds around it. -/
def setting (d : Directory) : Setting where
  baseUrl := d.config.baseUrl
  now := d.now
  fresh := d.ids d.issued

/-- Performs an operation. -/
def perform (d : Directory) (op : Operation) :
    Except ServiceError (Option Resource) × Directory :=
  match op.run d.setting d.store with
  | .error e => (.error e, { d with ticks := d.ticks + 1 })
  | .ok (answer, store) =>
    (.ok answer, { d with
      store
      ticks := d.ticks + 1
      issued := if op.creates then d.issued + 1 else d.issued })

/-! ## Documents outside of the rules

Documents can also be put into any collection as they are. -/

/-- Puts a document into a collection. -/
def insert (d : Directory) (collection : String) (body : Members) : Uuid × Directory :=
  let id := d.ids d.issued
  (id, { d with store := d.store.insert collection id body, issued := d.issued + 1 })

/-- Puts a document into a collection unless some document matches the guard. -/
def insertUnless (d : Directory) (collection : String) (body : Members) (guard : Predicate)
    (collation : Collation) : Option (Uuid × Directory) :=
  let id := d.ids d.issued
  (d.store.insertUnless collection id body guard collation).map fun store =>
    (id, { d with store, issued := d.issued + 1 })

/-! ## Listings -/

/-- Lists the resources of a kind.  All results are counted, whatever part of them is asked for. -/
def list (d : Directory) (kind : ResourceKind) (params : ListParams) : ListResponse :=
  let query := Predicate.ofText params.filter
  let sort := params.sortBy.map fun path => SortSpec.mk path params.sortOrder
  let found := d.store.find kind.collection query .ignoreCase sort params.skip (some params.count)
  let resources := found.map fun e => (kind.present d.config.baseUrl d.now e).content
  { totalResults := d.store.count kind.collection query .ignoreCase
    itemsPerPage := resources.length
    startIndex := params.startIndex
    resources }

/-- Where a search request is sent. -/
inductive SearchTarget where
  | root
  | users
  | groups
deriving DecidableEq, Repr

/-- The kind that a search looks through; one at the root looks through the users. -/
def SearchTarget.kind : SearchTarget → ResourceKind
  | root => .user
  | users => .user
  | groups => .group

/-- Answers a search request. -/
def search (d : Directory) (target : SearchTarget) (request : SearchRequest) : ListResponse :=
  d.list target.kind (.ofSearch request d.config)

end Directory

end Scim
