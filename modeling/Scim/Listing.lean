import Scim.Config.Basic
import Scim.Message.Listing
import Scim.Store.Order

/-!
# The parameters of a listing

Listings are asked for by query parameters, which are texts, or by search requests, which hold
numbers.  Both come to the same parameters: the index of the first result, counted from one, a count
within the limit of the configuration, and a filter and an order where they are not blank.
-/

namespace Scim

/-- The parameters of a listing. -/
structure ListParams where
  startIndex : Nat
  count : Nat
  filter : Option String
  sortBy : Option String
  sortOrder : SortOrder
deriving DecidableEq, Repr

namespace ListParams

/-- The greatest number that is read from a parameter. -/
def numberCap : Nat := maxInt64

/-- The number at the start of a parameter. -/
def leadingNumber? (text : String) : Option Int :=
  Numeral.leading? numberCap (Text.trimStart text.toList)

/-- A text that is not blank. -/
def nonBlank (text : Option String) : Option String :=
  text.filter (!Text.isBlankText ·)

/-- The parameters of a query.  Without a number the first result and the default count are
taken, and numbers below the least sensible one count as that. -/
def ofQuery (query : ListQuery) (config : ServiceConfig) : ListParams where
  startIndex :=
    match query.startIndex.bind leadingNumber? with
    | some n => (max n 1).toNat
    | none => 1
  count :=
    min (match query.count.bind leadingNumber? with
      | some n => (max n 0).toNat
      | none => config.defaultCount) config.maxResults
  filter := nonBlank query.filter
  sortBy := nonBlank query.sortBy
  sortOrder := .ofText query.sortOrder

/-- The parameters of a search request. -/
def ofSearch (request : SearchRequest) (config : ServiceConfig) : ListParams where
  startIndex := max (request.startIndex.getD 1) 1
  count := min (request.count.getD config.defaultCount) config.maxResults
  filter := nonBlank request.filter
  sortBy := nonBlank request.sortBy
  sortOrder := .ofText request.sortOrder

/-- How many results to pass over. -/
def skip (params : ListParams) : Nat :=
  params.startIndex - 1

end ListParams

end Scim
