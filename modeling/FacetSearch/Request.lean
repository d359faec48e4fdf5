import FacetSearch.Aggregation.OfQuery
/-!
Compiled requests: what is asked of a backend for a query.
-/

namespace FacetSearch

structure Request where
  query : Combination
  sort : SortBy
  aggregations : Aggregation
  offset : Nat
  size : Nat

namespace Request

/-- Compiles a query. The hits do not depend on forced terms. -/
def ofQuery (settings : Settings) (query : Query) : Except SearchError Request := do
  let combination ← Combination.ofFilters settings query.filters.items none false
  let aggregations ← Aggregation.ofQuery settings query
  return {
    query := combination, sort := query.sort, aggregations,
    offset := query.offset, size := query.size }

/-- The sort in the request language, unless hits are sorted by score. -/
def sortMembers : SortBy → List (String × Json)
  | .score => []
  | .field field order =>
    [("sort", .array [.object [(field, .object [("order", .text order.name)])]])]

def toJson (request : Request) : Json :=
  .object
    ([("query", request.query.clause.toJson)]
      ++ sortMembers request.sort
      ++ [("from", .ofNat request.offset), ("size", .ofNat request.size),
          ("aggs", request.aggregations.toJson)])

end Request

end FacetSearch
