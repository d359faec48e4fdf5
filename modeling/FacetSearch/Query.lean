import FacetSearch.Error
import FacetSearch.Facet
/-!
Queries: filters and facets by name, an order, and a window of the hits. Putting a filter or a facet
of a name that is already there replaces it at its place.
-/

namespace FacetSearch

inductive SortOrder where
  | ascending
  | descending
  deriving DecidableEq, Repr

namespace SortOrder

def name : SortOrder → String
  | ascending => "asc"
  | descending => "desc"

def ofName? (name : String) : Option SortOrder :=
  if name = "asc" then some ascending
  else if name = "desc" then some descending
  else none

def ofJson? (json : Json) : Option SortOrder := json.choice?.bind ofName?

def shape : Shape := .choice [("asc", .any), ("desc", .any)]

end SortOrder

/-- What hits are sorted by. -/
inductive SortBy where
  | score
  | field (field : String) (order : SortOrder)
  deriving DecidableEq, Repr

namespace SortBy

def toJson : SortBy → Json
  | score => .text "score"
  | field name order =>
    .object
      [("field", .object [("field", .text name), ("order", .text order.name)])]

/-- The sort that a JSON value holds. The body of a sort by field has to be an object. -/
def ofJson? : Json → Option SortBy
  | .text name => if name = "score" then some score else none
  | .object [(name, body)] =>
    if name = "score" then
      match body with
      | .null => some score
      | _ => none
    else if name = "field" then do
      let members ← body.object?
      let field ← (Json.findMember? members "field").bind Json.text?
      let order ← (Json.findMember? members "order").bind SortOrder.ofJson?
      return .field field order
    else none
  | _ => none

/-- What is read of a sort in a text, where the body may also be given by position. -/
def shape : Shape :=
  .choice [("score", .any), ("field", .body [("field", .any), ("order", SortOrder.shape)])]

end SortBy

structure Query where
  filters : KeyedList Filter Filter.name := .empty
  facets : KeyedList Facet Facet.name := .empty
  sort : SortBy := .score
  /-- How many hits come before the window. -/
  offset : Nat := 0
  /-- How many hits the window shows at most. -/
  size : Nat := 10

namespace Query

def matchAll : Query := {}

/-- Adds a filter, or replaces the one of its name. -/
def filterBy (query : Query) (filter : Filter) : Query :=
  { query with filters := query.filters.put filter }

/-- Adds a facet, or replaces the one of its name. -/
def facetBy (query : Query) (facet : Facet) : Query :=
  { query with facets := query.facets.put facet }

def ofText (text : String) : Query := matchAll.filterBy (.freeText text)

def sortBy (query : Query) (sort : SortBy) : Query := { query with sort }

def paginate (query : Query) (offset size : Nat) : Query := { query with offset, size }

/-- The greatest offset of a window. -/
def maxOffset : Nat := UInt64.size - 1

/-- The window of a page; pages count from one, and page zero is the first one too. -/
def page (query : Query) (number size : Nat) : Query :=
  query.paginate (min ((number - 1) * size) maxOffset) size

def text? (query : Query) : Option String :=
  (query.filters.get? Filter.freeTextName).bind fun filter => filter.values.head?

def toJson (query : Query) : Json :=
  .object
    [("filters", .array (query.filters.items.map Filter.toJson)),
     ("aggregations", .array (query.facets.items.map Facet.toJson)),
     ("sort", query.sort.toJson),
     ("from", .ofNat query.offset),
     ("size", .ofNat query.size)]

def ofJson? (json : Json) : Option Query := do
  let record ← json.record? 5
  let filters ← record.withDefault 0 "filters" [] (Json.list? Filter.ofJson?)
  let facets ← record.withDefault 1 "aggregations" [] (Json.list? Facet.ofJson?)
  let sort ← record.withDefault 2 "sort" .score SortBy.ofJson?
  let offset ← record.withDefault 3 "from" 0 Json.natural?
  let size ← record.withDefault 4 "size" 10 Json.natural?
  return { filters := .ofList filters, facets := .ofList facets, sort, offset, size }

def shape : Shape :=
  .record
    [("filters", .list Filter.shape), ("aggregations", .list Facet.shape),
     ("sort", SortBy.shape), ("from", .any), ("size", .any)]

def ofSource (source : String) : Except SearchError Query :=
  decoded ((Json.ofText? shape source).bind ofJson?)

end Query

end FacetSearch
