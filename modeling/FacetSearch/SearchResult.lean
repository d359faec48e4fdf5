import FacetSearch.Counter
import FacetSearch.Entity
/-!
Search results: totals, prices, the typed hits by kind, and the facets.
-/

namespace FacetSearch

/-- The answer to a query. -/
structure SearchResult where
  /-- How many documents there are. -/
  totalElements : Nat
  /-- How many of them have the primary type. -/
  totalItems : Nat
  /-- How many documents match the query. -/
  totalHits : Nat
  minPrice : Int64
  maxPrice : Int64
  products : List Product := []
  categories : List Category := []
  manufacturers : List Label := []
  brands : List Label := []
  tags : List Tag := []
  facets : FacetResults

namespace SearchResult

def addEntity (result : SearchResult) : Entity → SearchResult
  | .product p => { result with products := result.products ++ [p] }
  | .category c => { result with categories := result.categories ++ [c] }
  | .manufacturer l => { result with manufacturers := result.manufacturers ++ [l] }
  | .brand l => { result with brands := result.brands ++ [l] }
  | .tag t => { result with tags := result.tags ++ [t] }

/-- How many hits there are of all kinds. -/
def entityCount (result : SearchResult) : Nat :=
  result.products.length + result.categories.length + result.manufacturers.length
    + result.brands.length + result.tags.length

def toJson (result : SearchResult) : Json :=
  .object
    [("total_elements", .ofNat result.totalElements),
     ("total_items", .ofNat result.totalItems),
     ("total_hits", .ofNat result.totalHits),
     ("min_price", .ofInt result.minPrice.toInt),
     ("max_price", .ofInt result.maxPrice.toInt),
     ("products", .array (result.products.map fun p => .object p.members)),
     ("categories", .array (result.categories.map fun c => .object c.members)),
     ("manufacturers", .array (result.manufacturers.map fun l => .object l.members)),
     ("brands", .array (result.brands.map fun l => .object l.members)),
     ("tags", .array (result.tags.map fun t => .object t.members)),
     ("aggregations", result.facets.toJson)]

/-- A list of objects, every one of which can be read. -/
def objects? {α : Type} (read : List (String × Json) → Option α) : Json → Option (List α) :=
  Json.list? fun json => json.object?.bind read

def ofJson? (json : Json) : Option SearchResult := do
  let record ← json.record? 11
  let totalElements ← record.required 0 "total_elements" Json.natural?
  let totalItems ← record.required 1 "total_items" Json.natural?
  let totalHits ← record.required 2 "total_hits" Json.natural?
  let minPrice ← record.required 3 "min_price" Json.int64?
  let maxPrice ← record.required 4 "max_price" Json.int64?
  let products ← record.required 5 "products" (objects? Product.ofMembers?)
  let categories ← record.required 6 "categories" (objects? Category.ofMembers?)
  let manufacturers ← record.required 7 "manufacturers" (objects? Label.ofMembers?)
  let brands ← record.required 8 "brands" (objects? Label.ofMembers?)
  let tags ← record.required 9 "tags" (objects? Tag.ofMembers?)
  let facets ← record.required 10 "aggregations" FacetResults.ofJson?
  return {
    totalElements, totalItems, totalHits, minPrice, maxPrice,
    products, categories, manufacturers, brands, tags, facets }

end SearchResult

end FacetSearch
