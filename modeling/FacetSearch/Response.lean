import FacetSearch.Aggregation.OfQuery
import FacetSearch.Document.Path
import FacetSearch.SearchResult
/-!
Reading a backend's response as the result of a query. Without the scopes of the aggregation tree a
response is refused; anything else that is missing or misshapen counts as nothing, and hits that are
no entities are passed over. Pruning a facet past the last of the levels makes the reading stop.
-/

namespace FacetSearch

namespace Response

/-- A member that has to be there. -/
def need (json : Option Json) (name : String) (part : ResponsePart) : Except SearchError Json :=
  match json.bind fun value => value.get? name with
  | some value => .ok value
  | none => .error (.malformedResponse part)

/-- The count of a scope or a bucket. -/
def documentCount (scope : Json) : Nat :=
  ((scope.get? "doc_count").bind Json.natural?).getD 0

/-- The total of the hits, given as a number or as an object with a value. -/
def totalHits (response : Json) : Nat :=
  match response.get? "total_hits" with
  | none => 0
  | some total =>
    if total.isObject then ((total.get? "value").bind Json.natural?).getD 0
    else total.natural?.getD 0

/-- A price without its fraction, held within 64 bits; zero if there is none. -/
def price (common : Json) (name : String) : Int64 :=
  match ((common.get? name).bind fun m => m.get? "value").bind Json.binary64? with
  | some x => x.clampToInt64
  | none => 0

/-- The entity of a hit: its identifier goes over the one in its source. -/
def entity? (hit : Json) : Option Entity := do
  let id ← (hit.get? "id").bind Json.term?
  let kind ← EntityKind.ofName? (((hit.get? "type").bind Json.text?).getD "")
  let source := ((hit.get? "source").bind Json.object?).getD []
  Entity.ofMembers? kind (Json.putMember source "id" (.text id))

def entities (response : Json) : List Entity :=
  (((response.get? "results").bind Json.array?).getD []).filterMap entity?

/-- The buckets of a facet's scope, directly or inside its relation. -/
def buckets (scope : Json) (name : String) : List Json :=
  match scope.get? name with
  | none => []
  | some inner =>
    let found :=
      match inner.get? "buckets" with
      | some list => some list
      | none => (inner.get? name).bind fun nested => nested.get? "buckets"
    (found.bind Json.array?).getD []

/-- Counts a bucket, if it has a key that the facet keeps. -/
def addBucket (facet : Facet) (result : FacetResult) (bucket : Json) : FacetResult :=
  match (bucket.get? "key").bind Json.term? with
  | none => result
  | some key => if facet.keeps key then result.addCounter key (documentCount bucket) else result

def facetResult (query : Query) (facet : Facet) (scope : Json) : Checked FacetResult :=
  let counted := (buckets scope facet.name).foldl (addBucket facet)
    { name := facet.name
      application := facet.application
      totalDocuments := documentCount scope
      applied := ((query.filters.get? facet.name).map Filter.values).getD [] }
  if facet.application.levels then counted.pruneLevels else pure counted

def addResult (query : Query) (typeScope : Json) (results : FacetResults) (facet : Facet) :
    Checked FacetResults :=
  match typeScope.get? facet.name with
  | some scope => results.add <$> facetResult query facet scope
  | none => pure results

/-- The results of the facets that the response has a scope for. -/
def facetResults (query : Query) (typeScope : Json) : Checked FacetResults :=
  query.facets.items.foldlM (addResult query typeScope)
    { totalElements := documentCount typeScope }

/-- The scopes that a response has to have. -/
structure Scopes where
  all : Json
  type : Json
  common : Json

def scopes (response : Json) : Except SearchError Scopes := do
  let all ← need (response.get? "aggregations") Aggregation.allScope .allScope
  let type ← need (some all) Aggregation.typeScope .typeScope
  let common ← need (some type) Aggregation.commonScope .commonScope
  return { all, type, common }

/-- The result but for its entities. -/
def totals (response : Json) (scopes : Scopes) (facets : FacetResults) : SearchResult where
  totalElements := documentCount scopes.all
  totalItems := documentCount scopes.type
  totalHits := totalHits response
  minPrice := price scopes.common Aggregation.minPrice
  maxPrice := price scopes.common Aggregation.maxPrice
  facets := facets

end Response

open Response in
def SearchResult.ofResponse (query : Query) (response : Json) :
    Checked (Except SearchError SearchResult) :=
  match scopes response with
  | .ok scopes => do
    let facets ← facetResults query scopes.type
    return .ok ((entities response).foldl addEntity (totals response scopes facets))
  | .error e => pure (.error e)

end FacetSearch
