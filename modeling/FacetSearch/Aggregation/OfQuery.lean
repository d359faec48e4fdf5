import FacetSearch.Aggregation
import FacetSearch.Clause.OfFilters
import FacetSearch.Query
/-!
The aggregation tree of a query. Every facet is counted in a scope of its own, which applies all
filters of the query; a facet of which one value is enough looks past its own selection, so that it
shows what each other value would add. Prices are found among the documents that all filters accept.

    all
      all_products          documents of the primary type
        <facet>             filters, less its own where one value is enough
          <facet>           the facet's buckets
        common              filters
          min_price
          max_price
-/

namespace FacetSearch

namespace Aggregation

/-- The scope of the whole store. -/
def allScope : String := "all"

/-- The scope of the primary type. -/
def typeScope : String := "all_products"

/-- The scope of the prices, a name that facets cannot have. -/
def commonScope : String := "common"

def minPrice : String := "min_price"

def maxPrice : String := "max_price"

/-- The aggregation that counts a facet's keys. -/
def termsOf (settings : Settings) (facet : Facet) : Aggregation :=
  terms facet.name facet.fields settings.facetSize

/-- The aggregation that makes a facet's buckets. -/
def bucketsOf (settings : Settings) (facet : Facet) : Except SearchError Aggregation :=
  match facet.kind with
  | .range => do
    let buckets ← facet.subgroup.mapM RangeBucket.ofToken
    return range facet.name facet.field buckets
  | .nested => .ok (nested facet.name facet.relation [termsOf settings facet])
  | .field | .freeText => .ok (termsOf settings facet)

/-- The filter that a facet looks past: its own, if one value is enough and there are no levels. -/
def ownFilter? (facet : Facet) : Option String :=
  if facet.application.atLeastOne && !facet.application.levels then some facet.name else none

def facetScope (settings : Settings) (filters : List Filter) (facet : Facet) :
    Except SearchError Aggregation := do
  if facet.name = commonScope then throw (.reservedName commonScope)
  let scope ← Combination.ofFilters settings filters (ownFilter? facet) true
  let buckets ← bucketsOf settings facet
  return filter facet.name scope.clause [buckets]

/-- The scope of the prices. -/
def priceScope (settings : Settings) (filters : List Filter) : Except SearchError Aggregation := do
  let scope ← Combination.ofFilters settings filters none false
  return filter commonScope scope.clause
    [least minPrice settings.rankingField, greatest maxPrice settings.rankingField]

/-- The aggregation tree of a query. -/
def ofQuery (settings : Settings) (query : Query) : Except SearchError Aggregation := do
  let filters := query.filters.items
  let facets ← query.facets.items.mapM (facetScope settings filters)
  let prices ← priceScope settings filters
  let primary := Clause.term settings.typeField settings.primaryType
  return global allScope [filter typeScope primary (facets ++ [prices])]

end Aggregation

end FacetSearch
