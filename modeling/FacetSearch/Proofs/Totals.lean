import FacetSearch.Proofs.Scopes
/-!
The totals of a search.

What is proved:
  1. `Aggregation.documentCount_typeView`: the count of the type scope is the number of its
     documents, unless a facet has the name of the count's member and takes its place.
  2. `Engine.totals_of_search`: the totals of a search of a store do not depend on the facets,
     except on a facet of that one name.
-/

namespace FacetSearch

namespace Aggregation

/-- A facet that is named as the count of its scope leaves the scope without a count. -/
theorem documentCount_typeView (store : Store) {settings : Settings} {query : Query}
    {facets : List Aggregation} (found : Combination) (h : query.HasScopes settings facets) :
    Response.documentCount (typeView store settings (facets ++ [pricesOf settings found])) =
      if "doc_count" ∈ query.facets.keys then 0 else (store.primary settings).length := by
  obtain ⟨children, others⟩ := get?_typeView store settings (nodup_scopes found h)
  by_cases shadowed : "doc_count" ∈ query.facets.keys
  · -- The facet's scope is an object, which is no count.
    rw [if_pos shadowed]
    obtain ⟨facet, hfacet, named⟩ := List.mem_map.mp shadowed
    obtain ⟨tree, htree, compiled⟩ := exists_result_of_mem h hfacet
    obtain ⟨-, scope, buckets, -, -, rfl⟩ := facetScope_eq_ok_iff.mp compiled
    have replaced := children _ (List.mem_append_left _ htree)
    rw [show (filter facet.name scope.clause [buckets]).name = "doc_count" from named]
      at replaced
    unfold Response.documentCount
    rw [replaced]
    rfl
  · rw [if_neg shadowed]
    apply Response.documentCount_eq
    have absent : "doc_count" ∉ (facets ++ [pricesOf settings found]).map name := by
      rw [List.map_append, (names_of_facetScopes h).1, List.mem_append, not_or]
      refine ⟨shadowed, ?_⟩
      simp [pricesOf, name, commonScope]
    rw [others "doc_count" absent]
    rfl

end Aggregation

/-- A query that compiles is answered with the number of documents, of documents of the primary
type and of matching documents. Only a facet named as the count of a scope changes one of these:
the number of documents of the primary type is then reported as zero. -/
theorem Engine.totals_of_search (engine : Engine) (store : Store) (timing : Timing)
    {query : Query} {request : Request}
    (h : Request.ofQuery engine.settings query = .ok request) :
    ∃ result, (engine.search (Backend.ofStore store) timing query).value.1 = .ok result ∧
      result.totalElements = store.size ∧
      result.totalHits = (store.matching request.query.clause).length ∧
      result.facets.totalElements = result.totalItems ∧
      result.totalItems =
        (if "doc_count" ∈ query.facets.keys then 0
          else store.documents.countP (Document.isPrimary engine.settings)) ∧
      (result.totalItems = store.documents.countP (Document.isPrimary engine.settings) ↔
        "doc_count" ∉ query.facets.keys ∨
          ∀ document ∈ store.documents, document.isPrimary engine.settings = false) := by
  obtain ⟨facets, result, hfacets, answered, overview⟩ := search_ofStore engine store timing h
  have counted : (store.primary engine.settings).length =
      store.documents.countP (Document.isPrimary engine.settings) := by
    rw [Store.primary, List.length_map, List.countP_eq_length_filter]
  have items : result.totalItems = if "doc_count" ∈ query.facets.keys then 0
      else store.documents.countP (Document.isPrimary engine.settings) := by
    rw [← counted, ← Aggregation.documentCount_typeView store request.query hfacets]
    exact congrArg SearchResult.totalItems overview
  refine ⟨result, answered, congrArg SearchResult.totalElements overview,
    congrArg SearchResult.totalHits overview, ?_, items, ?_⟩
  · let found := store.overview engine.settings query request.query facets
    calc result.facets.totalElements
      _ = found.facets.totalElements := congrArg (fun r => r.facets.totalElements) overview
      _ = found.totalItems := Response.totalElements_facetResults query _
      _ = result.totalItems := (congrArg SearchResult.totalItems overview).symm
  · rw [items]
    by_cases shadowed : "doc_count" ∈ query.facets.keys
    · rw [if_pos shadowed]
      simp only [shadowed, not_true_eq_false, false_or]
      rw [eq_comm, List.countP_eq_zero]
      simp only [Bool.not_eq_true]
    · rw [if_neg shadowed]
      simp [shadowed]

def plainProduct : Document where
  id := "p1"
  type := "product"

/-- A query with a facet for colours that has the name of a count. -/
def shadowingQuery : Query :=
  Query.matchAll.facetBy
    { name := "doc_count", field := "color", application := .onlyAtLeastOne }

set_option maxRecDepth 3000 in
theorem Engine.totals_of_search_shadowing :
    ∃ request, Request.ofQuery {} shadowingQuery = .ok request ∧
      ∃ result, (Engine.search {} (Backend.ofStore ⟨[plainProduct]⟩) {} shadowingQuery).value.1 =
        .ok result ∧ result.totalElements = 1 ∧ result.totalItems = 0 := by
  have compiled : ∃ request, Request.ofQuery {} shadowingQuery = .ok request := ⟨_, rfl⟩
  obtain ⟨request, h⟩ := compiled
  obtain ⟨result, answered, elements, -, -, items, -⟩ :=
    Engine.totals_of_search {} ⟨[plainProduct]⟩ {} h
  exact ⟨request, h, result, answered, elements, items⟩

set_option maxRecDepth 3000 in
/-- A store with one product is reported to have none. -/
theorem Engine.no_items_of_shadowed_count :
    ∃ result, (Engine.search {} (Backend.ofStore ⟨[plainProduct]⟩) {} shadowingQuery).value.1 =
        .ok result ∧ result.totalItems = 0 ∧ result.facets.totalElements = 0 ∧
      [plainProduct].countP (Document.isPrimary {}) = 1 :=
  ⟨_, rfl, by decide +kernel, by decide +kernel, by decide +kernel⟩

end FacetSearch
