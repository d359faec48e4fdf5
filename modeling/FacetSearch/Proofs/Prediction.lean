import FacetSearch.Proofs.SelfExclusion
import FacetSearch.Proofs.Tally
/-!
A count foretells the search that it offers.

A facet of which one value is enough shows, beside each value, how many documents a search finds in
which that value alone is selected: `Query.selecting` is the query of that search.

What is proved:
  1. `Query.exists_selecting`: the query that a counter offers compiles if the facet's query does.
  2. `Combination.holds_selecting`: it finds the documents of the facet's scope that have the value.
  3. `Engine.search_predicts`: every counter of the facet has the number of documents of the primary
     type that the search it offers finds.
-/

namespace FacetSearch

/-- The filter that selects one value of a facet. -/
def Facet.selecting (facet : Facet) (application : ApplicationType) (value : String) : Filter where
  name := facet.name
  field := facet.field
  values := [value]
  application := application

/-- The query with one value of a facet selected, in the place of the facet's own filter. -/
def Query.selecting (query : Query) (facet : Facet) (application : ApplicationType)
    (value : String) : Query :=
  query.filterBy (facet.selecting application value)

section Selecting

variable {settings : Settings} {query : Query} {facet : Facet} {application : ApplicationType}
  {value : String}

/-! ## The query that a counter offers -/

theorem Facet.demand_selecting (ignored : Option String) (withForced : Bool) :
    ∃ part, (facet.selecting application value).demand settings ignored withForced = .ok part := by
  have fielded : (facet.selecting application value).kind ≠ .freeText := by
    intro text
    cases text
  have made : ∃ part, (facet.selecting application value).fieldClause
      ((facet.selecting application value).isSuppressed ignored) withForced = .ok part := by
    unfold Filter.fieldClause
    cases (facet.selecting application value).isSuppressed ignored <;> cases withForced <;>
      exact ⟨_, rfl⟩
  obtain ⟨part, hpart⟩ := made
  unfold Filter.demand
  rw [if_neg fielded]
  exact ⟨_, bind_eq_ok_iff.mpr ⟨part, hpart, rfl⟩⟩

theorem Query.exists_ofFilters_selecting {ignored : Option String} {withForced : Bool}
    (h : ∃ c, Combination.ofFilters settings query.filters.items ignored withForced = .ok c) :
    ∃ c, Combination.ofFilters settings
      (query.selecting facet application value).filters.items ignored withForced = .ok c := by
  rw [Combination.exists_ofFilters_iff] at h ⊢
  intro filter hfilter
  rcases KeyedList.mem_put_iff.mp hfilter with rfl | ⟨old, -⟩
  · exact Facet.demand_selecting ignored withForced
  · exact h filter old

/-- Selecting a value leaves a query that compiles one that compiles. -/
theorem Query.exists_selecting {request : Request}
    (h : Request.ofQuery settings query = .ok request) :
    ∃ request', Request.ofQuery settings (query.selecting facet application value) =
      .ok request' := by
  obtain ⟨hfound, -, -, -, facets, hfacets, -⟩ := Request.ofQuery_eq_ok_iff.mp h
  obtain ⟨found, hfound⟩ : ∃ c, Combination.ofFilters settings
      (query.selecting facet application value).filters.items none false = .ok c :=
    exists_ofFilters_selecting ⟨_, hfound⟩
  obtain ⟨scopes, hscopes⟩ : ∃ scopes,
      (query.selecting facet application value).HasScopes settings scopes := by
    -- The scopes of other facets also see the new filter, which never fails to compile.
    apply exists_results
    intro other hother
    obtain ⟨tree, -, compiled⟩ := exists_result_of_mem hfacets hother
    obtain ⟨free, scope, buckets, hscope, hbuckets, -⟩ :=
      Aggregation.facetScope_eq_ok_iff.mp compiled
    obtain ⟨narrowed, hnarrowed⟩ : ∃ c, Combination.ofFilters settings
        (query.selecting facet application value).filters.items (Aggregation.ownFilter? other)
        true = .ok c := exists_ofFilters_selecting ⟨_, hscope⟩
    exact ⟨_, Aggregation.facetScope_eq_ok_iff.mpr
      ⟨free, narrowed, buckets, hnarrowed, hbuckets, rfl⟩⟩
  let tree := Aggregation.treeOver settings found scopes
  refine ⟨⟨found, query.sort, tree, query.offset, query.size⟩, ?_⟩
  exact Request.ofQuery_eq_ok_iff.mpr ⟨hfound, rfl, rfl, rfl, scopes, hscopes, rfl⟩

/-! ## What it finds -/

theorem Filter.accepts_of_unforced {within : Range → Binary64 → Bool} {filter : Filter}
    (unforced : filter.forced = none) (ignored : Option String) (withForced : Bool)
    (document : Json) :
    filter.Accepts within settings ignored withForced document ↔
      ignored = some filter.name ∨ filter.Accepts within settings none false document := by
  unfold Accepts
  by_cases text : filter.kind = .freeText
  · simp [text]
  · simp [text, unforced]

theorem Facet.accepts_selecting {within : Range → Binary64 → Bool} {document : Json} :
    (facet.selecting application value).Accepts within settings none false document ↔
      value ∈ document.terms facet.field := by
  simp [Filter.Accepts, selecting, Filter.SelectionHolds, Filter.isVoid, Filter.ValueHolds]

/-- With one value of a facet selected, a query finds the documents with that value among those
that the facet's own scope admits. -/
theorem Combination.holds_selecting {scope found : Combination}
    (unforced : ∀ filter ∈ query.filters.items, filter.forced = none)
    (hscope : ofFilters settings query.filters.items (some facet.name) true = .ok scope)
    (hfound : ofFilters settings (query.selecting facet application value).filters.items
      none false = .ok found)
    (document : Json) :
    found.clause.holds document = true ↔
      scope.clause.holds document = true ∧ value ∈ document.terms facet.field := by
  rw [holds_ofFilters hfound, holds_ofFilters hscope]
  constructor
  · intro all
    refine ⟨?_, ?_⟩
    · intro filter hfilter
      rw [Filter.accepts_of_unforced (unforced filter hfilter)]
      by_cases own : filter.name = facet.name
      · exact .inl (by rw [own])
      · exact .inr (all filter (KeyedList.mem_put_iff.mpr (.inr ⟨hfilter, own⟩)))
    · have selected := all _ (KeyedList.mem_put_iff.mpr (.inl rfl))
      exact Facet.accepts_selecting.mp selected
  · intro h filter hfilter
    obtain ⟨all, has⟩ := h
    rcases KeyedList.mem_put_iff.mp hfilter with rfl | ⟨old, other⟩
    · exact Facet.accepts_selecting.mpr has
    · have accepted := all filter old
      rw [Filter.accepts_of_unforced (unforced filter old)] at accepted
      rcases accepted with own | accepted
      · exact absurd (Option.some.inj own).symm other
      · exact accepted

end Selecting

/-! ## The search that a counter offers -/

/-- Every counter of a facet of which one value is enough has the number of documents of the primary
type that the query finds once the counter's key alone is selected, if no filter demands a term. -/
theorem Engine.search_predicts (engine : Engine) (store : Store) (timing : Timing)
    {query : Query} {request : Request} {facet : Facet}
    (h : Request.ofQuery engine.settings query = .ok request)
    (unforced : ∀ filter ∈ query.filters.items, filter.forced = none)
    (hfacet : facet ∈ query.facets.items)
    (kind : facet.kind = .field) (single : Facet.fieldMark ∉ facet.field.toList)
    (several : facet.application.atLeastOne = true)
    (flat : facet.application.levels = false) (application : ApplicationType) :
    ∃ result counted,
      (engine.search (Backend.ofStore store) timing query).value.1 = .ok result ∧
      result.facets.get? facet.name = some counted ∧
      ∀ counter ∈ counted.counters, ∃ request',
        Request.ofQuery engine.settings (query.selecting facet application counter.key) =
          .ok request' ∧
        counter.count = store.documents.countP fun document =>
          document.isPrimary engine.settings &&
            request'.query.clause.holds document.fields := by
  have own : Aggregation.ownFilter? facet = some facet.name := by
    simp [Aggregation.ownFilter?, several, flat]
  obtain ⟨result, scope, buckets, answered, hscope, hbuckets, found⟩ :=
    search_facet engine store timing h hfacet
  rw [own] at hscope
  have counting : buckets = Aggregation.termsOf engine.settings facet := by
    simp only [Aggregation.bucketsOf, kind, Except.ok.injEq] at hbuckets
    exact hbuckets.symm
  subst counting
  refine ⟨result, _, answered, found, ?_⟩
  intro counter hcounter
  obtain ⟨request', h'⟩ := Query.exists_selecting h
  refine ⟨request', h', ?_⟩
  obtain ⟨hfound, -⟩ := Request.ofQuery_eq_ok_iff.mp h'
  rw [Response.count_of_counter flat single hcounter, Store.countP_primary]
  -- Both numbers count stored documents, so it is enough to compare the conditions on one.
  apply List.countP_congr
  intro document _
  have finds := Combination.holds_selecting unforced hscope hfound document.fields
  simp only [Bool.and_eq_true, decide_eq_true_eq]
  rw [finds]

set_option maxRecDepth 3000 in
theorem Engine.search_predicts_color :
    ∃ result counted,
      (Engine.search {} (Backend.ofStore colorStore) {} (colorQuery ["red"])).value.1 = .ok result ∧
      result.facets.get? "color" = some counted ∧
      ∀ counter ∈ counted.counters, ∃ request',
        Request.ofQuery {} ((colorQuery ["red"]).selecting colorFacet .onlyMustAll counter.key) =
          .ok request' ∧
        counter.count = colorStore.documents.countP fun document =>
          document.isPrimary {} && request'.query.clause.holds document.fields := by
  have compiled : ∃ request, Request.ofQuery {} (colorQuery ["red"]) = .ok request := ⟨_, rfl⟩
  obtain ⟨request, h⟩ := compiled
  have unforced : ∀ filter ∈ (colorQuery ["red"]).filters.items, filter.forced = none := by
    intro filter hfilter
    rw [List.mem_singleton.mp hfilter]
  have asked : colorFacet ∈ (colorQuery ["red"]).facets.items := List.mem_singleton.mpr rfl
  exact Engine.search_predicts {} colorStore {} h unforced asked rfl (by decide) rfl rfl _

end FacetSearch
