import FacetSearch.Proofs.Buckets
import FacetSearch.Proofs.SelfExclusion
/-!
The filters of a query as a set.

A query lists its filters, and a filter may be inert: without values and without a forced term. Two
queries are rearranged (`Query.Rearranged`) if one becomes the other by changing the order of its
filters and by adding and removing inert ones. Then they have the same active filters
(`Query.SameActive`), and nothing else of the filters enters a search.

What is proved:
  1. `Filter.demand_of_isInert`: an inert filter compiles, and demands nothing in any scope.
  2. `Query.Rearranged.sameActive`: rearranging a query keeps its active filters.
  3. `SameActive.holds_eq`, `SameActive.agrees_scopes`: with the same active filters, every scope
     admits the same documents, and so is evaluated to the same.
  4. `SameActive.search_eq`: a store gives the same response to both queries.
  5. `Engine.search_rearranged`: both queries compile or neither does, and they are answered alike.
-/

namespace FacetSearch

/-! ## Inert filters -/

/-- The filter selects no value and demands no term. -/
def Filter.isInert (filter : Filter) : Bool := filter.values.isEmpty && filter.forced.isNone

theorem Filter.demand_of_isInert {filter : Filter} (inert : filter.isInert = true)
    (settings : Settings) (ignored : Option String) (withForced : Bool) :
    filter.demand settings ignored withForced = .ok {} := by
  obtain ⟨values, forced⟩ : filter.values = [] ∧ filter.forced = none := by
    simpa [isInert] using inert
  unfold demand
  by_cases text : filter.kind = .freeText
  · simp [text, freeTextClause?, values, pure, Except.pure]
  · -- Without values it is suppressed, whichever filter is ignored.
    have suppressed : filter.isSuppressed ignored = true := by
      simp [isSuppressed, isActive, values]
    have part : ∃ part, filter.fieldClause true withForced = .ok part ∧ part.isEmpty = true := by
      refine ⟨_, fieldClause_eq_ok_iff.mpr ⟨[], [], rfl, ?_, rfl⟩, ?_⟩
      · cases withForced <;> simp [forcedClauses, forced]
      · cases filter.application.mustAll <;> rfl
    obtain ⟨part, made, empty⟩ := part
    rw [if_neg text, suppressed]
    refine bind_eq_ok_iff.mpr ⟨part, made, ?_⟩
    rw [if_pos empty]
    rfl

namespace Query

/-! ## Rearranged queries -/

/-- One query becomes the other by changing the order of its filters and by adding and removing
inert ones; names stay distinct in a query, so what is added has a name of its own. -/
inductive Rearranged : Query → Query → Prop
  | permute (query : Query) {filters : KeyedList Filter Filter.name}
      (order : query.filters.items.Perm filters.items) :
      Rearranged query { query with filters }
  | insert (query : Query) {filters : KeyedList Filter Filter.name} {filter : Filter}
      {before after : List Filter} (inert : filter.isInert = true)
      (without : query.filters.items = before ++ after)
      (within : filters.items = before ++ filter :: after) :
      Rearranged query { query with filters }
  | symm {query query' : Query} : Rearranged query query' → Rearranged query' query
  | trans {query query' query'' : Query} :
      Rearranged query query' → Rearranged query' query'' → Rearranged query query''

/-- The queries have the same filters apart from inert ones, and everything else is the same. -/
structure SameActive (query query' : Query) : Prop where
  active : ∀ filter : Filter, filter.isInert = false →
    (filter ∈ query.filters.items ↔ filter ∈ query'.filters.items)
  facets : query.facets = query'.facets
  sort : query.sort = query'.sort
  offset : query.offset = query'.offset
  size : query.size = query'.size

theorem SameActive.symm {query query' : Query} (same : query.SameActive query') :
    query'.SameActive query where
  active filter busy := (same.active filter busy).symm
  facets := same.facets.symm
  sort := same.sort.symm
  offset := same.offset.symm
  size := same.size.symm

theorem SameActive.trans {query query' query'' : Query} (first : query.SameActive query')
    (second : query'.SameActive query'') : query.SameActive query'' where
  active filter busy := (first.active filter busy).trans (second.active filter busy)
  facets := first.facets.trans second.facets
  sort := first.sort.trans second.sort
  offset := first.offset.trans second.offset
  size := first.size.trans second.size

theorem Rearranged.sameActive {query query' : Query} (rearranged : query.Rearranged query') :
    query.SameActive query' := by
  induction rearranged with
  | permute query order => exact ⟨fun _ _ => order.mem_iff, rfl, rfl, rfl, rfl⟩
  | @insert query filters inserted before after inert without within =>
    refine ⟨fun filter busy => ?_, rfl, rfl, rfl, rfl⟩
    have other : filter ≠ inserted := by
      rintro rfl
      rw [inert] at busy
      cases busy
    simp [without, within, other]
  | symm _ ih => exact ih.symm
  | trans _ _ first second => exact first.trans second

end Query

/-! ## Equal evaluations -/

namespace Aggregation

/-- The trees have one name, and are evaluated to the same over any documents. -/
structure Agrees (tree tree' : Aggregation) : Prop where
  name : tree.name = tree'.name
  evaluate : ∀ documents, evaluate documents tree = evaluate documents tree'

theorem Agrees.refl (tree : Aggregation) : tree.Agrees tree := ⟨rfl, fun _ => rfl⟩

theorem evaluateAll_congr {trees trees' : List Aggregation}
    (agree : List.Forall₂ Agrees trees trees') (documents : List Json)
    (members : List (String × Json)) :
    evaluateAll documents members trees = evaluateAll documents members trees' := by
  induction agree generalizing members with
  | nil => rfl
  | cons first _ ih =>
    unfold evaluateAll
    rw [first.name, first.evaluate, ih]

theorem Agrees.global (name : String) {children children' : List Aggregation}
    (agree : List.Forall₂ Agrees children children') :
    Agrees (.global name children) (.global name children') where
  name := rfl
  evaluate documents := by simp only [Aggregation.evaluate, evaluateAll_congr agree]

theorem Agrees.filter (name : String) {clause clause' : Clause}
    (same : clause.holds = clause'.holds) {children children' : List Aggregation}
    (agree : List.Forall₂ Agrees children children') :
    Agrees (.filter name clause children) (.filter name clause' children') where
  name := rfl
  evaluate documents := by simp only [Aggregation.evaluate, same, evaluateAll_congr agree]

theorem Agrees.narrowed (name : String) {clause clause' : Clause}
    (same : clause.holds = clause'.holds) (children : List Aggregation) :
    Agrees (.filter name clause children) (.filter name clause' children) :=
  .filter name same (List.forall₂_same.mpr fun child _ => .refl child)

theorem Agrees.treeOver (settings : Settings) {found found' : Combination}
    (same : found.clause.holds = found'.clause.holds) {scopes scopes' : List Aggregation}
    (agree : List.Forall₂ Agrees scopes scopes') :
    Agrees (treeOver settings found scopes) (treeOver settings found' scopes') := by
  have prices : (pricesOf settings found).Agrees (pricesOf settings found') :=
    .narrowed commonScope same _
  have children := List.rel_append agree (.cons prices .nil)
  exact .global allScope (.cons (.filter typeScope rfl children) .nil)

end Aggregation

namespace Query.SameActive

variable {settings : Settings} {query query' : Query}

/-! ## Equal scopes -/

/-- What holds for every inert filter holds for the filters of both queries or of neither. -/
theorem forall_iff (same : query.SameActive query') {p : Filter → Prop}
    (inert : ∀ filter : Filter, filter.isInert = true → p filter) :
    (∀ filter ∈ query.filters.items, p filter) ↔ ∀ filter ∈ query'.filters.items, p filter := by
  have carry : ∀ {query query' : Query}, query.SameActive query' →
      (∀ filter ∈ query.filters.items, p filter) → ∀ filter ∈ query'.filters.items, p filter := by
    intro query query' same all filter hfilter
    cases busy : filter.isInert with
    | true => exact inert filter busy
    | false => exact all filter ((same.active filter busy).mpr hfilter)
  exact ⟨carry same, carry same.symm⟩

theorem exists_ofFilters_iff (same : query.SameActive query') {ignored : Option String}
    {withForced : Bool} :
    (∃ c, Combination.ofFilters settings query.filters.items ignored withForced = .ok c) ↔
      ∃ c, Combination.ofFilters settings query'.filters.items ignored withForced = .ok c := by
  rw [Combination.exists_ofFilters_iff, Combination.exists_ofFilters_iff]
  exact same.forall_iff fun filter inert => ⟨_, Filter.demand_of_isInert inert settings _ _⟩

theorem holds_eq (same : query.SameActive query') {ignored : Option String}
    {withForced : Bool} {scope scope' : Combination}
    (h : Combination.ofFilters settings query.filters.items ignored withForced = .ok scope)
    (h' : Combination.ofFilters settings query'.filters.items ignored withForced = .ok scope') :
    scope.clause.holds = scope'.clause.holds := by
  funext document
  rw [Bool.eq_iff_iff, Combination.holds_ofFilters h, Combination.holds_ofFilters h']
  refine same.forall_iff fun filter inert => ?_
  -- An inert filter demands nothing, so it accepts every document.
  rw [← Filter.holds_demand (Filter.demand_of_isInert inert settings ignored withForced)]
  simp

theorem agrees_facetScope (same : query.SameActive query') {facet : Facet}
    {tree tree' : Aggregation}
    (h : Aggregation.facetScope settings query.filters.items facet = .ok tree)
    (h' : Aggregation.facetScope settings query'.filters.items facet = .ok tree') :
    tree.Agrees tree' := by
  obtain ⟨-, scope, buckets, hscope, hbuckets, rfl⟩ := Aggregation.facetScope_eq_ok_iff.mp h
  obtain ⟨-, scope', buckets', hscope', hbuckets', rfl⟩ := Aggregation.facetScope_eq_ok_iff.mp h'
  cases hbuckets.symm.trans hbuckets'
  exact .narrowed facet.name (same.holds_eq hscope hscope') [buckets]

theorem exists_facetScope (same : query.SameActive query') {facet : Facet} {tree : Aggregation}
    (h : Aggregation.facetScope settings query.filters.items facet = .ok tree) :
    ∃ tree', Aggregation.facetScope settings query'.filters.items facet = .ok tree' := by
  obtain ⟨free, scope, buckets, hscope, hbuckets, -⟩ := Aggregation.facetScope_eq_ok_iff.mp h
  obtain ⟨scope', hscope'⟩ := same.exists_ofFilters_iff.mp ⟨scope, hscope⟩
  exact ⟨_, Aggregation.facetScope_eq_ok_iff.mpr ⟨free, scope', buckets, hscope', hbuckets, rfl⟩⟩

theorem agrees_scopes (same : query.SameActive query') {scopes scopes' : List Aggregation}
    (h : query.HasScopes settings scopes) (h' : query'.HasScopes settings scopes') :
    List.Forall₂ Aggregation.Agrees scopes scopes' := by
  -- Both queries have the same facets; the induction is on these with the scope that each has.
  unfold HasScopes at h h'
  rw [← same.facets] at h'
  generalize query.facets.items = facets at h h'
  induction h generalizing scopes' with
  | nil =>
    cases h'
    exact .nil
  | cons first _ ih =>
    cases h' with
    | cons first' rest' => exact .cons (same.agrees_facetScope first first') (ih rest')

/-! ## Equal requests -/

theorem exists_request (same : query.SameActive query') {request : Request}
    (h : Request.ofQuery settings query = .ok request) :
    ∃ request', Request.ofQuery settings query' = .ok request' := by
  obtain ⟨hfound, -, -, -, facets, hfacets, -⟩ := Request.ofQuery_eq_ok_iff.mp h
  obtain ⟨found', hfound'⟩ := same.exists_ofFilters_iff.mp ⟨_, hfound⟩
  obtain ⟨scopes, hscopes⟩ : ∃ scopes, query'.HasScopes settings scopes := by
    unfold HasScopes
    rw [← same.facets]
    apply exists_results
    intro facet hfacet
    obtain ⟨tree, -, compiled⟩ := exists_result_of_mem hfacets hfacet
    exact same.exists_facetScope compiled
  let tree := Aggregation.treeOver settings found' scopes
  exact ⟨⟨found', query'.sort, tree, query'.offset, query'.size⟩,
    Request.ofQuery_eq_ok_iff.mpr ⟨hfound', rfl, rfl, rfl, scopes, hscopes, rfl⟩⟩

theorem search_eq (same : query.SameActive query') (store : Store) {request request' : Request}
    (h : Request.ofQuery settings query = .ok request)
    (h' : Request.ofQuery settings query' = .ok request') (offset size : Nat) :
    store.search request offset size = store.search request' offset size := by
  obtain ⟨hfound, hsort, -, -, facets, hfacets, htree⟩ := Request.ofQuery_eq_ok_iff.mp h
  obtain ⟨hfound', hsort', -, -, facets', hfacets', htree'⟩ := Request.ofQuery_eq_ok_iff.mp h'
  have holds := same.holds_eq hfound hfound'
  have matching : store.matching request.query.clause = store.matching request'.query.clause := by
    unfold Store.matching
    rw [holds]
  have sort : request.sort = request'.sort := by rw [hsort, hsort', same.sort]
  have tree : request.aggregations.Agrees request'.aggregations := by
    rw [htree, htree']
    exact .treeOver settings holds (same.agrees_scopes hfacets hfacets')
  simp only [Store.search, matching, sort, tree.name, tree.evaluate]

end Query.SameActive

/-! ## Equal results -/

namespace Response

theorem appliedTo_of_mem {query : Query} {facet : Facet} {filter : Filter}
    (h : filter ∈ query.filters.items) (named : filter.name = facet.name) :
    appliedTo query facet = filter.values := by
  unfold appliedTo
  rw [← named, KeyedList.get?_of_mem h]
  rfl

theorem exists_of_appliedTo_ne {query : Query} {facet : Facet} (h : appliedTo query facet ≠ []) :
    ∃ filter ∈ query.filters.items, filter.name = facet.name ∧
      filter.values = appliedTo query facet := by
  unfold appliedTo at h ⊢
  cases found : query.filters.get? facet.name with
  | none =>
    rw [found] at h
    exact absurd rfl h
  | some filter =>
    exact ⟨filter, List.mem_of_find?_eq_some found, by simpa using List.find?_some found, rfl⟩

/-- Values that one query selects for a facet come from an active filter, so the other query selects
them too. -/
theorem appliedTo_of_sameActive {query query' : Query} (same : query.SameActive query')
    (facet : Facet) : appliedTo query facet = appliedTo query' facet := by
  have carry : ∀ {query query' : Query}, query.SameActive query' → appliedTo query facet ≠ [] →
      appliedTo query facet = appliedTo query' facet := by
    intro query query' same some
    obtain ⟨filter, hfilter, named, values⟩ := exists_of_appliedTo_ne some
    have busy : filter.isInert = false := by
      have selected : filter.values ≠ [] := values ▸ some
      simp [Filter.isInert, selected]
    rw [appliedTo_of_mem ((same.active filter busy).mp hfilter) named, values]
  by_cases none : appliedTo query facet = []
  · by_cases none' : appliedTo query' facet = []
    · rw [none, none']
    · exact (carry same.symm none').symm
  · exact carry same none

theorem facetResult_congr {query query' : Query} {facet : Facet}
    (same : appliedTo query facet = appliedTo query' facet) (scope : Json) :
    facetResult query facet scope = facetResult query' facet scope := by
  unfold appliedTo at same
  unfold facetResult
  rw [same]

theorem facetResults_of_sameActive {query query' : Query} (same : query.SameActive query') :
    facetResults query = facetResults query' := by
  funext typeScope
  have added : addResult query typeScope = addResult query' typeScope := by
    funext results facet
    unfold addResult
    simp only [facetResult_congr (appliedTo_of_sameActive same _)]
  rw [facetResults, facetResults, same.facets, added]

end Response

theorem SearchResult.ofResponse_of_sameActive {query query' : Query}
    (same : query.SameActive query') : ofResponse query = ofResponse query' := by
  funext response
  unfold ofResponse
  rw [Response.facetResults_of_sameActive same]

/-- The order of its filters and inert filters among them change neither whether a query compiles
nor, if it does, the result of a search and the accounts that are kept of it. -/
theorem Engine.search_rearranged (engine : Engine) (store : Store) (timing : Timing)
    {query query' : Query} (rearranged : query.Rearranged query') :
    ((∃ request, Request.ofQuery engine.settings query = .ok request) ↔
      ∃ request', Request.ofQuery engine.settings query' = .ok request') ∧
    ∀ request, Request.ofQuery engine.settings query = .ok request →
      ∃ result engine',
        (engine.search (Backend.ofStore store) timing query).value = (.ok result, engine') ∧
        engine.search (Backend.ofStore store) timing query' =
          engine.search (Backend.ofStore store) timing query := by
  have same := rearranged.sameActive
  refine ⟨⟨?_, ?_⟩, ?_⟩
  · intro h
    obtain ⟨request, h⟩ := h
    exact same.exists_request h
  · intro h'
    obtain ⟨request', h'⟩ := h'
    exact same.symm.exists_request h'
  · intro request h
    obtain ⟨request', h'⟩ := same.exists_request h
    obtain ⟨facets, result, -, answered, -⟩ := search_ofStore engine store timing h
    -- The response is the same, and reading it sees no more of the filters than a facet's own values.
    have outcome : answer (Backend.ofStore store) query request =
        answer (Backend.ofStore store) query' request' := by
      unfold answer Backend.ofStore
      rw [same.search_eq store h h', same.offset, same.size,
        SearchResult.ofResponse_of_sameActive same]
    have kinds : kindOf query = kindOf query' := by
      unfold kindOf
      rw [same.facets]
    have alike : engine.search (Backend.ofStore store) timing query' =
        engine.search (Backend.ofStore store) timing query := by
      simp only [search, compile, h, h', outcome, account, kinds]
    exact ⟨result, _, Prod.ext answered rfl, alike⟩

set_option maxRecDepth 3000 in
/-- A filter of the facet's own name, without values, may be left out. -/
theorem Engine.search_rearranged_color :
    (Query.matchAll.facetBy colorFacet).Rearranged (colorQuery []) ∧
    ∃ request result engine',
      Request.ofQuery {} (Query.matchAll.facetBy colorFacet) = .ok request ∧
      Engine.search {} (Backend.ofStore colorStore) {} (Query.matchAll.facetBy colorFacet) =
        pure (.ok result, engine') ∧
      Engine.search {} (Backend.ofStore colorStore) {} (colorQuery []) =
        pure (.ok result, engine') := by
  have without : (Query.matchAll.facetBy colorFacet).filters.items = [] ++ [] := rfl
  have rearranged : (Query.matchAll.facetBy colorFacet).Rearranged (colorQuery []) :=
    .insert _ (by decide) without rfl
  have compiled : ∃ request, Request.ofQuery {} (Query.matchAll.facetBy colorFacet) =
      .ok request := ⟨_, rfl⟩
  obtain ⟨request, h⟩ := compiled
  obtain ⟨-, alike⟩ := Engine.search_rearranged {} colorStore {} rearranged
  obtain ⟨result, engine', answered, same⟩ := alike request h
  have returned : Engine.search {} (Backend.ofStore colorStore) {}
      (Query.matchAll.facetBy colorFacet) = pure (.ok result, engine') :=
    Checked.eq_pure_iff.mpr ⟨rfl, answered⟩
  exact ⟨rearranged, request, result, engine', h, returned, same.trans returned⟩

end FacetSearch
