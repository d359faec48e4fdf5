import FacetSearch.Engine
import FacetSearch.Proofs.Lookup
import FacetSearch.Proofs.Outcome
/-!
The scopes of a compiled query, and what is read of them after a search of a store.

What is proved:
  1. `Request.ofQuery_eq_ok_iff`: a query compiles if its filters do and every facet has a scope;
     the aggregation tree holds those scopes and that of the prices.
  2. `Engine.search_ofStore`: a query that compiles is answered, and the answer is read off the
     evaluated scope of the primary type.
  3. `Engine.search_facet`: every facet of the query has a result, read off its own scope.
  4. `Engine.overflows_search`: a search of a store stops only where its facets are read.
-/

namespace FacetSearch

/-- The document has the primary type, so that facets count it. -/
def Document.isPrimary (settings : Settings) (document : Document) : Bool :=
  decide (settings.primaryType ∈ document.fields.terms settings.typeField)

/-- What queries see of the documents that facets count. -/
def Store.primary (store : Store) (settings : Settings) : List Json :=
  (store.documents.filter (Document.isPrimary settings)).map Document.fields

/-- The trees are the scopes of the query's facets, in their order. -/
def Query.HasScopes (settings : Settings) (query : Query) (scopes : List Aggregation) : Prop :=
  List.Forall₂ (fun facet scope =>
    Aggregation.facetScope settings query.filters.items facet = .ok scope)
    query.facets.items scopes

theorem Store.primary_eq (store : Store) (settings : Settings) :
    (store.documents.map Document.fields).filter
      (Clause.term settings.typeField settings.primaryType).holds = store.primary settings := by
  rw [List.filter_map]
  congr 1
  apply List.filter_congr
  intro document _
  simp [Clause.holds, Document.isPrimary, List.contains_eq_mem]

namespace Aggregation

/-! ## Compiled scopes -/

/-- The scope of the prices of what a query finds. -/
def pricesOf (settings : Settings) (found : Combination) : Aggregation :=
  filter commonScope found.clause
    [least minPrice settings.rankingField, greatest maxPrice settings.rankingField]

/-- The tree over the scopes of the facets. -/
def treeOver (settings : Settings) (found : Combination) (facets : List Aggregation) :
    Aggregation :=
  global allScope
    [filter typeScope (.term settings.typeField settings.primaryType)
      (facets ++ [pricesOf settings found])]

/-- What makes the buckets of a facet: the ranges of its tokens, or its keys, counted among the
documents or inside its relation. -/
theorem bucketsOf_cases {settings : Settings} {facet : Facet} {buckets : Aggregation}
    (h : bucketsOf settings facet = .ok buckets) :
    (∃ ranges, List.Forall₂ (fun token bucket => RangeBucket.ofToken token = .ok bucket)
      facet.subgroup ranges ∧ facet.kind = .range ∧
        buckets = range facet.name facet.field ranges) ∨
    (facet.kind = .nested ∧
      buckets = nested facet.name facet.relation [termsOf settings facet]) ∨
    (facet.kind ≠ .nested ∧ buckets = termsOf settings facet) := by
  unfold bucketsOf at h
  cases kind : facet.kind with
  | range =>
    rw [kind] at h
    obtain ⟨ranges, hranges, h⟩ := bind_eq_ok_iff.mp h
    exact .inl ⟨ranges, mapM_eq_ok_iff.mp hranges, rfl, (pure_eq_ok_iff.mp h).symm⟩
  | nested =>
    rw [kind] at h
    cases h
    exact .inr (.inl ⟨rfl, rfl⟩)
  | field =>
    rw [kind] at h
    cases h
    exact .inr (.inr ⟨by decide, rfl⟩)
  | freeText =>
    rw [kind] at h
    cases h
    exact .inr (.inr ⟨by decide, rfl⟩)

theorem bucketsOf_name {settings : Settings} {facet : Facet} {buckets : Aggregation}
    (h : bucketsOf settings facet = .ok buckets) : buckets.name = facet.name := by
  obtain ⟨ranges, -, -, rfl⟩ | ⟨-, rfl⟩ | ⟨-, rfl⟩ := bucketsOf_cases h <;> rfl

theorem bucketsOf_of_field {settings : Settings} {facet : Facet} (kind : facet.kind = .field) :
    bucketsOf settings facet = .ok (termsOf settings facet) := by
  rw [bucketsOf, kind]

theorem facetScope_eq_ok_iff {settings : Settings} {filters : List Filter} {facet : Facet}
    {tree : Aggregation} :
    facetScope settings filters facet = .ok tree ↔ facet.name ≠ commonScope ∧ ∃ scope buckets,
      Combination.ofFilters settings filters (ownFilter? facet) true = .ok scope ∧
      bucketsOf settings facet = .ok buckets ∧
      filter facet.name scope.clause [buckets] = tree := by
  unfold facetScope
  by_cases reserved : facet.name = commonScope
  · rw [if_pos reserved]
    constructor
    · intro h
      obtain ⟨_, h, -⟩ := bind_eq_ok_iff.mp h
      cases h
    · intro h
      exact absurd reserved h.1
  · rw [if_neg reserved]
    simp only [ne_eq, reserved, not_false_eq_true, true_and]
    constructor
    · intro h
      obtain ⟨scope, hscope, h⟩ := bind_eq_ok_iff.mp h
      obtain ⟨buckets, hbuckets, h⟩ := bind_eq_ok_iff.mp h
      exact ⟨scope, buckets, hscope, hbuckets, pure_eq_ok_iff.mp h⟩
    · intro h
      obtain ⟨scope, buckets, hscope, hbuckets, rfl⟩ := h
      exact bind_eq_ok_iff.mpr ⟨scope, hscope, bind_eq_ok_iff.mpr ⟨buckets, hbuckets, rfl⟩⟩

/-- Scopes have the names of their facets. -/
theorem names_of_facetScopes {settings : Settings} {filters : List Filter} {facets : List Facet}
    {trees : List Aggregation}
    (h : List.Forall₂ (fun facet tree => facetScope settings filters facet = .ok tree)
      facets trees) :
    trees.map name = facets.map Facet.name ∧ commonScope ∉ facets.map Facet.name := by
  induction h with
  | nil => simp
  | cons first _ ih =>
    obtain ⟨free, scope, buckets, -, -, rfl⟩ := facetScope_eq_ok_iff.mp first
    refine ⟨by simp [ih.1, name], ?_⟩
    rw [List.map_cons, List.mem_cons, not_or]
    exact ⟨Ne.symm free, ih.2⟩

theorem ofQuery_eq_ok_iff {settings : Settings} {query : Query} {tree : Aggregation} :
    ofQuery settings query = .ok tree ↔ ∃ facets found,
      query.HasScopes settings facets ∧
      Combination.ofFilters settings query.filters.items none false = .ok found ∧
      treeOver settings found facets = tree := by
  unfold ofQuery priceScope
  constructor
  · intro h
    obtain ⟨facets, hfacets, h⟩ := bind_eq_ok_iff.mp h
    obtain ⟨prices, hprices, h⟩ := bind_eq_ok_iff.mp h
    obtain ⟨found, hfound, hprices⟩ := bind_eq_ok_iff.mp hprices
    rw [← pure_eq_ok_iff.mp hprices] at h
    exact ⟨facets, found, mapM_eq_ok_iff.mp hfacets, hfound, pure_eq_ok_iff.mp h⟩
  · intro h
    obtain ⟨facets, found, hfacets, hfound, rfl⟩ := h
    refine bind_eq_ok_iff.mpr ⟨facets, mapM_eq_ok_iff.mpr hfacets, ?_⟩
    exact bind_eq_ok_iff.mpr ⟨_, bind_eq_ok_iff.mpr ⟨found, hfound, rfl⟩, rfl⟩

end Aggregation

theorem Request.ofQuery_eq_ok_iff {settings : Settings} {query : Query} {request : Request} :
    Request.ofQuery settings query = .ok request ↔
      Combination.ofFilters settings query.filters.items none false = .ok request.query ∧
      request.sort = query.sort ∧ request.offset = query.offset ∧ request.size = query.size ∧
      ∃ facets, query.HasScopes settings facets ∧
        request.aggregations = Aggregation.treeOver settings request.query facets := by
  unfold Request.ofQuery
  constructor
  · intro h
    obtain ⟨combination, hcombination, h⟩ := bind_eq_ok_iff.mp h
    obtain ⟨tree, htree, h⟩ := bind_eq_ok_iff.mp h
    obtain ⟨facets, found, hfacets, hfound, rfl⟩ := Aggregation.ofQuery_eq_ok_iff.mp htree
    -- The scope of the prices compiles the same filters as the main query does.
    cases hcombination.symm.trans hfound
    rw [← pure_eq_ok_iff.mp h]
    exact ⟨hcombination, rfl, rfl, rfl, facets, hfacets, rfl⟩
  · obtain ⟨found, sort, tree, offset, size⟩ := request
    intro h
    obtain ⟨hfound, rfl, rfl, rfl, facets, hfacets, htree⟩ := h
    change tree = Aggregation.treeOver settings found facets at htree
    subst htree
    refine bind_eq_ok_iff.mpr ⟨found, hfound, bind_eq_ok_iff.mpr ⟨_, ?_, rfl⟩⟩
    exact Aggregation.ofQuery_eq_ok_iff.mpr ⟨facets, found, hfacets, hfound, rfl⟩

/-! ## Evaluated scopes -/

namespace Aggregation

/-- The scope of one facet as a response shows it over the documents that the scope admits. -/
def facetView (facet : Facet) (buckets : Aggregation) (documents : List Json) : Json :=
  .object
    (Json.putMember (scopeCount documents) facet.name (evaluate documents buckets))

/-- The scope of the primary type as a response shows it. -/
def typeView (store : Store) (settings : Settings) (children : List Aggregation) : Json :=
  .object
    (evaluateAll (store.primary settings) (scopeCount (store.primary settings)) children)

theorem evaluate_facetScope {facet : Facet} {scope : Combination} {buckets : Aggregation}
    (named : buckets.name = facet.name) (documents : List Json) :
    evaluate documents (filter facet.name scope.clause [buckets]) =
      facetView facet buckets (documents.filter scope.clause.holds) := by
  simp only [evaluate, evaluateAll, facetView, named]

theorem evaluate_treeOver (store : Store) (settings : Settings) (found : Combination)
    (facets : List Aggregation) :
    evaluate (store.documents.map Document.fields) (treeOver settings found facets) =
      .object
        [("doc_count", .ofNat store.size),
         (typeScope, typeView store settings (facets ++ [pricesOf settings found]))] := by
  simp only [treeOver, evaluate, evaluateAll, name, Store.primary_eq, typeView]
  simp [Json.putMember, scopeCount, upsert, typeScope, Store.size]

theorem get?_typeView (store : Store) (settings : Settings) {children : List Aggregation}
    (distinct : (children.map name).Nodup) :
    (∀ child ∈ children, (typeView store settings children).get? child.name =
      some (evaluate (store.primary settings) child)) ∧
    ∀ other ∉ children.map name, (typeView store settings children).get? other =
      Json.findMember? (scopeCount (store.primary settings)) other :=
  findMember?_evaluateAll (store.primary settings) distinct _

end Aggregation

/-! ## Reading a response -/

namespace SearchResult

/-- The result without its hits: the totals, the prices and the facets. -/
def withoutHits (result : SearchResult) : SearchResult :=
  { result with products := [], categories := [], manufacturers := [], brands := [], tags := [] }

theorem withoutHits_foldl_addEntity (entities : List Entity) (result : SearchResult) :
    (entities.foldl addEntity result).withoutHits = result.withoutHits := by
  induction entities generalizing result with
  | nil => rfl
  | cons entity rest ih =>
    have step : (result.addEntity entity).withoutHits = result.withoutHits := by
      cases entity <;> rfl
    rw [List.foldl_cons, ih, step]

end SearchResult

namespace Response

theorem need_eq_ok_iff {json : Option Json} {name : String} {part : ResponsePart} {value : Json} :
    need json name part = .ok value ↔ (json.bind fun outer => outer.get? name) = some value := by
  unfold need
  split
  · rename_i found hfound
    rw [hfound]
    simp
  · rename_i missing
    rw [missing]
    simp

theorem need_of_none {json : Option Json} {name : String}
    (missing : (json.bind fun outer => outer.get? name) = none) (part : ResponsePart) :
    need json name part = .error (.malformedResponse part) := by
  rw [need, missing]

theorem scopes_eq_ok_iff {response : Json} {found : Scopes} :
    scopes response = .ok found ↔
      ((response.get? "aggregations").bind fun outer => outer.get? Aggregation.allScope) =
        some found.all ∧
      found.all.get? Aggregation.typeScope = some found.type ∧
      found.type.get? Aggregation.commonScope = some found.common := by
  unfold scopes
  constructor
  · intro h
    obtain ⟨all, hall, h⟩ := bind_eq_ok_iff.mp h
    obtain ⟨type, htype, h⟩ := bind_eq_ok_iff.mp h
    obtain ⟨common, hcommon, h⟩ := bind_eq_ok_iff.mp h
    rw [← pure_eq_ok_iff.mp h]
    exact ⟨need_eq_ok_iff.mp hall, need_eq_ok_iff.mp htype, need_eq_ok_iff.mp hcommon⟩
  · intro h
    obtain ⟨all, type, common⟩ := h
    refine bind_eq_ok_iff.mpr ⟨_, need_eq_ok_iff.mpr all, ?_⟩
    refine bind_eq_ok_iff.mpr ⟨_, need_eq_ok_iff.mpr type, ?_⟩
    exact bind_eq_ok_iff.mpr ⟨_, need_eq_ok_iff.mpr common, rfl⟩

theorem documentCount_eq {scope : Json} {count : Nat}
    (h : scope.get? "doc_count" = some (.ofNat count)) : documentCount scope = count := by
  simp [documentCount, h, Json.ofNat, Json.natural?]

theorem totalHits_search (store : Store) (request : Request) (offset size : Nat) :
    totalHits (store.search request offset size) =
      (store.matching request.query.clause).length := by
  simp [totalHits, Store.search, Json.get?, Json.findMember?, Json.isObject, Json.ofNat,
    Json.natural?]

theorem facetResult_name (query : Query) (facet : Facet) (scope : Json) :
    (facetResult query facet scope).value.name = facet.name := by
  have counted : ∀ (found : List Json) (result : FacetResult),
      (found.foldl (addBucket facet) result).name = result.name := by
    intro found
    induction found with
    | nil => exact fun _ => rfl
    | cons bucket rest ih =>
      intro result
      rw [List.foldl_cons, ih]
      unfold addBucket
      split
      · rfl
      · split <;> rfl
  unfold facetResult
  split
  · rw [FacetResult.value_pruneLevels_eq, counted]
  · rw [Checked.value_pure, counted]

theorem get?_addResult (query : Query) (view : Json) (results : FacetResults) (facet : Facet)
    (name : String) :
    (addResult query view results facet).value.get? name =
      if facet.name = name then
        (view.get? facet.name).map (fun scope => (facetResult query facet scope).value) <|>
          results.get? name
      else results.get? name := by
  unfold addResult
  cases scope : view.get? facet.name with
  | none => simp
  | some scope => by_cases own : facet.name = name <;> simp [FacetResults.get?_add,
      facetResult_name, own]

/-- The names of facets find the results of their scopes, other names the results from before. -/
theorem get?_foldlM_addResult (query : Query) (view : Json) {facets : List Facet}
    (distinct : (facets.map Facet.name).Nodup) (results : FacetResults) :
    (∀ facet ∈ facets, ∀ scope, view.get? facet.name = some scope →
      (facets.foldlM (addResult query view) results).value.get? facet.name =
        some (facetResult query facet scope).value) ∧
    ∀ other ∉ facets.map Facet.name,
      (facets.foldlM (addResult query view) results).value.get? other = results.get? other := by
  induction facets generalizing results with
  | nil => simp
  | cons first rest ih =>
    obtain ⟨fresh, distinct⟩ := List.nodup_cons.mp distinct
    obtain ⟨counted, others⟩ := ih distinct (addResult query view results first).value
    refine ⟨?_, ?_⟩
    · intro facet hfacet scope hscope
      rw [List.foldlM_cons, Checked.value_bind]
      rcases List.mem_cons.mp hfacet with rfl | later
      · -- The facets to come have other names, so this one's result stays.
        rw [others _ fresh, get?_addResult, if_pos rfl, hscope]
        rfl
      · exact counted facet later scope hscope
    · intro other hother
      obtain ⟨apart, absent⟩ : other ≠ first.name ∧ other ∉ rest.map Facet.name := by
        simpa using hother
      rw [List.foldlM_cons, Checked.value_bind, others other absent, get?_addResult,
        if_neg apart.symm]

theorem totalElements_facetResults (query : Query) (view : Json) :
    (facetResults query view).value.totalElements = documentCount view := by
  have kept : ∀ (facets : List Facet) (results : FacetResults),
      (facets.foldlM (addResult query view) results).value.totalElements =
        results.totalElements := by
    intro facets
    induction facets with
    | nil => exact fun _ => rfl
    | cons first rest ih =>
      intro results
      rw [List.foldlM_cons, Checked.value_bind, ih]
      unfold addResult
      split <;> rfl
  exact kept query.facets.items _

theorem get?_facetResults {query : Query} {view : Json} {facet : Facet} {scope : Json}
    (hfacet : facet ∈ query.facets.items) (hscope : view.get? facet.name = some scope) :
    (facetResults query view).value.get? facet.name =
      some (facetResult query facet scope).value :=
  (get?_foldlM_addResult query view query.facets.distinct _).1 facet hfacet scope hscope

/-- A facet whose scope is missing has no result of its own. -/
theorem get?_foldlM_addResult_of_none (query : Query) {view : Json} {name : String}
    (missing : view.get? name = none) (facets : List Facet) (results : FacetResults) :
    (facets.foldlM (addResult query view) results).value.get? name = results.get? name := by
  induction facets generalizing results with
  | nil => rfl
  | cons first rest ih =>
    rw [List.foldlM_cons, Checked.value_bind, ih, get?_addResult]
    by_cases own : first.name = name
    · rw [if_pos own, own, missing]
      rfl
    · rw [if_neg own]

/-- The result of a facet is read off the facet's scope. -/
theorem exists_scope_of_get? {query : Query} {view : Json} {facet : Facet} {counted : FacetResult}
    (asked : facet ∈ query.facets.items)
    (found : (facetResults query view).value.get? facet.name = some counted) :
    ∃ scope ∈ view.get? facet.name, counted = (facetResult query facet scope).value := by
  cases hscope : view.get? facet.name with
  | none =>
    have none : (facetResults query view).value.get? facet.name = none :=
      get?_foldlM_addResult_of_none query hscope query.facets.items _
    rw [none] at found
    cases found
  | some scope =>
    rw [get?_facetResults asked hscope] at found
    exact ⟨scope, rfl, (Option.some.inj found).symm⟩

end Response

/-- A response that has its scopes is read, whatever else it holds. -/
theorem SearchResult.value_ofResponse_eq_ok_iff {query : Query} {response : Json}
    {result : SearchResult} :
    (ofResponse query response).value = .ok result ↔
      ∃ scopes, Response.scopes response = .ok scopes ∧
        (Response.entities response).foldl addEntity
          (Response.totals response scopes
            (Response.facetResults query scopes.type).value) = result := by
  unfold ofResponse
  cases Response.scopes response with
  | error e => simp
  | ok scopes => simp

/-! ## Searches of a store -/

section Search

variable {settings : Settings} {query : Query} {request : Request} {facets : List Aggregation}

/-- What a search of the store finds apart from hits, read off the scopes of the facets. -/
def Store.overview (store : Store) (settings : Settings) (query : Query) (found : Combination)
    (facets : List Aggregation) : SearchResult :=
  let prices := Aggregation.pricesOf settings found
  let view := Aggregation.typeView store settings (facets ++ [prices])
  let common := Aggregation.evaluate (store.primary settings) prices
  { totalElements := store.size
    totalItems := Response.documentCount view
    totalHits := (store.matching found.clause).length
    minPrice := Response.price common Aggregation.minPrice
    maxPrice := Response.price common Aggregation.maxPrice
    facets := (Response.facetResults query view).value }

/-- The scopes of a query have different names. -/
theorem nodup_scopes (found : Combination) (h : query.HasScopes settings facets) :
    ((facets ++ [Aggregation.pricesOf settings found]).map Aggregation.name).Nodup := by
  obtain ⟨names, free⟩ := Aggregation.names_of_facetScopes h
  rw [List.map_append, names]
  refine List.nodup_append.mpr ⟨query.facets.distinct, List.nodup_singleton _, ?_⟩
  intro name hname other hcommon same
  rw [List.map_singleton, List.mem_singleton] at hcommon
  rw [same, hcommon] at hname
  exact free hname

/-- A facet's name finds the facet's own scope in the scope of the primary type. -/
theorem get?_facetScope (store : Store) (found : Combination)
    (h : query.HasScopes settings facets) {facet : Facet} (hfacet : facet ∈ query.facets.items) :
    ∃ scope buckets,
      Combination.ofFilters settings query.filters.items (Aggregation.ownFilter? facet) true =
        .ok scope ∧
      Aggregation.bucketsOf settings facet = .ok buckets ∧
      (Aggregation.typeView store settings
          (facets ++ [Aggregation.pricesOf settings found])).get? facet.name =
        some (Aggregation.facetView facet buckets
          ((store.primary settings).filter scope.clause.holds)) := by
  obtain ⟨tree, htree, compiled⟩ := exists_result_of_mem h hfacet
  obtain ⟨-, scope, buckets, hscope, hbuckets, rfl⟩ :=
    Aggregation.facetScope_eq_ok_iff.mp compiled
  have child := (Aggregation.get?_typeView store settings (nodup_scopes found h)).1 _
    (List.mem_append_left _ htree)
  rw [Aggregation.evaluate_facetScope (Aggregation.bucketsOf_name hbuckets)] at child
  exact ⟨scope, buckets, hscope, hbuckets, child⟩

/-- The scopes of a store's response are those of the tree over the facets. -/
theorem scopes_search (store : Store) (offset size : Nat)
    (hfacets : query.HasScopes settings facets)
    (htree : request.aggregations = Aggregation.treeOver settings request.query facets) :
    let prices := Aggregation.pricesOf settings request.query
    let type := Aggregation.typeView store settings (facets ++ [prices])
    let all := Json.object [("doc_count", .ofNat store.size), (Aggregation.typeScope, type)]
    Response.scopes (store.search request offset size) =
      .ok { all, type, common := Aggregation.evaluate (store.primary settings) prices } := by
  intro prices type all
  have whole : ((store.search request offset size).get? "aggregations").bind
      (fun value => value.get? Aggregation.allScope) = some all := by
    simp only [Store.search, htree, Aggregation.evaluate_treeOver]
    rfl
  have common := (Aggregation.get?_typeView store settings
    (nodup_scopes request.query hfacets)).1 prices (by simp [prices])
  exact Response.scopes_eq_ok_iff.mpr ⟨whole, rfl, common⟩

theorem ofResponse_search (store : Store) (offset size : Nat)
    (hfacets : query.HasScopes settings facets)
    (htree : request.aggregations = Aggregation.treeOver settings request.query facets) :
    (SearchResult.ofResponse query (store.search request offset size)).value =
      .ok ((Response.entities (store.search request offset size)).foldl SearchResult.addEntity
        (store.overview settings query request.query facets)) := by
  have elements : ∀ type, Response.documentCount (.object
      [("doc_count", .ofNat store.size), (Aggregation.typeScope, type)]) = store.size :=
    fun _ => Response.documentCount_eq rfl
  refine SearchResult.value_ofResponse_eq_ok_iff.mpr
    ⟨_, scopes_search store offset size hfacets htree, ?_⟩
  simp only [Response.totals, elements, Response.totalHits_search]
  rfl

/-- What a search comes to is what the backend's response is read as. -/
theorem Engine.outcome_search (engine : Engine) (backend : Backend) (timing : Timing)
    (h : Request.ofQuery engine.settings query = .ok request) :
    Prod.fst <$> engine.search backend timing query = answer backend query request := by
  unfold Engine.search Engine.compile
  rw [h]
  exact Checked.ext rfl (by simp)

theorem Engine.value_search_ofStore (engine : Engine) (store : Store) (timing : Timing)
    (h : Request.ofQuery engine.settings query = .ok request) :
    (engine.search (Backend.ofStore store) timing query).value.1 =
      (SearchResult.ofResponse query (store.search request query.offset query.size)).value :=
  congrArg Checked.value (engine.outcome_search (Backend.ofStore store) timing h)

/-- A search of a store stops where reading the facets off the store's scopes does. -/
theorem Engine.overflows_search (engine : Engine) (store : Store) (timing : Timing)
    (h : Request.ofQuery engine.settings query = .ok request) :
    ∃ facets, query.HasScopes engine.settings facets ∧
      (engine.search (Backend.ofStore store) timing query).overflows =
        (Response.facetResults query (Aggregation.typeView store engine.settings
          (facets ++ [Aggregation.pricesOf engine.settings request.query]))).overflows := by
  obtain ⟨-, -, -, -, facets, hfacets, htree⟩ := Request.ofQuery_eq_ok_iff.mp h
  have answered := engine.outcome_search (Backend.ofStore store) timing h
  refine ⟨facets, hfacets, ?_⟩
  rw [← Checked.overflows_map Prod.fst, answered]
  show (SearchResult.ofResponse query
    (store.search request query.offset query.size)).overflows = _
  rw [SearchResult.ofResponse, scopes_search store _ _ hfacets htree]
  simp only [Checked.overflows_bind, Checked.overflows_pure, Bool.or_false]

/-- A query that compiles is answered, and all but the hits is the overview of the store. -/
theorem Engine.search_ofStore (engine : Engine) (store : Store) (timing : Timing)
    (h : Request.ofQuery engine.settings query = .ok request) :
    ∃ facets result, query.HasScopes engine.settings facets ∧
      (engine.search (Backend.ofStore store) timing query).value.1 = .ok result ∧
      result.withoutHits = store.overview engine.settings query request.query facets := by
  obtain ⟨-, -, -, -, facets, hfacets, htree⟩ := Request.ofQuery_eq_ok_iff.mp h
  rw [value_search_ofStore engine store timing h,
    ofResponse_search store query.offset query.size hfacets htree]
  exact ⟨facets, _, hfacets, rfl, SearchResult.withoutHits_foldl_addEntity _ _⟩

/-- Every facet of a query has a result, read off the documents that the facet's own scope
admits. -/
theorem Engine.search_facet (engine : Engine) (store : Store) (timing : Timing)
    (h : Request.ofQuery engine.settings query = .ok request) {facet : Facet}
    (hfacet : facet ∈ query.facets.items) :
    ∃ result scope buckets,
      (engine.search (Backend.ofStore store) timing query).value.1 = .ok result ∧
      Combination.ofFilters engine.settings query.filters.items (Aggregation.ownFilter? facet)
        true = .ok scope ∧
      Aggregation.bucketsOf engine.settings facet = .ok buckets ∧
      result.facets.get? facet.name = some (Response.facetResult query facet
        (Aggregation.facetView facet buckets
          ((store.primary engine.settings).filter scope.clause.holds))).value := by
  obtain ⟨facets, result, hfacets, answered, overview⟩ := search_ofStore engine store timing h
  obtain ⟨scope, buckets, hscope, hbuckets, found⟩ :=
    get?_facetScope store request.query hfacets hfacet
  refine ⟨result, scope, buckets, answered, hscope, hbuckets, ?_⟩
  have same : result.facets =
      (store.overview engine.settings query request.query facets).facets := by
    rw [← overview]
    rfl
  rw [same]
  exact Response.get?_facetResults hfacet found

end Search

end FacetSearch
