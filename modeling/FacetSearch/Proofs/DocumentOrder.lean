import FacetSearch.Proofs.Hits
import FacetSearch.Proofs.Prices
import FacetSearch.Proofs.Ranking
import FacetSearch.Proofs.SelfExclusion
/-!
Documents that are stored in another order.

Scopes keep the documents that they admit, counting does not see in which order they come, and what
is counted is ranked by a linear order. Two readings may be equal in the order of numbers without
being the same, as zeros of both signs are, so that the extremes themselves may differ; the prices
that are made of them do not.

What is proved:
  1. `Aggregation.steady_facetScope`: the scope of a facet shows the same for the same documents in
     another order, whatever makes its buckets.
  2. `reportedPrice_least?_perm`, `reportedPrice_greatest?_perm`: so do the prices.
  3. `Engine.search_reordered`: a search of the same documents in another order reports the same
     totals, prices and facets, and shows the same entities if its window has room for all hits.
-/

namespace FacetSearch

/-! ## Prices -/

/-- Numbers that precede each other in the total order give the same price. -/
theorem reportedPrice_eq_of_totalLe {x y : Binary64} (hxy : x.totalLe y = true)
    (hyx : y.totalLe x = true) : reportedPrice (some x) = reportedPrice (some y) := by
  by_cases number : y = .nan
  · subst number
    cases x with
    | nan => rfl
    | signed n r hr => cases hyx
  · obtain ⟨number', below⟩ := Binary64.le_of_totalLe hxy number
    obtain ⟨-, above⟩ := Binary64.le_of_totalLe hyx number'
    have price : x.clampToInt64 = y.clampToInt64 :=
      Int64.le_antisymm (Binary64.clampToInt64_mono below) (Binary64.clampToInt64_mono above)
    have finite : x.isFinite = y.isFinite :=
      Binary64.isFinite_congr (Binary64.same_of_le below above)
    rw [reportedPrice, reportedPrice, finite, price]

section Extremes

variable {readings readings' : List Binary64}

/-- A number that is best of all is as good as the best of the same numbers in another order. -/
theorem reportedPrice_of_perm {pick : List Binary64 → Option Binary64}
    {better : Binary64 → Binary64 → Prop}
    (something : ∀ x rest, ∃ best, pick (x :: rest) = some best)
    (spec : ∀ numbers best, pick numbers = some best →
      best ∈ numbers ∧ ∀ x ∈ numbers, better best x)
    (ties : ∀ x y, better x y → better y x → reportedPrice (some x) = reportedPrice (some y))
    (order : readings.Perm readings') :
    reportedPrice (pick readings) = reportedPrice (pick readings') := by
  cases readings with
  | nil => rw [← order.nil_eq]
  | cons x rest =>
    cases readings' with
    | nil => exact absurd order.eq_nil (List.cons_ne_nil x rest)
    | cons x' rest' =>
      obtain ⟨best, hbest⟩ := something x rest
      obtain ⟨best', hbest'⟩ := something x' rest'
      obtain ⟨among, bound⟩ := spec _ best hbest
      obtain ⟨among', bound'⟩ := spec _ best' hbest'
      rw [hbest, hbest']
      apply ties
      · exact bound best' (order.mem_iff.mpr among')
      · exact bound' best (order.mem_iff.mp among)

theorem reportedPrice_least?_perm (order : readings.Perm readings') :
    reportedPrice (Aggregation.least? readings) = reportedPrice (Aggregation.least? readings') :=
  reportedPrice_of_perm (fun _ _ => ⟨_, rfl⟩) (fun _ _ => Aggregation.least?_spec)
    (fun _ _ => reportedPrice_eq_of_totalLe) order

theorem reportedPrice_greatest?_perm (order : readings.Perm readings') :
    reportedPrice (Aggregation.greatest? readings) =
      reportedPrice (Aggregation.greatest? readings') :=
  reportedPrice_of_perm (fun _ _ => ⟨_, rfl⟩) (fun _ _ => Aggregation.greatest?_spec)
    (fun _ _ hxy hyx => reportedPrice_eq_of_totalLe hyx hxy) order

end Extremes

/-! ## Evaluated trees -/

namespace Aggregation

/-- The aggregation shows the same for the same documents in another order. -/
def Steady (tree : Aggregation) : Prop :=
  ∀ documents documents' : List Json, documents.Perm documents' →
    evaluate documents tree = evaluate documents' tree

theorem steady_terms (name : String) (fields : List String) (size : Nat) :
    (terms name fields size).Steady := by
  intro documents documents' order
  have counted : topKeys fields size documents' = topKeys fields size documents :=
    topKeys_of_perm fields size order (.refl _)
  rw [evaluate, evaluate, counted]

theorem steady_range (name field : String) (buckets : List RangeBucket) :
    (range name field buckets).Steady := by
  intro documents documents' order
  have counted : rangeBucket field documents = rangeBucket field documents' := by
    funext bucket
    unfold rangeBucket countInRange
    rw [order.countP_eq]
  rw [evaluate, evaluate, counted]

variable {children : List Aggregation}

/-- The members of a scope, over whatever documents the scope admits. -/
theorem evaluateAll_of_perm (steady : ∀ child ∈ children, child.Steady)
    {documents documents' : List Json} (order : documents.Perm documents') :
    evaluateAll documents (scopeCount documents) children =
      evaluateAll documents' (scopeCount documents') children := by
  have run : ∀ members, evaluateAll documents members children =
      evaluateAll documents' members children := by
    induction children with
    | nil => exact fun _ => rfl
    | cons child rest ih =>
      intro members
      have shown := steady child List.mem_cons_self documents documents' order
      rw [evaluateAll, evaluateAll, shown]
      exact ih (fun other later => steady other (List.mem_cons_of_mem child later)) _
  have count : scopeCount documents = scopeCount documents' := by
    rw [scopeCount, scopeCount, order.length_eq]
  rw [count, run]

theorem steady_filter (name : String) (clause : Clause)
    (steady : ∀ child ∈ children, child.Steady) : (filter name clause children).Steady := by
  intro documents documents' order
  show Json.object _ = Json.object _
  rw [evaluateAll_of_perm steady (order.filter clause.holds)]

theorem steady_nested (name relation : String) (steady : ∀ child ∈ children, child.Steady) :
    (nested name relation children).Steady := by
  intro documents documents' order
  show Json.object _ = Json.object _
  rw [evaluateAll_of_perm steady
    (order.flatMap_right fun document => document.nestedViews relation)]

theorem steady_bucketsOf {settings : Settings} {facet : Facet} {buckets : Aggregation}
    (h : bucketsOf settings facet = .ok buckets) : buckets.Steady := by
  have counting : (termsOf settings facet).Steady := steady_terms _ _ _
  obtain ⟨ranges, -, -, rfl⟩ | ⟨-, rfl⟩ | ⟨-, rfl⟩ := bucketsOf_cases h
  · exact steady_range _ _ _
  · exact steady_nested _ _ (List.forall_mem_singleton.mpr counting)
  · exact counting

theorem steady_facetScope {settings : Settings} {filters : List Filter} {facet : Facet}
    {tree : Aggregation} (h : facetScope settings filters facet = .ok tree) : tree.Steady := by
  obtain ⟨-, scope, buckets, -, hbuckets, rfl⟩ := facetScope_eq_ok_iff.mp h
  exact steady_filter _ _ (List.forall_mem_singleton.mpr (steady_bucketsOf hbuckets))

end Aggregation

/-- Every scope of a facet shows the same for the same documents in another order. -/
theorem Query.HasScopes.steady {settings : Settings} {query : Query} {scopes : List Aggregation}
    (h : query.HasScopes settings scopes) : ∀ scope ∈ scopes, scope.Steady := by
  intro scope hscope
  obtain ⟨facet, -, compiled⟩ := exists_result_of_mem h.flip hscope
  exact Aggregation.steady_facetScope compiled

/-! ## Overviews -/

/-- Where the facets have the same scopes, the same results are added. -/
theorem Response.foldlM_addResult_congr {query : Query} {view view' : Json} {facets : List Facet}
    (scopes : ∀ facet ∈ facets, view.get? facet.name = view'.get? facet.name)
    (results : FacetResults) :
    facets.foldlM (addResult query view) results =
      facets.foldlM (addResult query view') results := by
  induction facets generalizing results with
  | nil => rfl
  | cons first rest ih =>
    have added : addResult query view results first = addResult query view' results first := by
      unfold addResult
      rw [scopes first List.mem_cons_self]
    rw [List.foldlM_cons, List.foldlM_cons, added]
    congr 1
    funext results
    exact ih (fun facet later => scopes facet (List.mem_cons_of_mem first later)) results

/-- The results of facets are read off their scopes and off the count beside them. -/
theorem Response.facetResults_congr {query : Query} {view view' : Json}
    (count : view.get? "doc_count" = view'.get? "doc_count")
    (scopes : ∀ facet ∈ query.facets.items, view.get? facet.name = view'.get? facet.name) :
    facetResults query view = facetResults query view' := by
  have counted : documentCount view = documentCount view' := by
    unfold documentCount
    rw [count]
  unfold facetResults
  rw [counted]
  exact foldlM_addResult_congr scopes _

section Overview

variable {settings : Settings} {query : Query} {store store' : Store} {scopes : List Aggregation}

theorem Store.primary_perm (settings : Settings)
    (order : store.documents.Perm store'.documents) :
    (store.primary settings).Perm (store'.primary settings) :=
  (order.filter _).map _

/-- The scope of the primary type shows the same under every name but that of the prices. -/
theorem Aggregation.get?_typeView_of_perm (order : store.documents.Perm store'.documents)
    (found : Combination) (h : query.HasScopes settings scopes) {name : String}
    (other : name ≠ commonScope) :
    (typeView store settings (scopes ++ [pricesOf settings found])).get? name =
      (typeView store' settings (scopes ++ [pricesOf settings found])).get? name := by
  have primary : (store.primary settings).Perm (store'.primary settings) :=
    Store.primary_perm settings order
  have distinct := nodup_scopes found h
  obtain ⟨children, others⟩ := get?_typeView store settings distinct
  obtain ⟨children', others'⟩ := get?_typeView store' settings distinct
  by_cases known : name ∈ scopes.map Aggregation.name
  · obtain ⟨scope, hscope, rfl⟩ := List.mem_map.mp known
    rw [children scope (List.mem_append_left _ hscope),
      children' scope (List.mem_append_left _ hscope), h.steady scope hscope _ _ primary]
  · have absent : name ∉ (scopes ++ [pricesOf settings found]).map Aggregation.name := by
      rw [List.map_append, List.mem_append, not_or]
      exact ⟨known, fun common => other (List.mem_singleton.mp common)⟩
    rw [others name absent, others' name absent, scopeCount, scopeCount, primary.length_eq]

/-- The prices of what a query finds are those of the same readings in another order. -/
theorem Response.price_of_perm (settings : Settings)
    (order : store.documents.Perm store'.documents) (found : Combination) :
    let common := Aggregation.evaluate (store.primary settings)
      (Aggregation.pricesOf settings found)
    let common' := Aggregation.evaluate (store'.primary settings)
      (Aggregation.pricesOf settings found)
    price common Aggregation.minPrice = price common' Aggregation.minPrice ∧
      price common Aggregation.maxPrice = price common' Aggregation.maxPrice := by
  intro common common'
  have readings := ((Store.primary_perm settings order).filter
    found.clause.holds).flatMap_right fun document => document.numbers settings.rankingField
  obtain ⟨low, high⟩ := Aggregation.get?_pricesOf settings found (store.primary settings)
  obtain ⟨low', high'⟩ := Aggregation.get?_pricesOf settings found (store'.primary settings)
  constructor
  · rw [price_of_extreme low, price_of_extreme low', reportedPrice_least?_perm readings]
  · rw [price_of_extreme high, price_of_extreme high', reportedPrice_greatest?_perm readings]

/-- Reading the facets adds up the same, and stops at the same sum if at any. -/
theorem Response.facetResults_of_perm (order : store.documents.Perm store'.documents)
    (found : Combination) (h : query.HasScopes settings scopes) :
    facetResults query
        (Aggregation.typeView store settings (scopes ++ [Aggregation.pricesOf settings found])) =
      facetResults query
        (Aggregation.typeView store' settings
          (scopes ++ [Aggregation.pricesOf settings found])) := by
  refine facetResults_congr ?_ fun facet hfacet => ?_
  · exact Aggregation.get?_typeView_of_perm order found h (by decide)
  · apply Aggregation.get?_typeView_of_perm order found h
    intro reserved
    exact (Aggregation.names_of_facetScopes h).2 (List.mem_map.mpr ⟨facet, hfacet, reserved⟩)

/-- What a search finds apart from hits does not depend on the order of the documents. -/
theorem Store.overview_of_perm (order : store.documents.Perm store'.documents)
    (found : Combination) (h : query.HasScopes settings scopes) :
    store.overview settings query found scopes = store'.overview settings query found scopes := by
  let view := Aggregation.typeView store settings (scopes ++ [Aggregation.pricesOf settings found])
  let view' := Aggregation.typeView store' settings
    (scopes ++ [Aggregation.pricesOf settings found])
  have items : Response.documentCount view = Response.documentCount view' := by
    have count : view.get? "doc_count" = view'.get? "doc_count" :=
      Aggregation.get?_typeView_of_perm order found h (by decide)
    unfold Response.documentCount
    rw [count]
  have elements : store.size = store'.size := order.length_eq
  have hits : (store.matching found.clause).length = (store'.matching found.clause).length :=
    (order.filter _).length_eq
  obtain ⟨low, high⟩ := Response.price_of_perm settings order found
  show SearchResult.mk _ _ _ _ _ _ _ _ _ _ _ = SearchResult.mk _ _ _ _ _ _ _ _ _ _ _
  rw [elements, items, hits, low, high, Response.facetResults_of_perm order found h]

theorem Store.found_perm (order : store.documents.Perm store'.documents) (request : Request) :
    (store.found request).Perm (store'.found request) := by
  calc store.found request
    _ |>.Perm (store.matching request.query.clause) := sorted_perm _ request.sort
    _ |>.Perm (store'.matching request.query.clause) := order.filter _
    _ |>.Perm (store'.found request) := (sorted_perm _ request.sort).symm

/-- A window from the first hit on with room for all hits shows all of them. -/
theorem Store.window_perm (order : store.documents.Perm store'.documents) {request : Request}
    {size : Nat} (room : (store.matching request.query.clause).length ≤ size) :
    (store.window request 0 size).Perm (store'.window request 0 size) := by
  have found := Store.found_perm order request
  have all : (store.found request).length ≤ size := by
    rw [length_found]
    exact room
  have all' : (store'.found request).length ≤ size := by
    rw [← found.length_eq]
    exact all
  unfold window
  rw [List.drop_zero, List.drop_zero, List.take_of_length_le all, List.take_of_length_le all']
  exact found.filterMap _

end Overview

/-! ## Two searches -/

/-- Two searches of the same documents in different orders report the same totals, prices and
facets, and show the same entities if the window has room for all hits; and if sums are checked, one
of them stops exactly if the other does. Nor does a facet depend on the order in which its counted
keys are taken up. -/
theorem Engine.search_reordered (engine : Engine) (timing : Timing) {store store' : Store}
    (order : store.documents.Perm store'.documents) {query : Query} {request : Request}
    (h : Request.ofQuery engine.settings query = .ok request) :
    (∃ result result',
      (engine.search (Backend.ofStore store) timing query).value.1 = .ok result ∧
      (engine.search (Backend.ofStore store') timing query).value.1 = .ok result' ∧
      (engine.search (Backend.ofStore store) timing query).overflows =
        (engine.search (Backend.ofStore store') timing query).overflows ∧
      result.withoutHits = result'.withoutHits ∧
      (query.offset = 0 → result.totalHits ≤ query.size →
        result.entities.Perm result'.entities)) ∧
    ∀ (fields : List String) (size : Nat) (views views' : List Json) (counts : List (String × Nat)),
      views.Perm views' →
      counts.Perm (Aggregation.tally (views'.flatMap (Aggregation.keysOf fields))) →
      (stableSort Aggregation.ranksBefore counts).take size =
        Aggregation.topKeys fields size views := by
  refine ⟨?_, fun fields size _ _ _ order counted =>
    Aggregation.topKeys_of_perm fields size order counted⟩
  obtain ⟨scopes, hscopes, answered⟩ := engine.search_eq_foldl store timing h
  obtain ⟨scopes', hscopes', answered'⟩ := engine.search_eq_foldl store' timing h
  cases (mapM_eq_ok_iff.mpr hscopes).symm.trans (mapM_eq_ok_iff.mpr hscopes')
  have unchanged : store.overview engine.settings query request.query scopes =
      store'.overview engine.settings query request.query scopes :=
    Store.overview_of_perm order request.query hscopes
  refine ⟨_, _, answered, answered', ?_, ?_, ?_⟩
  · obtain ⟨facets, hfacets, stops⟩ := engine.overflows_search store timing h
    obtain ⟨facets', hfacets', stops'⟩ := engine.overflows_search store' timing h
    cases (mapM_eq_ok_iff.mpr hfacets).symm.trans (mapM_eq_ok_iff.mpr hfacets')
    rw [stops, stops', Response.facetResults_of_perm order request.query hfacets]
  · rw [SearchResult.withoutHits_foldl_addEntity, SearchResult.withoutHits_foldl_addEntity,
      unchanged]
  · intro first room
    rw [SearchResult.totalHits_foldl_addEntity] at room
    calc SearchResult.entities _
      _ |>.Perm (store.window request query.offset query.size) :=
          SearchResult.entities_foldl_of_nil _ rfl
      _ |>.Perm (store'.window request query.offset query.size) := by
          rw [first]
          exact Store.window_perm order room
      _ |>.Perm _ := (SearchResult.entities_foldl_of_nil _ rfl).symm

def Store.reversed (store : Store) : Store := ⟨store.documents.reverse⟩

set_option maxRecDepth 3000 in
theorem Engine.search_reordered_color :
    ∃ request, Request.ofQuery {} (colorQuery ["red", "blue"]) = .ok request ∧
      colorStore.documents.Perm colorStore.reversed.documents ∧
      ∃ result result',
        (Engine.search {} (Backend.ofStore colorStore) {} (colorQuery ["red", "blue"])).value.1 =
          .ok result ∧
        (Engine.search {} (Backend.ofStore colorStore.reversed) {}
          (colorQuery ["red", "blue"])).value.1 = .ok result' ∧
        result.totalHits = 2 ∧ result.withoutHits = result'.withoutHits ∧
        result.entities.Perm result'.entities := by
  have compiled : ∃ request, Request.ofQuery {} (colorQuery ["red", "blue"]) = .ok request :=
    ⟨_, rfl⟩
  obtain ⟨request, h⟩ := compiled
  have order : colorStore.documents.Perm colorStore.reversed.documents :=
    (List.reverse_perm _).symm
  obtain ⟨⟨result, result', answered, answered', -, same, entities⟩, -⟩ :=
    Engine.search_reordered {} {} order h
  have two : result.totalHits = 2 := by
    cases answered
    decide +kernel
  refine ⟨request, h, order, result, result', answered, answered', two, same, ?_⟩
  apply entities rfl
  rw [two]
  decide

end FacetSearch
