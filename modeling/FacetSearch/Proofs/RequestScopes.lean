import FacetSearch.Proofs.Scopes
/-!
The scopes of facets in the request language.

A request shows the scopes of the facets under their names, which are all different, so that nothing
of a scope is lost or hidden by another one.

What is proved:
  1. `Aggregation.bodies_of_nodup`: aggregations of different names stand side by side.
  2. `Aggregation.exists_scopes_of_same`: where one facet stands in the place of another and the query
     becomes the same aggregations, the two facets have the same scope.
  3. `Aggregation.exists_ofQuery_of_swap`: where they have the same scope, the query becomes the same
     aggregations.
-/

namespace FacetSearch

namespace Aggregation

/-! ## Scopes side by side -/

theorem aggs_of_scopeBody {kind kind' : String} {value value' : Json}
    {aggs others : List (String × Json)}
    (h : scopeBody kind value aggs = scopeBody kind' value' others) : aggs = others := by
  unfold scopeBody at h
  have tails := (List.cons.inj (Json.object.inj h)).2
  cases aggs with
  | nil =>
    cases others with
    | nil => rfl
    | cons => simp at tails
  | cons first rest =>
    cases others with
    | nil => simp at tails
    | cons => simpa using tails

theorem bodies_of_nodup {trees : List Aggregation} {taken : List (String × Json)}
    (distinct : (taken.map Prod.fst ++ trees.map name).Nodup) :
    bodies taken trees = taken ++ trees.map fun tree => (tree.name, tree.body) := by
  induction trees generalizing taken with
  | nil => simp [bodies]
  | cons tree rest ih =>
    have fresh : tree.name ∉ taken.map Prod.fst := by
      intro among
      exact (List.nodup_append.mp distinct).2.2 _ among _ List.mem_cons_self rfl
    have put : Json.putMember taken tree.name tree.body = taken ++ [(tree.name, tree.body)] :=
      upsert_of_not_mem Prod.fst (tree.name, tree.body) taken fresh
    rw [bodies, put, ih (by simpa using distinct)]
    simp

/-- Aggregations that show the same under the same names are interchangeable. -/
theorem bodies_congr {trees others : List Aggregation}
    (h : List.Forall₂ (fun a b => a.name = b.name ∧ a.body = b.body) trees others)
    (taken : List (String × Json)) : bodies taken trees = bodies taken others := by
  induction h generalizing taken with
  | nil => rfl
  | cons same _ ih => rw [bodies, bodies, same.1, same.2, ih]

/-- The members that the scope of the primary type shows. -/
theorem toJson_treeOver (settings : Settings) (found : Combination) (facets : List Aggregation) :
    (treeOver settings found facets).toJson =
      .object [(allScope, scopeBody "global" .empty
        [(typeScope, scopeBody "filter" (Clause.term settings.typeField settings.primaryType).toJson
          (bodies [] (facets ++ [pricesOf settings found])))])] :=
  rfl

/-! ## One facet in the place of another -/

variable {settings : Settings} {query : Query} {f g : Facet} {a b : Aggregation}

theorem bodies_of_same {found found' : Combination} {facets facets' : List Aggregation}
    (same : (treeOver settings found facets).toJson = (treeOver settings found' facets').toJson) :
    bodies [] (facets ++ [pricesOf settings found]) =
      bodies [] (facets' ++ [pricesOf settings found']) := by
  rw [toJson_treeOver, toJson_treeOver] at same
  have all := (Prod.mk.inj (List.cons.inj (Json.object.inj same)).1).2
  have type := (Prod.mk.inj (List.cons.inj (aggs_of_scopeBody all)).1).2
  exact aggs_of_scopeBody type

/-- The scope of a facet of the query is shown under the facet's name. -/
theorem exists_shown_scope {facets : List Aggregation} (found : Combination)
    (h : query.HasScopes settings facets) {facet : Facet} (hfacet : facet ∈ query.facets.items) :
    ∃ scope, facetScope settings query.filters.items facet = .ok scope ∧
      Json.findMember? (bodies [] (facets ++ [pricesOf settings found])) facet.name =
        some scope.body := by
  obtain ⟨scope, hscope, compiled⟩ := exists_result_of_mem h hfacet
  have named : scope.name = facet.name := by
    obtain ⟨-, _, _, -, -, rfl⟩ := facetScope_eq_ok_iff.mp compiled
    rfl
  have distinct := nodup_scopes found h
  refine ⟨scope, compiled, Json.findMember?_of_mem ?_ ?_⟩
  · rw [bodies_of_nodup (by simpa using distinct)]
    simpa [Function.comp_def] using distinct
  · rw [bodies_of_nodup (by simpa using distinct), ← named]
    exact List.mem_append_right _ (List.mem_map_of_mem (List.mem_append_left _ hscope))

/-- If a query becomes the same aggregations with either facet, the facets have the same scope. -/
theorem exists_scopes_of_same (named : g.name = f.name)
    (compiled : ofQuery settings (query.facetBy f) = .ok a)
    (compiled' : ofQuery settings (query.facetBy g) = .ok b) (same : b.toJson = a.toJson) :
    ∃ scope scope', facetScope settings query.filters.items f = .ok scope ∧
      facetScope settings query.filters.items g = .ok scope' ∧ scope'.body = scope.body := by
  obtain ⟨facets, found, hfacets, -, rfl⟩ := ofQuery_eq_ok_iff.mp compiled
  obtain ⟨facets', found', hfacets', -, rfl⟩ := ofQuery_eq_ok_iff.mp compiled'
  have reported : f ∈ (query.facetBy f).facets.items := KeyedList.mem_put_iff.mpr (.inl rfl)
  have reported' : g ∈ (query.facetBy g).facets.items := KeyedList.mem_put_iff.mpr (.inl rfl)
  obtain ⟨scope, hscope, shown⟩ := exists_shown_scope found hfacets reported
  obtain ⟨scope', hscope', shown'⟩ := exists_shown_scope found' hfacets' reported'
  refine ⟨scope, scope', hscope, hscope', ?_⟩
  rw [bodies_of_same same, named, shown] at shown'
  exact (Option.some.inj shown').symm

end Aggregation

/-- If an item that replaces another one has a result like the other's, the list has results alike. -/
theorem exists_forall₂_upsert {α β : Type} {r : α → β → Prop} {alike : β → β → Prop}
    (refl : ∀ result, alike result result) {item item' : α}
    (swap : ∀ result, r item result → ∃ result', r item' result' ∧ alike result' result)
    {keep : α → Bool} {items : List α} {results : List β}
    (h : List.Forall₂ r (upsert keep item items) results) :
    ∃ results', List.Forall₂ r (upsert keep item' items) results' ∧
      List.Forall₂ alike results' results := by
  have same : ∀ results : List β, List.Forall₂ alike results results :=
    fun results => List.forall₂_same.mpr fun result _ => refl result
  induction items generalizing results with
  | nil =>
    obtain ⟨result, _, hitem, rest, rfl⟩ := List.forall₂_cons_left_iff.mp h
    cases rest
    obtain ⟨result', hitem', like⟩ := swap result hitem
    exact ⟨[result'], .cons hitem' .nil, .cons like .nil⟩
  | cons first rest ih =>
    unfold upsert at h ⊢
    by_cases replaced : keep first = true
    · rw [if_pos replaced] at h ⊢
      obtain ⟨result, others, hitem, hothers, rfl⟩ := List.forall₂_cons_left_iff.mp h
      obtain ⟨result', hitem', like⟩ := swap result hitem
      exact ⟨result' :: others, .cons hitem' hothers, .cons like (same others)⟩
    · rw [if_neg replaced] at h ⊢
      obtain ⟨result, others, hfirst, hothers, rfl⟩ := List.forall₂_cons_left_iff.mp h
      obtain ⟨others', hothers', like⟩ := ih hothers
      exact ⟨result :: others', .cons hfirst hothers', .cons (refl result) like⟩

namespace Aggregation

variable {settings : Settings} {query : Query} {f g : Facet} {a : Aggregation}

/-- If a facet in the place of another has the same scope, the query becomes the same aggregations. -/
theorem exists_ofQuery_of_swap (named : g.name = f.name)
    (swap : ∀ scope, facetScope settings query.filters.items f = .ok scope →
      ∃ scope', facetScope settings query.filters.items g = .ok scope' ∧
        scope'.name = scope.name ∧ scope'.body = scope.body)
    (compiled : ofQuery settings (query.facetBy f) = .ok a) :
    ∃ b, ofQuery settings (query.facetBy g) = .ok b ∧ b.toJson = a.toJson := by
  obtain ⟨facets, found, hfacets, hfound, rfl⟩ := ofQuery_eq_ok_iff.mp compiled
  obtain ⟨facets', hfacets', alike⟩ := exists_forall₂_upsert (fun _ => ⟨rfl, rfl⟩) swap hfacets
  have scopes : (query.facetBy g).HasScopes settings facets' := by
    rw [← named] at hfacets'
    exact hfacets'
  refine ⟨_, ofQuery_eq_ok_iff.mpr ⟨facets', found, scopes, hfound, rfl⟩, ?_⟩
  have both := List.rel_append alike (.cons ⟨rfl, rfl⟩ .nil :
    List.Forall₂ _ [pricesOf settings found] [pricesOf settings found])
  rw [toJson_treeOver, toJson_treeOver, bodies_congr both]

end Aggregation

end FacetSearch
