import FacetSearch.Proofs.Tally
/-!
The counters of a facet against the buckets that its evaluation makes.

Evaluation writes the buckets under names that the query chooses, beside members with fixed names,
and the reading looks for `buckets` before it looks inside a relation. `bucketsOver` takes the
buckets from the evaluation of the node that makes them, where no chosen name can come between.

What is proved:
  1. `Aggregation.exists_entries`: every bucket shows a key and a count, and the keys fix the
     counts.
  2. `Response.buckets_facetView`: the reading finds the buckets, except inside a relation whose
     facet has the name `buckets`.
  3. `Response.keys_facetResults`: facets that have scopes come in the order of the query.
  4. `Engine.search_counters`: a search reports every facet once and in order, and the counters of
     one without levels are its buckets' keys and counts, under exactly that exception.
-/

namespace FacetSearch

/-! ## Buckets where they are made -/

theorem RangeBucket.key_of_ofToken {token : String} {bucket : RangeBucket}
    (h : ofToken token = .ok bucket) : bucket.key = token := by
  obtain ⟨range, -, made⟩ := bind_eq_ok_iff.mp h
  rw [← pure_eq_ok_iff.mp made]

namespace Aggregation

/-- The buckets in what a response shows for an aggregation: its own, or those of the one
aggregation inside a relation. -/
def bucketsOver (documents : List Json) : Aggregation → List Json
  | nested _ relation [inner] =>
    bucketsOver (documents.flatMap fun document => document.nestedViews relation) inner
  | tree => (((evaluate documents tree).get? "buckets").bind Json.array?).getD []

/-- Buckets of one range key are made from one token, so they count alike. -/
theorem keysFix_ranges {tokens : List String} {ranges : List RangeBucket}
    (h : List.Forall₂ (fun token bucket => RangeBucket.ofToken token = .ok bucket) tokens ranges)
    (field : String) (documents : List Json) :
    KeysFix (ranges.map fun bucket =>
      (bucket.key, countInRange field bucket.range documents)) := by
  have made : ∀ bucket ∈ ranges, RangeBucket.ofToken bucket.key = .ok bucket := by
    intro bucket hbucket
    obtain ⟨token, -, hmade⟩ := exists_result_of_mem h.flip hbucket
    rw [RangeBucket.key_of_ofToken hmade]
    exact hmade
  intro a ha b hb same
  obtain ⟨first, hfirst, rfl⟩ := List.mem_map.mp ha
  obtain ⟨second, hsecond, rfl⟩ := List.mem_map.mp hb
  have keys : first.key = second.key := same
  have equal := (made first hfirst).symm.trans (keys ▸ made second hsecond)
  rw [Except.ok.inj equal]

/-- The buckets of a facet show keys and counts, and the keys fix the counts. -/
theorem exists_entries {settings : Settings} {facet : Facet} {tree : Aggregation}
    (h : bucketsOf settings facet = .ok tree) (documents : List Json) :
    ∃ entries, List.Forall₂ Response.Shows (bucketsOver documents tree) entries ∧
      KeysFix entries := by
  obtain ⟨ranges, hranges, -, rfl⟩ | ⟨-, rfl⟩ | ⟨-, rfl⟩ := bucketsOf_cases h
  · refine ⟨_, ?_, keysFix_ranges hranges facet.field documents⟩
    change List.Forall₂ Response.Shows (ranges.map (rangeBucket facet.field documents)) _
    rw [List.forall₂_map_left_iff, List.forall₂_map_right_iff]
    exact List.forall₂_same.mpr fun bucket _ =>
      Response.shows_rangeBucket facet.field documents bucket
  · exact ⟨_, Response.shows_keyBuckets _, .of_nodup (nodup_topKeys _ _ _)⟩
  · exact ⟨_, Response.shows_keyBuckets _, .of_nodup (nodup_topKeys _ _ _)⟩

end Aggregation

/-! ## Buckets where they are read -/

/-- The facet's buckets lie inside a relation that shows them under the name of a list of
buckets. -/
def Facet.IsShadowed (facet : Facet) : Prop := facet.kind = .nested ∧ facet.name = "buckets"

instance (facet : Facet) : Decidable facet.IsShadowed := inferInstanceAs (Decidable (_ ∧ _))

namespace Response

/-- Inside a relation the buckets are found under the facet's name, unless that name already finds
the place where buckets are looked for first. -/
theorem buckets_nested (settings : Settings) (facet : Facet) (documents : List Json) :
    buckets (Aggregation.facetView facet
        (.nested facet.name facet.relation [Aggregation.termsOf settings facet]) documents)
        facet.name =
      if facet.name = "buckets" then []
      else Aggregation.bucketsOver documents
        (.nested facet.name facet.relation [Aggregation.termsOf settings facet]) := by
  let views := documents.flatMap fun document => document.nestedViews facet.relation
  let inner : List (String × Json) :=
    Json.putMember (Aggregation.scopeCount views) facet.name
      (Aggregation.evaluate views (Aggregation.termsOf settings facet))
  have child : (Aggregation.facetView facet
      (.nested facet.name facet.relation [Aggregation.termsOf settings facet])
      documents).get? facet.name = some (.object inner) := by
    simp only [Aggregation.facetView, Json.get?, Json.findMember?_putMember, if_true]
    rfl
  have own : Json.findMember? inner facet.name =
      some (Aggregation.evaluate views (Aggregation.termsOf settings facet)) := by
    rw [Json.findMember?_putMember, if_pos rfl]
  unfold buckets
  rw [child]
  simp only [Json.get?]
  by_cases shadowed : facet.name = "buckets"
  · -- The probe finds the facet's own child, an object, and looks no deeper.
    rw [shadowed] at own
    rw [if_pos shadowed, own]
    rfl
  · have probe : Json.findMember? inner "buckets" = none := by
      rw [Json.findMember?_putMember, if_neg shadowed]
      rfl
    rw [if_neg shadowed, probe, own]
    rfl

/-- The buckets that are read are the buckets that were made. -/
theorem buckets_facetView {settings : Settings} {facet : Facet} {tree : Aggregation}
    (h : Aggregation.bucketsOf settings facet = .ok tree) (documents : List Json) :
    buckets (Aggregation.facetView facet tree documents) facet.name =
      if facet.IsShadowed then [] else Aggregation.bucketsOver documents tree := by
  have direct : facet.kind ≠ .nested → ¬ facet.IsShadowed := fun other shadowed =>
    other shadowed.1
  obtain ⟨ranges, -, kind, rfl⟩ | ⟨kind, rfl⟩ | ⟨kind, rfl⟩ := Aggregation.bucketsOf_cases h
  · rw [if_neg (direct (by simp [kind]))]
    exact buckets_of_list rfl
  · rw [buckets_nested]
    by_cases named : facet.name = "buckets"
    · rw [if_pos named, if_pos ⟨kind, named⟩]
    · rw [if_neg named, if_neg fun shadowed => named shadowed.2]
  · rw [if_neg (direct kind)]
    exact buckets_of_list rfl

end Response

/-! ## The facets of a result -/

theorem FacetResults.keys_add {results : FacetResults} {result : FacetResult}
    (fresh : result.name ∉ results.entries.keys) :
    (results.add result).entries.keys = results.entries.keys ++ [result.name] := by
  unfold add KeyedList.put KeyedList.keys
  dsimp only
  rw [upsert_of_not_mem Prod.fst (result.name, result) results.entries.items fresh,
    List.map_append]
  rfl

namespace Response

theorem keys_foldlM_addResult (query : Query) (view : Json) {facets : List Facet}
    (distinct : (facets.map Facet.name).Nodup)
    (present : ∀ facet ∈ facets, ∃ scope, view.get? facet.name = some scope)
    {results : FacetResults} (fresh : ∀ facet ∈ facets, facet.name ∉ results.entries.keys) :
    (facets.foldlM (addResult query view) results).value.entries.keys =
      results.entries.keys ++ facets.map Facet.name := by
  induction facets generalizing results with
  | nil => simp
  | cons first rest ih =>
    obtain ⟨apart, distinct⟩ := List.nodup_cons.mp distinct
    obtain ⟨scope, hscope⟩ := present first List.mem_cons_self
    have added : (addResult query view results first).value.entries.keys =
        results.entries.keys ++ [first.name] := by
      have named := facetResult_name query first scope
      have absent := fresh first List.mem_cons_self
      unfold addResult
      rw [hscope]
      dsimp only
      rw [Checked.value_map, FacetResults.keys_add (named.symm ▸ absent), named]
    rw [List.foldlM_cons, Checked.value_bind,
      ih distinct fun facet later => present facet (.tail _ later)]
    · rw [added, List.append_assoc]
      rfl
    · -- The name just added is that of no facet to come.
      intro facet later
      rw [added, List.mem_append, not_or, List.mem_singleton]
      refine ⟨fresh facet (.tail _ later), fun same => apart ?_⟩
      rw [← same]
      exact List.mem_map.mpr ⟨facet, later, rfl⟩

/-- Facets that have scopes come in the order of the query. -/
theorem keys_facetResults {query : Query} {view : Json}
    (present : ∀ facet ∈ query.facets.items, ∃ scope, view.get? facet.name = some scope) :
    (facetResults query view).value.entries.keys = query.facets.keys := by
  let start : FacetResults := { totalElements := documentCount view }
  have fresh : ∀ facet ∈ query.facets.items, facet.name ∉ start.entries.keys :=
    fun _ _ => List.not_mem_nil
  exact keys_foldlM_addResult query view query.facets.distinct present fresh

end Response

/-! ## Counters of the buckets -/

def Facet.kept (facet : Facet) (entries : List (String × Nat)) : List (String × Nat) :=
  entries.filter fun entry => facet.keeps entry.1

/-- There is one counter for each pair, with its key and its count, and no other. -/
structure FacetResult.Reports (result : FacetResult) (entries : List (String × Nat)) : Prop where
  distinct : (result.counters.map Counter.key).Nodup
  counter_iff : ∀ key count,
    (∃ counter ∈ result.counters, counter.key = key ∧ counter.count = count) ↔
      (key, count) ∈ entries

namespace FacetResult.Reports

variable {result : FacetResult} {applied : List String} {entries others : List (String × Nat)}

theorem of_counters (fixed : KeysFix entries)
    (h : result.counters = entries.eraseDups.map (Counter.ofEntry applied)) :
    result.Reports entries where
  distinct := by
    rw [h, Counter.map_key_ofEntry]
    exact fixed.nodup_keys
  counter_iff key count := by
    rw [h]
    constructor
    · intro counted
      obtain ⟨counter, hcounter, rfl, rfl⟩ := counted
      obtain ⟨entry, hentry, rfl⟩ := List.mem_map.mp hcounter
      exact List.mem_eraseDups.mp hentry
    · intro hentry
      exact ⟨_, List.mem_map.mpr ⟨_, List.mem_eraseDups.mpr hentry, rfl⟩, rfl, rfl⟩

theorem mem_iff (h : result.Reports entries) (h' : result.Reports others)
    (entry : String × Nat) : entry ∈ entries ↔ entry ∈ others :=
  (h.counter_iff entry.1 entry.2).symm.trans (h'.counter_iff entry.1 entry.2)

/-- A result that may have dropped its pairs reports them all where there are none to drop. -/
theorem iff_of_dropped {dropped : Prop} [Decidable dropped]
    (h : result.Reports (if dropped then [] else entries)) :
    result.Reports entries ↔ (dropped → entries = []) := by
  by_cases lost : dropped
  · rw [if_pos lost] at h
    constructor
    · intro all _
      exact List.eq_nil_iff_forall_not_mem.mpr fun entry hentry =>
        List.not_mem_nil ((all.mem_iff h entry).mp hentry)
    · intro none
      rw [none lost]
      exact h
  · rw [if_neg lost] at h
    exact ⟨fun _ there => absurd there lost, fun _ => h⟩

end FacetResult.Reports

/-- Without levels, a facet reports the pairs that its buckets show and whose keys it keeps. -/
theorem Response.reports_facetResult (query : Query) {settings : Settings} {facet : Facet}
    (flat : facet.application.levels = false) {tree : Aggregation}
    (h : Aggregation.bucketsOf settings facet = .ok tree) (documents : List Json) :
    ∃ entries, List.Forall₂ Shows (tree.bucketsOver documents) entries ∧
      (facetResult query facet (Aggregation.facetView facet tree documents)).value.Reports
        (if facet.IsShadowed then [] else facet.kept entries) := by
  obtain ⟨entries, shown, fixed⟩ := Aggregation.exists_entries h documents
  refine ⟨entries, shown, ?_⟩
  have read := buckets_facetView h documents
  by_cases shadowed : facet.IsShadowed
  · -- No bucket is read, so nothing is counted.
    rw [if_pos shadowed] at read ⊢
    have nothing : KeysFix [] := fun _ ha => absurd ha List.not_mem_nil
    exact .of_counters nothing (counters_facetResult query flat (read ▸ .nil) nothing)
  · rw [if_neg shadowed] at read ⊢
    exact .of_counters (fixed.subset fun _ ha => List.mem_of_mem_filter ha)
      (counters_facetResult query flat (read ▸ shown) fixed)

/-! ## Searches of a store -/

namespace Engine

variable {query : Query} {request : Request}

/-- The result of a search has every facet of the query once, in the order of the query. -/
theorem keys_of_search (engine : Engine) (store : Store) (timing : Timing)
    (h : Request.ofQuery engine.settings query = .ok request) :
    ∃ result, (engine.search (Backend.ofStore store) timing query).value.1 = .ok result ∧
      result.facets.entries.keys = query.facets.keys := by
  obtain ⟨facets, result, hfacets, answered, overview⟩ := search_ofStore engine store timing h
  refine ⟨result, answered, ?_⟩
  have same : result.facets =
      (store.overview engine.settings query request.query facets).facets := by
    rw [← overview]
    rfl
  rw [same]
  refine Response.keys_facetResults fun facet hfacet => ?_
  obtain ⟨_, _, -, -, found⟩ := get?_facetScope store request.query hfacets hfacet
  exact ⟨_, found⟩

/-- A query that compiles is answered with every facet once and in order. A facet without levels
has a counter for each of the buckets that its node makes of the documents of its scope and whose
key it keeps, and no other; only a facet inside a relation that is named `buckets` has none. -/
theorem search_counters (engine : Engine) (store : Store) (timing : Timing)
    (h : Request.ofQuery engine.settings query = .ok request) :
    ∃ result, (engine.search (Backend.ofStore store) timing query).value.1 = .ok result ∧
      result.facets.entries.keys = query.facets.keys ∧
      ∀ facet ∈ query.facets.items, facet.application.levels = false →
        ∃ counted scope node entries,
          result.facets.get? facet.name = some counted ∧
          Combination.ofFilters engine.settings query.filters.items
            (Aggregation.ownFilter? facet) true = .ok scope ∧
          Aggregation.bucketsOf engine.settings facet = .ok node ∧
          List.Forall₂ Response.Shows
            (node.bucketsOver ((store.primary engine.settings).filter scope.clause.holds))
            entries ∧
          counted.Reports (if facet.IsShadowed then [] else facet.kept entries) ∧
          (counted.Reports (facet.kept entries) ↔
            (facet.IsShadowed → facet.kept entries = [])) := by
  obtain ⟨result, answered, keys⟩ := keys_of_search engine store timing h
  refine ⟨result, answered, keys, ?_⟩
  intro facet hfacet flat
  obtain ⟨result', scope, node, answered', hscope, hnode, found⟩ :=
    search_facet engine store timing h hfacet
  have same : result' = result := Except.ok.inj (answered'.symm.trans answered)
  subst same
  obtain ⟨entries, shown, reports⟩ := Response.reports_facetResult query flat hnode _
  exact ⟨_, scope, node, entries, found, hscope, hnode, shown, reports, reports.iff_of_dropped⟩

end Engine

/-- A facet for the colours of variants, under the given name. -/
def variantsFacet (name : String) : Facet where
  name := name
  field := "variants.color"
  kind := .nested
  application := .onlyAtLeastOne

def variantsStore : Store where
  documents :=
    [{ id := "p1", type := "product",
       source := [("variants", .array [.object [("color", .text "red")]])] }]

theorem Engine.search_counters_variants :
    ∃ result counted,
      (Engine.search {} (Backend.ofStore variantsStore) {}
        (Query.matchAll.facetBy (variantsFacet "color"))).value.1 = .ok result ∧
      result.facets.get? "color" = some counted ∧ counted.Reports [("red", 1)] := by
  have compiled : ∃ request,
      Request.ofQuery {} (Query.matchAll.facetBy (variantsFacet "color")) = .ok request := ⟨_, rfl⟩
  obtain ⟨request, h⟩ := compiled
  obtain ⟨result, answered, -, facets⟩ := Engine.search_counters {} variantsStore {} h
  have asked : variantsFacet "color" ∈
      (Query.matchAll.facetBy (variantsFacet "color")).facets.items := List.mem_singleton.mpr rfl
  obtain ⟨counted, scope, node, entries, found, hscope, hnode, shown, -, reports⟩ :=
    facets _ asked rfl
  refine ⟨result, counted, answered, found, ?_⟩
  cases hscope
  cases hnode
  -- The evaluation makes one bucket, which shows one pair.
  change List.Forall₂ Response.Shows [Aggregation.keyBucket ("red", 1)] entries at shown
  have entry : entries = [("red", 1)] := by
    obtain ⟨⟨key, count⟩, rest, first, later, rfl⟩ := List.forall₂_cons_left_iff.mp shown
    cases later
    cases first.1
    cases first.2
    rfl
  subst entry
  have clear : ¬ (variantsFacet "color").IsShadowed := by decide
  exact reports.mpr fun shadowed => absurd shadowed clear

/-- The colours are counted, and the facet that asks for them under the name of a list of buckets
reports none. -/
theorem Engine.no_counters_of_shadowed_buckets :
    ∃ result counted scope node,
      (Engine.search {} (Backend.ofStore variantsStore) {}
        (Query.matchAll.facetBy (variantsFacet "buckets"))).value.1 = .ok result ∧
      result.facets.get? "buckets" = some counted ∧
      Combination.ofFilters {} [] (Aggregation.ownFilter? (variantsFacet "buckets")) true =
        .ok scope ∧
      Aggregation.bucketsOf {} (variantsFacet "buckets") = .ok node ∧
      node.bucketsOver ((variantsStore.primary {}).filter scope.clause.holds) =
        [Aggregation.keyBucket ("red", 1)] ∧
      (variantsFacet "buckets").keeps "red" = true ∧ counted.counters = [] :=
  ⟨_, _, _, _, rfl, rfl, rfl, rfl, rfl, rfl, rfl⟩

end FacetSearch
