import FacetSearch.Proofs.Counters
import FacetSearch.Proofs.Pages
import FacetSearch.Proofs.Pruning
/-!
The order of the counters of a facet.

Counters come in the order in which their keys first occur in the buckets of a response. A subgroup
says which keys are kept and has no part in their order, so the counters come in the order of the
subgroup only where the buckets do.

What is proved:
  1. `FacetResult.inOrderOf_addCounters`: counting keys one after the other keeps the order in which
     they first come.
  2. `Response.keysRead_eq`: the keys that are counted are those of the buckets that the facet keeps.
  3. `SearchResult.keys_of_response`: the order of the counters of every facet, and when it is that of
     the facet's subgroup.
  4. `Engine.search_ranges_inOrder`: a store makes the buckets of ranges in the order of the subgroup,
     so that searches of it report them in that order.
-/

namespace FacetSearch

/-! ## The order of first occurrences -/

/-- The keys come in the order in which they first occur in a list. -/
def InOrderOf (order keys : List String) : Prop :=
  keys.Pairwise fun a b => order.idxOf a < order.idxOf b

instance (order keys : List String) : Decidable (InOrderOf order keys) :=
  inferInstanceAs (Decidable (keys.Pairwise _))

theorem idxOf_lt_of_filter {p : String → Bool} {a b : String} (ha : p a = true) (hb : p b = true)
    {order : List String} (before : (order.filter p).idxOf a < (order.filter p).idxOf b) :
    order.idxOf a < order.idxOf b := by
  induction order with
  | nil => exact before
  | cons x rest ih =>
    by_cases hx : p x = true
    · rw [List.filter_cons_of_pos hx] at before
      by_cases isB : x = b
      · subst isB
        rw [List.idxOf_cons_self] at before
        exact absurd before (Nat.not_lt_zero _)
      · by_cases isA : x = a
        · subst isA
          rw [List.idxOf_cons_self, List.idxOf_cons_ne _ isB]
          exact Nat.succ_pos _
        · rw [List.idxOf_cons_ne _ isA, List.idxOf_cons_ne _ isB] at before ⊢
          exact Nat.succ_lt_succ (ih (Nat.lt_of_succ_lt_succ before))
    · have apartA : x ≠ a := fun same => hx (same ▸ ha)
      have apartB : x ≠ b := fun same => hx (same ▸ hb)
      rw [List.filter_cons_of_neg hx] at before
      rw [List.idxOf_cons_ne _ apartA, List.idxOf_cons_ne _ apartB]
      exact Nat.succ_lt_succ (ih before)

namespace InOrderOf

variable {order keys : List String}

/-- What comes later in the list does not move the keys that are in it. -/
theorem append (h : InOrderOf order keys) (known : ∀ key ∈ keys, key ∈ order)
    (later : List String) : InOrderOf (order ++ later) keys := by
  refine List.Pairwise.imp_of_mem (fun {a b} ha hb before => ?_) h
  rwa [List.idxOf_append_of_mem (known a ha), List.idxOf_append_of_mem (known b hb)]

theorem append_singleton (h : InOrderOf order keys) (known : ∀ key ∈ keys, key ∈ order)
    {key : String} (fresh : key ∉ order) : InOrderOf (order ++ [key]) (keys ++ [key]) := by
  refine List.pairwise_append.mpr ⟨h.append known [key], List.pairwise_singleton _ _, ?_⟩
  intro a ha b hb
  obtain rfl := List.mem_singleton.mp hb
  rw [List.idxOf_append_of_mem (known a ha), List.idxOf_append_of_notMem fresh]
  exact Nat.lt_of_lt_of_le (List.idxOf_lt_length_of_mem (known a ha)) (Nat.le_add_right _ _)

/-- Passing over other items moves no key past another. -/
theorem of_filter {p : String → Bool} (h : InOrderOf (order.filter p) keys)
    (passed : ∀ key ∈ keys, p key = true) : InOrderOf order keys :=
  List.Pairwise.imp_of_mem
    (fun {a b} ha hb => idxOf_lt_of_filter (passed a ha) (passed b hb)) h

/-- Keys that are in one order are in another if no two of them change places. -/
theorem iff_agree (h : InOrderOf order keys) (other : List String) : InOrderOf other keys ↔
    ∀ a ∈ keys, ∀ b ∈ keys, order.idxOf a < order.idxOf b → other.idxOf a < other.idxOf b := by
  constructor
  · intro both
    apply List.Pairwise.forall_of_forall_of_flip
    · exact fun a _ before => absurd before (Nat.lt_irrefl _)
    · apply both.imp
      intro a b after _
      exact after
    · apply h.imp
      intro a b after before
      exact absurd before (Nat.lt_asymm after)
  · intro agree
    exact List.Pairwise.imp_of_mem (fun {a b} ha hb => agree a ha b hb) h

end InOrderOf

namespace FacetResult

theorem inOrderOf_addCounters {result : FacetResult} (empty : result.counters = [])
    (entries : List (String × Nat)) :
    InOrderOf (entries.map Prod.fst)
      ((result.addCounters entries).counters.map Counter.key) := by
  induction entries using List.reverseRecOn with
  | nil =>
    have counters : (result.addCounters []).counters = [] := empty
    rw [counters]
    exact .nil
  | append_singleton entries entry ih =>
    have known : ∀ key ∈ (result.addCounters entries).counters.map Counter.key,
        key ∈ entries.map Prod.fst := fun key => (key_addCounters_iff empty).mp
    rw [addCounters_snoc, List.map_append]
    let item : Counter := .ofKey entry.1 entry.2 (result.addCounters entries).applied
    have keys : ((result.addCounters entries).addCounter entry.1 entry.2).counters.map Counter.key =
        (upsert (fun c => c.key = item.key) item (result.addCounters entries).counters).map
          Counter.key := rfl
    rw [keys]
    by_cases old : entry.1 ∈ entries.map Prod.fst
    · rw [map_upsert_of_mem Counter.key item _ ((key_addCounters_iff empty).mpr old)]
      exact ih.append known _
    · have fresh : item.key ∉ (result.addCounters entries).counters.map Counter.key :=
        fun there => old (known _ there)
      rw [upsert_of_not_mem Counter.key item _ fresh, List.map_append]
      exact ih.append_singleton known old

end FacetResult

namespace Response

/-! ## The keys of buckets -/

/-- The keys that buckets show, in the order of the buckets. -/
def bucketKeys (scope : Json) (name : String) : List String :=
  (buckets scope name).filterMap fun bucket => (bucket.get? "key").bind Json.term?

theorem keysRead_eq (facet : Facet) (scope : Json) :
    keysRead facet scope = (bucketKeys scope facet.name).filter facet.keeps := by
  unfold keysRead entriesOf bucketKeys
  rw [List.map_filterMap, List.filter_filterMap]
  refine List.filterMap_congr fun bucket _ => ?_
  cases (bucket.get? "key").bind Json.term? with
  | none => rfl
  | some key => cases kept : facet.keeps key <;> simp [kept, Option.filter]

/-- What a facet counts has the keys of the buckets that it keeps, in the order of the buckets. -/
theorem keys_counted (query : Query) (facet : Facet) (scope : Json) :
    let keys := (counted query facet scope).counters.map Counter.key
    InOrderOf (bucketKeys scope facet.name) keys ∧
      ∀ key, key ∈ keys ↔ key ∈ bucketKeys scope facet.name ∧ facet.keeps key = true := by
  have kept : (entriesOf facet (buckets scope facet.name)).map Prod.fst =
      (bucketKeys scope facet.name).filter facet.keeps := keysRead_eq facet scope
  have among : ∀ key, key ∈ (counted query facet scope).counters.map Counter.key ↔
      key ∈ bucketKeys scope facet.name ∧ facet.keeps key = true := by
    intro key
    rw [counted_eq_addCounters, FacetResult.key_addCounters_iff rfl, kept, List.mem_filter]
  refine ⟨InOrderOf.of_filter ?_ fun key hkey => ((among key).mp hkey).2, among⟩
  rw [← kept, counted_eq_addCounters]
  exact FacetResult.inOrderOf_addCounters rfl _

/-- The keys of a facet are those of the buckets that it keeps, in the order of the buckets, save for
those that are pruned. -/
theorem keys_facetResult (query : Query) (facet : Facet) (scope : Json) :
    let keys := (facetResult query facet scope).value.counters.map Counter.key
    InOrderOf (bucketKeys scope facet.name) keys ∧
      (∀ key ∈ keys, key ∈ bucketKeys scope facet.name ∧ facet.keeps key = true) ∧
      (facet.application.levels = false →
        ∀ key ∈ bucketKeys scope facet.name, facet.keeps key = true → key ∈ keys) := by
  obtain ⟨ordered, among⟩ := keys_counted query facet scope
  rw [facetResult_eq_counted]
  cases facet.application.levels with
  | true =>
    have stays := (FacetResult.sublist_pruneLevels (counted query facet scope)).map Counter.key
    exact ⟨List.Pairwise.sublist stays ordered, fun key hkey => (among key).mp (stays.subset hkey),
      nofun⟩
  | false =>
    exact ⟨ordered, fun key => (among key).mp, fun _ key shows kept => (among key).mpr ⟨shows, kept⟩⟩

end Response

namespace SearchResult

theorem facets_of_ofResponse {query : Query} {response : Json} {result : SearchResult}
    (h : (ofResponse query response).value = .ok result) :
    ∃ scopes, Response.scopes response = .ok scopes ∧
      result.facets = (Response.facetResults query scopes.type).value := by
  obtain ⟨scopes, found, rfl⟩ := value_ofResponse_eq_ok_iff.mp h
  exact ⟨scopes, found, congrArg facets (withoutHits_foldl_addEntity _ _)⟩

/-- The counters of a facet come in the order in which their keys first occur in the buckets. They
are in the order of the facet's subgroup exactly if the buckets show no two of them the other way
round. -/
theorem keys_of_response {query : Query} {response : Json} {result : SearchResult}
    (h : (ofResponse query response).value = .ok result) {facet : Facet}
    (asked : facet ∈ query.facets.items) {counted : FacetResult}
    (found : result.facets.get? facet.name = some counted) :
    ∃ scopes, Response.scopes response = .ok scopes ∧ ∃ scope ∈ scopes.type.get? facet.name,
      let shown := Response.bucketKeys scope facet.name
      let keys := counted.counters.map Counter.key
      InOrderOf shown keys ∧
        (∀ key ∈ keys, key ∈ shown ∧ facet.keeps key = true) ∧
        (facet.application.levels = false →
          ∀ key ∈ shown, facet.keeps key = true → key ∈ keys) ∧
        (InOrderOf facet.subgroup keys ↔ ∀ a ∈ keys, ∀ b ∈ keys,
          shown.idxOf a < shown.idxOf b → facet.subgroup.idxOf a < facet.subgroup.idxOf b) := by
  obtain ⟨scopes, hscopes, facets⟩ := facets_of_ofResponse h
  rw [facets] at found
  obtain ⟨scope, hscope, rfl⟩ := Response.exists_scope_of_get? asked found
  obtain ⟨ordered, among, all⟩ := Response.keys_facetResult query facet scope
  exact ⟨scopes, hscopes, scope, hscope, ordered, among, all, ordered.iff_agree facet.subgroup⟩

/-- One red product and two blue ones. -/
def paintStore : Store where
  documents := [("p1", "red"), ("p2", "blue"), ("p3", "blue")].map fun (id, color) =>
    { id, type := "product", source := [("color", .text color)] }

def paintFacet (colors : List String) : Facet where
  name := "color"
  field := "color"
  application := .onlyAtLeastOne
  subgroup := colors

def paintQuery (colors : List String) : Query := Query.matchAll.facetBy (paintFacet colors)

/-- The colour of more products is reported first, as the subgroup has it. -/
theorem keys_of_response_paint :
    ∃ response result counted,
      paintStore.respond {} (paintQuery ["blue", "red"]) = .ok response ∧
      ofResponse (paintQuery ["blue", "red"]) response = pure (.ok result) ∧
      result.facets.get? "color" = some counted ∧
      InOrderOf ["blue", "red"] (counted.counters.map Counter.key) := by
  have answered : ∃ response result counted,
      paintStore.respond {} (paintQuery ["blue", "red"]) = .ok response ∧
      ofResponse (paintQuery ["blue", "red"]) response = pure (.ok result) ∧
      result.facets.get? "color" = some counted := ⟨_, _, _, rfl, rfl, rfl⟩
  obtain ⟨response, result, counted, responds, h, found⟩ := answered
  have asked : paintFacet ["blue", "red"] ∈ (paintQuery ["blue", "red"]).facets.items :=
    List.mem_singleton.mpr rfl
  obtain ⟨scopes, hscopes, scope, hscope, -, -, -, agree⟩ :=
    keys_of_response (congrArg Checked.value h) asked found
  refine ⟨response, result, counted, responds, h, found, agree.mpr ?_⟩
  cases responds
  cases hscopes
  cases hscope
  exact fun _ _ _ _ before => before

/-- Of the two colours that the subgroup names, the one of more products is reported first, although
the subgroup names it last. -/
theorem keys_not_inOrderOf_subgroup :
    ∃ response result counted,
      paintStore.respond {} (paintQuery ["red", "blue"]) = .ok response ∧
      ofResponse (paintQuery ["red", "blue"]) response = pure (.ok result) ∧
      result.facets.get? "color" = some counted ∧
      counted.counters.map Counter.key = ["blue", "red"] ∧
      ¬ InOrderOf ["red", "blue"] (counted.counters.map Counter.key) :=
  ⟨_, _, _, rfl, rfl, rfl, by decide +kernel, by decide +kernel⟩

end SearchResult

/-! ## Range facets -/

/-- The store makes one bucket for each range of a facet, in the order of the subgroup. -/
theorem Response.bucketKeys_ranges {settings : Settings} {facet : Facet} {tree : Aggregation}
    (h : Aggregation.bucketsOf settings facet = .ok tree) (kind : facet.kind = .range)
    (documents : List Json) :
    bucketKeys (Aggregation.facetView facet tree documents) facet.name = facet.subgroup := by
  unfold Aggregation.bucketsOf at h
  rw [kind] at h
  obtain ⟨ranges, hranges, h⟩ := bind_eq_ok_iff.mp h
  obtain rfl := pure_eq_ok_iff.mp h
  have made : buckets (Aggregation.facetView facet (.range facet.name facet.field ranges) documents)
      facet.name = ranges.map (Aggregation.rangeBucket facet.field documents) :=
    buckets_of_list rfl
  have read : ((fun bucket : Json => (bucket.get? "key").bind Json.term?) ∘
      Aggregation.rangeBucket facet.field documents) = fun bucket => some bucket.key := by
    funext bucket
    rfl
  have keys : List.Forall₂ (fun token key => token = key) facet.subgroup
      (ranges.map RangeBucket.key) :=
    List.forall₂_map_right_iff.mpr ((mapM_eq_ok_iff.mp hranges).imp fun _ _ made =>
      (RangeBucket.key_of_ofToken made).symm)
  rw [List.forall₂_eq_eq_eq] at keys
  rw [bucketKeys, made, List.filterMap_map, read, List.filterMap_eq_map', keys]

/-- A search of the store reports the ranges of a facet in the order of its subgroup. -/
theorem Engine.search_ranges_inOrder (engine : Engine) (store : Store) (timing : Timing)
    {query : Query} {request : Request} (h : Request.ofQuery engine.settings query = .ok request)
    {facet : Facet} (hfacet : facet ∈ query.facets.items) (kind : facet.kind = .range) :
    ∃ result counted,
      (engine.search (Backend.ofStore store) timing query).value.1 = .ok result ∧
      result.facets.get? facet.name = some counted ∧
      InOrderOf facet.subgroup (counted.counters.map Counter.key) := by
  obtain ⟨result, scope, tree, answered, -, htree, found⟩ :=
    search_facet engine store timing h hfacet
  refine ⟨result, _, answered, found, ?_⟩
  rw [← Response.bucketKeys_ranges htree kind]
  exact (Response.keys_facetResult query facet _).1

end FacetSearch
