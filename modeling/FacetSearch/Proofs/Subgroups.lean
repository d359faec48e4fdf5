import FacetSearch.Proofs.CounterOrder
import FacetSearch.Proofs.SingleValues
import FacetSearch.Proofs.TopKeys
/-!
The keys of a subgroup that a facet reports.

A facet counts as many keys as it has room for before it asks which of them its subgroup names. So a
key of the subgroup is lost where too many other keys rank above it, named by the subgroup or not; how
many do decides it, and nothing else does.

What is proved:
  1. `mem_take_iff_countP`: an item of a strictly ordered list is among the first ones exactly if
     fewer others come before it.
  2. `Aggregation.mem_topKeys_iff`: the counted keys of one field are those of the documents that
     fewer others outrank than there is room for.
  3. `Engine.search_subgroup`: a search reports such a key of the subgroup with the number of
     documents that have it, and no other key.
-/

namespace FacetSearch

/-! ## Places in a ranking -/

/-- In a list whose items stand above all later ones, an item is among the first `size` ones exactly
if fewer items stand above it. -/
theorem mem_take_iff_countP {α : Type} {above : α → α → Prop} [DecidableRel above]
    (asymm : ∀ a b, above a b → ¬ above b a) {items : List α} (ordered : items.Pairwise above)
    {item : α} (listed : item ∈ items) (size : Nat) :
    item ∈ items.take size ↔ items.countP (fun other => above other item) < size := by
  induction items generalizing size with
  | nil => cases listed
  | cons first rest ih =>
    obtain ⟨before, ordered⟩ := List.pairwise_cons.mp ordered
    cases size with
    | zero => simp
    | succ size =>
      rw [List.take_succ_cons, List.mem_cons, List.countP_cons]
      rcases List.mem_cons.mp listed with rfl | later
      · -- Nothing stands above the first item.
        have none : rest.countP (fun other => above other item) = 0 := by
          rw [List.countP_eq_zero]
          intro other hother stands
          exact asymm item other (before other hother) (of_decide_eq_true stands)
        have itself : ¬ above item item := fun stands => asymm item item stands stands
        simp [none, itself]
      · have stands := before item later
        have apart : item ≠ first := by
          rintro rfl
          exact asymm item item stands stands
        rw [ih ordered later, if_pos (decide_eq_true stands)]
        simp only [apart, false_or]
        omega

namespace Aggregation

instance decidableRanksAbove : DecidableRel RanksAbove :=
  fun _ _ => inferInstanceAs (Decidable (_ ∨ _))

/-- How many documents have a term in a field. -/
def carriers (field : String) (documents : List Json) (term : String) : Nat :=
  documents.countP fun document => term ∈ document.terms field

/-- How many terms of documents rank above a term: more documents have them, or as many where they
are smaller. -/
def outranking (field : String) (documents : List Json) (term : String) : Nat :=
  (termsIn field documents).countP fun other =>
    RanksAbove (other, carriers field documents other) (term, carriers field documents term)

variable {field : String} {documents : List Json} {key : String} {count : Nat}

theorem mem_ranked_single_iff :
    (key, count) ∈ ranked [field] documents ↔
      (∃ document ∈ documents, key ∈ document.terms field) ∧
        count = carriers field documents key := by
  have ranking : IsRanking [field] documents (ranked [field] documents) :=
    isRanking_sorted_tally [field] documents
  have carried : (documents.countP fun document => HasKey [field] key document) =
      carriers field documents key :=
    List.countP_congr fun document _ => by
      rw [decide_eq_true_eq, decide_eq_true_eq]
      rfl
  rw [ranking.mem_iff, carried]
  rfl

/-- The entries of a ranking that stand above one of its keys are those of the terms that do. -/
theorem countP_ranked (key : String) :
    (ranked [field] documents).countP
        (fun entry => RanksAbove entry (key, carriers field documents key)) =
      outranking field documents key := by
  have keys : ((ranked [field] documents).map Prod.fst).Perm (termsIn field documents) := by
    have sorted := (stableSort_perm ranksBefore
      (tally (documents.flatMap (keysOf [field])))).map Prod.fst
    refine sorted.trans ?_
    rw [termsIn, List.perm_ext_iff_of_nodup (nodup_tally _) (nodup_eraseDups _)]
    intro term
    rw [mem_keys_tally, ← mem_termsIn_iff]
    rfl
  rw [outranking, ← keys.countP_eq, List.countP_map]
  refine List.countP_congr fun entry hentry => ?_
  rw [Function.comp_apply, ← (mem_ranked_single_iff.mp hentry).2]

/-- The counted keys of one field are those of the documents that fewer others outrank than there is
room for, each with the number of documents that have it. -/
theorem mem_topKeys_iff {size : Nat} :
    (key, count) ∈ topKeys [field] size documents ↔
      (∃ document ∈ documents, key ∈ document.terms field) ∧
        count = carriers field documents key ∧ outranking field documents key < size := by
  have ordered := (isRanking_sorted_tally [field] documents).ordered
  have place : (key, carriers field documents key) ∈ ranked [field] documents →
      ((key, carriers field documents key) ∈ topKeys [field] size documents ↔
        outranking field documents key < size) := by
    intro listed
    rw [← countP_ranked]
    exact mem_take_iff_countP (fun _ _ => RanksAbove.asymm) ordered listed size
  constructor
  · intro shown
    have listed : (key, count) ∈ ranked [field] documents := List.mem_of_mem_take shown
    obtain ⟨carried, rfl⟩ := mem_ranked_single_iff.mp listed
    exact ⟨carried, rfl, (place listed).mp shown⟩
  · rintro ⟨carried, rfl, few⟩
    exact (place (mem_ranked_single_iff.mpr ⟨carried, rfl⟩)).mpr few

end Aggregation

/-! ## Counters of a subgroup -/

/-- The counter of a key with a count is found under the key, where no key has two counts. -/
theorem FacetResult.map_count_counter? {result : FacetResult} {key : String} {shows : Prop}
    [Decidable shows] {count : Nat}
    (h : ∀ n, (key, n) ∈ result.counters.map (fun counter => (counter.key, counter.count)) ↔
      shows ∧ n = count) :
    (result.counter? key).map Counter.count = if shows then some count else none := by
  unfold counter?
  cases found : result.counters.find? fun c => c.key = key with
  | none =>
    have absent : ¬ shows := by
      intro shown
      obtain ⟨counter, hcounter, same⟩ := List.mem_map.mp ((h count).mpr ⟨shown, rfl⟩)
      have own : counter.key = key := congrArg Prod.fst same
      exact List.find?_eq_none.mp found counter hcounter (decide_eq_true own)
    rw [if_neg absent]
    rfl
  | some counter =>
    have accepted := List.find?_some found
    have own : counter.key = key := of_decide_eq_true accepted
    have listed := List.mem_map_of_mem (f := fun c : Counter => (c.key, c.count))
      (List.mem_of_find?_eq_some found)
    rw [own] at listed
    obtain ⟨shown, counted⟩ := (h counter.count).mp listed
    rw [if_pos shown, ← counted]
    rfl

/-- Of the keys of its subgroup that documents have, a facet on one field counts those that fewer
others outrank than it has room for. -/
theorem Response.count_counter? {settings : Settings} {query : Query} {facet : Facet}
    (flat : facet.application.levels = false) (single : Facet.fieldMark ∉ facet.field.toList)
    (documents : List Json) {key : String} (named : key ∈ facet.subgroup)
    (carried : ∃ document ∈ documents, key ∈ document.terms facet.field) :
    ((facetResult query facet (Aggregation.facetView facet (Aggregation.termsOf settings facet)
        documents)).value.counter? key).map Counter.count =
      if Aggregation.outranking facet.field documents key < settings.facetSize then
        some (Aggregation.carriers facet.field documents key)
      else none := by
  apply FacetResult.map_count_counter?
  intro count
  have kept : facet.keeps key = true := Facet.keeps_iff.mpr (.inr named)
  rw [entries_facetResult settings query flat documents, Facet.fields_of_single single,
    List.mem_filter, Aggregation.mem_topKeys_iff]
  simp only [kept, carried, and_true, true_and]
  exact and_comm

/-! ## Searches of a store -/

/-- A facet on one field, without levels, reports of the keys of its subgroup that documents of its
scope have exactly those that fewer other terms of these documents outrank than the facet has room
for, each with the number of documents that have it. -/
theorem Engine.search_subgroup (engine : Engine) (store : Store) (timing : Timing)
    {query : Query} {request : Request} {facet : Facet}
    (h : Request.ofQuery engine.settings query = .ok request)
    (hfacet : facet ∈ query.facets.items) (kind : facet.kind = .field)
    (single : Facet.fieldMark ∉ facet.field.toList)
    (flat : facet.application.levels = false) :
    ∃ result scope counted,
      (engine.search (Backend.ofStore store) timing query).value.1 = .ok result ∧
      Combination.ofFilters engine.settings query.filters.items (Aggregation.ownFilter? facet)
        true = .ok scope ∧
      result.facets.get? facet.name = some counted ∧
      let admitted := (store.primary engine.settings).filter scope.clause.holds
      ∀ key ∈ facet.subgroup, (∃ document ∈ admitted, key ∈ document.terms facet.field) →
        (counted.counter? key).map Counter.count =
          if Aggregation.outranking facet.field admitted key < engine.settings.facetSize then
            some (Aggregation.carriers facet.field admitted key)
          else none := by
  obtain ⟨result, scope, buckets, answered, hscope, hbuckets, found⟩ :=
    search_facet engine store timing h hfacet
  obtain rfl := Except.ok.inj ((Aggregation.bucketsOf_of_field kind).symm.trans hbuckets)
  refine ⟨result, scope, _, answered, hscope, found, ?_⟩
  intro admitted key named carried
  exact Response.count_counter? flat single admitted named carried

def narrowEngine : Engine where
  settings := { facetSize := 1 }

open SearchResult in
/-- Of two colours the one of more products is reported, and there is no room for the other. -/
theorem Engine.search_subgroup_paint :
    ∃ request, Request.ofQuery narrowEngine.settings (paintQuery ["red", "blue"]) = .ok request ∧
      ∃ result counted,
        (narrowEngine.search (Backend.ofStore paintStore) {} (paintQuery ["red", "blue"])).value.1 =
          .ok result ∧
        result.facets.get? "color" = some counted ∧
        (counted.counter? "blue").map Counter.count = some 2 ∧
        (counted.counter? "red").map Counter.count = none := by
  have compiled : ∃ request,
      Request.ofQuery narrowEngine.settings (paintQuery ["red", "blue"]) = .ok request := ⟨_, rfl⟩
  obtain ⟨request, h⟩ := compiled
  have asked : paintFacet ["red", "blue"] ∈ (paintQuery ["red", "blue"]).facets.items :=
    List.mem_singleton.mpr rfl
  obtain ⟨result, scope, counted, answered, hscope, found, counts⟩ :=
    Engine.search_subgroup narrowEngine paintStore {} h asked rfl (by decide) rfl
  refine ⟨request, h, result, counted, answered, found, ?_⟩
  cases hscope
  have blue := counts "blue" (by decide) (by decide +kernel)
  have red := counts "red" (by decide) (by decide +kernel)
  rw [if_pos (by decide +kernel)] at blue
  rw [if_neg (by decide +kernel)] at red
  refine ⟨blue.trans ?_, red⟩
  decide +kernel

open SearchResult in
/-- The only colour that the subgroup names is that of a product, and it is not reported, because a
colour that the subgroup does not name takes the room. -/
theorem Engine.subgroup_key_without_room :
    paintFacet ["red"] ∈ (paintQuery ["red"]).facets.items ∧
      ∃ result scope counted,
        (narrowEngine.search (Backend.ofStore paintStore) {} (paintQuery ["red"])).value.1 =
          .ok result ∧
        Combination.ofFilters narrowEngine.settings (paintQuery ["red"]).filters.items
          (Aggregation.ownFilter? (paintFacet ["red"])) true = .ok scope ∧
        result.facets.get? "color" = some counted ∧
        Aggregation.carriers "color"
          ((paintStore.primary narrowEngine.settings).filter scope.clause.holds) "red" = 1 ∧
        "red" ∈ (paintFacet ["red"]).subgroup ∧ counted.counter? "red" = none :=
  ⟨List.mem_singleton.mpr rfl, _, _, _, rfl, rfl, rfl, by decide +kernel, by decide,
    by decide +kernel⟩

end FacetSearch
