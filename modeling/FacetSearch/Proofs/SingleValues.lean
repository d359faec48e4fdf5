import FacetSearch.Proofs.Tally
/-!
The counts of a facet whose documents have one value each.

Such documents are shared out among the keys, so the counts of all keys add up to the number of
documents. A facet shows as many keys as it has room for, and every key that it leaves out takes some
documents with it.

What is proved:
  1. `Aggregation.sum_ranked`: documents with one key each are counted once in all.
  2. `Aggregation.sum_topKeys_eq_iff`: the keys that are shown count all of these documents exactly
     if there is room for every key.
  3. `Response.entries_facetResult`: a facet without levels shows the counted keys that it keeps.
  4. `Engine.search_sums`: so the counters of a search add up to the number of documents that the
     facet's scope admits, exactly if there is room for the terms of all of them.
-/

namespace FacetSearch

/-! ## Sums of counts -/

theorem eraseDups_of_nodup {α : Type} [BEq α] [LawfulBEq α] {items : List α}
    (distinct : items.Nodup) : items.eraseDups = items := by
  induction items with
  | nil => rfl
  | cons first rest ih =>
    obtain ⟨fresh, later⟩ := List.nodup_cons.mp distinct
    have others : rest.filter (fun x => !x == first) = rest := by
      refine List.filter_eq_self.mpr fun x hx => ?_
      have apart : x ≠ first := fun same => fresh (same ▸ hx)
      simp [apart]
    rw [List.eraseDups_cons, others, ih later]

/-- A beginning of positive numbers adds up to all of them only if it is all of them. -/
theorem sum_take_eq_iff {numbers : List Nat} (positive : ∀ n ∈ numbers, 0 < n) (size : Nat) :
    (numbers.take size).sum = numbers.sum ↔ numbers.length ≤ size := by
  have parts : (numbers.take size).sum + (numbers.drop size).sum = numbers.sum := by
    rw [← List.sum_append_nat, List.take_append_drop]
  constructor
  · intro whole
    have none : (numbers.drop size).sum = 0 := by omega
    by_contra more
    have left : numbers.drop size ≠ [] := by
      rw [ne_eq, List.drop_eq_nil_iff]
      exact more
    obtain ⟨n, hn⟩ := List.exists_mem_of_ne_nil _ left
    have zero : n = 0 := List.sum_eq_zero_iff_forall_eq_nat.mp none n hn
    have := positive n (List.mem_of_mem_drop hn)
    omega
  · intro room
    rw [List.take_of_length_le room]

theorem FacetResult.totalCounts_eq (result : FacetResult) :
    result.totalCounts = .total (result.counters.map Counter.count).sum := by
  unfold totalCounts
  congr 1
  induction result.counters with
  | nil => rfl
  | cons counter rest ih => rw [List.foldr_cons, ih, List.map_cons, List.sum_cons]

namespace Aggregation

/-! ## Documents with one key each -/

/-- All keys of documents with their counts, in their order. -/
def ranked (fields : List String) (documents : List Json) : List (String × Nat) :=
  stableSort ranksBefore (tally (documents.flatMap (keysOf fields)))

variable {fields : List String} {documents : List Json}

theorem mem_ranked_iff {key : String} {count : Nat} :
    (key, count) ∈ ranked fields documents ↔
      key ∈ documents.flatMap (keysOf fields) ∧
        count = (documents.flatMap (keysOf fields)).count key := by
  rw [ranked, (stableSort_perm _ _).mem_iff, mem_tally_iff]

theorem ranked_pos {n : Nat} (h : n ∈ (ranked fields documents).map Prod.snd) : 0 < n := by
  obtain ⟨⟨key, count⟩, hentry, rfl⟩ := List.mem_map.mp h
  obtain ⟨occurs, rfl⟩ := mem_ranked_iff.mp hentry
  exact List.count_pos_iff.mpr occurs

/-- Every key is listed once. -/
theorem length_ranked {keys : List String} (distinct : keys.Nodup)
    (all : ∀ key, key ∈ keys ↔ key ∈ documents.flatMap (keysOf fields)) :
    (ranked fields documents).length = keys.length := by
  let counts := tally (documents.flatMap (keysOf fields))
  have same : (counts.map Prod.fst).Perm keys := by
    rw [List.perm_ext_iff_of_nodup (nodup_tally _) distinct]
    intro key
    rw [mem_keys_tally, all]
  calc (ranked fields documents).length
    _ = counts.length := (stableSort_perm ranksBefore counts).length_eq
    _ = (counts.map Prod.fst).length := by rw [List.length_map]
    _ = keys.length := same.length_eq

/-- Documents with one key each are counted once in all. -/
theorem sum_ranked (one : ∀ document ∈ documents, (keysOf fields document).length = 1) :
    ((ranked fields documents).map Prod.snd).sum = documents.length := by
  let counts := tally (documents.flatMap (keysOf fields))
  have order : ((ranked fields documents).map Prod.snd).Perm (counts.map Prod.snd) :=
    (stableSort_perm ranksBefore counts).map Prod.snd
  have ones : documents.map (fun document => (keysOf fields document).length) =
      List.replicate documents.length 1 := by
    rw [List.eq_replicate_iff, List.length_map]
    refine ⟨rfl, fun n hn => ?_⟩
    obtain ⟨document, hdocument, rfl⟩ := List.mem_map.mp hn
    exact one document hdocument
  calc ((ranked fields documents).map Prod.snd).sum
    _ = (counts.map Prod.snd).sum := order.sum_nat
    _ = (documents.flatMap (keysOf fields)).length := sum_tally _
    _ = documents.length := by rw [List.length_flatMap, ones, List.sum_replicate_nat, Nat.mul_one]

/-- The keys that are shown of documents with one key each count all of the documents exactly if
there is room for every key. -/
theorem sum_topKeys_eq_iff (one : ∀ document ∈ documents, (keysOf fields document).length = 1)
    {keys : List String} (distinct : keys.Nodup)
    (all : ∀ key, key ∈ keys ↔ key ∈ documents.flatMap (keysOf fields)) (size : Nat) :
    ((topKeys fields size documents).map Prod.snd).sum = documents.length ↔
      keys.length ≤ size := by
  have shown : (topKeys fields size documents).map Prod.snd =
      ((ranked fields documents).map Prod.snd).take size := by
    rw [← List.map_take]
    rfl
  rw [shown, ← sum_ranked one, ← length_ranked distinct all,
    sum_take_eq_iff fun _ hn => ranked_pos hn, List.length_map]

/-! ## Documents with one term each -/

/-- The terms that documents have in a field, each of them once. -/
def termsIn (field : String) (documents : List Json) : List String :=
  (documents.flatMap fun document => document.terms field).eraseDups

theorem mem_termsIn_iff {field term : String} :
    term ∈ termsIn field documents ↔ term ∈ documents.flatMap (keysOf [field]) := by
  simp only [termsIn, List.mem_eraseDups, List.mem_flatMap, keysOf]

theorem length_keysOf_of_single {field : String} {document : Json}
    (one : ∃! term, term ∈ document.terms field) : (keysOf [field] document).length = 1 := by
  obtain ⟨term, hterm, only⟩ := one
  have alone : (document.terms field).eraseDups.Perm [term] := by
    rw [List.perm_ext_iff_of_nodup (nodup_eraseDups _) (List.nodup_singleton term)]
    intro other
    rw [List.mem_eraseDups, List.mem_singleton]
    exact ⟨only other, fun same => same ▸ hterm⟩
  exact alone.length_eq

end Aggregation

/-! ## Counters -/

namespace Response

/-- A facet without levels shows the counted keys that it keeps, in their order. -/
theorem entries_facetResult (settings : Settings) (query : Query) {facet : Facet}
    (flat : facet.application.levels = false) (documents : List Json) :
    (facetResult query facet (Aggregation.facetView facet (Aggregation.termsOf settings facet)
        documents)).value.counters.map (fun counter => (counter.key, counter.count)) =
      (Aggregation.topKeys facet.fields settings.facetSize documents).filter
        fun entry => facet.keeps entry.1 := by
  let entries := Aggregation.topKeys facet.fields settings.facetSize documents
  have distinct : (entries.map Prod.fst).Nodup := Aggregation.nodup_topKeys _ _ _
  have read : buckets (Aggregation.facetView facet (Aggregation.termsOf settings facet) documents)
      facet.name = entries.map Aggregation.keyBucket := buckets_of_list rfl
  have shown := read ▸ shows_keyBuckets entries
  rw [counters_facetResult query flat shown (.of_nodup distinct),
    eraseDups_of_nodup (distinct.of_map.filter _), List.map_map]
  exact List.map_id _

end Response

/-! ## Searches of a store -/

/-- The counters of a facet on one field, without levels or a subgroup, add up to the number of
documents of the primary type that the facet's scope admits, if each of these documents has one term
in the field: exactly if the facet has room for the terms of all documents of its scope. Without
filters these are all documents of the primary type. -/
theorem Engine.search_sums (engine : Engine) (store : Store) (timing : Timing)
    {query : Query} {request : Request} {facet : Facet}
    (h : Request.ofQuery engine.settings query = .ok request)
    (hfacet : facet ∈ query.facets.items) (kind : facet.kind = .field)
    (single : Facet.fieldMark ∉ facet.field.toList) (whole : facet.subgroup = [])
    (flat : facet.application.levels = false)
    (one : ∀ document ∈ store.primary engine.settings,
      ∃! term, term ∈ document.terms facet.field) :
    ∃ result scope counted,
      (engine.search (Backend.ofStore store) timing query).value.1 = .ok result ∧
      Combination.ofFilters engine.settings query.filters.items (Aggregation.ownFilter? facet)
        true = .ok scope ∧
      result.facets.get? facet.name = some counted ∧
      let admitted := (store.primary engine.settings).filter scope.clause.holds
      let room := (Aggregation.termsIn facet.field admitted).length ≤ engine.settings.facetSize
      ((counted.counters.map Counter.count).sum = admitted.length ↔ room) ∧
      (room → admitted.length < UInt64.size → counted.totalCounts = pure admitted.length) ∧
      (query.filters.items = [] → admitted = store.primary engine.settings) := by
  obtain ⟨result, scope, buckets, answered, hscope, hbuckets, found⟩ :=
    search_facet engine store timing h hfacet
  have counting : buckets = Aggregation.termsOf engine.settings facet := by
    simp only [Aggregation.bucketsOf, kind, Except.ok.injEq] at hbuckets
    exact hbuckets.symm
  subst counting
  refine ⟨result, scope, _, answered, hscope, found, ?_⟩
  intro admitted room
  let counted := (Response.facetResult query facet
    (Aggregation.facetView facet (Aggregation.termsOf engine.settings facet) admitted)).value
  have counts : counted.counters.map Counter.count =
      (Aggregation.topKeys [facet.field] engine.settings.facetSize admitted).map Prod.snd := by
    have kept : ∀ entry : String × Nat, facet.keeps entry.1 = true := by
      intro entry
      rw [Facet.keeps, whole]
      rfl
    have entries := Response.entries_facetResult engine.settings query flat admitted
    rw [Facet.fields_of_single single, List.filter_eq_self.mpr fun entry _ => kept entry] at entries
    rw [← entries, List.map_map]
    rfl
  have alone : ∀ document ∈ admitted, (Aggregation.keysOf [facet.field] document).length = 1 :=
    fun document hdocument =>
      Aggregation.length_keysOf_of_single (one document (List.mem_of_mem_filter hdocument))
  have sum : (counted.counters.map Counter.count).sum = admitted.length ↔ room := by
    rw [counts]
    exact Aggregation.sum_topKeys_eq_iff alone (nodup_eraseDups _)
      (fun _ => Aggregation.mem_termsIn_iff) _
  refine ⟨sum, ?_, ?_⟩
  · intro fits few
    rw [FacetResult.totalCounts_eq, sum.mpr fits, Checked.total_of_lt few]
  · intro unfiltered
    rw [unfiltered] at hscope
    cases hscope
    exact List.filter_eq_self.mpr fun _ _ => rfl

/-- Three shirts, of which two are in stock, and a brand. -/
def shirtStore : Store where
  documents :=
    [{ id := "s1", type := "product", source := [("color", .text "red"), ("stock", .text "yes")] },
     { id := "s2", type := "product",
       source := [("color", .array [.text "blue", .text "blue"]), ("stock", .text "yes")] },
     { id := "s3", type := "product", source := [("color", .text "red"), ("stock", .text "no")] },
     { id := "b1", type := "brand" }]

def stockQuery : Query :=
  (Query.matchAll.filterBy
    { name := "stock", field := "stock", values := ["yes"], application := .onlyMustAll }).facetBy
    { name := "color", field := "color", application := .onlyAtLeastOne }

set_option maxRecDepth 3000 in
theorem Engine.search_sums_shirts :
    (∀ document ∈ shirtStore.primary {}, ∃! term, term ∈ document.terms "color") ∧
      ∃ result counted,
        (Engine.search {} (Backend.ofStore shirtStore) {} stockQuery).value.1 = .ok result ∧
        result.facets.get? "color" = some counted ∧ counted.totalCounts = pure 2 := by
  have compiled : ∃ request, Request.ofQuery {} stockQuery = .ok request := ⟨_, rfl⟩
  obtain ⟨request, h⟩ := compiled
  have asked : { name := "color", field := "color", application := .onlyAtLeastOne } ∈
      stockQuery.facets.items := List.mem_singleton.mpr rfl
  have terms : (shirtStore.primary {}).map (fun document => document.terms "color") =
      [["red"], ["blue", "blue"], ["red"]] := by decide +kernel
  have one : ∀ document ∈ shirtStore.primary {}, ∃! term, term ∈ document.terms "color" := by
    intro document hdocument
    have among : document.terms "color" ∈
        (shirtStore.primary {}).map fun document => document.terms "color" :=
      List.mem_map_of_mem hdocument
    rw [terms] at among
    generalize document.terms "color" = found at among
    simp only [List.mem_cons, List.not_mem_nil, or_false] at among
    rcases among with rfl | rfl | rfl
    · exact ⟨"red", by simp, by simp⟩
    · exact ⟨"blue", by simp, by simp⟩
    · exact ⟨"red", by simp, by simp⟩
  obtain ⟨result, scope, counted, answered, hscope, found, -, total, -⟩ :=
    Engine.search_sums {} shirtStore {} h asked rfl (by decide) rfl rfl one
  refine ⟨one, result, counted, answered, found, ?_⟩
  cases hscope
  rw [total (by decide +kernel) (by decide +kernel)]
  decide +kernel

end FacetSearch
