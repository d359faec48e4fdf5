import Mathlib.Algebra.GroupWithZero.Nat
import FacetSearch.Proofs.Buckets
/-!
Counting keys, and the counters that a facet of one field gets from the counted keys.

What is proved:
  1. `countOf_tally`, `nodup_tally` and `mem_tally_iff`: a tally has every key once, with the number
     of times that it occurs; `sum_tally`: in all it counts as many as there are.
  2. `mem_topKeys`: a counted key comes with the number of documents that have it, however often
     they have it.
  3. `Response.count_of_counter`: so a counter of one field has the number of documents with its
     key there.
-/

namespace FacetSearch

namespace Aggregation

/-! ## Tallies -/

/-- The count of a key, zero for a key that was not counted. -/
def countOf (key : String) : List (String × Nat) → Nat
  | [] => 0
  | (k, n) :: rest => if k = key then n else countOf key rest

theorem countOf_countKey (counts : List (String × Nat)) (key wanted : String) :
    countOf wanted (countKey counts key) =
      countOf wanted counts + if key = wanted then 1 else 0 := by
  induction counts with
  | nil => simp [countKey, countOf]
  | cons entry rest ih =>
    obtain ⟨k, n⟩ := entry
    by_cases same : k = key
    · subst same
      by_cases own : k = wanted <;> simp [countKey, countOf, own]
    · by_cases own : k = wanted
      · subst own
        simp [countKey, countOf, same, Ne.symm same]
      · simp [countKey, countOf, same, own, ih]

theorem countOf_tally (keys : List String) (wanted : String) :
    countOf wanted (tally keys) = keys.count wanted := by
  -- Over any counts so far, so that the induction goes through the fold.
  have run : ∀ (keys : List String) (counts : List (String × Nat)),
      countOf wanted (keys.foldl countKey counts) = countOf wanted counts + keys.count wanted := by
    intro keys
    induction keys with
    | nil => intro counts; rfl
    | cons key rest ih =>
      intro counts
      rw [List.foldl_cons, ih, countOf_countKey, List.count_cons]
      simp only [beq_iff_eq]
      omega
  have whole := run keys []
  rw [countOf, Nat.zero_add] at whole
  exact whole

theorem mem_keys_countKey {counts : List (String × Nat)} {key k : String} :
    k ∈ (countKey counts key).map Prod.fst ↔ k ∈ counts.map Prod.fst ∨ k = key := by
  induction counts with
  | nil => simp [countKey]
  | cons entry rest ih =>
    obtain ⟨first, n⟩ := entry
    by_cases same : first = key
    · subst same
      simp only [countKey, if_true, List.map_cons, List.mem_cons]
      rw [or_right_comm, or_self]
    · simp only [countKey, same, if_false, List.map_cons, List.mem_cons, ih]
      rw [or_assoc]

theorem nodup_countKey {counts : List (String × Nat)} (key : String)
    (distinct : (counts.map Prod.fst).Nodup) :
    ((countKey counts key).map Prod.fst).Nodup := by
  induction counts with
  | nil => simp [countKey]
  | cons entry rest ih =>
    obtain ⟨first, n⟩ := entry
    obtain ⟨fresh, later⟩ := List.nodup_cons.mp distinct
    by_cases same : first = key
    · simp only [countKey, same, if_true, List.map_cons]
      rw [same] at fresh
      exact List.nodup_cons.mpr ⟨fresh, later⟩
    · simp only [countKey, same, if_false, List.map_cons]
      refine List.nodup_cons.mpr ⟨?_, ih later⟩
      rw [mem_keys_countKey, not_or]
      exact ⟨fresh, same⟩

theorem nodup_tally (keys : List String) : ((tally keys).map Prod.fst).Nodup := by
  have run : ∀ (keys : List String) (counts : List (String × Nat)),
      (counts.map Prod.fst).Nodup → ((keys.foldl countKey counts).map Prod.fst).Nodup := by
    intro keys
    induction keys with
    | nil => exact fun _ distinct => distinct
    | cons key rest ih => exact fun counts distinct => ih _ (nodup_countKey key distinct)
  exact run keys [] List.nodup_nil

theorem countOf_eq_of_mem {counts : List (String × Nat)} {key : String} {count : Nat}
    (distinct : (counts.map Prod.fst).Nodup) (h : (key, count) ∈ counts) :
    countOf key counts = count := by
  induction counts with
  | nil => simp at h
  | cons entry rest ih =>
    obtain ⟨fresh, later⟩ := List.nodup_cons.mp distinct
    rcases List.mem_cons.mp h with rfl | hrest
    · simp [countOf]
    · have other : entry.1 ≠ key := by
        intro same
        subst same
        exact fresh (List.mem_map.mpr ⟨_, hrest, rfl⟩)
      rw [countOf, if_neg other]
      exact ih later hrest

theorem mem_keys_tally {keys : List String} {key : String} :
    key ∈ (tally keys).map Prod.fst ↔ key ∈ keys := by
  have run : ∀ (keys : List String) (counts : List (String × Nat)),
      key ∈ (keys.foldl countKey counts).map Prod.fst ↔
        key ∈ counts.map Prod.fst ∨ key ∈ keys := by
    intro keys
    induction keys with
    | nil => simp
    | cons first rest ih =>
      intro counts
      rw [List.foldl_cons, ih, mem_keys_countKey, List.mem_cons, or_assoc]
  rw [tally, run]
  simp

/-- A tally holds the keys that occur, each with the number of times that it does. -/
theorem mem_tally_iff {keys : List String} {key : String} {count : Nat} :
    (key, count) ∈ tally keys ↔ key ∈ keys ∧ count = keys.count key := by
  constructor
  · intro h
    refine ⟨mem_keys_tally.mp (List.mem_map.mpr ⟨_, h, rfl⟩), ?_⟩
    rw [← countOf_tally, countOf_eq_of_mem (nodup_tally keys) h]
  · rintro ⟨occurs, rfl⟩
    obtain ⟨⟨found, times⟩, hfound, same⟩ := List.mem_map.mp (mem_keys_tally.mpr occurs)
    change found = key at same
    subst same
    have counted := countOf_eq_of_mem (nodup_tally keys) hfound
    rw [countOf_tally] at counted
    rw [counted]
    exact hfound

theorem tally_concat (keys : List String) (key : String) :
    tally (keys ++ [key]) = countKey (tally keys) key := by
  rw [tally, List.foldl_append]
  rfl

theorem sum_countKey (counts : List (String × Nat)) (key : String) :
    ((countKey counts key).map Prod.snd).sum = (counts.map Prod.snd).sum + 1 := by
  induction counts with
  | nil => rfl
  | cons entry rest ih =>
    obtain ⟨k, n⟩ := entry
    by_cases same : k = key
    · simp only [countKey, if_pos same, List.map_cons, List.sum_cons]
      omega
    · simp only [countKey, if_neg same, List.map_cons, List.sum_cons, ih]
      omega

/-- A tally counts everything once. -/
theorem sum_tally (keys : List String) : ((tally keys).map Prod.snd).sum = keys.length := by
  have run : ∀ (keys : List String) (counts : List (String × Nat)),
      ((keys.foldl countKey counts).map Prod.snd).sum =
        (counts.map Prod.snd).sum + keys.length := by
    intro keys
    induction keys with
    | nil => exact fun _ => rfl
    | cons key rest ih =>
      intro counts
      rw [List.foldl_cons, ih, sum_countKey, List.length_cons]
      omega
  have whole := run keys []
  rw [List.map_nil, List.sum_nil, Nat.zero_add] at whole
  exact whole

/-! ## Documents per key -/

theorem nodup_keysOf (fields : List String) (document : Json) :
    (keysOf fields document).Nodup := by
  unfold keysOf
  split
  · exact nodup_eraseDups _
  · split
    · exact List.nodup_singleton _
    · exact List.nodup_nil

theorem count_keysOf (fields : List String) (documents : List Json) (key : String) :
    (documents.flatMap (keysOf fields)).count key =
      documents.countP fun document => key ∈ keysOf fields document := by
  induction documents with
  | nil => rfl
  | cons document rest ih =>
    rw [List.flatMap_cons, List.count_append, ih, List.countP_cons,
      (nodup_keysOf fields document).count]
    by_cases holds : key ∈ keysOf fields document
    · simp only [holds, if_true, decide_true]
      omega
    · simp [holds]

theorem nodup_topKeys (fields : List String) (size : Nat) (documents : List Json) :
    ((topKeys fields size documents).map Prod.fst).Nodup := by
  unfold topKeys
  have sorted := (stableSort_perm ranksBefore (tally (documents.flatMap (keysOf fields)))).map
    Prod.fst
  rw [List.map_take]
  exact (sorted.nodup_iff.mpr (nodup_tally _)).sublist (List.take_sublist _ _)

/-- A counted key comes with the number of documents that have it. -/
theorem mem_topKeys {fields : List String} {size : Nat} {documents : List Json} {key : String}
    {count : Nat} (h : (key, count) ∈ topKeys fields size documents) :
    count = documents.countP fun document => key ∈ keysOf fields document := by
  have tallied : (key, count) ∈ tally (documents.flatMap (keysOf fields)) :=
    (stableSort_perm _ _).mem_iff.mp (List.mem_of_mem_take h)
  rw [← countOf_eq_of_mem (nodup_tally _) tallied, countOf_tally, count_keysOf]

end Aggregation

theorem Text.splitAt_of_not_mem {sep : Char} {cs : List Char} (h : sep ∉ cs) :
    splitAt sep cs = [cs] := by
  induction cs with
  | nil => rfl
  | cons c rest ih =>
    obtain ⟨first, later⟩ : sep ≠ c ∧ sep ∉ rest := by simpa using h
    rw [splitAt, if_neg first.symm, ih later]
    rfl

/-- A facet without bars counts the keys of one field. -/
theorem Facet.fields_of_single {facet : Facet} (single : fieldMark ∉ facet.field.toList) :
    facet.fields = [facet.field] := by
  unfold fields Text.pieces
  rw [Text.splitAt_of_not_mem single, List.map_singleton, String.ofList_toList]

/-- Counting among the documents that a scope admits is counting the stored documents of the primary
type that the scope admits. -/
theorem Store.countP_primary (store : Store) (settings : Settings) (admits counts : Json → Bool) :
    ((store.primary settings).filter admits).countP counts =
      store.documents.countP fun document =>
        document.isPrimary settings && (admits document.fields && counts document.fields) := by
  rw [List.countP_filter, primary, List.countP_map, List.countP_filter]
  apply List.countP_congr
  intro document _
  simp only [Function.comp_apply, Bool.and_eq_true]
  constructor
  · intro h
    exact ⟨h.2, h.1.2, h.1.1⟩
  · intro h
    exact ⟨⟨h.2.2, h.2.1⟩, h.1⟩

/-! ## Counters -/

namespace Response

theorem buckets_of_list {facet : Facet} {tree : Aggregation} {documents : List Json}
    {shown : List Json} (h : Aggregation.evaluate documents tree = Aggregation.bucketList shown) :
    buckets (Aggregation.facetView facet tree documents) facet.name = shown := by
  have inner : (Aggregation.facetView facet tree documents).get? facet.name =
      some (Aggregation.bucketList shown) := by
    simp only [Aggregation.facetView, Json.get?, Json.findMember?_putMember, if_true, h]
  unfold buckets
  rw [inner]
  rfl

theorem shows_keyBuckets (entries : List (String × Nat)) :
    List.Forall₂ Shows (entries.map Aggregation.keyBucket) entries := by
  induction entries with
  | nil => exact .nil
  | cons entry rest ih => exact .cons (shows_keyBucket entry) ih

/-- A counter of a facet of one field has the number of documents with its key in the field. -/
theorem count_of_counter {settings : Settings} {query : Query} {facet : Facet}
    (flat : facet.application.levels = false) (single : Facet.fieldMark ∉ facet.field.toList)
    {documents : List Json} {counter : Counter}
    (h : counter ∈ (facetResult query facet (Aggregation.facetView facet
      (Aggregation.termsOf settings facet) documents)).value.counters) :
    counter.count = documents.countP fun document =>
      counter.key ∈ document.terms facet.field := by
  have entries : buckets (Aggregation.facetView facet (Aggregation.termsOf settings facet)
      documents) facet.name = (Aggregation.topKeys facet.fields settings.facetSize documents).map
        Aggregation.keyBucket := buckets_of_list rfl
  have shown := entries ▸ shows_keyBuckets _
  rw [counters_facetResult query flat shown (.of_nodup (Aggregation.nodup_topKeys _ _ _)),
    Facet.fields_of_single single] at h
  obtain ⟨⟨key, count⟩, hentry, rfl⟩ := List.mem_map.mp h
  have counted := Aggregation.mem_topKeys (List.mem_of_mem_filter (List.mem_eraseDups.mp hentry))
  change count = _
  rw [counted]
  apply List.countP_congr
  intro document _
  simp only [decide_eq_true_eq]
  exact List.mem_eraseDups

end Response

end FacetSearch
