import Mathlib.Data.List.Induction
import Mathlib.Data.List.Nodup
import FacetSearch.Proofs.Scopes
/-!
From the buckets of a response to the counters of a facet.

`Response.Shows` says what a bucket of a response shows, its key and its count, and
`FacetResult.addCounters` counts such pairs directly; the buckets in between carry more than that.

What is proved:
  1. `shows_keyBucket`, `shows_rangeBucket`: buckets show what they were made from.
  2. `FacetResult.counters_addCounters`: pairs get one counter each, at the first place of their
     key, if no two different ones have one key.
  3. `Response.counters_facetResult`: the counters of a facet without levels are those of the pairs
     that its buckets show and whose keys it keeps.
-/

namespace FacetSearch

theorem nodup_eraseDups {α : Type} [BEq α] [LawfulBEq α] (items : List α) :
    items.eraseDups.Nodup := by
  cases items with
  | nil => simp
  | cons x rest =>
    rw [List.eraseDups_cons, List.nodup_cons]
    refine ⟨?_, nodup_eraseDups _⟩
    simp [List.mem_eraseDups]
termination_by items.length
decreasing_by
  have shorter := List.length_filter_le (fun y => !y == x) rest
  simp only [List.length_cons]
  omega

/-! ## What a bucket shows -/

namespace Response

/-- The bucket shows the key and the count. -/
def Shows (bucket : Json) (entry : String × Nat) : Prop :=
  bucket.get? "key" = some (.text entry.1) ∧ bucket.get? "doc_count" = some (.ofNat entry.2)

theorem shows_keyBucket (entry : String × Nat) : Shows (Aggregation.keyBucket entry) entry :=
  ⟨rfl, rfl⟩

theorem shows_rangeBucket (field : String) (documents : List Json) (bucket : RangeBucket) :
    Shows (Aggregation.rangeBucket field documents bucket)
      (bucket.key, Aggregation.countInRange field bucket.range documents) := by
  refine ⟨rfl, ?_⟩
  -- The bounds that stand between the key and the count have other names.
  unfold Aggregation.rangeBucket RangeBucket.members
  cases bucket.range.lower? <;> cases bucket.range.upper? <;> rfl

theorem addBucket_of_shows {facet : Facet} {bucket : Json} {entry : String × Nat}
    (h : Shows bucket entry) (result : FacetResult) :
    addBucket facet result bucket =
      if facet.keeps entry.1 then result.addCounter entry.1 entry.2 else result := by
  unfold addBucket
  rw [h.1, documentCount_eq h.2]
  rfl

end Response

/-! ## Counters of pairs -/

def Counter.ofEntry (applied : List String) (entry : String × Nat) : Counter :=
  .ofKey entry.1 entry.2 applied

/-- Pairs with one key are equal. -/
def KeysFix (entries : List (String × Nat)) : Prop :=
  ∀ a ∈ entries, ∀ b ∈ entries, a.1 = b.1 → a = b

theorem KeysFix.subset {entries others : List (String × Nat)} (h : KeysFix entries)
    (part : ∀ a ∈ others, a ∈ entries) : KeysFix others :=
  fun a ha b hb => h a (part a ha) b (part b hb)

theorem KeysFix.of_nodup {entries : List (String × Nat)}
    (distinct : (entries.map Prod.fst).Nodup) : KeysFix entries :=
  fun _ ha _ hb => List.inj_on_of_nodup_map distinct ha hb

theorem KeysFix.nodup_keys {entries : List (String × Nat)} (h : KeysFix entries) :
    (entries.eraseDups.map Prod.fst).Nodup := by
  refine List.Nodup.map_on (fun a ha b hb => ?_) (nodup_eraseDups entries)
  exact h a (List.mem_eraseDups.mp ha) b (List.mem_eraseDups.mp hb)

namespace Counter

theorem map_key_ofEntry (applied : List String) (entries : List (String × Nat)) :
    (entries.map (ofEntry applied)).map key = entries.map Prod.fst := by
  rw [List.map_map]
  rfl

/-- One more pair leaves the counters as they are if it was counted before, and else adds its
counter at the end. -/
theorem upsert_ofEntry (applied : List String) {entries : List (String × Nat)}
    {entry : String × Nat} (fixed : KeysFix (entries ++ [entry])) :
    upsert (fun c => c.key = (ofEntry applied entry).key) (ofEntry applied entry)
        (entries.eraseDups.map (ofEntry applied)) =
      (entries ++ [entry]).eraseDups.map (ofEntry applied) := by
  have keys := map_key_ofEntry applied entries.eraseDups
  have distinct := (fixed.subset fun a ha => List.mem_append_left [entry] ha).nodup_keys
  rw [List.eraseDups_append]
  by_cases old : entry ∈ entries
  · have there : ofEntry applied entry ∈ entries.eraseDups.map (ofEntry applied) :=
      List.mem_map.mpr ⟨entry, List.mem_eraseDups.mpr old, rfl⟩
    rw [upsert_of_mem (keys ▸ distinct) there]
    simp [List.cons_removeAll, old]
  · have fresh : (ofEntry applied entry).key ∉
        (entries.eraseDups.map (ofEntry applied)).map key := by
      rw [keys]
      intro known
      obtain ⟨other, hother, same⟩ := List.mem_map.mp known
      have before : other ∈ entries := List.mem_eraseDups.mp hother
      have equal := fixed other (List.mem_append_left _ before) entry (by simp) same
      exact old (equal ▸ before)
    rw [upsert_of_not_mem key _ _ fresh]
    simp [List.cons_removeAll, old, List.eraseDups_cons]

end Counter

namespace FacetResult

def addCounters (result : FacetResult) (entries : List (String × Nat)) : FacetResult :=
  entries.foldl (fun counted entry => counted.addCounter entry.1 entry.2) result

theorem addCounters_snoc (result : FacetResult) (entries : List (String × Nat))
    (entry : String × Nat) :
    result.addCounters (entries ++ [entry]) =
      (result.addCounters entries).addCounter entry.1 entry.2 := by
  unfold addCounters
  rw [List.foldl_append]
  rfl

theorem applied_addCounters (result : FacetResult) (entries : List (String × Nat)) :
    (result.addCounters entries).applied = result.applied := by
  induction entries using List.reverseRecOn with
  | nil => rfl
  | append_singleton entries entry ih =>
    rw [addCounters_snoc]
    exact ih

/-- Pairs whose keys fix them get one counter each, in the order in which they first come. -/
theorem counters_addCounters {result : FacetResult} (empty : result.counters = [])
    {entries : List (String × Nat)} (fixed : KeysFix entries) :
    (result.addCounters entries).counters =
      entries.eraseDups.map (Counter.ofEntry result.applied) := by
  induction entries using List.reverseRecOn with
  | nil => exact empty
  | append_singleton entries entry ih =>
    have before := ih (fixed.subset fun a ha => List.mem_append_left _ ha)
    rw [addCounters_snoc, addCounter, applied_addCounters, before]
    exact Counter.upsert_ofEntry result.applied fixed

end FacetResult

/-! ## Counters of buckets -/

namespace Response

theorem foldl_addBucket (facet : Facet) {found : List Json} {entries : List (String × Nat)}
    (shown : List.Forall₂ Shows found entries) (result : FacetResult) :
    found.foldl (addBucket facet) result =
      result.addCounters (entries.filter fun entry => facet.keeps entry.1) := by
  induction shown generalizing result with
  | nil => rfl
  | @cons bucket entry found entries hbucket _ ih =>
    rw [List.foldl_cons, addBucket_of_shows hbucket, ih]
    by_cases kept : facet.keeps entry.1
    · rw [if_pos kept, List.filter_cons_of_pos (by simpa using kept)]
      rfl
    · rw [if_neg kept, List.filter_cons_of_neg (by simpa using kept)]

/-- The values that a query selects for a facet. -/
def appliedTo (query : Query) (facet : Facet) : List String :=
  ((query.filters.get? facet.name).map Filter.values).getD []

/-- Without levels, the counters of a facet are those of the pairs that its buckets show and whose
keys it keeps. -/
theorem counters_facetResult (query : Query) {facet : Facet}
    (flat : facet.application.levels = false) {scope : Json} {entries : List (String × Nat)}
    (shown : List.Forall₂ Shows (buckets scope facet.name) entries)
    (fixed : KeysFix entries) :
    (facetResult query facet scope).value.counters =
      (entries.filter fun entry => facet.keeps entry.1).eraseDups.map
        (Counter.ofEntry (appliedTo query facet)) := by
  unfold facetResult
  simp only [flat, Bool.false_eq_true, if_false, Checked.value_pure]
  rw [foldl_addBucket facet shown, FacetResult.counters_addCounters rfl]
  · rfl
  · exact fixed.subset fun a ha => List.mem_of_mem_filter ha

end Response

end FacetSearch
