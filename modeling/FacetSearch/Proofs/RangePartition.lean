import FacetSearch.Proofs.Counters
import FacetSearch.Proofs.Order
import FacetSearch.Proofs.RangeSelection
/-!
Range buckets that lie side by side.

Cuts divide the line into ranges, each of which ends where the next one begins. The lower end belongs
to a range and the upper does not, so that every number lies in one of them, also at a cut; and
not-a-number lies in none.

What is proved:
  1. `Range.countP_between`: a number lies in exactly one of the ranges between cuts.
  2. `Range.contains_nan_between`: not-a-number lies in none of them.
  3. `RangeBucket.countP_counts`: so a document with one number is counted in one bucket, and one
     without numbers in none.
  4. `Aggregation.counts_between`: the counts of the buckets add up to the number of documents that
     have a number, if none has two.
-/

namespace FacetSearch

/-! ## Ranges between cuts -/

namespace Range

/-- The ranges that follow one another from `low` on, each up to the next cut; the last one has no
end. -/
def adjacent (low : Binary64) : List Binary64 → List Range
  | [] => [⟨low, none⟩]
  | cut :: rest => ⟨low, some cut⟩ :: adjacent cut rest

/-- The ranges below the first cut, between each cut and the next, and from the last one up. -/
def between (cuts : List Binary64) : List Range := adjacent .zero cuts

example (a b : Binary64) : between [a, b] = [⟨.zero, some a⟩, ⟨a, some b⟩, ⟨b, none⟩] := rfl

theorem contains_of_high (low cut x : Binary64) :
    contains ⟨low, some cut⟩ x = (contains ⟨low, none⟩ x && x.lt cut) := by
  simp [contains, lower?, upper?]

theorem contains_of_low {low : Binary64} (positive : Binary64.zero.lt low = true) (x : Binary64) :
    contains ⟨low, none⟩ x = low.le x := by
  simp [contains, lower?, upper?, positive]

/-- A number lies in one of the ranges that follow one another, if it is not below all of them. -/
theorem countP_adjacent {x : Binary64} (number : x ≠ .nan) {low : Binary64} {cuts : List Binary64}
    (positive : ∀ cut ∈ cuts, Binary64.zero.lt cut = true)
    (increasing : (low :: cuts).Pairwise fun a b => a.lt b = true) :
    (adjacent low cuts).countP (fun range => range.contains x) =
      if contains ⟨low, none⟩ x then 1 else 0 := by
  induction cuts generalizing low with
  | nil => simp [adjacent]
  | cons cut rest ih =>
    obtain ⟨below, later⟩ := List.pairwise_cons.mp increasing
    have above := positive cut List.mem_cons_self
    have cutNumber : cut ≠ .nan := by
      rintro rfl
      cases above
    have beyond : (!x.lt cut) = cut.le x := Bounds.not_lt_eq_le number cutNumber
    rw [adjacent, List.countP_cons, ih (fun c hc => positive c (.tail _ hc)) later,
      contains_of_high, contains_of_low above, ← beyond]
    -- At the cut and above it the number is above the lower end too.
    have reached : x.lt cut = false → contains ⟨low, none⟩ x = true := by
      intro notBelow
      have atLeast : cut.le x = true := by rw [← beyond, notBelow, Bool.not_false]
      have lower := Binary64.lt_of_lt_of_le (below cut List.mem_cons_self) atLeast
      by_cases bound : Binary64.zero.lt low = true
      · rw [contains_of_low bound]
        exact Binary64.le_of_lt lower
      · simp [contains, lower?, upper?, bound]
    cases side : x.lt cut with
    | true => simp
    | false => simp [reached side]

/-- Every number lies in exactly one of the ranges between cuts. -/
theorem countP_between {x : Binary64} (number : x ≠ .nan) {cuts : List Binary64}
    (positive : ∀ cut ∈ cuts, Binary64.zero.lt cut = true)
    (increasing : cuts.Pairwise fun a b => a.lt b = true) :
    (between cuts).countP (fun range => range.contains x) = 1 := by
  have all : contains ⟨.zero, none⟩ x = true := rfl
  rw [between, countP_adjacent number positive (List.pairwise_cons.mpr ⟨positive, increasing⟩),
    if_pos all]

theorem contains_nan_adjacent {low : Binary64} (bound : Binary64.zero.lt low = true)
    {cuts : List Binary64} (positive : ∀ cut ∈ cuts, Binary64.zero.lt cut = true) :
    ∀ range ∈ adjacent low cuts, range.contains .nan = false := by
  induction cuts generalizing low with
  | nil =>
    intro range hrange
    rw [List.mem_singleton.mp hrange, contains_of_low bound]
    cases low <;> rfl
  | cons cut rest ih =>
    intro range hrange
    rcases List.mem_cons.mp hrange with rfl | later
    · rw [contains_of_high]
      exact Bool.and_false _
    · exact ih (positive cut List.mem_cons_self) (fun c hc => positive c (.tail _ hc)) range later

/-- Not-a-number lies in no range between cuts, of which there is one at least. -/
theorem contains_nan_between {cuts : List Binary64} (cut : cuts ≠ [])
    (positive : ∀ cut ∈ cuts, Binary64.zero.lt cut = true) :
    ∀ range ∈ between cuts, range.contains .nan = false := by
  cases cuts with
  | nil => exact absurd rfl cut
  | cons first rest =>
    intro range hrange
    rcases List.mem_cons.mp hrange with rfl | later
    · rfl
    · exact contains_nan_adjacent (positive first List.mem_cons_self)
        (fun c hc => positive c (.tail _ hc)) range later

end Range

/-! ## Documents in buckets -/

/-- The numbers that a document has in a field, not-a-number left out. -/
def Json.trueNumbers (document : Json) (field : String) : List Binary64 :=
  (document.numbers field).filter fun x => x ≠ .nan

theorem Range.any_contains_eq {range : Range} (outside : range.contains .nan = false)
    (document : Json) (field : String) :
    (document.numbers field).any range.contains =
      (document.trueNumbers field).any range.contains := by
  rw [Json.trueNumbers, List.any_filter]
  refine List.any_congr rfl fun x => ?_
  by_cases isNaN : x = .nan
  · simp [isNaN, outside]
  · simp [isNaN]

namespace RangeBucket

instance (bucket : RangeBucket) (field : String) (document : Json) :
    Decidable (bucket.Counts field document) :=
  decidable_of_iff _ counts_iff.symm

variable {cuts : List Binary64} {buckets : List RangeBucket}

/-- A document with at most one number is counted in as many buckets between cuts as it has
numbers. -/
theorem countP_counts (cut : cuts ≠ []) (positive : ∀ cut ∈ cuts, Binary64.zero.lt cut = true)
    (increasing : cuts.Pairwise fun a b => a.lt b = true)
    (sides : buckets.map RangeBucket.range = Range.between cuts) {field : String} {document : Json}
    (few : (document.trueNumbers field).length ≤ 1) :
    (buckets.countP fun bucket => bucket.Counts field document) =
      (document.trueNumbers field).length := by
  have counted : (buckets.countP fun bucket => bucket.Counts field document) =
      (Range.between cuts).countP fun range => (document.trueNumbers field).any range.contains := by
    rw [← sides, List.countP_map]
    refine List.countP_congr fun bucket hbucket => ?_
    have among : bucket.range ∈ Range.between cuts := sides ▸ List.mem_map_of_mem hbucket
    have outside := Range.contains_nan_between cut positive _ among
    rw [Function.comp_apply, ← Range.any_contains_eq outside, decide_eq_true_eq, counts_iff,
      List.any_eq_true]
  rw [counted]
  cases numbers : document.trueNumbers field with
  | nil => simp
  | cons x rest =>
    have alone : rest = [] := by
      rw [numbers, List.length_cons] at few
      exact List.eq_nil_of_length_eq_zero (by omega)
    have number : x ≠ .nan := by
      have hx : x ∈ document.trueNumbers field := numbers ▸ List.mem_cons_self
      simpa using (List.mem_filter.mp hx).2
    subst alone
    simpa using Range.countP_between number positive increasing

end RangeBucket

/-! ## Counts of buckets -/

/-- One more item adds to all counts together as many as there are tests that it passes. -/
theorem sum_countP_cons {α β : Type} (passes : β → α → Bool) (tests : List β) (item : α)
    (items : List α) :
    (tests.map fun test => (item :: items).countP (passes test)).sum =
      (tests.map fun test => items.countP (passes test)).sum
        + tests.countP fun test => passes test item := by
  induction tests with
  | nil => rfl
  | cons test rest ih =>
    rw [List.map_cons, List.sum_cons, ih, List.map_cons, List.sum_cons, List.countP_cons,
      List.countP_cons]
    omega

/-- Counting for each test the items that pass it counts for each item the tests that it passes. -/
theorem sum_countP_comm {α β : Type} (passes : β → α → Bool) (tests : List β) (items : List α) :
    (tests.map fun test => items.countP (passes test)).sum =
      (items.map fun item => tests.countP fun test => passes test item).sum := by
  induction items with
  | nil => simp
  | cons item rest ih => rw [sum_countP_cons, ih, List.map_cons, List.sum_cons, Nat.add_comm]

/-- The documents have as many numbers as there are documents with one, if none has two. -/
theorem sum_trueNumbers {field : String} {documents : List Json}
    (few : ∀ document ∈ documents, (document.trueNumbers field).length ≤ 1) :
    (documents.map fun document => (document.trueNumbers field).length).sum =
      documents.countP fun document => document.trueNumbers field ≠ [] := by
  induction documents with
  | nil => rfl
  | cons document rest ih =>
    have atMost := few document List.mem_cons_self
    rw [List.map_cons, List.sum_cons, ih fun other later => few other (.tail _ later),
      List.countP_cons]
    cases numbers : document.trueNumbers field with
    | nil => simp
    | cons x others =>
      rw [numbers, List.length_cons] at atMost
      rw [if_pos (by simp), List.length_cons]
      omega

namespace Aggregation

theorem counts_bucketsOver_range (name field : String) (buckets : List RangeBucket)
    (documents : List Json) :
    (bucketsOver documents (.range name field buckets)).map Response.documentCount =
      buckets.map fun bucket =>
        documents.countP fun document => bucket.Counts field document := by
  show (buckets.map (rangeBucket field documents)).map Response.documentCount = _
  rw [List.map_map]
  refine List.map_congr_left fun bucket _ => ?_
  rw [Function.comp_apply, RangeBucket.documentCount_eq, countInRange]
  refine List.countP_congr fun document _ => ?_
  rw [decide_eq_true_eq, RangeBucket.counts_iff, List.any_eq_true]

/-- Of buckets for the ranges between cuts exactly one counts a document with one number, and none a
document without numbers. So the counts of documents with at most one number each add up to the number
of those that have one. -/
theorem counts_between {cuts : List Binary64} (cut : cuts ≠ [])
    (positive : ∀ cut ∈ cuts, Binary64.zero.lt cut = true)
    (increasing : cuts.Pairwise fun a b => a.lt b = true) {buckets : List RangeBucket}
    (sides : buckets.map RangeBucket.range = Range.between cuts) (name field : String) :
    (∀ document : Json, (document.trueNumbers field).length = 1 →
      (buckets.countP fun bucket => bucket.Counts field document) = 1) ∧
    (∀ document : Json, document.trueNumbers field = [] →
      ∀ bucket ∈ buckets, ¬ bucket.Counts field document) ∧
    ∀ documents : List Json,
      (∀ document ∈ documents, (document.trueNumbers field).length ≤ 1) →
      ((bucketsOver documents (.range name field buckets)).map Response.documentCount).sum =
        documents.countP fun document => document.trueNumbers field ≠ [] := by
  have counted : ∀ document : Json, (document.trueNumbers field).length ≤ 1 →
      (buckets.countP fun bucket => bucket.Counts field document) =
        (document.trueNumbers field).length :=
    fun _ few => RangeBucket.countP_counts cut positive increasing sides few
  refine ⟨?_, ?_, ?_⟩
  · intro document one
    rw [counted document (by omega), one]
  · intro document none
    have zero := counted document (by simp [none])
    rw [none, List.length_nil, List.countP_eq_zero] at zero
    simpa using zero
  · intro documents few
    calc ((bucketsOver documents (.range name field buckets)).map Response.documentCount).sum
      _ = (buckets.map fun bucket =>
            documents.countP fun document => bucket.Counts field document).sum := by
          rw [counts_bucketsOver_range]
      _ = (documents.map fun document =>
            buckets.countP fun bucket => bucket.Counts field document).sum :=
          sum_countP_comm (fun bucket document => bucket.Counts field document) buckets documents
      _ = (documents.map fun document => (document.trueNumbers field).length).sum := by
          rw [List.map_congr_left fun document hdocument => counted document (few _ hdocument)]
      _ = documents.countP fun document => document.trueNumbers field ≠ [] := sum_trueNumbers few

/-- Documents with a price below zero, at a cut, in a text, with none, and with not-a-number. -/
def spreadPrices : List Json :=
  [.object [("price", .text "-3")], .object [("price", .array [.ofNat 10, .text "NaN"])],
   .object [("price", .text "25")], .object [], .object [("price", .text "NaN")]]

set_option maxRecDepth 3000 in
theorem counts_between_three :
    ∃ buckets, ["..10", "10..20", "20.."].mapM RangeBucket.ofToken = .ok buckets ∧
      buckets.map RangeBucket.range = Range.between [Binary64.ofInt 10, Binary64.ofInt 20] ∧
      (∀ document ∈ spreadPrices, (document.trueNumbers "price").length ≤ 1) ∧
      ((bucketsOver spreadPrices (.range "prices" "price" buckets)).map
        Response.documentCount).sum = 3 := by
  have made : ∃ buckets, ["..10", "10..20", "20.."].mapM RangeBucket.ofToken = .ok buckets ∧
      buckets.map RangeBucket.range = Range.between [Binary64.ofInt 10, Binary64.ofInt 20] :=
    ⟨_, rfl, by decide +kernel⟩
  obtain ⟨buckets, tokens, sides⟩ := made
  have few : ∀ document ∈ spreadPrices, (document.trueNumbers "price").length ≤ 1 := by
    decide +kernel
  obtain ⟨-, -, sum⟩ := counts_between (by simp) (by decide +kernel) (by decide +kernel) sides
    "prices" "price"
  refine ⟨buckets, tokens, sides, few, (sum spreadPrices few).trans ?_⟩
  decide +kernel

end Aggregation

end FacetSearch
