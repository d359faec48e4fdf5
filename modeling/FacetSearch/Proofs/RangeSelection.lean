import FacetSearch.Proofs.Acceptance
import FacetSearch.Proofs.Buckets
/-!
The documents that a range filter finds against those that the bucket of the same token counts.

The clause of a filter keeps its bounds as integers where it can and refuses numbers beyond them;
the bucket accepts the numbers within the range itself.

What is proved:
  1. `RangeBucket.counts_iff`: a bucket counts a document among any others if the document has a
     number in the bucket's range.
  2. `Range.holds_iff_counts`: the clause of a decoded range finds what the bucket counts and,
     besides, every document that reads not-a-number in the field.
-/

namespace FacetSearch

/-! ## Counted documents -/

namespace RangeBucket

/-- The document adds one to the bucket's count, whatever other documents are counted. -/
def Counts (bucket : RangeBucket) (field : String) (document : Json) : Prop :=
  ∀ before after : List Json,
    Response.documentCount
        (Aggregation.rangeBucket field (before ++ document :: after) bucket) =
      Response.documentCount (Aggregation.rangeBucket field (before ++ after) bucket) + 1

theorem documentCount_eq (bucket : RangeBucket) (field : String) (documents : List Json) :
    Response.documentCount (Aggregation.rangeBucket field documents bucket) =
      Aggregation.countInRange field bucket.range documents :=
  Response.documentCount_eq (Response.shows_rangeBucket field documents bucket).2

theorem counts_iff {bucket : RangeBucket} {field : String} {document : Json} :
    bucket.Counts field document ↔
      ∃ x ∈ document.numbers field, bucket.range.contains x = true := by
  rw [← List.any_eq_true]
  unfold Counts
  simp only [documentCount_eq, Aggregation.countInRange, List.countP_append, List.countP_cons]
  cases (document.numbers field).any bucket.range.contains with
  | true =>
    refine iff_of_true (fun before after => ?_) rfl
    rw [if_pos rfl]
    omega
  | false =>
    -- Alone, the document leaves the bucket empty.
    refine iff_of_false (fun counts => ?_) Bool.false_ne_true
    have alone := counts [] []
    simp at alone

end RangeBucket

/-! ## Found documents -/

theorem Clause.holds_range_iff {token : String} {range : Range}
    (h : Range.decode token = .ok range) (field : String) (document : Json) :
    (Clause.range field (Bounds.ofRange range)).holds document = true ↔
      (∃ x ∈ document.numbers field, range.contains x = true) ∨
        .nan ∈ document.numbers field := by
  simp only [Clause.holds, List.any_eq_true, Bounds.contains_ofRange h, Range.admits,
    Bool.or_eq_true, decide_eq_true_eq]
  constructor
  · intro found
    obtain ⟨x, hx, inside | rfl⟩ := found
    · exact .inl ⟨x, hx, inside⟩
    · exact .inr hx
  · intro found
    obtain ⟨x, hx, inside⟩ | hx := found
    · exact ⟨x, hx, .inl inside⟩
    · exact ⟨_, hx, .inr rfl⟩

/-- The clause of a token finds the documents that the token's bucket counts and those that read
not-a-number. So the two agree on a document unless not-a-number is there and no number is in the
range. -/
theorem Range.holds_iff_counts {token : String} {range : Range}
    (h : Range.decode token = .ok range) (bounded : range.isUnbounded = false) (field : String)
    (document : Json) :
    ∃ clause bucket, Clause.ofRange? field range = some clause ∧
      RangeBucket.ofToken token = .ok bucket ∧
      (clause.holds document = true ↔
        bucket.Counts field document ∨ .nan ∈ document.numbers field) ∧
      ((clause.holds document = true ↔ bucket.Counts field document) ↔
        ¬ (.nan ∈ document.numbers field ∧
          ∀ x ∈ document.numbers field, range.contains x = false)) := by
  have clause : Clause.ofRange? field range = some (.range field (Bounds.ofRange range)) := by
    rw [Filter.ofRange?_eq, bounded]
    rfl
  have bucket : RangeBucket.ofToken token = .ok ⟨token, range⟩ :=
    bind_eq_ok_iff.mpr ⟨range, h, rfl⟩
  have counts : RangeBucket.Counts ⟨token, range⟩ field document ↔
      ∃ x ∈ document.numbers field, range.contains x = true := RangeBucket.counts_iff
  have found := Clause.holds_range_iff h field document
  rw [← counts] at found
  refine ⟨_, _, clause, bucket, found, ?_⟩
  have outside : (∀ x ∈ document.numbers field, range.contains x = false) ↔
      ¬ RangeBucket.Counts ⟨token, range⟩ field document := by
    rw [counts]
    simp
  rw [found, outside]
  constructor
  · intro agree exception
    exact exception.2 (agree.mp (.inr exception.1))
  · intro noException
    refine ⟨?_, .inl⟩
    rintro (counted | hx)
    · exact counted
    · by_contra missed
      exact noException ⟨hx, missed⟩

set_option maxRecDepth 3000 in
theorem Range.holds_iff_counts_price :
    ∃ range, Range.decode "10..20" = .ok range ∧ range.isUnbounded = false ∧
      ∃ clause bucket, Clause.ofRange? "real_price" range = some clause ∧
        RangeBucket.ofToken "10..20" = .ok bucket ∧
        (clause.holds spelledPrice = true ↔
          bucket.Counts "real_price" spelledPrice ∨ .nan ∈ spelledPrice.numbers "real_price") := by
  have decoded : ∃ range, Range.decode "10..20" = .ok range ∧ range.isUnbounded = false :=
    ⟨_, rfl, by decide +kernel⟩
  obtain ⟨range, h, bounded⟩ := decoded
  obtain ⟨clause, bucket, found, made, agree, -⟩ :=
    Range.holds_iff_counts h bounded "real_price" spelledPrice
  exact ⟨range, h, bounded, clause, bucket, found, made, agree⟩

set_option maxRecDepth 3000 in
/-- A price that is not a number is found between ten and twenty and not counted there. -/
theorem Range.uncounted_spelled_price :
    ∃ range clause bucket, Range.decode "10..20" = .ok range ∧ range.isUnbounded = false ∧
      Clause.ofRange? "real_price" range = some clause ∧
      RangeBucket.ofToken "10..20" = .ok bucket ∧
      clause.holds spelledPrice = true ∧ ¬ bucket.Counts "real_price" spelledPrice := by
  refine ⟨_, _, _, rfl, ?_, rfl, rfl, ?_, ?_⟩
  · decide +kernel
  · decide +kernel
  · rw [RangeBucket.counts_iff]
    decide +kernel

end FacetSearch
