import FacetSearch.Proofs.Acceptance
import FacetSearch.Proofs.Scopes
/-!
Selecting one more value of a filter of which one value is enough.

More values mean more documents, with one exception. A range without bounds has no clause, so that a
filter with nothing else demands nothing; the first value that has a clause is then the first demand.

What is proved:
  1. `Filter.selectionHolds_snoc`: what a selection asks once a value is added to it.
  2. `Query.holds_filterBy`: a query in which a filter is put asks what that filter asks and what the
     filters of other names ask.
  3. `Query.widened_of_selectAlso`: what a query finds it still finds after the selection of one
     more value, except where the filter had ranges without bounds only; there it finds those of the
     documents found before that have the value.
-/

namespace FacetSearch

namespace Filter

/-- The filter with one more value selected. -/
def selectAlso (filter : Filter) (value : String) : Filter :=
  { filter with values := filter.values ++ [value] }

/-- A filter for ranges, none of which has bounds. -/
def IsOpen (filter : Filter) : Prop :=
  filter.kind = .range ∧ ∀ value ∈ filter.values, isVoid filter.kind value = true

/-! ## One more value -/

section Selection

variable {within : Range → Binary64 → Bool} {kind : FilterKind} {field value : String}
  {values : List String} {document : Json}

theorem selectionHolds_snoc_of_isVoid (void : isVoid kind value = true) :
    SelectionHolds within false kind field (values ++ [value]) document ↔
      SelectionHolds within false kind field values document := by
  simp [SelectionHolds, void]

theorem selectionHolds_snoc (bounding : isVoid kind value = false) :
    SelectionHolds within false kind field (values ++ [value]) document ↔
      ValueHolds within kind field value document ∨
        ∃ old ∈ values, isVoid kind old = false ∧ ValueHolds within kind field old document := by
  simp only [SelectionHolds, List.filter_append, List.filter_cons, bounding, Bool.not_false,
    if_true, List.filter_nil, List.append_eq_nil_iff, List.cons_ne_self, and_false, false_or,
    Bool.false_eq_true, if_false, List.mem_append, List.mem_filter, List.mem_singleton,
    Bool.not_eq_true']
  constructor
  · rintro ⟨v, ⟨old, holding⟩ | rfl, holds⟩
    · exact .inr ⟨v, old, holding, holds⟩
    · exact .inl holds
  · rintro (holds | ⟨v, old, holding, holds⟩)
    · exact ⟨value, .inr rfl, holds⟩
    · exact ⟨v, .inl ⟨old, holding⟩, holds⟩

/-- Where some value asks for anything, one more value is one more way to be found. -/
theorem selectionHolds_snoc_of_selectionHolds {old : String} (hold : old ∈ values)
    (bounding : isVoid kind old = false)
    (h : SelectionHolds within false kind field values document) :
    SelectionHolds within false kind field (values ++ [value]) document := by
  cases void : isVoid kind value with
  | true => exact (selectionHolds_snoc_of_isVoid void).mpr h
  | false =>
    rw [selectionHolds_snoc void]
    rcases h with none | h
    · have kept := List.filter_eq_nil_iff.mp none old hold
      simp [bounding] at kept
    · obtain ⟨v, hv, holds⟩ := h
      obtain ⟨hv, asks⟩ := List.mem_filter.mp hv
      exact .inr ⟨v, hv, by simpa using asks, holds⟩

theorem selectionHolds_of_forall_isVoid (void : ∀ old ∈ values, isVoid kind old = true) :
    SelectionHolds within false kind field values document := by
  refine .inl (List.filter_eq_nil_iff.mpr fun old hold => ?_)
  simp [void old hold]

/-- Where no value asks for anything, the first that does is asked of every document. -/
theorem selectionHolds_snoc_of_forall_isVoid (void : ∀ old ∈ values, isVoid kind old = true)
    (bounding : isVoid kind value = false) :
    SelectionHolds within false kind field (values ++ [value]) document ↔
      ValueHolds within kind field value document := by
  rw [selectionHolds_snoc bounding, or_iff_left]
  rintro ⟨old, hold, asks, -⟩
  rw [void old hold] at asks
  cases asks

end Selection

/-- A filter with values asks for something, unless it is for ranges without bounds. -/
theorem exists_bounding {filter : Filter} (selected : filter.values ≠ [])
    (closed : ¬ filter.IsOpen) : ∃ value ∈ filter.values, isVoid filter.kind value = false := by
  by_cases range : filter.kind = .range
  · by_contra none
    refine closed ⟨range, fun value hvalue => ?_⟩
    cases void : isVoid filter.kind value with
    | true => rfl
    | false => exact absurd ⟨value, hvalue, void⟩ none
  · obtain ⟨value, hvalue⟩ := List.exists_mem_of_ne_nil _ selected
    refine ⟨value, hvalue, ?_⟩
    unfold isVoid
    split
    · exact absurd ‹filter.kind = .range› range
    · rfl

theorem accepts_iff_selectionHolds {within : Range → Binary64 → Bool} {settings : Settings}
    {filter : Filter} {document : Json} (fielded : filter.kind ≠ .freeText) :
    filter.Accepts within settings none false document ↔
      SelectionHolds within filter.application.mustAll filter.kind filter.field filter.values
        document := by
  simp [Accepts, fielded]

end Filter

namespace Query

/-- The query with one more value of a filter selected. -/
def selectAlso (query : Query) (filter : Filter) (value : String) : Query :=
  query.filterBy (filter.selectAlso value)

/-! ## Queries with one filter exchanged -/

theorem holds_filterBy {settings : Settings} {query : Query} {filter : Filter} {request : Request}
    (h : Request.ofQuery settings (query.filterBy filter) = .ok request) (document : Json) :
    request.query.clause.holds document = true ↔
      filter.Accepts Range.admits settings none false document ∧
        ∀ other ∈ query.filters.items, other.name ≠ filter.name →
          other.Accepts Range.admits settings none false document := by
  obtain ⟨found, -⟩ := Request.ofQuery_eq_ok_iff.mp h
  rw [Combination.holds_ofFilters found]
  constructor
  · intro all
    refine ⟨all filter (KeyedList.mem_put_iff.mpr (.inl rfl)), ?_⟩
    intro other hother apart
    exact all other (KeyedList.mem_put_iff.mpr (.inr ⟨hother, apart⟩))
  · intro accepted f hf
    rcases KeyedList.mem_put_iff.mp hf with rfl | ⟨hf, apart⟩
    · exact accepted.1
    · exact accepted.2 f hf apart

/-- Putting a filter that the query has changes nothing. -/
theorem filterBy_of_mem {query : Query} {filter : Filter} (h : filter ∈ query.filters.items) :
    query.filterBy filter = query := by
  have same : query.filters.put filter = query.filters := by
    unfold KeyedList.put
    congr
    exact upsert_of_mem query.filters.distinct h
  rw [filterBy, same]

/-- If one value of a filter is enough, a query that finds a document still finds it after the
selection of one more value, except where the filter is for ranges, none of its ranges has bounds
and the new one does. There the query finds those of the documents found before whose numbers the
new range selects. -/
theorem widened_of_selectAlso {settings : Settings} {query : Query} {filter : Filter}
    {value : String} {request request' : Request}
    (h : Request.ofQuery settings query = .ok request)
    (hfilter : filter ∈ query.filters.items) (fielded : filter.kind ≠ .freeText)
    (oneIsEnough : filter.application.mustAll = false) (selected : filter.values ≠ [])
    (h' : Request.ofQuery settings (query.selectAlso filter value) = .ok request')
    (document : Json) :
    (¬ (filter.IsOpen ∧ Filter.isVoid filter.kind value = false) →
      request.query.clause.holds document = true → request'.query.clause.holds document = true) ∧
    (filter.IsOpen → Filter.isVoid filter.kind value = false →
      (request'.query.clause.holds document = true ↔
        request.query.clause.holds document = true ∧
          Filter.ValueHolds Range.admits filter.kind filter.field value document)) := by
  rw [← filterBy_of_mem hfilter] at h
  have before := holds_filterBy h document
  have after := holds_filterBy h' document
  have fielded' : (filter.selectAlso value).kind ≠ .freeText := fielded
  rw [Filter.accepts_iff_selectionHolds fielded, oneIsEnough] at before
  rw [Filter.accepts_iff_selectionHolds fielded'] at after
  simp only [Filter.selectAlso, oneIsEnough] at after
  rw [before, after]
  -- The filters of other names ask the same before and after.
  constructor
  · intro usual found
    refine ⟨?_, found.2⟩
    cases void : Filter.isVoid filter.kind value with
    | true => exact (Filter.selectionHolds_snoc_of_isVoid void).mpr found.1
    | false =>
      have closed : ¬ filter.IsOpen := fun onlyOpen => usual ⟨onlyOpen, void⟩
      obtain ⟨old, hold, bounding⟩ := Filter.exists_bounding selected closed
      exact Filter.selectionHolds_snoc_of_selectionHolds hold bounding found.1
  · intro onlyOpen bounding
    rw [Filter.selectionHolds_snoc_of_forall_isVoid onlyOpen.2 bounding]
    constructor
    · intro found
      exact ⟨⟨Filter.selectionHolds_of_forall_isVoid onlyOpen.2, found.2⟩, found.1⟩
    · intro found
      exact ⟨found.2, found.1.2⟩

end Query

def pricedDocument (price : Nat) : Json := .object [("real_price", .ofNat price)]

set_option maxRecDepth 3000 in
/-- Fifteen is found between ten and twenty, and still is with thirty to forty beside it. -/
theorem Query.widened_of_selectAlso_fifteen :
    ∃ request request',
      Request.ofQuery {} (Query.matchAll.filterBy priceFilter) = .ok request ∧
      priceFilter ∈ (Query.matchAll.filterBy priceFilter).filters.items ∧
      priceFilter.kind ≠ .freeText ∧ priceFilter.application.mustAll = false ∧
      priceFilter.values ≠ [] ∧
      Request.ofQuery {}
        ((Query.matchAll.filterBy priceFilter).selectAlso priceFilter "30..40") = .ok request' ∧
      request.query.clause.holds (pricedDocument 15) = true ∧
      request'.query.clause.holds (pricedDocument 15) = true := by
  obtain ⟨request, h, found⟩ : ∃ request,
      Request.ofQuery {} (Query.matchAll.filterBy priceFilter) = .ok request ∧
        request.query.clause.holds (pricedDocument 15) = true := ⟨_, rfl, by decide +kernel⟩
  obtain ⟨request', h'⟩ : ∃ request', Request.ofQuery {}
      ((Query.matchAll.filterBy priceFilter).selectAlso priceFilter "30..40") = .ok request' :=
    ⟨_, rfl⟩
  have hfilter : priceFilter ∈ (Query.matchAll.filterBy priceFilter).filters.items :=
    List.mem_singleton_self _
  have closed : ¬ (priceFilter.IsOpen ∧ Filter.isVoid priceFilter.kind "30..40" = false) := by
    intro only
    have bounds : Filter.isVoid priceFilter.kind "10..20" = false := by decide +kernel
    rw [only.1.2 "10..20" (List.mem_singleton_self _)] at bounds
    cases bounds
  exact ⟨request, request', h, hfilter, by decide, by decide, by decide, h', found,
    (Query.widened_of_selectAlso h hfilter (by decide) (by decide) (by decide) h' _).1 closed
      found⟩

def openFilter : Filter := { priceFilter with values := [".."] }

set_option maxRecDepth 3000 in
/-- Five is found among all prices, and no longer once ten to twenty is selected beside them. -/
theorem Query.narrowed_of_openFilter :
    ∃ request request',
      Request.ofQuery {} (Query.matchAll.filterBy openFilter) = .ok request ∧
      openFilter ∈ (Query.matchAll.filterBy openFilter).filters.items ∧
      openFilter.kind = .range ∧ openFilter.application.mustAll = false ∧
      openFilter.values ≠ [] ∧
      Request.ofQuery {}
        ((Query.matchAll.filterBy openFilter).selectAlso openFilter "10..20") = .ok request' ∧
      request.query.clause.holds (pricedDocument 5) = true ∧
      request'.query.clause.holds (pricedDocument 5) = false :=
  ⟨_, _, rfl, List.mem_singleton_self _, rfl, rfl, by decide, rfl, by decide +kernel,
    by decide +kernel⟩

end FacetSearch
