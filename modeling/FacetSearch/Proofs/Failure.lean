import FacetSearch.Proofs.Acceptance
import FacetSearch.Proofs.Scopes
/-!
When a search fails.

Only compiling can fail: a token that has to be read as a range is none, or a facet has the name
that the response keeps for the prices. Which tokens are read depends on the filter that a facet
looks past and on whether forced terms are demanded; over the whole query every value is read once
for the hits, and forced terms are read if there is a facet.

What is proved:
  1. `Filter.valueClauses_failsFor` to `Request.ofQuery_failsFor`: for each step of compiling, the
     reasons for which it fails.
  2. `Query.fault_iff`: over a whole query these are the faults of `Query.Fault`.
  3. `Engine.search_fails_iff`: a search of a store fails exactly as compiling does, so exactly for
     a fault of the query.
-/

namespace FacetSearch

/-! ## Range tokens -/

namespace Range

theorem bound_eq_error {token : String} {side : BoundSide} {raw : List Char} {e : SearchError}
    (h : bound token side raw = .error e) : ∃ fault, e = .malformedRange token fault := by
  unfold bound at h
  dsimp only at h
  split at h
  · cases h
  · split at h
    · split at h
      · cases h
      · cases h
        exact ⟨_, rfl⟩
    · cases h
      exact ⟨_, rfl⟩

/-- A text that is no range token is refused with an error that names it. -/
theorem decode_eq_error {token : String} {e : SearchError} (h : decode token = .error e) :
    ∃ fault, e = .malformedRange token fault := by
  unfold decode at h
  split at h
  · cases h
    exact ⟨_, rfl⟩
  · rename_i low high _
    have reasons := (FailsFor.itself (bound token .lower low)).bind fun low _ =>
      (FailsFor.itself (bound token .upper high)).bind fun high _ =>
        FailsFor.ok (ε := SearchError) (Range.mk (low.getD .zero) high)
    rcases reasons.reason_of_error e h with lower | upper | none
    · exact bound_eq_error lower
    · exact bound_eq_error upper
    · exact none.elim

end Range

/-! ## Filters -/

namespace Filter

theorem valueClause_failsFor (kind : FilterKind) (field value : String) :
    FailsFor (fun e => kind = .range ∧ Range.decode value = .error e)
      (valueClause kind field value) := by
  cases kind with
  | range =>
    have read := (FailsFor.itself (Range.decode value)).bind fun range _ =>
      FailsFor.ok (Clause.ofRange? field range)
    refine read.of_iff fun e => ?_
    simp
  | field =>
    refine (FailsFor.ok _).of_iff fun e => ?_
    simp
  | nested =>
    refine (FailsFor.ok _).of_iff fun e => ?_
    simp
  | freeText =>
    refine (FailsFor.ok _).of_iff fun e => ?_
    simp

theorem valueClauses_failsFor (kind : FilterKind) (field : String) (values : List String) :
    FailsFor (fun e => kind = .range ∧ ∃ value ∈ values, Range.decode value = .error e)
      (valueClauses kind field values) := by
  induction values with
  | nil =>
    refine (FailsFor.ok _).of_iff fun e => ?_
    simp
  | cons value rest ih =>
    have first := valueClause_failsFor kind field value
    have both := first.bind fun clause _ => ih.bind fun clauses _ =>
      FailsFor.ok (clause.toList ++ clauses)
    refine both.of_iff fun e => ?_
    simp only [List.mem_cons, exists_eq_or_imp, or_false]
    exact and_or_left

theorem forcedClauses_failsFor (filter : Filter) :
    FailsFor (fun e => filter.kind = .range ∧
        ∃ term ∈ filter.forced, Range.decode term.value = .error e)
      filter.forcedClauses := by
  unfold forcedClauses
  cases demanded : filter.forced with
  | none =>
    refine (FailsFor.ok _).of_iff fun e => ?_
    simp
  | some term =>
    have read := (valueClauses_failsFor filter.kind term.field [term.value]).bind fun clauses _ =>
      FailsFor.ok (if clauses.isEmpty then [] else [(anyOf clauses).clause])
    refine read.of_iff fun e => ?_
    simp

/-- The filter is for ranges, and the error is that of one of the tokens which it reads where the
filter named `ignored` is left out and forced terms are demanded if `withForced`. -/
def Misreads (ignored : Option String) (withForced : Bool) (filter : Filter) (e : SearchError) :
    Prop :=
  filter.kind = .range ∧
    ((ignored ≠ some filter.name ∧ ∃ value ∈ filter.values, Range.decode value = .error e) ∨
      (withForced = true ∧ ∃ term ∈ filter.forced, Range.decode term.value = .error e))

theorem fieldClause_failsFor (filter : Filter) (ignored : Option String) (withForced : Bool) :
    FailsFor (filter.Misreads ignored withForced)
      (filter.fieldClause (filter.isSuppressed ignored) withForced) := by
  have selected : FailsFor (fun e => filter.kind = .range ∧ ignored ≠ some filter.name ∧
        ∃ value ∈ filter.values, Range.decode value = .error e)
      (if filter.isSuppressed ignored then .ok []
        else valueClauses filter.kind filter.field filter.values) := by
    cases suppressed : filter.isSuppressed ignored with
    | true =>
      -- Values are left out if there are none or if the filter is ignored.
      have reason : filter.values = [] ∨ ignored = some filter.name := by
        simpa [isSuppressed, isActive] using suppressed
      refine (FailsFor.ok []).of_iff fun e => ?_
      rcases reason with none | own
      · simp [none]
      · simp [own]
    | false =>
      have reason : filter.values ≠ [] ∧ ignored ≠ some filter.name := by
        simpa [isSuppressed, isActive] using suppressed
      refine (valueClauses_failsFor filter.kind filter.field filter.values).of_iff fun e => ?_
      simp [reason.2]
  have demanded : FailsFor (fun e => filter.kind = .range ∧ withForced = true ∧
        ∃ term ∈ filter.forced, Range.decode term.value = .error e)
      (if withForced then filter.forcedClauses else .ok []) := by
    cases withForced with
    | true =>
      refine (forcedClauses_failsFor filter).of_iff fun e => ?_
      simp
    | false =>
      refine (FailsFor.ok []).of_iff fun e => ?_
      simp
  have steps : filter.fieldClause (filter.isSuppressed ignored) withForced =
      (if filter.isSuppressed ignored then .ok []
        else valueClauses filter.kind filter.field filter.values) >>= fun clauses =>
      (if withForced then filter.forcedClauses else .ok []) >>= fun forced =>
      .ok (if filter.application.mustAll then { must := clauses, filter := forced }
        else { anyOf clauses with filter := forced }) := by
    unfold fieldClause
    cases filter.isSuppressed ignored <;> cases withForced <;> rfl
  rw [steps]
  refine (selected.bind fun _ _ => demanded.bind fun _ _ => FailsFor.ok _).of_iff fun e => ?_
  unfold Misreads
  rw [or_false]
  exact and_or_left

theorem demand_failsFor (settings : Settings) (filter : Filter) (ignored : Option String)
    (withForced : Bool) :
    FailsFor (filter.Misreads ignored withForced)
      (filter.demand settings ignored withForced) := by
  unfold demand
  by_cases text : filter.kind = .freeText
  · rw [if_pos text]
    refine (FailsFor.ok _).of_iff fun e => ?_
    simp [Misreads, text]
  · rw [if_neg text]
    have made := fieldClause_failsFor filter ignored withForced
    refine (made.bind fun _ _ => FailsFor.ok _).of_iff fun e => ?_
    rw [or_false]

end Filter

theorem Combination.ofFilters_failsFor (settings : Settings) (filters : List Filter)
    (ignored : Option String) (withForced : Bool) :
    FailsFor (fun e => ∃ filter ∈ filters, filter.Misreads ignored withForced e)
      (ofFilters settings filters ignored withForced) := by
  unfold ofFilters
  refine FailsFor.foldlM (fun root filter _ => ?_) _
  rw [addFilter_eq]
  exact (filter.demand_failsFor settings ignored withForced).map root.extend

/-! ## Aggregations -/

namespace Aggregation

theorem bucketsOf_failsFor (settings : Settings) (facet : Facet) :
    FailsFor (fun e => facet.kind = .range ∧
        ∃ token ∈ facet.subgroup, Range.decode token = .error e)
      (bucketsOf settings facet) := by
  unfold bucketsOf
  cases facet.kind with
  | range =>
    have read : ∀ token ∈ facet.subgroup,
        FailsFor (fun e => Range.decode token = .error e) (RangeBucket.ofToken token) := by
      intro token _
      refine ((FailsFor.itself (Range.decode token)).bind fun _ _ => FailsFor.ok _).of_iff
        fun e => ?_
      rw [or_false]
    refine ((FailsFor.mapM read).bind fun _ _ => FailsFor.ok _).of_iff fun e => ?_
    simp
  | nested =>
    refine (FailsFor.ok _).of_iff fun e => ?_
    simp
  | field =>
    refine (FailsFor.ok _).of_iff fun e => ?_
    simp
  | freeText =>
    refine (FailsFor.ok _).of_iff fun e => ?_
    simp

theorem facetScope_failsFor (settings : Settings) (filters : List Filter) (facet : Facet) :
    FailsFor (fun e => (facet.name = commonScope ∧ e = .reservedName commonScope) ∨
        (∃ filter ∈ filters, filter.Misreads (ownFilter? facet) true e) ∨
        (facet.kind = .range ∧ ∃ token ∈ facet.subgroup, Range.decode token = .error e))
      (facetScope settings filters facet) := by
  by_cases reserved : facet.name = commonScope
  · -- The name is looked at first, so nothing else of the facet is read.
    have refused : facetScope settings filters facet = .error (.reservedName commonScope) := by
      unfold facetScope
      rw [if_pos reserved]
      rfl
    rw [refused]
    refine ⟨fun e he => ?_, fun tree made => by cases made⟩
    cases he
    exact .inl ⟨reserved, rfl⟩
  · have scope := Combination.ofFilters_failsFor settings filters (ownFilter? facet) true
    have buckets := bucketsOf_failsFor settings facet
    unfold facetScope
    rw [if_neg reserved]
    refine (scope.bind fun _ _ => buckets.bind fun _ _ => FailsFor.ok _).of_iff fun e => ?_
    simp [reserved]

theorem priceScope_failsFor (settings : Settings) (filters : List Filter) :
    FailsFor (fun e => ∃ filter ∈ filters, filter.Misreads none false e)
      (priceScope settings filters) := by
  have scope := Combination.ofFilters_failsFor settings filters none false
  refine (scope.bind fun _ _ => FailsFor.ok _).of_iff fun e => ?_
  rw [or_false]

theorem ofQuery_failsFor (settings : Settings) (query : Query) :
    FailsFor (fun e =>
        (∃ facet ∈ query.facets.items,
          (facet.name = commonScope ∧ e = .reservedName commonScope) ∨
          (∃ filter ∈ query.filters.items, filter.Misreads (ownFilter? facet) true e) ∨
          (facet.kind = .range ∧ ∃ token ∈ facet.subgroup, Range.decode token = .error e)) ∨
        ∃ filter ∈ query.filters.items, filter.Misreads none false e)
      (ofQuery settings query) := by
  have facets := FailsFor.mapM fun facet (_ : facet ∈ query.facets.items) =>
    facetScope_failsFor settings query.filters.items facet
  have prices := priceScope_failsFor settings query.filters.items
  refine (facets.bind fun _ _ => prices.bind fun _ _ => FailsFor.ok _).of_iff fun e => ?_
  rw [or_false]

end Aggregation

/-! ## Queries -/

/-- What keeps a query from being compiled, with the error that says so. -/
inductive Query.Fault (query : Query) : SearchError → Prop where
  /-- A value of a range filter is no range token. -/
  | value {filter : Filter} {value : String} {e : SearchError}
      (among : filter ∈ query.filters.items) (kind : filter.kind = .range)
      (selected : value ∈ filter.values) (malformed : Range.decode value = .error e) :
      Fault query e
  /-- A facet has the name of the scope of the prices. -/
  | reserved {facet : Facet} (asked : facet ∈ query.facets.items)
      (named : facet.name = Aggregation.commonScope) :
      Fault query (.reservedName Aggregation.commonScope)
  /-- A bucket of a range facet is no range token. -/
  | bucket {facet : Facet} {token : String} {e : SearchError}
      (asked : facet ∈ query.facets.items) (kind : facet.kind = .range)
      (listed : token ∈ facet.subgroup) (malformed : Range.decode token = .error e) :
      Fault query e
  /-- The forced term of a range filter is no range token, and there is a facet to demand it. -/
  | forced {filter : Filter} {term : FilterTerm} {e : SearchError}
      (asked : query.facets.items ≠ []) (among : filter ∈ query.filters.items)
      (kind : filter.kind = .range) (demanded : term ∈ filter.forced)
      (malformed : Range.decode term.value = .error e) :
      Fault query e

namespace Query

theorem Fault.error_eq {query : Query} {e : SearchError} (h : query.Fault e) :
    (∃ token fault, e = .malformedRange token fault) ∨
      (e = .reservedName Aggregation.commonScope ∧
        Aggregation.commonScope ∈ query.facets.keys) := by
  cases h with
  | value _ _ _ malformed => exact .inl ⟨_, Range.decode_eq_error malformed⟩
  | reserved asked named => exact .inr ⟨rfl, List.mem_map.mpr ⟨_, asked, named⟩⟩
  | bucket _ _ _ malformed => exact .inl ⟨_, Range.decode_eq_error malformed⟩
  | forced _ _ _ _ malformed => exact .inl ⟨_, Range.decode_eq_error malformed⟩

/-- The reasons for which the parts of a request fail are the faults of the query. -/
theorem fault_iff {query : Query} {e : SearchError} :
    query.Fault e ↔
      (∃ filter ∈ query.filters.items, filter.Misreads none false e) ∨
      ∃ facet ∈ query.facets.items,
        (facet.name = Aggregation.commonScope ∧ e = .reservedName Aggregation.commonScope) ∨
        (∃ filter ∈ query.filters.items,
          filter.Misreads (Aggregation.ownFilter? facet) true e) ∨
        (facet.kind = .range ∧ ∃ token ∈ facet.subgroup, Range.decode token = .error e) := by
  constructor
  · intro h
    cases h with
    | value among kind selected malformed =>
      exact .inl ⟨_, among, kind, .inl ⟨by simp, _, selected, malformed⟩⟩
    | reserved asked named => exact .inr ⟨_, asked, .inl ⟨named, rfl⟩⟩
    | bucket asked kind listed malformed =>
      exact .inr ⟨_, asked, .inr (.inr ⟨kind, _, listed, malformed⟩)⟩
    | forced asked among kind demanded malformed =>
      -- Every facet demands forced terms, also the one that looks past the filter's values.
      obtain ⟨facet, hfacet⟩ := List.exists_mem_of_ne_nil _ asked
      exact .inr ⟨facet, hfacet, .inr (.inl
        ⟨_, among, kind, .inr ⟨rfl, _, demanded, malformed⟩⟩)⟩
  · intro h
    rcases h with ⟨filter, among, kind, read⟩ | ⟨facet, asked, read⟩
    · rcases read with ⟨-, value, selected, malformed⟩ | ⟨demanding, -⟩
      · exact .value among kind selected malformed
      · cases demanding
    · rcases read with ⟨named, rfl⟩ | ⟨filter, among, kind, read⟩ | ⟨kind, token, listed, malformed⟩
      · exact .reserved asked named
      · rcases read with ⟨-, value, selected, malformed⟩ | ⟨-, term, demanded, malformed⟩
        · exact .value among kind selected malformed
        · exact .forced (List.ne_nil_of_mem asked) among kind demanded malformed
      · exact .bucket asked kind listed malformed

end Query

theorem Request.ofQuery_failsFor (settings : Settings) (query : Query) :
    FailsFor query.Fault (Request.ofQuery settings query) := by
  have hits := Combination.ofFilters_failsFor settings query.filters.items none false
  have tree := Aggregation.ofQuery_failsFor settings query
  refine (hits.bind fun _ _ => tree.bind fun _ _ => FailsFor.ok _).of_iff fun e => ?_
  rw [Query.fault_iff, or_false]
  -- The scope of the prices reads the same tokens as the hits do.
  constructor
  · rintro (value | asked)
    · exact .inl value
    · exact .inr (.inl asked)
  · rintro (value | asked | value)
    · exact .inl value
    · exact .inr asked
    · exact .inl value

/-! ## Searches -/

/-- A search of a store fails exactly if compiling does, and with the same error; compiling fails
exactly if the query has a fault, and its error is that of a range token or of the reserved name.
No response of the store is refused. -/
theorem Engine.search_fails_iff (engine : Engine) (store : Store) (timing : Timing)
    (query : Query) :
    (∀ e, (engine.search (Backend.ofStore store) timing query).value.1 = .error e ↔
      Request.ofQuery engine.settings query = .error e) ∧
    ((∃ e, Request.ofQuery engine.settings query = .error e) ↔ ∃ e, query.Fault e) ∧
    (∀ e, Request.ofQuery engine.settings query = .error e → query.Fault e ∧
      ((∃ token fault, e = .malformedRange token fault) ∨
        (e = .reservedName Aggregation.commonScope ∧
          Aggregation.commonScope ∈ query.facets.keys))) ∧
    ∀ request offset size, Request.ofQuery engine.settings query = .ok request →
      ∃ result,
        (SearchResult.ofResponse query (store.search request offset size)).value = .ok result := by
  have reasons := Request.ofQuery_failsFor engine.settings query
  refine ⟨?_, reasons.exists_error_iff, ?_, ?_⟩
  · intro e
    cases compiled : Request.ofQuery engine.settings query with
    | error e' =>
      have passedOn : (engine.search (Backend.ofStore store) timing query).value.1 = .error e' := by
        unfold search compile
        rw [compiled]
        rfl
      rw [passedOn, Except.error.injEq, Except.error.injEq]
    | ok request =>
      obtain ⟨-, result, -, answered, -⟩ := search_ofStore engine store timing compiled
      rw [answered]
      simp
  · intro e failed
    have fault := reasons.reason_of_error e failed
    exact ⟨fault, fault.error_eq⟩
  · intro request offset size compiled
    obtain ⟨-, -, -, -, facets, hfacets, htree⟩ := Request.ofQuery_eq_ok_iff.mp compiled
    exact ⟨_, ofResponse_search store offset size hfacets htree⟩

def misreadQuery : Query :=
  Query.matchAll.filterBy
    { name := "price", field := "real_price", values := ["ten"], kind := .range,
      application := .onlyAtLeastOne }

theorem Engine.search_fails_misread :
    (Engine.search {} (Backend.ofStore {}) {} misreadQuery).value.1 =
        .error (.malformedRange "ten" .noSeparator) ∧
      ∃ e, misreadQuery.Fault e := by
  obtain ⟨same, fails, -, -⟩ := Engine.search_fails_iff {} {} {} misreadQuery
  have compiled : Request.ofQuery {} misreadQuery =
      .error (.malformedRange "ten" .noSeparator) := rfl
  exact ⟨(same _).mpr compiled, fails.mp ⟨_, compiled⟩⟩

end FacetSearch
