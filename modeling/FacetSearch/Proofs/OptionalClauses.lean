import FacetSearch.Proofs.Acceptance
/-!
The optional clauses that filters compile to.

A boolean clause may leave it open how many of its optional clauses have to match. Then one has to
where they stand alone and none where another clause decides, so that a demand joined to them would
make them count for nothing. What filters compile to never leaves it open, at any depth.

What is proved:
  1. `Clause.isExplicit_clause_iff`: a boolean clause is explicit all through if it is itself and the
     clauses that it combines are.
  2. `Clause.holds_filled`: a number that is filled in where none is given changes nothing about what
     an explicit clause matches.
  3. `Filter.isExplicit_fieldClause`: one filter compiles to an explicit clause, also where a forced
     term joins its values.
  4. `Combination.explicit_ofFilters`: a list of filters compiles to a conjunction that is explicit
     all through, of boolean clauses of which none is empty.
-/

namespace FacetSearch

/-! ## Parts of clauses -/

namespace Clause

/-- The clause is another one, or stands in it at some depth. -/
inductive IsPart (part : Clause) : Clause → Prop where
  | self : IsPart part part
  | nested {relation : String} {inner : Clause} (within : IsPart part inner) :
    IsPart part (.nested relation inner)
  | bool {must should filter : List Clause} {minimumShould : Option Nat} {clause : Clause}
    (among : clause ∈ must ++ should ++ filter) (within : IsPart part clause) :
    IsPart part (.bool must should filter minimumShould)

end Clause

/-- The combination says how many of its optional clauses have to match, which is one, exactly if it
has any; and it has at most one of the two kinds of clauses that count towards the score. -/
structure Combination.IsExplicit (c : Combination) : Prop where
  minimum : c.minimumShould = if c.should = [] then none else some 1
  apart : c.must = [] ∨ c.should = []

namespace Clause

/-- Every boolean clause, at any depth, is explicit about its optional clauses. -/
def IsExplicit (clause : Clause) : Prop :=
  ∀ part : Combination, part.clause.IsPart clause → part.IsExplicit

theorem isExplicit_matchAll : matchAll.IsExplicit := by
  intro part h
  cases h

theorem isExplicit_term (field value : String) : (term field value).IsExplicit := by
  intro part h
  cases h

theorem isExplicit_words (field text : String) : (words field text).IsExplicit := by
  intro part h
  cases h

theorem isExplicit_range (field : String) (bounds : Bounds) : (range field bounds).IsExplicit := by
  intro part h
  cases h

theorem isExplicit_nested_iff {relation : String} {inner : Clause} :
    (nested relation inner).IsExplicit ↔ inner.IsExplicit := by
  constructor
  · intro explicit part h
    exact explicit part (.nested h)
  · intro explicit part h
    cases h with
    | nested within => exact explicit part within

theorem isExplicit_clause_iff {c : Combination} :
    c.clause.IsExplicit ↔
      c.IsExplicit ∧ ∀ clause ∈ c.must ++ c.should ++ c.filter, clause.IsExplicit := by
  constructor
  · intro explicit
    exact ⟨explicit c .self, fun clause among part h => explicit part (.bool among h)⟩
  · intro explicit part h
    obtain ⟨own, each⟩ := explicit
    obtain ⟨must, should, filter, minimumShould⟩ := c
    obtain ⟨must', should', filter', minimumShould'⟩ := part
    cases h with
    | self => exact own
    | bool among within => exact each _ among _ within

/-! ## Numbers that are filled in -/

mutual

/-- The clause with a number filled in wherever a boolean clause gives none. The number may go by
whether there are clauses that all have to match, with and without a score. -/
def filled (unstated : Bool → Bool → Nat) : Clause → Clause
  | nested relation inner => nested relation (inner.filled unstated)
  | bool must should filter minimumShould =>
    bool (listFilled unstated must) (listFilled unstated should) (listFilled unstated filter)
      (some (minimumShould.getD (unstated must.isEmpty filter.isEmpty)))
  | clause => clause

def listFilled (unstated : Bool → Bool → Nat) : List Clause → List Clause
  | [] => []
  | clause :: rest => clause.filled unstated :: listFilled unstated rest

end

variable {unstated : Bool → Bool → Nat}

theorem isEmpty_listFilled (clauses : List Clause) :
    (listFilled unstated clauses).isEmpty = clauses.isEmpty := by
  cases clauses <;> rfl

mutual

theorem holds_filled (clause : Clause) (explicit : clause.IsExplicit) (document : Json) :
    (clause.filled unstated).holds document = clause.holds document := by
  cases clause with
  | nested relation inner =>
    have same : (inner.filled unstated).holds = inner.holds := by
      funext view
      exact holds_filled inner (isExplicit_nested_iff.mp explicit) view
    rw [filled, holds, holds, same]
  | bool must should filter minimumShould =>
    obtain ⟨own, each⟩ := isExplicit_clause_iff
      (c := { must, should, filter, minimumShould }).mp explicit
    simp only [List.forall_mem_append] at each
    obtain ⟨⟨inMust, inShould⟩, inFilter⟩ := each
    rw [filled, holds, holds, allHold_listFilled must inMust, allHold_listFilled filter inFilter,
      countHolding_listFilled should inShould, isEmpty_listFilled should]
    have given : minimumShould = if should = [] then none else some 1 := own.minimum
    cases should with
    | nil => rfl
    | cons first rest =>
      rw [if_neg (List.cons_ne_nil first rest)] at given
      rw [given]
      rfl
  | _ => rfl

theorem allHold_listFilled (clauses : List Clause)
    (explicit : ∀ clause ∈ clauses, clause.IsExplicit) (document : Json) :
    allHold (listFilled unstated clauses) document = allHold clauses document := by
  cases clauses with
  | nil => rfl
  | cons clause rest =>
    obtain ⟨first, later⟩ := List.forall_mem_cons.mp explicit
    rw [listFilled, allHold, allHold, holds_filled clause first, allHold_listFilled rest later]

theorem countHolding_listFilled (clauses : List Clause)
    (explicit : ∀ clause ∈ clauses, clause.IsExplicit) (document : Json) :
    countHolding (listFilled unstated clauses) document = countHolding clauses document := by
  cases clauses with
  | nil => rfl
  | cons clause rest =>
    obtain ⟨first, later⟩ := List.forall_mem_cons.mp explicit
    rw [listFilled, countHolding, countHolding, holds_filled clause first,
      countHolding_listFilled rest later]

end

-- Where a number is missing, what is filled in decides.
example :
    (bool [] [term "color" "red"] [matchAll] none).holds .empty = true ∧
      ((bool [] [term "color" "red"] [matchAll] none).filled fun _ _ => 1).holds .empty = false := by
  decide

end Clause

namespace Filter

/-! ## Filters -/

theorem isExplicit_valueClause {kind : FilterKind} {field value : String} {made : Option Clause}
    (h : valueClause kind field value = .ok made) : ∀ clause ∈ made, clause.IsExplicit := by
  cases kind with
  | field =>
    cases h
    simpa using Clause.isExplicit_term field value
  | nested =>
    cases h
    simpa using Clause.isExplicit_nested_iff.mpr (Clause.isExplicit_term field value)
  | range =>
    obtain ⟨range, -, h⟩ := bind_eq_ok_iff.mp h
    rw [pure_eq_ok_iff, ofRange?_eq] at h
    subst h
    split
    · simp
    · simpa using Clause.isExplicit_range field _
  | freeText =>
    cases h
    simp

theorem isExplicit_valueClauses {kind : FilterKind} {field : String} {values : List String}
    {clauses : List Clause} (h : valueClauses kind field values = .ok clauses) :
    ∀ clause ∈ clauses, clause.IsExplicit := by
  induction values generalizing clauses with
  | nil =>
    cases h
    simp
  | cons value rest ih =>
    obtain ⟨made, hmade, h⟩ := bind_eq_ok_iff.mp h
    obtain ⟨others, hothers, h⟩ := bind_eq_ok_iff.mp h
    rw [← pure_eq_ok_iff.mp h, List.forall_mem_append]
    refine ⟨?_, ih hothers⟩
    intro clause among
    exact isExplicit_valueClause hmade clause (by simpa using among)

/-- Clauses of which one has to match are explicit, whatever is demanded beside them. -/
theorem isExplicit_anyOf {clauses demanded : List Clause}
    (selected : ∀ clause ∈ clauses, clause.IsExplicit)
    (forced : ∀ clause ∈ demanded, clause.IsExplicit) :
    (Combination.clause { anyOf clauses with filter := demanded }).IsExplicit := by
  refine Clause.isExplicit_clause_iff.mpr ⟨⟨?_, .inl rfl⟩, ?_⟩
  · simp [anyOf]
  · simpa [anyOf, or_imp, forall_and] using ⟨selected, forced⟩

/-- Clauses that all have to match are explicit. -/
theorem isExplicit_allOf {must filter : List Clause}
    (selected : ∀ clause ∈ must, clause.IsExplicit)
    (forced : ∀ clause ∈ filter, clause.IsExplicit) :
    (Combination.clause { must, filter }).IsExplicit := by
  refine Clause.isExplicit_clause_iff.mpr ⟨⟨rfl, .inr rfl⟩, ?_⟩
  simpa [or_imp, forall_and] using ⟨selected, forced⟩

theorem isExplicit_forcedClauses {filter : Filter} {clauses : List Clause}
    (h : filter.forcedClauses = .ok clauses) : ∀ clause ∈ clauses, clause.IsExplicit := by
  unfold forcedClauses at h
  cases demanded : filter.forced with
  | none =>
    rw [demanded] at h
    cases h
    simp
  | some term =>
    rw [demanded] at h
    obtain ⟨made, hmade, h⟩ := bind_eq_ok_iff.mp h
    rw [← pure_eq_ok_iff.mp h]
    split
    · simp
    · have nothing : ∀ clause ∈ ([] : List Clause), clause.IsExplicit := by simp
      have combined : (anyOf made).clause.IsExplicit :=
        isExplicit_anyOf (isExplicit_valueClauses hmade) nothing
      simpa using combined

theorem isExplicit_fieldClause {filter : Filter} {suppressed withForced : Bool}
    {part : Combination} (h : filter.fieldClause suppressed withForced = .ok part) :
    part.clause.IsExplicit := by
  obtain ⟨selected, forced, hselected, hforced, rfl⟩ := fieldClause_eq_ok_iff.mp h
  have selections : ∀ clause ∈ selected, clause.IsExplicit := by
    cases suppressed with
    | true =>
      cases hselected
      simp
    | false => exact isExplicit_valueClauses hselected
  have demands : ∀ clause ∈ forced, clause.IsExplicit := by
    cases withForced with
    | true => exact isExplicit_forcedClauses hforced
    | false =>
      cases hforced
      simp
  split
  · exact isExplicit_allOf selections demands
  · exact isExplicit_anyOf selections demands

theorem isExplicit_freeTextClause {settings : Settings} {filter : Filter} {suppressed : Bool} :
    ∀ clause ∈ filter.freeTextClause? settings suppressed, clause.IsExplicit := by
  intro clause made
  obtain ⟨text, -, rfl⟩ := Option.map_eq_some_iff.mp made
  split
  · exact Clause.isExplicit_matchAll
  · exact Clause.isExplicit_words _ _

/-- What a filter adds to the conjunction is explicit, and what it demands without a score is a
boolean clause that is not empty. -/
theorem isExplicit_demand {settings : Settings} {ignored : Option String} {withForced : Bool}
    {filter : Filter} {part : Combination}
    (h : filter.demand settings ignored withForced = .ok part) :
    (∀ clause ∈ part.must, clause.IsExplicit) ∧
    ∀ clause ∈ part.filter, clause.IsExplicit ∧
      ∃ inner : Combination, clause = inner.clause ∧ 0 < inner.size := by
  unfold demand at h
  by_cases text : filter.kind = .freeText
  · rw [if_pos text] at h
    rw [← pure_eq_ok_iff.mp h]
    refine ⟨?_, by simp⟩
    intro clause among
    exact isExplicit_freeTextClause clause (by simpa using among)
  · rw [if_neg text] at h
    obtain ⟨made, hmade, h⟩ := bind_eq_ok_iff.mp h
    rw [← pure_eq_ok_iff.mp h]
    refine ⟨by simp, ?_⟩
    cases empty : made.isEmpty with
    | true => simp
    | false =>
      have any : 0 < made.size := by
        simp only [Combination.isEmpty, Bool.and_eq_false_iff, List.isEmpty_eq_false_iff] at empty
        simp only [Combination.size, Nat.add_pos_iff_pos_or_pos, List.length_pos_iff]
        exact empty
      simpa using ⟨isExplicit_fieldClause hmade, made, rfl, any⟩

end Filter

/-! ## Lists of filters -/

/-- A list of filters compiles to a conjunction that has no optional clauses of its own and gives no
number of them. What it demands without a score are boolean clauses that are not empty. Every boolean
clause, at any depth, says that one of its optional clauses has to match if it has any, says nothing
otherwise, and does not have them beside clauses that all have to match with a score. So the
conjunction matches the same documents whatever number is filled in where none is given. -/
theorem Combination.explicit_ofFilters {settings : Settings} {filters : List Filter}
    {ignored : Option String} {withForced : Bool} {c : Combination}
    (h : ofFilters settings filters ignored withForced = .ok c) :
    c.should = [] ∧ c.minimumShould = none ∧
    (∀ clause ∈ c.filter, ∃ part : Combination, clause = part.clause ∧ 0 < part.size) ∧
    (∀ part : Combination, part.clause.IsPart c.clause →
      (part.minimumShould = if part.should = [] then none else some 1) ∧
      (part.must = [] ∨ part.should = [])) ∧
    ∀ unstated document, (c.clause.filled unstated).holds document = c.clause.holds document := by
  obtain ⟨parts, hparts, rfl⟩ := ofFilters_eq_ok_iff.mp h
  have demands : ∀ part ∈ parts, (∀ clause ∈ part.must, clause.IsExplicit) ∧
      ∀ clause ∈ part.filter, clause.IsExplicit ∧
        ∃ inner : Combination, clause = inner.clause ∧ 0 < inner.size := by
    intro part hpart
    obtain ⟨filter, -, made⟩ := exists_result_of_mem hparts.flip hpart
    exact Filter.isExplicit_demand made
  have explicit : (Combination.clause
      { must := parts.flatMap must, filter := parts.flatMap Combination.filter }).IsExplicit := by
    refine Filter.isExplicit_allOf ?_ ?_
    · intro clause among
      obtain ⟨part, hpart, among⟩ := List.mem_flatMap.mp among
      exact (demands part hpart).1 clause among
    · intro clause among
      obtain ⟨part, hpart, among⟩ := List.mem_flatMap.mp among
      exact ((demands part hpart).2 clause among).1
  refine ⟨rfl, rfl, ?_, ?_, ?_⟩
  · intro clause among
    obtain ⟨part, hpart, among⟩ := List.mem_flatMap.mp among
    exact ((demands part hpart).2 clause among).2
  · intro part within
    have own := explicit part within
    exact ⟨own.minimum, own.apart⟩
  · intro unstated document
    exact Clause.holds_filled _ explicit document

/-- A filter for two colours that demands a season in any case. -/
def seasonFilter : Filter where
  name := "color"
  field := "color"
  values := ["red", "blue"]
  application := .onlyAtLeastOne
  forced := some { field := "tag_group", value := "season" }

/-- The clauses of that filter: one of two colours, and the season as a choice of one. -/
def seasonDemand : Combination where
  should := [.term "color" "red", .term "color" "blue"]
  filter := [(Filter.anyOf [.term "tag_group" "season"]).clause]
  minimumShould := some 1

set_option maxRecDepth 3000 in
/-- The colours stay a choice although the season is demanded beside them. -/
theorem Combination.explicit_ofFilters_season :
    ∃ c, ofFilters {} [seasonFilter, priceFilter, .freeText "phone"] none true = .ok c ∧
      c.should = [] ∧ c.minimumShould = none ∧ seasonDemand.clause.IsPart c.clause ∧
      seasonDemand.minimumShould = (if seasonDemand.should = [] then none else some 1) ∧
      ∀ unstated document,
        (c.clause.filled unstated).holds document = c.clause.holds document := by
  have compiled : ∃ c,
      ofFilters {} [seasonFilter, priceFilter, .freeText "phone"] none true = .ok c ∧
      c.filter.head? = some seasonDemand.clause := ⟨_, rfl, rfl⟩
  obtain ⟨c, compiled, first⟩ := compiled
  obtain ⟨optional, unstated, -, explicit, same⟩ := explicit_ofFilters compiled
  have part : seasonDemand.clause.IsPart c.clause :=
    .bool (List.mem_append_right _ (List.mem_of_head? first)) .self
  exact ⟨c, compiled, optional, unstated, part, (explicit seasonDemand part).1, same⟩

end FacetSearch
