import FacetSearch.Clause.Matching
import FacetSearch.Clause.OfFilters
import FacetSearch.Proofs.Bounds
/-!
What a compiled list of filters asks of a document.

A filter has a meaning without clauses: `Filter.ValueHolds` says what one value asks of a document,
`Filter.SelectionHolds` what several values ask together, and `Filter.Accepts` what the filter asks
when some filter is ignored and forced terms are demanded or not. Which numbers a range selects is a
parameter, `within`.

What is proved:
  1. `forall₂_valueClauses`: the clauses of the values of a filter hold where the values do, with
     ranges read by `Range.admits`; ranges without bounds have no clause.
  2. `ofFilters_eq_ok_iff`: filters are compiled one by one, and their demands are conjoined.
  3. `holds_ofFilters`: the conjunction holds where every filter accepts.
  4. `holds_ofFilters_iff_accepts`: the same, and when that is what ranges themselves ask.
-/

namespace FacetSearch

namespace Clause

/-! ## Clauses taken together -/

theorem allHold_iff {clauses : List Clause} {document : Json} :
    allHold clauses document = true ↔ ∀ c ∈ clauses, c.holds document = true := by
  induction clauses with
  | nil => simp [allHold]
  | cons c rest ih => simp [allHold, ih]

theorem countHolding_pos_iff {clauses : List Clause} {document : Json} :
    1 ≤ countHolding clauses document ↔ ∃ c ∈ clauses, c.holds document = true := by
  induction clauses with
  | nil => simp [countHolding]
  | cons c rest ih =>
    by_cases hc : c.holds document = true
    · simp only [countHolding, hc, if_true, List.mem_cons, exists_eq_or_imp, true_or, iff_true]
      omega
    · simp [countHolding, hc, ih]

theorem holds_conjunction (must filter : List Clause) (document : Json) :
    (bool must [] filter none).holds document = true ↔
      (∀ c ∈ must, c.holds document = true) ∧ ∀ c ∈ filter, c.holds document = true := by
  simp [holds, allHold_iff, and_comm]

theorem sharesWord_iff {document : Json} {field text : String} :
    sharesWord document field text = true ↔
      ∃ word ∈ Text.words text, word ∈ documentWords document field := by
  cases wanted : Text.words text with
  | nil => simp [sharesWord, wanted]
  | cons first rest => simp [sharesWord, wanted]

end Clause

namespace Filter

section Meaning

variable (within : Range → Binary64 → Bool)

/-! ## The meaning of a filter -/

/-- The value is a range without bounds, which restricts nothing. -/
def isVoid (kind : FilterKind) (value : String) : Bool :=
  match kind, Range.decode value with
  | .range, .ok range => range.isUnbounded
  | _, _ => false

/-- The value is a range that selects the number. -/
def rangeSelects (value : String) (x : Binary64) : Bool :=
  match Range.decode value with
  | .ok range => within range x
  | .error _ => false

/-- What one value asks of a document. -/
def ValueHolds (kind : FilterKind) (field value : String) (document : Json) : Prop :=
  match kind with
  | .field => value ∈ document.terms field
  | .nested => ∃ view ∈ document.nestedViews (relationOf field), value ∈ view.terms field
  | .range => ∃ x ∈ document.numbers field, rangeSelects within value x = true
  | .freeText => False

instance (kind : FilterKind) (field value : String) (document : Json) :
    Decidable (ValueHolds within kind field value document) :=
  match kind with
  | .field => inferInstanceAs (Decidable (value ∈ document.terms field))
  | .nested => inferInstanceAs (Decidable
      (∃ view ∈ document.nestedViews (relationOf field), value ∈ view.terms field))
  | .range => inferInstanceAs (Decidable
      (∃ x ∈ document.numbers field, rangeSelects within value x = true))
  | .freeText => inferInstanceAs (Decidable False)

/-- What values ask together: those that restrict anything must all hold, or one of them must. -/
def SelectionHolds (mustAll : Bool) (kind : FilterKind) (field : String) (values : List String)
    (document : Json) : Prop :=
  let restricting := values.filter fun value => !isVoid kind value
  restricting = [] ∨
    if mustAll then ∀ value ∈ restricting, ValueHolds within kind field value document
    else ∃ value ∈ restricting, ValueHolds within kind field value document

instance (mustAll : Bool) (kind : FilterKind) (field : String) (values : List String)
    (document : Json) : Decidable (SelectionHolds within mustAll kind field values document) :=
  inferInstanceAs (Decidable (_ ∨ if mustAll then _ else _))

/-- What free text asks: nothing if it is blank, else that the document shares a word with it. -/
def TextHolds (settings : Settings) (text : String) (document : Json) : Prop :=
  Text.trim text.toList = [] ∨
    ∃ word ∈ Text.words text, word ∈ Clause.documentWords document settings.freeTextField

instance (settings : Settings) (text : String) (document : Json) :
    Decidable (TextHolds settings text document) :=
  inferInstanceAs (Decidable (_ ∨ _))

/-- What the filter asks of a document where the filter named `ignored` is left out and forced terms
are demanded if `withForced`. -/
def Accepts (settings : Settings) (ignored : Option String) (withForced : Bool) (filter : Filter)
    (document : Json) : Prop :=
  if filter.kind = .freeText then
    ignored = some filter.name ∨ ∀ text ∈ filter.values.head?, TextHolds settings text document
  else
    (ignored = some filter.name ∨
      SelectionHolds within filter.application.mustAll filter.kind filter.field filter.values
        document) ∧
    (withForced = true → ∀ term ∈ filter.forced,
      SelectionHolds within false filter.kind term.field [term.value] document)

instance (settings : Settings) (ignored : Option String) (withForced : Bool) (filter : Filter)
    (document : Json) : Decidable (Accepts within settings ignored withForced filter document) :=
  inferInstanceAs (Decidable (if filter.kind = .freeText then _ else _))

end Meaning

/-! ## Values -/

theorem ofRange?_eq (field : String) (range : Range) :
    Clause.ofRange? field range =
      if range.isUnbounded then none else some (.range field (Bounds.ofRange range)) := by
  simp [Clause.ofRange?, Bounds.isEmpty, Bounds.ofRange, Range.isUnbounded]

/-- A value has a clause unless it restricts nothing, and the clause holds where the value does. -/
theorem holds_valueClause {kind : FilterKind} {field value : String} {made : Option Clause}
    (h : valueClause kind field value = .ok made) (fielded : kind ≠ .freeText) :
    (isVoid kind value = true ∧ made = none) ∨
    (isVoid kind value = false ∧ ∃ clause, made = some clause ∧ ∀ document,
      clause.holds document = true ↔ ValueHolds Range.admits kind field value document) := by
  cases kind with
  | field =>
    cases h
    refine .inr ⟨rfl, _, rfl, fun document => ?_⟩
    simp [Clause.holds, ValueHolds]
  | nested =>
    cases h
    refine .inr ⟨rfl, _, rfl, fun document => ?_⟩
    simp [Clause.holds, ValueHolds]
  | range =>
    obtain ⟨range, decoded, h⟩ := bind_eq_ok_iff.mp h
    rw [pure_eq_ok_iff, ofRange?_eq] at h
    cases unbounded : range.isUnbounded with
    | true => exact .inl ⟨by simp [isVoid, decoded, unbounded], by simp [← h, unbounded]⟩
    | false =>
      rw [unbounded] at h
      refine .inr ⟨by simp [isVoid, decoded, unbounded], _, h.symm, ?_⟩
      intro document
      simp [Clause.holds, ValueHolds, rangeSelects, decoded, Bounds.contains_ofRange decoded]
  | freeText => exact absurd rfl fielded

theorem forall₂_valueClauses {kind : FilterKind} {field : String} (fielded : kind ≠ .freeText) :
    ∀ {values : List String} {clauses : List Clause},
      valueClauses kind field values = .ok clauses →
      List.Forall₂ (fun value clause => ∀ document, clause.holds document = true ↔
          ValueHolds Range.admits kind field value document)
        (values.filter fun value => !isVoid kind value) clauses := by
  intro values
  induction values with
  | nil =>
    intro clauses h
    cases h
    exact .nil
  | cons value rest ih =>
    intro clauses h
    obtain ⟨made, hmade, h⟩ := bind_eq_ok_iff.mp h
    obtain ⟨others, hothers, h⟩ := bind_eq_ok_iff.mp h
    rw [← pure_eq_ok_iff.mp h]
    rcases holds_valueClause hmade fielded with ⟨void, rfl⟩ | ⟨holds, clause, rfl, meaning⟩
    · simpa [void] using ih hothers
    · rw [List.filter_cons_of_pos (by simp [holds])]
      exact .cons meaning (ih hothers)

/-! ## Selections -/

theorem forall_holds_iff {kind : FilterKind} {field : String} {restricting : List String}
    {clauses : List Clause} {document : Json}
    (h : List.Forall₂ (fun value clause => ∀ document, clause.holds document = true ↔
      ValueHolds Range.admits kind field value document) restricting clauses) :
    (∀ c ∈ clauses, c.holds document = true) ↔
      ∀ value ∈ restricting, ValueHolds Range.admits kind field value document := by
  induction h with
  | nil => simp
  | cons meaning _ ih => simp [meaning, ih]

theorem exists_holds_iff {kind : FilterKind} {field : String} {restricting : List String}
    {clauses : List Clause} {document : Json}
    (h : List.Forall₂ (fun value clause => ∀ document, clause.holds document = true ↔
      ValueHolds Range.admits kind field value document) restricting clauses) :
    (∃ c ∈ clauses, c.holds document = true) ↔
      ∃ value ∈ restricting, ValueHolds Range.admits kind field value document := by
  induction h with
  | nil => simp
  | cons meaning _ ih => simp [meaning, ih]

theorem holds_anyOf (clauses filter : List Clause) (document : Json) :
    (Combination.clause { anyOf clauses with filter := filter }).holds document = true ↔
      (clauses = [] ∨ ∃ c ∈ clauses, c.holds document = true) ∧
        ∀ c ∈ filter, c.holds document = true := by
  cases clauses with
  | nil => simp [Combination.clause, anyOf, Clause.holds, Clause.allHold_iff, Clause.allHold]
  | cons first rest =>
    simp only [Combination.clause, anyOf, Clause.holds, Clause.allHold_iff, Clause.allHold,
      Clause.requiredShould, Clause.countHolding_pos_iff, List.isEmpty_cons, Bool.false_eq_true,
      if_false, Bool.and_true, Bool.false_or, Bool.and_eq_true, decide_eq_true_eq]
    simp [and_comm]

/-- The clauses of a selection combine to what the selection asks. -/
theorem selectionHolds_iff {mustAll : Bool} {kind : FilterKind} {field : String}
    {values : List String} {clauses : List Clause} (fielded : kind ≠ .freeText)
    (h : valueClauses kind field values = .ok clauses) (document : Json) :
    SelectionHolds Range.admits mustAll kind field values document ↔
      if mustAll then ∀ c ∈ clauses, c.holds document = true
      else clauses = [] ∨ ∃ c ∈ clauses, c.holds document = true := by
  have meaning := forall₂_valueClauses fielded h
  -- No clause is left exactly when no value restricts anything.
  have empty : clauses = [] ↔ (values.filter fun value => !isVoid kind value) = [] := by
    rw [← List.length_eq_zero_iff, ← List.length_eq_zero_iff, meaning.length_eq]
  unfold SelectionHolds
  cases mustAll with
  | true =>
    simp only [if_true]
    rw [forall_holds_iff meaning]
    constructor
    · intro h value hvalue
      rcases h with none | all
      · rw [none] at hvalue
        simp at hvalue
      · exact all value hvalue
    · exact .inr
  | false =>
    simp only [Bool.false_eq_true, if_false]
    rw [exists_holds_iff meaning, empty]

theorem holds_forcedClauses {filter : Filter} {clauses : List Clause}
    (fielded : filter.kind ≠ .freeText) (h : filter.forcedClauses = .ok clauses)
    (document : Json) :
    (∀ c ∈ clauses, c.holds document = true) ↔ ∀ term ∈ filter.forced,
      SelectionHolds Range.admits false filter.kind term.field [term.value] document := by
  unfold forcedClauses at h
  cases demanded : filter.forced with
  | none =>
    rw [demanded] at h
    cases h
    simp
  | some term =>
    rw [demanded] at h
    obtain ⟨made, hmade, h⟩ := bind_eq_ok_iff.mp h
    rw [← pure_eq_ok_iff.mp h]
    simp only [Option.mem_def, Option.some.injEq, forall_eq', selectionHolds_iff fielded hmade]
    cases made with
    | nil => simp
    | cons first rest =>
      have combined : (anyOf (first :: rest)).clause.holds document = true ↔ _ :=
        holds_anyOf (first :: rest) [] document
      simpa using combined

/-! ## Filters -/

/-- What a filter adds to the conjunction that a query becomes. -/
def demand (settings : Settings) (ignored : Option String) (withForced : Bool) (filter : Filter) :
    Except SearchError Combination := do
  let suppressed := filter.isSuppressed ignored
  if filter.kind = .freeText then
    return { must := (filter.freeTextClause? settings suppressed).toList }
  let part ← filter.fieldClause suppressed withForced
  return { filter := if part.isEmpty then [] else [part.clause] }

theorem fieldClause_eq_ok_iff {filter : Filter} {suppressed withForced : Bool}
    {part : Combination} :
    filter.fieldClause suppressed withForced = .ok part ↔ ∃ selected forced,
      (if suppressed then .ok [] else valueClauses filter.kind filter.field filter.values)
        = .ok selected ∧
      (if withForced then filter.forcedClauses else .ok []) = .ok forced ∧
      (if filter.application.mustAll then { must := selected, filter := forced }
        else { anyOf selected with filter := forced }) = part := by
  unfold fieldClause
  cases suppressed <;> cases withForced <;> simp [bind_eq_ok_iff, map_eq_ok_iff]

theorem holds_freeTextClause (settings : Settings) (filter : Filter) (ignored : Option String)
    (document : Json) :
    (∀ c ∈ (filter.freeTextClause? settings (filter.isSuppressed ignored)).toList,
      c.holds document = true) ↔
      (ignored = some filter.name ∨
        ∀ text ∈ filter.values.head?, TextHolds settings text document) := by
  cases values : filter.values with
  | nil => simp [freeTextClause?, values]
  | cons text rest =>
    have made : filter.freeTextClause? settings (filter.isSuppressed ignored) =
        some (if ignored = some filter.name ∨ Text.trim text.toList = [] then .matchAll
          else .words settings.freeTextField text) := by
      simp [freeTextClause?, isSuppressed, isActive, values]
    rw [made]
    by_cases own : ignored = some filter.name
    · simp [own, Clause.holds]
    · by_cases blank : Text.trim text.toList = []
      · simp [blank, Clause.holds, TextHolds]
      · simp [own, blank, Clause.holds, TextHolds, Clause.sharesWord_iff]

theorem selected_iff {filter : Filter} {ignored : Option String} {selected : List Clause}
    (fielded : filter.kind ≠ .freeText)
    (h : (if filter.isSuppressed ignored then .ok []
      else valueClauses filter.kind filter.field filter.values) = .ok selected)
    (document : Json) :
    (ignored = some filter.name ∨ SelectionHolds Range.admits filter.application.mustAll
      filter.kind filter.field filter.values document) ↔
      if filter.application.mustAll then ∀ c ∈ selected, c.holds document = true
      else selected = [] ∨ ∃ c ∈ selected, c.holds document = true := by
  -- A filter without values is suppressed too, and selects nothing either way.
  cases suppressed : filter.isSuppressed ignored with
  | true =>
    rw [suppressed] at h
    cases h
    have reason : filter.values = [] ∨ ignored = some filter.name := by
      simpa [isSuppressed, isActive] using suppressed
    rcases reason with none | own
    · simp [none, SelectionHolds]
    · simp [own]
  | false =>
    rw [suppressed] at h
    have reason : filter.values ≠ [] ∧ ignored ≠ some filter.name := by
      simpa [isSuppressed, isActive] using suppressed
    rw [selectionHolds_iff fielded h]
    simp [reason.2]

theorem demanded_iff {filter : Filter} {withForced : Bool} {forced : List Clause}
    (fielded : filter.kind ≠ .freeText)
    (h : (if withForced then filter.forcedClauses else .ok []) = .ok forced) (document : Json) :
    (∀ c ∈ forced, c.holds document = true) ↔ (withForced = true → ∀ term ∈ filter.forced,
      SelectionHolds Range.admits false filter.kind term.field [term.value] document) := by
  cases withForced with
  | true => simpa using holds_forcedClauses fielded h document
  | false =>
    cases h
    simp

theorem holds_fieldClause {filter : Filter} {ignored : Option String} {withForced : Bool}
    {part : Combination} (fielded : filter.kind ≠ .freeText)
    (h : filter.fieldClause (filter.isSuppressed ignored) withForced = .ok part)
    (document : Json) :
    part.clause.holds document = true ↔
      (ignored = some filter.name ∨ SelectionHolds Range.admits filter.application.mustAll
        filter.kind filter.field filter.values document) ∧
      (withForced = true → ∀ term ∈ filter.forced,
        SelectionHolds Range.admits false filter.kind term.field [term.value] document) := by
  obtain ⟨selected, forced, hselected, hforced, rfl⟩ := fieldClause_eq_ok_iff.mp h
  rw [selected_iff fielded hselected, ← demanded_iff fielded hforced]
  cases filter.application.mustAll with
  | true => exact Clause.holds_conjunction selected forced document
  | false => exact holds_anyOf selected forced document

/-- A filter adds the demands that its meaning describes. -/
theorem holds_demand {settings : Settings} {ignored : Option String} {withForced : Bool}
    {filter : Filter} {part : Combination}
    (h : filter.demand settings ignored withForced = .ok part) (document : Json) :
    ((∀ c ∈ part.must, c.holds document = true) ∧ ∀ c ∈ part.filter, c.holds document = true) ↔
      filter.Accepts Range.admits settings ignored withForced document := by
  unfold demand at h
  unfold Accepts
  by_cases text : filter.kind = .freeText
  · rw [if_pos text] at h ⊢
    rw [← pure_eq_ok_iff.mp h, ← holds_freeTextClause]
    simp
  · rw [if_neg text] at h ⊢
    obtain ⟨made, hmade, h⟩ := bind_eq_ok_iff.mp h
    rw [← pure_eq_ok_iff.mp h, ← holds_fieldClause text hmade]
    cases empty : made.isEmpty with
    | false => simp
    | true =>
      -- An empty part is left out, which is the same as one that every document matches.
      have nothing : made.clause.holds document = true := by
        simp only [Combination.isEmpty, Bool.and_eq_true, List.isEmpty_iff] at empty
        simp [Combination.clause, empty, Clause.holds, Clause.allHold]
      simp [nothing]

end Filter

namespace Combination

/-! ## Lists of filters -/

/-- The conjunction with the demands of one more filter. -/
def extend (root part : Combination) : Combination :=
  { root with must := root.must ++ part.must, filter := root.filter ++ part.filter }

theorem addFilter_eq (settings : Settings) (ignored : Option String) (withForced : Bool)
    (root : Combination) (filter : Filter) :
    addFilter settings ignored withForced root filter =
      root.extend <$> filter.demand settings ignored withForced := by
  unfold addFilter Filter.demand
  by_cases text : filter.kind = .freeText
  · simp [text, extend, pure, Except.pure, Functor.map, Except.map]
  · simp only [text, if_false]
    cases filter.fieldClause (filter.isSuppressed ignored) withForced with
    | error e => rfl
    | ok part => cases empty : part.isEmpty <;> simp [empty, extend, bind, Except.bind]

theorem foldl_extend (parts : List Combination) (root : Combination) :
    parts.foldl extend root = { root with
      must := root.must ++ parts.flatMap must
      filter := root.filter ++ parts.flatMap Combination.filter } := by
  induction parts generalizing root with
  | nil => simp
  | cons part rest ih => simp [ih, extend]

theorem foldlM_addFilter_eq_ok_iff {settings : Settings} {filters : List Filter}
    {ignored : Option String} {withForced : Bool} {root c : Combination} :
    filters.foldlM (addFilter settings ignored withForced) root = .ok c ↔ ∃ parts,
      List.Forall₂ (fun f part => f.demand settings ignored withForced = .ok part) filters parts ∧
      c = parts.foldl extend root := by
  induction filters generalizing root with
  | nil =>
    rw [List.foldlM_nil, pure_eq_ok_iff]
    constructor
    · intro h
      exact ⟨[], .nil, h.symm⟩
    · intro h
      obtain ⟨parts, h, rfl⟩ := h
      cases h
      rfl
  | cons f rest ih =>
    rw [List.foldlM_cons, addFilter_eq, bind_eq_ok_iff]
    constructor
    · intro h
      obtain ⟨next, h, hrest⟩ := h
      obtain ⟨part, hpart, rfl⟩ := map_eq_ok_iff.mp h
      obtain ⟨parts, hparts, rfl⟩ := ih.mp hrest
      exact ⟨part :: parts, .cons hpart hparts, rfl⟩
    · intro h
      obtain ⟨parts, h, rfl⟩ := h
      obtain ⟨part, others, hpart, hothers, rfl⟩ := List.forall₂_cons_left_iff.mp h
      exact ⟨root.extend part, map_eq_ok_iff.mpr ⟨part, hpart, rfl⟩, ih.mpr ⟨others, hothers, rfl⟩⟩

theorem ofFilters_eq_ok_iff {settings : Settings} {filters : List Filter}
    {ignored : Option String} {withForced : Bool} {c : Combination} :
    ofFilters settings filters ignored withForced = .ok c ↔ ∃ parts,
      List.Forall₂ (fun f part => f.demand settings ignored withForced = .ok part) filters parts ∧
      c = { must := parts.flatMap must, filter := parts.flatMap Combination.filter } := by
  unfold ofFilters
  simp [foldlM_addFilter_eq_ok_iff, foldl_extend]

/-- Filters can be compiled together if each of them can. -/
theorem exists_ofFilters_iff {settings : Settings} {filters : List Filter}
    {ignored : Option String} {withForced : Bool} :
    (∃ c, ofFilters settings filters ignored withForced = .ok c) ↔
      ∀ f ∈ filters, ∃ part, f.demand settings ignored withForced = .ok part := by
  constructor
  · intro h f hf
    obtain ⟨c, h⟩ := h
    obtain ⟨parts, hparts, -⟩ := ofFilters_eq_ok_iff.mp h
    obtain ⟨part, -, hpart⟩ := exists_result_of_mem hparts hf
    exact ⟨part, hpart⟩
  · intro h
    obtain ⟨parts, hparts⟩ := exists_results h
    exact ⟨_, ofFilters_eq_ok_iff.mpr ⟨parts, hparts, rfl⟩⟩

theorem holds_ofFilters {settings : Settings} {filters : List Filter} {ignored : Option String}
    {withForced : Bool} {c : Combination}
    (h : ofFilters settings filters ignored withForced = .ok c) (document : Json) :
    c.clause.holds document = true ↔
      ∀ f ∈ filters, f.Accepts Range.admits settings ignored withForced document := by
  obtain ⟨parts, hparts, rfl⟩ := ofFilters_eq_ok_iff.mp h
  rw [clause, Clause.holds_conjunction]
  clear h
  -- The induction is on the filters with the part that each of them has added.
  induction hparts with
  | nil => simp
  | cons hpart _ ih =>
    simp only [List.flatMap_cons, List.forall_mem_append, List.forall_mem_cons]
    rw [← ih, ← Filter.holds_demand hpart]
    constructor
    · intro h
      exact ⟨⟨h.1.1, h.2.1⟩, h.1.2, h.2.2⟩
    · intro h
      exact ⟨⟨h.1.1, h.2.1⟩, h.1.2, h.2.2⟩

end Combination

namespace Filter

/-! ## Numbers that are not numbers -/

/-- The numbers of a document that the filter compares with ranges. -/
def numbersRead (filter : Filter) (document : Json) : List Binary64 :=
  document.numbers filter.field ++
    match filter.forced with
    | none => []
    | some term => document.numbers term.field

/-- The filter compares a range with a value that is not a number. -/
def ReadsNaN (filter : Filter) (document : Json) : Prop :=
  filter.kind = .range ∧ .nan ∈ filter.numbersRead document

theorem SelectionHolds.mono {within within' : Range → Binary64 → Bool} {mustAll : Bool}
    {kind : FilterKind} {field : String} {values : List String} {document : Json}
    (wider : kind = .range → ∀ x ∈ document.numbers field, ∀ range,
      within range x = true → within' range x = true)
    (h : SelectionHolds within mustAll kind field values document) :
    SelectionHolds within' mustAll kind field values document := by
  have value : ∀ v, ValueHolds within kind field v document →
      ValueHolds within' kind field v document := by
    intro v hv
    cases kind with
    | range =>
      obtain ⟨x, hx, inside⟩ := hv
      refine ⟨x, hx, ?_⟩
      unfold rangeSelects at inside ⊢
      split at inside
      · exact wider rfl x hx _ inside
      · exact absurd inside Bool.false_ne_true
    | _ => exact hv
  rcases h with none | h
  · exact .inl none
  · refine .inr ?_
    cases mustAll with
    | true => exact fun v hv => value v (h v hv)
    | false =>
      obtain ⟨v, hv, holds⟩ := h
      exact ⟨v, hv, value v holds⟩

theorem Accepts.mono {within within' : Range → Binary64 → Bool} {settings : Settings}
    {ignored : Option String} {withForced : Bool} {filter : Filter} {document : Json}
    (wider : filter.kind = .range → ∀ x ∈ filter.numbersRead document, ∀ range,
      within range x = true → within' range x = true)
    (h : filter.Accepts within settings ignored withForced document) :
    filter.Accepts within' settings ignored withForced document := by
  unfold Accepts at h ⊢
  by_cases text : filter.kind = .freeText
  · rw [if_pos text] at h ⊢
    exact h
  · rw [if_neg text] at h ⊢
    refine ⟨h.1.imp id (SelectionHolds.mono ?_), fun forced term hterm =>
      SelectionHolds.mono ?_ (h.2 forced term hterm)⟩
    · intro range x hx
      exact wider range x (List.mem_append_left _ hx)
    · intro range x hx
      refine wider range x (List.mem_append_right _ ?_)
      rw [Option.mem_def.mp hterm]
      exact hx

end Filter

/-- The clause of a filter list holds where every filter accepts, if ranges let not-a-number
through. That is what the filters ask by their ranges alone, except where all filters accept and
some filter does so only because it read not-a-number; where none reads it there is no exception. -/
theorem holds_ofFilters_iff_accepts {settings : Settings} {filters : List Filter}
    {ignored : Option String} {withForced : Bool} {c : Combination}
    (h : Combination.ofFilters settings filters ignored withForced = .ok c) (document : Json) :
    (c.clause.holds document = true ↔
      ∀ f ∈ filters, f.Accepts Range.admits settings ignored withForced document) ∧
    ((c.clause.holds document = true ↔
        ∀ f ∈ filters, f.Accepts Range.contains settings ignored withForced document) ↔
      ¬ ((∀ f ∈ filters, f.Accepts Range.admits settings ignored withForced document) ∧
        ∃ f ∈ filters, ¬ f.Accepts Range.contains settings ignored withForced document)) ∧
    ((∀ f ∈ filters, ¬ f.ReadsNaN document) →
      (c.clause.holds document = true ↔
        ∀ f ∈ filters, f.Accepts Range.contains settings ignored withForced document)) := by
  have meaning := Combination.holds_ofFilters h document
  have weaker : ∀ f : Filter, f.Accepts Range.contains settings ignored withForced document →
      f.Accepts Range.admits settings ignored withForced document :=
    fun f => Filter.Accepts.mono fun _ _ _ _ => Range.admits_of_contains
  refine ⟨meaning, ?_, ?_⟩
  · rw [meaning]
    constructor
    · intro same exception
      obtain ⟨all, f, hf, refuses⟩ := exception
      exact refuses (same.mp all f hf)
    · intro noException
      refine ⟨?_, fun all f hf => weaker f (all f hf)⟩
      intro all f hf
      by_contra refuses
      exact noException ⟨all, f, hf, refuses⟩
  · intro readable
    rw [meaning]
    refine ⟨?_, fun all f hf => weaker f (all f hf)⟩
    intro all f hf
    apply (all f hf).mono
    intro kind x hx range admitted
    have number : x ≠ .nan := by
      intro isNaN
      rw [isNaN] at hx
      exact readable f hf ⟨kind, hx⟩
    simpa [Range.admits, number] using admitted

def priceFilter : Filter where
  name := "price"
  field := "real_price"
  values := ["10..20"]
  kind := .range
  application := .onlyAtLeastOne

/-- A document whose price is a string that spells not-a-number. -/
def spelledPrice : Json := .object [("real_price", .text "NaN")]

set_option maxRecDepth 3000 in
theorem holds_ofFilters_iff_accepts_price :
    ∃ c, Combination.ofFilters {} [priceFilter] none false = .ok c ∧
      (c.clause.holds spelledPrice = true ↔
        ∀ f ∈ [priceFilter], f.Accepts Range.admits {} none false spelledPrice) :=
  ⟨_, rfl, (holds_ofFilters_iff_accepts rfl spelledPrice).1⟩

set_option maxRecDepth 3000 in
/-- A price that is not a number is found between ten and twenty. -/
theorem holds_of_spelled_price :
    ∃ c, Combination.ofFilters {} [priceFilter] none false = .ok c ∧
      c.clause.holds spelledPrice = true ∧
      ¬ ∀ f ∈ [priceFilter], f.Accepts Range.contains {} none false spelledPrice :=
  ⟨_, rfl, by decide +kernel, by decide +kernel⟩

end FacetSearch
