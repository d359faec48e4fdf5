import FacetSearch.Proofs.Lookup
import FacetSearch.Proofs.QueryRoundTrip
/-!
Queries that are built item by item.

A query comes from lists of filters and facets that are read at once, or is built from the query
that every document matches by adding one after the other. Names may repeat, and filters and facets
may come in turns: either way every name keeps the place where it first came, with the last item of
that name.

What is proved:
  1. `KeyedList.lastOfEach_ofList`: a keyed list made of items holds the last item of each key, the
     keys in the order in which they first came.
  2. `Query.addAll_eq`: adding filters and facets in turns is adding each kind on its own.
  3. `Query.ofJson?_of_givesLists`: reading the two lists makes the keyed lists of their items.
  4. `Query.read_eq_built`: so what is read is what is built, in whatever turns.
-/

namespace FacetSearch

/-! ## The last item of each key -/

namespace KeyedList

variable {α : Type} {key : α → String}

/-- The keyed list holds of each key the last item, and the keys in the order in which they first
came. -/
structure LastOfEach (items : List α) (list : KeyedList α key) : Prop where
  /-- Every key occurs once, at the place of its first item. -/
  keys : list.keys = (items.map key).eraseDups
  distinct : list.keys.Nodup
  /-- A name finds the last item that was given under it. -/
  last : ∀ name, list.get? name = lastOf? key name items
  /-- A name finds the item whose own key it is, and nothing else. -/
  own : ∀ name item, list.get? name = some item ↔ item ∈ list.items ∧ key item = name

theorem get?_eq_head? (list : KeyedList α key) (name : String) :
    list.get? name = (itemsOf key name list.items).head? :=
  (List.head?_filter ..).symm

theorem lastOfEach_ofList (items : List α) : LastOfEach items (ofList items : KeyedList α key) where
  keys := by
    rw [KeyedList.keys, ofList, items_foldl_put, map_key_writeAll]
    simp [empty]
  distinct := (ofList items).distinct
  last name := by
    rw [get?_eq_head?, ofList, items_foldl_put, itemsOf_writeAll]
    cases lastOf? key name items with
    | none => rfl
    | some last => rfl
  own _ _ := find?_eq_some_iff_of_nodup (ofList items).distinct

end KeyedList

namespace Query

/-! ## Adding in turns -/

inductive Addition where
  | filter (filter : Filter)
  | facet (facet : Facet)

namespace Addition

def filter? : Addition → Option Filter
  | filter f => some f
  | facet _ => none

def facet? : Addition → Option Facet
  | filter _ => none
  | facet f => some f

end Addition

def add (query : Query) : Addition → Query
  | .filter f => query.filterBy f
  | .facet f => query.facetBy f

def addAll (query : Query) (additions : List Addition) : Query := additions.foldl add query

/-- The additions are these filters and these facets, each in their order, in whatever turns. -/
structure TakesTurns (additions : List Addition) (filters : List Filter) (facets : List Facet) :
    Prop where
  filters : additions.filterMap Addition.filter? = filters
  facets : additions.filterMap Addition.facet? = facets

/-- The filters do not depend on the facets that come between them, and the facets not on the
filters; nothing else changes. -/
theorem addAll_eq (query : Query) (additions : List Addition) :
    query.addAll additions = { query with
      filters := (additions.filterMap Addition.filter?).foldl KeyedList.put query.filters
      facets := (additions.filterMap Addition.facet?).foldl KeyedList.put query.facets } := by
  induction additions generalizing query with
  | nil => rfl
  | cons addition rest ih =>
    have later : query.addAll (addition :: rest) = (query.add addition).addAll rest := rfl
    rw [later, ih]
    cases addition with
    | filter f => rfl
    | facet f => rfl

/-- The queries differ in nothing but their filters. -/
structure SameBesideFilters (a b : Query) : Prop where
  facets : a.facets = b.facets
  sort : a.sort = b.sort
  offset : a.offset = b.offset
  size : a.size = b.size

/-- The queries differ in nothing but their facets. -/
structure SameBesideFacets (a b : Query) : Prop where
  filters : a.filters = b.filters
  sort : a.sort = b.sort
  offset : a.offset = b.offset
  size : a.size = b.size

theorem filterMap_map_of_none {α β γ : Type} {f : α → β} {g : β → Option γ}
    (h : ∀ a, g (f a) = none) (items : List α) : (items.map f).filterMap g = [] := by
  rw [List.filterMap_eq_nil_iff, List.forall_mem_map]
  exact fun a _ => h a

theorem sameBesideFilters_addAll (query : Query) (filters : List Filter) :
    (query.addAll (filters.map .filter)).SameBesideFilters query := by
  rw [addAll_eq, filterMap_map_of_none (g := Addition.facet?) fun _ => rfl]
  exact ⟨rfl, rfl, rfl, rfl⟩

theorem sameBesideFacets_addAll (query : Query) (facets : List Facet) :
    (query.addAll (facets.map .facet)).SameBesideFacets query := by
  rw [addAll_eq, filterMap_map_of_none (g := Addition.filter?) fun _ => rfl]
  exact ⟨rfl, rfl, rfl, rfl⟩

/-! ## Reading the lists -/

/-- The query that is made of all filters and all facets at once, and is the default otherwise. -/
def ofLists (filters : List Filter) (facets : List Facet) : Query :=
  { filters := .ofList filters, facets := .ofList facets }

/-- The value holds a record with these filters and these facets, in whatever form each of them is
given, and without the other fields of a query. -/
def GivesLists (json : Json) (filters : List Filter) (facets : List Facet) : Prop :=
  ∃ record, json.record? 5 = some record ∧
    record.required 0 "filters" (Json.list? Filter.ofJson?) = some filters ∧
    record.required 1 "aggregations" (Json.list? Facet.ofJson?) = some facets ∧
    record.find? 2 "sort" = none ∧ record.find? 3 "from" = none ∧ record.find? 4 "size" = none

def listsToJson (filters : List Filter) (facets : List Facet) : Json :=
  .object
    [("filters", .array (filters.map Filter.toJson)),
     ("aggregations", .array (facets.map Facet.toJson))]

theorem withDefault_of_required {α : Type} {record : Record} {place : Nat} {name : String}
    {read : Json → Option α} {a : α} (h : record.required place name read = some a) (fallback : α) :
    record.withDefault place name fallback read = some a := by
  obtain ⟨json, found, read⟩ := Option.bind_eq_some_iff.mp h
  simp only [Record.withDefault, found, read]

theorem withDefault_of_missing {α : Type} {record : Record} {place : Nat} {name : String}
    (h : record.find? place name = none) (fallback : α) (read : Json → Option α) :
    record.withDefault place name fallback read = some fallback := by
  simp only [Record.withDefault, h]

theorem ofJson?_of_givesLists {json : Json} {filters : List Filter} {facets : List Facet}
    (h : GivesLists json filters facets) : ofJson? json = some (ofLists filters facets) := by
  obtain ⟨record, holds, hfilters, hfacets, noSort, noOffset, noSize⟩ := h
  apply Option.bind_eq_some_iff.mpr ⟨record, holds, ?_⟩
  apply Option.bind_eq_some_iff.mpr ⟨filters, withDefault_of_required hfilters _, ?_⟩
  apply Option.bind_eq_some_iff.mpr ⟨facets, withDefault_of_required hfacets _, ?_⟩
  apply Option.bind_eq_some_iff.mpr ⟨_, withDefault_of_missing noSort _ _, ?_⟩
  apply Option.bind_eq_some_iff.mpr ⟨_, withDefault_of_missing noOffset _ _, ?_⟩
  apply Option.bind_eq_some_iff.mpr ⟨_, withDefault_of_missing noSize _ _, ?_⟩
  rfl

theorem givesLists_listsToJson (filters : List Filter) (facets : List Facet) :
    GivesLists (listsToJson filters facets) filters facets := by
  refine ⟨_, rfl, ?_, ?_, rfl, rfl, rfl⟩
  · exact Filter.readsBack.list filters
  · exact Facet.readsBack.list facets

/-! ## Read and built -/

theorem addAll_matchAll {additions : List Addition} {filters : List Filter} {facets : List Facet}
    (h : TakesTurns additions filters facets) :
    matchAll.addAll additions = ofLists filters facets := by
  rw [addAll_eq, h.filters, h.facets]
  rfl

/-- Reading filters and facets from two lists gives the query that is built by adding them one by
one, in whatever turns. In it each name occurs once, at the place where it first came, and finds the
last item that was given under it. Adding filters changes nothing but the filters, and adding facets
nothing but the facets. -/
theorem read_eq_built (filters : List Filter) (facets : List Facet) :
    ∃ query : Query,
      (∀ json, GivesLists json filters facets → ofJson? json = some query) ∧
      GivesLists (listsToJson filters facets) filters facets ∧
      (∀ additions, TakesTurns additions filters facets → matchAll.addAll additions = query) ∧
      KeyedList.LastOfEach filters query.filters ∧ KeyedList.LastOfEach facets query.facets ∧
      ∀ start : Query,
        (∀ added : List Filter, (start.addAll (added.map .filter)).SameBesideFilters start) ∧
        ∀ added : List Facet, (start.addAll (added.map .facet)).SameBesideFacets start :=
  ⟨ofLists filters facets, fun _ given => ofJson?_of_givesLists given,
    givesLists_listsToJson filters facets, fun _ turns => addAll_matchAll turns,
    KeyedList.lastOfEach_ofList filters, KeyedList.lastOfEach_ofList facets,
    fun start => ⟨sameBesideFilters_addAll start, sameBesideFacets_addAll start⟩⟩

def colorFilter (value : String) : Filter where
  name := "color"
  field := "color"
  values := [value]
  application := .onlyMustAll

/-- Filters of two names, the first of them twice, and a facet that is added between them. -/
theorem read_eq_built_color :
    let sizeFilter : Filter := { colorFilter "m" with name := "size", field := "size" }
    let facet : Facet := { name := "color", field := "color", application := .onlyMustAll }
    let filters := [colorFilter "red", sizeFilter, colorFilter "blue"]
    let additions : List Addition :=
      [.filter (colorFilter "red"), .filter sizeFilter, .facet facet, .filter (colorFilter "blue")]
    TakesTurns additions filters [facet] ∧
      ofJson? (listsToJson filters [facet]) = some (matchAll.addAll additions) ∧
      (matchAll.addAll additions).filters.keys = ["color", "size"] ∧
      (matchAll.addAll additions).filters.get? "color" = some (colorFilter "blue") := by
  intro sizeFilter facet filters additions
  have turns : TakesTurns additions filters [facet] := ⟨rfl, rfl⟩
  obtain ⟨query, read, given, built, held, -, -⟩ := read_eq_built filters [facet]
  rw [built additions turns]
  exact ⟨turns, read _ given, held.keys.trans (by decide), (held.last "color").trans (by decide)⟩

end Query

end FacetSearch
