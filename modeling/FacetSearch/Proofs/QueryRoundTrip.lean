import FacetSearch.Proofs.Upserts
import FacetSearch.Query
/-!
Queries that are written and read back.

Filters and facets are written as plain lists. Reading them puts one after the other under its name,
and since no name occurs twice in a query, each of them comes to the end of those before it. What is
left out in writing has the default that reading fills in.

What is proved:
  1. `KeyedList.ofList_items`: the items of a keyed list make up the same list again.
  2. `ReadsBack` of each part of a query: what is written of it is read as it was.
  3. `Query.read_written`: so is every query, and reading a query, writing it and reading it again
     gives what the first reading gave.
-/

namespace FacetSearch

namespace KeyedList

variable {α : Type} {key : α → String}

theorem items_injective {list other : KeyedList α key} (h : list.items = other.items) :
    list = other := by
  cases list
  cases other
  cases h
  rfl

theorem items_foldl_put (list : KeyedList α key) (items : List α) :
    (items.foldl put list).items = writeAll key list.items items := by
  induction items generalizing list with
  | nil => rfl
  | cons item rest ih => exact ih (list.put item)

theorem ofList_items (list : KeyedList α key) : ofList list.items = list := by
  apply items_injective
  calc (list.items.foldl put empty).items
    _ = writeAll key [] list.items := items_foldl_put empty list.items
    _ = list.items := writeAll_of_nodup list.distinct

end KeyedList

/-! ## Reading what is written -/

section ReadsBack

variable {α : Type}

/-- Whatever is written is read as it was. -/
def ReadsBack (write : α → Json) (read : Json → Option α) : Prop :=
  ∀ a, read (write a) = some a

theorem readsBack_text : ReadsBack Json.text Json.text? := fun _ => rfl

theorem readsBack_natural : ReadsBack Json.ofNat Json.natural? := by
  intro n
  have nonneg : (0 : Int) ≤ n := Int.natCast_nonneg n
  rw [Json.ofNat, Json.natural?, if_pos nonneg, Int.toNat_natCast]

/-- Items are read as they were if each of them is. -/
theorem mapM_written {β : Type} {write : α → β} {read : β → Option α} {items : List α}
    (h : ∀ a ∈ items, read (write a) = some a) : (items.map write).mapM read = some items := by
  induction items with
  | nil => rfl
  | cons item rest ih =>
    rw [List.map_cons, List.mapM_cons, h item List.mem_cons_self,
      ih fun a ha => h a (List.mem_cons_of_mem item ha)]
    rfl

theorem Json.list?_written {write : α → Json} {read : Json → Option α} {items : List α}
    (h : ∀ a ∈ items, read (write a) = some a) :
    Json.list? read (.array (items.map write)) = some items :=
  mapM_written h

theorem ReadsBack.list {write : α → Json} {read : Json → Option α} (h : ReadsBack write read) :
    ReadsBack (fun items => .array (items.map write)) (Json.list? read) :=
  fun _ => Json.list?_written fun a _ => h a

/-- Where null is not written for a value, a value that may be missing is read as it was. -/
theorem Json.nullable?_of_read {read : Json → Option α} {json : Json} {a : α}
    (h : read json = some a) (present : json ≠ .null) :
    Json.nullable? read json = some (some a) := by
  unfold Json.nullable?
  split
  · exact absurd rfl present
  · rw [h, Option.map_some]

end ReadsBack

/-! ## The parts of a query -/

theorem FilterKind.readsBack : ReadsBack toJson ofJson? := ofName?_name

theorem ApplicationType.readsBack : ReadsBack toJson ofJson? := by
  intro flags
  rw [ofJson?, toJson, readsBack_natural, Option.bind_some, ofBits?_bits]

theorem FilterTerm.readsBack : ReadsBack toJson ofJson? := fun _ => rfl

theorem Filter.readsBack : ReadsBack toJson ofJson? := by
  intro filter
  obtain ⟨name, field, values, kind, application, forced⟩ := filter
  apply Option.bind_eq_some_iff.mpr ⟨_, rfl, ?_⟩
  apply Option.bind_eq_some_iff.mpr ⟨name, rfl, ?_⟩
  apply Option.bind_eq_some_iff.mpr ⟨field, rfl, ?_⟩
  apply Option.bind_eq_some_iff.mpr ⟨values, readsBack_text.list values, ?_⟩
  apply Option.bind_eq_some_iff.mpr ⟨kind, FilterKind.readsBack kind, ?_⟩
  apply Option.bind_eq_some_iff.mpr ⟨application, ApplicationType.readsBack application, ?_⟩
  apply Option.bind_eq_some_iff.mpr ⟨forced, ?_, ?_⟩
  · cases forced with
    | none => rfl
    | some term =>
      exact Json.nullable?_of_read (FilterTerm.readsBack term) (by simp [FilterTerm.toJson])
  · rfl

theorem Facet.readsBack : ReadsBack toJson ofJson? := by
  intro facet
  obtain ⟨name, field, kind, application, subgroup⟩ := facet
  apply Option.bind_eq_some_iff.mpr ⟨_, rfl, ?_⟩
  apply Option.bind_eq_some_iff.mpr ⟨name, rfl, ?_⟩
  apply Option.bind_eq_some_iff.mpr ⟨field, rfl, ?_⟩
  apply Option.bind_eq_some_iff.mpr ⟨kind, FilterKind.readsBack kind, ?_⟩
  apply Option.bind_eq_some_iff.mpr ⟨application, ApplicationType.readsBack application, ?_⟩
  apply Option.bind_eq_some_iff.mpr ⟨subgroup, ?_, ?_⟩
  · cases subgroup with
    | nil => rfl
    | cons value rest => exact readsBack_text.list (value :: rest)
  · rfl

theorem SortBy.readsBack : ReadsBack toJson ofJson? := by
  intro sort
  cases sort with
  | score => rfl
  | field name order =>
    cases order with
    | ascending => rfl
    | descending => rfl

/-! ## Queries -/

namespace Query

theorem readsBack : ReadsBack toJson ofJson? := by
  intro query
  obtain ⟨filters, facets, sort, offset, size⟩ := query
  apply Option.bind_eq_some_iff.mpr ⟨_, rfl, ?_⟩
  apply Option.bind_eq_some_iff.mpr ⟨filters.items, Filter.readsBack.list filters.items, ?_⟩
  apply Option.bind_eq_some_iff.mpr ⟨facets.items, Facet.readsBack.list facets.items, ?_⟩
  apply Option.bind_eq_some_iff.mpr ⟨sort, SortBy.readsBack sort, ?_⟩
  apply Option.bind_eq_some_iff.mpr ⟨offset, readsBack_natural offset, ?_⟩
  apply Option.bind_eq_some_iff.mpr ⟨size, readsBack_natural size, ?_⟩
  rw [KeyedList.ofList_items, KeyedList.ofList_items]
  rfl

/-- Every query is read as it was written, with its filters and facets in their order. So is what a
JSON value was read as, in whatever form the value holds it. -/
theorem read_written :
    (∀ query : Query, ofJson? query.toJson = some query) ∧
      ∀ json : Json, ((ofJson? json).bind fun query => ofJson? query.toJson) = ofJson? json := by
  refine ⟨readsBack, fun json => ?_⟩
  cases ofJson? json with
  | none => rfl
  | some query => exact readsBack query

/-- A query that is given by the positions of its parts, with a filter of one name twice. -/
example :
    let value : Json :=
      .array
        [.array
          [.object [("name", .text "color"), ("field", .text "color"),
             ("application_type", .ofNat 2)],
           .array [.text "color", .text "hue", .ofStrings ["red"], .text "field", .ofNat 1]]]
    let again := (ofJson? value).bind fun query => ofJson? query.toJson
    (again.map fun query => query.filters.items) = some
      [{ name := "color", field := "hue", values := ["red"], application := .onlyMustAll }] := by
  decide +kernel

end Query

end FacetSearch
