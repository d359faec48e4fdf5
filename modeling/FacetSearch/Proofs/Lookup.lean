import Mathlib.Data.List.Nodup
import FacetSearch.Aggregation.Evaluation
import FacetSearch.Counter
/-!
Finding an item by its name.

What is proved:
  1. `find?_upsert`: after an item is written, its own name finds it and every other name finds
     what it found before.
  2. `KeyedList.mem_put_iff`, `find?_eq_some_iff_of_nodup`: writing an item removes only the one of
     its name, and every item is found by its name.
  3. `Json.findMember?_of_mem`, `Json.mem_of_findMember?`: where no name occurs twice, names find the
     members that there are.
  4. `Aggregation.findMember?_evaluateAll`: in an evaluated scope the name of a child finds the
     child's evaluation, where the children have different names; any other name finds what it
     found among the members that the scope started with.
-/

namespace FacetSearch

section Upsert

variable {α κ : Type} [DecidableEq κ] {key : α → κ}

theorem find?_upsert (key : α → κ) (item : α) (items : List α) (name : κ) :
    (upsert (fun x => key x = key item) item items).find? (fun x => key x = name) =
      if key item = name then some item else items.find? fun x => key x = name := by
  induction items with
  | nil => by_cases own : key item = name <;> simp [upsert, own]
  | cons x rest ih =>
    by_cases own : key item = name
    · rw [if_pos own] at ih ⊢
      by_cases same : key x = key item
      · simp [upsert, same, own]
      · have other : key x ≠ name := fun h => same (h.trans own.symm)
        simpa [upsert, same, other] using ih
    · rw [if_neg own] at ih ⊢
      by_cases same : key x = key item
      · have other : key x ≠ name := fun h => own (same.symm.trans h)
        simp [upsert, same, own]
      · by_cases found : key x = name
        · have apart : ¬ name = key item := fun h => same (found.trans h)
          simp [upsert, found, apart]
        · simpa [upsert, same, found] using ih

theorem mem_upsert_iff {item x : α} {items : List α} (distinct : (items.map key).Nodup) :
    x ∈ upsert (fun y => key y = key item) item items ↔
      x = item ∨ (x ∈ items ∧ key x ≠ key item) := by
  induction items with
  | nil => simp [upsert]
  | cons y rest ih =>
    obtain ⟨fresh, distinct⟩ := List.nodup_cons.mp distinct
    by_cases same : key y = key item
    · have apart : ∀ z ∈ rest, key z ≠ key item := by
        intro z hz equal
        exact fresh (List.mem_map.mpr ⟨z, hz, equal.trans same.symm⟩)
      simp only [upsert, same, decide_true, if_true, List.mem_cons]
      constructor
      · intro h
        rcases h with rfl | hx
        · exact .inl rfl
        · exact .inr ⟨.inr hx, apart x hx⟩
      · intro h
        rcases h with rfl | ⟨rfl | hx, other⟩
        · exact .inl rfl
        · exact absurd same other
        · exact .inr hx
    · simp only [upsert, same, decide_false, Bool.false_eq_true, if_false, List.mem_cons,
        ih distinct]
      constructor
      · intro h
        rcases h with rfl | rfl | ⟨hx, other⟩
        · exact .inr ⟨.inl rfl, same⟩
        · exact .inl rfl
        · exact .inr ⟨.inr hx, other⟩
      · intro h
        rcases h with rfl | ⟨rfl | hx, other⟩
        · exact .inr (.inl rfl)
        · exact .inl rfl
        · exact .inr (.inr ⟨hx, other⟩)

/-- Writing an item that is already there changes nothing. -/
theorem upsert_of_mem {item : α} {items : List α} (distinct : (items.map key).Nodup)
    (h : item ∈ items) : upsert (fun x => key x = key item) item items = items := by
  induction items with
  | nil => simp at h
  | cons x rest ih =>
    obtain ⟨fresh, distinct⟩ := List.nodup_cons.mp distinct
    rcases List.mem_cons.mp h with rfl | later
    · simp [upsert]
    · have other : key x ≠ key item := by
        intro same
        exact fresh (List.mem_map.mpr ⟨item, later, same.symm⟩)
      simp [upsert, other, ih distinct later]

/-- Where no key occurs twice, a key finds the item that has it. -/
theorem find?_eq_some_iff_of_nodup {items : List α} (distinct : (items.map key).Nodup) {name : κ}
    {item : α} :
    items.find? (fun x => key x = name) = some item ↔ item ∈ items ∧ key item = name := by
  constructor
  · intro found
    exact ⟨List.mem_of_find?_eq_some found, of_decide_eq_true (List.find?_some found :)⟩
  · rintro ⟨among, rfl⟩
    -- Writing the item once more would change nothing, and then its key would find it.
    have written := find?_upsert key item items (key item)
    rwa [upsert_of_mem distinct among, if_pos rfl] at written

end Upsert

namespace KeyedList

variable {α : Type} {key : α → String}

theorem mem_put_iff {list : KeyedList α key} {item x : α} :
    x ∈ (list.put item).items ↔ x = item ∨ (x ∈ list.items ∧ key x ≠ key item) :=
  mem_upsert_iff list.distinct

/-- A list finds each of its items by the item's key. -/
theorem get?_of_mem {list : KeyedList α key} {item : α} (h : item ∈ list.items) :
    list.get? (key item) = some item :=
  (find?_eq_some_iff_of_nodup list.distinct).mpr ⟨h, rfl⟩

end KeyedList

namespace Json

theorem findMember?_putMember (members : List (String × Json)) (name : String) (value : Json)
    (wanted : String) :
    findMember? (putMember members name value) wanted =
      if name = wanted then some value else findMember? members wanted := by
  unfold findMember? putMember
  rw [find?_upsert Prod.fst (name, value)]
  by_cases own : name = wanted
  · simp [own]
  · simp [own]

theorem findMember?_eq_none_iff {members : List (String × Json)} {name : String} :
    findMember? members name = none ↔ name ∉ members.map Prod.fst := by
  rw [findMember?, Option.map_eq_none_iff, List.find?_eq_none]
  simp only [decide_eq_true_eq, List.mem_map, not_exists, not_and]

theorem mem_of_findMember? {members : List (String × Json)} {name : String} {value : Json}
    (h : findMember? members name = some value) : (name, value) ∈ members := by
  obtain ⟨entry, found, rfl⟩ := Option.map_eq_some_iff.mp h
  have accepted := List.find?_some found
  have named : entry.1 = name := of_decide_eq_true accepted
  rw [← named]
  exact List.mem_of_find?_eq_some found

/-- Where no name occurs twice, every member is found by its name. -/
theorem findMember?_of_mem {members : List (String × Json)}
    (distinct : (members.map Prod.fst).Nodup) {name : String} {value : Json}
    (h : (name, value) ∈ members) : findMember? members name = some value :=
  Option.map_eq_some_iff.mpr ⟨_, (find?_eq_some_iff_of_nodup distinct).mpr ⟨h, rfl⟩, rfl⟩

end Json

namespace Aggregation

/-- The names of children find their evaluations, other names the members from before. -/
theorem findMember?_evaluateAll (documents : List Json) {trees : List Aggregation}
    (distinct : (trees.map name).Nodup) (members : List (String × Json)) :
    (∀ tree ∈ trees, Json.findMember? (evaluateAll documents members trees) tree.name =
      some (evaluate documents tree)) ∧
    ∀ other ∉ trees.map name, Json.findMember? (evaluateAll documents members trees) other =
      Json.findMember? members other := by
  induction trees generalizing members with
  | nil => simp [evaluateAll]
  | cons first rest ih =>
    obtain ⟨fresh, distinct⟩ := List.nodup_cons.mp distinct
    obtain ⟨children, others⟩ := ih distinct
      (Json.putMember members first.name (evaluate documents first))
    refine ⟨?_, ?_⟩
    · intro tree htree
      unfold evaluateAll
      rcases List.mem_cons.mp htree with rfl | later
      · -- No later child has this name, so none overwrites the member.
        rw [others _ fresh, Json.findMember?_putMember, if_pos rfl]
      · exact children tree later
    · intro other hother
      obtain ⟨apart, absent⟩ : other ≠ first.name ∧ other ∉ rest.map name := by
        simpa using hother
      unfold evaluateAll
      rw [others other absent, Json.findMember?_putMember, if_neg apart.symm]

end Aggregation

namespace FacetResults

theorem get?_add (results : FacetResults) (result : FacetResult) (name : String) :
    (results.add result).get? name =
      if result.name = name then some result else results.get? name := by
  unfold get? add KeyedList.get? KeyedList.put
  rw [find?_upsert Prod.fst (result.name, result)]
  by_cases own : result.name = name
  · simp [own]
  · simp [own]

end FacetResults

end FacetSearch
