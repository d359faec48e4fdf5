/-!
Lists that hold one item per key, in order of first arrival. `upsert` writes an item over the one
it replaces, or appends it; `KeyedList` carries the fact that no key occurs twice.
-/

namespace FacetSearch

variable {α κ : Type}

/-- Writes `item` over the first entry that `same` accepts, or appends it. -/
def upsert (same : α → Bool) (item : α) : List α → List α
  | [] => [item]
  | x :: rest => if same x then item :: rest else x :: upsert same item rest

theorem map_upsert_of_mem [DecidableEq κ] (key : α → κ) (item : α) (items : List α)
    (h : key item ∈ items.map key) :
    (upsert (fun x => key x = key item) item items).map key = items.map key := by
  induction items with
  | nil => simp at h
  | cons x rest ih =>
    by_cases hx : key x = key item
    · simp [upsert, hx]
    · have : key item ∈ rest.map key := by
        rcases List.mem_cons.mp h with h | h
        · exact absurd h.symm hx
        · exact h
      simp [upsert, hx, ih this]

theorem upsert_of_not_mem [DecidableEq κ] (key : α → κ) (item : α) (items : List α)
    (h : key item ∉ items.map key) :
    upsert (fun x => key x = key item) item items = items ++ [item] := by
  induction items with
  | nil => rfl
  | cons x rest ih =>
    simp only [List.map_cons, List.mem_cons, not_or] at h
    simp [upsert, Ne.symm h.1, ih h.2]

theorem nodup_map_upsert [DecidableEq κ] (key : α → κ) (item : α) (items : List α)
    (h : (items.map key).Nodup) :
    ((upsert (fun x => key x = key item) item items).map key).Nodup := by
  by_cases hm : key item ∈ items.map key
  · rw [map_upsert_of_mem key item items hm]; exact h
  · rw [upsert_of_not_mem key item items hm, List.map_append, List.nodup_append]
    refine ⟨h, by simp, fun a ha b hb => ?_⟩
    simp only [List.map_cons, List.map_nil, List.mem_singleton] at hb
    subst hb
    exact fun he => hm (he ▸ ha)

/-- A list in which no key occurs twice. -/
structure KeyedList (α : Type) (key : α → String) where
  items : List α
  distinct : (items.map key).Nodup

namespace KeyedList

variable {α : Type} {key : α → String}

def empty : KeyedList α key := ⟨[], by simp⟩

/-- Replaces the item of the same key at its place, or appends a new one. -/
def put (list : KeyedList α key) (item : α) : KeyedList α key :=
  ⟨upsert (fun x => key x = key item) item list.items,
    nodup_map_upsert key item list.items list.distinct⟩

def get? (list : KeyedList α key) (name : String) : Option α :=
  list.items.find? fun x => key x = name

/-- Puts the items one after the other, so that a later one replaces an earlier one of its key. -/
def ofList (items : List α) : KeyedList α key := items.foldl put empty

/-- The keys, in the order of their first arrival. -/
def keys (list : KeyedList α key) : List String := list.items.map key

def size (list : KeyedList α key) : Nat := list.items.length

end KeyedList

end FacetSearch
