import FacetSearch.Proofs.Order
import FacetSearch.Proofs.Pages
/-!
The order of sorted hits.

Hits are compared by the first number of a field. The direction of a sort turns the numbers around and
nothing else: hits without a number come last, and hits that compare equal keep the order of the
store, whichever way the numbers go. So the hits of one direction are not those of the other read
backwards.

What is proved:
  1. `eq_of_pairwise_of_filter`: no two lists are in order and have the same items of every class of
     items that precede each other, in the same order.
  2. `Store.keyLe_total`, `Store.keyLe_trans`: the comparison of hits is total and transitive, also
     where numbers are missing or not-a-number; `Store.keyLe_iff` says what it asks.
  3. `Store.sortedHits_sorted`, `Store.SortedHits.unique`: sorting makes the one list that is in the
     order of a field and a direction.
  4. `Store.sortedHits_found`: so the hits of a sorted request are that list, page by page.
-/

namespace FacetSearch

/-! ## Lists in order -/

section Ordered

variable {α : Type} {le : α → α → Bool} {items others : List α}

theorem mem_iff_of_filter (refl : ∀ a, le a a = true)
    (same : ∀ a, items.filter (fun b => le a b && le b a) =
      others.filter fun b => le a b && le b a) (a : α) : a ∈ items ↔ a ∈ others := by
  have own : (le a a && le a a) = true := by rw [refl a, Bool.and_self]
  have shared : a ∈ items.filter (fun b => le a b && le b a) ↔
      a ∈ others.filter fun b => le a b && le b a := by rw [same a]
  rwa [List.mem_filter, List.mem_filter, and_iff_left own, and_iff_left own] at shared

/-- A list in order is fixed by the items that it has of each class of items that precede each
other, in their order. -/
theorem eq_of_pairwise_of_filter (refl : ∀ a, le a a = true)
    (ordered : items.Pairwise fun a b => le a b = true)
    (ordered' : others.Pairwise fun a b => le a b = true)
    (same : ∀ a, items.filter (fun b => le a b && le b a) =
      others.filter fun b => le a b && le b a) : items = others := by
  have shared := mem_iff_of_filter refl same
  induction items generalizing others with
  | nil =>
    cases others with
    | nil => rfl
    | cons b rest' => exact absurd ((shared b).mpr List.mem_cons_self) List.not_mem_nil
  | cons a rest ih =>
    cases others with
    | nil => exact absurd ((shared a).mp List.mem_cons_self) List.not_mem_nil
    | cons b rest' =>
      obtain ⟨first, later⟩ := List.pairwise_cons.mp ordered
      obtain ⟨first', later'⟩ := List.pairwise_cons.mp ordered'
      -- Each of the two first items is in both lists, so that they precede each other.
      have hab : le a b = true := by
        rcases List.mem_cons.mp ((shared b).mpr List.mem_cons_self) with rfl | hb
        · exact refl b
        · exact first b hb
      have hba : le b a = true := by
        rcases List.mem_cons.mp ((shared a).mp List.mem_cons_self) with rfl | ha
        · exact refl a
        · exact first' a ha
      have heads := same a
      simp only [List.filter_cons, refl a, hab, hba, Bool.and_self, if_true] at heads
      obtain ⟨rfl, -⟩ := List.cons.inj heads
      have tails : ∀ c, rest.filter (fun b => le c b && le b c) =
          rest'.filter fun b => le c b && le b c := by
        intro c
        have both := same c
        rw [List.filter_cons, List.filter_cons] at both
        split at both
        · exact (List.cons.inj both).2
        · exact both
      rw [ih later later' tails (mem_iff_of_filter refl tails)]

end Ordered

/-! ## Numbers at one place -/

theorem Binary64.le_and_le (x y : Binary64) : (x.le y && y.le x) = x.same y := by
  cases x with
  | nan => rfl
  | signed n r hr =>
    cases y with
    | nan => rfl
    | signed n' r' hr' =>
      rw [le, le, same, ← Bool.decide_and]
      exact decide_eq_decide.mpr Int.le_antisymm_iff.symm

namespace Store

/-! ## The comparison of hits -/

/-- Two hits are sorted alike: both have no number, or equal ones. Zeros of both signs are equal, and
so is not-a-number to itself. -/
def sameKey : Option Binary64 → Option Binary64 → Bool
  | some .nan, some .nan => true
  | some x, some y => x.same y
  | none, none => true
  | _, _ => false

variable (field : String) (order : SortOrder)

theorem keyLe_total (x y : Option Binary64) : keyLe order x y || keyLe order y x := by
  rw [Bool.or_eq_true]
  cases x with
  | none =>
    right
    cases y <;> rfl
  | some x =>
    cases y with
    | none => exact .inl rfl
    | some y =>
      cases order with
      | ascending => exact Binary64.totalLe_total x y
      | descending => exact Binary64.totalLe_total y x

theorem keyLe_trans (x y z : Option Binary64) (hxy : keyLe order x y) (hyz : keyLe order y z) :
    keyLe order x z := by
  cases z with
  | none => cases x <;> rfl
  | some z =>
    cases y with
    | none => cases hyz
    | some y =>
      cases x with
      | none => cases hxy
      | some x =>
        cases order with
        | ascending => exact Binary64.totalLe_trans hxy hyz
        | descending => exact Binary64.totalLe_trans hyz hxy

/-- Hits of which each may precede the other are those that are sorted alike, in both directions. -/
theorem keyLe_and_keyLe (x y : Option Binary64) :
    (keyLe order x y && keyLe order y x) = sameKey x y := by
  cases x with
  | none => cases y <;> rfl
  | some x =>
    cases y with
    | none => cases x <;> rfl
    | some y =>
      have directions : (keyLe order (some x) (some y) && keyLe order (some y) (some x)) =
          (x.totalLe y && y.totalLe x) := by
        cases order with
        | ascending => rfl
        | descending => exact Bool.and_comm _ _
      rw [directions]
      cases x with
      | nan => cases y <;> rfl
      | signed n r hr =>
        cases y with
        | nan => rfl
        | signed n' r' hr' => exact Binary64.le_and_le (.signed n r hr) (.signed n' r' hr')

/-- The numbers may follow each other in a direction. Not-a-number is above all others. -/
def Follow : SortOrder → Binary64 → Binary64 → Prop
  | .ascending, x, y => x.totalLe y = true
  | .descending, x, y => y.totalLe x = true

theorem keyLe_iff {x y : Option Binary64} : keyLe order x y = true ↔
    (y.isSome = true → x.isSome = true) ∧ ∀ a ∈ x, ∀ b ∈ y, Follow order a b := by
  cases x with
  | none => cases y <;> simp [keyLe]
  | some a =>
    cases y with
    | none => simp [keyLe]
    | some b => cases order <;> simp [keyLe, Follow]

/-! ## Sorted hits -/

/-- The documents are in the order of the first number of a field, in a direction. -/
structure SortedHits (documents hits : List Document) : Prop where
  /-- Each document is a hit, once. -/
  perm : hits.Perm documents
  /-- Hits with a number come before those without one. -/
  numbered : hits.Pairwise fun a b =>
    b.fields.numbers field ≠ [] → a.fields.numbers field ≠ []
  /-- The first numbers go up, or down. -/
  ordered : hits.Pairwise fun a b =>
    ∀ x ∈ (a.fields.numbers field).head?, ∀ y ∈ (b.fields.numbers field).head?, Follow order x y
  /-- Hits that are sorted alike are in the order of the documents. -/
  stable : ∀ key,
    hits.filter (fun document => sameKey key (document.fields.numbers field).head?) =
      documents.filter fun document => sameKey key (document.fields.numbers field).head?

section Found

variable {field order} {documents hits others : List Document}

theorem sortedHits_iff : SortedHits field order documents hits ↔ hits.Perm documents ∧
    (hits.Pairwise fun a b => keyLe order (sortKey field a) (sortKey field b) = true) ∧
    ∀ key, hits.filter (fun document => sameKey key (sortKey field document)) =
      documents.filter fun document => sameKey key (sortKey field document) := by
  simp only [sortKey, keyLe_iff, List.isSome_head?, List.pairwise_and_iff]
  constructor
  · rintro ⟨perm, numbered, ordered, stable⟩
    exact ⟨perm, ⟨numbered, ordered⟩, stable⟩
  · rintro ⟨perm, ⟨numbered, ordered⟩, stable⟩
    exact ⟨perm, numbered, ordered, stable⟩

theorem sortedHits_sorted :
    SortedHits field order documents (sorted documents (.field field order)) := by
  refine sortedHits_iff.mpr ⟨sorted_perm documents _, ?_, fun key => ?_⟩
  · exact pairwise_stableSort (fun a b => keyLe_total order (sortKey field a) (sortKey field b))
      (fun a b c => keyLe_trans order (sortKey field a) (sortKey field b) (sortKey field c))
      documents
  · -- Two documents that are sorted like `key` precede each other, by way of it.
    refine filter_stableSort (fun a b likeA likeB => ?_) documents
    rw [← keyLe_and_keyLe order, Bool.and_eq_true] at likeA likeB
    exact keyLe_trans order _ _ _ likeA.2 likeB.1

/-- No two lists are in the order of one sort. -/
theorem SortedHits.unique (h : SortedHits field order documents hits)
    (h' : SortedHits field order documents others) : hits = others := by
  obtain ⟨-, ordered, stable⟩ := sortedHits_iff.mp h
  obtain ⟨-, ordered', stable'⟩ := sortedHits_iff.mp h'
  refine eq_of_pairwise_of_filter (fun a => ?_) ordered ordered' (fun a => ?_)
  · simpa using keyLe_total order (sortKey field a) (sortKey field a)
  · simp only [keyLe_and_keyLe]
    exact (stable _).trans (stable' _).symm

end Found

/-- The hits of a request that sorts by a field are the matched documents in the order of the field
and the direction, whichever page of them is asked for, and no other list is in that order. -/
theorem sortedHits_found (store : Store) (request : Request) (field : String)
    (order : SortOrder) :
    let matched := store.matching request.query.clause
    let hits := store.found { request with sort := .field field order }
    SortedHits field order matched hits ∧
      (∀ others, SortedHits field order matched others → others = hits) ∧
      ∀ offset size,
        Response.hits (store.search { request with sort := .field field order } offset size) =
          ((hits.map Document.toJson).drop offset).take size :=
  ⟨sortedHits_sorted, fun _ h => h.unique sortedHits_sorted, Response.hits_search store _⟩

/-- Documents with two prices, with one and with none. -/
def pricedStore : Store where
  documents := [("p1", [.ofNat 2, .ofNat 9]), ("p2", []), ("p3", [.ofNat 3]),
    ("p4", [.ofNat 2]), ("p5", [.ofNat 3, .ofNat 1])].map fun (id, prices) =>
      { id, type := "product", source := [("price", .array prices)] }

/-- Only the first price counts; hits of one price keep their order in both directions, and the one
without a price is last. -/
theorem sortedHits_found_prices :
    ∃ request, Request.ofQuery {} .matchAll = .ok request ∧
      let matched := pricedStore.matching request.query.clause
      let rising := pricedStore.found { request with sort := .field "price" .ascending }
      let falling := pricedStore.found { request with sort := .field "price" .descending }
      SortedHits "price" .ascending matched rising ∧
        rising.map Document.id = ["p1", "p4", "p3", "p5", "p2"] ∧
        SortedHits "price" .descending matched falling ∧
        falling.map Document.id = ["p3", "p5", "p1", "p4", "p2"] := by
  obtain ⟨request, h⟩ : ∃ request, Request.ofQuery {} .matchAll = .ok request := ⟨_, rfl⟩
  obtain ⟨rising, -⟩ := sortedHits_found pricedStore request "price" .ascending
  obtain ⟨falling, -⟩ := sortedHits_found pricedStore request "price" .descending
  refine ⟨request, h, rising, ?_, falling, ?_⟩
  · cases h
    decide +kernel
  · cases h
    decide +kernel

end Store

end FacetSearch
