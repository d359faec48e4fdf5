/-!
Sorting by an order in which items may be equal. Items that are equal in the order keep the places
they had among themselves (`filter_stableSort`). The result holds the same items (`stableSort_perm`)
and, where the order is total and transitive, holds them in order (`pairwise_stableSort`).
-/

namespace FacetSearch

variable {α : Type}

/-- Puts an item in front of the first one that it may precede. -/
def insertSorted (le : α → α → Bool) (item : α) : List α → List α
  | [] => [item]
  | x :: rest => if le item x then item :: x :: rest else x :: insertSorted le item rest

/-- The items in the order `le`. -/
def stableSort (le : α → α → Bool) : List α → List α
  | [] => []
  | item :: rest => insertSorted le item (stableSort le rest)

theorem insertSorted_perm (le : α → α → Bool) (item : α) (items : List α) :
    (insertSorted le item items).Perm (item :: items) := by
  induction items with
  | nil => exact .refl _
  | cons x rest ih =>
    unfold insertSorted
    split
    · exact .refl _
    · exact (ih.cons x).trans (.swap item x rest)

theorem stableSort_perm (le : α → α → Bool) (items : List α) :
    (stableSort le items).Perm items := by
  induction items with
  | nil => exact .refl _
  | cons item rest ih => exact (insertSorted_perm le item _).trans (ih.cons item)

theorem pairwise_insertSorted {le : α → α → Bool} (total : ∀ a b, le a b || le b a)
    (trans : ∀ a b c, le a b → le b c → le a c) (item : α) {items : List α}
    (h : items.Pairwise fun a b => le a b) :
    (insertSorted le item items).Pairwise fun a b => le a b := by
  induction items with
  | nil => exact List.pairwise_singleton _ _
  | cons x rest ih =>
    obtain ⟨first, later⟩ := List.pairwise_cons.mp h
    unfold insertSorted
    split
    · rename_i le_x
      refine List.pairwise_cons.mpr ⟨fun y hy => ?_, h⟩
      rcases List.mem_cons.mp hy with rfl | hy
      · exact le_x
      · exact trans item x y le_x (first y hy)
    · rename_i not_le
      refine List.pairwise_cons.mpr ⟨fun y hy => ?_, ih later⟩
      rcases List.mem_cons.mp ((insertSorted_perm le item rest).mem_iff.mp hy) with rfl | hy
      · have := total x y
        simp_all
      · exact first y hy

theorem pairwise_stableSort {le : α → α → Bool} (total : ∀ a b, le a b || le b a)
    (trans : ∀ a b c, le a b → le b c → le a c) (items : List α) :
    (stableSort le items).Pairwise fun a b => le a b := by
  induction items with
  | nil => exact .nil
  | cons item rest ih => exact pairwise_insertSorted total trans item ih

theorem filter_insertSorted {le : α → α → Bool} {alike : α → Bool}
    (equal : ∀ a b, alike a = true → alike b = true → le a b = true) (item : α) (items : List α) :
    (insertSorted le item items).filter alike = (item :: items).filter alike := by
  induction items with
  | nil => rfl
  | cons x rest ih =>
    unfold insertSorted
    split
    · rfl
    · rename_i not_le
      rw [List.filter_cons, ih]
      -- An item is put behind none of its own class.
      cases own : alike item with
      | false => simp [List.filter_cons, own]
      | true =>
        have other : alike x = false :=
          Bool.eq_false_iff.mpr fun same => not_le (equal item x own same)
        simp [own, other]

/-- Items of a class in which each may precede each keep their order. -/
theorem filter_stableSort {le : α → α → Bool} {alike : α → Bool}
    (equal : ∀ a b, alike a = true → alike b = true → le a b = true) (items : List α) :
    (stableSort le items).filter alike = items.filter alike := by
  induction items with
  | nil => rfl
  | cons item rest ih =>
    rw [stableSort, filter_insertSorted equal, List.filter_cons, ih, ← List.filter_cons]

end FacetSearch
