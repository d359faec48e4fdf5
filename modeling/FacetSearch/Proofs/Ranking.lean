import FacetSearch.Proofs.Tally
/-!
The order in which counted keys come out.

Keys are ranked by falling counts, and keys of one count by themselves. No two entries of a tally
rank alike, so ranking them leaves one list only, in whatever order the documents were counted and
in whatever order the counted keys are taken up.

What is proved:
  1. `ranksBefore_total`, `ranksBefore_trans`, `ranksBefore_antisymm`: the ranking is a linear order
     of entries.
  2. `stableSort_eq_of_perm`: a linear order sorts the same items into the same list.
  3. `tally_perm`: the same keys in another order have the same entries.
  4. `topKeys_of_perm`: the counted keys of documents depend on which documents there are, and on
     nothing else.
-/

namespace FacetSearch

/-- Where no two different items precede each other, the same items are sorted into one list. -/
theorem stableSort_eq_of_perm {α : Type} {le : α → α → Bool}
    (total : ∀ a b, le a b || le b a) (trans : ∀ a b c, le a b → le b c → le a c)
    (antisymm : ∀ a b, le a b → le b a → a = b) {items items' : List α}
    (order : items.Perm items') : stableSort le items = stableSort le items' := by
  apply List.Perm.eq_of_pairwise (fun a b _ _ => antisymm a b)
    (pairwise_stableSort total trans items) (pairwise_stableSort total trans items')
  calc stableSort le items
    _ |>.Perm items := stableSort_perm le items
    _ |>.Perm items' := order
    _ |>.Perm (stableSort le items') := (stableSort_perm le items').symm

namespace Aggregation

/-! ## The ranking -/

theorem ranksBefore_iff {a b : String × Nat} :
    ranksBefore a b = true ↔ b.2 < a.2 ∨ (a.2 = b.2 ∧ a.1 ≤ b.1) := by
  simp only [ranksBefore, Bool.or_eq_true, Bool.and_eq_true, decide_eq_true_eq, beq_iff_eq,
    Bool.not_eq_true', decide_eq_false_iff_not, String.not_lt]

theorem ranksBefore_total (a b : String × Nat) : ranksBefore a b || ranksBefore b a := by
  rw [Bool.or_eq_true, ranksBefore_iff, ranksBefore_iff]
  rcases Nat.lt_trichotomy a.2 b.2 with less | same | more
  · exact .inr (.inl less)
  · rcases String.le_total a.1 b.1 with first | second
    · exact .inl (.inr ⟨same, first⟩)
    · exact .inr (.inr ⟨same.symm, second⟩)
  · exact .inl (.inl more)

theorem ranksBefore_trans (a b c : String × Nat) (hab : ranksBefore a b)
    (hbc : ranksBefore b c) : ranksBefore a c := by
  rw [ranksBefore_iff] at hab hbc ⊢
  rcases hab with more | ⟨same, before⟩
  · rcases hbc with more' | ⟨same', -⟩
    · left; omega
    · left; omega
  · rcases hbc with more' | ⟨same', before'⟩
    · left; omega
    · exact .inr ⟨same.trans same', String.le_trans before before'⟩

theorem ranksBefore_antisymm (a b : String × Nat) (hab : ranksBefore a b)
    (hba : ranksBefore b a) : a = b := by
  rw [ranksBefore_iff] at hab hba
  rcases hab with more | ⟨same, before⟩
  · rcases hba with more' | ⟨same', -⟩ <;> omega
  · rcases hba with more' | ⟨-, before'⟩
    · omega
    · exact Prod.ext (String.le_antisymm before before') same

/-! ## Ranked tallies -/

theorem tally_perm {keys keys' : List String} (order : keys.Perm keys') :
    (tally keys).Perm (tally keys') := by
  apply (List.perm_ext_iff_of_nodup (nodup_tally keys).of_map (nodup_tally keys').of_map).mpr
  intro entry
  obtain ⟨key, count⟩ := entry
  rw [mem_tally_iff, mem_tally_iff, order.mem_iff, order.count_eq]

/-- The counted keys of documents are the same for the documents in another order, and for the
entries of the tally in another order. -/
theorem topKeys_of_perm (fields : List String) (size : Nat) {documents documents' : List Json}
    (order : documents.Perm documents') {counts : List (String × Nat)}
    (counted : counts.Perm (tally (documents'.flatMap (keysOf fields)))) :
    (stableSort ranksBefore counts).take size = topKeys fields size documents := by
  have entries : counts.Perm (tally (documents.flatMap (keysOf fields))) :=
    counted.trans (tally_perm (order.symm.flatMap_right (keysOf fields)))
  unfold topKeys
  rw [stableSort_eq_of_perm ranksBefore_total ranksBefore_trans ranksBefore_antisymm entries]

end Aggregation

end FacetSearch
