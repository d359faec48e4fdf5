import Mathlib.Algebra.Group.Nat.Defs
import Mathlib.Order.Monotone.Basic
import FacetSearch.Aggregation.Evaluation
/-!
The order of numbers, and what keeps it.

What is proved:
  1. `units_mono`: greater ranks are greater magnitudes, across the borders of binades.
  2. `truncate_mono`, `clampToInt64_mono`: cutting off fractions and holding the integer within
     64 bits keep the order.
  3. `totalLe_total`, `totalLe_trans`: the total order is one.
  4. `le_of_lt`, `lt_of_lt_of_le`: what lies below a number lies below all above it.
  5. `same_of_le`, `lt_congr`, `le_congr`: numbers that precede each other are equal, and equal
     numbers compare alike.
  6. `Aggregation.least?_spec`, `greatest?_spec`: extremes are among the numbers, and bound them.
-/

namespace FacetSearch

namespace Binary64

/-! ## Magnitudes -/

theorem units_of_binades (e : Nat) {m : Nat} (h : m < binade) :
    units ((e + 1) * binade + m) = (binade + m) * 2 ^ e := by
  have pos : 0 < binade := by decide
  have large : ¬ (e + 1) * binade + m < binade := by
    have : binade ≤ (e + 1) * binade := Nat.le_mul_of_pos_left _ (Nat.succ_pos e)
    omega
  have quotient : ((e + 1) * binade + m) / binade = e + 1 := by
    rw [Nat.add_comm, Nat.add_mul_div_right _ _ pos, Nat.div_eq_of_lt h, Nat.zero_add]
  have remainder : ((e + 1) * binade + m) % binade = m := by
    rw [Nat.add_comm, Nat.add_mul_mod_self_right, Nat.mod_eq_of_lt h]
  rw [units, if_neg large, quotient, remainder, Nat.shiftLeft_eq, Nat.add_sub_cancel]

theorem units_le_succ (r : Nat) : units r ≤ units (r + 1) := by
  have pos : 0 < binade := by decide
  by_cases small : r < binade
  · by_cases next : r + 1 < binade
    · rw [units, units, if_pos small, if_pos next]
      exact Nat.le_succ r
    · -- The first rank of the next binade is its own magnitude too.
      have edge : r + 1 = (0 + 1) * binade + 0 := by omega
      rw [units, if_pos small, edge, units_of_binades 0 pos]
      omega
  · obtain ⟨e, he⟩ : ∃ e, r / binade = e + 1 :=
      Nat.exists_eq_add_one.mpr (Nat.div_pos (by omega) pos)
    have split : r = (e + 1) * binade + r % binade := by
      rw [← he, Nat.mul_comm]
      exact (Nat.div_add_mod r binade).symm
    have below := Nat.mod_lt r pos
    generalize r % binade = m at split below
    subst split
    rw [units_of_binades e below, Nat.add_assoc]
    by_cases next : m + 1 < binade
    · rw [units_of_binades e next]
      exact Nat.mul_le_mul_right _ (by omega)
    · -- The last rank of a binade goes over to a grid twice as wide.
      have edge : (e + 1) * binade + (m + 1) = (e + 1 + 1) * binade + 0 := by
        rw [Nat.succ_mul (e + 1)]
        omega
      rw [edge, units_of_binades (e + 1) pos]
      calc (binade + m) * 2 ^ e
        _ ≤ binade * 2 * 2 ^ e := Nat.mul_le_mul_right _ (by omega)
        _ = (binade + 0) * 2 ^ (e + 1) := by rw [Nat.pow_succ', Nat.mul_assoc, Nat.add_zero]

theorem units_mono {r s : Nat} (h : r ≤ s) : units r ≤ units s :=
  monotone_nat_of_le_succ units_le_succ h

/-! ## Integers -/

theorem truncate_mono {x y : Binary64} (h : x.le y = true) : x.truncate ≤ y.truncate := by
  cases x with
  | nan => cases h
  | signed n r _ =>
    cases y with
    | nan => cases h
    | signed n' r' _ =>
      have below : place n r ≤ place n' r' := of_decide_eq_true h
      have zero : units 0 / unitsPerOne = 0 := Nat.zero_div unitsPerOne
      have wholes : ∀ {a b : Nat}, a ≤ b → units a / unitsPerOne ≤ units b / unitsPerOne :=
        fun hab => Nat.div_le_div_right (units_mono hab)
      cases n <;> cases n' <;> simp only [place, truncate, if_true, Bool.false_eq_true, if_false]
        at below ⊢
      case false.false =>
        have := wholes (show r ≤ r' by omega)
        omega
      case false.true =>
        obtain ⟨rfl, rfl⟩ : r = 0 ∧ r' = 0 := by omega
        omega
      case true.false =>
        have nonneg := Int.natCast_nonneg (units r / unitsPerOne)
        have nonneg' := Int.natCast_nonneg (units r' / unitsPerOne)
        exact Int.le_trans (Int.neg_nonpos_of_nonneg nonneg) nonneg'
      case true.true =>
        have := wholes (show r' ≤ r by omega)
        omega

theorem toInt_ofIntClamp (i : Int) :
    (Int64.ofIntClamp i).toInt =
      max Int64.minValue.toInt (min i Int64.maxValue.toInt) := by
  have order : Int64.minValue.toInt ≤ Int64.maxValue.toInt := by decide
  unfold Int64.ofIntClamp
  split
  · split
    · rw [Int64.toInt_ofIntLE]
      omega
    · omega
  · omega

theorem clampToInt64_mono {x y : Binary64} (h : x.le y = true) :
    x.clampToInt64 ≤ y.clampToInt64 := by
  have := truncate_mono h
  rw [Int64.le_iff_toInt_le]
  simp only [clampToInt64, toInt_ofIntClamp]
  omega

/-! ## The total order -/

theorem totalLe_refl (x : Binary64) : x.totalLe x = true := by
  cases x with
  | nan => rfl
  | signed n r h => exact decide_eq_true (Int.le_refl (place n r))

theorem totalLe_total (x y : Binary64) : x.totalLe y = true ∨ y.totalLe x = true := by
  cases x with
  | nan =>
    right
    cases y <;> rfl
  | signed n r h =>
    cases y with
    | nan => exact .inl rfl
    | signed n' r' h' => simpa [totalLe, le] using Int.le_total (place n r) (place n' r')

theorem totalLe_trans {x y z : Binary64} (hxy : x.totalLe y = true) (hyz : y.totalLe z = true) :
    x.totalLe z = true := by
  cases z with
  | nan => cases x <;> rfl
  | signed n'' r'' h'' =>
    cases y with
    | nan => cases hyz
    | signed n' r' h' =>
      cases x with
      | nan => cases hxy
      | signed n r h =>
        have first : place n r ≤ place n' r' := of_decide_eq_true hxy
        have second : place n' r' ≤ place n'' r'' := of_decide_eq_true hyz
        exact decide_eq_true (Int.le_trans first second)

/-- Below a number there are only numbers, and there the total order is the order of numbers. -/
theorem le_of_totalLe {x y : Binary64} (h : x.totalLe y = true) (hy : y ≠ .nan) :
    x ≠ .nan ∧ x.le y = true := by
  cases y with
  | nan => exact absurd rfl hy
  | signed n' r' h' =>
    cases x with
    | nan => cases h
    | signed n r hr => exact ⟨by simp, h⟩

/-! ## Below a number -/

theorem le_of_lt {x y : Binary64} (h : x.lt y = true) : x.le y = true := by
  cases x with
  | nan => cases h
  | signed n r hr =>
    cases y with
    | nan => cases h
    | signed n' r' hr' => exact decide_eq_true (Int.le_of_lt (of_decide_eq_true h))

theorem lt_of_lt_of_le {x y z : Binary64} (hxy : x.lt y = true) (hyz : y.le z = true) :
    x.lt z = true := by
  cases x with
  | nan => cases hxy
  | signed n r hr =>
    cases y with
    | nan => cases hxy
    | signed n' r' hr' =>
      cases z with
      | nan => cases hyz
      | signed n'' r'' hr'' =>
        exact decide_eq_true (Int.lt_of_lt_of_le (of_decide_eq_true hxy) (of_decide_eq_true hyz))

/-! ## Equal numbers -/

section Same

variable {x y : Binary64}

theorem same_self (number : x ≠ .nan) : x.same x = true := by
  cases x with
  | nan => exact absurd rfl number
  | signed n r hr => exact decide_eq_true rfl

theorem same_of_le (hxy : x.le y = true) (hyx : y.le x = true) : x.same y = true := by
  cases x with
  | nan => cases hxy
  | signed n r hr =>
    cases y with
    | nan => cases hxy
    | signed n' r' hr' =>
      have first : place n r ≤ place n' r' := of_decide_eq_true hxy
      have second : place n' r' ≤ place n r := of_decide_eq_true hyx
      exact decide_eq_true (Int.le_antisymm first second)

/-- Equal numbers are numbers, at one place. -/
theorem place_eq_of_same (h : x.same y = true) :
    ∃ n r n' r' hr hr', x = signed n r hr ∧ y = signed n' r' hr' ∧ place n r = place n' r' := by
  cases x with
  | nan => cases h
  | signed n r hr =>
    cases y with
    | nan => cases h
    | signed n' r' hr' => exact ⟨n, r, n', r', hr, hr', rfl, rfl, of_decide_eq_true h⟩

theorem lt_congr (h : x.same y = true) (z : Binary64) : z.lt x = z.lt y := by
  obtain ⟨n, r, n', r', hr, hr', rfl, rfl, places⟩ := place_eq_of_same h
  cases z with
  | nan => rfl
  | signed n'' r'' hr'' => rw [lt, lt, places]

theorem le_congr (h : x.same y = true) (z : Binary64) : x.le z = y.le z := by
  obtain ⟨n, r, n', r', hr, hr', rfl, rfl, places⟩ := place_eq_of_same h
  cases z with
  | nan => rfl
  | signed n'' r'' hr'' => rw [le, le, places]

theorem isFinite_congr (h : x.same y = true) : x.isFinite = y.isFinite := by
  obtain ⟨n, r, n', r', hr, hr', rfl, rfl, places⟩ := place_eq_of_same h
  have ranks : r = r' := by
    unfold place at places
    split at places <;> split at places <;> omega
  rw [isFinite, isFinite, ranks]

end Same

end Binary64

namespace Aggregation

/-! ## Extremes -/

/-- A choice that always takes the better of two takes one that is best of all. -/
theorem foldl_best {α : Type} (better : α → α → Prop) {pick : α → α → α}
    (refl : ∀ a, better a a) (trans : ∀ {a b c}, better a b → better b c → better a c)
    (one : ∀ a b, pick a b = a ∨ pick a b = b)
    (best : ∀ a b, better (pick a b) a ∧ better (pick a b) b) (first : α) (rest : List α) :
    rest.foldl pick first ∈ first :: rest ∧
      ∀ x ∈ first :: rest, better (rest.foldl pick first) x := by
  induction rest generalizing first with
  | nil =>
    refine ⟨List.mem_cons_self, fun x hx => ?_⟩
    rw [List.mem_singleton.mp hx]
    exact refl first
  | cons second rest ih =>
    -- The rest starts from the better of the first two, which bounds both.
    obtain ⟨among, bound⟩ := ih (pick first second)
    obtain ⟨overFirst, overSecond⟩ := best first second
    have overPick := bound _ List.mem_cons_self
    rw [List.foldl_cons]
    constructor
    · rcases List.mem_cons.mp among with taken | later
      · rcases one first second with same | same
        · exact List.mem_cons.mpr (.inl (taken.trans same))
        · exact List.mem_cons.mpr (.inr (List.mem_cons.mpr (.inl (taken.trans same))))
      · exact List.mem_cons_of_mem _ (List.mem_cons_of_mem _ later)
    · intro x hx
      rcases List.mem_cons.mp hx with rfl | hx
      · exact trans overPick overFirst
      · rcases List.mem_cons.mp hx with rfl | later
        · exact trans overPick overSecond
        · exact bound x (List.mem_cons_of_mem _ later)

theorem least?_spec {numbers : List Binary64} {low : Binary64} (h : least? numbers = some low) :
    low ∈ numbers ∧ ∀ x ∈ numbers, low.totalLe x = true := by
  cases numbers with
  | nil => cases h
  | cons first rest =>
    cases h
    refine foldl_best (fun a b => a.totalLe b = true) Binary64.totalLe_refl
      Binary64.totalLe_trans ?_ ?_ first rest
    · intro a b
      by_cases hab : a.totalLe b = true <;> simp [hab]
    · intro a b
      by_cases hab : a.totalLe b = true
      · simp [hab, Binary64.totalLe_refl]
      · simp [hab, Binary64.totalLe_refl, (Binary64.totalLe_total a b).resolve_left hab]

theorem greatest?_spec {numbers : List Binary64} {high : Binary64}
    (h : greatest? numbers = some high) :
    high ∈ numbers ∧ ∀ x ∈ numbers, x.totalLe high = true := by
  cases numbers with
  | nil => cases h
  | cons first rest =>
    cases h
    refine foldl_best (fun a b => b.totalLe a = true) Binary64.totalLe_refl
      (fun hab hbc => Binary64.totalLe_trans hbc hab) ?_ ?_ first rest
    · intro a b
      by_cases hab : a.totalLe b = true <;> simp [hab]
    · intro a b
      by_cases hab : a.totalLe b = true
      · simp [hab, Binary64.totalLe_refl]
      · simp [hab, Binary64.totalLe_refl, (Binary64.totalLe_total a b).resolve_left hab]

end Aggregation

end FacetSearch
