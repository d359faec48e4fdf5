import FacetSearch.Proofs.Bounds
import FacetSearch.Proofs.Order
/-!
Integers as binary64 numbers.

What is proved:
  1. `isFinite_ofInt`: the number nearest to an integer of 64 bits is finite.
  2. `exists_units_eq`: below `2 ^ 53` every natural number has a magnitude of its own.
  3. `add_ofInt`: there a sum is rounded as the sum of the naturals is, so that counting is exact.
-/

namespace FacetSearch

namespace Binary64

/-! ## Integers of 64 bits -/

/-- The exponent is a variable, lest the power be worked out. -/
theorem unitsPerOne_eq {e : Nat} (h : e = 1074) : unitsPerOne = 2 ^ e := by
  rw [unitsPerOne, ← h, Nat.one_shiftLeft]

theorem roundHalfEven_le (num den : Nat) : roundHalfEven num den ≤ num / den + 1 := by
  unfold roundHalfEven
  dsimp only
  split
  · omega
  · split <;> omega

/-- On its grid a magnitude has 53 bits. -/
theorem div_grid_lt (whole : Nat) : whole / 2 ^ gridExponent whole < 2 * binade := by
  have hb : binade = 2 ^ 52 := by decide
  unfold gridExponent
  split
  · rename_i small
    rwa [Nat.pow_zero, Nat.div_one]
  · rename_i large
    have floor : 53 ≤ whole.log2 := (Nat.le_log2 (by omega)).mpr (by omega)
    have ceiling : whole < 2 ^ (whole.log2 + 1) := Nat.lt_log2_self
    rw [Nat.div_lt_iff_lt_mul (Nat.two_pow_pos _), hb, ← Nat.pow_succ', ← Nat.pow_add]
    rwa [show 52 + 1 + (whole.log2 - 52) = whole.log2 + 1 by omega]

theorem gridExponent_le {whole bits : Nat} (h : whole < 2 ^ bits) :
    gridExponent whole ≤ bits - 53 := by
  have hb : binade = 2 ^ 52 := by decide
  unfold gridExponent
  split
  · exact Nat.zero_le _
  · have := (Nat.log2_lt (by omega)).mpr h
    omega

/-- A magnitude of up to 2097 bits is not rounded to infinity. -/
theorem nearestRank_lt {whole bits : Nat} (h : whole < 2 ^ bits) (few : bits ≤ 2097) :
    nearestRank whole 1 < infinityRank := by
  have hb : binade = 2 ^ 52 := by decide
  have last : infinityRank = 2047 * binade := rfl
  have grid : gridExponent whole ≤ 2044 := by
    have := gridExponent_le h
    omega
  have significand := div_grid_lt whole
  have rounded := roundHalfEven_le whole (2 ^ gridExponent whole)
  have shift := Nat.mul_le_mul_right binade grid
  rw [nearestRank_eq, Nat.div_one, Nat.one_mul]
  omega

theorem isFinite_ofInt {i : Int} (h : i.natAbs < 2 ^ 64) : (ofInt i).isFinite = true := by
  obtain ⟨e, he⟩ : ∃ e, e = 1074 := ⟨_, rfl⟩
  have bound : i.natAbs * unitsPerOne < 2 ^ (64 + e) := by
    rw [unitsPerOne_eq he, Nat.pow_add]
    exact Nat.mul_lt_mul_of_pos_right h (Nat.two_pow_pos _)
  rw [ofInt, ofUnits, isFinite, decide_eq_true_eq]
  exact nearestRank_lt bound (by omega)

/-! ## Whole numbers without rounding -/

theorem ofInt_zero : ofInt (0 : Nat) = zero := by decide +kernel

theorem exists_units_eq {n : Nat} (h : n < 2 ^ 53) :
    ∃ r, r < infinityRank ∧ units r = n * unitsPerOne := by
  have hb : binade = 2 ^ 52 := by decide
  have last : infinityRank = 2047 * binade := rfl
  by_cases zero : n = 0
  · subst zero
    exact ⟨0, by omega, by rw [Nat.zero_mul]; decide⟩
  · have exponent : n.log2 < 53 := (Nat.log2_lt zero).mpr h
    have floor : 2 ^ n.log2 ≤ n := Nat.log2_self_le zero
    have ceiling : n < 2 ^ (n.log2 + 1) := Nat.lt_log2_self
    generalize n.log2 = k at exponent floor ceiling
    -- The significand is the number moved up to 53 bits.
    have low : 2 ^ 52 ≤ n * 2 ^ (52 - k) := calc
      2 ^ 52 = 2 ^ k * 2 ^ (52 - k) := by rw [← Nat.pow_add, show k + (52 - k) = 52 by omega]
      _ ≤ n * 2 ^ (52 - k) := Nat.mul_le_mul_right _ floor
    have high : n * 2 ^ (52 - k) < 2 ^ 53 := calc
      n * 2 ^ (52 - k) < 2 ^ (k + 1) * 2 ^ (52 - k) :=
        Nat.mul_lt_mul_of_pos_right ceiling (Nat.two_pow_pos (52 - k))
      _ = 2 ^ 53 := by rw [← Nat.pow_add, show k + 1 + (52 - k) = 53 by omega]
    have magnitude : n * 2 ^ (52 - k) * 2 ^ (1022 + k) = n * unitsPerOne := by
      have total : 52 - k + (1022 + k) = 1074 := by omega
      rw [Nat.mul_assoc, ← Nat.pow_add, unitsPerOne_eq total]
    generalize n * 2 ^ (52 - k) = m at low high magnitude
    refine ⟨(1022 + k + 1) * binade + (m - binade), ?_, ?_⟩
    · have := Nat.mul_le_mul_right binade (show 1022 + k + 1 ≤ 1075 by omega)
      omega
    · rw [units_of_binades _ (by omega), Nat.add_sub_cancel' (by omega), magnitude]

theorem add_ofInt {m n : Nat} (hm : m < 2 ^ 53) (hn : n < 2 ^ 53) :
    (ofInt m).add (ofInt n) = ofInt (m + n : Nat) := by
  obtain ⟨r, hr, exact⟩ := exists_units_eq hm
  obtain ⟨s, hs, exact'⟩ := exists_units_eq hn
  have sum : signedUnits false r + signedUnits false s = ((m + n) * unitsPerOne : Nat) := by
    simp only [signedUnits, Bool.false_eq_true, if_false, exact, exact', Nat.add_mul]
    omega
  have nonneg : ∀ k : Nat, decide ((k : Int) < 0) = false := fun k => decide_eq_false (by omega)
  rw [BoundValue.ofInt_eq_signed (Nat.le_of_lt hr) (by rw [Int.natAbs_natCast, exact]),
    BoundValue.ofInt_eq_signed (Nat.le_of_lt hs) (by rw [Int.natAbs_natCast, exact']), nonneg,
    nonneg]
  simp only [add, if_neg (Nat.ne_of_lt hr), if_neg (Nat.ne_of_lt hs), sum, nonneg, Bool.and_self,
    ite_self, Int.natAbs_natCast]
  simp only [ofInt, nonneg, Int.natAbs_natCast]

end Binary64

end FacetSearch
