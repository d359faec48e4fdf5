import FacetSearch.Numeric.Numeral
import FacetSearch.Proofs.Bounds
import FacetSearch.Proofs.Order
/-!
Decimals and the magnitudes that they are read as.

A decimal is read by rounding a quotient of whole numbers, so that only the quotient counts and not
how the decimal is written. The shortest decimal of a magnitude is searched for among decimals that
are read as it; where the search ends without one, the magnitude is written out in full, and that is
read as it is.

What is proved:
  1. `Numeral.natural_digitChars`: the digits of a number spell the number.
  2. `Binary64.nearestRank_congr`: equal quotients are rounded to one magnitude.
  3. `Decimal.rank_scaled`: zeros at the end that the exponent makes up for change nothing.
  4. `Decimal.rank_shortest`: the shortest decimal of a magnitude is read as that magnitude.
-/

namespace FacetSearch

/-! ## Digits -/

namespace Numeral

theorem natural_eq_ofDigitChars (n : Nat) (cs : List Char) :
    natural n cs = Nat.ofDigitChars 10 cs n := by
  induction cs generalizing n with
  | nil => rfl
  | cons c rest ih =>
    rw [Nat.ofDigitChars_cons]
    exact ih _

theorem natural_digitChars (n : Nat) : natural 0 (Decimal.digitChars n) = n := by
  rw [natural_eq_ofDigitChars, Decimal.digitChars, Nat.ofDigitChars_ten_toDigits]

theorem natural_append (n : Nat) (cs ds : List Char) :
    natural n (cs ++ ds) = natural (natural n cs) ds := by
  simp only [natural_eq_ofDigitChars, Nat.ofDigitChars_append]

theorem natural_zeros (n k : Nat) : natural n (List.replicate k '0') = n * 10 ^ k := by
  rw [natural_eq_ofDigitChars, Nat.ofDigitChars_replicate_zero, Nat.mul_comm]

end Numeral

/-! ## Rounding of quotients -/

namespace Binary64

theorem roundHalfEven_scale (num den : Nat) {k : Nat} (pos : 0 < k) :
    roundHalfEven (num * k) (den * k) = roundHalfEven num den := by
  unfold roundHalfEven
  dsimp only
  rw [Nat.mul_div_mul_right _ _ pos, Nat.mul_mod_mul_right, ← Nat.mul_assoc]
  simp only [Nat.mul_lt_mul_right pos]

theorem nearestRank_scale (num den : Nat) {k : Nat} (pos : 0 < k) :
    nearestRank (num * k) (den * k) = nearestRank num den := by
  rw [nearestRank_eq, nearestRank_eq, Nat.mul_div_mul_right _ _ pos, Nat.mul_right_comm,
    roundHalfEven_scale _ _ pos]

/-- Equal quotients are rounded to one magnitude. -/
theorem nearestRank_congr {num den num' den' : Nat} (pos : 0 < den) (pos' : 0 < den')
    (equal : num * den' = num' * den) : nearestRank num den = nearestRank num' den' := by
  calc nearestRank num den
    _ = nearestRank (num * den') (den * den') := (nearestRank_scale num den pos').symm
    _ = nearestRank (num' * den) (den' * den) := by rw [equal, Nat.mul_comm den]
    _ = nearestRank num' den' := nearestRank_scale num' den' pos

end Binary64

namespace Decimal

/-! ## Decimals of one value -/

/-- The decimal with zeros at the end of its digits, and its exponent to match. -/
def scaled (d : Decimal) (zeros : Nat) : Decimal := ⟨d.digits * 10 ^ zeros, d.exponent - zeros⟩

theorem tenTo_pos (n : Nat) : 0 < tenTo n := Nat.pow_pos (by decide)

theorem length_digitChars_scaled {n : Nat} (pos : 0 < n) (k : Nat) :
    (digitChars (n * 10 ^ k)).length = (digitChars n).length + k := by
  induction k with
  | zero => simp
  | succ k ih =>
    have many : 10 ≤ n * 10 ^ k * 10 := by
      have := Nat.mul_pos pos (Nat.pow_pos (n := k) (show 0 < 10 by decide))
      omega
    rw [Nat.pow_succ, ← Nat.mul_assoc, digitChars, Nat.toDigits_of_base_le (by decide) many,
      Nat.mul_div_cancel _ (by decide), List.length_append, List.length_singleton, ← digitChars, ih,
      Nat.add_assoc]

/-- Zeros at the end scale numerator and denominator alike, whatever the signs of the exponents. -/
theorem nearestRank_scaled (d : Decimal) (zeros : Nat) :
    Binary64.nearestRank (d.scaled zeros).inUnits.1 (d.scaled zeros).inUnits.2 =
      Binary64.nearestRank d.inUnits.1 d.inUnits.2 := by
  obtain ⟨digits, exponent⟩ := d
  have exponents : zeros + (exponent - zeros).toNat + (-exponent).toNat =
      exponent.toNat + (-(exponent - zeros)).toNat := by omega
  have powers : 10 ^ zeros * tenTo (exponent - zeros).toNat * tenTo (-exponent).toNat =
      tenTo exponent.toNat * tenTo (-(exponent - zeros)).toNat := by
    simp only [tenTo, Nat.pow_eq, ← Nat.pow_add, exponents]
  apply Binary64.nearestRank_congr (tenTo_pos _) (tenTo_pos _)
  dsimp only [scaled, inUnits]
  generalize Binary64.unitsPerOne = one
  calc digits * 10 ^ zeros * tenTo (exponent - zeros).toNat * one * tenTo (-exponent).toNat
    _ = digits * (10 ^ zeros * tenTo (exponent - zeros).toNat * tenTo (-exponent).toNat) * one := by
      ac_rfl
    _ = digits * (tenTo exponent.toNat * tenTo (-(exponent - zeros)).toNat) * one := by rw [powers]
    _ = digits * tenTo exponent.toNat * one * tenTo (-(exponent - zeros)).toNat := by ac_rfl

theorem rank_scaled (d : Decimal) (zeros : Nat) : (d.scaled zeros).rank = d.rank := by
  have ten : 0 < 10 ^ zeros := Nat.pow_pos (by decide)
  have digits : (d.scaled zeros).digits = d.digits * 10 ^ zeros := rfl
  have exponent : (d.scaled zeros).exponent = d.exponent - zeros := rfl
  unfold rank
  dsimp only
  rw [nearestRank_scaled, digits, exponent]
  by_cases none : d.digits = 0
  · rw [if_pos none, if_pos (by rw [none, Nat.zero_mul])]
  · have pos := Nat.pos_of_ne_zero none
    have place : d.exponent - zeros + ((digitChars d.digits).length + zeros : Nat) =
        d.exponent + (digitChars d.digits).length := by omega
    rw [if_neg none, if_neg (Nat.mul_pos pos ten).ne', length_digitChars_scaled pos, place]

/-! ## The shortest decimal is read back -/

theorem rank_onGrid? {tie : TieBreak} {rank units : Nat} {exponent : Int} {d : Decimal}
    (h : onGrid? tie rank units exponent = some d) : d.rank = rank := by
  unfold onGrid? at h
  dsimp only at h
  split at h
  · rename_i lower
    split at h
    · rename_i upper
      cases h
      exact upper.1
    · cases h
      exact lower
  · split at h
    · rename_i upper
      cases h
      exact upper
    · cases h

theorem rank_search {tie : TieBreak} {rank units grids : Nat} {exponent : Int} {d : Decimal}
    (h : search tie rank units grids exponent = some d) : d.rank = rank := by
  induction grids generalizing exponent with
  | zero => cases h
  | succ grids ih =>
    unfold search at h
    split at h
    · rename_i found hit
      cases h
      exact rank_onGrid? hit
    · exact ih h

/-- One unit has `5 ^ 1074` as its digits, and the largest magnitude has 1474 of them at most. -/
theorem digits_exact : ∃ e low high, e = 1074 ∧ low = 673 ∧ high = 1474 ∧
    Nat.pow 5 e * Binary64.unitsPerOne = tenTo e ∧ 10 ^ low ≤ Nat.pow 5 e ∧
    Binary64.units infinityRank * Nat.pow 5 e < 10 ^ high :=
  ⟨1074, 673, 1474, rfl, rfl, rfl, by decide +kernel, by decide +kernel, by decide +kernel⟩

/-- A magnitude that is written out in full is read as it is. -/
theorem rank_exact {r : Nat} (finite : r < infinityRank) : (exact (Binary64.units r)).rank = r := by
  -- The exponents are variables, lest the powers be worked out.
  obtain ⟨e, low, high, he, hlow, hhigh, one, floor, ceiling⟩ := digits_exact
  have le := Nat.le_of_lt finite
  have largest := Binary64.units_mono le
  have rounded := Binary64.nearestRank_units le
  have exponent : (-1074 : Int) = -e := by omega
  rw [exact, exponent, ← he, rank]
  generalize Nat.pow 5 e = fives at one floor ceiling ⊢
  by_cases zero : Binary64.units r = 0
  · rw [if_pos (by rw [zero, Nat.zero_mul]), Binary64.eq_zero_of_units_eq_zero le zero]
  · generalize Binary64.units r = u at zero largest rounded ⊢
    have pos : 0 < u := Nat.pos_of_ne_zero zero
    have many : low < (digitChars (u * fives)).length := by
      rw [← Nat.not_le, digitChars, Nat.length_toDigits_le_iff (by decide) (by omega), Nat.not_lt]
      exact floor.trans (Nat.le_mul_of_pos_left _ pos)
    have few : (digitChars (u * fives)).length ≤ high := by
      rw [digitChars, Nat.length_toDigits_le_iff (by decide) (by omega)]
      exact (Nat.mul_le_mul_right _ largest).trans_lt ceiling
    have some : u * fives ≠ 0 := (Nat.mul_pos pos (Nat.pow_pos (by decide) |>.trans_le floor)).ne'
    have above : ¬ 400 < -(e : Int) + (digitChars (u * fives)).length := by omega
    have below : ¬ -(e : Int) + (digitChars (u * fives)).length < -400 := by omega
    rw [if_neg some, if_neg above, if_neg below]
    refine Eq.trans ?_ rounded
    apply Binary64.nearestRank_congr (tenTo_pos _) Nat.one_pos
    have whole : (-(e : Int)).toNat = 0 := by omega
    have fraction : (- -(e : Int)).toNat = e := by omega
    dsimp only [inUnits]
    rw [whole, fraction, ← one]
    generalize Binary64.unitsPerOne = unit
    calc u * fives * tenTo 0 * unit * 1
      _ = u * fives * unit := by rw [tenTo, Nat.pow_eq, Nat.pow_zero, Nat.mul_one, Nat.mul_one]
      _ = u * (fives * unit) := Nat.mul_assoc u fives unit

theorem rank_shortest (tie : TieBreak) {r : Nat} (finite : r < infinityRank) :
    (shortest tie r).rank = r := by
  unfold shortest
  dsimp only
  cases found : search tie r (Binary64.units r) 24 (coarsestGrid (Binary64.units r)) with
  | none => exact rank_exact finite
  | some d => exact rank_search found

end Decimal

end FacetSearch
