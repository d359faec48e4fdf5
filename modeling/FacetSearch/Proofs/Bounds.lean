import Mathlib.Algebra.Group.Nat.Defs
import FacetSearch.Bounds
import FacetSearch.Proofs.Outcome
/-!
Bounds of a range clause against the range they are made from.

What is proved:
  1. `nearestRank_units`: a magnitude of the format is rounded to itself, so a bound that is kept
     as an integer compares as the number it was made from (`toBinary64_ofBinary64`).
  2. `isFinite_of_decode`: the bounds of a decoded range are finite.
  3. `contains_ofRange`: the bounds of a decoded range let through the numbers of the range and,
     besides, not-a-number, which a range with bounds does not contain.
-/

namespace FacetSearch

namespace Binary64

/-! ## Magnitudes are rounded to themselves -/

theorem nearestRank_eq (num den : Nat) :
    nearestRank num den =
      min (gridExponent (num / den) * binade
        + roundHalfEven num (den * 2 ^ gridExponent (num / den))) infinityRank := by
  simp only [nearestRank, Nat.shiftLeft_eq]

theorem roundHalfEven_mul (m den : Nat) (h : 0 < den) : roundHalfEven (m * den) den = m := by
  unfold roundHalfEven
  rw [Nat.mul_mod_left, Nat.mul_div_cancel m h]
  simp [h]

/-- A significand of 53 bits, shifted, is rounded on the grid that it was shifted by. -/
theorem gridExponent_shift {m : Nat} (low : binade ≤ m) (high : m < 2 * binade) (k : Nat) :
    gridExponent (m * 2 ^ k) = k := by
  have hb : binade = 2 ^ 52 := by decide
  rw [hb] at low high
  unfold gridExponent
  cases k with
  | zero => rw [Nat.pow_zero, Nat.mul_one, hb, if_pos high]
  | succ k =>
    have floor : 2 ^ 52 * 2 ^ (k + 1) ≤ m * 2 ^ (k + 1) := Nat.mul_le_mul_right _ low
    have ceiling : m * 2 ^ (k + 1) < 2 ^ 53 * 2 ^ (k + 1) :=
      Nat.mul_lt_mul_of_pos_right high (Nat.two_pow_pos _)
    have even : 2 ≤ 2 ^ (k + 1) := by
      rw [Nat.pow_succ]
      have := Nat.two_pow_pos k
      omega
    have large : 2 ^ 52 * 2 ≤ 2 ^ 52 * 2 ^ (k + 1) := Nat.mul_le_mul_left _ even
    rw [← Nat.pow_add] at floor ceiling large
    have log : (m * 2 ^ (k + 1)).log2 = 52 + (k + 1) := by
      refine (Nat.log2_eq_iff (by omega)).mpr ⟨floor, ?_⟩
      rw [show 52 + (k + 1) + 1 = 53 + (k + 1) by omega]
      exact ceiling
    rw [if_neg (by omega), log]
    omega

theorem nearestRank_units {r : Nat} (h : r ≤ infinityRank) : nearestRank (units r) 1 = r := by
  have pos : 0 < binade := by decide
  rw [nearestRank_eq, Nat.div_one, Nat.one_mul]
  by_cases small : r < binade
  · -- Below one binade the grid is the unit, so nothing is rounded.
    have grid : gridExponent r = 0 := if_pos (by omega)
    have exact := roundHalfEven_mul r 1 Nat.one_pos
    rw [Nat.mul_one] at exact
    rw [show units r = r from if_pos small, grid, Nat.pow_zero, exact]
    omega
  · -- Otherwise the magnitude is a significand of 53 bits, shifted by its binade.
    have split := Nat.div_add_mod r binade
    have below := Nat.mod_lt r pos
    have one : 1 ≤ r / binade := (Nat.one_le_div_iff pos).mpr (by omega)
    have shape : units r = (binade + r % binade) * 2 ^ (r / binade - 1) := by
      rw [show units r = _ from if_neg small, Nat.shiftLeft_eq]
    have whole : (r / binade - 1) * binade + binade = binade * (r / binade) := by
      rw [← Nat.succ_mul, Nat.succ_eq_add_one, Nat.sub_add_cancel one, Nat.mul_comm]
    rw [shape, gridExponent_shift (by omega) (by omega),
      roundHalfEven_mul _ _ (Nat.two_pow_pos _)]
    omega

theorem eq_zero_of_units_eq_zero {r : Nat} (h : r ≤ infinityRank) (zero : units r = 0) :
    r = 0 := by
  rw [← nearestRank_units h, zero]
  decide

end Binary64

namespace BoundValue

open Binary64

/-! ## A bound compares as its number -/

theorem ofInt_eq_signed {i : Int} {r : Nat} (h : r ≤ infinityRank)
    (exact : i.natAbs * unitsPerOne = units r) :
    Binary64.ofInt i = .signed (decide (i < 0)) r h := by
  simp only [Binary64.ofInt, ofUnits, exact, nearestRank_units h]

/-- A bound keeps the magnitude of its number and its place on the line; only the sign of zero may
be lost. -/
theorem toBinary64_ofBinary64 (negative : Bool) (rank : Nat) (h : rank ≤ infinityRank) :
    ∃ sign, (ofBinary64 (.signed negative rank h)).toBinary64 = .signed sign rank h ∧
      place sign rank = place negative rank := by
  by_cases isWhole : (Binary64.signed negative rank h).isWhole = true
  · have made : (ofBinary64 (.signed negative rank h)).toBinary64 =
        Binary64.ofInt (Int64.ofInt (Binary64.signed negative rank h).truncate).toInt := by
      simp [ofBinary64, isWhole, toBinary64]
    simp only [Binary64.isWhole, Bool.and_eq_true, beq_iff_eq, decide_eq_true_eq] at isWhole
    obtain ⟨exact, fits⟩ := isWhole
    have whole : units rank / unitsPerOne * unitsPerOne = units rank :=
      Nat.div_mul_cancel (Nat.dvd_of_mod_eq_zero exact)
    have fits : units rank / unitsPerOne < 2 ^ 63 := fits
    rw [made, truncate]
    -- A whole number within 64 bits comes back as it was; only minus zero loses its sign.
    generalize units rank / unitsPerOne = k at fits whole ⊢
    cases negative with
    | false =>
      simp only [Bool.false_eq_true, if_false]
      rw [Int64.toInt_ofInt_of_le (by omega) (by omega)]
      refine ⟨_, ofInt_eq_signed h ?_, ?_⟩
      · rw [Int.natAbs_natCast, whole]
      · rw [decide_eq_false (by omega)]
    | true =>
      simp only [if_true]
      rw [Int64.toInt_ofInt_of_le (by omega) (by omega)]
      refine ⟨_, ofInt_eq_signed h ?_, ?_⟩
      · rw [Int.natAbs_neg, Int.natAbs_natCast, whole]
      · by_cases zero : k = 0
        · rw [zero, Nat.zero_mul] at whole
          rw [eq_zero_of_units_eq_zero h whole.symm]
          simp [place]
        · rw [decide_eq_true (by omega)]
  · exact ⟨negative, by simp [ofBinary64, isWhole, toBinary64], rfl⟩

theorem lt_toBinary64_ofBinary64 (x y : Binary64) :
    y.lt (ofBinary64 x).toBinary64 = y.lt x := by
  cases x with
  | nan => rfl
  | signed negative rank h =>
    obtain ⟨sign, value, same⟩ := toBinary64_ofBinary64 negative rank h
    rw [value]
    cases y with
    | nan => rfl
    | signed _ _ _ => simp only [Binary64.lt, same]

theorem le_toBinary64_ofBinary64 (x y : Binary64) :
    (ofBinary64 x).toBinary64.le y = x.le y := by
  cases x with
  | nan => rfl
  | signed negative rank h =>
    obtain ⟨sign, value, same⟩ := toBinary64_ofBinary64 negative rank h
    rw [value]
    cases y with
    | nan => rfl
    | signed _ _ _ => simp only [Binary64.le, same]

end BoundValue

namespace Range

/-! ## Decoded ranges -/

theorem isFinite_of_bound {token : String} {side : BoundSide} {raw : List Char} {x : Binary64}
    (h : bound token side raw = .ok (some x)) : x.isFinite = true := by
  unfold bound at h
  dsimp only at h
  split at h
  · simp at h
  · split at h
    · split at h
      · rename_i finite
        simp only [Except.ok.injEq, Option.some.injEq] at h
        rw [← h]
        exact finite
      · simp at h
    · simp at h

theorem isFinite_of_decode {token : String} {range : Range} (h : decode token = .ok range) :
    range.low.isFinite = true ∧ ∀ x, range.high = some x → x.isFinite = true := by
  unfold decode at h
  split at h
  · simp at h
  · obtain ⟨low, hlow, h⟩ := bind_eq_ok_iff.mp h
    obtain ⟨high, hhigh, h⟩ := bind_eq_ok_iff.mp h
    rw [← pure_eq_ok_iff.mp h]
    refine ⟨?_, ?_⟩
    · cases low with
      | none =>
        show Binary64.zero.isFinite = true
        decide
      | some x => exact isFinite_of_bound hlow
    · intro x hx
      subst hx
      exact isFinite_of_bound hhigh

/-- What a clause for the range lets through: the numbers of the range, and not-a-number. -/
def admits (range : Range) (x : Binary64) : Bool := range.contains x || decide (x = .nan)

theorem admits_of_contains {range : Range} {x : Binary64} (h : range.contains x = true) :
    range.admits x = true := by
  simp [admits, h]

end Range

namespace Bounds

open Binary64

theorem not_lt_eq_le {x y : Binary64} (hx : x ≠ .nan) (hy : y ≠ .nan) : (!x.lt y) = y.le x := by
  cases x with
  | nan => exact absurd rfl hx
  | signed _ _ _ =>
    cases y with
    | nan => exact absurd rfl hy
    | signed _ _ _ => simp [Binary64.lt, Binary64.le, ← decide_not]

theorem not_le_eq_lt {x y : Binary64} (hx : x ≠ .nan) (hy : y ≠ .nan) : (!x.le y) = y.lt x := by
  rw [← not_lt_eq_le hy hx, Bool.not_not]

theorem ne_nan_of_isFinite {x : Binary64} (h : x.isFinite = true) : x ≠ .nan := by
  intro same
  simp [same, isFinite] at h

theorem refuses_below {range : Range} {x : Binary64} (hx : x ≠ .nan) :
    (!((Bounds.ofRange range).gte.map fun b => x.lt b.toBinary64).getD false)
      = (range.lower?.map fun lower => lower.le x).getD true := by
  unfold Bounds.ofRange Range.lower?
  split
  · rename_i positive
    have hlow : range.low ≠ .nan := by
      intro isNaN
      simp [isNaN, Binary64.lt, Binary64.zero] at positive
    simp [BoundValue.lt_toBinary64_ofBinary64, not_lt_eq_le hx hlow]
  · simp

theorem refuses_above {range : Range}
    (finite : ∀ high, range.high = some high → high.isFinite = true) {x : Binary64} (hx : x ≠ .nan) :
    (!((Bounds.ofRange range).lt.map fun b => b.toBinary64.le x).getD false)
      = (range.upper?.map fun upper => x.lt upper).getD true := by
  unfold Bounds.ofRange Range.upper?
  cases hhigh : range.high with
  | none => simp
  | some bound =>
    have hbound := ne_nan_of_isFinite (finite bound hhigh)
    simp [BoundValue.le_toBinary64_ofBinary64, not_le_eq_lt hbound hx]

/-- The bounds of a decoded range refuse what lies outside it, and not-a-number lies nowhere. -/
theorem contains_ofRange {token : String} {range : Range} (h : Range.decode token = .ok range)
    (x : Binary64) : (Bounds.ofRange range).contains x = range.admits x := by
  obtain ⟨-, high⟩ := Range.isFinite_of_decode h
  by_cases hx : x = .nan
  · -- Every comparison with not-a-number is false, so neither bound refuses it.
    subst hx
    have passes : ∀ bound : BoundValue,
        Binary64.nan.lt bound.toBinary64 = false ∧ bound.toBinary64.le .nan = false := by
      intro bound
      cases bound.toBinary64 <;> exact ⟨rfl, rfl⟩
    cases gte : (Bounds.ofRange range).gte <;> cases lt : (Bounds.ofRange range).lt <;>
      simp [Bounds.contains, gte, lt, passes, Range.admits]
  · simp only [Bounds.contains, Range.admits, Range.contains, hx, decide_false, Bool.or_false]
    rw [← refuses_below hx, ← refuses_above high hx]

end Bounds

end FacetSearch
