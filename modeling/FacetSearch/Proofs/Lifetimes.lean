import Mathlib.Algebra.Ring.Int.Defs
import FacetSearch.Token
/-!
The end of a token's time.

A token that does not last forever ends with the sum of two 64-bit numbers, and both are as whoever
stores the token gives them. A lifetime that is meant to be endless may add up to more than the last
of these numbers; whether the token has ended cannot then be told.

What is proved:
  1. `Checked.overflows_add`: which sums leave the 64-bit numbers.
  2. `Token.overflows_isExpiredAt`, `Token.isExpiredAt_of_not_outlasts`: for which tokens it cannot be
     told whether they have ended, and what is told of the others.
  3. `Token.isExpiredAt_lasting_iff`, `Token.permits_lasting_iff`: a token that is in its time and is
     made to last longer stays in it, and permits what it did, unless it outlasts the 64-bit seconds.
  4. `Token.expiry_of_lifetime`: the same compared with what unbounded integers say.
-/

namespace FacetSearch

/-! ## Sums of 64-bit numbers -/

namespace Checked

variable {a b : Int64}

theorem overflows_add : (add a b).overflows = true ↔
    a.toInt + b.toInt < Int64.minValue.toInt ∨ Int64.maxValue.toInt < a.toInt + b.toInt := by
  have least : Int64.minValue.toInt = -2 ^ 63 := by decide
  have greatest : Int64.maxValue.toInt = 2 ^ 63 - 1 := by decide
  rw [add, decide_eq_true_eq, Int64.toInt_add, Int.bmod_def, least, greatest]
  split <;> omega

theorem toInt_add (within : (add a b).overflows = false) :
    (add a b).value.toInt = a.toInt + b.toInt := by
  simpa [add] using within

end Checked

namespace Token

/-- The last second of the token's time, counted in unbounded integers. -/
def lastSecond (token : Token) : Int := token.updatedAt.toInt + token.secondsValid.toInt

/-- The token does not last forever, and its last second comes after the last 64-bit number. -/
def Outlasts (token : Token) : Prop :=
  0 < token.secondsValid ∧ Int64.maxValue.toInt < token.lastSecond

instance (token : Token) : Decidable token.Outlasts := inferInstanceAs (Decidable (_ ∧ _))

def lasting (token : Token) (seconds : Int64) : Token := { token with secondsValid := seconds }

variable {token : Token} {now : Int} {longer : Int64}

/-! ## When a token has ended -/

/-- A token with a lifetime does not end before the least 64-bit number. -/
theorem minValue_le_lastSecond (lasts : 0 < token.secondsValid) :
    Int64.minValue.toInt ≤ token.lastSecond := by
  have positive : 0 < token.secondsValid.toInt := Int64.lt_iff_toInt_lt.mp lasts
  have least : Int64.minValue.toInt = -2 ^ 63 := by decide
  have first := token.updatedAt.le_toInt
  rw [least, lastSecond]
  omega

theorem overflows_lastSecond (lasts : 0 < token.secondsValid) :
    (Checked.add token.updatedAt token.secondsValid).overflows = true ↔ token.Outlasts := by
  rw [Checked.overflows_add, ← lastSecond, Outlasts, and_iff_right lasts,
    or_iff_right (Int.not_lt.mpr (minValue_le_lastSecond lasts))]

theorem overflows_isExpiredAt : (token.isExpiredAt now).overflows = true ↔ token.Outlasts := by
  unfold isExpiredAt
  split
  · rename_i lasts
    rw [Checked.overflows_map, overflows_lastSecond lasts]
  · rename_i forever
    exact iff_of_false Bool.false_ne_true fun late => forever late.1

/-- A token that does not outlast the 64-bit seconds has ended if it has in unbounded integers. -/
theorem isExpiredAt_of_not_outlasts (within : ¬ token.Outlasts) :
    token.isExpiredAt now =
      pure (decide (0 < token.secondsValid ∧ token.lastSecond < now)) := by
  have told : (token.isExpiredAt now).overflows = false := by
    rwa [← Bool.not_eq_true, overflows_isExpiredAt]
  refine Checked.eq_pure_iff.mpr ⟨told, ?_⟩
  unfold isExpiredAt
  split
  · rename_i lasts
    have sum : (Checked.add token.updatedAt token.secondsValid).overflows = false := by
      rwa [← Bool.not_eq_true, overflows_lastSecond lasts]
    rw [Checked.value_map, Checked.toInt_add sum, ← lastSecond]
    simp [lasts]
  · rename_i forever
    simp [forever]

theorem isExpiredAt_eq_pure_iff {expired : Bool} :
    token.isExpiredAt now = pure expired ↔ ¬ token.Outlasts ∧
      (expired = true ↔ 0 < token.secondsValid ∧ token.lastSecond < now) := by
  constructor
  · intro told
    have within : ¬ token.Outlasts := by
      rw [← overflows_isExpiredAt, told]
      exact Bool.false_ne_true
    rw [isExpiredAt_of_not_outlasts within, Checked.eq_pure_iff] at told
    exact ⟨within, by rw [← told.2, Checked.value_pure, decide_eq_true_eq]⟩
  · intro h
    rw [isExpiredAt_of_not_outlasts h.1, Bool.eq_iff_iff.mpr (h.2.trans decide_eq_true_iff.symm)]

/-! ## Longer lifetimes -/

theorem lastSecond_le_lasting (h : token.secondsValid ≤ longer) :
    token.lastSecond ≤ (token.lasting longer).lastSecond :=
  Int.add_le_add_left (Int64.le_iff_toInt_le.mp h) _

/-- A token in its time that is made to last longer is in its time, unless that cannot be told. -/
theorem isExpiredAt_lasting_iff (lasts : 0 < token.secondsValid)
    (h : token.secondsValid ≤ longer) (valid : token.isExpiredAt now = pure false) :
    (token.lasting longer).isExpiredAt now = pure false ↔ ¬ (token.lasting longer).Outlasts := by
  have later := lastSecond_le_lasting h
  obtain ⟨-, inTime⟩ := isExpiredAt_eq_pure_iff.mp valid
  rw [isExpiredAt_eq_pure_iff, and_iff_left_iff_imp]
  intro _
  refine iff_of_false Bool.false_ne_true fun ended => ?_
  exact Bool.false_ne_true (inTime.mpr ⟨lasts, Int.lt_of_le_of_lt later ended.2⟩)

theorem permits_eq_pure_true_iff {access : Access} :
    token.permits access now = pure true ↔
      token.covers access = true ∧ token.isExpiredAt now = pure false := by
  unfold permits
  cases token.covers access <;> simp [Checked.eq_pure_iff]

theorem permits_lasting_iff {access : Access} (lasts : 0 < token.secondsValid)
    (h : token.secondsValid ≤ longer) (permitted : token.permits access now = pure true) :
    (token.lasting longer).permits access now = pure true ↔ ¬ (token.lasting longer).Outlasts := by
  obtain ⟨covered, valid⟩ := permits_eq_pure_true_iff.mp permitted
  have covered' : (token.lasting longer).covers access = true := covered
  rw [permits_eq_pure_true_iff, and_iff_right covered', isExpiredAt_lasting_iff lasts h valid]

/-- Telling whether a token has ended stops exactly if the token outlasts the 64-bit seconds. What is
told otherwise is what unbounded integers say. So a token in its time that is made to last longer is
found in its time exactly if it does not then outlast the 64-bit seconds. -/
theorem expiry_of_lifetime (token : Token) (now : Int) :
    ((token.isExpiredAt now).result? = none ↔ token.Outlasts) ∧
    (∀ expired, (token.isExpiredAt now).result? = some expired →
      (expired = true ↔ 0 < token.secondsValid ∧ token.lastSecond < now)) ∧
    ∀ longer, 0 < token.secondsValid → token.secondsValid ≤ longer →
      (token.isExpiredAt now).result? = some false →
        (((token.lasting longer).isExpiredAt now).result? = some false ↔
          ¬ (token.lasting longer).Outlasts) := by
  simp only [Checked.result?_eq_some_iff, Checked.result?_eq_none_iff]
  refine ⟨overflows_isExpiredAt, ?_, ?_⟩
  · intro expired told
    exact (isExpiredAt_eq_pure_iff.mp told).2
  · intro longer lasts h valid
    exact isExpiredAt_lasting_iff lasts h valid

/-- A token that lasts an hour from the thousandth second on. -/
def hourToken : Token where
  reference := "t1"
  appId := "shop"
  secondsValid := 3600
  updatedAt := 1000

/-- Another hour does no harm. -/
theorem expiry_of_lifetime_hour :
    0 < hourToken.secondsValid ∧ hourToken.secondsValid ≤ 7200 ∧
      (hourToken.isExpiredAt 2000).result? = some false ∧
      ((hourToken.lasting 7200).isExpiredAt 2000).result? = some false := by
  obtain ⟨-, -, longer⟩ := expiry_of_lifetime hourToken 2000
  have lasts : 0 < hourToken.secondsValid := by decide
  have more : hourToken.secondsValid ≤ 7200 := by decide
  have valid : (hourToken.isExpiredAt 2000).result? = some false := by decide
  exact ⟨lasts, more, valid, (longer 7200 lasts more valid).mpr (by decide)⟩

/-- The greatest lifetime that can be given to a token in its time leaves it untold whether the token
has ended, although its last second does not come before the time. -/
theorem untold_of_greatest_lifetime :
    (hourToken.isExpiredAt 2000).result? = some false ∧
      hourToken.secondsValid ≤ Int64.maxValue ∧
      ¬ (hourToken.lasting Int64.maxValue).lastSecond < 2000 ∧
      ((hourToken.lasting Int64.maxValue).isExpiredAt 2000).result? = none := by
  decide

end Token

end FacetSearch
