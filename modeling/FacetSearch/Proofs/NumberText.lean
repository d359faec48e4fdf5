import Mathlib.Data.List.TakeWhile
import FacetSearch.Proofs.DecimalRank
/-!
Numbers that are written plainly and read back.

The plain layout writes a sign if there is one, digits, and a point with digits after it if the
number is not whole. So no such text holds two points, ends with a point, or holds a blank.

What is proved:
  1. `Decimal.rank_stripZeros`: the zeros that are left out at the end are made up for.
  2. `Numeral.IsPlain.decimal?_eq`: digits around a point are read as the decimal that they spell.
  3. `NumberLayout.isPlain_magnitude`: the plain layout writes a magnitude as such digits, and they
     are read as that magnitude.
  4. `Binary64.binary64?_text`: so a finite number is read back from its plain text, its sign
     included.
-/

namespace FacetSearch

/-! ## Digits without the zeros at their end -/

namespace Decimal

theorem exists_stripZeros (d : Decimal) :
    ∃ zeros : Nat, digitChars d.digits = d.stripZeros.1 ++ List.replicate zeros '0' ∧
      d.stripZeros.2 = d.exponent + zeros := by
  unfold stripZeros
  dsimp only
  generalize digitChars d.digits = digits
  have cut := @List.takeWhile_append_dropWhile _ (fun c => decide (c = '0')) digits.reverse
  have zeros : digits.reverse.takeWhile (fun c => decide (c = '0')) =
      List.replicate (digits.reverse.takeWhile fun c => decide (c = '0')).length '0' := by
    refine List.eq_replicate_iff.mpr ⟨rfl, fun c hc => ?_⟩
    simpa using List.mem_takeWhile_imp hc
  generalize (digits.reverse.takeWhile fun c => decide (c = '0')).length = k at zeros
  rw [zeros] at cut
  generalize digits.reverse.dropWhile (fun c => decide (c = '0')) = kept at cut ⊢
  have parts : digits = kept.reverse ++ List.replicate k '0' := by
    rw [← List.reverse_reverse digits, ← cut, List.reverse_append, List.reverse_replicate]
  refine ⟨k, parts, ?_⟩
  rw [parts, List.length_append, List.length_replicate]
  omega

/-- Without the zeros at its end, which the exponent makes up for, a decimal is read alike. -/
theorem rank_stripZeros (d : Decimal) :
    (⟨Numeral.natural 0 d.stripZeros.1, d.stripZeros.2⟩ : Decimal).rank = d.rank := by
  obtain ⟨zeros, digits, exponent⟩ := d.exists_stripZeros
  have value : Numeral.natural 0 d.stripZeros.1 * 10 ^ zeros = d.digits := by
    rw [← Numeral.natural_zeros, ← Numeral.natural_append, ← digits, Numeral.natural_digitChars]
  have same : scaled ⟨Numeral.natural 0 d.stripZeros.1, d.stripZeros.2⟩ zeros = d := by
    unfold scaled
    dsimp only
    rw [value, exponent, Int.add_sub_cancel]
  rw [← rank_scaled _ zeros, same]

theorem isDigit_of_mem_stripZeros {d : Decimal} {c : Char} (h : c ∈ d.stripZeros.1) :
    c.isDigit = true := by
  obtain ⟨zeros, digits, -⟩ := d.exists_stripZeros
  have among : c ∈ digitChars d.digits := digits ▸ List.mem_append_left _ h
  exact Nat.isDigit_of_mem_toDigits (by decide) (by decide) among

theorem stripZeros_ne_nil {d : Decimal} (nonzero : d.rank ≠ 0) : d.stripZeros.1 ≠ [] := by
  intro none
  apply nonzero
  rw [← rank_stripZeros, none]
  rfl

end Decimal

namespace Numeral

/-! ## Digits around a point -/

/-- The text is digits, and a point with digits after it if there are any. -/
structure IsPlain (cs whole fraction : List Char) : Prop where
  text : cs = whole ++ if fraction = [] then [] else '.' :: fraction
  some : whole ≠ []
  whole : ∀ c ∈ whole, c.isDigit = true
  fraction : ∀ c ∈ fraction, c.isDigit = true

def decimalOf (whole fraction : List Char) : Decimal :=
  ⟨natural 0 (whole ++ fraction), -(fraction.length : Int)⟩

theorem digitRun_append {digits rest : List Char} (all : ∀ c ∈ digits, c.isDigit = true)
    (stops : ∀ c ∈ rest.head?, c.isDigit = false) : digitRun (digits ++ rest) = (digits, rest) := by
  rw [digitRun, List.takeWhile_append_of_pos all, List.dropWhile_append_of_pos all]
  cases rest with
  | nil => simp
  | cons c later => simp [stops c rfl]

theorem digitRun_of_forall {digits : List Char} (all : ∀ c ∈ digits, c.isDigit = true) :
    digitRun digits = (digits, []) := by
  rw [← List.append_nil digits, digitRun_append all (by simp), List.append_nil]

namespace IsPlain

variable {cs whole fraction : List Char}

/-- Digits around a point are read as the decimal that they spell. -/
theorem decimal?_eq (plain : IsPlain cs whole fraction) :
    decimal? cs = Option.some (decimalOf whole fraction) := by
  obtain ⟨rfl, some, digits, digits'⟩ := plain
  unfold decimal?
  by_cases none : fraction = []
  · rw [if_pos none, List.append_nil, digitRun_of_forall digits]
    simp [some, none, powerOfTen?, decimalOf]
  · have stops : ∀ c ∈ ('.' :: fraction).head?, c.isDigit = false := by simp
    rw [if_neg none, digitRun_append digits stops]
    simp [digitRun_of_forall digits', some, powerOfTen?, decimalOf]

theorem exists_cons (plain : IsPlain cs whole fraction) :
    ∃ c rest, cs = c :: rest ∧ c.isDigit = true := by
  obtain ⟨rfl, some, digits, -⟩ := plain
  obtain ⟨c, rest, rfl⟩ := List.exists_cons_of_ne_nil some
  exact ⟨c, _, List.cons_append, digits c List.mem_cons_self⟩

theorem isDigit_or_of_mem (plain : IsPlain cs whole fraction) {c : Char} (h : c ∈ cs) :
    c.isDigit = true ∨ c = '.' := by
  obtain ⟨rfl, -, digits, digits'⟩ := plain
  rcases List.mem_append.mp h with before | after
  · exact .inl (digits c before)
  · split at after
    · cases after
    · rcases List.mem_cons.mp after with point | after
      · exact .inr point
      · exact .inl (digits' c after)

theorem count_point_le (plain : IsPlain cs whole fraction) : cs.count '.' ≤ 1 := by
  have none : ∀ digits : List Char, (∀ c ∈ digits, c.isDigit = true) → digits.count '.' = 0 := by
    intro digits all
    rw [List.count_eq_zero]
    intro among
    exact absurd (all _ among) (by decide)
  obtain ⟨rfl, -, digits, digits'⟩ := plain
  rw [List.count_append, none whole digits]
  split
  · simp
  · rw [List.count_cons_self, none fraction digits']

theorem getLast?_ne_point (plain : IsPlain cs whole fraction) : cs.getLast? ≠ Option.some '.' := by
  have last : ∀ digits : List Char, (∀ c ∈ digits, c.isDigit = true) →
      digits.getLast? ≠ Option.some '.' := by
    intro digits all point
    exact absurd (all _ (List.mem_of_getLast? point)) (by decide)
  obtain ⟨rfl, some, digits, digits'⟩ := plain
  split
  · rw [List.append_nil]
    exact last whole digits
  · rename_i fractional
    obtain ⟨c, rest, rfl⟩ := List.exists_cons_of_ne_nil fractional
    rw [List.getLast?_append_of_ne_nil _ (List.cons_ne_nil _ _), List.getLast?_cons_cons]
    exact last _ digits'

end IsPlain

end Numeral

/-! ## The plain layout -/

namespace NumberLayout

open Numeral (IsPlain decimalOf natural)

/-- Digits are laid out around the point so that they spell what they spell with the exponent. -/
theorem isPlain_positionalText {digits : List Char} (some : digits ≠ [])
    (all : ∀ c ∈ digits, c.isDigit = true) (exponent : Int) :
    ∃ whole fraction,
      IsPlain (plain.positionalText digits (exponent + digits.length)).toList whole fraction ∧
        (decimalOf whole fraction).rank = (⟨natural 0 digits, exponent⟩ : Decimal).rank := by
  have zero : ∀ k, ∀ c ∈ List.replicate k '0', c.isDigit = true := by
    intro k c hc
    rw [List.eq_of_mem_replicate hc]
    rfl
  have long := List.length_pos_of_ne_nil some
  unfold positionalText
  split
  · -- The point comes before all digits.
    rename_i small
    generalize hk : (-(exponent + digits.length)).toNat = k
    refine ⟨['0'], List.replicate k '0' ++ digits, ⟨?_, by simp, zero 1, ?_⟩, ?_⟩
    · simp [some]
    · exact fun c hc => (List.mem_append.mp hc).elim (zero k c) (all c)
    · have value : natural 0 (['0'] ++ (List.replicate k '0' ++ digits)) = natural 0 digits := by
        rw [List.singleton_append, ← List.cons_append, ← List.replicate_succ,
          Numeral.natural_append, Numeral.natural_zeros, Nat.zero_mul]
      have place : -((List.replicate k '0' ++ digits).length : Int) = exponent := by
        rw [List.length_append, List.length_replicate]
        omega
      rw [decimalOf, value, place]
  · rename_i large
    dsimp only
    generalize hw : (exponent + digits.length).toNat = w
    split
    · -- It comes after all digits, and zeros fill what is missing.
      rename_i short
      refine ⟨digits ++ List.replicate (w - digits.length) '0', [], ⟨?_, ?_, ?_, by simp⟩, ?_⟩
      · simp [plain]
      · simp [some]
      · exact fun c hc => (List.mem_append.mp hc).elim (all c) (zero _ c)
      · have place : exponent - (w - digits.length : Nat) = 0 := by omega
        rw [← Decimal.rank_scaled ⟨natural 0 digits, exponent⟩ (w - digits.length), Decimal.scaled,
          place, decimalOf, List.append_nil, Numeral.natural_append, Numeral.natural_zeros]
        rfl
    · -- It comes between two of them.
      rename_i between
      have cut : digits.drop w ≠ [] := by simp; omega
      refine ⟨digits.take w, digits.drop w, ⟨?_, ?_, ?_, ?_⟩, ?_⟩
      · simp [cut]
      · simp [some]; omega
      · exact fun c hc => all c (List.mem_of_mem_take hc)
      · exact fun c hc => all c (List.mem_of_mem_drop hc)
      · have place : -((digits.drop w).length : Int) = exponent := by
          rw [List.length_drop]
          omega
        rw [decimalOf, List.take_append_drop, place]

/-- A magnitude is written plainly as digits around a point that are read as it. -/
theorem isPlain_magnitude {r : Nat} (finite : r < infinityRank) :
    ∃ whole fraction, IsPlain (plain.magnitude r).toList whole fraction ∧
      (decimalOf whole fraction).rank = r := by
  unfold magnitude
  by_cases zero : r = 0
  · rw [if_pos zero]
    exact ⟨['0'], [], ⟨rfl, by simp, List.forall_mem_singleton.mpr rfl, by simp⟩, zero.symm⟩
  · have read := Decimal.rank_shortest plain.tie finite
    have digits := Decimal.rank_stripZeros (Decimal.shortest plain.tie r)
    have some := Decimal.stripZeros_ne_nil (read.trans_ne zero)
    rw [if_neg zero]
    obtain ⟨whole, fraction, isPlain, rank⟩ := isPlain_positionalText some
      (fun c => Decimal.isDigit_of_mem_stripZeros) (Decimal.shortest plain.tie r).stripZeros.2
    exact ⟨whole, fraction, isPlain, (rank.trans digits).trans read⟩

end NumberLayout

namespace Binary64

open Numeral (IsPlain)

/-! ## Numbers -/

theorem toLower_of_isDigit {c : Char} (h : c.isDigit = true) : c.toLower = c := by
  unfold Char.toLower
  refine dif_neg ?_
  rintro ⟨upper, -⟩
  simp only [Char.isDigit, Bool.and_eq_true, decide_eq_true_eq] at h
  exact absurd (UInt32.le_trans upper h.2) (by decide)

/-- No word begins with a digit. -/
theorem ofList_ne_word {c : Char} (h : c.isDigit = true) (rest : List Char) {word : String}
    (letter : ∀ first ∈ word.toList.head?, first.isDigit = false) :
    String.ofList ((c :: rest).map Char.toLower) ≠ word := by
  rintro rfl
  rw [String.toList_ofList, List.map_cons, toLower_of_isDigit h] at letter
  rw [letter c rfl] at h
  cases h

theorem sign_of_isDigit {c : Char} (h : c.isDigit = true) (rest : List Char) (negative : Bool) :
    Numeral.sign ((if negative then ['-'] else []) ++ c :: rest) = (negative, c :: rest) := by
  cases negative with
  | true => rfl
  | false =>
    have unsigned : c ≠ '-' ∧ c ≠ '+' := by
      constructor <;> (rintro rfl; cases h)
    simp [Numeral.sign, unsigned]

theorem binary64?_of_isPlain {cs whole fraction : List Char} (plain : IsPlain cs whole fraction)
    (negative : Bool) :
    Numeral.binary64? ((if negative then ['-'] else []) ++ cs) =
      some ((Numeral.decimalOf whole fraction).toBinary64 negative) := by
  have read := plain.decimal?_eq
  obtain ⟨c, rest, rfl, digit⟩ := plain.exists_cons
  unfold Numeral.binary64?
  rw [sign_of_isDigit digit]
  dsimp only
  rw [if_neg, if_neg, read]
  · rfl
  · exact ofList_ne_word digit rest (by simp)
  · rintro (inf | infinity)
    · exact ofList_ne_word digit rest (by simp) inf
    · exact ofList_ne_word digit rest (by simp) infinity

/-- The plain text of a finite number is a sign if it is negative, and digits around a point that
are read as it. -/
theorem exists_isPlain_text {x : Binary64} (finite : x.isFinite = true) :
    ∃ negative cs whole fraction,
      (x.text .plain).toList = (if negative then ['-'] else []) ++ cs ∧ IsPlain cs whole fraction ∧
        (Numeral.decimalOf whole fraction).toBinary64 negative = x := by
  cases x with
  | nan => cases finite
  | signed negative rank le =>
    have below : rank < infinityRank := of_decide_eq_true finite
    obtain ⟨whole, fraction, plain, read⟩ := NumberLayout.isPlain_magnitude below
    refine ⟨negative, _, whole, fraction, ?_, plain, ?_⟩
    · cases negative <;> simp [text, below.ne]
    · subst read
      rfl

/-- A finite number is read back from its plain text. -/
theorem binary64?_text {x : Binary64} (finite : x.isFinite = true) :
    Numeral.binary64? (x.text .plain).toList = some x := by
  obtain ⟨negative, cs, whole, fraction, text, plain, read⟩ := exists_isPlain_text finite
  rw [text, binary64?_of_isPlain plain, read]

end Binary64

end FacetSearch
