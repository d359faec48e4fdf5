import FacetSearch.Numeric.Binary64
/-!
Decimal numerals and the binary64 numbers nearest to them.

A `Decimal` is a whole number of digits times a power of ten. Reading one as a binary64 number is
exact rounding. `Shortest` writes a magnitude back: on each decimal grid only the two neighbours of
the magnitude can be nearest to it, so the search tries these two, from coarse grids to fine ones,
and keeps the first that reads back as the same magnitude. The coarsest such grid has the fewest
digits.
-/

namespace FacetSearch

/-- The number `digits * 10 ^ exponent`. -/
structure Decimal where
  digits : Nat
  exponent : Int
  deriving DecidableEq, Repr

/-- Whose turn it is when two decimals of the same length are equally near. -/
inductive TieBreak where
  | even
  | upper
  deriving DecidableEq, Repr

namespace Decimal

/-! ## Reading -/

def tenTo (n : Nat) : Nat := Nat.pow 10 n

/-- The decimal digits of a natural number, leading digit first. -/
def digitChars (n : Nat) : List Char := Nat.toDigits 10 n

/-- Numerator and denominator of the decimal, in units of binary64. -/
def inUnits (d : Decimal) : Nat × Nat :=
  (d.digits * tenTo d.exponent.toNat * Binary64.unitsPerOne, tenTo (-d.exponent).toNat)

/-- The rank of the magnitude nearest to the decimal. Decimals far above the largest finite
magnitude or far below the least positive one are settled by their place alone. -/
def rank (d : Decimal) : Nat :=
  if d.digits = 0 then 0
  else
    let place := d.exponent + (digitChars d.digits).length
    if 400 < place then infinityRank
    else if place < -400 then 0
    else Binary64.nearestRank d.inUnits.1 d.inUnits.2

theorem rank_le (d : Decimal) : d.rank ≤ infinityRank := by
  unfold rank
  split
  · exact Nat.zero_le _
  · dsimp only
    split
    · exact Nat.le_refl _
    · split
      · exact Nat.zero_le _
      · exact Binary64.nearestRank_le _ _

/-- The binary64 number of the given sign nearest to the decimal. -/
def toBinary64 (d : Decimal) (negative : Bool) : Binary64 :=
  .signed negative d.rank d.rank_le

/-! ## The shortest decimal that reads back -/

/-- The neighbour of `units` on the grid of `10 ^ exponent` that reads back as `rank`; if both do,
the nearer, and of two equally near ones the one `tie` names. -/
def onGrid? (tie : TieBreak) (rank units : Nat) (exponent : Int) : Option Decimal :=
  let num := units * tenTo (-exponent).toNat
  let den := Binary64.unitsPerOne * tenTo exponent.toNat
  let low := num / den
  let twice := 2 * (num % den)
  let lower : Decimal := ⟨low, exponent⟩
  let upper : Decimal := ⟨low + 1, exponent⟩
  if lower.rank = rank then
    if upper.rank = rank ∧ (den < twice ∨ twice = den ∧ (tie = .upper ∨ low % 2 = 1)) then
      some upper
    else some lower
  else if upper.rank = rank then some upper
  else none

/-- The first hit on the grids of `exponent` and the `grids - 1` finer ones. -/
def search (tie : TieBreak) (rank units : Nat) : Nat → Int → Option Decimal
  | 0, _ => none
  | grids + 1, exponent =>
    match onGrid? tie rank units exponent with
    | some d => some d
    | none => search tie rank units grids (exponent - 1)

/-- A grid at least as coarse as the magnitude itself, from its bit length. -/
def coarsestGrid (units : Nat) : Int :=
  Int.fdiv (((Nat.log2 units : Int) - 1073) * 30103) 100000 + 1

/-- The magnitude of `units` written out in full. -/
def exact (units : Nat) : Decimal := ⟨units * Nat.pow 5 1074, -1074⟩

/-- The shortest decimal that reads back as the rank. -/
def shortest (tie : TieBreak) (rank : Nat) : Decimal :=
  let units := Binary64.units rank
  (search tie rank units 24 (coarsestGrid units)).getD (exact units)

/-- The decimal's digits without the zeros at their end, and its exponent to match. -/
def stripZeros (d : Decimal) : List Char × Int :=
  let digits := digitChars d.digits
  let kept := (digits.reverse.dropWhile (· = '0')).reverse
  (kept, d.exponent + (digits.length - kept.length : Nat))

end Decimal

/-! ## Layout -/

/-- How a decimal is laid out as text. -/
structure NumberLayout where
  /-- The scientific exponents written positionally. -/
  positional : Int → Bool
  /-- What follows the digits of a whole number. -/
  wholeTail : String
  tie : TieBreak

namespace NumberLayout

/-- Positional between `10 ^ -5` and `10 ^ 16`, always with a fraction; elsewhere scientific with
the exponent's sign written. The layout of numbers in documents. -/
def document : NumberLayout where
  positional := fun exponent => decide (-5 ≤ exponent) && decide (exponent ≤ 15)
  wholeTail := ".0"
  tie := .even

/-- Always positional, a whole number without a fraction. The layout of range tokens and of
exported samples. -/
def plain : NumberLayout where
  positional := fun _ => true
  wholeTail := ""
  tie := .upper

/-- Digits with the point after the first `point` of them, zeros filling what is missing. -/
def positionalText (layout : NumberLayout) (digits : List Char) (point : Int) : String :=
  if point ≤ 0 then
    "0." ++ String.ofList (List.replicate (-point).toNat '0' ++ digits)
  else
    let whole := point.toNat
    if digits.length ≤ whole then
      String.ofList (digits ++ List.replicate (whole - digits.length) '0') ++ layout.wholeTail
    else
      String.ofList (digits.take whole) ++ "." ++ String.ofList (digits.drop whole)

/-- One digit, the others as a fraction, and the power of ten. -/
def scientificText (digits : List Char) (exponent : Int) : String :=
  let fraction := digits.drop 1
  String.ofList (digits.take 1)
    ++ (if fraction.isEmpty then "" else "." ++ String.ofList fraction)
    ++ (if exponent < 0 then "e-" else "e+") ++ toString exponent.natAbs

def magnitude (layout : NumberLayout) (rank : Nat) : String :=
  if rank = 0 then "0" ++ layout.wholeTail
  else
    let (digits, exponent) := (Decimal.shortest layout.tie rank).stripZeros
    let point := exponent + digits.length
    if layout.positional (point - 1) then layout.positionalText digits point
    else scientificText digits (point - 1)

end NumberLayout

def Binary64.text (layout : NumberLayout) : Binary64 → String
  | nan => "NaN"
  | signed negative rank _ =>
    (if negative then "-" else "")
      ++ (if rank = infinityRank then "inf" else layout.magnitude rank)

end FacetSearch
