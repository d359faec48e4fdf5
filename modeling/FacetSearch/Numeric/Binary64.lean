/-!
Sixty-four bit binary floating point numbers, held exactly.

A magnitude is kept as its *rank*: its place among all magnitudes of the format, zero first and
infinity last. Ranks order as the magnitudes do, so comparing is comparing natural numbers. The
value of a finite rank is a whole number of *units*, one unit being the least positive magnitude
`2 ^ -1074`. Every operation is carried out on whole numbers and rounded once, to the nearest
magnitude and to an even rank when two are equally near.
-/

namespace FacetSearch

/-- How many magnitudes lie from one power of two to the next. -/
def binade : Nat := 1 <<< 52

/-- The rank of infinity; finite magnitudes have the smaller ranks. -/
def infinityRank : Nat := 2047 * binade

/-- A binary64 number: not-a-number, or a sign and a magnitude. -/
inductive Binary64 where
  | nan
  | signed (negative : Bool) (rank : Nat) (rank_le : rank ≤ infinityRank)
  deriving DecidableEq

namespace Binary64

/-! ## Magnitudes -/

/-- The magnitude of a rank, in units of `2 ^ -1074`. -/
def units (rank : Nat) : Nat :=
  if rank < binade then rank else (binade + rank % binade) <<< (rank / binade - 1)

/-- The quotient rounded to the nearest whole number, halves going to the even one. -/
def roundHalfEven (num den : Nat) : Nat :=
  let low := num / den
  let twice := 2 * (num % den)
  if twice < den then low
  else if den < twice then low + 1
  else low + low % 2

/-- The power of two on whose grid a magnitude of `whole` units is rounded. -/
def gridExponent (whole : Nat) : Nat :=
  if whole < 2 * binade then 0 else Nat.log2 whole - 52

/-- The rank nearest to `num / den` units, infinity included. -/
def nearestRank (num den : Nat) : Nat :=
  let e := gridExponent (num / den)
  min (e * binade + roundHalfEven num (den <<< e)) infinityRank

theorem nearestRank_le (num den : Nat) : nearestRank num den ≤ infinityRank :=
  Nat.min_le_right _ _

/-- How many units make the number one. -/
def unitsPerOne : Nat := 1 <<< 1074

/-! ## Making numbers -/

/-- The number of the given sign nearest to `num / den` units. -/
def ofUnits (negative : Bool) (num den : Nat) : Binary64 :=
  .signed negative (nearestRank num den) (nearestRank_le num den)

/-- The number nearest to an integer. -/
def ofInt (i : Int) : Binary64 :=
  ofUnits (decide (i < 0)) (i.natAbs * unitsPerOne) 1

/-- Zero, the default lower end of a price range. -/
def zero : Binary64 := .signed false 0 (Nat.zero_le _)

def infinity (negative : Bool) : Binary64 := .signed negative infinityRank (Nat.le_refl _)

def isFinite : Binary64 → Bool
  | nan => false
  | signed _ rank _ => decide (rank < infinityRank)

/-! ## Order -/

/-- The place of a number on the line: both zeros are at the origin. -/
def place (negative : Bool) (rank : Nat) : Int :=
  if negative then -rank else rank

/-- The number is below the other one; never so when either is not-a-number. -/
def lt : Binary64 → Binary64 → Bool
  | signed n r _, signed n' r' _ => decide (place n r < place n' r')
  | _, _ => false

/-- The number is at or below the other one; never so when either is not-a-number. -/
def le : Binary64 → Binary64 → Bool
  | signed n r _, signed n' r' _ => decide (place n r ≤ place n' r')
  | _, _ => false

/-- The numbers are equal as numbers: zeros of both signs are, not-a-number never is. -/
def same : Binary64 → Binary64 → Bool
  | signed n r _, signed n' r' _ => decide (place n r = place n' r')
  | _, _ => false

/-- At or below in the total order that puts not-a-number above everything. -/
def totalLe : Binary64 → Binary64 → Bool
  | _, nan => true
  | nan, _ => false
  | x, y => x.le y

/-! ## Arithmetic -/

/-- The units of a finite number, with its sign. -/
def signedUnits (negative : Bool) (rank : Nat) : Int :=
  if negative then -(units rank) else units rank

/-- The sum, rounded once; a sum of zero is negative only if both terms are. -/
def add : Binary64 → Binary64 → Binary64
  | signed n r h, signed n' r' h' =>
    if r = infinityRank then
      if r' = infinityRank ∧ n ≠ n' then nan else signed n r h
    else if r' = infinityRank then signed n' r' h'
    else
      let sum := signedUnits n r + signedUnits n' r'
      ofUnits (if sum = 0 then n && n' else decide (sum < 0)) sum.natAbs 1
  | _, _ => nan

/-- The number without its fraction; zero where there is no such integer. -/
def truncate : Binary64 → Int
  | nan => 0
  | signed n r _ =>
    if n then -((units r / unitsPerOne : Nat) : Int) else ((units r / unitsPerOne : Nat) : Int)

/-- The number without its fraction, held within the signed 64-bit integers. -/
def clampToInt64 (x : Binary64) : Int64 :=
  Int64.ofIntClamp x.truncate

/-- The number is an integer of magnitude below `2 ^ 63`. -/
def isWhole : Binary64 → Bool
  | nan => false
  | signed _ r _ => units r % unitsPerOne == 0 && decide (units r / unitsPerOne < 1 <<< 63)

end Binary64

end FacetSearch
