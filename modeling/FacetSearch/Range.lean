import FacetSearch.Error
import FacetSearch.Numeric.Numeral
import FacetSearch.Text.Blank
import FacetSearch.Text.Split
/-!
Ranges of numbers and their tokens. A token is a lower and an upper bound with two dots between
them; a bound that is empty or a star is open. Ranges are half open: the lower bound belongs to
them, the upper does not. A lower bound at or below zero bounds nothing, for prices start at zero.
-/

namespace FacetSearch

structure Range where
  /-- The least number of the range; zero and below bound nothing. -/
  low : Binary64
  /-- The first number above the range, if it ends. -/
  high : Option Binary64
  deriving DecidableEq

namespace Range

/-- The range of one bound of a token: none if it is open, otherwise a finite number. -/
def bound (token : String) (side : BoundSide) (raw : List Char) :
    Except SearchError (Option Binary64) :=
  let text := Text.trim raw
  if text = [] ∨ text = ['*'] then .ok none
  else
    match Numeral.binary64? text with
    | some x =>
      if x.isFinite then .ok (some x)
      else .error (.malformedRange token (.notNumeric side (String.ofList text)))
    | none => .error (.malformedRange token (.notNumeric side (String.ofList text)))

/-- The range that a token denotes; an open lower bound is zero. -/
def decode (token : String) : Except SearchError Range :=
  match Text.cutAtDouble? '.' token.toList with
  | none => .error (.malformedRange token .noSeparator)
  | some (low, high) => do
    let low ← bound token .lower low
    let high ← bound token .upper high
    return { low := low.getD .zero, high }

def encode (range : Range) : String :=
  range.low.text .plain ++ ".." ++ ((range.high.map (·.text .plain)).getD "")

/-- The lower bound, if it bounds anything. -/
def lower? (range : Range) : Option Binary64 :=
  if Binary64.zero.lt range.low then some range.low else none

def upper? (range : Range) : Option Binary64 := range.high

def isUnbounded (range : Range) : Bool := range.lower?.isNone && range.upper?.isNone

/-- The number lies in the range. -/
def contains (range : Range) (x : Binary64) : Bool :=
  (range.lower?.map fun lower => lower.le x).getD true
    && (range.upper?.map fun upper => x.lt upper).getD true

/-- The ranges have equal bounds, as numbers. -/
def same (a b : Range) : Bool :=
  a.low.same b.low &&
    match a.high, b.high with
    | none, none => true
    | some x, some y => x.same y
    | _, _ => false

/-- Writing the range and reading it back gives the same range. -/
def roundTrips (range : Range) : Bool :=
  match decode range.encode with
  | .ok again => range.same again
  | .error _ => false

end Range

end FacetSearch
