import FacetSearch.Json.Record
import FacetSearch.Range
/-!
Bounds of a range clause. A whole bound is kept as an integer, so that requests show it without a
fraction.
-/

namespace FacetSearch

/-- A bound: an integer or a binary64 number. -/
inductive BoundValue where
  | whole (value : Int64)
  | real (value : Binary64)
  deriving DecidableEq

namespace BoundValue

/-- The bound of a number; numbers without a fraction become integers where they fit. -/
def ofBinary64 (x : Binary64) : BoundValue :=
  if x.isWhole then whole (Int64.ofInt x.truncate) else real x

def toBinary64 : BoundValue → Binary64
  | whole i => Binary64.ofInt i.toInt
  | real x => x

/-- The bound as a JSON number; null if it is not finite. -/
def toJson : BoundValue → Json
  | whole i => .ofInt i.toInt
  | real x => .ofBinary64 x

/-- The bound that a JSON number gives: an integer if it fits, else the nearest binary64 number. -/
def ofJson? (json : Json) : Option BoundValue :=
  match json.int64? with
  | some i => some (whole i)
  | none => json.binary64?.map real

end BoundValue

/-- An inclusive lower bound and an exclusive upper one, either of which may be missing. -/
structure Bounds where
  gte : Option BoundValue := none
  lt : Option BoundValue := none
  deriving DecidableEq

namespace Bounds

def ofRange (range : Range) : Bounds where
  gte := range.lower?.map .ofBinary64
  lt := range.upper?.map .ofBinary64

def isEmpty (bounds : Bounds) : Bool := bounds.gte.isNone && bounds.lt.isNone

/-- No bound excludes the number; not-a-number is excluded by none. -/
def contains (bounds : Bounds) (x : Binary64) : Bool :=
  !((bounds.gte.map fun bound => x.lt bound.toBinary64).getD false)
    && !((bounds.lt.map fun bound => bound.toBinary64.le x).getD false)

def members (bounds : Bounds) : List (String × Json) :=
  (bounds.gte.map fun bound => ("gte", bound.toJson)).toList
    ++ (bounds.lt.map fun bound => ("lt", bound.toJson)).toList

def toJson (bounds : Bounds) : Json := .object bounds.members

def ofJson? (json : Json) : Option Bounds := do
  let record ← json.record? 2
  let gte ← record.optional 0 "gte" BoundValue.ofJson?
  let lt ← record.optional 1 "lt" BoundValue.ofJson?
  return { gte, lt }

end Bounds

end FacetSearch
