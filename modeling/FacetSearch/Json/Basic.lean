import FacetSearch.Numeric.Decimal
import FacetSearch.Upsert
/-!
JSON values. Objects keep their members in order of first arrival. Integers and floating point
numbers are told apart: a number written without fraction and exponent is an integer if it lies
between `-2 ^ 63` and `2 ^ 64 - 1`, every other number is a finite binary64 number.
-/

namespace FacetSearch

inductive Number where
  | integer (value : Int)
  | real (value : Binary64) (finite : value.isFinite = true)
  deriving DecidableEq

inductive Json where
  | null
  | bool (value : Bool)
  | number (value : Number)
  | text (value : String)
  | array (items : List Json)
  | object (members : List (String × Json))

namespace Number

def toBinary64 : Number → Binary64
  | integer i => Binary64.ofInt i
  | real x _ => x

/-- The number as documents write it. -/
def text : Number → String
  | integer i => toString i
  | real x _ => x.text .document

end Number

namespace Json

/-! ## Making values -/

def empty : Json := .object []

def ofNat (n : Nat) : Json := .number (.integer n)

def ofInt (i : Int) : Json := .number (.integer i)

/-- A binary64 number; those that are not finite have no JSON form and become null. -/
def ofBinary64 (x : Binary64) : Json :=
  if h : x.isFinite = true then .number (.real x h) else .null

def ofStrings (items : List String) : Json := .array (items.map .text)

/-- Null stands for absence. -/
def ofOption {α : Type} (write : α → Json) : Option α → Json
  | none => .null
  | some a => write a

/-! ## Members -/

/-- Writes a member over the one of its name, or appends it. -/
def putMember (members : List (String × Json)) (name : String) (value : Json) :
    List (String × Json) :=
  upsert (fun entry => entry.1 = name) (name, value) members

/-- Members written one after the other. -/
def membersOf (entries : List (String × Json)) : List (String × Json) :=
  entries.foldl (fun members entry => putMember members entry.1 entry.2) []

def findMember? (members : List (String × Json)) (name : String) : Option Json :=
  (members.find? fun entry => entry.1 = name).map Prod.snd

/-- The member of an object; other values have none. -/
def get? : Json → String → Option Json
  | object members, name => findMember? members name
  | _, _ => none

/-! ## Looking at values -/

def text? : Json → Option String
  | text s => some s
  | _ => none

def bool? : Json → Option Bool
  | bool b => some b
  | _ => none

def array? : Json → Option (List Json)
  | array items => some items
  | _ => none

def object? : Json → Option (List (String × Json))
  | object members => some members
  | _ => none

def isObject : Json → Bool
  | object _ => true
  | _ => false

/-- The natural number, if it is an integer that is not negative. -/
def natural? : Json → Option Nat
  | number (.integer i) => if 0 ≤ i then some i.toNat else none
  | _ => none

def int64? : Json → Option Int64
  | number (.integer i) =>
    if h : Int64.minValue.toInt ≤ i ∧ i ≤ Int64.maxValue.toInt then
      some (Int64.ofIntLE i h.1 h.2)
    else none
  | _ => none

def uint32? (json : Json) : Option UInt32 :=
  json.natural?.bind fun n =>
    if h : n < UInt32.size then some (UInt32.ofNatLT n h) else none

def binary64? : Json → Option Binary64
  | number n => some n.toBinary64
  | _ => none

end Json

end FacetSearch
