import FacetSearch.Json.Basic
import FacetSearch.Numeric.Numeral
import FacetSearch.Text.Blank
import FacetSearch.Text.Split
/-!
Looking into documents. A dotted path leads through objects, and through the items of every array on
its way, to the values at its end. A value counts as a term if it is a string, a number or a truth
value, and as a number if it is one or a string that spells one.
-/

namespace FacetSearch.Json

mutual

/-- The value itself, or for an array the values inside it at any depth; nulls are dropped. -/
def flatten : Json → List Json
  | array items => flattenItems items
  | null => []
  | json => [json]

def flattenItems : List Json → List Json
  | [] => []
  | item :: rest => flatten item ++ flattenItems rest

end

/-- The values one step along a path. -/
def step (values : List Json) (segment : String) : List Json :=
  values.flatMap fun value =>
    match value.get? segment with
    | some child => flatten child
    | none => []

/-- Every value at the end of a dotted path, objects excepted. -/
def resolve (root : Json) (path : String) : List Json :=
  ((Text.pieces '.' path).foldl step [root]).filter fun value => !value.isObject

/-- The term of a value. -/
def term? : Json → Option String
  | text s => some s
  | number n => some n.text
  | bool b => some (if b then "true" else "false")
  | _ => none

/-- The number of a value; strings are trimmed and read. -/
def numeric? : Json → Option Binary64
  | number n => some n.toBinary64
  | text s => Numeral.binary64? (Text.trim s.toList)
  | _ => none

def terms (root : Json) (path : String) : List String := (root.resolve path).filterMap term?

def numbers (root : Json) (path : String) : List Binary64 :=
  (root.resolve path).filterMap numeric?

/-- The child objects of a relation. -/
def children (document : Json) (relation : String) : List Json :=
  match document.get? relation with
  | some (array items) => items.filter isObject
  | some (object members) => [object members]
  | _ => []

/-- The value with a member written over; other values than objects stay as they are. -/
def put (document : Json) (name : String) (value : Json) : Json :=
  match document with
  | object members => object (putMember members name value)
  | json => json

/-- One copy of the document per child of a relation, with that child alone in its place. -/
def nestedViews (document : Json) (relation : String) : List Json :=
  (document.children relation).map (document.put relation)

end FacetSearch.Json
