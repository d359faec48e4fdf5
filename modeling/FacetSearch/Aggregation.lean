import FacetSearch.Clause
import FacetSearch.Facet
/-!
Aggregation trees. A scope narrows the documents that the aggregations inside it see; the leaves
count documents per value or per range, or find the least and the greatest number of a field. In
requests the children of a scope stand under `aggs` by their names.
-/

namespace FacetSearch

/-- One bucket of a range aggregation, named by its token. -/
structure RangeBucket where
  key : String
  range : Range
  deriving DecidableEq

namespace RangeBucket

/-- The bucket's name and the bounds that bound anything. -/
def members (bucket : RangeBucket) : List (String × Json) :=
  [("key", .text bucket.key)]
    ++ (bucket.range.lower?.map fun x => ("from", (BoundValue.ofBinary64 x).toJson)).toList
    ++ (bucket.range.upper?.map fun x => ("to", (BoundValue.ofBinary64 x).toJson)).toList

def toJson (bucket : RangeBucket) : Json := .object bucket.members

def ofToken (token : String) : Except SearchError RangeBucket := do
  let range ← Range.decode token
  return ⟨token, range⟩

end RangeBucket

/-- An aggregation and those inside it. -/
inductive Aggregation where
  /-- All documents, whatever the query. -/
  | global (name : String) (children : List Aggregation)
  /-- The documents that a clause matches. -/
  | filter (name : String) (clause : Clause) (children : List Aggregation)
  /-- The children of a relation. -/
  | nested (name relation : String) (children : List Aggregation)
  /-- The most frequent keys; several fields make composite keys. -/
  | terms (name : String) (fields : List String) (size : Nat)
  | range (name field : String) (buckets : List RangeBucket)
  | least (name field : String)
  | greatest (name field : String)

namespace Aggregation

def name : Aggregation → String
  | global name _ | filter name _ _ | nested name _ _ | terms name _ _ | range name _ _
  | least name _ | greatest name _ => name

/-- The aggregations inside a scope; the others hold none. -/
def children : Aggregation → List Aggregation
  | global _ children | filter _ _ children | nested _ _ children => children
  | _ => []

/-- Adds an aggregation inside a scope; the others stay as they are. -/
def withChild : Aggregation → Aggregation → Aggregation
  | global name children, child => global name (children ++ [child])
  | filter name clause children, child => filter name clause (children ++ [child])
  | nested name relation children, child => nested name relation (children ++ [child])
  | leaf, _ => leaf

def child? (tree : Aggregation) (name : String) : Option Aggregation :=
  tree.children.find? fun child => child.name = name

/-! ## The request language -/

/-- The script that joins the values of several fields to one key. -/
def compositeScript (fields : List String) : String :=
  (" + \"" ++ Facet.keySeparator ++ "\" + ").intercalate
    (fields.map fun field => "doc['" ++ field ++ "'].value")

/-- Where the keys of a terms aggregation come from: one field, or a script over several. -/
def keySource : List String → String × Json
  | [field] => ("field", .text field)
  | fields => ("script", .text (compositeScript fields))

/-- The body of a scope, with its children if it has any. -/
def scopeBody (kind : String) (value : Json) (aggs : List (String × Json)) : Json :=
  .object ([(kind, value)] ++ if aggs.isEmpty then [] else [("aggs", .object aggs)])

mutual

/-- The aggregation's body in the request language. -/
def body : Aggregation → Json
  | global _ children => scopeBody "global" .empty (bodies [] children)
  | filter _ clause children => scopeBody "filter" clause.toJson (bodies [] children)
  | nested _ relation children =>
    scopeBody "nested" (.object [("path", .text relation)]) (bodies [] children)
  | terms _ fields size =>
    .object [("terms", .object [keySource fields, ("size", .ofNat size)])]
  | range _ field buckets =>
    .object
      [("range", .object
        [("field", .text field), ("ranges", .array (buckets.map RangeBucket.toJson))])]
  | least _ field => .object [("min", .object [("field", .text field)])]
  | greatest _ field => .object [("max", .object [("field", .text field)])]

/-- The bodies of aggregations by their names, after those already taken; a later one of a name
replaces an earlier one. -/
def bodies (taken : List (String × Json)) : List Aggregation → List (String × Json)
  | [] => taken
  | tree :: rest => bodies (Json.putMember taken tree.name tree.body) rest

end

/-- The aggregation in the request language, under its name. -/
def toJson (tree : Aggregation) : Json := .object [(tree.name, tree.body)]

end Aggregation

end FacetSearch
