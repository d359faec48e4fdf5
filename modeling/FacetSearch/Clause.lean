import FacetSearch.Bounds
/-!
Query clauses and the request language of the backend. A boolean clause combines others: all of
`must` and `filter` have to match, and of `should` a minimum number; `filter` does not count towards
the score.
-/

namespace FacetSearch

inductive Clause where
  | matchAll
  /-- Some value of the field is this term. -/
  | term (field term : String)
  /-- The field holds one of the words of the text. -/
  | words (field text : String)
  /-- Some number of the field lies within the bounds. -/
  | range (field : String) (bounds : Bounds)
  /-- Some child of the relation matches on its own. -/
  | nested (relation : String) (inner : Clause)
  | bool (must should filter : List Clause) (minimumShould : Option Nat)

namespace Clause

def typeName : Clause → String
  | matchAll => "match_all"
  | term _ _ => "term"
  | words _ _ => "match"
  | range _ _ => "range"
  | nested _ _ => "nested"
  | bool _ _ _ _ => "bool"

/-- The members of a boolean clause from its written parts; empty lists are left out. -/
def boolMembers (must should filter : List Json) (minimumShould : Option Nat) :
    List (String × Json) :=
  (if must.isEmpty then [] else [("must", Json.array must)])
    ++ (if should.isEmpty then [] else [("should", Json.array should)])
    ++ (if filter.isEmpty then [] else [("filter", Json.array filter)])
    ++ (minimumShould.map fun count => ("minimum_should_match", Json.ofNat count)).toList

mutual

def toJson : Clause → Json
  | matchAll => .object [("match_all", .empty)]
  | term field value => .object [("term", .object [(field, .text value)])]
  | words field text =>
    .object
      [("match", .object
        [(field, .object [("query", .text text), ("operator", .text "or")])])]
  | range field bounds => .object [("range", .object [(field, bounds.toJson)])]
  | nested relation inner =>
    .object
      [("nested", .object
        [("path", .text relation), ("score_mode", .text "max"), ("query", inner.toJson)])]
  | bool must should filter minimumShould =>
    .object
      [("bool", .object
        (boolMembers (listToJson must) (listToJson should) (listToJson filter) minimumShould))]

def listToJson : List Clause → List Json
  | [] => []
  | clause :: rest => clause.toJson :: listToJson rest

end

mutual

/-- The clause contributes to the score of a hit. -/
def isScoring : Clause → Bool
  | matchAll => false
  | term _ _ => false
  | words _ _ => true
  | range _ _ => false
  | nested _ inner => inner.isScoring
  | bool must should _ _ => anyScoring must || anyScoring should

def anyScoring : List Clause → Bool
  | [] => false
  | clause :: rest => clause.isScoring || anyScoring rest

end

/-! ## Clauses as records -/

/-- A term clause that a JSON record gives. -/
def termOfJson? (json : Json) : Option Clause := do
  let record ← json.record? 2
  let field ← record.required 0 "field" Json.text?
  let value ← record.required 1 "term" Json.text?
  return .term field value

/-- A clause for words that a JSON record gives. -/
def wordsOfJson? (json : Json) : Option Clause := do
  let record ← json.record? 2
  let field ← record.required 0 "field" Json.text?
  let text ← record.required 1 "query" Json.text?
  return .words field text

/-- A range clause that a JSON object gives, with the bounds beside the field. -/
def rangeOfJson? (json : Json) : Option Clause := do
  let members ← json.object?
  let field ← (Json.findMember? members "field").bind Json.text?
  let bounds ← Bounds.ofJson? json
  return .range field bounds

/-- The range clause of a range, unless the range bounds nothing. -/
def ofRange? (field : String) (range : Range) : Option Clause :=
  let bounds := Bounds.ofRange range
  if bounds.isEmpty then none else some (.range field bounds)

end Clause

end FacetSearch
