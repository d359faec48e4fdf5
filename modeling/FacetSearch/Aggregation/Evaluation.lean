import FacetSearch.Aggregation
import FacetSearch.Clause.Matching
import FacetSearch.StableSort
/-!
Evaluating aggregation trees on documents. A document counts once for each of its keys, however
often it holds the key. Keys come in order of falling counts, equal counts in the order of the keys.
-/

namespace FacetSearch.Aggregation

/-! ## Keys -/

/-- The keys of a document: the terms of the one field, or the first terms of all the fields joined
together; a document without a term for one of several fields has no key. -/
def keysOf (fields : List String) (document : Json) : List String :=
  match fields with
  | [field] => (document.terms field).eraseDups
  | _ =>
    match fields.mapM fun field => (document.terms field).head? with
    | some parts => [Facet.keySeparator.intercalate parts]
    | none => []

def countKey (counts : List (String × Nat)) (key : String) : List (String × Nat) :=
  match counts with
  | [] => [(key, 1)]
  | (k, n) :: rest => if k = key then (k, n + 1) :: rest else (k, n) :: countKey rest key

/-- How often each key occurs. -/
def tally (keys : List String) : List (String × Nat) := keys.foldl countKey []

/-- The order of buckets: greater counts first, equal counts by key. -/
def ranksBefore (a b : String × Nat) : Bool :=
  decide (b.2 < a.2) || (a.2 == b.2 && !decide (b.1 < a.1))

/-- The counted keys of the documents in their order, at most `size` of them. -/
def topKeys (fields : List String) (size : Nat) (documents : List Json) : List (String × Nat) :=
  (stableSort ranksBefore (tally (documents.flatMap (keysOf fields)))).take size

/-! ## Ranges and extremes -/

def countInRange (field : String) (range : Range) (documents : List Json) : Nat :=
  documents.countP fun document => (document.numbers field).any range.contains

/-- The first of the least numbers. -/
def least? : List Binary64 → Option Binary64
  | [] => none
  | x :: rest => some (rest.foldl (fun low y => if low.totalLe y then low else y) x)

/-- The last of the greatest numbers. -/
def greatest? : List Binary64 → Option Binary64
  | [] => none
  | x :: rest => some (rest.foldl (fun high y => if high.totalLe y then y else high) x)

/-! ## Trees -/

def keyBucket (entry : String × Nat) : Json :=
  .object [("key", .text entry.1), ("doc_count", .ofNat entry.2)]

def rangeBucket (field : String) (documents : List Json) (bucket : RangeBucket) : Json :=
  .object
    (bucket.members ++ [("doc_count", .ofNat (countInRange field bucket.range documents))])

def bucketList (buckets : List Json) : Json := .object [("buckets", .array buckets)]

/-- An extreme as responses show it; null if there is no finite one. -/
def extreme (value : Option Binary64) : Json :=
  .object [("value", .ofOption .ofBinary64 value)]

/-- The number of documents in a scope, as responses show it. -/
def scopeCount (documents : List Json) : List (String × Json) :=
  [("doc_count", .ofNat documents.length)]

mutual

/-- What a response shows for an aggregation over these documents. -/
def evaluate (documents : List Json) : Aggregation → Json
  | global _ children => .object (evaluateAll documents (scopeCount documents) children)
  | filter _ clause children =>
    let narrowed := documents.filter clause.holds
    .object (evaluateAll narrowed (scopeCount narrowed) children)
  | nested _ relation children =>
    let views := documents.flatMap fun document => document.nestedViews relation
    .object (evaluateAll views (scopeCount views) children)
  | terms _ fields size => bucketList ((topKeys fields size documents).map keyBucket)
  | range _ field buckets => bucketList (buckets.map (rangeBucket field documents))
  | least _ field => extreme (least? (documents.flatMap fun document => document.numbers field))
  | greatest _ field =>
    extreme (greatest? (documents.flatMap fun document => document.numbers field))

/-- What a response shows for the aggregations inside a scope, after the members already there; an
aggregation named as one of them replaces it. -/
def evaluateAll (documents : List Json) (members : List (String × Json)) :
    List Aggregation → List (String × Json)
  | [] => members
  | tree :: rest =>
    evaluateAll documents (Json.putMember members tree.name (evaluate documents tree)) rest

end

end FacetSearch.Aggregation
