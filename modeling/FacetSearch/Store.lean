import FacetSearch.Aggregation.Evaluation
import FacetSearch.Document
import FacetSearch.Request
import FacetSearch.StableSort
/-!
A store of documents in memory that answers compiled requests. Hits keep the order in which their
documents arrived, or are sorted by the first number of a field, documents without one last.
-/

namespace FacetSearch

/-- The stored documents, in the order of their arrival. -/
structure Store where
  documents : List Document := []

namespace Store

/-- Stores a document in the place of the one with its identifier and type, or after all others. -/
def index (store : Store) (document : Document) : Store where
  documents :=
    upsert (fun d => d.id = document.id && d.type = document.type) document store.documents

def size (store : Store) : Nat := store.documents.length

def isEmpty (store : Store) : Bool := store.documents.isEmpty

/-- The documents that a clause matches. -/
def matching (store : Store) (clause : Clause) : List Document :=
  store.documents.filter fun document => clause.holds document.fields

/-- The number that a document is sorted by. -/
def sortKey (field : String) (document : Document) : Option Binary64 :=
  (document.fields.numbers field).head?

/-- Whether a sort key may stand before another; missing keys come last in both directions. -/
def keyLe (order : SortOrder) : Option Binary64 → Option Binary64 → Bool
  | some x, some y =>
    match order with
    | .ascending => x.totalLe y
    | .descending => y.totalLe x
  | some _, none => true
  | none, some _ => false
  | none, none => true

/-- Documents in the order of a sort; those that compare equal keep theirs. -/
def sorted (documents : List Document) : SortBy → List Document
  | .score => documents
  | .field field order =>
    stableSort (fun a b => keyLe order (sortKey field a) (sortKey field b)) documents

/-- The response to a request for `size` hits after the first `offset`. -/
def search (store : Store) (request : Request) (offset size : Nat) : Json :=
  let matched := store.matching request.query.clause
  let window := ((sorted matched request.sort).drop offset).take size
  let fields := store.documents.map Document.fields
  .object
    [("results", .array (window.map Document.toJson)),
     ("total_hits", .ofNat matched.length),
     ("aggregations", .object
       [(request.aggregations.name, request.aggregations.evaluate fields)])]

end Store

end FacetSearch
