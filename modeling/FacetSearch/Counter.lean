import FacetSearch.Checked
import FacetSearch.Facet
import FacetSearch.Numeric.Numeral
/-!
Counters: how many documents have a key of a facet. A composite key has parts; a last part that is a
number is the key's level, and a facet with levels shows the selected keys and the level below them.
-/

namespace FacetSearch

/-- The count of one key. -/
structure Counter where
  key : String
  /-- The parts of the key. -/
  values : List String
  /-- The last of several parts, if it is a number. -/
  level : Option UInt32
  count : Nat
  /-- The key, or its first part, is selected. -/
  isFilterValue : Bool
  deriving DecidableEq, Repr

namespace Counter

/-- The level that the parts of a key give it. -/
def levelOf : List String → Option UInt32
  | [] => none
  | [_] => none
  | first :: second :: rest =>
    Numeral.uint32? (((first :: second :: rest).getLastD second).toList)

/-- The counter of a key under a selection. -/
def ofKey (key : String) (count : Nat) (applied : List String) : Counter :=
  let values := Text.piecesAtDouble Facet.keyMark key
  { key, values, count
    level := levelOf values
    isFilterValue := applied.any fun value => value == key || some value == values.head? }

/-- The first part of the key. -/
def value (counter : Counter) : String := counter.values.headD ""

def toJson (counter : Counter) : Json :=
  .object
    [("key", .text counter.key),
     ("values", .ofStrings counter.values),
     ("level", .ofOption (fun level => .ofNat level.toNat) counter.level),
     ("count", .ofNat counter.count),
     ("is_filter_value", .bool counter.isFilterValue)]

def ofJson? (json : Json) : Option Counter := do
  let record ← json.record? 5
  let key ← record.required 0 "key" Json.text?
  let values ← record.required 1 "values" Json.strings?
  let level ← record.optional 2 "level" Json.uint32?
  let count ← record.required 3 "count" Json.natural?
  let isFilterValue ← record.required 4 "is_filter_value" Json.bool?
  return { key, values, level, count, isFilterValue }

end Counter

/-- The counters of one facet. -/
structure FacetResult where
  name : String
  application : ApplicationType
  /-- How many documents the facet's scope has. -/
  totalDocuments : Nat
  /-- The selected values. -/
  applied : List String
  counters : List Counter := []
  deriving DecidableEq, Repr

namespace FacetResult

/-- Counts a key; a counter of the same key is replaced at its place. -/
def addCounter (result : FacetResult) (key : String) (count : Nat) : FacetResult :=
  { result with
    counters := upsert (fun c => c.key = key) (.ofKey key count result.applied) result.counters }

def counter? (result : FacetResult) (key : String) : Option Counter :=
  result.counters.find? fun c => c.key = key

/-- Some value is selected. -/
def isFiltered (result : FacetResult) : Bool := !result.applied.isEmpty

def totalCounts (result : FacetResult) : Checked Nat :=
  .total (result.counters.foldr (fun counter total => counter.count + total) 0)

/-- The least level of any counter. -/
def shallowest? (counters : List Counter) : Option UInt32 :=
  (counters.filterMap Counter.level).min?

/-- The greatest level of a selected counter. -/
def deepestSelected? (counters : List Counter) : Option UInt32 :=
  ((counters.filter Counter.isFilterValue).filterMap Counter.level).max?

/-- Whether a counter stays when levels are pruned: those without a level do, and of the others the
selected ones and those one level below the deepest selection; without a selection, those of the
least level. The level below is asked for only where a selection does not decide. -/
def survives (shallowest : UInt32) (deepest : Option UInt32) (counter : Counter) : Checked Bool :=
  match counter.level, deepest with
  | none, _ => pure true
  | some level, none => pure (level == shallowest)
  | some level, some deepest =>
    if counter.isFilterValue && decide (level ≤ deepest) then pure true
    else (fun below => level == below) <$> Checked.next deepest

/-- Keeps of the levels only what a user can choose from next. -/
def pruneLevels (result : FacetResult) : Checked FacetResult :=
  match shallowest? result.counters with
  | none => pure result
  | some shallowest => do
    let counters ←
      Checked.filter (survives shallowest (deepestSelected? result.counters)) result.counters
    return { result with counters }

theorem value_pruneLevels (result : FacetResult) :
    result.pruneLevels.value =
      match shallowest? result.counters with
      | none => result
      | some shallowest =>
        { result with
          counters := result.counters.filter fun counter =>
            (survives shallowest (deepestSelected? result.counters) counter).value } := by
  unfold pruneLevels
  split
  · rfl
  · rw [← Checked.value_filter]
    rfl

/-- Pruning reaches nothing but the counters. -/
theorem value_pruneLevels_eq (result : FacetResult) :
    result.pruneLevels.value =
      { result with counters := result.pruneLevels.value.counters } := by
  rw [value_pruneLevels]
  split <;> rfl

def toJson (result : FacetResult) : Json :=
  .object
    [("name", .text result.name),
     ("application_type", result.application.toJson),
     ("total_doc_count", .ofNat result.totalDocuments),
     ("applied_filter_values", .ofStrings result.applied),
     ("counters", .array (result.counters.map Counter.toJson))]

def ofJson? (json : Json) : Option FacetResult := do
  let record ← json.record? 5
  let name ← record.required 0 "name" Json.text?
  let application ← record.required 1 "application_type" ApplicationType.ofJson?
  let totalDocuments ← record.required 2 "total_doc_count" Json.natural?
  let applied ← record.required 3 "applied_filter_values" Json.strings?
  let counters ← record.required 4 "counters" (Json.list? Counter.ofJson?)
  return { name, application, totalDocuments, applied, counters }

end FacetResult

/-- The results of a query's facets by name. -/
structure FacetResults where
  /-- How many documents of the primary type there are. -/
  totalElements : Nat
  entries : KeyedList (String × FacetResult) Prod.fst := .empty

namespace FacetResults

/-- Adds a facet's result under the facet's name. -/
def add (results : FacetResults) (result : FacetResult) : FacetResults :=
  { results with entries := results.entries.put (result.name, result) }

def get? (results : FacetResults) (name : String) : Option FacetResult :=
  (results.entries.get? name).map Prod.snd

def toList (results : FacetResults) : List FacetResult := results.entries.items.map Prod.snd

def counterCount (results : FacetResults) : Nat :=
  results.toList.foldr (fun result total => result.counters.length + total) 0

def toJson (results : FacetResults) : Json :=
  .object
    [("total_elements", .ofNat results.totalElements),
     ("aggregations",
      .object (results.entries.items.map fun entry => (entry.1, entry.2.toJson)))]

/-- A member with the facet's result that it holds. -/
def entryOfJson? (entry : String × Json) : Option (String × FacetResult) :=
  (FacetResult.ofJson? entry.2).map fun result => (entry.1, result)

def ofJson? (json : Json) : Option FacetResults := do
  let record ← json.record? 2
  let totalElements ← record.required 0 "total_elements" Json.natural?
  let members ← record.required 1 "aggregations" Json.object?
  let entries ← members.mapM entryOfJson?
  return { totalElements, entries := .ofList entries }

end FacetResults

end FacetSearch
