import FacetSearch.Clause
import FacetSearch.Filter
import FacetSearch.Settings
/-!
From filters to clauses. Each filter becomes one boolean clause, and the search is their
conjunction. A filter whose values are left out, because none is selected or because a facet looks
past its own selection, may still demand its forced term.
-/

namespace FacetSearch

/-- The parts of a boolean clause. -/
structure Combination where
  must : List Clause := []
  should : List Clause := []
  filter : List Clause := []
  minimumShould : Option Nat := none

namespace Combination

def clause (c : Combination) : Clause := .bool c.must c.should c.filter c.minimumShould

def size (c : Combination) : Nat := c.must.length + c.should.length + c.filter.length

def isEmpty (c : Combination) : Bool :=
  c.must.isEmpty && c.should.isEmpty && c.filter.isEmpty

end Combination

namespace Filter

/-- The clause of one value; a range that bounds nothing has none, nor has free text. -/
def valueClause (kind : FilterKind) (field value : String) : Except SearchError (Option Clause) :=
  match kind with
  | .field => .ok (some (.term field value))
  | .nested => .ok (some (.nested (relationOf field) (.term field value)))
  | .range => do
    let range ← Range.decode value
    return Clause.ofRange? field range
  | .freeText => .ok none

def valueClauses (kind : FilterKind) (field : String) :
    List String → Except SearchError (List Clause)
  | [] => .ok []
  | value :: rest => do
    let clause ← valueClause kind field value
    let clauses ← valueClauses kind field rest
    return clause.toList ++ clauses

/-- Clauses of which one has to match. -/
def anyOf (clauses : List Clause) : Combination where
  should := clauses
  minimumShould := if clauses.isEmpty then none else some 1

/-- What a filter demands whether or not a value is selected. -/
def forcedClauses (filter : Filter) : Except SearchError (List Clause) :=
  match filter.forced with
  | none => .ok []
  | some term => do
    let clauses ← valueClauses filter.kind term.field [term.value]
    return if clauses.isEmpty then [] else [(anyOf clauses).clause]

/-- What a filter on a field demands. -/
def fieldClause (filter : Filter) (suppressed withForced : Bool) :
    Except SearchError Combination := do
  let selected ←
    if suppressed then .ok [] else valueClauses filter.kind filter.field filter.values
  let forced ← if withForced then filter.forcedClauses else .ok []
  return if filter.application.mustAll then { must := selected, filter := forced }
    else { anyOf selected with filter := forced }

/-- What a filter for free text demands; a text that is blank or left out matches everything. -/
def freeTextClause? (settings : Settings) (filter : Filter) (suppressed : Bool) : Option Clause :=
  filter.values.head?.map fun text =>
    if suppressed || (Text.trim text.toList).isEmpty then .matchAll
    else .words settings.freeTextField text

/-- The values of the filter are left out. -/
def isSuppressed (filter : Filter) (ignored : Option String) : Bool :=
  !filter.isActive || ignored = some filter.name

end Filter

namespace Combination

/-- The combination with the demands of one more filter. -/
def addFilter (settings : Settings) (ignored : Option String) (withForced : Bool)
    (root : Combination) (filter : Filter) : Except SearchError Combination :=
  let suppressed := filter.isSuppressed ignored
  if filter.kind = .freeText then
    .ok { root with must := root.must ++ (filter.freeTextClause? settings suppressed).toList }
  else do
    let part ← filter.fieldClause suppressed withForced
    return if part.isEmpty then root else { root with filter := root.filter ++ [part.clause] }

/-- The conjunction of the filters' demands. The filter named `ignored` loses its values; forced
terms are demanded if `withForced`. -/
def ofFilters (settings : Settings) (filters : List Filter) (ignored : Option String)
    (withForced : Bool) : Except SearchError Combination :=
  filters.foldlM (addFilter settings ignored withForced) {}

end Combination

end FacetSearch
