import FacetSearch.ApplicationType
import FacetSearch.Json.Record
import FacetSearch.Json.Shape
/-!
Filters: the values that a user has selected for a field, and how they narrow the search.
-/

namespace FacetSearch

/-- Where a filter looks for its values. -/
inductive FilterKind where
  /-- In a field of the document. -/
  | field
  /-- In a field of the document's child objects. -/
  | nested
  /-- In a number, for ranges. -/
  | range
  /-- In the words of the document. -/
  | freeText
  deriving DecidableEq, Repr

namespace FilterKind

def name : FilterKind → String
  | field => "field"
  | nested => "nested"
  | range => "range"
  | freeText => "query"

/-- The kind of a name, which is matched exactly. -/
def ofName? (name : String) : Option FilterKind :=
  if name = "field" then some field
  else if name = "nested" then some nested
  else if name = "range" then some range
  else if name = "query" then some freeText
  else none

theorem ofName?_name (kind : FilterKind) : ofName? kind.name = some kind := by
  cases kind <;> rfl

def toJson (kind : FilterKind) : Json := .text kind.name

def ofJson? (json : Json) : Option FilterKind := json.choice?.bind ofName?

def shape : Shape := .choice [("field", .any), ("nested", .any), ("range", .any), ("query", .any)]

end FilterKind

/-- A term that a filter demands whether or not a value is selected. -/
structure FilterTerm where
  field : String
  value : String
  deriving DecidableEq, Repr

namespace FilterTerm

def toJson (term : FilterTerm) : Json :=
  .object [("field", .text term.field), ("value", .text term.value)]

def ofJson? (json : Json) : Option FilterTerm := do
  let record ← json.record? 2
  let field ← record.required 0 "field" Json.text?
  let value ← record.required 1 "value" Json.text?
  return { field, value }

def shape : Shape := .record [("field", .any), ("value", .any)]

end FilterTerm

/-- A filter of a query. -/
structure Filter where
  name : String
  field : String
  values : List String := []
  kind : FilterKind := .field
  application : ApplicationType
  forced : Option FilterTerm := none
  deriving DecidableEq, Repr

/-- The path before the first dot of a field: the relation that a nested field belongs to. -/
def relationOf (field : String) : String :=
  String.ofList (field.toList.takeWhile (· ≠ '.'))

namespace Filter

/-- The name of the filter that holds the text a user typed. -/
def freeTextName : String := "_query"

def freeText (text : String) : Filter where
  name := freeTextName
  field := ""
  values := [text]
  kind := .freeText
  application := .onlyMustAll

/-- Some value is selected. -/
def isActive (filter : Filter) : Bool := !filter.values.isEmpty

def relation (filter : Filter) : String := relationOf filter.field

/-- The filter as a JSON value; a forced term is written only if there is one. -/
def toJson (filter : Filter) : Json :=
  .object
    ([("name", .text filter.name),
      ("field", .text filter.field),
      ("values", .ofStrings filter.values),
      ("filter_type", filter.kind.toJson),
      ("application_type", filter.application.toJson)]
      ++ match filter.forced with
        | none => []
        | some term => [("filter_terms", term.toJson)])

def ofJson? (json : Json) : Option Filter := do
  let record ← json.record? 6
  let name ← record.required 0 "name" Json.text?
  let field ← record.required 1 "field" Json.text?
  let values ← record.withDefault 2 "values" [] Json.strings?
  let kind ← record.withDefault 3 "filter_type" .field FilterKind.ofJson?
  let application ← record.required 4 "application_type" ApplicationType.ofJson?
  let forced ← record.withDefault 5 "filter_terms" none (Json.nullable? FilterTerm.ofJson?)
  return { name, field, values, kind, application, forced }

def shape : Shape :=
  .record
    [("name", .any), ("field", .any), ("values", .list .any), ("filter_type", FilterKind.shape),
     ("application_type", .any), ("filter_terms", FilterTerm.shape)]

end Filter

end FacetSearch
