import FacetSearch.Filter
import FacetSearch.Text.Split
/-!
Facets: the fields whose values a query wants counted.
-/

namespace FacetSearch

/-- A facet that a query asks for. -/
structure Facet where
  name : String
  /-- One field, or several with bars between them. -/
  field : String
  kind : FilterKind := .field
  application : ApplicationType
  /-- The only values to report, all of them if empty; for a range facet, its ranges. -/
  subgroup : List String := []
  deriving DecidableEq, Repr

namespace Facet

/-- The mark between the fields of a composite facet. -/
def fieldMark : Char := '|'

/-- The mark that is written twice between the parts of a composite key. -/
def keyMark : Char := '~'

/-- What stands between the parts of a composite key. -/
def keySeparator : String := "~~"

/-- The fields whose values make up the facet's keys. -/
def fields (facet : Facet) : List String := Text.pieces fieldMark facet.field

def relation (facet : Facet) : String := relationOf facet.field

/-- Whether a key is to be reported. -/
def keeps (facet : Facet) (key : String) : Bool :=
  facet.subgroup.isEmpty || facet.subgroup.contains key

theorem keeps_iff {facet : Facet} {key : String} :
    facet.keeps key = true ↔ facet.subgroup = [] ∨ key ∈ facet.subgroup := by
  simp [keeps]

/-- The facet as a JSON value; a subgroup is written only if it is not empty. -/
def toJson (facet : Facet) : Json :=
  .object
    ([("name", .text facet.name),
      ("field", .text facet.field),
      ("filter_type", facet.kind.toJson),
      ("application_type", facet.application.toJson)]
      ++ if facet.subgroup.isEmpty then [] else [("subgroup", .ofStrings facet.subgroup)])

def ofJson? (json : Json) : Option Facet := do
  let record ← json.record? 5
  let name ← record.required 0 "name" Json.text?
  let field ← record.required 1 "field" Json.text?
  let kind ← record.withDefault 2 "filter_type" .field FilterKind.ofJson?
  let application ← record.required 3 "application_type" ApplicationType.ofJson?
  let subgroup ← record.withDefault 4 "subgroup" [] Json.strings?
  return { name, field, kind, application, subgroup }

def shape : Shape :=
  .record
    [("name", .any), ("field", .any), ("filter_type", FilterKind.shape),
     ("application_type", .any), ("subgroup", .list .any)]

end Facet

end FacetSearch
