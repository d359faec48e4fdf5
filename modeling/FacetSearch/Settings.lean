import FacetSearch.Json.Record
import FacetSearch.Json.Shape
import FacetSearch.Error
/-!
What a shop tells the compiler about its documents.
-/

namespace FacetSearch

/-- The fields and sizes that compiled requests refer to. -/
structure Settings where
  /-- The field that holds a document's type. -/
  typeField : String := "_type"
  /-- The type of the documents that facets count. -/
  primaryType : String := "product"
  /-- The field whose least and greatest values are reported as prices. -/
  rankingField : String := "real_price"
  /-- The field that free text is looked for in. -/
  freeTextField : String := "_all"
  /-- How many values of a facet are counted at most. -/
  facetSize : Nat := 10
  deriving DecidableEq, Repr

namespace Settings

def default : Settings := {}

def toJson (settings : Settings) : Json :=
  .object
    [("type_field", .text settings.typeField),
     ("primary_type", .text settings.primaryType),
     ("ranking_field", .text settings.rankingField),
     ("free_text_field", .text settings.freeTextField),
     ("facet_size", .ofNat settings.facetSize)]

/-- Every field has a default. -/
def ofJson? (json : Json) : Option Settings := do
  let record ← json.record? 5
  let typeField ← record.withDefault 0 "type_field" default.typeField Json.text?
  let primaryType ← record.withDefault 1 "primary_type" default.primaryType Json.text?
  let rankingField ← record.withDefault 2 "ranking_field" default.rankingField Json.text?
  let freeTextField ← record.withDefault 3 "free_text_field" default.freeTextField Json.text?
  let facetSize ← record.withDefault 4 "facet_size" default.facetSize Json.natural?
  return { typeField, primaryType, rankingField, freeTextField, facetSize }

def shape : Shape :=
  .record
    [("type_field", .any), ("primary_type", .any), ("ranking_field", .any),
     ("free_text_field", .any), ("facet_size", .any)]

def ofText (source : String) : Except SearchError Settings :=
  decoded ((Json.ofText? shape source).bind ofJson?)

end Settings

end FacetSearch
