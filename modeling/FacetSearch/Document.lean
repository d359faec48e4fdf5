import FacetSearch.Error
import FacetSearch.Json.Record
import FacetSearch.Json.Shape
/-!
Stored documents, and the one object that queries see of each: its attributes and, over them, its
identifier and its type.
-/

namespace FacetSearch

structure Document where
  id : String
  type : String
  source : List (String × Json) := []

namespace Document

def idField : String := "_id"

def typeField : String := "_type"

/-- What queries see of the document. -/
def fields (document : Document) : Json :=
  .object
    (Json.putMember (Json.putMember document.source idField (.text document.id)) typeField
      (.text document.type))

/-- The document as a JSON value, as hits show it too. -/
def toJson (document : Document) : Json :=
  .object
    [("id", .text document.id), ("type", .text document.type),
     ("source", .object document.source)]

def ofJson? (json : Json) : Option Document := do
  let record ← json.record? 3
  let id ← record.required 0 "id" Json.text?
  let type ← record.required 1 "type" Json.text?
  let source ← record.withDefault 2 "source" [] Json.object?
  return { id, type, source }

def shape : Shape := .record [("id", .any), ("type", .any), ("source", .any)]

def listOfText (text : String) : Except SearchError (List Document) :=
  decoded ((Json.ofText? (.list shape) text).bind (Json.list? ofJson?))

end Document

end FacetSearch
