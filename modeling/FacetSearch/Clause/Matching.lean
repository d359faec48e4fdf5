import FacetSearch.Clause
import FacetSearch.Document.Path
import FacetSearch.Text.Word
/-!
Which documents a clause matches. A clause for words shares a word with the document; in the field
for free text it looks into every string of the document, except under names that start with a low
line.
-/

namespace FacetSearch

namespace Json

/-- The name of a member that free text does not look into. -/
def isHidden (name : String) : Bool := name.toList.head? = some '_'

mutual

/-- Every string of a value, except under hidden names. -/
def visibleTexts : Json → List String
  | text s => [s]
  | array items => visibleItemTexts items
  | object members => visibleMemberTexts members
  | _ => []

def visibleItemTexts : List Json → List String
  | [] => []
  | item :: rest => item.visibleTexts ++ visibleItemTexts rest

def visibleMemberTexts : List (String × Json) → List String
  | [] => []
  | (name, value) :: rest =>
    (if isHidden name then [] else value.visibleTexts) ++ visibleMemberTexts rest

end

end Json

namespace Clause

/-- The field that stands for the whole document. -/
def allFields : String := "_all"

def documentWords (document : Json) (field : String) : List String :=
  (if field = allFields then document.visibleTexts
    else (document.resolve field).filterMap Json.text?).flatMap Text.words

/-- The document's field holds a word of the text. -/
def sharesWord (document : Json) (field text : String) : Bool :=
  let wanted := Text.words text
  !wanted.isEmpty &&
    (let held := documentWords document field
     wanted.any held.contains)

/-- How many of the optional clauses have to match: none if others decide, else one. -/
def requiredShould (mustEmpty filterEmpty : Bool) : Option Nat → Nat
  | some count => count
  | none => if mustEmpty && filterEmpty then 1 else 0

mutual

/-- The clause matches the document. -/
def holds : Clause → Json → Bool
  | matchAll, _ => true
  | term field value, document => (document.terms field).contains value
  | words field text, document => sharesWord document field text
  | range field bounds, document => (document.numbers field).any bounds.contains
  | nested relation inner, document => (document.nestedViews relation).any inner.holds
  | bool must should filter minimumShould, document =>
    allHold filter document && allHold must document
      && (should.isEmpty
        || decide (requiredShould must.isEmpty filter.isEmpty minimumShould
            ≤ countHolding should document))

def allHold : List Clause → Json → Bool
  | [], _ => true
  | clause :: rest, document => clause.holds document && allHold rest document

def countHolding : List Clause → Json → Nat
  | [], _ => 0
  | clause :: rest, document =>
    (if clause.holds document then 1 else 0) + countHolding rest document

end

/-- The numbers of the documents that the clause matches, counted from zero. -/
def hits (clause : Clause) (documents : List Json) : List Nat :=
  (documents.zipIdx.filter fun entry => clause.holds entry.1).map Prod.snd

end Clause

end FacetSearch
