/-!
What can go wrong between a query and its result, by cause, and the wording of each.
-/

namespace FacetSearch

inductive BoundSide where
  | lower
  | upper
  deriving DecidableEq, Repr

namespace BoundSide

/-- The end as messages call it. -/
def word : BoundSide → String
  | lower => "lower"
  | upper => "upper"

end BoundSide

/-- Why a text is not a range token. -/
inductive RangeFault where
  /-- The two dots between the bounds are missing. -/
  | noSeparator
  /-- A bound is neither open nor a finite number. -/
  | notNumeric (side : BoundSide) (text : String)
  deriving DecidableEq, Repr

namespace RangeFault

def message : RangeFault → String
  | noSeparator => "missing '..' separator"
  | notNumeric side text => side.word ++ " bound '" ++ text ++ "' is not numeric"

end RangeFault

/-- The parts of a response without which it cannot be read. -/
inductive ResponsePart where
  | allScope
  | typeScope
  | commonScope
  deriving DecidableEq, Repr

namespace ResponsePart

def path : ResponsePart → String
  | allScope => "aggregations.all"
  | typeScope => "aggregations.all.all_products"
  | commonScope => "aggregations.all.all_products.common"

end ResponsePart

/-- The causes of failure. -/
inductive SearchError where
  | malformedRange (token : String) (fault : RangeFault)
  | malformedResponse (missing : ResponsePart)
  /-- The backend could not answer. -/
  | execution (message : String)
  /-- The token does not exist or does not permit the request. -/
  | invalidToken (reference : String)
  /-- A facet asks for a name that the response needs for itself. -/
  | reservedName (name : String)
  /-- A JSON value or text does not have the form it should have. -/
  | undecodable
  | fileNotFound
  deriving DecidableEq, Repr

namespace SearchError

def message : SearchError → String
  | malformedRange token fault => "Malformed range '" ++ token ++ "': " ++ fault.message
  | malformedResponse missing => "Malformed backend response: missing " ++ missing.path
  | execution message => "Execution error: " ++ message
  | invalidToken reference => "Invalid token permissions for '" ++ reference ++ "'"
  | reservedName name => "Invalid request: aggregation name '" ++ name ++ "' is reserved"
  | undecodable => "Serialization error"
  | fileNotFound => "IO error: No such file or directory (os error 2)"

/-- The label under which failed searches are counted. -/
def cause : SearchError → String
  | malformedRange _ _ => "malformed_range"
  | malformedResponse _ => "malformed_response"
  | execution _ => "execution"
  | invalidToken _ => "invalid_token"
  | reservedName _ => "invalid_request"
  | undecodable => "serialization"
  | fileNotFound => "io"

/-- The same request may succeed later. -/
def isRetriable : SearchError → Bool
  | execution _ => true
  | _ => false

end SearchError

/-- A value that a reader may refuse, as an outcome. -/
def decoded {α : Type} : Option α → Except SearchError α
  | some a => .ok a
  | none => .error .undecodable

end FacetSearch
