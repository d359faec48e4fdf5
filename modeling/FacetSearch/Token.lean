import FacetSearch.Checked
import FacetSearch.Error
import FacetSearch.Json.Record
import FacetSearch.Text.Blank
import FacetSearch.Text.Case
/-!
Access tokens. A token belongs to an application and may be bound to indices, to referring pages and
to endpoints, and to a time; where a list is empty it is not bound. Tokens come from locators, the
first of which that knows the token decides.
-/

namespace FacetSearch

structure Token where
  reference : String
  appId : String
  indices : List String := []
  referrers : List String := []
  endpoints : List String := []
  /-- How long the token is valid, in seconds; forever if not positive. -/
  secondsValid : Int64 := 0
  /-- From when on, in seconds of the epoch. -/
  updatedAt : Int64 := 0
  deriving DecidableEq

/-- A request that asks for permission. -/
structure Access where
  appId : String
  indexId : String
  reference : String
  referrer : String
  path : String
  verb : String

namespace Access

/-- The endpoint of a request: its verb and its path without the slashes around it, in lower case. -/
def endpoint (verb path : String) : String :=
  Text.lower
    (verb ++ "~~" ++ String.ofList (Text.trimBy (fun c => c = '/') path.toList))

end Access

namespace Token

/-- The token's time is over. -/
def isExpiredAt (token : Token) (now : Int) : Checked Bool :=
  if 0 < token.secondsValid then
    (fun last => decide (last.toInt < now)) <$> Checked.add token.updatedAt token.secondsValid
  else pure false

/-- A list that grants a value: one that is empty, or one that has it. -/
def grants (allowed : List String) (value : String) : Bool :=
  allowed.isEmpty || allowed.contains value

/-- The token permits the request at some time. -/
def covers (token : Token) (access : Access) : Bool :=
  token.appId == access.appId
    && grants token.referrers access.referrer
    && (access.indexId.isEmpty || grants token.indices access.indexId)
    && grants token.endpoints (Access.endpoint access.verb access.path)

/-- The token permits the request at this time, which is asked for last. -/
def permits (token : Token) (access : Access) (now : Int) : Checked Bool :=
  if token.covers access then not <$> token.isExpiredAt now else pure false

def toJson (token : Token) : Json :=
  .object
    [("reference", .text token.reference),
     ("app_id", .text token.appId),
     ("indices", .ofStrings token.indices),
     ("http_referrers", .ofStrings token.referrers),
     ("endpoints", .ofStrings token.endpoints),
     ("seconds_valid", .ofInt token.secondsValid.toInt),
     ("updated_at", .ofInt token.updatedAt.toInt)]

def ofJson? (json : Json) : Option Token := do
  let record ← json.record? 7
  let reference ← record.required 0 "reference" Json.text?
  let appId ← record.required 1 "app_id" Json.text?
  let indices ← record.withDefault 2 "indices" [] Json.strings?
  let referrers ← record.withDefault 3 "http_referrers" [] Json.strings?
  let endpoints ← record.withDefault 4 "endpoints" [] Json.strings?
  let secondsValid ← record.withDefault 5 "seconds_valid" 0 Json.int64?
  let updatedAt ← record.withDefault 6 "updated_at" 0 Json.int64?
  return { reference, appId, indices, referrers, endpoints, secondsValid, updatedAt }

end Token

/-- The tokens that a locator knows, one for each application and reference. -/
structure TokenStore where
  tokens : List Token := []

namespace TokenStore

/-- Stores a token in the place of the one with its application and reference. -/
def add (store : TokenStore) (token : Token) : TokenStore where
  tokens :=
    upsert (fun t => t.appId = token.appId && t.reference = token.reference) token store.tokens

def ofList (tokens : List Token) : TokenStore := tokens.foldl add {}

/-- The token of an application and a reference. -/
def find? (store : TokenStore) (appId reference : String) : Option Token :=
  store.tokens.find? fun t => t.appId = appId && t.reference = reference

/-- The store without the token of an application and a reference. -/
def remove (store : TokenStore) (appId reference : String) : TokenStore where
  tokens := store.tokens.filter fun t => !(t.appId = appId && t.reference = reference)

end TokenStore

/-- Where tokens are looked up. -/
inductive Locator where
  /-- A store, which may be out of service. -/
  | stored (store : TokenStore) (enabled : Bool)
  /-- The same token for every request. -/
  | fixed (token : Token)

namespace Locator

def isValid : Locator → Bool
  | stored _ enabled => enabled
  | fixed _ => true

/-- What the locator finds, whether or not it is in service. -/
def find? : Locator → String → String → Option Token
  | stored store _, appId, reference => store.find? appId reference
  | fixed token, _, _ => some token

end Locator

/-- The token of the first locator in service that finds one. -/
def locate? (locators : List Locator) (appId reference : String) : Option Token :=
  (locators.filter Locator.isValid).findSome? fun locator => locator.find? appId reference

/-- The token of a request, if it permits the request at a time. -/
def validate (locators : List Locator) (access : Access) (now : Int) :
    Checked (Except SearchError Token) :=
  match locate? locators access.appId access.reference with
  | none => pure (.error (.invalidToken access.reference))
  | some token => do
    if ← token.permits access now then return .ok token
    return .error (.invalidToken access.reference)

end FacetSearch
