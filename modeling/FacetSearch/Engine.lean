import FacetSearch.Metrics
import FacetSearch.Response
import FacetSearch.Store
/-!
The search path: compile a query, ask a backend, read its response, and keep the accounts of it.
Searches that succeed are counted by kind, those that fail by cause; every compilation that succeeds
is timed. An error is passed on as it is. A search stops where the reading of the response does; what
is said of its outcome is said of one that goes on.
-/

namespace FacetSearch

/-- What answers requests: for a request and a window, a response or an error. -/
abbrev Backend := Request → Nat → Nat → Except SearchError Json

namespace Backend

def ofStore (store : Store) : Backend := fun request offset size =>
  .ok (store.search request offset size)

/-- The same response to every request. -/
def canned (response : Json) : Backend := fun _ _ _ => .ok response

def failing (message : String) : Backend := fun _ _ _ => .error (.execution message)

end Backend

/-- How long the parts of a search took, in seconds. -/
structure Timing where
  compile : Binary64 := .zero
  total : Binary64 := .zero

/-- Settings and, if searches are measured, the measurements so far. -/
structure Engine where
  settings : Settings := {}
  metrics : Option Metrics := none

namespace Engine

/-- The kind under which a query's searches are counted. -/
def kindOf (query : Query) : String := if query.facets.items.isEmpty then "plain" else "faceted"

def compile (engine : Engine) (timing : Timing) (query : Query) :
    Except SearchError Request × Engine :=
  match Request.ofQuery engine.settings query with
  | .ok request =>
    (.ok request,
      { engine with metrics := engine.metrics.map (·.recordCompile timing.compile) })
  | .error e => (.error e, engine)

/-- Asks the backend for the query's window and reads the response. -/
def answer (backend : Backend) (query : Query) (request : Request) :
    Checked (Except SearchError SearchResult) :=
  match backend request query.offset query.size with
  | .ok response => SearchResult.ofResponse query response
  | .error e => pure (.error e)

/-- Enters the outcome of a search into the accounts. -/
def account (m : Metrics) (query : Query) (seconds : Binary64) :
    Except SearchError SearchResult → Metrics
  | .ok result =>
    m.recordSearch (kindOf query) seconds result.entityCount result.facets.counterCount
  | .error e => m.recordError e.cause

/-- Searches: the outcome, and the engine with its accounts. -/
def search (engine : Engine) (backend : Backend) (timing : Timing) (query : Query) :
    Checked (Except SearchError SearchResult × Engine) := do
  let (compiled, engine) := engine.compile timing query
  let outcome ←
    match compiled with
    | .ok request => answer backend query request
    | .error e => pure (.error e)
  return (outcome,
    { engine with
      metrics := engine.metrics.map fun m => account m query timing.total outcome })

end Engine

end FacetSearch
