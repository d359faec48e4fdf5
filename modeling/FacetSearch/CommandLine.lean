import FacetSearch.Json.Writer
import FacetSearch.Engine
/-!
The command line: two commands, the options of each, and what a run prints. The option for settings
may stand before or after the command; options that are not given fall back to the environment, and
an option may be given only once on either side of the command. Files are loaded in the order
settings, query, documents, and the first that fails ends the run.
-/

namespace FacetSearch.CommandLine

/-- What a run is to do, with the paths of the files it needs. -/
inductive Command where
  /-- Print the compiled request of a query. -/
  | compile (query : String)
  /-- Print the result of a query on documents. -/
  | search (query documents : String)
  deriving DecidableEq, Repr

structure Invocation where
  settings : Option String
  command : Command
  deriving DecidableEq, Repr

/-! ## Arguments -/

/-- Options with their values, the last one given first. -/
abbrev Options := List (String × String)

namespace Options

def find? (options : Options) (name : String) : Option String :=
  (List.find? (fun entry => entry.1 = name) options).map Prod.snd

/-- Adds an option that is allowed, has a value, and has not been given yet. -/
def add? (options : Options) (allowed : List String) (name value : String) : Option Options :=
  if allowed.contains name && (options.find? name).isNone && !value.isEmpty then
    some ((name, value) :: options)
  else none

end Options

/-- The name after two hyphens and, if there is an equals sign, the value after it. -/
def option? (arg : String) : Option (String × Option String) :=
  match arg.toList with
  | '-' :: '-' :: rest =>
    let name := String.ofList (rest.takeWhile (· ≠ '='))
    match rest.dropWhile (· ≠ '=') with
    | [] => some (name, none)
    | _ :: value => some (name, some (String.ofList value))
  | _ => none

/-- An argument that can be the value of the option before it. -/
def isValue (arg : String) : Bool :=
  match arg.toList with
  | '-' :: _ :: _ => false
  | _ => true

/-- Reads the options at the front of the arguments. What follows is not an option. -/
def readOptions? (allowed : List String) (options : Options) :
    List String → Option (Options × List String)
  | [] => some (options, [])
  | arg :: rest =>
    match option? arg with
    | none => some (options, arg :: rest)
    | some ("", none) => some (options, arg :: rest)
    | some (name, some value) =>
      (options.add? allowed name value).bind fun options => readOptions? allowed options rest
    | some (name, none) =>
      match rest with
      | [] => none
      | value :: rest =>
        if isValue value then
          (options.add? allowed name value).bind fun options => readOptions? allowed options rest
        else none

/-- The value of an option, from the arguments or else from the environment. An empty value in the
environment is no value, and an error. -/
def orEnvironment? (given fallback : Option String) : Option (Option String) :=
  match given, fallback with
  | some value, _ => some (some value)
  | none, some value => if value.isEmpty then none else some (some value)
  | none, none => some none

def settingsOption : String := "settings"

def queryOption : String := "query"

def documentsOption : String := "documents"

def settingsVariable : String := "FACETQ_SETTINGS"

def documentsVariable : String := "FACETQ_DOCUMENTS"

/-- Nothing follows, or only the mark that ends the options. -/
def isEnd (args : List String) : Bool := args = [] || args = ["--"]

/-- The command of a name with its options. -/
def command? (environment : String → Option String) (name : String) (options : Options) :
    Option Command := do
  let query ← options.find? queryOption
  if name = "compile" then return .compile query
  else
    let documents ←
      orEnvironment? (options.find? documentsOption) (environment documentsVariable)
    return .search query (← documents)

def allowedOptions? (name : String) : Option (List String) :=
  if name = "compile" then some [settingsOption, queryOption]
  else if name = "search" then some [settingsOption, queryOption, documentsOption]
  else none

/-- The invocation of the arguments; none if they are not used as intended. -/
def invocation? (environment : String → Option String) (args : List String) :
    Option Invocation := do
  let (before, rest) ← readOptions? [settingsOption] [] args
  let (name, rest) ← rest.head?.map fun name => (name, rest.tail)
  let allowed ← allowedOptions? name
  let (options, rest) ← readOptions? allowed [] rest
  if !isEnd rest then failure
  let fallback := environment settingsVariable
  let outer ← orEnvironment? (before.find? settingsOption) fallback
  let inner ← orEnvironment? (options.find? settingsOption) fallback
  let command ← command? environment name options
  let given := options.find? settingsOption <|> before.find? settingsOption
  return { settings := given <|> inner <|> outer, command }

/-! ## Runs -/

inductive Failure where
  | settings (path : String)
  | queryFile (path : String)
  | queryText (path : String)
  | documents (path : String)
  | search (error : SearchError)
  deriving DecidableEq, Repr

namespace Failure

def message : Failure → String
  | settings path => "loading settings " ++ path
  | queryFile path => "reading query file " ++ path
  | queryText path => "parsing query file " ++ path
  | documents path => "loading documents " ++ path
  | search error => error.message

/-- The failure in one line: names in it may hold line breaks, and it ends at the first. -/
def line (failure : Failure) : String := String.ofList (Text.firstLine failure.message.toList)

end Failure

def fileText (files : String → Option String) (path : String) : Except SearchError String :=
  match files path with
  | some text => .ok text
  | none => .error .fileNotFound

def loadSettings (files : String → Option String) : Option String → Except Failure Settings
  | none => .ok {}
  | some path => ((fileText files path).bind Settings.ofText).mapError fun _ => .settings path

def loadQuery (files : String → Option String) (path : String) : Except Failure Query := do
  let text ← (fileText files path).mapError fun _ => Failure.queryFile path
  (Query.ofSource text).mapError fun _ => .queryText path

def loadDocuments (files : String → Option String) (path : String) : Except Failure Store := do
  let documents ←
    ((fileText files path).bind Document.listOfText).mapError fun _ => Failure.documents path
  return { documents }

def run (files : String → Option String) (invocation : Invocation) :
    Checked (Except Failure String) := ExceptT.run do
  let settings ← loadSettings files invocation.settings
  match invocation.command with
  | .compile path =>
    let query ← loadQuery files path
    let request ← (Request.ofQuery settings query).mapError Failure.search
    return request.toJson.pretty ++ "\n"
  | .search path documents =>
    let query ← loadQuery files path
    let store ← loadDocuments files documents
    let engine : Engine := { settings }
    let (found, _) ← engine.search (.ofStore store) {} query
    let result ← found.mapError Failure.search
    return result.toJson.pretty ++ "\n"

/-- How a run ends: its exit code, what it prints, and its error line. -/
structure Outcome where
  exitCode : UInt8
  output : String := ""
  error : Option String := none
  deriving DecidableEq, Repr

/-- The run of the arguments in an environment with files. -/
def outcome (environment files : String → Option String) (args : List String) : Outcome :=
  match invocation? environment args with
  | none => { exitCode := 2 }
  | some invocation =>
    match (run files invocation).result? with
    | some (.ok output) => { exitCode := 0, output }
    | some (.error failure) => { exitCode := 1, error := some failure.line }
    | none => { exitCode := 101 }

def Invocation.paths (invocation : Invocation) : List String :=
  invocation.settings.toList ++
    match invocation.command with
    | .compile query => [query]
    | .search query documents => [query, documents]

end FacetSearch.CommandLine
