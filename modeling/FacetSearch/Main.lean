import FacetSearch.CommandLine
/-!
The program: it reads the environment and the files that its arguments name, and prints what the run
of the arguments prints.
-/

namespace FacetSearch.CommandLine

/-- The content of a file, if it can be read as text. -/
def readText? (path : String) : IO (Option String) := do
  try
    return some (← IO.FS.readFile path)
  catch _ =>
    return none

/-- A table of names and what belongs to them. -/
def lookIn (entries : List (String × Option String)) (name : String) : Option String :=
  (entries.find? fun entry => entry.1 = name).bind Prod.snd

def usage : String :=
  "usage: facet-search [--settings FILE] (compile | search) --query FILE [--documents FILE]"

end FacetSearch.CommandLine

open FacetSearch CommandLine in
def main (args : List String) : IO UInt32 := do
  let values ←
    [settingsVariable, documentsVariable].mapM fun name =>
      return (name, ← IO.getEnv name)
  let environment := lookIn values
  let paths := ((invocation? environment args).map (·.paths)).getD []
  let files ← paths.mapM fun path => return (path, ← readText? path)
  let run := outcome environment (lookIn files) args
  IO.print run.output
  match run.error with
  | some line => IO.eprintln ("Error: " ++ line)
  | none => pure ()
  if run.exitCode = 2 then
    IO.eprintln usage
  return run.exitCode.toUInt32
