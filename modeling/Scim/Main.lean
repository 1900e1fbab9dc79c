import Scim.CommandLine

/-!
# The program

Everything but the reading of files and of the environment is decided by `Scim.CommandLine`.
-/

namespace Scim.CommandLine

/-- What is found under the name of a file. -/
def readContent (file : String) : IO FileContent := do
  try
    pure (.text (← IO.FS.readFile file))
  catch e =>
    match e with
    | .noFileOrDirectory .. => pure .absent
    | _ => pure .unreadable

/-- The values of some variables. -/
def readVariables (names : List String) : IO Environment := do
  let values ← names.mapM fun name => do pure (name, ← IO.getEnv name)
  pure fun name => (values.lookup name).join

end Scim.CommandLine

open Scim CommandLine in
/-- Runs the program. -/
def main (arguments : List String) : IO UInt32 := do
  let env ← readVariables (configVariable :: ConfigSource.variableNames)
  let names :=
    match read env arguments with
    | .ok invocation => invocation.files
    | .error _ => []
  let contents ← names.mapM fun name => do pure (name, ← readContent name)
  let files := fun name => (contents.lookup name).getD .absent
  let result := outcome files env arguments
  (← IO.getStdout).putStr result.output
  (← IO.getStderr).putStr result.errors
  pure (.ofNat result.code)
