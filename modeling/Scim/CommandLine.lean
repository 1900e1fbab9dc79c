import Scim.Config.Source
import Scim.Filter.Predicate
import Scim.Json.Reader
import Scim.Json.Writer
import Scim.Message.Patch
import Scim.Primary

/-!
# The command line

The program shows the query that a filter stands for, or the document that patch operations make of
another one.  Arguments are read from left to right, and the first that asks for help or for the
version, or that is misused, settles the run; only then are files read.
-/

namespace Scim

/-! ## What can be asked for -/

/-- What the program is told to do. -/
inductive Command where
  | version
  | filter (expression : String)
  | patch (document operations : String)
deriving DecidableEq, Repr

/-- A command with the file of its configuration, if one is named. -/
structure Invocation where
  command : Command
  config : Option String
deriving DecidableEq, Repr

/-- How a command line can be wrong. -/
inductive Misuse where
  | unexpected (argument : String)
  | missingValue (option : String)
  | repeated (option : String)
  | missing (part : String)
  | unknownCommand (name : String)
deriving DecidableEq, Repr

/-- The text that reports a misuse. -/
def Misuse.message : Misuse → String
  | unexpected argument => "unexpected argument '" ++ argument ++ "'"
  | missingValue option => "a value is required for '--" ++ option ++ "'"
  | repeated option => "the argument '--" ++ option ++ "' cannot be used multiple times"
  | missing part => part ++ " is missing"
  | unknownCommand name => "unrecognized subcommand '" ++ name ++ "'"

/-- What ends the reading of a command line before a command is complete. -/
inductive Halt where
  | help
  | version
  | misuse (misuse : Misuse)
deriving DecidableEq, Repr

namespace CommandLine

/-! ## Arguments -/

/-- The parts of a command line. -/
inductive Part where
  | help
  | version
  | option (name value : String)
  | endOfOptions
  | operand (text : String)
  | misuse (misuse : Misuse)
deriving DecidableEq, Repr

/-- The options that take values. -/
def valueOptions : List String :=
  ["config", "document", "operations"]

/-- Whether an argument cannot be the value of an option that stands before it. -/
def startsOption (argument : String) : Bool :=
  match argument.toList with
  | '-' :: _ :: _ => true
  | _ => false

/-- An option with a value, which is not empty. -/
def optionPart (name value : String) : Part :=
  if value.isEmpty then .misuse (.missingValue name) else .option name value

/-- The part of an argument that begins with two hyphens and holds its value, if any, behind an
equals sign. -/
def longPart (name : String) (value : Option String) : Part :=
  match value with
  | some value => if name ∈ valueOptions then optionPart name value else .misuse (.unexpected name)
  | none =>
    if name = "help" then .help
    else if name = "version" then .version
    else .misuse (.unexpected name)

/-- The part of an argument that begins with one hyphen. -/
def shortPart (letter : Char) : Part :=
  if letter = 'h' then .help
  else if letter = 'V' then .version
  else .misuse (.unexpected (String.singleton letter))

/-- The parts of a list of arguments. -/
def parts : List String → List Part
  | [] => []
  | argument :: rest =>
    match argument.toList with
    | ['-', '-'] => .endOfOptions :: rest.map .operand
    | '-' :: '-' :: cs =>
      let name := String.ofList (cs.takeWhile (· != '='))
      match cs.dropWhile (· != '=') with
      | _ :: value => longPart name (some (String.ofList value)) :: parts rest
      | [] =>
        if name ∈ valueOptions then
          match rest with
          | [] => [.misuse (.missingValue name)]
          | value :: rest =>
            if startsOption value then [.misuse (.missingValue name)]
            else optionPart name value :: parts rest
        else longPart name none :: parts rest
    | '-' :: letter :: _ => shortPart letter :: parts rest
    | _ => .operand argument :: parts rest

/-! ## Commands -/

/-- The options and operands that a command has been given. -/
structure Given where
  options : List (String × String) := []
  operands : List String := []
deriving DecidableEq, Repr

/-- Reads the parts behind a command that takes some options and a number of operands. -/
def collect (options : List String) (operands : Nat) (given : Given) :
    List Part → Except Halt Given
  | [] => .ok given
  | .misuse m :: _ => .error (.misuse m)
  | .help :: _ => .error .help
  | .version :: _ => .error (.misuse (.unexpected "version"))
  | .endOfOptions :: rest => collect options operands given rest
  | .option name value :: rest =>
    if name ∉ options then .error (.misuse (.unexpected name))
    else if (given.options.lookup name).isSome then .error (.misuse (.repeated name))
    else collect options operands { given with options := (name, value) :: given.options } rest
  | .operand text :: rest =>
    if operands ≤ given.operands.length then .error (.misuse (.unexpected text))
    else collect options operands { given with operands := given.operands ++ [text] } rest

/-- The value of an option that has to be given. -/
def Given.need (given : Given) (name : String) : Except Halt String :=
  match given.options.lookup name with
  | some value => .ok value
  | none => .error (.misuse (.missing ("--" ++ name)))

/-- Reads what stands behind the name of a command, and the configuration that is named there. -/
def command (name : String) (rest : List Part) : Except Halt (Command × Option String) := do
  if name = "filter" then
    let given ← collect ["config"] 1 {} rest
    match given.operands with
    | [expression] => pure (.filter expression, given.options.lookup "config")
    | _ => throw (.misuse (.missing "the expression"))
  else if name = "patch" then
    let given ← collect valueOptions 0 {} rest
    pure (.patch (← given.need "document") (← given.need "operations"),
      given.options.lookup "config")
  else if name = "version" then
    let given ← collect ["config"] 0 {} rest
    pure (.version, given.options.lookup "config")
  else throw (.misuse (.unknownCommand name))

/-- The names of the commands. -/
def commandNames : List String :=
  ["filter", "patch", "version", "help"]

/-- Whether help can be asked for what stands behind the command for help: nothing, or the name of
a command. -/
def helpTopic : List Part → Halt
  | [] => .help
  | [.operand name] => if name ∈ commandNames then .help else .misuse (.unknownCommand name)
  | .operand name :: _ => .misuse (.unknownCommand name)
  | _ => .misuse (.unknownCommand "")

/-- Reads the parts of a command line.  Both the command and what stands before it may name a
configuration. -/
def readFrom (config : Option String) :
    List Part → Except Halt (Command × Option String × Option String)
  | [] => .error (.misuse (.missing "the command"))
  | .misuse m :: _ => .error (.misuse m)
  | .help :: _ => .error .help
  | .version :: _ => .error .version
  | .endOfOptions :: _ => .error (.misuse (.missing "the command"))
  | .option name value :: rest =>
    if name ≠ "config" then .error (.misuse (.unexpected name))
    else if config.isSome then .error (.misuse (.repeated name))
    else readFrom (some value) rest
  | .operand name :: rest =>
    if name = "help" then .error (helpTopic rest)
    else (command name rest).map fun (c, inner) => (c, config, inner)

/-- The variable that names a configuration. -/
def configVariable : String := "SCIMITAR_CONFIG"

/-- Reads a command line.  The configuration that the command names goes before the one named in
front of it, and both go before the variable; the variable may be empty only if neither place leaves
the choice to it. -/
def read (env : Environment) (arguments : List String) : Except Halt Invocation := do
  let (command, outer, inner) ← readFrom none (parts arguments)
  let preset := env configVariable
  if preset = some "" ∧ (outer.isNone ∨ inner.isNone) then
    throw (.misuse (.missingValue "config"))
  pure { command, config := (inner.or outer).or preset }

end CommandLine

/-! ## Carrying out -/

/-- What a run prints and the code it ends with. -/
structure Outcome where
  code : Nat
  output : String := ""
  errors : String := ""
deriving DecidableEq, Repr

/-- Why a command fails. -/
inductive CommandError where
  | configuration
  | unreadable (file : String)
  | malformed (file : String)
  | notAnObject (file : String)
  | malformedOperation
  | protocol (error : ProtocolError)
deriving DecidableEq, Repr

/-- The text of the error. -/
def CommandError.message : CommandError → String
  | configuration => "failed to load configuration"
  | unreadable file => "failed to read " ++ file
  | malformed file => "invalid JSON in " ++ file
  | notAnObject file => file ++ " must contain a JSON object"
  | malformedOperation => "invalid patch operation"
  | protocol e => e.message

/-- The line that tells the version. -/
def versionLine : String := "scimitar 0.1.0"

namespace Invocation

/-- The file of the configuration where none is named. -/
def systemConfig : String := "/etc/scimitar/server.toml"

/-- The file that holds the configuration. -/
def configFile (i : Invocation) : String :=
  i.config.getD systemConfig

/-- The files that are read. -/
def files (i : Invocation) : List String :=
  match i.command with
  | .version => []
  | .filter _ => [i.configFile]
  | .patch document operations => [i.configFile, document, operations]

/-- The JSON value in a file. -/
def readJson (files : String → FileContent) (file : String) : Except CommandError Json :=
  match files file with
  | .text content =>
    match Json.ofText? content with
    | some j => .ok j
    | none => .error (.malformed file)
  | _ => .error (.unreadable file)

/-- The operations in a value: an array of operations, or a patch request. -/
def operationsOf (body : Json) : Except CommandError (List PatchOperation) :=
  match body with
  | .arr _ =>
    match Decoder.list PatchOperation.decode body with
    | .ok ops => .ok ops
    | .error _ => .error .malformedOperation
  | _ =>
    match PatchRequest.ofBody body with
    | .ok request => .ok request.operations
    | .error e => .error (.protocol e)

/-- The document after the operations, with its primary role settled.  The document is checked
before the operations are read. -/
def patched (files : String → FileContent) (document operations : String) :
    Except CommandError Json := do
  match ← readJson files document with
  | .obj members =>
    let ops ← operationsOf (← readJson files operations)
    pure (.obj (Primary.normalizeRoles (PatchOperation.applyAll ops members)))
  | _ => throw (.notAnObject document)

/-- The text that an invocation prints.  The version is printed without regard to the
configuration; the other commands need a valid one. -/
def answer (files : String → FileContent) (env : Environment) (i : Invocation) :
    Except CommandError String := do
  if i.command = .version then return versionLine
  match Config.ofFile (files i.configFile) env with
  | .error _ => throw .configuration
  | .ok _ => pure ()
  match i.command with
  | .version => pure versionLine
  | .filter expression => pure (Predicate.ofText (some expression)).query.indented
  | .patch document operations => pure (← patched files document operations).indented

/-- Carries out an invocation. -/
def run (files : String → FileContent) (env : Environment) (i : Invocation) : Outcome :=
  match i.answer files env with
  | .ok text => { code := 0, output := text ++ "\n" }
  | .error e => { code := 1, errors := "Error: " ++ e.message ++ "\n" }

end Invocation

namespace CommandLine

/-- The text that explains the usage. -/
def usage : String :=
  "SCIM filter and PATCH tooling\n\nUsage: scimitar [OPTIONS] <COMMAND>\n\nCommands:\n"
    ++ "  filter <EXPRESSION>                          Print the query of a filter\n"
    ++ "  patch --document <FILE> --operations <FILE>  Patch a document and print it\n"
    ++ "  version                                      Show version information\n"
    ++ "  help [COMMAND]                               Print this message\n\nOptions:\n"
    ++ "  --config <FILE>  Configuration file\n"
    ++ "  -h, --help       Print help\n"
    ++ "  -V, --version    Print version\n"

/-- The outcome of a run that ends while its command line is read. -/
def halted : Halt → Outcome
  | .help => { code := 0, output := usage }
  | .version => { code := 0, output := versionLine ++ "\n" }
  | .misuse m => { code := 2, errors := "error: " ++ m.message ++ "\n\n" ++ usage }

/-- The outcome of a run. -/
def outcome (files : String → FileContent) (env : Environment) (arguments : List String) :
    Outcome :=
  match read env arguments with
  | .ok invocation => invocation.run files env
  | .error halt => halted halt

end CommandLine

end Scim
