import Scim.Config.Basic
import Scim.Config.Toml.Reader

/-!
# Sources of configuration

A layer comes from the defaults, from a file, or from the environment.  Sources are read in the
order of their precedence, and the first that fails is reported.
-/

namespace Scim

/-- What is found under the name of a file. -/
inductive FileContent where
  | absent
  | unreadable
  | text (content : String)
deriving DecidableEq, Repr

/-- The variables of an environment. -/
abbrev Environment := String → Option String

/-- A source of configuration. -/
structure ConfigSource where
  name : String
  precedence : Nat
  layer : Except ConfigError ConfigLayer

namespace ConfigSource

/-- The defaults set nothing. -/
def defaults : ConfigSource :=
  ⟨"defaults", 10, .ok {}⟩

/-! ## Files -/

/-- The layer of a file; a file that does not exist sets nothing. -/
def fileLayer : FileContent → Except ConfigError ConfigLayer
  | .absent => .ok {}
  | .unreadable => .error .unreadableFile
  | .text content =>
    match Toml.ofText? content with
    | none => .error .malformedFile
    | some j =>
      match ConfigLayer.decode j with
      | .ok layer => .ok layer
      | .error _ => .error .malformedFile

def file (content : FileContent) : ConfigSource :=
  ⟨"toml-config", 20, fileLayer content⟩

/-! ## The environment -/

/-- A variable; an empty one counts as not set. -/
def setting? (env : Environment) (name : String) : Option String :=
  (env name).filter (!·.isEmpty)

/-- A variable that holds a natural number of at most `limit`. -/
def naturalVariable (env : Environment) (name type : String) (limit : Nat) :
    Except ConfigError (Option Nat) :=
  match setting? env name with
  | none => .ok none
  | some text =>
    match Numeral.boundedNatural? limit text.toList with
    | some n => .ok (some n)
    | none => .error (.invalidValue name ("invalid " ++ type ++ " value '" ++ text ++ "'"))

/-- A variable that holds a natural number of 64 bits. -/
def u64Variable (env : Environment) (name : String) : Except ConfigError (Option Nat) :=
  naturalVariable env name "u64" maxWord64

/-- A variable that holds a natural number of 32 bits. -/
def u32Variable (env : Environment) (name : String) : Except ConfigError (Option Nat) :=
  naturalVariable env name "u32" maxWord32

/-- A variable that names a log format. -/
def formatVariable (env : Environment) (name : String) : Except ConfigError (Option LogFormat) :=
  match setting? env name with
  | none => .ok none
  | some text =>
    match LogFormat.ofText text with
    | .ok format => .ok (some format)
    | .error reason => .error (.invalidValue name reason)

/-- The layer of an environment. -/
def environmentLayer (env : Environment) : Except ConfigError ConfigLayer := do
  let maxResults ← u64Variable env "SCIMITAR_SERVER_SCIM_MAX_RESULTS"
  let defaultCount ← u64Variable env "SCIMITAR_SERVER_SCIM_DEFAULT_COUNT"
  let bulkMaxOperations ← u32Variable env "SCIMITAR_SERVER_SCIM_BULK_MAX_OPERATIONS"
  let bulkMaxPayloadSize ← u64Variable env "SCIMITAR_SERVER_SCIM_BULK_MAX_PAYLOAD_SIZE"
  let format ← formatVariable env "SCIMITAR_SERVER_LOG_FORMAT"
  pure {
    store := some {
      uri := setting? env "SCIMITAR_SERVER_STORE_URI"
      database := setting? env "SCIMITAR_SERVER_STORE_DATABASE" }
    service := some {
      baseUrl := setting? env "SCIMITAR_SERVER_BASE_URL"
      maxResults, defaultCount, bulkMaxOperations, bulkMaxPayloadSize }
    logging := some { level := setting? env "SCIMITAR_SERVER_LOG_LEVEL", format } }

/-- The variables that the layer of an environment is read from. -/
def variableNames : List String :=
  ["SCIMITAR_SERVER_STORE_URI", "SCIMITAR_SERVER_STORE_DATABASE", "SCIMITAR_SERVER_BASE_URL",
    "SCIMITAR_SERVER_SCIM_MAX_RESULTS", "SCIMITAR_SERVER_SCIM_DEFAULT_COUNT",
    "SCIMITAR_SERVER_SCIM_BULK_MAX_OPERATIONS", "SCIMITAR_SERVER_SCIM_BULK_MAX_PAYLOAD_SIZE",
    "SCIMITAR_SERVER_LOG_LEVEL", "SCIMITAR_SERVER_LOG_FORMAT"]

def environment (env : Environment) : ConfigSource :=
  ⟨"environment", 50, environmentLayer env⟩

end ConfigSource

/-! ## Loading -/

namespace Config

/-- The configuration of some sources, laid over one another by precedence. -/
def load (sources : List ConfigSource) : Except ConfigError Config := do
  let layers ← (sources.mergeSort (·.precedence ≤ ·.precedence)).mapM ConfigSource.layer
  (ConfigLayer.stack layers).resolve

/-- The configuration of the environment alone. -/
def ofEnvironment (env : Environment) : Except ConfigError Config := do
  (ConfigLayer.stack [← ConfigSource.environmentLayer env]).resolve

/-- The configuration of the defaults, a file and the environment. -/
def ofFile (content : FileContent) (env : Environment) : Except ConfigError Config :=
  load [.defaults, .file content, .environment env]

end Config

end Scim
