import Scim.Json.Decode
import Scim.Text.Blank

/-!
# Configuration

A configuration is put together from layers, each of which has some of the sections and sets some
of the fields in them.  A later layer overrides what an earlier one sets; what no layer sets has a
default.  The result is checked as a whole.
-/

namespace Scim

/-- The form of log lines. -/
inductive LogFormat where
  | pretty
  | json
deriving DecidableEq, Repr

namespace LogFormat

def name : LogFormat → String
  | pretty => "pretty"
  | json => "json"

/-- The format that a text names, in any case; `text` is another name of `pretty`.  A text that
names none is answered in small letters. -/
def ofText (text : String) : Except String LogFormat :=
  let small := Text.lowerAscii text
  if small = "pretty" ∨ small = "text" then .ok pretty
  else if small = "json" then .ok json
  else .error ("unknown log format '" ++ small ++ "'")

/-- Files name the format in small letters. -/
def decode : Decoder LogFormat :=
  .variant [(pretty.name, pretty), (json.name, json)]

end LogFormat

/-- Why no configuration could be put together. -/
inductive ConfigError where
  | invalidValue (key reason : String)
  | malformedFile
  | unreadableFile
  | defaultCountTooLarge (defaultCount maxResults : Nat)
  | noBulkOperations
deriving DecidableEq, Repr

/-- The text of the error. -/
def ConfigError.message : ConfigError → String
  | invalidValue key reason => "Invalid value for " ++ key ++ ": " ++ reason
  | malformedFile => "Failed to parse TOML config"
  | unreadableFile => "Failed to read config file"
  | defaultCountTooLarge defaultCount maxResults =>
    "Validation error: scim.default_count (" ++ Nat.repr defaultCount
      ++ ") exceeds scim.max_results (" ++ Nat.repr maxResults ++ ")"
  | noBulkOperations => "Validation error: scim.bulk_max_operations must be at least 1"

/-! ## Sections and their layers -/

/-- Where resources are stored. -/
structure StoreConfig where
  uri : String := "memory://"
  database : String := "scim"
deriving DecidableEq, Repr

/-- How the service answers. -/
structure ServiceConfig where
  baseUrl : String := "http://localhost:3999"
  maxResults : Nat := 1000
  defaultCount : Nat := 100
  bulkMaxOperations : Nat := 1000
  bulkMaxPayloadSize : Nat := 1048576
deriving DecidableEq, Repr

/-- How events are logged. -/
structure LoggingConfig where
  level : String := "info"
  format : LogFormat := .pretty
deriving DecidableEq, Repr

/-- A whole configuration. -/
structure Config where
  store : StoreConfig := {}
  service : ServiceConfig := {}
  logging : LoggingConfig := {}
deriving DecidableEq, Repr

/-- What a layer sets about the store. -/
structure StoreLayer where
  uri : Option String := none
  database : Option String := none
deriving DecidableEq, Repr

/-- What a layer sets about the service. -/
structure ServiceLayer where
  baseUrl : Option String := none
  maxResults : Option Nat := none
  defaultCount : Option Nat := none
  bulkMaxOperations : Option Nat := none
  bulkMaxPayloadSize : Option Nat := none
deriving DecidableEq, Repr

/-- What a layer sets about logging. -/
structure LoggingLayer where
  level : Option String := none
  format : Option LogFormat := none
deriving DecidableEq, Repr

/-- A layer of a configuration, with the sections that it has. -/
structure ConfigLayer where
  store : Option StoreLayer := none
  service : Option ServiceLayer := none
  logging : Option LoggingLayer := none
deriving DecidableEq, Repr

/-! ## Overriding -/

/-- The fields of `upper` where it sets them, else those of `lower`. -/
def StoreLayer.override (lower upper : StoreLayer) : StoreLayer where
  uri := upper.uri.or lower.uri
  database := upper.database.or lower.database

/-- The fields of `upper` where it sets them, else those of `lower`. -/
def ServiceLayer.override (lower upper : ServiceLayer) : ServiceLayer where
  baseUrl := upper.baseUrl.or lower.baseUrl
  maxResults := upper.maxResults.or lower.maxResults
  defaultCount := upper.defaultCount.or lower.defaultCount
  bulkMaxOperations := upper.bulkMaxOperations.or lower.bulkMaxOperations
  bulkMaxPayloadSize := upper.bulkMaxPayloadSize.or lower.bulkMaxPayloadSize

/-- The fields of `upper` where it sets them, else those of `lower`. -/
def LoggingLayer.override (lower upper : LoggingLayer) : LoggingLayer where
  level := upper.level.or lower.level
  format := upper.format.or lower.format

/-- The sections of `lower` overridden by those of `upper`.  A section that only one of them has is
taken as it is. -/
def ConfigLayer.override (lower upper : ConfigLayer) : ConfigLayer where
  store := lower.store.merge StoreLayer.override upper.store
  service := lower.service.merge ServiceLayer.override upper.service
  logging := lower.logging.merge LoggingLayer.override upper.logging

/-- Layers laid over one another in order. -/
def ConfigLayer.stack (layers : List ConfigLayer) : ConfigLayer :=
  layers.foldl ConfigLayer.override {}

/-! ## Resolving -/

/-- The text without the slashes at its end. -/
def trimSlashes (s : String) : String :=
  String.ofList (s.toList.reverse.dropWhile (· == '/')).reverse

/-- The store section with defaults for what is not set. -/
def StoreLayer.resolve (l : StoreLayer) : StoreConfig :=
  let d : StoreConfig := {}
  { uri := l.uri.getD d.uri, database := l.database.getD d.database }

/-- The service section with defaults for what is not set.  Locations are built by appending to the
base URL, so it loses the slashes at its end. -/
def ServiceLayer.resolve (l : ServiceLayer) : ServiceConfig :=
  let d : ServiceConfig := {}
  { baseUrl := trimSlashes (l.baseUrl.getD d.baseUrl)
    maxResults := l.maxResults.getD d.maxResults
    defaultCount := l.defaultCount.getD d.defaultCount
    bulkMaxOperations := l.bulkMaxOperations.getD d.bulkMaxOperations
    bulkMaxPayloadSize := l.bulkMaxPayloadSize.getD d.bulkMaxPayloadSize }

/-- The logging section with defaults for what is not set. -/
def LoggingLayer.resolve (l : LoggingLayer) : LoggingConfig :=
  let d : LoggingConfig := {}
  { level := l.level.getD d.level, format := l.format.getD d.format }

/-- Checks the service section as a whole. -/
def ServiceConfig.validate (c : ServiceConfig) : Except ConfigError Unit :=
  if c.maxResults < c.defaultCount then .error (.defaultCountTooLarge c.defaultCount c.maxResults)
  else if c.bulkMaxOperations = 0 then .error .noBulkOperations
  else .ok ()

/-- The configuration of a layer, if it is valid.  A section that is absent sets nothing. -/
def ConfigLayer.resolve (l : ConfigLayer) : Except ConfigError Config := do
  let config : Config :=
    { store := (l.store.getD {}).resolve
      service := (l.service.getD {}).resolve
      logging := (l.logging.getD {}).resolve }
  config.service.validate
  pure config

/-! ## Reading layers -/

namespace StoreLayer

def shape : Shape where
  name := "StoreConfigLayer"
  fields := [.optionalDefaulted "uri" .string, .optionalDefaulted "database" .string]

def decode : Decoder StoreLayer := fun j => do
  let row ← shape.row j
  pure {
    uri := ← Members.want "uri" .string row
    database := ← Members.want "database" .string row }

end StoreLayer

namespace ServiceLayer

def shape : Shape where
  name := "ScimConfigLayer"
  fields := [.optionalDefaulted "base_url" .string, .optionalDefaulted "max_results" .u64,
    .optionalDefaulted "default_count" .u64, .optionalDefaulted "bulk_max_operations" .u32,
    .optionalDefaulted "bulk_max_payload_size" .u64]

def decode : Decoder ServiceLayer := fun j => do
  let row ← shape.row j
  pure {
    baseUrl := ← Members.want "base_url" .string row
    maxResults := ← Members.want "max_results" .u64 row
    defaultCount := ← Members.want "default_count" .u64 row
    bulkMaxOperations := ← Members.want "bulk_max_operations" .u32 row
    bulkMaxPayloadSize := ← Members.want "bulk_max_payload_size" .u64 row }

end ServiceLayer

namespace LoggingLayer

def shape : Shape where
  name := "LoggingConfigLayer"
  fields := [.optional "level" .string, .optional "format" LogFormat.decode]

def decode : Decoder LoggingLayer := fun j => do
  let row ← shape.row j
  pure {
    level := ← Members.want "level" .string row
    format := ← Members.want "format" LogFormat.decode row }

end LoggingLayer

namespace ConfigLayer

def shape : Shape where
  name := "ServerConfigLayer"
  fields := [.optionalDefaulted "store" StoreLayer.decode,
    .optionalDefaulted "scim" ServiceLayer.decode,
    .optionalDefaulted "logging" LoggingLayer.decode]

def decode : Decoder ConfigLayer := fun j => do
  let row ← shape.row j
  pure {
    store := ← Members.want "store" StoreLayer.decode row
    service := ← Members.want "scim" ServiceLayer.decode row
    logging := ← Members.want "logging" LoggingLayer.decode row }

end ConfigLayer

end Scim
