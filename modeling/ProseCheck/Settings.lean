import ProseCheck.Directory
import ProseCheck.Environment.Binding
import ProseCheck.LanguageCode
import ProseCheck.Text.Utf8
import ProseCheck.Validation.Scalar

/-!
# Settings

Settings hold for all checks of a user.  Each has a default and a variable of the environment
that sets it; faults are reported at the name of the variable.  The variables of the process go
before the bindings of the file `.env`.
-/

namespace ProseCheck

/-- Version of this library, which the command line and the service state. -/
def version : String := "0.1.0"

/-- What a user set. -/
structure Settings where
  /-- Host of the server. -/
  host : String
  /-- Port of the server; none if empty. -/
  port : String
  /-- Language code of prose. -/
  language : String
  /-- Seconds to wait for an answer. -/
  timeout : Float
  /-- Characters that a chunk may hold and go on after a paragraph break. -/
  chunkSize : Nat
  /-- Requests that may be under way at once. -/
  concurrency : Nat
  /-- Seconds between an edit and its check. -/
  debounce : Float
  /-- Leading between lines of pages, in multiples of the font size. -/
  lineSpacing : Float
  /-- Least level of messages that are logged. -/
  logLevel : String

/-- Why settings cannot be read. -/
inductive SettingsError where
  /-- The file of bindings is not UTF-8. -/
  | notText
  /-- Values that are refused. -/
  | invalid (faults : List Fault)

namespace Settings

/-- What holds where nothing is set. -/
def standard : Settings where
  host := "http://127.0.0.1"
  port := "8081"
  language := LanguageCode.standard
  timeout := 30
  chunkSize := 1000
  concurrency := 1
  debounce := 0.3
  lineSpacing := 0.65
  logLevel := "WARNING"

/-- Variables that settings are read from. -/
def variableNames : List String :=
  ["LT_HOST", "LT_PORT", "LT_LANGUAGE", "LT_TIMEOUT", "CHUNK_SIZE", "CHECK_CONCURRENCY",
    "DEBOUNCE_SECONDS", "LAYOUT_LINE_SPACING", "LOG_LEVEL"]

/-- Reads the setting of a variable. -/
def readVariable {Value : Type} (environment : Environment) (name : String) (default : Value)
    (read : Json → Validated Value) : Validated Value :=
  match environment.get? name with
  | some written => (read (.str written)).below (.field name)
  | none => .valid default

/-- Reads the settings of an environment. -/
def read (environment : Environment) : Validated Settings :=
  Settings.mk
    <$> readVariable environment "LT_HOST" standard.host Validated.string
    <*> readVariable environment "LT_PORT" standard.port Validated.string
    <*> readVariable environment "LT_LANGUAGE" standard.language Validated.string
    <*> readVariable environment "LT_TIMEOUT" standard.timeout Validated.number
    <*> readVariable environment "CHUNK_SIZE" standard.chunkSize Validated.positive
    <*> readVariable environment "CHECK_CONCURRENCY" standard.concurrency Validated.positive
    <*> readVariable environment "DEBOUNCE_SECONDS" standard.debounce Validated.unsignedNumber
    <*> readVariable environment "LAYOUT_LINE_SPACING" standard.lineSpacing
      Validated.unsignedNumber
    <*> readVariable environment "LOG_LEVEL" standard.logLevel Validated.string

/-- Path of the file of bindings. -/
def bindingsPath : String := ".env"

/-- Reads the settings of a process among files. -/
def load (process : Environment) (files : String → PathEntry) : Except SettingsError Settings := do
  let environment ←
    match files bindingsPath with
    | .nothing | .directory => pure process
    | .file octets =>
      match Utf8.decode? octets with
      | some text => pure (process.above (.ofText process text))
      | none => throw .notText
  match read environment with
  | .valid settings => pure settings
  | .invalid faults => throw (.invalid faults)

/-- Names and values of the settings, in order. -/
def members (settings : Settings) : Json.Members :=
  [("lt_host", .str settings.host), ("lt_port", .str settings.port),
    ("lt_language", .str settings.language), ("lt_timeout", .float settings.timeout),
    ("chunk_size", .nat settings.chunkSize), ("check_concurrency", .nat settings.concurrency),
    ("debounce_seconds", .float settings.debounce),
    ("layout_line_spacing", .float settings.lineSpacing), ("log_level", .str settings.logLevel)]

/-- The settings as JSON. -/
def toJson (settings : Settings) : Json := .obj settings.members

end Settings
end ProseCheck
