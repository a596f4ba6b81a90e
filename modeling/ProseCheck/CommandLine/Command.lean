import ProseCheck.CommandLine.Flags

/-!
# Commands

A command line holds options of the program, the name of a command, and the arguments of that
command.  Each command knows options of its own.
-/

namespace ProseCheck

/-- How diagnostics are printed. -/
inductive Style where
  /-- For people. -/
  | pretty
  /-- One a line, for programs. -/
  | plain
  | json
deriving DecidableEq, Repr

/-- A request to check a file. -/
structure CheckCommand where
  /-- Path of the file. -/
  path : String
  /-- Options that have flags. -/
  flags : Flags
  /-- Other sources of options. -/
  sources : OptionSources
  /-- Whether all files of a document are reported, and not only the main one. -/
  allFiles : Bool
  /-- How diagnostics are printed. -/
  style : Style

/-- A request to show the chunks of a file. -/
structure ConvertCommand where
  /-- Path of the file. -/
  path : String
  /-- Options that have flags. -/
  flags : Flags
  /-- Whether all files of a document are shown, and not only the main one. -/
  allFiles : Bool
  /-- Whether the chunks are printed as JSON. -/
  asJson : Bool

/-- What the program is to do. -/
inductive Command where
  | help
  | check (command : CheckCommand)
  | convert (command : ConvertCommand)
  /-- Show the settings, as JSON or one a line. -/
  | settings (asJson : Bool)
  /-- Show settings that are not the standard ones. -/
  | changes
  /-- Show the standard options. -/
  | options

/-- Commands and groups of commands by their names. -/
inductive CommandName where
  | check
  | convert
  | config
deriving DecidableEq, Repr

namespace CommandName

/-- Command or group of a name. -/
def ofName? : String → Option CommandName
  | "check" => some .check
  | "convert" => some .convert
  | "config" => some .config
  | _ => none

end CommandName

namespace Command

/-- The option that asks for help. -/
def helpForm : OptionForm := ⟨["--help", "-h"], "help", false⟩

/-- Options of the program; they stand before the name of a command. -/
def program : Grammar where
  options := [helpForm, ⟨["--version", "-v"], "version", false⟩,
    ⟨["--log-level"], "log_level", true⟩]
  mixed := false

/-- Options of commands that read a file. -/
def fileForms : List OptionForm :=
  [helpForm, ⟨["--language", "-l"], "language", true⟩, ⟨["--chunk-size"], "chunk_size", true⟩,
    ⟨["--all-files"], "all_files", false⟩, ⟨["--json"], "json", false⟩]

/-- What the command that checks a file reads. -/
def checking : Grammar where
  options := fileForms ++ [⟨["--host"], "host", true⟩, ⟨["--port"], "port", true⟩,
    ⟨["--concurrency"], "concurrency", true⟩, ⟨["--options"], "options", true⟩,
    ⟨["--options-file"], "options_file", true⟩, ⟨["--set"], "set", true⟩,
    ⟨["--plain"], "plain", false⟩]
  mixed := true

/-- What the command that shows chunks reads. -/
def converting : Grammar where
  options := fileForms
  mixed := true

/-- What the group that shows the set-up reads. -/
def inspecting : Grammar where
  options := [helpForm]
  mixed := false

/-- What the command that shows settings reads. -/
def showing : Grammar where
  options := [helpForm, ⟨["--json"], "json", false⟩, ⟨["--no-json"], "no_json", false⟩]
  mixed := true

/-- What commands without options read. -/
def plain : Grammar where
  options := [helpForm]
  mixed := true

/-- Flags among arguments, with the integers among them. -/
def flags (arguments : Arguments) (integers : List (String × Int)) : Flags where
  language := arguments.value? "language"
  chunkSize := integers.lookup "chunk_size"
  host := arguments.value? "host"
  port := arguments.value? "port"
  concurrency := integers.lookup "concurrency"

/-- How diagnostics are printed; JSON goes first. -/
def style (arguments : Arguments) : Style :=
  if arguments.has "json" then .json else if arguments.has "plain" then .plain else .pretty

/-- Requires that there are no operands. -/
def noOperands (operands : List String) : Except ArgumentError Unit :=
  if operands.isEmpty then .ok () else .error (.unexpected operands)

/-- Path of the one file that operands name; it has to be one. -/
def readPath (files : String → PathEntry) : List String → Except ArgumentError String
  | [] => .error .pathMissing
  | path :: others => do
    match files path with
    | .nothing => throw (.noSuchFile path)
    | .directory => throw (.isDirectory path)
    | .file _ => noOperands others
    pure path

/-- Reads the arguments of the command that checks a file. -/
def readCheck (files : String → PathEntry) (words : List String) :
    Except ArgumentError Command := do
  let arguments ← checking.read words
  if arguments.has "help" then return .help
  let integers ← arguments.integers ["chunk_size", "concurrency"]
  let path ← readPath files arguments.operands
  pure (.check
    { path
      flags := flags arguments integers
      sources := ⟨(arguments.value? "options").map String.toList, arguments.value? "options_file",
        (arguments.values "set").map String.toList⟩
      allFiles := arguments.has "all_files"
      style := style arguments })

/-- Reads the arguments of the command that shows chunks. -/
def readConvert (files : String → PathEntry) (words : List String) :
    Except ArgumentError Command := do
  let arguments ← converting.read words
  if arguments.has "help" then return .help
  let integers ← arguments.integers ["chunk_size"]
  let path ← readPath files arguments.operands
  pure (.convert
    { path
      flags := flags arguments integers
      allFiles := arguments.has "all_files"
      asJson := arguments.has "json" })

/-- Reads the arguments of a command of the group that shows the set-up. -/
def readInspection (name : String) (words : List String) : Except ArgumentError Command := do
  match name with
  | "show" =>
    let arguments ← showing.read words
    if arguments.has "help" then return .help
    noOperands arguments.operands
    let last := (arguments.given.reverse.map Prod.fst).find? ["json", "no_json"].contains
    pure (.settings (last != some "no_json"))
  | "diff" =>
    let arguments ← plain.read words
    if arguments.has "help" then return .help
    noOperands arguments.operands
    pure .changes
  | "options" =>
    let arguments ← plain.read words
    if arguments.has "help" then return .help
    noOperands arguments.operands
    pure .options
  | name => throw (.noSuchCommand name)

/-- Reads the arguments of the group that shows the set-up. -/
def readConfig (words : List String) : Except ArgumentError Command := do
  if words.isEmpty then throw .nothingAsked
  let arguments ← inspecting.read words
  if arguments.has "help" then return .help
  match arguments.operands with
  | [] => throw .commandMissing
  | name :: words => readInspection name words

/-- Reads the arguments of a command. -/
def read (files : String → PathEntry) (words : List String) :
    CommandName → Except ArgumentError Command
  | .check => readCheck files words
  | .convert => readConvert files words
  | .config => readConfig words

end Command
end ProseCheck
