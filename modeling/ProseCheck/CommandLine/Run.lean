import ProseCheck.Cache.Key
import ProseCheck.Check.Run
import ProseCheck.CommandLine.Command
import ProseCheck.Document
import ProseCheck.Json.Writer
import ProseCheck.Report.Listing
import ProseCheck.Settings

/-!
# Runs of the command line

A run reads the arguments, does what the command asks for, and prints paragraphs, each with a
line break after it.  A check that is aborted still lists what it had found.  Files come as a
function from paths to what stands there and the server as one from options, so a run needs
neither disk nor network.
-/

namespace ProseCheck

/-- Why a run has nothing to print. -/
inductive CommandError where
  | arguments (error : ArgumentError)
  /-- Flags that are refused. -/
  | invalid (faults : List Fault)
  | settings (error : SettingsError)
  | options (error : OptionsError)
  | document (error : World.LoadError)
  | listing (error : ListingError)

/-- What a run prints, and the number that it ends with. -/
structure Printout where
  /-- Number that tells success, zero, from failure. -/
  exitCode : Nat
  /-- Paragraphs that are printed. -/
  output : List Text
  /-- Paragraphs that tell of failure. -/
  complaints : List Text

namespace Printout

/-- What is printed on success. -/
def ofOutput (output : List Text) : Printout := ⟨0, output, []⟩

/-- A value that is printed as JSON. -/
def ofJson (value : Json) : Printout := .ofOutput [value.indented]

end Printout

/-- What a run did. -/
structure CommandResult (State : Type) where
  /-- What it prints. -/
  printout : Printout
  /-- Options of its check, and the state in which the check left the server. -/
  visit : Option (Options × State)

/-- What a run depends on. -/
structure Surroundings (State : Type) where
  /-- Variables of the process. -/
  environment : Environment
  /-- What stands at paths. -/
  files : String → PathEntry
  /-- Columns of the console. -/
  columns : Nat
  /-- The server that settings and options ask for. -/
  serverOf : Settings → Options → Server State
  /-- State of the server. -/
  state : State

namespace CommandLine

variable {State : Type}

/-- The value that was read, or the faults as an error. -/
def require {Value : Type} : Validated Value → Except CommandError Value
  | .valid value => .ok value
  | .invalid faults => .error (.invalid faults)

/-- Names under which files of a document are listed: the path for the one file of prose, and
their own names in a dump. -/
def shownNames (path : String) (world : World) : List (String × String) :=
  if Path.lowerSuffix path = ".json" then []
  else world.files.map fun file => (file, Path.normal path)

/-- The world of a file. -/
def load (surroundings : Surroundings State) (path : String) : Except CommandError World :=
  (World.load path (surroundings.files path)).mapError .document

/-- The settings of a run. -/
def settings (surroundings : Surroundings State) : Except CommandError Settings :=
  (Settings.load surroundings.environment surroundings.files).mapError .settings

/-- Sheet of the options of a check: other sources go before flags, and flags before settings. -/
def checkSheet (files : String → PathEntry) (settings : Settings)
    (command : CheckCommand) : Except CommandError OptionSheet := do
  let flags ← require (command.flags.sheet settings)
  let sheet ← (command.sources.sheet files).mapError .options
  pure (sheet.above flags)

/-- Lists what a check reports. -/
def list (columns : Nat) (style : Style) (names : List (String × String)) (world : World)
    (report : Report) : Except CommandError Printout :=
  match style with
  | .json => .ok (.ofJson report.toJson)
  | .plain => ((Listing.plain world names report.diagnostics).map .ofOutput).mapError .listing
  | .pretty =>
    ((Listing.pretty columns world names report.diagnostics).map
      .ofOutput).mapError .listing

/-- Lists what an aborted check had found. -/
def listAbortion (names : List (String × String)) (world : World) (abortion : Abortion) :
    Except CommandError Printout := do
  let found ←
    if abortion.diagnostics.isEmpty then pure []
    else (Listing.plain world names abortion.diagnostics).mapError .listing
  pure ⟨1, found, [s!"Error: {abortion.message}".toList]⟩

/-- Checks a file. -/
def runCheck (surroundings : Surroundings State) (settings : Settings) (command : CheckCommand) :
    Except CommandError (CommandResult State) := do
  let sheet ← checkSheet surroundings.files settings command
  let options := sheet.options
  let world ← load surroundings command.path
  let names := shownNames command.path world
  let (outcome, state) := Check.run Paragraph.key (surroundings.serverOf settings options)
    surroundings.state ⟨world, options, command.allFiles⟩ .empty
  let printout ←
    match outcome with
    | .ok (report, _) => list surroundings.columns command.style names world report
    | .error abortion => listAbortion names world abortion
  pure ⟨printout, some (options, state)⟩

/-- Shows the chunks of a file. -/
def runConvert (surroundings : Surroundings State) (settings : Settings)
    (command : ConvertCommand) : Except CommandError Printout := do
  let sheet ← require (command.flags.sheet settings)
  let world ← load surroundings command.path
  let chunks := world.chunks sheet.options command.allFiles
  pure (if command.asJson then .ofJson (Listing.chunksJson chunks)
    else .ofOutput (Listing.chunks chunks))

/-- A value of a setting on a line. -/
def settingText : Json → Text
  | .str value => value.toList
  | .int value => Numeral.write value
  | .float value => Decimal.write "inf".toList "nan".toList value
  | value => value.indented

/-- Settings, one a line. -/
def settingLines (settings : Settings) : List Text :=
  settings.members.map fun (name, value) =>
    Console.withoutSequences (name.toList ++ '=' :: settingText value)

/-- Settings that are not the standard ones, each with the standard one. -/
def changes (settings : Settings) : Json :=
  .obj ((settings.members.zip Settings.standard.members).filterMap fun (member, standard) =>
    if member.2.canonical = standard.2.canonical then none
    else some (member.1, .obj [("value", member.2), ("default", standard.2)]))

/-- How the program is used. -/
def usage : Text :=
  ("Usage: prosecheck [--version] [--log-level LEVEL] COMMAND\n"
    ++ "Commands: check PATH, convert PATH, config show, config diff, config options").toList

/-- Does what a command asks for. -/
def runCommand (surroundings : Surroundings State) :
    Command → Except CommandError (CommandResult State)
  | .help => .ok ⟨.ofOutput [usage], none⟩
  | .check command => do
    runCheck surroundings (← settings surroundings) command
  | .convert command => do
    let settings ← settings surroundings
    pure ⟨← runConvert surroundings settings command, none⟩
  | .settings asJson => do
    let settings ← settings surroundings
    pure ⟨if asJson then .ofJson settings.toJson else .ofOutput (settingLines settings), none⟩
  | .changes => do
    let settings ← settings surroundings
    pure ⟨.ofJson (changes settings), none⟩
  | .options => .ok ⟨.ofJson Options.standard.toJson, none⟩

/-- Requires settings where no level of messages is given, since it is one of them. -/
def requireLevel (surroundings : Surroundings State) (arguments : Arguments) :
    Except CommandError Unit :=
  if ((arguments.value? "log_level").getD "").isEmpty then
    (settings surroundings).map fun _ => ()
  else .ok ()

/-- What a line does before any command: it may ask for help or for the version. -/
def preamble (surroundings : Surroundings State) (arguments : Arguments) :
    Except CommandError (Option Printout) := do
  if arguments.has "version" then return some (.ofOutput [ProseCheck.version.toList])
  requireLevel surroundings arguments
  return none

/-- Name of the command that operands of the program give. -/
def commandName : String → Except ArgumentError CommandName
  | word =>
    match CommandName.ofName? word with
    | some name => .ok name
    | none => .error (.noSuchCommand word)

/-- Runs the program on its arguments. -/
def run (surroundings : Surroundings State) (words : List String) :
    Except CommandError (CommandResult State) := do
  let arguments ← (Command.program.read words).mapError .arguments
  if arguments.has "help" then return ⟨.ofOutput [usage], none⟩
  match arguments.operands with
  | [] =>
    match ← preamble surroundings arguments with
    | some printout => pure ⟨printout, none⟩
    | none => pure ⟨.ofOutput [usage], none⟩
  | word :: words =>
    let name ← (commandName word).mapError .arguments
    match ← preamble surroundings arguments with
    | some printout => pure ⟨printout, none⟩
    | none =>
      let command ← (Command.read surroundings.files words name).mapError .arguments
      runCommand surroundings command

end CommandLine
end ProseCheck
