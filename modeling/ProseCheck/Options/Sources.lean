import ProseCheck.Directory
import ProseCheck.Json.Reader
import ProseCheck.Options.Basic
import ProseCheck.Text.Blank
import ProseCheck.Text.Lines
import ProseCheck.Text.Utf8
import ProseCheck.Yaml.Value

/-!
# Sources of options

Options come as a JSON text, as a file in JSON or YAML, and as single settings of the form
`name=value`.  Members of a later source replace those of an earlier one whole.
-/

namespace ProseCheck

/-- Why options cannot be used. -/
inductive OptionsError where
  | brokenJson
  | notObject
  | fileNotFound (path : String)
  | fileIsDirectory
  /-- The octets of the file are no text. -/
  | fileNotText
  | brokenYaml (trouble : Yaml.Trouble)
  | fileNotObject
  | settingWithoutValue
  | settingWithoutName
  /-- A text is JSON that cannot be read. -/
  | unreadable (trouble : Json.Trouble)
  | invalid (faults : List Fault)

/-- Number of faults of a kind of value, in words. -/
def Fault.summary (faults : List Fault) (subject : String) : String :=
  let count := faults.length
  let ending := if count = 1 then "" else "s"
  s!"{count} validation error{ending} for {subject}"

/-- Text of an error. -/
def OptionsError.message : OptionsError → String
  | .brokenJson => "Invalid JSON"
  | .notObject => "Options must be a JSON object."
  | .fileNotFound path => s!"Options file not found: {path}"
  | .fileIsDirectory => "Options file is a directory"
  | .fileNotText => "Options file is not UTF-8"
  | .brokenYaml _ => "Invalid YAML"
  | .fileNotObject => "Options file must contain a JSON/YAML object."
  | .settingWithoutValue => "--set requires key=value syntax."
  | .settingWithoutName => "--set requires a non-empty key."
  | .unreadable _ => "JSON that is too large"
  | .invalid faults => Fault.summary faults "CheckOptions"

/-- Where options come from. -/
structure OptionSources where
  /-- A JSON text. -/
  inline : Option Text
  /-- Path of a file. -/
  file : Option String
  /-- Single settings. -/
  settings : List Text

namespace OptionSources

/-- Value of a setting: what it is as JSON, or the text itself. -/
def valueOf (written : Text) : Except OptionsError Json :=
  match Json.read written with
  | .ok value => .ok value
  | .error .malformed => .ok (.text written)
  | .error trouble => .error (.unreadable trouble)

/-- Members of a JSON text. -/
def ofText (text : Text) : Except OptionsError Json.Members :=
  match Json.read text with
  | .ok (.obj members) => .ok members
  | .ok _ => .error .notObject
  | .error .malformed => .error .brokenJson
  | .error trouble => .error (.unreadable trouble)

/-- Members of a YAML text; a document that counts as absent has none. -/
def ofYaml (text : Text) : Except OptionsError Json.Members :=
  match Yaml.read text with
  | .error trouble => .error (.brokenYaml trouble)
  | .ok (.obj members) => .ok members
  | .ok value => if value.isBlank then .ok [] else .error .fileNotObject

/-- Members of a file; the end of its name tells YAML from JSON. -/
def ofFile (path : String) (entry : PathEntry) : Except OptionsError Json.Members :=
  match entry with
  | .nothing => .error (.fileNotFound (Path.normal path))
  | .directory => .error .fileIsDirectory
  | .file octets =>
    match Utf8.decode? octets with
    | none => .error .fileNotText
    | some text =>
      let text := Lines.unifyReturns text
      if [".yaml", ".yml"].contains (Path.lowerSuffix path) then ofYaml text else ofText text

/-- Member of a setting. -/
def ofSetting (setting : Text) : Except OptionsError (String × Json) :=
  match Text.cut? ['='] setting with
  | none => .error .settingWithoutValue
  | some (name, value) =>
    if (Text.strip name).isEmpty then .error .settingWithoutName
    else (valueOf (Text.strip value)).map fun value => (String.ofList (Text.strip name), value)

/-- Members of all sources, where `files` gives what stands at a path. -/
def members (files : String → PathEntry) (sources : OptionSources) :
    Except OptionsError Json.Members := do
  let inline ←
    match sources.inline with
    | some text => if text.isEmpty then pure [] else ofText text
    | none => pure []
  let file ←
    match sources.file with
    | some path => ofFile path (files path)
    | none => pure []
  let settings ← sources.settings.mapM ofSetting
  pure (Json.Members.putAll (Json.Members.putAll inline file) settings)

/-- The sheet of some members. -/
def sheetOf (members : Json.Members) : Except OptionsError OptionSheet :=
  match OptionSheet.read (.obj members) with
  | .valid sheet => .ok sheet
  | .invalid faults => .error (.invalid faults)

/-- The sheet of all sources. -/
def sheet (files : String → PathEntry) (sources : OptionSources) :
    Except OptionsError OptionSheet := do
  sheetOf (← members files sources)

end OptionSources
end ProseCheck
