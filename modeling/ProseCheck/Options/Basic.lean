import ProseCheck.LanguageCode
import ProseCheck.Node.Basic
import ProseCheck.Rules

/-!
# Options

A sheet of options names some of them and leaves the others open.  Laying one sheet above
another keeps what the upper one names, and what is still open in the end has its default.
-/

namespace ProseCheck

/-- What a check is asked to do. -/
structure Options where
  /-- Language code of prose. -/
  language : String
  /-- Characters that a chunk may hold and go on after a paragraph break. -/
  chunkSize : Nat
  /-- Separators around calls and arguments. -/
  rules : Rules
  /-- Words that are not reported. -/
  dictionary : List String
  /-- Rules of the server that are turned off. -/
  disabledChecks : List String
  /-- Names of calls whose contents are not reported. -/
  ignoreFunctions : List String
  /-- Codes that the user set for languages. -/
  languages : List (String × String)
  /-- Host of the server, if it is not the one of the settings. -/
  host : Option String
  /-- Port of the server, if it is not the one of the settings. -/
  port : Option String
  /-- Requests that may be under way at once. -/
  concurrency : Nat
  /-- Leading between lines of pages, in multiples of the font size. -/
  lineSpacing : Float

namespace Options

/-- What holds where nothing is said. -/
def standard : Options where
  language := LanguageCode.standard
  chunkSize := 1000
  rules := Rules.standard
  dictionary := []
  disabledChecks := []
  ignoreFunctions := ["bibliography", "lorem"]
  languages := []
  host := none
  port := none
  concurrency := 1
  lineSpacing := 0.65

/-- The options as JSON. -/
def toJson (options : Options) : Json :=
  .obj [("language", .str options.language), ("chunk_size", .nat options.chunkSize),
    ("rules", options.rules.toJson), ("dictionary", Json.strings options.dictionary),
    ("disabled_checks", Json.strings options.disabledChecks),
    ("ignore_functions", Json.strings options.ignoreFunctions),
    ("languages", .obj (options.languages.map fun (name, code) => (name, .str code))),
    ("host", Json.option .str options.host), ("port", Json.option .str options.port),
    ("concurrency", .nat options.concurrency), ("line_spacing", .float options.lineSpacing)]

end Options

/-- Options of which each may be open. -/
structure OptionSheet where
  /-- Language code of prose. -/
  language : Option String
  /-- Characters that a chunk may hold and go on after a paragraph break. -/
  chunkSize : Option Nat
  /-- Separators around calls and arguments. -/
  rules : Option Rules
  /-- Words that are not reported. -/
  dictionary : Option (List String)
  /-- Rules of the server that are turned off. -/
  disabledChecks : Option (List String)
  /-- Names of calls whose contents are not reported. -/
  ignoreFunctions : Option (List String)
  /-- Codes that the user set for languages. -/
  languages : Option (List (String × String))
  /-- Host of the server; a sheet may also name it as none. -/
  host : Option (Option String)
  /-- Port of the server; a sheet may also name it as none. -/
  port : Option (Option String)
  /-- Requests that may be under way at once. -/
  concurrency : Option Nat
  /-- Leading between lines of pages, in multiples of the font size. -/
  lineSpacing : Option Float

namespace OptionSheet

/-- The sheet that leaves all options open. -/
def blank : OptionSheet :=
  ⟨none, none, none, none, none, none, none, none, none, none, none⟩

/-- A sheet laid above another: what the upper one names stands. -/
def above (upper lower : OptionSheet) : OptionSheet where
  language := upper.language.or lower.language
  chunkSize := upper.chunkSize.or lower.chunkSize
  rules := upper.rules.or lower.rules
  dictionary := upper.dictionary.or lower.dictionary
  disabledChecks := upper.disabledChecks.or lower.disabledChecks
  ignoreFunctions := upper.ignoreFunctions.or lower.ignoreFunctions
  languages := upper.languages.or lower.languages
  host := upper.host.or lower.host
  port := upper.port.or lower.port
  concurrency := upper.concurrency.or lower.concurrency
  lineSpacing := upper.lineSpacing.or lower.lineSpacing

/-- The options of a sheet, with defaults for what it leaves open. -/
def options (sheet : OptionSheet) : Options where
  language := sheet.language.getD Options.standard.language
  chunkSize := sheet.chunkSize.getD Options.standard.chunkSize
  rules := sheet.rules.getD Options.standard.rules
  dictionary := sheet.dictionary.getD Options.standard.dictionary
  disabledChecks := sheet.disabledChecks.getD Options.standard.disabledChecks
  ignoreFunctions := sheet.ignoreFunctions.getD Options.standard.ignoreFunctions
  languages := sheet.languages.getD Options.standard.languages
  host := sheet.host.getD Options.standard.host
  port := sheet.port.getD Options.standard.port
  concurrency := sheet.concurrency.getD Options.standard.concurrency
  lineSpacing := sheet.lineSpacing.getD Options.standard.lineSpacing

/-- Names of the options that a sheet names, in alphabetical order. -/
def given (sheet : OptionSheet) : List String :=
  ([("chunk_size", sheet.chunkSize.isSome), ("concurrency", sheet.concurrency.isSome),
      ("dictionary", sheet.dictionary.isSome), ("disabled_checks", sheet.disabledChecks.isSome),
      ("host", sheet.host.isSome), ("ignore_functions", sheet.ignoreFunctions.isSome),
      ("language", sheet.language.isSome), ("languages", sheet.languages.isSome),
      ("line_spacing", sheet.lineSpacing.isSome), ("port", sheet.port.isSome),
      ("rules", sheet.rules.isSome)].filter Prod.snd).map Prod.fst

/-- Names of all options. -/
def known : List String :=
  ["language", "chunk_size", "rules", "dictionary", "disabled_checks", "ignore_functions",
    "languages", "host", "port", "concurrency", "line_spacing"]

/-- Reads a port: a text, or an integer or truth value by its text. -/
def readPort : Json → Validated (Option String)
  | .int value => .valid (some (String.ofList (Numeral.write value)))
  | .bool value => .valid (some (if value then "True" else "False"))
  | value => Validated.nullable Validated.string value

/-- Reads an option that may be open. -/
def readOption {Value : Type} (members : Json.Members) (name : String)
    (read : Json → Validated Value) : Validated (Option Value) :=
  Validated.optional members name none fun value => (read value).map some

/-- Reads a sheet; it has no members but the options. -/
def read : Json → Validated OptionSheet :=
  Validated.record fun members =>
    (OptionSheet.mk
      <$> readOption members "language" Validated.string
      <*> readOption members "chunk_size" Validated.positive
      <*> readOption members "rules" Rules.read
      <*> readOption members "dictionary" (Validated.list Validated.string)
      <*> readOption members "disabled_checks" (Validated.list Validated.string)
      <*> readOption members "ignore_functions" (Validated.list Validated.string)
      <*> readOption members "languages" (Validated.table Validated.string)
      <*> readOption members "host" (Validated.nullable Validated.string)
      <*> readOption members "port" readPort
      <*> readOption members "concurrency" Validated.positive
      <*> readOption members "line_spacing" Validated.unsignedNumber).also
      (Validated.extras known members)

theorem above_assoc (first second third : OptionSheet) :
    (first.above second).above third = first.above (second.above third) := by
  simp [above, Option.or_assoc]

@[simp]
theorem above_blank (sheet : OptionSheet) : sheet.above blank = sheet := by
  simp [above, blank]

@[simp]
theorem blank_above (sheet : OptionSheet) : blank.above sheet = sheet := by
  simp [above, blank]

end OptionSheet

/-- A text to check with the name of its file. -/
structure CheckInput where
  /-- The text. -/
  text : Text
  /-- Name of the file in locations. -/
  file : FileId
  /-- Options of the check. -/
  options : OptionSheet

namespace CheckInput

/-- Reads an input; it has no other members. -/
def read : Json → Validated CheckInput :=
  Validated.record fun members =>
    (CheckInput.mk
      <$> Validated.required members "text" Validated.text
      <*> Validated.optional members "file" "main.txt" Validated.string
      <*> Validated.optional members "options" .blank OptionSheet.read).also
      (Validated.extras ["text", "file", "options"] members)

/-- The input as JSON. -/
def toJson (input : CheckInput) : Json :=
  .obj [("text", .text input.text), ("file", .str input.file),
    ("options", input.options.options.toJson)]

end CheckInput
end ProseCheck
