import ProseCheck.CommandLine.Arguments
import ProseCheck.Options.Sources
import ProseCheck.Settings

/-!
# Flags

Some options have flags of their own on the command line.  A flag that is absent, empty or zero
gives way to the settings, and all flags give way to the other sources of options.
-/

namespace ProseCheck

/-- Options that have flags. -/
structure Flags where
  /-- Language code of prose. -/
  language : Option String
  /-- Characters that a chunk may hold and go on after a paragraph break. -/
  chunkSize : Option Int
  /-- Host of the server. -/
  host : Option String
  /-- Port of the server. -/
  port : Option String
  /-- Requests that may be under way at once. -/
  concurrency : Option Int
deriving DecidableEq, Repr

namespace Flags

/-- No flags. -/
def absent : Flags := ⟨none, none, none, none, none⟩

/-- A text of a flag, or the one of the settings if there is none or an empty one. -/
def textOr (flag : Option String) (setting : String) : String :=
  match flag with
  | some text => if text.isEmpty then setting else text
  | none => setting

/-- A number of a flag, or the one of the settings if there is none or zero. -/
def numberOr (flag : Option Int) (setting : Nat) : Int :=
  match flag with
  | some number => if number = 0 then setting else number
  | none => setting

/-- The sheet of flags over settings. -/
def sheet (settings : Settings) (flags : Flags) : Validated OptionSheet :=
  let positive (name : String) (number : Int) : Validated Nat :=
    (Validated.positive (.int number)).below (.field name)
  (fun chunkSize concurrency =>
      { OptionSheet.blank with
        language := some (textOr flags.language settings.language)
        chunkSize := some chunkSize
        host := some flags.host
        port := some flags.port
        concurrency := some concurrency
        lineSpacing := some settings.lineSpacing })
    <$> positive "chunk_size" (numberOr flags.chunkSize settings.chunkSize)
    <*> positive "concurrency" (numberOr flags.concurrency settings.concurrency)

end Flags
end ProseCheck
