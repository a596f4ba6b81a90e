import ProseCheck.CommandLine.Run
import ProseCheck.Server.Client

/-!
# The program

Reads the environment and the files that the arguments may name, runs the command line on them,
and prints what it says.  The program has no connection to a network, so a check reaches no
server and is aborted at the first chunk that needs an answer.
-/

namespace ProseCheck
namespace Program

/-- Paths that arguments may name: an argument, or what follows an equals sign in it. -/
def paths (words : List String) : List String :=
  words ++ words.filterMap fun word =>
    (Text.cut? ['='] word.toList).map fun (_, value) => String.ofList value

/-- The server that a client without a network reaches. -/
def unreached (settings : Settings) (options : Options) : Server Unit :=
  .ofFunction fun request => (Client.ofOptions settings options).send request .refused

/-- What is printed of an error, and the number that the program ends with. -/
def failure : CommandError → String × UInt32
  | .arguments error => (error.message, 2)
  | .invalid faults => (Fault.summary faults "Flags", 1)
  | .settings (.invalid faults) => (Fault.summary faults "Settings", 1)
  | .settings .notText => ("The settings are not UTF-8", 1)
  | .options error => (error.message, 2)
  | .document (.document error) => (error.message, 2)
  | .document .unusablePath => ("The path is no path", 1)
  | .document .notText => ("The file is not UTF-8", 1)
  | .document .halvedText => ("A source holds half a character", 1)
  | .document (.unreadable _) => ("The file is too large", 1)
  | .listing (.document error) => (error.message, 1)
  | .listing .noSuchLine => ("A diagnostic ends before its file", 1)

/-- What stands at a path, with the path. -/
def readEntry (path : String) : IO (String × PathEntry) := do
  let entry ← try
      let octets ← IO.FS.readBinFile path
      pure (PathEntry.file (octets.toList.map UInt8.toNat))
    catch _ => pure PathEntry.nothing
  return (Path.normal path, entry)

/-- The variables of the process that settings are read from. -/
def readEnvironment : IO Environment := do
  let entries ← Settings.variableNames.filterMapM fun name => do
    return (← IO.getEnv name).map fun value => (name, value)
  return .ofList entries

/-- Prints paragraphs, each with a line break after it. -/
def printAll (stream : IO.FS.Stream) (paragraphs : List Text) : IO Unit :=
  paragraphs.forM fun paragraph => stream.putStrLn (String.ofList paragraph)

/-- Runs the program on its arguments. -/
def run (words : List String) : IO UInt32 := do
  let found ← (Settings.bindingsPath :: paths words).mapM readEntry
  let files (path : String) : PathEntry := (found.lookup (Path.normal path)).getD .nothing
  let environment ← readEnvironment
  match CommandLine.run ⟨environment, files, Console.standardColumns, unreached, ()⟩ words with
  | .ok result =>
    printAll (← IO.getStdout) result.printout.output
    printAll (← IO.getStderr) result.printout.complaints
    return result.printout.exitCode.toUInt32
  | .error error =>
    let (message, code) := failure error
    (← IO.getStderr).putStrLn s!"Error: {message}"
    return code

end Program
end ProseCheck

/-- Runs the program on its arguments. -/
def main (words : List String) : IO UInt32 := ProseCheck.Program.run words
