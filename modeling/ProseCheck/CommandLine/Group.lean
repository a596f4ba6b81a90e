import ProseCheck.Text.Blank

/-!
# Words and groups of commands

A line is split into words at blanks and line breaks.  A backslash takes the next character as
it is, and quotes hold blanks together: between single quotes every character stands for
itself, between double quotes a backslash counts before a double quote and before a backslash
only.
-/

namespace ProseCheck
namespace CommandLine

/-- The quotes around a character. -/
inductive Quotes where
  | none
  | single
  | double
deriving DecidableEq, Repr

/-- Whether a character separates words. -/
def isGap (char : Char) : Bool := [' ', '\t', '\r', '\n'].contains char

/-- A word that goes on; it starts here if none did before. -/
def extend (word : Option Text) (chars : Text) : Option Text := some (word.getD [] ++ chars)

/-- Words of a line, where `word` holds what was read of a word that goes on.  A line that ends
within quotes or after a backslash has none. -/
def wordsFrom? (quotes : Quotes) (word : Option Text) : Text → Option (List Text)
  | [] => if quotes = .none then some word.toList else none
  | '\\' :: rest =>
    if quotes = .single then wordsFrom? quotes (extend word ['\\']) rest
    else
      match rest with
      | [] => none
      | char :: rest =>
        if quotes = .none || char = '"' || char = '\\' then
          wordsFrom? quotes (extend word [char]) rest
        else wordsFrom? quotes (extend word ['\\', char]) rest
  | char :: rest =>
    match quotes with
    | .single =>
      if char = '\x27' then wordsFrom? .none word rest
      else wordsFrom? .single (extend word [char]) rest
    | .double =>
      if char = '"' then wordsFrom? .none word rest
      else wordsFrom? .double (extend word [char]) rest
    | .none =>
      if char = '\x27' then wordsFrom? .single (extend word []) rest
      else if char = '"' then wordsFrom? .double (extend word []) rest
      else if isGap char then (wordsFrom? .none none rest).map (word.toList ++ ·)
      else wordsFrom? .none (extend word [char]) rest

/-- Words of a line, if its quotes are closed. -/
def words? (line : Text) : Option (List Text) := wordsFrom? .none none line

/-- Words of a line; a line with an open quote is split at every blank. -/
def words (line : Text) : List Text := (words? line).getD (Text.words line)

end CommandLine
end ProseCheck

/-!
## Command groups

Some commands come in groups, and a group is made ready only if it is invoked.  It is looked for
in the words of the command line, or of the line that a shell completes, before the words are
read as options: words that start with a dash are passed over, and the first other word decides.
-/

namespace ProseCheck

/-- A group of commands. -/
inductive CommandGroup where
  /-- Commands that show how the program is set up. -/
  | config
deriving DecidableEq, Repr

namespace CommandGroup

/-- Name of a group. -/
def name : CommandGroup → String
  | .config => "config"

/-- Group of a name. -/
def ofName? (word : String) : Option CommandGroup := if word = "config" then some .config else none

/-- Group that words name. -/
def named? : List String → Option CommandGroup
  | [] => none
  | word :: rest =>
    match ofName? word with
    | some group => some group
    | none => if word.toList.head? = some '-' then named? rest else none

/-- Words that decide on a group: those of a line to complete after the name of the program, or
the arguments if there is no such line. -/
def wordsToSearch (completion : Text) (arguments : List String) : List String :=
  if completion.isEmpty then arguments
  else ((CommandLine.words completion).drop 1).map String.ofList

/-- Group that is invoked. -/
def invoked? (completion : Text) (arguments : List String) : Option CommandGroup :=
  named? (wordsToSearch completion arguments)

end CommandGroup
end ProseCheck
