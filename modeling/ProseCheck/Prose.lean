import ProseCheck.Node.Basic
import ProseCheck.Text.Blank
import ProseCheck.Text.Pattern

/-!
# Plain prose

Plain prose is read from left to right as a document of words and blanks.  Blank lines are a
paragraph break, other blanks a space, and what is not blank is a text.
-/

namespace ProseCheck
namespace Prose

/-- Blank, and no line feed. -/
def isGap (char : Char) : Bool := Text.isBlank char && char != '\n'

/-- Blanks within a line. -/
def gap : Pattern := .many (.one isGap)

/-- Blanks up to the end of a line. -/
def line : Pattern := gap.andThen (.one (· == '\n'))

/-- Two or more ends of lines with blanks around them. -/
def blankLines : Pattern := line.andThen (line.several.andThen gap)

/-- Blanks of any sort. -/
def blanks : Pattern := .several (.one Text.isBlank)

/-- A word. -/
def word : Pattern := .several (.one fun char => !Text.isBlank char)

/-- Kinds of leaves with their patterns, in the order in which they are tried. -/
def tokens : List (Kind × Pattern) := [(.parbreak, blankLines), (.space, blanks), (.text, word)]

/-- The leaf at the beginning of a text. -/
def leaf? (text : Text) : Option Node :=
  tokens.findSome? fun (kind, pattern) => (pattern.take? text).map (.leaf kind)

/-- Leaves that are read one behind the other, where the first characters are passed over; a
character at which no leaf begins is left out. -/
def scan (read? : Text → Option Node) (passed : Nat) : Text → List Node
  | [] => []
  | char :: rest =>
    if 0 < passed then scan read? (passed - 1) rest
    else
      match read? (char :: rest) with
      | some leaf => leaf :: scan read? (leaf.text.length - 1) rest
      | none => scan read? 0 rest

/-- The document of plain prose. -/
def parse (text : Text) : Node := .inner .markup (scan leaf? 0 text)

end Prose
end ProseCheck
