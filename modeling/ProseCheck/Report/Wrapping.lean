import ProseCheck.Text.Blank
import ProseCheck.Text.Columns

/-!
# Wrapping lines

A line that is wider than the console goes on below.  It is broken before a word that does not
fit behind the words so far; a word that fits on no line starts a line of its own and is broken
where the console ends.  Blanks after a word stay with it, and those beyond the end are dropped.
-/

namespace ProseCheck
namespace Wrapping

/-- A text that starts with a word, split before every other word. -/
def splitWords : Text → List Text
  | [] => []
  | char :: rest =>
    match splitWords rest with
    | (next :: word) :: others =>
      if Text.isBlank char && !Text.isBlank next then [char] :: (next :: word) :: others
      else (char :: next :: word) :: others
    | others => [char] :: others

/-- Words of a line with the blanks after them; blanks before the first word are its own. -/
def words (line : Text) : List Text :=
  match splitWords (line.dropWhile Text.isBlank) with
  | [] => [line]
  | word :: others => (line.takeWhile Text.isBlank ++ word) :: others

/-- Puts a character before the first of some texts. -/
def putFirst (char : Char) : List Text → List Text
  | [] => [[char]]
  | text :: texts => (char :: text) :: texts

/-- A word broken wherever the next character would exceed the columns, from a column on. -/
def chopFrom (columns column : Nat) : Text → List Text
  | [] => [[]]
  | char :: rest =>
    let next := column + Columns.width char
    if columns < next then [] :: putFirst char (chopFrom columns (Columns.width char) rest)
    else putFirst char (chopFrom columns next rest)

/-- Words on lines, where a line of `used` columns is under way, last word first. -/
def fill (columns used : Nat) (line : List Text) : List Text → List Text
  | [] => [line.reverse.flatten]
  | word :: others =>
    let bare := Columns.count (Text.trimRight word)
    if used + bare ≤ columns then fill columns (used + Columns.count word) (word :: line) others
    else
      let parts := if columns < bare then chopFrom columns 0 word else [word]
      let last := parts.getLast?.getD []
      (if line.isEmpty then [] else [line.reverse.flatten]) ++ parts.dropLast
        ++ fill columns (Columns.count last) [last] others

/-- A line without the blanks at its end that stand beyond the columns, one for a character. -/
def dropExcess (columns : Nat) (line : Text) : Text :=
  let blanks := line.length - (Text.trimRight line).length
  line.take (line.length - min blanks (line.length - columns))

/-- What fits of a line; a blank stands for the half of a character that fits no more. -/
def crop : Nat → Text → Text
  | _, [] => []
  | columns, char :: rest =>
    if Columns.width char ≤ columns then char :: crop (columns - Columns.width char) rest
    else List.replicate columns ' '

/-- A line as it is shown on a console. -/
def wrapLine (columns : Nat) (line : Text) : List Text :=
  (fill columns 0 [] (words line)).map fun line => crop columns (dropExcess columns line)

/-- A text as it is shown on a console. -/
def wrap (columns : Nat) (text : Text) : Text :=
  ['\n'].intercalate ((text.splitOn '\n').flatMap (wrapLine columns))

end Wrapping
end ProseCheck
