import ProseCheck.Emoji.Basic
import ProseCheck.Report.Wrapping

/-!
# Console markup

Lines for the console carry tags between square brackets, such as `[bold]`, and text that could
be read as a tag is escaped by a backslash.  A console without colours drops the tags.  Names of
emoji are replaced between tags.  Output that goes to no terminal has no control sequences.
-/

namespace ProseCheck
namespace Console

/-- Whether a character may start a tag. -/
def startsTag (char : Char) : Bool :=
  ('a' ≤ char && char ≤ 'z') || char == '#' || char == '/' || char == '@'

/-- A tag at the start of a text, with what follows it: an opening bracket, a character that
starts a tag, and more without an opening bracket up to the next closing one. -/
def tag? : Text → Option (Text × Text)
  | '[' :: char :: rest =>
    if startsTag char then
      let inner := rest.takeWhile fun char => char != '[' && char != ']'
      match rest.dropWhile fun char => char != '[' && char != ']' with
      | ']' :: after => some ('[' :: char :: (inner ++ [']']), after)
      | _ => none
    else none
  | _ => none

/-- A text with a backslash before each tag, where `slashes` backslashes came before; backslashes
before a tag are doubled.  At most `fuel` characters are read. -/
def escapeFrom : Nat → Nat → Text → Text
  | 0, slashes, text => List.replicate slashes '\\' ++ text
  | _, slashes, [] => List.replicate slashes '\\'
  | fuel + 1, slashes, char :: rest =>
    if char = '\\' then escapeFrom fuel (slashes + 1) rest
    else
      match tag? (char :: rest) with
      | some (tag, after) =>
        List.replicate (2 * slashes + 1) '\\' ++ tag ++ escapeFrom fuel 0 after
      | none => List.replicate slashes '\\' ++ char :: escapeFrom fuel 0 rest

/-- Whether a text ends in a single backslash. -/
def endsInSlash (text : Text) : Bool :=
  match text.reverse with
  | '\\' :: '\\' :: _ => false
  | '\\' :: _ => true
  | _ => false

/-- A text that stands for itself within markup. -/
def escape (text : Text) : Text :=
  let escaped := escapeFrom text.length 0 text
  if endsInSlash escaped then escaped ++ ['\\'] else escaped

/-- A stretch between tags, where a backslash before an opening bracket is dropped. -/
def unescape : Text → Text
  | '\\' :: '[' :: rest => '[' :: unescape rest
  | char :: rest => char :: unescape rest
  | [] => []

/-- What a stretch between tags says; it comes last character first. -/
def said (stretch : Text) : Text := Emoji.fill (unescape stretch.reverse)

/-- The text of markup without its tags, where `plain` was read since the last tag, last character
first, and `slashes` backslashes after it.  At most `fuel` characters are read. -/
def textFrom : Nat → Text → Nat → Text → Text
  | 0, plain, slashes, text => said (text.reverse ++ List.replicate slashes '\\' ++ plain)
  | _, plain, slashes, [] => said (List.replicate slashes '\\' ++ plain)
  | fuel + 1, plain, slashes, char :: rest =>
    if char = '\\' then textFrom fuel plain (slashes + 1) rest
    else
      match tag? (char :: rest) with
      | some (tag, after) =>
        said plain ++ List.replicate (slashes / 2) '\\'
          ++ (if slashes % 2 = 1 then said tag.reverse else []) ++ textFrom fuel [] 0 after
      | none => textFrom fuel (char :: List.replicate slashes '\\' ++ plain) 0 rest

/-- The text of markup without its tags. -/
def plainText (markup : Text) : Text :=
  if markup.contains '[' then textFrom markup.length [] 0 markup else Emoji.fill markup

/-- Whether a console shows nothing for a control character. -/
def isSilent (char : Char) : Bool := [7, 8, 11, 12, 13].contains char.toNat

/-- Columns of a console that is no terminal. -/
def standardColumns : Nat := 80

/-- What a console shows of a text. -/
def shown (columns : Nat) (text : Text) : Text :=
  Wrapping.wrap columns (Columns.expand (text.filter fun char => !isSilent char))

/-- What a console without colours shows of markup. -/
def render (columns : Nat) (markup : Text) : Text := shown columns (plainText markup)

/-- What follows a control sequence at the start of a text: an escape character, an opening
bracket, digits and separators, and a letter. -/
def afterSequence? : Text → Option Text
  | '\x1b' :: '[' :: rest =>
    match rest.dropWhile fun char => char.isDigit || char == ';' || char == '?' with
    | char :: rest => if char.isAlpha then some rest else none
    | [] => none
  | _ => none

/-- A text without its control sequences, where at most `fuel` characters are read. -/
def withoutSequencesFrom : Nat → Text → Text
  | 0, text => text
  | _, [] => []
  | fuel + 1, char :: rest =>
    match afterSequence? (char :: rest) with
    | some after => withoutSequencesFrom fuel after
    | none => char :: withoutSequencesFrom fuel rest

/-- A text without its control sequences. -/
def withoutSequences (text : Text) : Text := withoutSequencesFrom text.length text

end Console
end ProseCheck
