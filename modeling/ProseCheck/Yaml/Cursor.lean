import ProseCheck.Text.Ranges

/-!
# Characters and cursors of YAML

Classes of characters tell the parts of a document apart.  A document holds printable characters
only, so the null character can stand for its end.

A cursor is a place in a document: what follows it, and where it stands.  Readers of parts move
the cursor on and fail where the document is no YAML.
-/

namespace ProseCheck
namespace Yaml

/-- Stands for the end of a document. -/
def endMark : Char := '\x00'

/-- Characters that a document may hold. -/
def allowed : Ranges :=
  [(0x9, 0xA), (0xD, 0xD), (0x20, 0x7E), (0x85, 0x85), (0xA0, 0xD7FF), (0xE000, 0xFFFD),
    (0x10000, 0x10FFFF)]

/-- Whether a character ends a line. -/
def isBreak (char : Char) : Bool := ['\n', '\r', '\u0085', '\u2028', '\u2029'].contains char

/-- Whether a line, or the document, ends at a character. -/
def isLineEnd (char : Char) : Bool := isBreak char || char == endMark

/-- Whether a character is a space, or a line ends there. -/
def isSpaceOrEnd (char : Char) : Bool := isLineEnd char || char == ' '

/-- Whether a character is a space or a tab, or a line ends there. -/
def isGap (char : Char) : Bool := isSpaceOrEnd char || char == '\t'

/-- Whether a character may stand in a name: a letter or digit of ASCII, a dash or a low line. -/
def isNameChar (char : Char) : Bool := char.isAlphanum || char == '-' || char == '_'

/-- Whether a character may stand in the text of a tag. -/
def isTagChar (char : Char) : Bool :=
  char.isAlphanum || "-;/?:@&=+$,_.!~*\x27()[]%".toList.contains char

/-- Why a document cannot be read. -/
inductive Trouble where
  /-- It is no YAML, or holds what no value stands for. -/
  | malformed
  /-- A number, a date or a code point is none. -/
  | unreadable
  /-- What is marked as a number is empty. -/
  | emptyNumber
  /-- What is marked as a truth value is none. -/
  | notTruth
  /-- What is marked as a time is none. -/
  | notTime
  /-- Sequences and mappings stand too deep in each other. -/
  | tooDeep
deriving DecidableEq, Repr

/-- A place in a document. -/
structure Cursor where
  /-- What follows. -/
  rest : Text
  /-- Number of characters before. -/
  index : Nat
  /-- Number of lines before. -/
  line : Nat
  /-- Number of characters before on the line, byte order marks left out. -/
  column : Nat
deriving DecidableEq, Repr

namespace Cursor

/-- The start of a document. -/
def start (document : Text) : Cursor := ⟨document, 0, 0, 0⟩

/-- The character at a distance from the cursor. -/
def peek (cursor : Cursor) (distance : Nat) : Char := cursor.rest.getD distance endMark

/-- The place after the next character. -/
def next (cursor : Cursor) : Cursor :=
  match cursor.rest with
  | [] => cursor
  | char :: rest =>
    if isBreak char && !(char == '\r' && rest.head? == some '\n') then
      ⟨rest, cursor.index + 1, cursor.line + 1, 0⟩
    else
      ⟨rest, cursor.index + 1, cursor.line,
        if char == '\uFEFF' then cursor.column else cursor.column + 1⟩

/-- The place after some characters. -/
def skip : Nat → Cursor → Cursor
  | 0, cursor => cursor
  | count + 1, cursor => skip count cursor.next

/-- Whether three marks of a kind stand alone here. -/
def isAtMarks (mark : Char) (cursor : Cursor) : Bool :=
  cursor.rest.take 3 == [mark, mark, mark] && isGap (cursor.peek 3)

/-- Whether a line starts here that separates documents. -/
def isAtSeparator (cursor : Cursor) : Bool := cursor.isAtMarks '-' || cursor.isAtMarks '.'

end Cursor

/-- A reader of a part of a document. -/
abbrev Scan := StateT Cursor (Except Trouble)

namespace Scan

/-- Fails. -/
def fail {Value : Type} : Scan Value := throw .malformed

/-- Requires a condition. -/
def require (condition : Bool) : Scan Unit := if condition then pure () else fail

/-- The next character. -/
def peek : Scan Char := do return (← get).peek 0

/-- The character at a distance. -/
def peekAt (distance : Nat) : Scan Char := do return (← get).peek distance

/-- Passes some characters. -/
def skip (count : Nat) : Scan Unit := modify fun cursor => cursor.skip count

/-- Takes characters of a class. -/
def takeWhile (holds : Char → Bool) : Scan Text := do
  let taken := (← get).rest.takeWhile holds
  skip taken.length
  return taken

/-- Passes characters of a class. -/
def skipWhile (holds : Char → Bool) : Scan Unit := do
  let _ ← takeWhile holds

/-- Passes a line break, and gives the character that it counts as; nothing if there is none. -/
def lineBreak : Scan Text := do
  let cursor ← get
  match cursor.rest with
  | '\r' :: '\n' :: _ => skip 2; return ['\n']
  | char :: _ =>
    if char == '\u2028' || char == '\u2029' then
      skip 1
      return [char]
    else if isBreak char then
      skip 1
      return ['\n']
    else return []
  | [] => return []

/-- Passes spaces and a comment up to the end of the line, and the line break. -/
def ignoredLine : Scan Unit := do
  skipWhile (· == ' ')
  if (← peek) == '#' then skipWhile fun char => !isLineEnd char
  require (isLineEnd (← peek))
  let _ ← lineBreak

/-- Number of characters that are left, and one more: bounds how often a reader that moves on can
be called. -/
def fuel : Scan Nat := do return (← get).rest.length + 1

end Scan
end Yaml
end ProseCheck
