import ProseCheck.Text.Digits
import ProseCheck.Yaml.Cursor

/-!
# Quoted scalars

A scalar between quotes.  Between single quotes a quote is written twice and nothing else is
special; between double quotes a backslash starts an escape.  A line break counts as a space, and
of several in a row all but the first count as themselves.
-/

namespace ProseCheck
namespace Yaml
namespace Quoted

/-- Escapes of one character, by what follows the backslash. -/
def escapes : List (Char × Char) :=
  [('0', '\x00'), ('a', '\x07'), ('b', '\x08'), ('t', '\t'), ('\t', '\t'), ('n', '\n'),
    ('v', '\x0b'), ('f', '\x0c'), ('r', '\r'), ('e', '\x1b'), (' ', ' '), ('"', '"'),
    ('\\', '\\'), ('/', '/'), ('N', '\u0085'), ('_', '\u00a0'), ('L', '\u2028'), ('P', '\u2029')]

/-- Escapes by a code point: what follows the backslash, and the number of digits. -/
def codeLengths : List (Char × Nat) := [('x', 2), ('u', 4), ('U', 8)]

/-- Character of a code point; a half of a surrogate pair becomes U+FFFD. -/
def charOf (code : Nat) : Except Trouble Char :=
  if code > 0x10FFFF then .error .unreadable
  else if 0xD800 ≤ code && code ≤ 0xDFFF then .ok '\uFFFD'
  else .ok (Char.ofNat code)

/-- Line breaks with blanks around them; a line that separates documents must not follow. -/
def breaks : Nat → Scan Text
  | 0 => pure []
  | fuel + 1 => do
    Scan.require !(← get).isAtSeparator
    Scan.skipWhile fun char => char == ' ' || char == '\t'
    if isBreak (← Scan.peek) then
      let first ← Scan.lineBreak
      return first ++ (← breaks fuel)
    else return []

/-- What the line breaks after a first one amount to. -/
def folded (first : Text) : Scan Text := do
  let more ← breaks (← Scan.fuel)
  return (if first != ['\n'] then first else if more.isEmpty then [' '] else []) ++ more

/-- Blanks, or line breaks with the blanks around them. -/
def spaces : Scan Text := do
  let blanks ← Scan.takeWhile fun char => char == ' ' || char == '\t'
  let char ← Scan.peek
  if char == endMark then Scan.fail
  else if isBreak char then folded (← Scan.lineBreak)
  else return blanks

/-- What an escape after its backslash stands for. -/
def escape : Scan Text := do
  let mark ← Scan.peek
  match escapes.lookup mark, codeLengths.lookup mark with
  | some char, _ => Scan.skip 1; return [char]
  | none, some count =>
    Scan.skip 1
    let digits := (← get).rest.take count
    match Text.hexNumber? digits with
    | some code =>
      Scan.require (digits.length == count)
      Scan.skip count
      return [← charOf code]
    | none => Scan.fail
  | none, none =>
    Scan.require (isBreak mark)
    let _ ← Scan.lineBreak
    breaks (← Scan.fuel)

/-- Characters that stand for themselves. -/
def isPlain (char : Char) : Bool := !isGap char && char != '"' && char != '\x27' && char != '\\'

/-- Characters up to a blank, a line break or the closing quote. -/
def word (quote : Char) : Nat → Scan Text
  | 0 => pure []
  | fuel + 1 => do
    let plain ← Scan.takeWhile isPlain
    let char ← Scan.peek
    let part ←
      if quote == '\x27' then
        if char == '\x27' then
          if (← Scan.peekAt 1) == '\x27' then Scan.skip 2; pure (some ['\x27']) else pure none
        else if char == '"' || char == '\\' then Scan.skip 1; pure (some [char])
        else pure none
      else if char == '\x27' then Scan.skip 1; pure (some [char])
      else if char == '\\' then Scan.skip 1; pure (some (← escape))
      else pure none
    match part with
    | some part => return plain ++ part ++ (← word quote fuel)
    | none => return plain

/-- Words and what stands between them, up to the closing quote. -/
def words (quote : Char) : Nat → Scan Text
  | 0 => Scan.fail
  | fuel + 1 => do
    if (← Scan.peek) == quote then return []
    let gap ← spaces
    let word ← word quote (← Scan.fuel)
    return gap ++ word ++ (← words quote fuel)

/-- The text of a quoted scalar. -/
def scan : Scan Text := do
  let quote ← Scan.peek
  Scan.skip 1
  let first ← word quote (← Scan.fuel)
  let others ← words quote (← Scan.fuel)
  Scan.skip 1
  return first ++ others

end Quoted
end Yaml
end ProseCheck
