import ProseCheck.Decimal.Shortest
import ProseCheck.Json.Basic
import ProseCheck.Text.Digits

/-!
# Writing JSON

Two forms.  The canonical form sorts the members of objects by name, has no blanks and is ASCII,
so that equal values have equal texts; it is what digests are taken of.  The indented form keeps
the order of members and all characters, and is what people read.
-/

namespace ProseCheck
namespace Json
namespace Writer

/-- A 16-bit unit as an escape. -/
def escapeUnit (unit : Nat) : Text := '\\' :: 'u' :: Text.hexDigits 4 unit

/-- A character as one escape, or two above U+FFFF. -/
def escapeCode (char : Char) : Text :=
  let code := char.toNat
  if code < 0x10000 then escapeUnit code
  else
    escapeUnit (0xD800 + (code - 0x10000) / 0x400)
      ++ escapeUnit (0xDC00 + (code - 0x10000) % 0x400)

/-- A character in a string: quote, backslash and five controls have short escapes, a character
that `keeps` holds stands for itself, and any other is written by its code. -/
def char (keeps : Char → Bool) (char : Char) : Text :=
  if char = '"' then ['\\', '"']
  else if char = '\\' then ['\\', '\\']
  else if char = '\n' then ['\\', 'n']
  else if char = '\r' then ['\\', 'r']
  else if char = '\t' then ['\\', 't']
  else if char = '\x08' then ['\\', 'b']
  else if char = '\x0c' then ['\\', 'f']
  else if keeps char then [char]
  else escapeCode char

/-- A string between quotes. -/
def string (keeps : Char → Bool) (value : Text) : Text :=
  '"' :: (value.flatMap (char keeps) ++ ['"'])

/-- A string of code points between quotes; halves are written by their codes. -/
def halved (keeps : Char → Bool) (codes : List Nat) : Text :=
  '"' :: (codes.flatMap (fun code =>
    if isHalf code then escapeUnit code else char keeps (charOf code)) ++ ['"'])

/-- The printable characters of ASCII. -/
def isPrintableAscii (char : Char) : Bool := 0x20 ≤ char.toNat && char.toNat ≤ 0x7E

/-- Every character but the controls of ASCII. -/
def isNoControl (char : Char) : Bool := 0x20 ≤ char.toNat

/-- A double, with words for the values that have no digits. -/
def float (value : Float) : Text := Decimal.write "Infinity".toList "NaN".toList value

/-- Texts with a separator between neighbours. -/
def join (separator : Text) : List Text → Text
  | [] => []
  | [last] => last
  | first :: rest => first ++ separator ++ join separator rest

/-- Words of the two truth values. -/
def bool (value : Bool) : Text := if value then "true".toList else "false".toList

mutual

/-- Canonical form of a value. -/
def canonical : Json → Text
  | .null => "null".toList
  | .bool value => bool value
  | .int value => Numeral.write value
  | .float value => float value
  | .str value => string isPrintableAscii value.toList
  | .halved codes => halved isPrintableAscii codes
  | .arr items => '[' :: (join [','] (canonicalItems items) ++ [']'])
  | .obj members =>
    let sorted := (canonicalMembers members).mergeSort fun left right => decide (left.1 ≤ right.1)
    let texts := sorted.map fun (name, value) => string isPrintableAscii name.toList ++ ':' :: value
    '{' :: (join [','] texts ++ ['}'])
  | .foreign written => string isPrintableAscii written.toList
  | .keyed _ value => canonical value

/-- Canonical forms of values. -/
def canonicalItems : List Json → List Text
  | [] => []
  | item :: rest => canonical item :: canonicalItems rest

/-- Names and canonical forms of members. -/
def canonicalMembers : List (String × Json) → List (String × Text)
  | [] => []
  | (name, value) :: rest => (name, canonical value) :: canonicalMembers rest

end

/-- A line break and an indentation of two blanks a level. -/
def lineBreak (level : Nat) : Text := '\n' :: List.replicate (2 * level) ' '

/-- Lines between brackets, one level deeper; nothing between them when there is no line. -/
def block (level : Nat) (left right : Char) (lines : List Text) : Text :=
  if lines.isEmpty then [left, right]
  else left :: (lineBreak (level + 1) ++ join (',' :: lineBreak (level + 1)) lines
    ++ lineBreak level ++ [right])

mutual

/-- Indented form of a value that stands at a level. -/
def indented (level : Nat) : Json → Text
  | .null => "null".toList
  | .bool value => bool value
  | .int value => Numeral.write value
  | .float value => float value
  | .str value => string isNoControl value.toList
  | .halved codes => halved isNoControl codes
  | .arr items => block level '[' ']' (indentedItems (level + 1) items)
  | .obj members => block level '{' '}' (indentedMembers (level + 1) members)
  | .foreign written => string isNoControl written.toList
  | .keyed _ value => indented level value

/-- Indented forms of values. -/
def indentedItems (level : Nat) : List Json → List Text
  | [] => []
  | item :: rest => indented level item :: indentedItems level rest

/-- Indented forms of members. -/
def indentedMembers (level : Nat) : List (String × Json) → List Text
  | [] => []
  | (name, value) :: rest =>
    (string isNoControl name.toList ++ ':' :: ' ' :: indented level value)
      :: indentedMembers level rest

end

end Writer

/-- Canonical form: members sorted by name, no blanks, ASCII. -/
def canonical (value : Json) : Text := Writer.canonical value

/-- Indented form: two blanks a level, members in order. -/
def indented (value : Json) : Text := Writer.indented 0 value

end Json
end ProseCheck
