import ProseCheck.Decimal.Nearest
import ProseCheck.Json.Basic
import ProseCheck.Text.Digits
import ProseCheck.Text.Numeral

/-!
# Reading JSON

The reader takes the JSON of the standard together with the three words for the doubles that
have no digits.  Of members of one name the last counts, in the place of the first; a raw
control character in a string is refused, and so is anything after the value.  Two things are
refused although they are JSON: an integer of very many digits, and very deep nesting.

Every call takes at least one character before it calls again, so the length of the input bounds
the depth of the calls; that number is the reader's fuel.
-/

namespace ProseCheck
namespace Json

/-- Why a text cannot be read. -/
inductive Trouble where
  /-- It is no JSON. -/
  | malformed
  /-- An integer has too many digits. -/
  | oversized
  /-- Lists and objects stand too deep in each other. -/
  | tooDeep
deriving DecidableEq, Repr

namespace Reader

/-- What follows the blanks that may stand between tokens. -/
def skip (input : Text) : Text :=
  input.dropWhile fun char => char == ' ' || char == '\t' || char == '\n' || char == '\r'

/-- The number of four hexadecimal digits, and what follows them. -/
def unit? : Text → Option (Nat × Text)
  | a :: b :: c :: d :: rest => (Text.hexNumber? [a, b, c, d]).map fun unit => (unit, rest)
  | _ => none

/-- Whether a 16-bit unit is the first half of a pair. -/
def isHigh (unit : Nat) : Bool := 0xD800 ≤ unit && unit ≤ 0xDBFF

/-- Whether a 16-bit unit is the second half of a pair. -/
def isLow (unit : Nat) : Bool := 0xDC00 ≤ unit && unit ≤ 0xDFFF

/-- The code point after an escaping `\u`, and what follows it; halves that follow each other make
up a character, and one that stands alone is kept. -/
def escapedUnit? (input : Text) : Option (Nat × Text) := do
  let (high, rest) ← unit? input
  if isHigh high then
    match rest with
    | '\\' :: 'u' :: more =>
      let (low, after) ← unit? more
      if isLow low then pure (0x10000 + (high - 0xD800) * 0x400 + (low - 0xDC00), after)
      else pure (high, rest)
    | _ => pure (high, rest)
  else pure (high, rest)

/-- The code point after a backslash, and what follows it. -/
def escaped? : Text → Option (Nat × Text)
  | '"' :: rest => some ('"'.toNat, rest)
  | '\\' :: rest => some ('\\'.toNat, rest)
  | '/' :: rest => some ('/'.toNat, rest)
  | 'b' :: rest => some ('\x08'.toNat, rest)
  | 'f' :: rest => some ('\x0c'.toNat, rest)
  | 'n' :: rest => some ('\n'.toNat, rest)
  | 'r' :: rest => some ('\r'.toNat, rest)
  | 't' :: rest => some ('\t'.toNat, rest)
  | 'u' :: rest => escapedUnit? rest
  | _ => none

/-- The code points of a string up to its closing quote, and what follows the quote. -/
def string? : Nat → Text → Option (List Nat × Text)
  | 0, _ => none
  | _ + 1, [] => none
  | fuel + 1, char :: rest =>
    if char = '"' then some ([], rest)
    else if char = '\\' then do
      let (code, rest) ← escaped? rest
      let (codes, rest) ← string? fuel rest
      pure (code :: codes, rest)
    else if char.toNat < 0x20 then none
    else do
      let (codes, rest) ← string? fuel rest
      pure (char.toNat :: codes, rest)

/-- The digits at the start of a text, and what follows them. -/
def digits (input : Text) : Text × Text :=
  (input.takeWhile Char.isDigit, input.dropWhile Char.isDigit)

/-- The number of decimal digits. -/
def digitsValue (digits : Text) : Nat :=
  digits.foldl (fun total char => total * 10 + (char.toNat - '0'.toNat)) 0

/-- Digits after a point, if a point and a digit follow. -/
def fraction : Text → Text × Text
  | '.' :: rest =>
    match digits rest with
    | ([], _) => ([], '.' :: rest)
    | found => found
  | input => ([], input)

/-- Exponent, if a mark, perhaps a sign, and a digit follow. -/
def exponent? : Text → Option (Int × Text)
  | mark :: rest =>
    if mark = 'e' ∨ mark = 'E' then
      let (negative, unsigned) :=
        match rest with
        | '-' :: rest => (true, rest)
        | '+' :: rest => (false, rest)
        | rest => (false, rest)
      match digits unsigned with
      | ([], _) => none
      | (found, rest) =>
        let size : Int := digitsValue found
        some (if negative then -size else size, rest)
    else none
  | [] => none

/-- Digits of the whole part of a number: zero alone, or digits that do not start with it. -/
def whole? (input : Text) : Option (Text × Text) :=
  match input with
  | '0' :: rest => some (['0'], rest)
  | _ =>
    match digits input with
    | ([], _) => none
    | found => some found

/-- A number after its sign; one with a fraction or an exponent is a double. -/
def unsigned (negative : Bool) (input : Text) : Except Trouble (Json × Text) :=
  match whole? input with
  | none => .error .malformed
  | some (wholeDigits, rest) =>
    let (fractionDigits, rest) := fraction rest
    match fractionDigits, exponent? rest with
    | [], none =>
      if wholeDigits.length > Numeral.digitLimit then .error .oversized
      else
        let size : Int := digitsValue wholeDigits
        .ok (.int (if negative then -size else size), rest)
    | _, found =>
      let (power, rest) := found.getD (0, rest)
      let value := Decimal.nearest negative (digitsValue (wholeDigits ++ fractionDigits))
        (power - fractionDigits.length)
      .ok (.float value, rest)

/-- Infinity with a sign. -/
def infinity (negative : Bool) : Float := if negative then -(1.0 / 0.0) else 1.0 / 0.0

/-- A word with its value, if the text starts with it, and what follows it. -/
def word (word : String) (value : Json) (input : Text) : Except Trouble (Json × Text) :=
  if word.toList.isPrefixOf input then .ok (value, input.drop word.length) else .error .malformed

/-- A value without parts: a word or a number. -/
def plain (input : Text) : Except Trouble (Json × Text) :=
  match input with
  | 'n' :: _ => word "null" .null input
  | 't' :: _ => word "true" (.bool true) input
  | 'f' :: _ => word "false" (.bool false) input
  | 'N' :: _ => word "NaN" (.float (0.0 / 0.0)) input
  | 'I' :: _ => word "Infinity" (.float (infinity false)) input
  | '-' :: 'I' :: _ => word "-Infinity" (.float (infinity true)) input
  | '-' :: rest => unsigned true rest
  | _ => unsigned false input

/-- Most lists and objects that may stand in each other. -/
def depthLimit : Nat := 980

mutual

/-- A value that may hold `depth` levels of lists and objects, and what follows it. -/
def value : Nat → Nat → Text → Except Trouble (Json × Text)
  | 0, _, _ => .error .malformed
  | fuel + 1, depth, input =>
    match skip input with
    | '"' :: rest =>
      match string? (fuel + 1) rest with
      | some (codes, rest) => .ok (.ofCodes codes, rest)
      | none => .error .malformed
    | '[' :: rest =>
      match depth with
      | 0 => .error .tooDeep
      | depth + 1 =>
        match skip rest with
        | ']' :: rest => .ok (.arr [], rest)
        | _ => (items fuel depth rest).map fun (items, rest) => (.arr items, rest)
    | '{' :: rest =>
      match depth with
      | 0 => .error .tooDeep
      | depth + 1 =>
        match skip rest with
        | '}' :: rest => .ok (.obj [], rest)
        | _ => (members fuel depth [] rest).map fun (members, rest) =>
          (.obj (members.map (Function.uncurry memberOf)), rest)
    | input => plain input

/-- The items of a list up to its closing bracket. -/
def items : Nat → Nat → Text → Except Trouble (List Json × Text)
  | 0, _, _ => .error .malformed
  | fuel + 1, depth, input => do
    let (value, rest) ← value fuel depth input
    match skip rest with
    | ',' :: rest =>
      let (items, rest) ← items fuel depth rest
      pure (value :: items, rest)
    | ']' :: rest => pure ([value], rest)
    | _ => .error .malformed

/-- The members of an object up to its closing brace, by the code points of their names, added to
`found`. -/
def members : Nat → Nat → List (List Nat × Json) → Text →
    Except Trouble (List (List Nat × Json) × Text)
  | 0, _, _, _ => .error .malformed
  | fuel + 1, depth, found, input =>
    match skip input with
    | '"' :: rest =>
      match string? (fuel + 1) rest with
      | none => .error .malformed
      | some (name, rest) =>
        match skip rest with
        | ':' :: rest => do
          let (value, rest) ← value fuel depth rest
          let found := Association.put name value found
          match skip rest with
          | ',' :: rest => members fuel depth found rest
          | '}' :: rest => pure (found, rest)
          | _ => .error .malformed
        | _ => .error .malformed
    | _ => .error .malformed

end

end Reader

/-- The value that a text holds, which holds nothing else. -/
def read (input : Text) : Except Trouble Json := do
  let (value, rest) ← Reader.value (input.length + 1) Reader.depthLimit input
  if (Reader.skip rest).isEmpty then pure value else .error .malformed

/-- The value that a text holds, if it can be read. -/
def read? (input : Text) : Option Json := (read input).toOption

end Json
end ProseCheck
