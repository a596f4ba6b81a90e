import ProseCheck.Decimal.Nearest
import ProseCheck.Json.Reader
import ProseCheck.Text.Numeral
import ProseCheck.Validation.Basic

/-!
# Validation of scalars

A string is a string only.  An integer may also be a whole double, a truth value, or the text of
an integer: white space around it, a plus sign, zeros in front, single low lines among the digits
and a fraction of zeros do not count.  A number may also be an integer, a truth value, or the text
of a number.
-/

namespace ProseCheck
namespace Validated

/-- Reads a string, as it is shown. -/
def string : Json → Validated String
  | .str value => .valid value
  | .halved codes => .valid (String.ofList (Json.shown codes))
  | _ => refuse .notString

/-- Reads a string as a text. -/
def text (value : Json) : Validated Text := (string value).map String.toList

/-- What stands from a character on, where `before` is the character in front of it. -/
def dropZeros (before : Char) : Text → Option Text
  | [] => some [before]
  | char :: rest =>
    if char = '0' ∨ char = '_' then dropZeros char rest
    else if char = '.' then some (before :: char :: rest)
    else if char.isDigit ∨ char = '-' then some (char :: rest)
    else none

/-- An integer without the zeros in front, and low lines among them; one zero is left where there
is nothing else. -/
def withoutZeros? : Text → Option Text
  | '0' :: rest => dropZeros '0' rest
  | char :: rest => if char.isDigit ∨ char = '-' then some (char :: rest) else none
  | [] => none

/-- An integer without a fraction of zeros. -/
def withoutFraction (written : Text) : Text :=
  let fraction := (written.dropWhile (· ≠ '.')).drop 1
  if !fraction.isEmpty && fraction.all (· == '0') then written.takeWhile (· ≠ '.') else written

/-- Whether low lines stand only between other characters, one at a time. -/
def hasSingleLowLines (written : Text) : Bool :=
  written.head? != some '_' && written.getLast? != some '_' && !Text.includes ['_', '_'] written

/-- A text without low lines, if they stand between other characters, one at a time. -/
def withoutLowLines (written : Text) : Text :=
  if hasSingleLowLines written then written.filter (· ≠ '_') else written

/-- The integer of plain digits, perhaps after a minus sign. -/
def integerOfDigits (written : Text) : Except Refusal Int :=
  let (negative, body) :=
    match written with
    | '-' :: rest => (true, rest)
    | _ => (false, written)
  let digits := body.takeWhile Char.isDigit
  if digits.length + (if negative then 1 else 0) > Numeral.digitLimit then
    .error .oversizedInteger
  else if digits.isEmpty || digits.length < body.length
      || (digits.head? = some '0' && digits.length > 1) then .error .unreadableInteger
  else .ok (Numeral.signed negative (Json.Reader.digitsValue digits))

/-- Plain digits of an integer that may be written more freely. -/
def plainInteger? (written : Text) : Option Text :=
  let unsigned :=
    match Text.trim Text.isWhiteSpace written with
    | '+' :: '-' :: _ => none
    | '+' :: rest => withoutZeros? rest
    | trimmed => withoutZeros? trimmed
  unsigned.map fun digits => withoutLowLines (withoutFraction digits)

/-- The integer that a text stands for.  Only one that is plain as it stands is found too large. -/
def integerOfText (written : Text) : Except Refusal Int :=
  match integerOfDigits written with
  | .error .unreadableInteger =>
    match plainInteger? written with
    | some plain => (integerOfDigits plain).mapError fun _ => .unreadableInteger
    | none => .error .unreadableInteger
  | found => found

/-- Least magnitude of a double that is too large for an integer. -/
def integerBound : Float := 9223372036854775808

/-- The integer that a double stands for. -/
def integerOfDouble (value : Float) : Except Refusal Int :=
  if !value.isFinite then .error .notFinite
  else
    match Decimal.integer? value with
    | none => .error .fractionalInteger
    | some whole =>
      if -integerBound < value && value < integerBound then .ok whole
      else .error .oversizedInteger

/-- A value, or the one reason against it. -/
def ofExcept {Value : Type} : Except Refusal Value → Validated Value
  | .ok value => .valid value
  | .error refusal => refuse refusal

/-- Reads an integer. -/
def integer : Json → Validated Int
  | .int value => .valid value
  | .bool value => .valid (if value then 1 else 0)
  | .float value => ofExcept (integerOfDouble value)
  | .str written => ofExcept (integerOfText written.toList)
  | .halved _ => refuse .halvedString
  | _ => refuse .notInteger

/-- Reads an integer of at least `least`. -/
def integerFrom (least : Int) (value : Json) : Validated Int :=
  (integer value).requiring (fun read => least ≤ read) .belowLeast

/-- Reads a natural number. -/
def natural (value : Json) : Validated Nat := (integerFrom 0 value).map Int.toNat

/-- Reads a natural number that is not zero. -/
def positive (value : Json) : Validated Nat := (integerFrom 1 value).map Int.toNat

/-- Value of an unsigned decimal: digits with or without a point, and perhaps an exponent. -/
def decimalOfText? (negative : Bool) (body : Text) : Option Float :=
  let (wholeDigits, rest) := Json.Reader.digits body
  let (fractionDigits, rest) :=
    match rest with
    | '.' :: rest => Json.Reader.digits rest
    | rest => ([], rest)
  if wholeDigits.isEmpty && fractionDigits.isEmpty then none
  else
    let significand := Json.Reader.digitsValue (wholeDigits ++ fractionDigits)
    match rest, Json.Reader.exponent? rest with
    | [], _ => some (Decimal.nearest negative significand (-fractionDigits.length))
    | _, some (power, []) =>
      some (Decimal.nearest negative significand (power - fractionDigits.length))
    | _, _ => none

/-- The number that a text without low lines stands for. -/
def numberOfPlainText? (written : Text) : Option Float :=
  let (negative, body) := Numeral.sign written
  let word := String.ofList (body.map Char.toLower)
  if word = "inf" ∨ word = "infinity" then some (Json.Reader.infinity negative)
  else if word = "nan" then some (0.0 / 0.0)
  else decimalOfText? negative body

/-- The number that a text stands for. -/
def numberOfText? (written : Text) : Option Float :=
  match numberOfPlainText? (Text.trim Text.isWhiteSpace written) with
  | some value => some value
  | none =>
    if hasSingleLowLines written then numberOfPlainText? (written.filter (· ≠ '_')) else none

/-- Reads a number; an integer beyond all doubles is none. -/
def number : Json → Validated Float
  | .float value => .valid value
  | .int value =>
    let nearest := Decimal.ofInt value
    if nearest.isFinite then .valid nearest else refuse .notNumber
  | .bool value => .valid (if value then 1 else 0)
  | .str written =>
    match numberOfText? written.toList with
    | some value => .valid value
    | none => refuse .unreadableNumber
  | .halved _ => refuse .halvedString
  | _ => refuse .notNumber

/-- Reads a number that is not negative. -/
def unsignedNumber (value : Json) : Validated Float :=
  (number value).requiring (fun read => 0 ≤ read) .belowLeast

/-- Reads a pair of integers; a missing item is missing at its place, and a longer list is refused
whatever it holds. -/
def pair : Json → Validated (Int × Int)
  | .arr items =>
    let item (place : Nat) : Validated Int :=
      match items[place]? with
      | some value => (integer value).below (.item place)
      | none => .invalid [⟨.missing, [.item place]⟩]
    if items.length > 2 then refuse .tooLong else Prod.mk <$> item 0 <*> item 1
  | _ => refuse .notPair

end Validated
end ProseCheck
