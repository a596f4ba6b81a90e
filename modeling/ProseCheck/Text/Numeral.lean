import ProseCheck.Text.Blank

/-!
# Integer numerals

A numeral is an optional sign and digits, with white space around it and single low lines
between its digits; decimal digits of every script count.  A hexadecimal numeral may start with
`0x`.  A text beyond ASCII is first brought to ASCII: its digits to those of ASCII, and its blanks
to spaces.
-/

namespace ProseCheck
namespace Numeral

/-- Code points of the digit zero of every script; the other nine digits follow each. -/
def zeros : List Nat :=
  [0x30, 0x660, 0x6F0, 0x7C0, 0x966, 0x9E6, 0xA66, 0xAE6, 0xB66, 0xBE6, 0xC66, 0xCE6, 0xD66,
    0xDE6, 0xE50, 0xED0, 0xF20, 0x1040, 0x1090, 0x17E0, 0x1810, 0x1946, 0x19D0, 0x1A80, 0x1A90,
    0x1B50, 0x1BB0, 0x1C40, 0x1C50, 0xA620, 0xA8D0, 0xA900, 0xA9D0, 0xA9F0, 0xAA50, 0xABF0,
    0xFF10, 0x104A0, 0x10D30, 0x11066, 0x110F0, 0x11136, 0x111D0, 0x112F0, 0x11450, 0x114D0,
    0x11650, 0x116C0, 0x11730, 0x118E0, 0x11950, 0x11C50, 0x11D50, 0x11DA0, 0x16A60, 0x16AC0,
    0x16B50, 0x1D7CE, 0x1D7D8, 0x1D7E2, 0x1D7EC, 0x1D7F6, 0x1E140, 0x1E2F0, 0x1E950, 0x1FBF0]

/-- Value of a decimal digit of any script. -/
def decimalValue? (char : Char) : Option Nat :=
  (zeros.find? fun first => first ≤ char.toNat && char.toNat < first + 10).map (char.toNat - ·)

/-- Value of a decimal digit of any script, or of a letter as a digit from ten on. -/
def digitValue? (char : Char) : Option Nat :=
  if 'a' ≤ char && char ≤ 'z' then some (char.toNat - 'a'.toNat + 10)
  else if 'A' ≤ char && char ≤ 'Z' then some (char.toNat - 'A'.toNat + 10)
  else decimalValue? char

/-- Value of a digit in a base. -/
def digitIn? (base : Nat) (char : Char) : Option Nat :=
  (digitValue? char).filter (· < base)

/-- Value of the digits that follow a numeral of value `total`, single low lines among them. -/
def continue? (base total : Nat) : Text → Option Nat
  | [] => some total
  | '_' :: char :: rest =>
    match digitIn? base char with
    | some digit => continue? base (total * base + digit) rest
    | none => none
  | char :: rest =>
    match digitIn? base char with
    | some digit => continue? base (total * base + digit) rest
    | none => none

/-- Value of a numeral without sign: a digit, then more digits. -/
def unsigned? (base : Nat) : Text → Option Nat
  | [] => none
  | char :: rest => (digitIn? base char).bind fun digit => continue? base digit rest

/-- Sign of a numeral and what follows it. -/
def sign : Text → Bool × Text
  | '-' :: rest => (true, rest)
  | '+' :: rest => (false, rest)
  | text => (false, text)

/-- The digits after the mark of a base, a zero and a letter, where one low line may follow. -/
def dropMark (letter : Char) : Text → Text
  | '0' :: mark :: rest =>
    if mark.toLower = letter then
      match rest with
      | '_' :: digits => digits
      | digits => digits
    else '0' :: mark :: rest
  | text => text

/-- Applies a sign to a magnitude. -/
def signed (negative : Bool) (magnitude : Nat) : Int :=
  if negative then -(magnitude : Int) else magnitude

/-- Most digits that a decimal numeral may have. -/
def digitLimit : Nat := 4300

/-- A character as it counts in a numeral beyond ASCII. -/
def plainChar (char : Char) : Char :=
  if char.toNat < 0x80 then char
  else if Text.isBlank char then ' '
  else (decimalValue? char).elim char fun digit => Char.ofNat ('0'.toNat + digit)

/-- A numeral without the blanks around it, in ASCII. -/
def plain (text : Text) : Text := Text.trim Text.isSpace (text.map plainChar)

/-- Value of a decimal numeral. -/
def decimal? (text : Text) : Option Int :=
  let (negative, digits) := sign (plain text)
  if (digits.filter (· ≠ '_')).length > digitLimit then none
  else (unsigned? 10 digits).map (signed negative)

/-- Value of a numeral in a base of which a letter is the mark. -/
def marked? (base : Nat) (letter : Char) (text : Text) : Option Int :=
  let (negative, digits) := sign (plain text)
  (unsigned? base (dropMark letter digits)).map (signed negative)

/-- Value of a hexadecimal numeral. -/
def hexadecimal? (text : Text) : Option Int := marked? 16 'x' text

/-- Value of an octal numeral. -/
def octal? (text : Text) : Option Int := marked? 8 'o' text

/-- Value of a binary numeral. -/
def binary? (text : Text) : Option Int := marked? 2 'b' text

/-- Digits of a number in base ten. -/
def digits (number : Nat) : Text := Nat.toDigits 10 number

/-- A number in base ten, with a sign if it is negative. -/
def write : Int → Text
  | .ofNat number => digits number
  | .negSucc number => '-' :: digits (number + 1)

end Numeral
end ProseCheck
