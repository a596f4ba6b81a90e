import ProseCheck.Text.Utf8

/-!
# Octets in digits

Octets are written in ASCII by digits of a base: two hexadecimal digits stand for one octet, and
four digits in base 64 for three.  A URL puts a percent sign before the two digits of an octet, and
has them for characters that a place of it does not take.
-/

namespace ProseCheck
namespace Text

/-- Hexadecimal digit of a number below sixteen, in lower case. -/
def hexDigit (value : Nat) : Char :=
  if value < 10 then Char.ofNat ('0'.toNat + value) else Char.ofNat ('a'.toNat + (value - 10))

/-- The last hexadecimal digits of a number, `count` of them. -/
def hexDigits : Nat → Nat → Text
  | 0, _ => []
  | count + 1, value => hexDigits count (value / 16) ++ [hexDigit (value % 16)]

/-- Value of a hexadecimal digit. -/
def hexValue? (char : Char) : Option Nat :=
  if '0' ≤ char && char ≤ '9' then some (char.toNat - '0'.toNat)
  else if 'a' ≤ char && char ≤ 'f' then some (char.toNat - 'a'.toNat + 10)
  else if 'A' ≤ char && char ≤ 'F' then some (char.toNat - 'A'.toNat + 10)
  else none

/-- The number of a text of hexadecimal digits. -/
def hexNumber? (digits : Text) : Option Nat :=
  digits.foldl (fun total char => do pure ((← total) * 16 + (← hexValue? char))) (some 0)

@[simp]
theorem length_hexDigits (count value : Nat) : (hexDigits count value).length = count := by
  induction count generalizing value with
  | zero => rfl
  | succ count ih => simp [hexDigits, ih]

end Text

namespace Base64

/-! ## Base 64

Four characters stand for three octets; at the end two or three stand for one or two, and equals
signs take the place of the others.  Other characters are passed over.
-/

/-- Digits by their values. -/
def digits : Text :=
  "ABCDEFGHIJKLMNOPQRSTUVWXYZabcdefghijklmnopqrstuvwxyz0123456789+/".toList

/-- Octets of a text, where `held` values of digits were read of four, and `pads` equals signs
after them. -/
def decodeFrom (held : List Nat) (pads : Nat) : Text → Option (List Nat)
  | [] => if held.isEmpty then some [] else none
  | char :: rest =>
    if char = '=' then
      match held with
      | [a, b] => if pads = 0 then decodeFrom held 1 rest else some [a * 4 + b / 16]
      | [a, b, c] => some [a * 4 + b / 16, b % 16 * 16 + c / 4]
      | _ => decodeFrom held pads rest
    else
      match digits.idxOf? char, held with
      | none, _ => decodeFrom held pads rest
      | some d, [a, b, c] =>
        (decodeFrom [] 0 rest).map
          ([a * 4 + b / 16, b % 16 * 16 + c / 4, c % 4 * 64 + d] ++ ·)
      | some d, _ => decodeFrom (held ++ [d]) 0 rest

/-- Octets of a text. -/
def decode? (text : Text) : Option (List Nat) := decodeFrom [] 0 text

end Base64

namespace Percent

/-! ## Percent encoding

A character that is not safe is written as its octets in UTF-8.  Reading puts octets back; a percent
sign that starts none stands for itself.
-/

/-- Two hexadecimal digits in capitals after a percent sign. -/
def octet (value : Nat) : Text := '%' :: (Text.hexDigits 2 value).map Char.toUpper

/-- The text with every character encoded that is not safe. -/
def encode (safe : Char → Bool) (text : Text) : Text :=
  text.flatMap fun char => if safe char then [char] else (Utf8.encodeChar char).flatMap octet

/-- The octets that a text stands for. -/
def octets : Text → List Nat
  | [] => []
  | '%' :: high :: low :: rest =>
    match Text.hexNumber? [high, low] with
    | some value => value :: octets rest
    | none => '%'.toNat :: octets (high :: low :: rest)
  | char :: rest => Utf8.encodeChar char ++ octets rest

/-- The text that an encoded text stands for, with U+FFFD for octets that are no text. -/
def decode (text : Text) : Text := Utf8.decodeLossy (octets text)

end Percent
end ProseCheck
