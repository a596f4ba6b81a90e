import ProseCheck.Text.Numeral

/-!
# Escapes

An escape in markup is a backslash before a character, or before a code point between `u{` and
`}` in hexadecimal digits.  What is no code point stands for itself, without the backslash.
-/

namespace ProseCheck
namespace Escape

/-- Digits of an escape by code point. -/
def codeDigits? : Text → Option Text
  | 'u' :: '{' :: rest => if rest.getLast? = some '}' then some rest.dropLast else none
  | _ => none

/-- An escape without its backslash. -/
def body : Text → Text
  | '\\' :: rest => rest
  | text => text

/-- Code points that an escape stands for; half of a surrogate pair is one too. -/
def codePoints (text : Text) : List Nat :=
  let body := body text
  match (codeDigits? body).bind Numeral.hexadecimal? with
  | some code => if 0 ≤ code ∧ code < 0x110000 then [code.toNat] else body.map Char.toNat
  | none => body.map Char.toNat

/-- Character of a code point; half of a surrogate pair has none and becomes U+FFFD. -/
def charOf (code : Nat) : Char := if code.isValidChar then Char.ofNat code else '\uFFFD'

/-- Characters that an escape stands for. -/
def decode (text : Text) : Text := (codePoints text).map charOf

end Escape
end ProseCheck
