import ProseCheck.Json.Basic
import ProseCheck.Text.Utf8

/-!
# Encodings of JSON

JSON that is sent as octets is UTF-8, or takes two or four octets for each unit of a text.  A mark
at the start may tell which, and is no part of the text.  Without one the text starts with ASCII
characters, so octets of zero among the first four tell how wide the units are and which octet of
them comes first.

Octets may hold half a pair of 16-bit units, which U+FFFD stands for.
-/

namespace ProseCheck
namespace Json

/-- How octets make up a text. -/
inductive Encoding where
  | utf8
  /-- Units of two octets. -/
  | utf16 (greatFirst : Bool)
  /-- Units of four octets. -/
  | utf32 (greatFirst : Bool)
deriving DecidableEq, Repr

namespace Encoding

/-- The encoding that a mark at the start tells, and the octets behind the mark. -/
def marked? : List Nat → Option (Encoding × List Nat)
  | 0 :: 0 :: 0xFE :: 0xFF :: rest => some (.utf32 true, rest)
  | 0xFF :: 0xFE :: 0 :: 0 :: rest => some (.utf32 false, rest)
  | 0xFE :: 0xFF :: rest => some (.utf16 true, rest)
  | 0xFF :: 0xFE :: rest => some (.utf16 false, rest)
  | 0xEF :: 0xBB :: 0xBF :: rest => some (.utf8, rest)
  | _ => none

/-- The encoding that the first octets tell where there is no mark. -/
def ofOctets : List Nat → Encoding
  | [0, _] => .utf16 true
  | [_, 0] => .utf16 false
  | 0 :: 0 :: _ :: _ :: _ => .utf32 true
  | 0 :: _ :: _ :: _ :: _ => .utf16 true
  | _ :: 0 :: 0 :: 0 :: _ => .utf32 false
  | _ :: 0 :: _ :: _ :: _ => .utf16 false
  | _ => .utf8

/-- The number that octets make up. -/
def join (greatFirst : Bool) (octets : List Nat) : Nat :=
  (if greatFirst then octets else octets.reverse).foldl (fun total octet => total * 256 + octet) 0

/-- Units of two octets; none if an octet is left. -/
def pairs? (greatFirst : Bool) : List Nat → Option (List Nat)
  | [] => some []
  | [_] => none
  | a :: b :: rest => (pairs? greatFirst rest).map (join greatFirst [a, b] :: ·)

/-- Units of four octets; none if octets are left. -/
def quads? (greatFirst : Bool) : List Nat → Option (List Nat)
  | [] => some []
  | a :: b :: c :: d :: rest => (quads? greatFirst rest).map (join greatFirst [a, b, c, d] :: ·)
  | _ => none

/-- The text of units of two octets, two of which may make up a character. -/
def ofUnits : List Nat → Text
  | high :: low :: rest =>
    if 0xD800 ≤ high && high ≤ 0xDBFF && 0xDC00 ≤ low && low ≤ 0xDFFF then
      Char.ofNat (0x10000 + (high - 0xD800) * 0x400 + (low - 0xDC00)) :: ofUnits rest
    else charOf high :: ofUnits (low :: rest)
  | [unit] => [charOf unit]
  | [] => []

/-- Octets of UTF-8 with those of U+FFFD for every half. -/
def withoutHalves : List Nat → List Nat
  | 0xED :: second :: third :: rest =>
    if 0xA0 ≤ second && second ≤ 0xBF && 0x80 ≤ third && third ≤ 0xBF then
      Utf8.encodeChar '\uFFFD' ++ withoutHalves rest
    else 0xED :: withoutHalves (second :: third :: rest)
  | octet :: rest => octet :: withoutHalves rest
  | [] => []

/-- The text of octets; none if they are none. -/
def decode? (encoding : Encoding) (octets : List Nat) : Option Text :=
  match encoding with
  | .utf8 => Utf8.decode? (withoutHalves octets)
  | .utf16 greatFirst => (pairs? greatFirst octets).map ofUnits
  | .utf32 greatFirst => do
    let codes ← quads? greatFirst octets
    if codes.all (· < 0x110000) then pure (codes.map charOf) else none

end Encoding

/-- The text of octets that are sent as JSON; none if they are none. -/
def decode? (octets : List Nat) : Option Text :=
  let (encoding, rest) := (Encoding.marked? octets).getD (Encoding.ofOctets octets, octets)
  encoding.decode? rest

end Json
end ProseCheck
