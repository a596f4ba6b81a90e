import ProseCheck.Text.Basic

/-!
# UTF-8

Octets are natural numbers.  Writing gives each character one to four octets; reading is a
machine that takes one octet at a time and marks, for every character it completes, the
character, and for every maximal ill-formed stretch a single gap.
-/

namespace ProseCheck
namespace Utf8

/-- Number of octets of a character. -/
def width (char : Char) : Nat :=
  if char.toNat < 0x80 then 1
  else if char.toNat < 0x800 then 2
  else if char.toNat < 0x10000 then 3
  else 4

/-- Number of octets of a text. -/
def size : Text → Nat
  | [] => 0
  | char :: rest => width char + size rest

/-- Octets of a character. -/
def encodeChar (char : Char) : List Nat :=
  let code := char.toNat
  if code < 0x80 then [code]
  else if code < 0x800 then [0xC0 + code / 0x40, 0x80 + code % 0x40]
  else if code < 0x10000 then
    [0xE0 + code / 0x1000, 0x80 + code / 0x40 % 0x40, 0x80 + code % 0x40]
  else
    [0xF0 + code / 0x40000, 0x80 + code / 0x1000 % 0x40, 0x80 + code / 0x40 % 0x40,
      0x80 + code % 0x40]

/-- Octets of a text. -/
def encode (text : Text) : List Nat := text.flatMap encodeChar

/-- A character whose first octets were read. -/
structure Begun where
  /-- Code point bits read so far. -/
  value : Nat
  /-- Octets still owed. -/
  owed : Nat
  /-- Least octet that may come next. -/
  low : Nat
  /-- Greatest octet that may come next. -/
  high : Nat
deriving DecidableEq

/-- Marks and state after an octet that stands where a character begins. -/
def begin (octet : Nat) : List (Option Char) × Option Begun :=
  if octet < 0x80 then ([some (Char.ofNat octet)], none)
  else if octet < 0xC2 then ([none], none)
  else if octet < 0xE0 then ([], some ⟨octet - 0xC0, 1, 0x80, 0xBF⟩)
  else if octet = 0xE0 then ([], some ⟨0, 2, 0xA0, 0xBF⟩)
  else if octet = 0xED then ([], some ⟨0xD, 2, 0x80, 0x9F⟩)
  else if octet < 0xF0 then ([], some ⟨octet - 0xE0, 2, 0x80, 0xBF⟩)
  else if octet = 0xF0 then ([], some ⟨0, 3, 0x90, 0xBF⟩)
  else if octet < 0xF4 then ([], some ⟨octet - 0xF0, 3, 0x80, 0xBF⟩)
  else if octet = 0xF4 then ([], some ⟨4, 3, 0x80, 0x8F⟩)
  else ([none], none)

/-- Marks and state after one octet; an octet that cannot continue a character begins one. -/
def feed : Option Begun → Nat → List (Option Char) × Option Begun
  | none, octet => begin octet
  | some begun, octet =>
    if begun.low ≤ octet ∧ octet ≤ begun.high then
      let value := begun.value * 0x40 + (octet - 0x80)
      if begun.owed = 1 then ([some (Char.ofNat value)], none)
      else ([], some ⟨value, begun.owed - 1, 0x80, 0xBF⟩)
    else (none :: (begin octet).1, (begin octet).2)

/-- A mark for every character, and a gap for every maximal ill-formed stretch. -/
def marks : Option Begun → List Nat → List (Option Char)
  | none, [] => []
  | some _, [] => [none]
  | state, octet :: rest => (feed state octet).1 ++ marks (feed state octet).2 rest

/-- The text of well-formed octets. -/
def decode? (octets : List Nat) : Option Text := (marks none octets).mapM id

/-- The text of any octets, with U+FFFD for each gap. -/
def decodeLossy (octets : List Nat) : Text :=
  (marks none octets).map fun mark => mark.getD '\uFFFD'

@[simp]
theorem size_nil : size [] = 0 := rfl

@[simp]
theorem size_cons (char : Char) (text : Text) : size (char :: text) = width char + size text :=
  rfl

@[simp]
theorem size_append (left right : Text) : size (left ++ right) = size left + size right := by
  induction left with
  | nil => simp
  | cons char rest ih => simp [ih, Nat.add_assoc]

theorem width_pos (char : Char) : 0 < width char := by
  unfold width
  split <;> (try split) <;> (try split) <;> omega

@[simp]
theorem length_encodeChar (char : Char) : (encodeChar char).length = width char := by
  simp only [encodeChar, width]
  split <;> (try split) <;> (try split) <;> rfl

@[simp]
theorem encode_append (left right : Text) :
    encode (left ++ right) = encode left ++ encode right := by
  simp [encode]

@[simp]
theorem length_encode (text : Text) : (encode text).length = size text := by
  induction text with
  | nil => rfl
  | cons char rest ih => simp_all [encode]

end Utf8
end ProseCheck
