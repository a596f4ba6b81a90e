import ProseCheck.Text.Basic

/-!
# The SHA-256 digest

The digest of a message of octets, as sixty-four hexadecimal digits.  The message is padded to
whole blocks of 64 octets; each block is spread into a schedule of 64 words and mixed into the
state of eight words in 64 rounds.
-/

namespace ProseCheck
namespace Digest

/-- Initial state. -/
def initial : List UInt32 :=
  [0x6a09e667, 0xbb67ae85, 0x3c6ef372, 0xa54ff53a, 0x510e527f, 0x9b05688c, 0x1f83d9ab, 0x5be0cd19]

/-- Round constants. -/
def constants : Array UInt32 :=
  #[0x428a2f98, 0x71374491, 0xb5c0fbcf, 0xe9b5dba5, 0x3956c25b, 0x59f111f1, 0x923f82a4, 0xab1c5ed5,
    0xd807aa98, 0x12835b01, 0x243185be, 0x550c7dc3, 0x72be5d74, 0x80deb1fe, 0x9bdc06a7, 0xc19bf174,
    0xe49b69c1, 0xefbe4786, 0x0fc19dc6, 0x240ca1cc, 0x2de92c6f, 0x4a7484aa, 0x5cb0a9dc, 0x76f988da,
    0x983e5152, 0xa831c66d, 0xb00327c8, 0xbf597fc7, 0xc6e00bf3, 0xd5a79147, 0x06ca6351, 0x14292967,
    0x27b70a85, 0x2e1b2138, 0x4d2c6dfc, 0x53380d13, 0x650a7354, 0x766a0abb, 0x81c2c92e, 0x92722c85,
    0xa2bfe8a1, 0xa81a664b, 0xc24b8b70, 0xc76c51a3, 0xd192e819, 0xd6990624, 0xf40e3585, 0x106aa070,
    0x19a4c116, 0x1e376c08, 0x2748774c, 0x34b0bcb5, 0x391c0cb3, 0x4ed8aa4a, 0x5b9cca4f, 0x682e6ff3,
    0x748f82ee, 0x78a5636f, 0x84c87814, 0x8cc70208, 0x90befffa, 0xa4506ceb, 0xbef9a3f7, 0xc67178f2]

/-- Rotation to the right. -/
def rotate (word : UInt32) (count : UInt32) : UInt32 := (word >>> count) ||| (word <<< (32 - count))

/-- The eight octets of a length in bits, most significant first. -/
def lengthOctets (bits : Nat) : List Nat :=
  (List.range 8).map fun place => (bits >>> (8 * (7 - place))) % 256

/-- A message with a one bit, zeros up to eight octets short of a whole block, and its length. -/
def pad (message : List Nat) : List Nat :=
  let zeros := (119 - message.length % 64) % 64
  message ++ 0x80 :: List.replicate zeros 0 ++ lengthOctets (8 * message.length)

/-- Words of four octets, most significant first. -/
def words : List Nat → List UInt32
  | a :: b :: c :: d :: rest => UInt32.ofNat (((a * 256 + b) * 256 + c) * 256 + d) :: words rest
  | _ => []

/-- Blocks of sixteen words, at most `count` of them. -/
def blocks : Nat → List UInt32 → List (List UInt32)
  | 0, _ => []
  | count + 1, words => words.take 16 :: blocks count (words.drop 16)

/-- The next word of a schedule. -/
def nextWord (schedule : Array UInt32) : UInt32 :=
  let size := schedule.size
  let far := schedule.getD (size - 15) 0
  let near := schedule.getD (size - 2) 0
  let sigma0 := rotate far 7 ^^^ rotate far 18 ^^^ (far >>> 3)
  let sigma1 := rotate near 17 ^^^ rotate near 19 ^^^ (near >>> 10)
  schedule.getD (size - 16) 0 + sigma0 + schedule.getD (size - 7) 0 + sigma1

/-- Schedule of a block: its words and 48 more. -/
def schedule (block : List UInt32) : Array UInt32 :=
  (List.range 48).foldl (fun words _ => words.push (nextWord words)) block.toArray

/-- One round: the state after mixing in a constant and a word. -/
def round (state : List UInt32) (constant word : UInt32) : List UInt32 :=
  match state with
  | [a, b, c, d, e, f, g, h] =>
    let sum1 := rotate e 6 ^^^ rotate e 11 ^^^ rotate e 25
    let choice := (e &&& f) ^^^ (~~~e &&& g)
    let first := h + sum1 + choice + constant + word
    let sum0 := rotate a 2 ^^^ rotate a 13 ^^^ rotate a 22
    let majority := (a &&& b) ^^^ (a &&& c) ^^^ (b &&& c)
    [first + (sum0 + majority), a, b, c, d + first, e, f, g]
  | other => other

/-- The state after a block. -/
def compress (state block : List UInt32) : List UInt32 :=
  let words := schedule block
  let mixed := (List.range 64).foldl
    (fun mixed place => round mixed (constants.getD place 0) (words.getD place 0)) state
  List.zipWith (· + ·) state mixed

/-- Hexadecimal digits of a word. -/
def hex (word : UInt32) : Text :=
  (List.range 8).map fun place =>
    let digit := (word.toNat >>> (4 * (7 - place))) % 16
    if digit < 10 then Char.ofNat ('0'.toNat + digit) else Char.ofNat ('a'.toNat + (digit - 10))

/-- Digest of a message as hexadecimal digits. -/
def sha256 (message : List Nat) : Text :=
  let padded := pad message
  let state := (blocks (padded.length / 64) (words padded)).foldl compress initial
  state.flatMap hex

end Digest
end ProseCheck
