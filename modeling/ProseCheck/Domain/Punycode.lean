import ProseCheck.Text.Basic

/-!
# Labels in ASCII

A label beyond ASCII is written as its ASCII characters, a hyphen, and numerals that say where
the others are to be put.  Characters are put in by ascending code point, and each numeral tells
how many possible places are passed over since the last one.  The digits are the letters and then
the digits of ASCII, least digit first; thresholds that follow the size of the numbers so far
tell where a numeral ends.
-/

namespace ProseCheck
namespace Punycode

/-- The character of a digit below 36. -/
def digit (value : Nat) : Char :=
  if value < 26 then Char.ofNat ('a'.toNat + value) else Char.ofNat ('0'.toNat + (value - 26))

/-- Value of a digit in lower case. -/
def digitValue? (char : Char) : Option Nat :=
  if 'a' ≤ char && char ≤ 'z' then some (char.toNat - 'a'.toNat)
  else if '0' ≤ char && char ≤ '9' then some (char.toNat - '0'.toNat + 26)
  else none

/-- Least digit at a place, a multiple of 36, that does not end a numeral. -/
def threshold (place bias : Nat) : Nat :=
  if place ≤ bias then 1 else if bias + 26 ≤ place then 26 else place - bias

/-- Counts how often a number is divided by 35 until it is at most 455; each counts 36. -/
def scale (size counted : Nat) : Nat :=
  if 455 < size then scale (size / 35) (counted + 36) else counted + 36 * size / (size + 38)
termination_by size
decreasing_by exact Nat.div_lt_self (by omega) (by omega)

/-- Bias after a number, where `count` characters are in place. -/
def adapted (number count : Nat) (first : Bool) : Nat :=
  let damped := if first then number / 700 else number / 2
  scale (damped + damped / count) 0

theorem threshold_pos (place bias : Nat) : 1 ≤ threshold place bias := by
  unfold threshold
  split
  · omega
  · split <;> omega

/-- Digits of a number from a place on. -/
def numeral (bias place number : Nat) : Text :=
  let limit := threshold place bias
  if number < limit then [digit number]
  else
    digit (limit + (number - limit) % (36 - limit))
      :: numeral bias (place + 36) ((number - limit) / (36 - limit))
termination_by number
decreasing_by
  have := threshold_pos place bias
  have := Nat.div_le_self (number - threshold place bias) (36 - threshold place bias)
  omega

/-- What was written of a label. -/
structure Writing where
  /-- Numerals so far. -/
  written : Text
  /-- Places passed over since the last numeral. -/
  passed : Nat
  /-- Bias of the next numeral. -/
  bias : Nat
  /-- Characters that are in place. -/
  count : Nat

/-- Passes over a character of the label while those of a code point are put in. -/
def Writing.pass (basic code : Nat) (writing : Writing) (char : Char) : Writing :=
  if char.toNat < code then { writing with passed := writing.passed + 1 }
  else if char.toNat = code then
    { written := writing.written ++ numeral writing.bias 36 writing.passed
      passed := 0
      bias := adapted writing.passed (writing.count + 1) (writing.count == basic)
      count := writing.count + 1 }
  else writing

/-- Puts in characters of ascending code points, all from `next` on. -/
def Writing.fill (label : Text) (basic : Nat) : Nat → List Nat → Writing → Writing
  | _, [], writing => writing
  | next, code :: codes, writing =>
    let passed := writing.passed + (code - next) * (writing.count + 1)
    let writing := label.foldl (Writing.pass basic code) { writing with passed }
    Writing.fill label basic (code + 1) codes { writing with passed := writing.passed + 1 }

/-- A label in ASCII. -/
def encode (label : Text) : Text :=
  let basic := label.filter fun char => char.toNat < 0x80
  let codes := ((label.filter fun char => 0x80 ≤ char.toNat).map Char.toNat).mergeSort.eraseDups
  basic ++ (if basic.isEmpty then [] else ['-'])
    ++ (Writing.fill label basic.length 0x80 codes ⟨[], 0, 72, basic.length⟩).written

/-- Reads a numeral, whose digits so far come to `total`, and what follows it. -/
def readNumeral? (bias place weight total : Nat) : Text → Option (Nat × Text)
  | [] => none
  | char :: rest => do
    let value ← digitValue? char
    let limit := threshold place bias
    if value < limit then pure (total + value * weight, rest)
    else readNumeral? bias (place + 36) (weight * (36 - limit)) (total + value * weight) rest

theorem length_of_readNumeral? {bias place weight total number : Nat} {text rest : Text}
    (found : readNumeral? bias place weight total text = some (number, rest)) :
    rest.length < text.length := by
  induction text generalizing place weight total with
  | nil => simp [readNumeral?] at found
  | cons char after ih =>
    simp only [readNumeral?] at found
    cases value : digitValue? char with
    | none => simp [value] at found
    | some value =>
      simp only [value, Option.bind_eq_bind, Option.bind_some] at found
      split at found
      · simp_all
      · have := ih found
        simp
        omega

/-- Whether a number is the code point of a character. -/
def isCode (code : Nat) : Bool := code < 0xD800 || (0xDFFF < code && code < 0x110000)

/-- Puts characters among those in place, as numerals say; `place` is where the next one comes if
nothing is passed over. -/
def readFrom? (first : Bool) (bias code place : Nat) (done text : Text) : Option Text :=
  match text with
  | [] => some done
  | char :: rest =>
    match found : readNumeral? bias 36 1 0 (char :: rest) with
    | none => none
    | some (number, after) =>
      have := length_of_readNumeral? found
      let count := done.length + 1
      let code := code + (place + number) / count
      let place := (place + number) % count
      if isCode code then
        readFrom? false (adapted number count first) code (place + 1)
          (done.insertIdx place (Char.ofNat code)) after
      else none
termination_by text.length
decreasing_by exact length_of_readNumeral? found

/-- The label that a text in ASCII stands for. -/
def decode? (text : Text) : Option Text :=
  let numerals := (text.reverse.takeWhile (· != '-')).reverse
  let basic := text.take (text.length - numerals.length - 1)
  readFrom? true 72 0x80 0 basic numerals

end Punycode
end ProseCheck
