import ProseCheck.Text.Numeral

/-!
# The shortest decimal of a double

Writing a double: of all decimals that read back as the double, one with the fewest digits, and
of those the nearest.  A double stands for the interval of reals that round to it; for one,
two, … digits the two neighbours of the value on that decimal grid are tried, and the first grid
with a neighbour in the interval wins.
-/

namespace ProseCheck
namespace Decimal

/-- A finite positive double: `significand * 2 ^ exponent`, and whether the gap below it is half
the gap above it. -/
structure Magnitude where
  /-- Significand of at most 53 bits. -/
  significand : Nat
  /-- Binary exponent. -/
  exponent : Int
  /-- The double is a power of two above the least normal one. -/
  narrowBelow : Bool

/-- Magnitude of the bits of a finite double. -/
def Magnitude.ofBits (bits : Nat) : Magnitude :=
  let biased : Nat := (bits >>> 52) % 0x800
  let fraction : Nat := bits % 0x10000000000000
  if biased = 0 then ⟨fraction, -1074, false⟩
  else ⟨0x10000000000000 + fraction, (biased : Int) - 1075, fraction == 0 && biased > 1⟩

/-- Digits of a decimal: it is `0.d₁d₂… * 10 ^ point`. -/
structure Digits where
  /-- Digits without leading or trailing zeros, as one number. -/
  number : Nat
  /-- Place of the decimal point. -/
  point : Int
deriving DecidableEq

namespace Magnitude

/-- `factor * 2 ^ (exponent - 2)` compared with `grid * 10 ^ place`, both made whole. -/
def sides (magnitude : Magnitude) (place : Int) (factor grid : Nat) : Nat × Nat :=
  let shift := magnitude.exponent - 2
  ((factor <<< shift.toNat) * Nat.pow 10 (-place).toNat,
    (grid <<< (-shift).toNat) * Nat.pow 10 place.toNat)

/-- Whether a grid point rounds to the double; both ends count for an even significand. -/
def accepts (magnitude : Magnitude) (place : Int) (grid : Nat) : Bool :=
  let below := 4 * magnitude.significand - (if magnitude.narrowBelow then 1 else 2)
  let above := 4 * magnitude.significand + 2
  let (low, point) := magnitude.sides place below grid
  let (high, _) := magnitude.sides place above grid
  if magnitude.significand % 2 = 0 then low ≤ point && point ≤ high
  else low < point && point < high

/-- The grid point at or below the double. -/
def gridBelow (magnitude : Magnitude) (place : Int) : Nat :=
  let (value, unit) := magnitude.sides place (4 * magnitude.significand) 1
  value / unit

/-- Whether the grid point above is nearer to the double than the one below; a tie goes to the
even one. -/
def nearerAbove (magnitude : Magnitude) (place : Int) (below : Nat) : Bool :=
  let (value, unit) := magnitude.sides place (4 * magnitude.significand) 1
  let rest := 2 * (value - below * unit)
  rest > unit || (rest == unit && below % 2 == 1)

/-- The accepted neighbour on a grid, the nearer of two. -/
def neighbour? (magnitude : Magnitude) (place : Int) : Option Nat :=
  let below := magnitude.gridBelow place
  match magnitude.accepts place below, magnitude.accepts place (below + 1) with
  | true, true => some (if magnitude.nearerAbove place below then below + 1 else below)
  | true, false => some below
  | false, true => some (below + 1)
  | false, false => none

/-- Place of the decimal point of the double: the least `point` with the value below
`10 ^ point`. -/
def point (magnitude : Magnitude) : Int :=
  let estimate : Int := ((magnitude.significand.log2 : Int) + magnitude.exponent) * 30103 / 100000
  let candidates := [estimate - 1, estimate, estimate + 1, estimate + 2]
  (candidates.find? fun place => magnitude.gridBelow place == 0).getD (estimate + 3)

/-- Shortest digits from a grid of `count` digits on, `left` grids being tried. -/
def shortestFrom (magnitude : Magnitude) (point : Int) (count : Nat) : Nat → Nat × Int
  | 0 => (magnitude.gridBelow (point - count), point - count)
  | left + 1 =>
    match magnitude.neighbour? (point - count) with
    | some grid => (grid, point - count)
    | none => shortestFrom magnitude point (count + 1) left

/-- A number without its trailing zeros, and how many were cut. -/
def dropZeros (fuel number : Nat) : Nat × Nat :=
  match fuel with
  | 0 => (number, 0)
  | fuel + 1 =>
    if number ≠ 0 ∧ number % 10 = 0 then
      let (rest, cut) := dropZeros fuel (number / 10)
      (rest, cut + 1)
    else (number, 0)

/-- Shortest digits of a positive double. -/
def digits (magnitude : Magnitude) : Digits :=
  let (grid, place) := shortestFrom magnitude magnitude.point 1 17
  let (number, cut) := dropZeros 20 grid
  ⟨number, place + cut + (Nat.toDigits 10 number).length⟩

end Magnitude

/-- Zeros. -/
def zeros (count : Int) : Text := List.replicate count.toNat '0'

/-- Positional from 0.0001 to below 10 ^ 16, with at least one digit after the point; else one
digit, a point if more follow, and a signed exponent of at least two digits. -/
def Digits.write (digits : Digits) : Text :=
  let written := Numeral.digits digits.number
  let count : Int := written.length
  if -4 < digits.point ∧ digits.point ≤ 16 then
    if digits.point ≤ 0 then '0' :: '.' :: zeros (-digits.point) ++ written
    else if count ≤ digits.point then written ++ zeros (digits.point - count) ++ ['.', '0']
    else written.take digits.point.toNat ++ '.' :: written.drop digits.point.toNat
  else
    let exponent := digits.point - 1
    let places := Numeral.digits exponent.natAbs
    let mantissa := if count ≤ 1 then written else written.take 1 ++ '.' :: written.drop 1
    mantissa ++ 'e' :: (if exponent < 0 then '-' else '+') ::
      (if places.length < 2 then '0' :: places else places)

/-- Text of a double; `infinity` and `nan` name the values that have no digits. -/
def write (infinity nan : Text) (value : Float) : Text :=
  let bits := value.toBits.toNat
  let negative := bits >>> 63 = 1
  let magnitude := bits % 0x8000000000000000
  let unsigned :=
    if magnitude > 0x7FF0000000000000 then nan
    else if magnitude = 0x7FF0000000000000 then infinity
    else if magnitude = 0 then ['0', '.', '0']
    else (Magnitude.ofBits magnitude).digits.write
  if negative ∧ magnitude ≤ 0x7FF0000000000000 then '-' :: unsigned else unsigned

end Decimal
end ProseCheck
