/-!
# The double nearest to a decimal

Reading a decimal exactly: the value is a quotient of two naturals, and the answer is the double
nearest to it, the even one when two are equally near.
-/

namespace ProseCheck
namespace Decimal

/-- The natural nearest to a quotient; a half goes to the even neighbour. -/
def roundHalfEven (numerator denominator : Nat) : Nat :=
  let quotient := numerator / denominator
  let rest := 2 * (numerator % denominator)
  if rest > denominator ∨ (rest = denominator ∧ quotient % 2 = 1) then quotient + 1 else quotient

/-- Binary exponent of a positive quotient: the greatest power of two that it reaches. -/
def binaryExponent (numerator denominator : Nat) : Int :=
  let guess : Int := (numerator.log2 : Int) - (denominator.log2 : Int)
  let reached :=
    if guess < 0 then numerator <<< (-guess).toNat ≥ denominator
    else numerator ≥ denominator <<< guess.toNat
  if reached then guess else guess - 1

/-- Bits of infinity; every smaller pattern is a finite magnitude. -/
def infinityBits : Nat := 0x7FF0000000000000

/-- Bits of the double nearest to a quotient.  Significand and exponent are added rather than
joined, so a significand that rounds up to the next power of two carries into the exponent. -/
def nearestBits (numerator denominator : Nat) : Nat :=
  if numerator = 0 then 0
  else
    let scale := max (binaryExponent numerator denominator - 52) (-1074)
    let significand :=
      if scale < 0 then roundHalfEven (numerator <<< (-scale).toNat) denominator
      else roundHalfEven numerator (denominator <<< scale.toNat)
    min infinityBits (((scale + 1074).toNat <<< 52) + significand)

/-- The double with a sign nearest to `significand * 10 ^ exponent`. -/
def nearest (negative : Bool) (significand : Nat) (exponent : Int) : Float :=
  let digits : Int := (Nat.toDigits 10 significand).length
  let bits :=
    if significand = 0 ∨ digits + exponent < -330 then 0
    else if digits + exponent > 310 then infinityBits
    else if exponent < 0 then nearestBits significand (Nat.pow 10 (-exponent).toNat)
    else nearestBits (significand * Nat.pow 10 exponent.toNat) 1
  Float.ofBits (UInt64.ofNat (if negative then bits + 0x8000000000000000 else bits))

/-- The double nearest to an integer. -/
def ofInt (value : Int) : Float := nearest (value < 0) value.natAbs 0

end Decimal
end ProseCheck

/-!
## Whole parts of doubles

The integer that a double is, and the one it has before its point.
-/

namespace ProseCheck
namespace Decimal

/-- Sign, whole part of the magnitude, and whether anything follows the point; none for infinity
and for what is no number. -/
def parts? (value : Float) : Option (Bool × Nat × Bool) :=
  let bits := value.toBits.toNat
  let biased := (bits >>> 52) % 0x800
  let fraction := bits % 0x10000000000000
  let negative := bits >>> 63 = 1
  if biased = 2047 then none
  else
    let significand := if biased = 0 then fraction else 0x10000000000000 + fraction
    let shift := max biased 1
    if shift ≥ 1075 then some (negative, significand <<< (shift - 1075), false)
    else
      let unit := 1 <<< (1075 - shift)
      some (negative, significand / unit, significand % unit ≠ 0)

/-- The integer before the point of a finite double. -/
def truncate? (value : Float) : Option Int :=
  (parts? value).map fun (negative, whole, _) => if negative then -(whole : Int) else whole

/-- The integer that a double is. -/
def integer? (value : Float) : Option Int :=
  match parts? value with
  | some (negative, whole, false) => some (if negative then -(whole : Int) else whole)
  | _ => none

end Decimal
end ProseCheck
