import ProseCheck.Bisect
import ProseCheck.Text.Basic

/-!
# Offsets in 16-bit units

Some servers count text in 16-bit code units, two for a character above U+FFFF.  A table of the
unit offset of every character turns such an offset into a character index; an offset inside a
character, below zero or beyond the end is moved to the next character or to the nearest end.
-/

namespace ProseCheck
namespace Units

/-- Number of 16-bit units of a character. -/
def width (char : Char) : Nat := if char.toNat > 0xFFFF then 2 else 1

/-- Number of 16-bit units of a text. -/
def size : Text → Nat
  | [] => 0
  | char :: rest => width char + size rest

/-- Unit offsets of the characters of a text that starts at unit `first`, and of its end. -/
def offsetsFrom (first : Nat) : Text → List Nat
  | [] => [first]
  | char :: rest => first :: offsetsFrom (first + width char) rest

/-- Unit offset of every character and, last, of the end. -/
def offsets (text : Text) : List Nat := offsetsFrom 0 text

/-- Index of the first character that starts at `offset` or later, at most the last index. -/
def charIndex (offsets : List Nat) (offset : Int) : Nat :=
  if offset ≤ 0 then 0 else min (Bisect.countBelow offsets offset.toNat) (offsets.length - 1)

@[simp]
theorem length_offsetsFrom (first : Nat) (text : Text) :
    (offsetsFrom first text).length = text.length + 1 := by
  induction text generalizing first with
  | nil => rfl
  | cons char rest ih => simp [offsetsFrom, ih]

@[simp]
theorem length_offsets (text : Text) : (offsets text).length = text.length + 1 :=
  length_offsetsFrom 0 text

theorem charIndex_le (text : Text) (offset : Int) :
    charIndex (offsets text) offset ≤ text.length := by
  unfold charIndex
  split
  · exact Nat.zero_le _
  · simp only [length_offsets]
    omega

end Units
end ProseCheck
