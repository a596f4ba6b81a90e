import ProseCheck.Text.Digits

/-!
# Ranges of code points

A class of characters as a list of closed ranges of code points, in ascending order.  A large
class is written in lines such as `2D 30-39 61-7A`: hexadecimal code points and ranges of them.
-/

namespace ProseCheck

/-- Closed ranges of code points. -/
abbrev Ranges := List (Nat × Nat)

namespace Ranges

/-- Whether a code point lies in one of the ranges. -/
def holds (ranges : Ranges) (code : Nat) : Bool :=
  ranges.any fun range => range.1 ≤ code && code ≤ range.2

/-- Whether the class holds a character. -/
def holdsChar (ranges : Ranges) (char : Char) : Bool := ranges.holds char.toNat

/-- The range that a word stands for. -/
def range? (word : Text) : Option (Nat × Nat) := do
  let (first, last) := (Text.cut? ['-'] word).getD (word, word)
  if first.isEmpty || last.isEmpty then none
  else pure (← Text.hexNumber? first, ← Text.hexNumber? last)

/-- The ranges that lines list. -/
def ofLines (lines : List String) : Ranges :=
  lines.flatMap fun line => (Text.splitOn ' ' line.toList).filterMap range?

/-- Whether ranges ascend and stand apart. -/
def areAscending : Ranges → Bool
  | [] => true
  | [range] => range.1 ≤ range.2
  | range :: next :: rest =>
    range.1 ≤ range.2 && range.2 + 1 < next.1 && areAscending (next :: rest)

end Ranges
end ProseCheck
