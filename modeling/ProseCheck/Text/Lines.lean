import ProseCheck.Text.Basic

/-!
# Lines

A line ends with a terminator: a line feed, a carriage return, the pair of both, a vertical tab,
a form feed, one of three information separators, or one of the three Unicode line ends.
-/

namespace ProseCheck
namespace Lines

/-- Whether a character ends a line. -/
def isTerminator (char : Char) : Bool :=
  let code := char.toNat
  (10 ≤ code && code ≤ 13) || (0x1C ≤ code && code ≤ 0x1E) || code == 0x85 || code == 0x2028
    || code == 0x2029

/-- Lines with their terminators; a last line without one counts if it is not empty. -/
def split : Text → List Text
  | [] => []
  | '\r' :: '\n' :: rest => ['\r', '\n'] :: split rest
  | char :: rest =>
    if isTerminator char then [char] :: split rest
    else
      match split rest with
      | [] => [[char]]
      | line :: lines => (char :: line) :: lines

/-- The text with every carriage return, alone or before a line feed, made a line feed. -/
def unifyReturns : Text → Text
  | [] => []
  | '\r' :: '\n' :: rest => '\n' :: unifyReturns rest
  | '\r' :: rest => '\n' :: unifyReturns rest
  | char :: rest => char :: unifyReturns rest

@[simp]
theorem flatten_split (text : Text) : (split text).flatten = text := by
  fun_induction split text <;> simp_all

end Lines
end ProseCheck
