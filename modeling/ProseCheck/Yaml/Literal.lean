import ProseCheck.Yaml.Cursor

/-!
# Block scalars

A scalar of whole lines below its mark, each indented alike.  A literal one keeps its line breaks;
in a folded one the break between two lines that start with no blank counts as a space.  A header
says what becomes of the breaks at the end, and may give the indentation.
-/

namespace ProseCheck
namespace Yaml
namespace Literal

/-- What becomes of the line breaks at the end. -/
inductive Ending where
  /-- One is kept. -/
  | clip
  /-- None is kept. -/
  | strip
  /-- All are kept. -/
  | keep
deriving DecidableEq, Repr

/-- Header of a block scalar. -/
structure Header where
  /-- What becomes of the line breaks at the end. -/
  ending : Ending
  /-- Columns that lines are indented more than what holds the scalar. -/
  extra : Option Nat
deriving DecidableEq, Repr

/-- The sign for the end, if it is next. -/
def ending : Scan (Option Ending) := do
  match ← Scan.peek with
  | '+' => Scan.skip 1; return some .keep
  | '-' => Scan.skip 1; return some .strip
  | _ => return none

/-- The digit of the indentation, if it is next; it is not zero. -/
def extra : Scan (Option Nat) := do
  let char ← Scan.peek
  if char.isDigit then
    Scan.require (char != '0')
    Scan.skip 1
    return some (char.toNat - '0'.toNat)
  else return none

/-- The header, whose two parts come in any order. -/
def header : Scan Header := do
  let before ← ending
  let found ← extra
  let after ← if before.isNone && found.isSome then ending else pure none
  Scan.require (isSpaceOrEnd (← Scan.peek))
  return ⟨(before.or after).getD .clip, found⟩

/-- Passes spaces while the column is less than `indent`. -/
def skipTo (indent : Nat) : Scan Unit := do
  let cursor ← get
  let spaces := (cursor.rest.takeWhile (· == ' ')).length
  Scan.skip (min spaces (indent - cursor.column))

/-- Passes line breaks and spaces, and gives the breaks and the greatest column. -/
def indentation (widest : Nat) : Nat → Scan (Text × Nat)
  | 0 => pure ([], widest)
  | fuel + 1 => do
    let char ← Scan.peek
    if char == ' ' then
      Scan.skip 1
      indentation (max widest (← get).column) fuel
    else if isBreak char then
      let first ← Scan.lineBreak
      let (others, widest) ← indentation widest fuel
      return (first ++ others, widest)
    else return ([], widest)

/-- Line breaks of empty lines. -/
def breaksFrom (indent : Nat) : Nat → Scan Text
  | 0 => pure []
  | fuel + 1 => do
    if isBreak (← Scan.peek) then
      let first ← Scan.lineBreak
      skipTo indent
      return first ++ (← breaksFrom indent fuel)
    else return []

/-- Line breaks of empty lines, and the indentation of the next line. -/
def breaks (indent : Nat) : Scan Text := do
  skipTo indent
  breaksFrom indent (← Scan.fuel)

/-- Whether a line of the scalar follows. -/
def hasLine (indent : Nat) : Scan Bool := do
  let cursor ← get
  return cursor.column == indent && cursor.peek 0 != endMark

/-- Lines of the scalar, after the breaks of empty lines before them; and the last break with the
breaks of empty lines after it. -/
def lines (isFolded : Bool) (indent : Nat) (empty : Text) : Nat → Scan (Text × Text × Text)
  | 0 => pure ([], [], empty)
  | fuel + 1 => do
    let isBlank (char : Char) := char == ' ' || char == '\t'
    let startsBlank := isBlank (← Scan.peek)
    let line ← Scan.takeWhile fun char => !isLineEnd char
    let lineBreak ← Scan.lineBreak
    let next ← breaks indent
    if ← hasLine indent then
      let folds := isFolded && lineBreak == ['\n'] && !startsBlank && !isBlank (← Scan.peek)
      let between := if !folds then lineBreak else if next.isEmpty then [' '] else []
      let (others, last) ← lines isFolded indent next fuel
      return (empty ++ line ++ between ++ others, last)
    else return (empty ++ line, lineBreak, next)

/-- The text of a block scalar in what is indented by `outer`. -/
def scan (isFolded : Bool) (outer : Int) : Scan Text := do
  Scan.skip 1
  let header ← header
  Scan.ignoredLine
  let least := max 1 (outer + 1).toNat
  let (empty, indent) ←
    match header.extra with
    | none => do
      let (empty, widest) ← indentation 0 (← Scan.fuel)
      pure (empty, max least widest)
    | some extra => do
      let indent := least + extra - 1
      pure (← breaks indent, indent)
  let (text, lineBreak, after) ←
    if ← hasLine indent then lines isFolded indent empty (← Scan.fuel)
    else pure ([], [], empty)
  return text ++ (if header.ending == .strip then [] else lineBreak)
    ++ (if header.ending == .keep then after else [])

end Literal
end Yaml
end ProseCheck
