import ProseCheck.Yaml.Quoted

/-!
# Plain scalars

A scalar without quotes ends at a comment, at a colon before a gap, and where a line is indented
less than it must be; in a flow it also ends at the marks of the flow.  Line breaks count as they
do between quotes.
-/

namespace ProseCheck
namespace Yaml
namespace Plain

/-- Whether a plain scalar ends before `char` and what follows it. -/
def endsAt (inFlow : Bool) (char next : Char) : Bool :=
  isGap char
    || (char == ':' && (isGap next || (inFlow && [',', '[', ']', '{', '}'].contains next)))
    || (inFlow && [',', '?', '[', ']', '{', '}'].contains char)

/-- Characters of a text up to where a plain scalar ends. -/
def upToEnd (inFlow : Bool) : Text → Text
  | [] => []
  | char :: rest =>
    if endsAt inFlow char (rest.headD endMark) then [] else char :: upToEnd inFlow rest

/-- Whether a plain scalar starts with `char` before `next`. -/
def startsWith (inFlow : Bool) (char next : Char) : Bool :=
  !(isGap char || "-?:,[]\x7b\x7d#&*!|>\x27\"%@`".toList.contains char)
    || (!isGap next && (char == '-' || (!inFlow && (char == '?' || char == ':'))))

/-- Line breaks and spaces; none if a line follows that separates documents. -/
def breaks : Nat → Scan (Option Text)
  | 0 => pure (some [])
  | fuel + 1 => do
    let char ← Scan.peek
    if char == ' ' then
      Scan.skip 1
      breaks fuel
    else if isBreak char then
      let first ← Scan.lineBreak
      if (← get).isAtSeparator then return none
      return (← breaks fuel).map (first ++ ·)
    else return some []

/-- What stands between words, and whether a line break was passed.  Nothing stands between the
last word and what is not part of the scalar. -/
def spaces : Scan (Text × Bool) := do
  let blanks ← Scan.takeWhile (· == ' ')
  if isBreak (← Scan.peek) then
    let first ← Scan.lineBreak
    if (← get).isAtSeparator then return ([], true)
    match ← breaks (← Scan.fuel) with
    | none => return ([], true)
    | some more =>
      let start := if first != ['\n'] then first else if more.isEmpty then [' '] else []
      return (start ++ more, true)
  else return (blanks, false)

/-- Words of a scalar whose lines are indented by at least `indent`, where `gap` stands before
the next word; and whether the scalar ends after a line break. -/
def words (inFlow : Bool) (indent : Int) (gap : Text) (broken : Bool) : Nat → Scan (Text × Bool)
  | 0 => pure ([], broken)
  | fuel + 1 => do
    if (← Scan.peek) == '#' then return ([], broken)
    let word := upToEnd inFlow (← get).rest
    if word.isEmpty then return ([], broken)
    Scan.skip word.length
    let (next, broken) ← spaces
    let cursor ← get
    if next.isEmpty || cursor.peek 0 == '#' || (!inFlow && (cursor.column : Int) < indent) then
      return (gap ++ word, broken)
    let (others, broken) ← words inFlow indent next broken fuel
    return (gap ++ word ++ others, broken)

/-- The text of a plain scalar, and whether it ends after a line break. -/
def scan (inFlow : Bool) (indent : Int) : Scan (Text × Bool) := do
  words inFlow indent [] false (← Scan.fuel)

end Plain
end Yaml
end ProseCheck
