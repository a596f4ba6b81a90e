import ProseCheck.Text.Digits
import ProseCheck.Text.Utf8
import ProseCheck.Yaml.Cursor

/-!
# Names, tags and directives

An anchor or alias is a name after its mark.  A tag says what a node stands for: it is written out
between angle brackets, or starts with a handle, which stands for what a directive says.
-/

namespace ProseCheck
namespace Yaml

/-- A tag as it is written: its handle, if it has one, and what follows. -/
structure TagForm where
  /-- The handle. -/
  handle : Option Text
  /-- What follows. -/
  ending : Text
deriving DecidableEq, Repr

/-- A line that tells how to read the document below. -/
inductive Directive where
  /-- The version of the format. -/
  | version (major : Nat)
  /-- What a handle of tags stands for. -/
  | handle (handle meaning : Text)
  /-- Any other line. -/
  | other
deriving DecidableEq, Repr

namespace Scan

/-- The name of an anchor or alias after its mark. -/
def name : Scan Text := do
  skip 1
  let name ← takeWhile isNameChar
  require !name.isEmpty
  let char ← peek
  require (isGap char || "?:,]\x7d%@`".toList.contains char)
  return name

/-- Octets written with percent signs. -/
def octets : Nat → Scan (List Nat)
  | 0 => pure []
  | fuel + 1 => do
    if (← peek) == '%' then
      skip 1
      let digits := (← get).rest.take 2
      match digits, Text.hexNumber? digits with
      | [_, _], some octet =>
        skip 2
        return octet :: (← octets fuel)
      | _, _ => fail
    else return []

/-- Characters of a tag; those beyond ASCII are written as octets. -/
def tagTextFrom : Nat → Scan Text
  | 0 => pure []
  | fuel + 1 => do
    let plain ← takeWhile fun char => isTagChar char && char != '%'
    if (← peek) == '%' then
      match Utf8.decode? (← octets (← Scan.fuel)) with
      | some chars => return plain ++ chars ++ (← tagTextFrom fuel)
      | none => fail
    else return plain

/-- Characters of a tag, at least one. -/
def tagText : Scan Text := do
  let start := (← get).index
  let text ← tagTextFrom (← Scan.fuel)
  require ((← get).index != start)
  return text

/-- A handle: one mark, or a name between two. -/
def tagHandle : Scan Text := do
  require ((← peek) == '!')
  if (← peekAt 1) == ' ' then
    skip 1
    return ['!']
  skip 1
  let name ← takeWhile isNameChar
  require ((← peek) == '!')
  skip 1
  return '!' :: (name ++ ['!'])

/-- Whether a tag goes on to a second mark. -/
def hasHandle (rest : Text) : Bool :=
  (rest.takeWhile fun char => !isSpaceOrEnd char).contains '!'

/-- A tag. -/
def tag : Scan TagForm := do
  let char ← peekAt 1
  let form ←
    if char == '<' then do
      skip 2
      let text ← tagText
      require ((← peek) == '>')
      skip 1
      pure ⟨none, text⟩
    else if isGap char then do
      skip 1
      pure ⟨none, ['!']⟩
    else if hasHandle ((← get).rest.drop 1) then do
      let handle ← tagHandle
      pure ⟨some handle, ← tagText⟩
    else do
      skip 1
      pure ⟨some ['!'], ← tagText⟩
  require (isSpaceOrEnd (← peek))
  return form

/-- A whole number in digits. -/
def wholeNumber : Scan Nat := do
  let digits ← takeWhile Char.isDigit
  require !digits.isEmpty
  return digits.foldl (fun total char => total * 10 + (char.toNat - '0'.toNat)) 0

/-- A directive after its mark. -/
def directive : Scan Directive := do
  skip 1
  let name ← takeWhile isNameChar
  require (!name.isEmpty && isSpaceOrEnd (← peek))
  let directive ←
    if name == "YAML".toList then do
      skipWhile (· == ' ')
      let major ← wholeNumber
      require ((← peek) == '.')
      skip 1
      let _ ← wholeNumber
      require (isSpaceOrEnd (← peek))
      pure (.version major)
    else if name == "TAG".toList then do
      skipWhile (· == ' ')
      let handle ← tagHandle
      require ((← peek) == ' ')
      skipWhile (· == ' ')
      let meaning ← tagText
      require (isSpaceOrEnd (← peek))
      pure (.handle handle meaning)
    else do
      skipWhile fun char => !isLineEnd char
      pure .other
  ignoredLine
  return directive

end Scan
end Yaml
end ProseCheck
