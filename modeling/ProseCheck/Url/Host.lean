import ProseCheck.Domain.Label
import ProseCheck.Text.Digits
import ProseCheck.Text.Lower

/-!
# Hosts

A host is a name or an address.  What looks like an address of four numbers, or stands in
brackets, has to be one; other names are brought to lower case, and those beyond ASCII are
written in ASCII.
-/

namespace ProseCheck
namespace Host

/-- Whether a host looks like four numbers with a character between each two of them. -/
def looksNumeric (host : Text) : Bool :=
  let runs := (host.splitBy fun left right => left.isDigit && right.isDigit).filter
    (·.all Char.isDigit)
  let others := host.length - runs.foldl (fun total run => total + run.length) 0
  let most := runs.foldl (fun total run => total + (run.length + 1) / 2) 0
  runs.length == others + 1 && others ≤ 3 && 4 ≤ most

/-- Whether a text is a number below 256, without zeros before it. -/
def isOctet (text : Text) : Bool :=
  match text with
  | [] => false
  | first :: rest =>
    text.all Char.isDigit && rest.length ≤ 2 && (rest.isEmpty || first != '0')
      && ((String.ofList text).toNat?.getD 256) < 256

/-- Whether a text is an address of four numbers. -/
def isShortAddress (text : Text) : Bool :=
  let parts := Text.splitOn '.' text
  parts.length == 4 && parts.all isOctet

/-- Whether a text is one of the numbers of a long address. -/
def isGroup (text : Text) : Bool :=
  !text.isEmpty && text.length ≤ 4 && text.all fun char => (Text.hexValue? char).isSome

/-- Parts between colons, with a short address at the end counted as two groups. -/
def groups (text : Text) : List Text :=
  let parts := Text.splitOn ':' text
  let last := parts.getLastD []
  if isShortAddress last then parts.dropLast ++ [['0'], ['0']] else parts

/-- Whether groups are eight; a run of zeros may be left out once, between two colons. -/
def areEight (groups : List Text) : Bool :=
  let inner := (groups.drop 1).dropLast
  match inner.findIdx? List.isEmpty with
  | none => groups.length == 8 && groups.all isGroup
  | some place =>
    let before := groups.take (place + 1)
    let after := groups.drop (place + 2)
    let before := if before = [[]] then [] else before
    let after := if after = [[]] then [] else after
    before.all isGroup && after.all isGroup && before.length + after.length ≤ 7

/-- Whether a text is a long address, which may name a zone after a percent sign. -/
def isLongAddress (text : Text) : Bool :=
  let (address, isZoned) :=
    match Text.cut? ['%'] text with
    | some (address, zone) => (address, !zone.isEmpty && !zone.contains '%')
    | none => (text, true)
  isZoned && 3 ≤ (Text.splitOn ':' address).length && areEight (groups address)

/-- Letters, digits and the four marks that are safe in every place of a URL. -/
def isUnreserved (char : Char) : Bool := char.isAlphanum || "-._~".toList.contains char

/-- Whether a character may stand in a name. -/
def isSafe (char : Char) : Bool :=
  isUnreserved char || "!$&\x27()*+,;=\"\x60\x7b\x7d%|\\".toList.contains char

/-- The host as it is written; none if it is out of order. -/
def normal? (host : Text) : Option Text :=
  if host.isEmpty then some []
  else if looksNumeric host then
    if isShortAddress host then some host else none
  else if host.head? = some '[' ∧ host.getLast? = some ']' then
    let inner := (host.drop 1).dropLast
    if isLongAddress inner then some inner else none
  else if host.all fun char => char.toNat < 0x80 then
    some (Percent.encode isSafe (host.map Char.toLower))
  else Domain.asciiName? (Lower.ofText host)

end Host
end ProseCheck
