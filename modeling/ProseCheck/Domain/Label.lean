import ProseCheck.Domain.Characters
import ProseCheck.Domain.Punycode
import ProseCheck.Text.Composition

/-!
# Labels of domain names

A label in order has no hyphens at its ends and none at both its third and fourth place, starts
with no mark, is composed, and holds characters that may stand where they do.  One that runs from
right to left keeps to the directions of its characters.  Beyond ASCII a label is written in
ASCII after `xn--`.
-/

namespace ProseCheck
namespace Domain

/-- Whether a test holds at every character: of what stands before it, last character first, of
the character, and of what follows it. -/
def everywhere (test : Text → Char → Text → Bool) (before : Text) : Text → Bool
  | [] => true
  | char :: rest => test before char rest && everywhere test (char :: before) rest

/-- Whether no hyphen stands where none may. -/
def hasFreeEnds (label : Text) : Bool :=
  (label.drop 2).take 2 != ['-', '-'] && label.head? != some '-' && label.getLast? != some '-'

/-- Whether a text ends in a mark that silences a vowel; its last character comes first. -/
def endsSilenced (before : Text) : Bool := (before.head?.map viramas.holdsChar).getD false

/-- Whether the first character that is not transparent joins one beside it. -/
def joins (joining : Ranges) (text : Text) : Bool :=
  match (text.dropWhile transparent.holdsChar).head? with
  | some char => joining.holdsChar char || joiningBoth.holdsChar char
  | none => false

/-- Whether a character that is not valid everywhere may stand at a place of a label. -/
def fits (label before : Text) (char : Char) (rest : Text) : Bool :=
  let has (first last : Char) := label.any fun char => first ≤ char && char ≤ last
  let isIn (letters : Ranges) (char : Option Char) := (char.map letters.holdsChar).getD false
  if char = '\u200c' then
    endsSilenced before || (joins joiningLeft before && joins joiningRight rest)
  else if char = '\u200d' then endsSilenced before
  else if char = '\u00b7' then before.head? == some 'l' && rest.head? == some 'l'
  else if char = '\u0375' then isIn greek rest.head?
  else if char = '\u05f3' || char = '\u05f4' then isIn hebrew before.head?
  else if char = '\u30fb' then label.any kana.holdsChar
  else if '\u0660' ≤ char && char ≤ '\u0669' then !has '\u06f0' '\u06f9'
  else if '\u06f0' ≤ char && char ≤ '\u06f9' then !has '\u0660' '\u0669'
  else false

/-- Whether all characters may stand where they do. -/
def isFitting (label : Text) : Bool :=
  everywhere (fun before char rest => valid.holdsChar char || fits label before char rest) [] label

/-- Whether a label needs directions in order. -/
def isTwoWay (label : Text) : Bool :=
  label.any fun char => rightToLeft.holdsChar char || arabicNumbers.holdsChar char

/-- Whether a character runs from left to right of its own. -/
def isLeftToRight (char : Char) : Bool :=
  !(rightToLeft.holdsChar char || arabicNumbers.holdsChar char || europeanNumbers.holdsChar char
    || nonspacing.holdsChar char || undirected.holdsChar char)

/-- Whether a label starts and ends from right to left, numbers apart, and all of it can run so. -/
def isDirected (label : Text) : Bool :=
  let last := (label.reverse.dropWhile nonspacing.holdsChar).head?
  (label.head?.map rightToLeft.holdsChar).getD false
    && !label.any isLeftToRight
    && !(label.any europeanNumbers.holdsChar && label.any arabicNumbers.holdsChar)
    && (last.map fun char => !undirected.holdsChar char).getD false

/-- Most characters of a label in ASCII. -/
def labelLimit : Nat := 63

/-- Whether a label is in order. -/
def isInOrder (label : Text) : Bool :=
  label.length ≤ labelLimit && hasFreeEnds label
    && (label.head?.map fun first => !marks.holdsChar first).getD false
    && isFitting label && (!isTwoWay label || isDirected label)
    && Composition.isComposed label

/-- What a label in ASCII starts with that stands for one beyond it. -/
def sign : Text := "xn--".toList

/-- Whether a label in ASCII is in order, and what it stands for too. -/
def isPlain (label : Text) : Bool :=
  if sign.isPrefixOf label then
    label.getLast? != some '-' && label.length ≤ labelLimit
      && ((Punycode.decode? (label.drop sign.length)).map isInOrder).getD false
  else isInOrder label

/-- A label in ASCII; none if it is out of order. -/
def asciiLabel? (label : Text) : Option Text :=
  if label.all fun char => char.toNat < 0x80 then
    if isPlain label then some label else none
  else if isInOrder label then
    let written := sign ++ Punycode.encode label
    if written.length ≤ labelLimit then some written else none
  else none

/-- Points that separate labels. -/
def isPoint (char : Char) : Bool :=
  char == '.' || char == '\u3002' || char == '\uff0e' || char == '\uff61'

/-- Most characters of a name in ASCII, but for a point at its end. -/
def nameLimit : Nat := 253

/-- A name in ASCII; none if it is out of order. -/
def asciiName? (name : Text) : Option Text := do
  let labels := Text.splitOn '.' (name.map fun char => if isPoint char then '.' else char)
  let (labels, ending) :=
    if labels.getLast? = some [] then (labels.dropLast, ['.']) else (labels, [])
  let written := ['.'].intercalate (← labels.mapM asciiLabel?)
  if nameLimit < written.length then none else pure (written ++ ending)

end Domain
end ProseCheck
