import ProseCheck.Emoji.Table
import ProseCheck.Text.Blank
import ProseCheck.Text.Digits
import ProseCheck.Text.Lower

/-!
# Emoji

A name between colons stands for its emoji, as in `:smile:`; case does not count.  Some names may
go on with a tone of skin, which is put behind the first character, and every name may end in
`-emoji` or `-text`, which asks for a picture or for a plain sign.  A name that is unknown stands
for itself, colons and all.
-/

namespace ProseCheck
namespace Emoji

/-- An emoji under a name. -/
structure Entry where
  /-- The name. -/
  name : String
  /-- The emoji. -/
  chars : Text
  /-- Whether it can be shown in a tone of skin. -/
  takesTone : Bool

/-- The entry that a word of the table gives. -/
def entry? (word : Text) : Option Entry := do
  let (name, codes) ← Text.cut? ['='] word
  let codes ← (Text.splitOn '+' (Text.dropRight '~' codes)).mapM Text.hexNumber?
  pure ⟨String.ofList name, codes.map Char.ofNat, word.getLast? == some '~'⟩

/-- All emoji. -/
def entries : List Entry :=
  lines.flatMap fun line => (Text.splitOn ' ' line.toList).filterMap entry?

/-- Endings of names that tell a tone of skin, and the characters of the tones. -/
def tones : List (Text × Char) :=
  [("_medium-light_skin_tone".toList, Char.ofNat 0x1F3FC),
    ("_medium-dark_skin_tone".toList, Char.ofNat 0x1F3FE),
    ("_light_skin_tone".toList, Char.ofNat 0x1F3FB),
    ("_medium_skin_tone".toList, Char.ofNat 0x1F3FD),
    ("_dark_skin_tone".toList, Char.ofNat 0x1F3FF)]

/-- Sign that asks for a picture. -/
def pictureSign : Char := '\ufe0f'

/-- Sign that asks for plain text. -/
def textSign : Char := '\ufe0e'

/-- An emoji in a tone of skin. -/
def toned (tone : Char) : Text → Text
  | first :: second :: rest =>
    if second = pictureSign then first :: tone :: rest else first :: tone :: second :: rest
  | chars => chars ++ [tone]

/-- What stands before an ending, if a text has it. -/
def before? (ending text : Text) : Option Text :=
  if ending.isSuffixOf text then some (text.take (text.length - ending.length)) else none

/-- The emoji of a name in lower case. -/
def find? (name : Text) : Option Text :=
  let written := String.ofList name
  match entries.find? fun entry => entry.name == written with
  | some entry => some entry.chars
  | none => do
    let (base, tone) ← tones.findSome? fun (ending, tone) =>
      (before? ending name).map fun base => (String.ofList base, tone)
    let entry ← entries.find? fun entry => entry.takesTone && entry.name == base
    pure (toned tone entry.chars)

/-- The emoji of what stands between colons. -/
def ofCode? (code : Text) : Option Text :=
  let (name, sign) :=
    match before? "-emoji".toList code, before? "-text".toList code with
    | some name, _ => (name, [pictureSign])
    | none, some name => (name, [textSign])
    | none, none => (code, [])
  (find? (Lower.ofText name)).map (· ++ sign)

/-- Whether a character may stand between colons. -/
def isInCode (char : Char) : Bool := char != ':' && !Text.isBlank char

/-- The text with emoji in place of their names. -/
def fill : Text → Text
  | [] => []
  | ':' :: rest =>
    have shorter := (List.dropWhile_suffix (l := rest) isInCode).length_le
    match found : rest.dropWhile isInCode with
    | [] => ':' :: fill rest
    | next :: after =>
      have : after.length < rest.length := by grind
      if next = ':' then
        let code := rest.takeWhile isInCode
        (ofCode? code).getD (':' :: code ++ [':']) ++ fill after
      else ':' :: fill rest
  | char :: rest => char :: fill rest
termination_by text => text.length

end Emoji
end ProseCheck
