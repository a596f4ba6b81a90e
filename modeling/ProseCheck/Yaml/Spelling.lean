import ProseCheck.Text.Digits

/-!
# Spellings of plain scalars

What a plain scalar stands for is told by its spelling: null, a truth value, an integer, a number
with a point, a time, or one of two marks; anything else is a string.
-/

namespace ProseCheck
namespace Yaml
namespace Tag

/-- A tag of the standard by its name. -/
def standard (name : Text) : Text := "tag:yaml.org,2002:".toList ++ name

/-- Tag of null. -/
def null : Text := standard "null".toList

/-- Tag of truth values. -/
def truth : Text := standard "bool".toList

/-- Tag of integers. -/
def integer : Text := standard "int".toList

/-- Tag of numbers with a point. -/
def number : Text := standard "float".toList

/-- Tag of times. -/
def time : Text := standard "timestamp".toList

/-- Tag of the key under which a mapping takes the pairs of others. -/
def merge : Text := standard "merge".toList

/-- Tag of the key under which a mapping has the value that stands for it. -/
def value : Text := standard "value".toList

/-- Tag of marks that stand for no value. -/
def mark : Text := standard "yaml".toList

/-- Tag of strings. -/
def string : Text := standard "str".toList

/-- Tag of octets. -/
def octets : Text := standard "binary".toList

/-- Tag of sequences. -/
def sequence : Text := standard "seq".toList

/-- Tag of mappings. -/
def mapping : Text := standard "map".toList

/-- Tag of sets. -/
def set : Text := standard "set".toList

/-- Tag of mappings in order. -/
def ordered : Text := standard "omap".toList

/-- Tag of lists of pairs. -/
def pairs : Text := standard "pairs".toList

end Tag

namespace Spelling

/-- A word in lower case, with a capital, and in upper case. -/
def threeWays (word : String) : List String := [word, word.capitalize, word.toUpper]

/-- Spellings of null. -/
def nulls : List String := "" :: "~" :: threeWays "null"

/-- Words that mean true. -/
def trueWords : List String := ["true", "yes", "on"]

/-- Words that mean false. -/
def falseWords : List String := ["false", "no", "off"]

/-- Spellings of truth values. -/
def truths : List String := (trueWords ++ falseWords).flatMap threeWays

/-- Words for infinity, after a sign. -/
def infinities : List String := threeWays "inf" |>.map ("." ++ ·)

/-- Words for what is no number. -/
def notNumbers : List String := [".nan", ".NaN", ".NAN"]

/-- What follows a sign, if there is one. -/
def unsigned : Text → Text
  | '+' :: rest => rest
  | '-' :: rest => rest
  | text => text

/-- Whether a character is a digit or a low line. -/
def isSpaced (char : Char) : Bool := char.isDigit || char == '_'

/-- Whether a text starts with a digit and goes on with digits and low lines. -/
def isSpacedDigits : Text → Bool
  | [] => false
  | first :: rest => first.isDigit && rest.all isSpaced

/-- Whether a text has characters of a class only, and at least one. -/
def isMadeOf (holds : Char → Bool) (text : Text) : Bool := !text.isEmpty && text.all holds

/-- Whether a text is a number of minutes or seconds. -/
def isSixtieth : Text → Bool
  | [ones] => ones.isDigit
  | [tens, ones] => '0' ≤ tens && tens ≤ '5' && ones.isDigit
  | _ => false

/-- Whether a text counts in sixties: digits, and then numbers below sixty after colons. -/
def isSixties (startsWith : Text → Bool) (text : Text) : Bool :=
  match Text.splitOn ':' text with
  | first :: others => startsWith first && !others.isEmpty && others.all isSixtieth
  | [] => false

/-- Whether a text is spelled like an integer. -/
def isInteger (text : Text) : Bool :=
  match unsigned text with
  | '0' :: 'b' :: digits => isMadeOf (fun char => char == '0' || char == '1' || char == '_') digits
  | '0' :: 'x' :: digits =>
    isMadeOf (fun char => (Text.hexValue? char).isSome || char == '_') digits
  | '0' :: digits => digits.all fun char => ('0' ≤ char && char ≤ '7') || char == '_'
  | digits => isSpacedDigits digits || isSixties isSpacedDigits digits

/-- Whether a text is an exponent with its mark and a sign, or nothing. -/
def isExponent : Text → Bool
  | [] => true
  | mark :: sign :: digits =>
    (mark == 'e' || mark == 'E') && (sign == '+' || sign == '-') && isMadeOf Char.isDigit digits
  | _ => false

/-- Whether a text is spelled like a number with a point. -/
def isNumber (text : Text) : Bool :=
  let body := unsigned text
  let whole := body.takeWhile fun char => isSpaced char || char == ':'
  match body.dropWhile fun char => isSpaced char || char == ':' with
  | '.' :: rest =>
    let fraction := rest.takeWhile isSpaced
    let ending := rest.dropWhile isSpaced
    if infinities.contains (String.ofList body) then true
    else if whole.isEmpty then
      text == body
        && ((isSpacedDigits fraction && isExponent ending)
          || notNumbers.contains (String.ofList text))
    else if isSpacedDigits whole then isExponent ending
    else isSixties isSpacedDigits whole && ending.isEmpty
  | _ => false

/-- Digits at the start of a text, `least` to `most` of them, and what follows them. -/
def digits? (least most : Nat) (text : Text) : Option (Text × Text) :=
  let found := (text.take most).takeWhile Char.isDigit
  if least ≤ found.length then some (found, text.drop found.length) else none

/-- What follows a character, if a text starts with it. -/
def after? (char : Char) : Text → Option Text
  | first :: rest => if first = char then some rest else none
  | [] => none

/-- The parts of a time, as digits. -/
structure Moment where
  /-- Year. -/
  year : Text
  /-- Month of the year. -/
  month : Text
  /-- Day of the month. -/
  day : Text
  /-- Hour, minute and second. -/
  clock : Option (Text × Text × Text)
  /-- Hours and minutes from the meridian of reference. -/
  zone : Option (Text × Text)

/-- Hours and minutes from the meridian of reference after a sign. -/
def zone? (text : Text) : Option (Option (Text × Text)) := do
  match text.dropWhile fun char => char == ' ' || char == '\t' with
  | [] => if text.isEmpty then some none else none
  | ['Z'] => some none
  | sign :: rest =>
    if sign == '+' || sign == '-' then do
      let (hours, rest) ← digits? 1 2 rest
      match rest with
      | [] => some (some (hours, []))
      | _ => do
        let (minutes, rest) ← digits? 2 2 (← after? ':' rest)
        if rest.isEmpty then some (some (hours, minutes)) else none
    else none

/-- Hour, minute and second, and the zone after a fraction. -/
def clock? (text : Text) : Option ((Text × Text × Text) × Option (Text × Text)) := do
  let (hour, rest) ← digits? 1 2 text
  let (minute, rest) ← digits? 2 2 (← after? ':' rest)
  let (second, rest) ← digits? 2 2 (← after? ':' rest)
  let rest := (after? '.' rest).elim rest (·.dropWhile Char.isDigit)
  return ((hour, minute, second), ← zone? rest)

/-- The parts of a text that is spelled like a time. -/
def moment? (text : Text) : Option Moment := do
  let (year, rest) ← digits? 4 4 text
  let (month, rest) ← digits? 1 2 (← after? '-' rest)
  let (day, rest) ← digits? 1 2 (← after? '-' rest)
  match rest with
  | [] => return ⟨year, month, day, none, none⟩
  | char :: more =>
    let rest ←
      if char == 'T' || char == 't' then some more
      else if char == ' ' || char == '\t' then
        some (more.dropWhile fun char => char == ' ' || char == '\t')
      else none
    let (clock, zone) ← clock? rest
    return ⟨year, month, day, some clock, zone⟩

/-- Whether a plain scalar is a time: without a clock, its month and day have two digits. -/
def isTime (text : Text) : Bool :=
  (moment? text).any fun moment =>
    moment.clock.isSome || (moment.month.length == 2 && moment.day.length == 2)

/-- Tag of a plain scalar. -/
def tagOf (text : Text) : Text :=
  let written := String.ofList text
  if nulls.contains written then Tag.null
  else if truths.contains written then Tag.truth
  else if isNumber text then Tag.number
  else if isInteger text then Tag.integer
  else if written == "<<" then Tag.merge
  else if isTime text then Tag.time
  else if written == "=" then Tag.value
  else if ["!", "&", "*"].contains written then Tag.mark
  else Tag.string

end Spelling
end Yaml
end ProseCheck
