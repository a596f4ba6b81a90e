import ProseCheck.Json.Writer
import ProseCheck.Text.Digits
import ProseCheck.Validation.Scalar
import ProseCheck.Yaml.Node

/-!
# Values of YAML

What a node stands for, as JSON: its tag tells how its text or its parts are read.  A time is a
foreign value.  A mapping takes in the pairs of others under the key of merging; its own go first,
and of equal keys the last counts, in the place of the first.
-/

namespace ProseCheck
namespace Yaml
namespace Node

/-- The truth value of a word in any case. -/
def truthOf (text : Text) : Except Trouble Json :=
  let word := String.ofList (text.map Char.toLower)
  if Spelling.trueWords.contains word then .ok (.bool true)
  else if Spelling.falseWords.contains word then .ok (.bool false)
  else .error .notTruth

/-- The value of a numeral, if it is one. -/
def readable {Value : Type} : Option Value → Except Trouble Value
  | some value => .ok value
  | none => .error .unreadable

/-- Whether a number has a minus sign, and what follows the sign. -/
def signed (digits : Text) : Except Trouble (Bool × Text) :=
  match digits with
  | [] => .error .emptyNumber
  | '-' :: rest => .ok (true, rest)
  | '+' :: rest => .ok (false, rest)
  | digits => .ok (false, digits)

/-- The magnitude of an integer. -/
def magnitudeOf (digits : Text) : Except Trouble Int :=
  match digits with
  | [] => .error .emptyNumber
  | '0' :: 'b' :: rest => readable (Numeral.binary? rest)
  | '0' :: 'x' :: rest => readable (Numeral.hexadecimal? rest)
  | '0' :: _ => readable (Numeral.octal? digits)
  | _ =>
    ((Text.splitOn ':' digits).mapM fun part => readable (Numeral.decimal? part)).map
      fun parts => parts.foldl (fun total part => total * 60 + part) 0

/-- The integer of a text: low lines do not count, colons separate digits in base sixty. -/
def integerOf (text : Text) : Except Trouble Json := do
  let (negative, digits) ← signed (text.filter (· ≠ '_'))
  let magnitude ← magnitudeOf digits
  return .int (if negative then -magnitude else magnitude)

/-- The sum of parts, the last one first, each in units sixty times as large as the last. -/
def inSixties (unit : Nat) (total : Float) : List Float → Float
  | [] => total
  | part :: rest => inSixties (unit * 60) (total + part * Decimal.ofInt unit) rest

/-- The magnitude of a number with a point. -/
def pointedOf (digits : Text) : Except Trouble Float :=
  if digits == ".inf".toList then .ok (Json.Reader.infinity false)
  else if digits == ".nan".toList then .ok (0.0 / 0.0)
  else
    let part (written : Text) : Except Trouble Float :=
      readable (Validated.numberOfPlainText? (Text.strip written))
    if digits.contains ':' then
      ((Text.splitOn ':' digits).mapM part).map fun parts => inSixties 1 0 parts.reverse
    else part digits

/-- The number with a point of a text. -/
def numberOf (text : Text) : Except Trouble Json := do
  let (negative, digits) ← signed ((text.filter (· ≠ '_')).map Char.toLower)
  let magnitude ← pointedOf digits
  return .float (if negative then -1 * magnitude else magnitude)

/-- Days of a month. -/
def daysOf (year month : Nat) : Nat :=
  if month == 2 then
    if year % 4 == 0 && (year % 100 != 0 || year % 400 == 0) then 29 else 28
  else if [4, 6, 9, 11].contains month then 30
  else 31

/-- Whether a moment is one of the calendar. -/
def isMoment (moment : Spelling.Moment) : Bool :=
  let number := Json.Reader.digitsValue
  let year := number moment.year
  let month := number moment.month
  let day := number moment.day
  let isDay := 1 ≤ year && 1 ≤ month && month ≤ 12 && 1 ≤ day && day ≤ daysOf year month
  let isClock := moment.clock.all fun (hour, minute, second) =>
    number hour < 24 && number minute < 60 && number second < 60
  let isZone := moment.zone.all fun (hours, minutes) =>
    number hours * 60 + number minutes < 24 * 60
  isDay && isClock && isZone

/-- The time of a text. -/
def timeOf (text : Text) : Except Trouble Json :=
  match Spelling.moment? text with
  | none => .error .notTime
  | some moment =>
    if isMoment moment then .ok (.foreign (String.ofList text)) else .error .unreadable

/-- The octets of a text: as a string if they encode one. -/
def octetsOf (text : Text) : Except Trouble Json :=
  if text.any fun char => char.toNat ≥ 0x80 then .error .malformed
  else
    match Base64.decode? text with
    | none => .error .malformed
    | some octets =>
      match Utf8.decode? octets with
      | some chars => .ok (.text chars)
      | none => .ok (.foreign (String.ofList text))

/-- What a text with a tag stands for. -/
def scalarOf (tag text : Text) : Except Trouble Json :=
  if tag == Tag.string then .ok (.text text)
  else if tag == Tag.null then .ok .null
  else if tag == Tag.truth then truthOf text
  else if tag == Tag.integer then integerOf text
  else if tag == Tag.number then numberOf text
  else if tag == Tag.time then timeOf text
  else if tag == Tag.octets then octetsOf text
  else .error .malformed

/-- Whether two keys are one: numbers and truth values count by what they are worth. -/
def isSameKey (left right : Json) : Bool :=
  let worth : Json → Option (Int × Option Float)
    | .bool value => some (if value then 1 else 0, none)
    | .int value => some (value, none)
    | .float value =>
      match Decimal.integer? value with
      | some whole => some (whole, none)
      | none => some (0, some value)
    | _ => none
  match left, right with
  | .null, .null => true
  | .str left, .str right => left == right
  | .foreign left, .foreign right => left == right
  | left, right =>
    match worth left, worth right with
    | some (left, none), some (right, none) => left == right
    | some (_, some left), some (_, some right) => left == right
    | _, _ => false

/-- Sets the value of a key: in its place if the key is there, at the end if not. -/
def putKey (key value : Json) : List (Json × Json) → List (Json × Json)
  | [] => [(key, value)]
  | entry :: rest =>
    if isSameKey entry.1 key then (entry.1, value) :: rest else entry :: putKey key value rest

/-- Whether a value may be a key. -/
def isKey : Json → Bool
  | .arr _ | .obj _ | .keyed _ _ => false
  | _ => true

/-- The member of a key and its value. -/
def memberOf : Json × Json → String × Json
  | (.str name, value) => (name, value)
  | (key, value) => (String.ofList key.canonical, .keyed key value)

/-- Entries of which each counts once. -/
def distinct (entries : List (Json × Json)) : List (Json × Json) :=
  entries.foldl (fun found entry => putKey entry.1 entry.2 found) []

/-- The object of entries. -/
def objectOf (entries : List (Json × Json)) : Json := .obj ((distinct entries).map memberOf)

mutual

/-- Text of a scalar, or of the value that stands for a mapping. -/
def textOf? : Node → Option Text
  | .scalar _ text => some text
  | .sequence _ _ => none
  | .mapping _ pairs => textOfPairs? pairs

/-- Text of the value that stands for a mapping. -/
def textOfPairs? : List (Node × Node) → Option Text
  | [] => none
  | (key, value) :: rest => if key.tag == Tag.value then textOf? value else textOfPairs? rest

end

mutual

/-- What a node stands for. -/
def toJson : Node → Except Trouble Json
  | .scalar tag text => scalarOf tag text
  | .sequence tag items =>
    if tag == Tag.sequence then (itemsToJson items).map .arr
    else if tag == Tag.ordered || tag == Tag.pairs then (singlesToJson items).map .arr
    else .error .malformed
  | .mapping tag pairs =>
    if tag == Tag.mapping then (entries pairs).map fun (merged, own) => objectOf (merged ++ own)
    else if tag == Tag.set then
      (entries pairs).map fun (merged, own) => .arr ((distinct (merged ++ own)).map Prod.fst)
    else
      match textOfPairs? pairs with
      | some text => scalarOf tag text
      | none => .error .malformed

/-- What nodes stand for. -/
def itemsToJson : List Node → Except Trouble (List Json)
  | [] => .ok []
  | item :: rest => do return (← toJson item) :: (← itemsToJson rest)

/-- What mappings of one pair stand for, as lists of a key and its value. -/
def singlesToJson : List Node → Except Trouble (List Json)
  | [] => .ok []
  | .mapping _ [(key, value)] :: rest => do
    return .arr [← toJson key, ← toJson value] :: (← singlesToJson rest)
  | _ => .error .malformed

/-- Entries that a mapping takes in from others, and its own. -/
def entries : List (Node × Node) → Except Trouble (List (Json × Json) × List (Json × Json))
  | [] => .ok ([], [])
  | (key, value) :: rest =>
    if key.tag == Tag.merge then do
      let found ← mergedOf value
      let (merged, own) ← entries rest
      return (found ++ merged, own)
    else do
      let name ←
        if key.tag == Tag.value then pure (.text ((textOf? key).getD [])) else toJson key
      if !isKey name then throw .malformed
      let value ← toJson value
      let (merged, own) ← entries rest
      return (merged, (name, value) :: own)

/-- Entries that a mapping takes in from a mapping or from several; of those the first counts. -/
def mergedOf : Node → Except Trouble (List (Json × Json))
  | .scalar _ _ => .error .malformed
  | .sequence _ items => mergedOfAll items
  | .mapping _ pairs => (entries pairs).map fun (merged, own) => merged ++ own

/-- Entries that a mapping takes in from mappings, those of the last one first. -/
def mergedOfAll : List Node → Except Trouble (List (Json × Json))
  | [] => .ok []
  | .mapping _ pairs :: rest => do
    let (merged, own) ← entries pairs
    return (← mergedOfAll rest) ++ merged ++ own
  | _ => .error .malformed

end

end Node

/-- The value of a document; an empty one is `null`. -/
def read (document : Text) : Except Trouble Json := do
  if document.any fun char => !allowed.holdsChar char then throw .malformed
  match ← Node.Build.ofTokens (← Token.list document) with
  | some node => node.toJson
  | none => return .null

end Yaml
end ProseCheck
