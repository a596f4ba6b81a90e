import ProseCheck.Association
import ProseCheck.Text.Basic

/-!
# JSON values

The values of the interchange format.  Integers and doubles are told apart, as they are by the
presence of a point or an exponent in the text, and an object keeps the order of its members.

A JSON text may spell half a pair of 16-bit units, which is no character.  A string with such a half
keeps its code points; where it is shown, U+FFFD stands for the half.  A member whose name is no
text, since it has a half or is no string at all, keeps that name beside its value.

Other formats hold values that this one lacks.  Such a value stands here as a foreign one; no JSON
text holds any.
-/

namespace ProseCheck

/-- A JSON value. -/
inductive Json where
  | null
  | bool (value : Bool)
  | int (value : Int)
  | float (value : Float)
  | str (value : String)
  /-- A string that is no text, by its code points: some of them are halves of pairs. -/
  | halved (codes : List Nat)
  | arr (items : List Json)
  | obj (members : List (String × Json))
  /-- A value of another format, as it is written. -/
  | foreign (written : String)
  /-- The value of a member whose name is no text. -/
  | keyed (key value : Json)
deriving Inhabited

namespace Json

/-- Members of an object, in order. -/
abbrev Members := List (String × Json)

/-- A text as a JSON string. -/
def text (value : Text) : Json := .str (String.ofList value)

/-- Whether a code point is half a pair of 16-bit units, which stands for no character. -/
def isHalf (code : Nat) : Bool := 0xD800 ≤ code && code ≤ 0xDFFF

/-- The character of a code point; U+FFFD shows a half. -/
def charOf (code : Nat) : Char := if isHalf code then '\uFFFD' else Char.ofNat code

/-- Code points as they are shown. -/
def shown (codes : List Nat) : Text := codes.map charOf

/-- The string of code points. -/
def ofCodes (codes : List Nat) : Json :=
  if codes.any isHalf then .halved codes else text (shown codes)

/-- The member of a name and a value, which keeps a name that is no text. -/
def memberOf (codes : List Nat) (value : Json) : String × Json :=
  (String.ofList (shown codes), if codes.any isHalf then .keyed (.halved codes) value else value)

/-- Code points of a string; nothing else has any. -/
def codes? : Json → Option (List Nat)
  | .str value => some (value.toList.map Char.toNat)
  | .halved codes => some codes
  | _ => none

/-- A string as it is shown; nothing else is one. -/
def shown? : Json → Option String
  | .str value => some value
  | .halved codes => some (String.ofList (shown codes))
  | _ => none

@[simp]
theorem shown?_str (value : String) : shown? (.str value) = some value := rfl

/-- A natural number as a JSON integer. -/
def nat (value : Nat) : Json := .int value

/-- A list of strings. -/
def strings (values : List String) : Json := .arr (values.map .str)

/-- `null`, or the value as JSON. -/
def option {Value : Type} (write : Value → Json) : Option Value → Json
  | none => .null
  | some value => write value

/-- Whether the value counts as absent: `null`, false, zero, or empty. -/
def isBlank : Json → Bool
  | .null => true
  | .bool value => !value
  | .int value => value == 0
  | .float value => value == 0
  | .str value => value.isEmpty
  | .halved codes => codes.isEmpty
  | .arr items => items.isEmpty
  | .obj members => members.isEmpty
  | .foreign _ => false
  | .keyed _ value => value.isBlank

mutual

/-- The value with `null` in the place of every double that has no digits. -/
def finite : Json → Json
  | .float value => if value.isFinite then .float value else .null
  | .arr items => .arr (finiteItems items)
  | .obj members => .obj (finiteMembers members)
  | value => value

/-- Values with `null` in the place of every double that has no digits. -/
def finiteItems : List Json → List Json
  | [] => []
  | item :: rest => finite item :: finiteItems rest

/-- Members with `null` in the place of every double that has no digits. -/
def finiteMembers : List (String × Json) → List (String × Json)
  | [] => []
  | (name, value) :: rest => (name, finite value) :: finiteMembers rest

end

namespace Members

/-- Sets members one after the other, so the last of one name counts. -/
def putAll (members updates : Members) : Members :=
  updates.foldl (fun set update => Association.put update.1 update.2 set) members

/-- Value of a member. -/
def get? (members : Members) (name : String) : Option Json := members.lookup name

end Members

/-- Value of a member of an object; nothing has members but an object. -/
def member? (name : String) : Json → Option Json
  | .obj members => Members.get? members name
  | _ => none

end Json
end ProseCheck
