import ProseCheck.Decimal.Nearest
import ProseCheck.Json.Basic
import ProseCheck.Server.Basic
import ProseCheck.Slice
import ProseCheck.Text.Numeral
import ProseCheck.Text.Units

/-!
# Replies

A server replies with matches, each an offset and a length in 16-bit units of the text and what
is to be said there.  Suggestions count characters, so offsets are converted; matches of allowed
words are left out.
-/

namespace ProseCheck
namespace Reply

/-- The number that a member of a match stands for: a number without its fraction, a truth
value, or the text of an integer. -/
def number (members : Json.Members) (name : String) : Except ServerError Int :=
  match members.get? name with
  | some (.int value) => .ok value
  | some (.bool value) => .ok (if value then 1 else 0)
  | some (.float value) =>
    match Decimal.truncate? value with
    | some whole => .ok whole
    | none => .error (if value.isNaN then .malformedMatch else .unbounded)
  | some (.str written) =>
    match Numeral.decimal? written.toList with
    | some value => .ok value
    | none => .error .malformedMatch
  | _ => .error .malformedMatch

/-- Members of the rule of a match; a rule that counts as absent has none. -/
def rule (members : Json.Members) : Except ServerError Json.Members :=
  match members.get? "rule" with
  | none => .ok []
  | some (.obj rule) => .ok rule
  | some value => if value.isBlank then .ok [] else .error .memberless

/-- Value of a member, or an empty string. -/
def textOr (members : Json.Members) (name : String) : Json := (members.get? name).getD (.str "")

/-- What a replacement of a match says. -/
def replacement : Json → Except ServerError Json
  | .obj members => .ok (textOr members "value")
  | _ => .error .memberless

/-- Replacements of a match; a list that counts as absent has none. -/
def replacements (members : Json.Members) : Except ServerError (List Json) :=
  match members.get? "replacements" with
  | none => .ok []
  | some (.arr items) => items.mapM replacement
  | some value =>
    if value.isBlank then .ok []
    else
      match value with
      | .str _ | .halved _ | .obj _ => .error .memberless
      | _ => .error .notListed

/-- The suggestion of a match on the characters from `start` up to `stop`. -/
def suggestion (members : Json.Members) (start stop : Nat) : Except ServerError Suggestion := do
  let rule ← rule members
  let replacements ← replacements members
  let read :=
    Suggestion.mk start stop
      <$> (Validated.string (textOr members "message")).below (.field "message")
      <*> (Validated.string (textOr rule "id")).below (.field "rule_id")
      <*> (Validated.string (textOr rule "description")).below (.field "rule_description")
      <*> (Validated.each Validated.string 0 replacements).below (.field "replacements")
  match read with
  | .valid suggestion => pure suggestion
  | .invalid faults => throw (.invalidSuggestion faults)

/-- Whether a match of a length covers an allowed word. -/
def isAllowed (allowed : List String) (text : Text) (start stop : Nat) (length : Int) : Bool :=
  length != 0 && allowed.contains (String.ofList (Slice.between text start stop))

/-- The suggestion of a match; none if it covers an allowed word. -/
def ofMatch (allowed : List String) (text : Text) (offsets : List Nat) :
    Json → Except ServerError (Option Suggestion)
  | .obj members => do
    let offset ← number members "offset"
    let length ← number members "length"
    let start := Units.charIndex offsets offset
    let stop := Units.charIndex offsets (offset + length)
    if isAllowed allowed text start stop length then pure none
    else some <$> suggestion members start stop
  | _ => .error .malformedMatch

/-- Matches of a reply, in order. -/
def listed (members : Json.Members) : Except ServerError (List Json) :=
  match members.get? "matches" with
  | none => .ok []
  | some (.arr items) => .ok items
  | some value =>
    if value.isBlank then .ok []
    else
      match value with
      | .str _ | .halved _ | .obj _ => .error .malformedMatch
      | _ => .error .notListed

/-- Suggestions of a reply on a text. -/
def suggestions (allowed : List String) (text : Text) : Json → Outcome
  | .obj members => do
    let listed ← listed members
    let found ← listed.mapM (ofMatch allowed text (Units.offsets text))
    pure (found.filterMap id)
  | _ => .error .notObject

end Reply
end ProseCheck
