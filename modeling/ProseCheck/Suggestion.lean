import ProseCheck.Validation.Scalar

/-!
# Suggestions

A suggestion is what a server says about a stretch of a stream; its bounds count characters.
-/

namespace ProseCheck

/-- A remark of a server on the characters from `start` up to `stop`. -/
structure Suggestion where
  /-- First character. -/
  start : Nat
  /-- Character after the last. -/
  stop : Nat
  /-- What is said. -/
  message : String
  /-- Name of the rule. -/
  ruleId : String
  /-- Description of the rule. -/
  ruleDescription : String
  /-- Texts that may replace the stretch. -/
  replacements : List String
deriving DecidableEq, Repr

namespace Suggestion

/-- Reads a suggestion. -/
def read : Json → Validated Suggestion :=
  Validated.record fun members =>
    Suggestion.mk
      <$> Validated.required members "start" Validated.natural
      <*> Validated.required members "end" Validated.natural
      <*> Validated.required members "message" Validated.string
      <*> Validated.optional members "rule_id" "" Validated.string
      <*> Validated.optional members "rule_description" "" Validated.string
      <*> Validated.optional members "replacements" [] (Validated.list Validated.string)

/-- The suggestion as JSON. -/
def toJson (suggestion : Suggestion) : Json :=
  .obj [("start", .nat suggestion.start), ("end", .nat suggestion.stop),
    ("message", .str suggestion.message), ("rule_id", .str suggestion.ruleId),
    ("rule_description", .str suggestion.ruleDescription),
    ("replacements", Json.strings suggestion.replacements)]

end Suggestion

/-- What a server says about one text. -/
abbrev Answer := List Suggestion

end ProseCheck
