import ProseCheck.Server.Basic

/-!
# Scripted servers

A scripted server needs no network.  It flags given words wherever they stand, says what it
always says, and fails at given calls or at given words, which makes it fit to rehearse with.
What it says is written down as JSON and read when it is said, so a script may hold suggestions
that are none.
-/

namespace ProseCheck

/-- A word that is flagged, and what is said of it. -/
structure Flag where
  /-- The word. -/
  word : Text
  /-- Members of the suggestion but its bounds. -/
  remark : Json.Members

/-- What a scripted server does. -/
structure Script where
  /-- Words that are flagged. -/
  flags : List Flag
  /-- Suggestions on every text. -/
  always : List Json
  /-- Calls that fail, counted from zero. -/
  failingCalls : List Int
  /-- A text at which calls fail, unless it is empty. -/
  failingText : Text

namespace Script

/-- Where a word stands, from left to right without overlap; `skipped` characters are not read
and `index` counts those before. -/
def occurrences (word : Text) (index skipped : Nat) : Text → List Nat
  | [] => []
  | char :: rest =>
    if 0 < skipped then occurrences word (index + 1) (skipped - 1) rest
    else if !word.isEmpty && word.isPrefixOf (char :: rest) then
      index :: occurrences word (index + 1) (word.length - 1) rest
    else occurrences word (index + 1) 0 rest

/-- Suggestions of a flag on a text. -/
def flagged (text : Text) (flag : Flag) : List Json :=
  (occurrences flag.word 0 0 text).map fun start =>
    .obj ([("start", .nat start), ("end", .nat (start + flag.word.length))] ++ flag.remark)

/-- Reads a suggestion as the server says it. -/
def spoken (value : Json) : Except ServerError Suggestion :=
  match Suggestion.read value with
  | .valid suggestion => .ok suggestion
  | .invalid faults => .error (.invalidSuggestion faults)

/-- Suggestions with one more, before the first that does not start before it. -/
def place (suggestion : Suggestion) : List Suggestion → List Suggestion
  | [] => [suggestion]
  | next :: rest =>
    if suggestion.start ≤ next.start then suggestion :: next :: rest
    else next :: place suggestion rest

/-- What is said of a text, in the order of the first characters. -/
def answer (script : Script) (text : Text) : Outcome := do
  let said ← (script.flags.flatMap (flagged text) ++ script.always).mapM spoken
  pure (said.foldr place [])

/-- What comes of a call by its number. -/
def outcome (script : Script) (call : Nat) (request : Request) : Outcome :=
  if script.failingCalls.contains call
      || (!script.failingText.isEmpty && Text.includes script.failingText request.text) then
    .error (.outOfOrder "backend down")
  else script.answer request.text

/-- The server of a script; its state is the number of calls so far. -/
def server (script : Script) : Server Nat := fun calls request =>
  (script.outcome calls request, calls + 1)

/-- Members of the suggestions of a flag, from the member of the flag and a default for each. -/
def remarkOf (members : Json.Members) : Json.Members :=
  let member (name source : String) (default : Json) : String × Json :=
    (name, (members.get? source).getD default)
  [member "message" "message" (.str "flagged"), member "rule_id" "rule_id" (.str "RULE"),
    member "rule_description" "description" (.str ""),
    member "replacements" "replacements" (.arr [])]

/-- Reads a flag. -/
def readFlag : Json → Validated Flag :=
  Validated.record fun members =>
    (Flag.mk · (remarkOf members)) <$> Validated.required members "word" Validated.text

/-- Reads a script. -/
def read : Json → Validated Script :=
  Validated.record fun members =>
    Script.mk
      <$> Validated.optional members "flags" [] (Validated.list readFlag)
      <*> Validated.optional members "fixed" [] (Validated.list .valid)
      <*> Validated.optional members "fail_on" [] (Validated.list Validated.integer)
      <*> Validated.optional members "fail_text" [] Validated.text

end Script
end ProseCheck
