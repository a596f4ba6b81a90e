import ProseCheck.Location
import ProseCheck.Text.Blank

/-!
# Diagnostics

A diagnostic is a suggestion that was located in the document.  A suggestion without a location
is dropped, and the number of dropped ones is kept.
-/

namespace ProseCheck

/-- A remark on ranges of the document, of which there is at least one. -/
structure Diagnostic where
  /-- Ranges in the order of the stream. -/
  locations : List Location
  /-- What is said. -/
  message : String
  /-- Name of the rule. -/
  ruleId : String
  /-- Description of the rule. -/
  ruleDescription : String
  /-- Replacements that can be shown. -/
  replacements : List String
  /-- All replacements, deletions among them. -/
  edits : List String
  located : locations ≠ []
deriving DecidableEq, Repr

namespace Diagnostic

/-- First range. -/
def first (diagnostic : Diagnostic) : Location := diagnostic.locations.head diagnostic.located

/-- Whether a replacement can be shown: it does not consist of blanks. -/
def isPresentable (replacement : String) : Bool := !Text.isBlankText replacement.toList

/-- The diagnostic of a suggestion with its ranges. -/
def ofSuggestion? (suggestion : Suggestion) (locations : List Location) : Option Diagnostic :=
  if located : locations ≠ [] then
    some ⟨locations, suggestion.message, suggestion.ruleId, suggestion.ruleDescription,
      suggestion.replacements.filter isPresentable, suggestion.replacements, located⟩
  else none

/-- Reads at least one location. -/
def readLocations (value : Json) : Validated { locations : List Location // locations ≠ [] } :=
  match Validated.list Location.read value with
  | .valid locations =>
    if located : locations ≠ [] then .valid ⟨locations, located⟩ else .refuse .tooShort
  | .invalid faults => .invalid faults

/-- Reads a diagnostic. -/
def read : Json → Validated Diagnostic :=
  Validated.record fun members =>
    (fun locations message ruleId ruleDescription replacements edits =>
        ⟨locations.1, message, ruleId, ruleDescription, replacements, edits, locations.2⟩)
      <$> Validated.required members "locations" readLocations
      <*> Validated.required members "message" Validated.string
      <*> Validated.optional members "rule_id" "" Validated.string
      <*> Validated.optional members "rule_description" "" Validated.string
      <*> Validated.optional members "replacements" [] (Validated.list Validated.string)
      <*> Validated.optional members "edits" [] (Validated.list Validated.string)

/-- The diagnostic as JSON. -/
def toJson (diagnostic : Diagnostic) : Json :=
  .obj [("locations", .arr (diagnostic.locations.map Location.toJson)),
    ("message", .str diagnostic.message), ("rule_id", .str diagnostic.ruleId),
    ("rule_description", .str diagnostic.ruleDescription),
    ("replacements", Json.strings diagnostic.replacements),
    ("edits", Json.strings diagnostic.edits)]

end Diagnostic

/-- Diagnostics of a check so far. -/
structure Findings where
  /-- Diagnostics in order. -/
  diagnostics : List Diagnostic
  /-- Number of suggestions without a location. -/
  dropped : Nat
deriving DecidableEq, Repr

/-- What a check reports: the document, the file of interest, and calls whose contents are not
reported. -/
structure Scope where
  /-- The document. -/
  world : World
  /-- The file of interest; none for all files. -/
  interest : Option FileId
  /-- Names of ignored calls. -/
  ignored : List String

namespace Findings

/-- Nothing found yet. -/
def empty : Findings := ⟨[], 0⟩

/-- Adds one suggestion on a stream. -/
def addOne (scope : Scope) (map : PositionMap) (findings : Findings) (suggestion : Suggestion) :
    Findings :=
  match Diagnostic.ofSuggestion? suggestion
      (map.locations scope.world scope.interest scope.ignored suggestion) with
  | some diagnostic => { findings with diagnostics := findings.diagnostics ++ [diagnostic] }
  | none => { findings with dropped := findings.dropped + 1 }

/-- Adds the suggestions on a stream, in order. -/
def add (scope : Scope) (map : PositionMap) (findings : Findings) (suggestions : List Suggestion) :
    Findings :=
  suggestions.foldl (addOne scope map) findings

/-- The findings after their diagnostics were handed out. -/
def handedOut (findings : Findings) : Findings := { findings with diagnostics := [] }

end Findings
end ProseCheck
