import ProseCheck.Validation.Scalar

/-!
# Separator rules

The contents of some calls and arguments read as paragraphs or lines of their own.  A rule names
the separators that stand around them in the stream, where the document has none.
-/

namespace ProseCheck

/-- Separators of a call. -/
structure FunctionRule where
  /-- Before the call. -/
  before : Text
  /-- After the call. -/
  after : Text
  /-- After each content argument. -/
  afterArgument : Text
deriving DecidableEq, Repr

/-- Separators of a named argument. -/
structure ArgumentRule where
  /-- Before the argument. -/
  before : Text
  /-- After the argument. -/
  after : Text
deriving DecidableEq, Repr

/-- Rules by the names of calls and of arguments. -/
structure Rules where
  /-- Rules of calls. -/
  functions : List (String × FunctionRule)
  /-- Rules of named arguments. -/
  arguments : List (String × ArgumentRule)
deriving DecidableEq, Repr

namespace FunctionRule

/-- Reads a rule. -/
def read : Json → Validated FunctionRule :=
  Validated.record fun members =>
    (FunctionRule.mk
      <$> Validated.optional members "before" [] Validated.text
      <*> Validated.optional members "after" [] Validated.text
      <*> Validated.optional members "after_argument" [] Validated.text).also
      (Validated.extras ["before", "after", "after_argument"] members)

/-- The rule as JSON. -/
def toJson (rule : FunctionRule) : Json :=
  .obj [("before", .text rule.before), ("after", .text rule.after),
    ("after_argument", .text rule.afterArgument)]

end FunctionRule

namespace ArgumentRule

/-- Reads a rule. -/
def read : Json → Validated ArgumentRule :=
  Validated.record fun members =>
    (ArgumentRule.mk
      <$> Validated.optional members "before" [] Validated.text
      <*> Validated.optional members "after" [] Validated.text).also
      (Validated.extras ["before", "after"] members)

/-- The rule as JSON. -/
def toJson (rule : ArgumentRule) : Json :=
  .obj [("before", .text rule.before), ("after", .text rule.after)]

end ArgumentRule

namespace Rules

/-- Cells of tables stand on lines of their own, and captions are paragraphs. -/
def standard : Rules where
  functions :=
    [("grid", ⟨[], [], ['\n']⟩), ("table", ⟨[], [], ['\n']⟩), ("header", ⟨[], [], ['\n']⟩),
      ("cell", ⟨['\n'], ['\n'], []⟩)]
  arguments := [("caption", ⟨['\n', '\n'], ['\n', '\n']⟩)]

/-- Rule of a call; a call without a name has none. -/
def function? (rules : Rules) : Option String → Option FunctionRule
  | none => none
  | some name => if name = "" then none else rules.functions.lookup name

/-- Rule of a named argument. -/
def argument? (rules : Rules) (name : String) : Option ArgumentRule := rules.arguments.lookup name

/-- Reads rules; each table that is missing is the standard one. -/
def read : Json → Validated Rules :=
  Validated.record fun members =>
    Rules.mk
      <$> Validated.optional members "functions" standard.functions
        (Validated.table FunctionRule.read)
      <*> Validated.optional members "arguments" standard.arguments
        (Validated.table ArgumentRule.read)

/-- The rules as JSON. -/
def toJson (rules : Rules) : Json :=
  .obj
    [("functions", .obj (rules.functions.map fun (name, rule) => (name, rule.toJson))),
      ("arguments", .obj (rules.arguments.map fun (name, rule) => (name, rule.toJson)))]

end Rules
end ProseCheck
