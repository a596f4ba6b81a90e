import ProseCheck.Text.Printable
import ProseCheck.Validation.Scalar

/-!
# Arguments

Arguments are options and operands.  An option that takes a value has it after an equals sign,
or, for an option of a single letter, right after the letter; otherwise the next argument is the
value, whatever it looks like.  A switch takes none.  Letters of several switches may stand
behind one dash, and what follows two dashes alone holds no options.
-/

namespace ProseCheck

/-- Why arguments cannot be used. -/
inductive ArgumentError where
  | noSuchOption (name : String)
  | valueMissing (name : String)
  | valueUnwanted (name : String)
  /-- A group of commands has no arguments at all. -/
  | nothingAsked
  | commandMissing
  | noSuchCommand (name : String)
  | pathMissing
  | unexpected (operands : List String)
  | notInteger (refusal : Refusal)
  | noSuchFile (path : String)
  | isDirectory (path : String)
deriving DecidableEq, Repr

namespace ArgumentError

/-- A name between quotes. -/
def quoted (written : String) : String := String.ofList (Text.quoted written.toList)

/-- Text of an error. -/
def message : ArgumentError → String
  | .noSuchOption name => s!"No such option: {name}"
  | .valueMissing name => s!"Option {quoted name} requires an argument."
  | .valueUnwanted name => s!"Option {quoted name} does not take a value."
  | .nothingAsked | .commandMissing => "Missing command."
  | .noSuchCommand name => s!"No such command {quoted name}."
  | .pathMissing => "Missing argument 'PATH'."
  | .unexpected [operand] => s!"Got unexpected extra argument ({operand})"
  | .unexpected operands =>
    "Got unexpected extra arguments (" ++ " ".intercalate operands ++ ")"
  | .notInteger .oversizedInteger =>
    "Unable to parse input string as an integer, exceeded maximum size"
  | .notInteger _ => "Input should be a valid integer, unable to parse string as an integer"
  | .noSuchFile path => s!"file {quoted path} does not exist."
  | .isDirectory path => s!"file {quoted path} is a directory."

end ArgumentError

/-- What an option is for: its field, and whether a value goes with it. -/
structure OptionForm where
  /-- Names, with their dashes. -/
  names : List String
  /-- What it sets. -/
  field : String
  /-- Whether it takes a value. -/
  takesValue : Bool

/-- Options and operands. -/
structure Arguments where
  /-- Fields that options set, in order, each with its value if it takes one. -/
  given : List (String × String)
  /-- Arguments that are no options. -/
  operands : List String
deriving DecidableEq, Repr

namespace Arguments

/-- No arguments. -/
def empty : Arguments := ⟨[], []⟩

/-- The arguments after options that set fields. -/
def withFields (fields : List (String × String)) (arguments : Arguments) : Arguments :=
  { arguments with given := fields ++ arguments.given }

/-- The arguments after one more operand. -/
def withOperand (operand : String) (arguments : Arguments) : Arguments :=
  { arguments with operands := operand :: arguments.operands }

/-- The last value that options give to a field. -/
def value? (arguments : Arguments) (field : String) : Option String :=
  arguments.given.reverse.lookup field

/-- All values that options give to a field. -/
def values (arguments : Arguments) (field : String) : List String :=
  (arguments.given.filter fun entry => entry.1 == field).map Prod.snd

/-- Whether a switch is on. -/
def has (arguments : Arguments) (field : String) : Bool := (arguments.value? field).isSome

/-- Fields of which options say something, in the order of their first options. -/
def fields (arguments : Arguments) : List String := (arguments.given.map Prod.fst).eraseDups

/-- The integer that a value stands for. -/
def readInteger (written : String) : Except ArgumentError Int :=
  (Validated.integerOfText written.toList).mapError .notInteger

/-- Integers of fields that hold some, in the order of their first options. -/
def integers (arguments : Arguments) (numeric : List String) :
    Except ArgumentError (List (String × Int)) :=
  (arguments.fields.filter numeric.contains).mapM fun field => do
    pure (field, ← readInteger ((arguments.value? field).getD ""))

end Arguments

/-- What a command reads. -/
structure Grammar where
  /-- Options that it knows. -/
  options : List OptionForm
  /-- Whether options may follow an operand; if not, all from the first operand on are
  operands. -/
  mixed : Bool

namespace Grammar

/-- The form of an option by one of its names. -/
def form? (grammar : Grammar) (name : String) : Option OptionForm :=
  grammar.options.find? fun form => form.names.contains name

/-- What an argument that starts with a dash does. -/
inductive Effect where
  /-- It sets fields. -/
  | sets (fields : List (String × String))
  /-- It sets fields, and the next argument is the value of one more. -/
  | awaits (fields : List (String × String)) (name field : String)
deriving DecidableEq, Repr

/-- Effect of an option with two dashes. -/
def longEffect (grammar : Grammar) (name : String) (value : Option String) :
    Except ArgumentError Effect :=
  match grammar.form? name, value with
  | none, _ => .error (.noSuchOption name)
  | some form, some value =>
    if form.takesValue then .ok (.sets [(form.field, value)]) else .error (.valueUnwanted name)
  | some form, none =>
    .ok (if form.takesValue then .awaits [] name form.field else .sets [(form.field, "")])

/-- Effect of letters behind one dash, where `fields` are set already. -/
def lettersEffect (grammar : Grammar) (fields : List (String × String)) :
    Text → Except ArgumentError Effect
  | [] => .ok (.sets fields)
  | letter :: rest =>
    let name := String.ofList ['-', letter]
    match grammar.form? name with
    | none => .error (.noSuchOption name)
    | some form =>
      if form.takesValue then
        .ok (if rest.isEmpty then .awaits fields name form.field
          else .sets (fields ++ [(form.field, String.ofList rest)]))
      else lettersEffect grammar (fields ++ [(form.field, "")]) rest

/-- Effect of an argument, unless it is an operand. -/
def effect? (grammar : Grammar) (argument : String) : Option (Except ArgumentError Effect) :=
  match argument.toList with
  | '-' :: '-' :: name =>
    some <|
      match Text.cut? ['='] name with
      | some (name, value) =>
        longEffect grammar (String.ofList ('-' :: '-' :: name)) (some (String.ofList value))
      | none => longEffect grammar argument none
  | '-' :: letter :: letters => some (lettersEffect grammar [] (letter :: letters))
  | _ => none

/-- Reads arguments from left to right. -/
def read (grammar : Grammar) : List String → Except ArgumentError Arguments
  | [] => .ok .empty
  | argument :: rest =>
    if argument = "--" then .ok ⟨[], rest⟩
    else
      match grammar.effect? argument with
      | none =>
        if grammar.mixed then (read grammar rest).map (Arguments.withOperand argument)
        else .ok ⟨[], argument :: rest⟩
      | some (.error error) => .error error
      | some (.ok (.sets fields)) => (read grammar rest).map (Arguments.withFields fields)
      | some (.ok (.awaits fields name field)) =>
        match rest with
        | [] => .error (.valueMissing name)
        | value :: rest =>
          (read grammar rest).map (Arguments.withFields (fields ++ [(field, value)]))

end Grammar

end ProseCheck
