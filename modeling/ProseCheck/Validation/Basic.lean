import ProseCheck.Json.Basic

/-!
# Validation

Reading a JSON value as a value of the domain either succeeds or lists every fault, each with
the reason and the path to where it stands.  Parts are read side by side, so one faulty part
does not hide the faults of the next; faults come in the order in which the parts are declared.
-/

namespace ProseCheck

/-- One step of a path into a value. -/
inductive Step where
  | field (name : String)
  | item (index : Nat)
  /-- A member whose name is an integer. -/
  | number (name : Int)
deriving DecidableEq, Repr

/-- Why a value is refused. -/
inductive Refusal where
  | missing
  | extraField
  | notRecord
  | notObject
  | notList
  | notTable
  | notPair
  | notString
  | halvedString
  | noSuchChoice
  | belowLeast
  | tooShort
  | tooLong
  | notInteger
  | unreadableInteger
  | oversizedInteger
  | fractionalInteger
  | notFinite
  | notNumber
  | unreadableNumber
  | unreadableJson
  | foreignName
  | tooDeep
deriving DecidableEq, Repr

/-- Name of a reason in answers. -/
def Refusal.label : Refusal → String
  | .missing => "missing"
  | .extraField => "extra_forbidden"
  | .notRecord => "model_type"
  | .notObject => "model_attributes_type"
  | .notList => "list_type"
  | .notTable => "dict_type"
  | .notPair => "tuple_type"
  | .notString => "string_type"
  | .halvedString => "string_unicode"
  | .noSuchChoice => "enum"
  | .belowLeast => "greater_than_equal"
  | .tooShort => "too_short"
  | .tooLong => "too_long"
  | .notInteger => "int_type"
  | .unreadableInteger => "int_parsing"
  | .oversizedInteger => "int_parsing_size"
  | .fractionalInteger => "int_from_float"
  | .notFinite => "finite_number"
  | .notNumber => "float_type"
  | .unreadableNumber => "float_parsing"
  | .unreadableJson => "json_invalid"
  | .foreignName => "invalid_key"
  | .tooDeep => "recursion_depth_exceeded"

/-- A reason and the path to the value refused. -/
structure Fault where
  /-- Why the value is refused. -/
  refusal : Refusal
  /-- Where it stands. -/
  path : List Step
deriving DecidableEq, Repr

/-- A fault of the value itself. -/
def Fault.here (refusal : Refusal) : Fault := ⟨refusal, []⟩

/-- The fault as it shows from one step further out. -/
def Fault.below (step : Step) (fault : Fault) : Fault := { fault with path := step :: fault.path }

/-- A step as JSON. -/
def Step.toJson : Step → Json
  | .field name => .str name
  | .item index => .nat index
  | .number name => .int name

/-- The step to a member whose name is no text: an integer for a truth value or an integer of
64 bits, and else the name as it is written. -/
def Step.ofName (name : String) : Json → Step
  | .bool value => .number (if value then 1 else 0)
  | .int value =>
    if -0x8000000000000000 ≤ value ∧ value < 0x8000000000000000 then .number value
    else .field name
  | .null => .field "None"
  | _ => .field name

/-- The step to a member. -/
def Step.ofMember : String × Json → Step
  | (name, .keyed key _) => .ofName name key
  | (name, _) => .field name

/-- A fault as JSON. -/
def Fault.toJson (fault : Fault) : Json :=
  .obj [("type", .str fault.refusal.label), ("loc", .arr (fault.path.map Step.toJson))]

/-- A value, or all that is wrong with it. -/
inductive Validated (Value : Type) where
  | valid (value : Value)
  | invalid (faults : List Fault)
deriving Repr

namespace Validated

/-- Refuses a value. -/
def refuse {Value : Type} (refusal : Refusal) : Validated Value := .invalid [.here refusal]

/-- Changes the value. -/
def map {Source Value : Type} (change : Source → Value) : Validated Source → Validated Value
  | .valid value => .valid (change value)
  | .invalid faults => .invalid faults

/-- Applies a function to an argument; the faults of both are listed. -/
def apply {Argument Value : Type} (function : Validated (Argument → Value))
    (argument : Validated Argument) : Validated Value :=
  match function, argument with
  | .valid function, .valid argument => .valid (function argument)
  | .valid _, .invalid faults => .invalid faults
  | .invalid faults, .valid _ => .invalid faults
  | .invalid faults, .invalid more => .invalid (faults ++ more)

instance : Functor Validated where
  map := map

instance : Seq Validated where
  seq function argument := apply function (argument ())

/-- Moves the faults below a step. -/
def below {Value : Type} (step : Step) : Validated Value → Validated Value
  | .valid value => .valid value
  | .invalid faults => .invalid (faults.map (Fault.below step))

/-- Adds faults found elsewhere. -/
def also {Value : Type} (faults : List Fault) (validated : Validated Value) : Validated Value :=
  match validated, faults with
  | .valid value, [] => .valid value
  | .valid _, faults => .invalid faults
  | .invalid found, faults => .invalid (found ++ faults)

/-- Requires a condition of a value that was read. -/
def requiring {Value : Type} (condition : Value → Bool) (refusal : Refusal)
    (validated : Validated Value) : Validated Value :=
  match validated with
  | .valid value => if condition value then .valid value else refuse refusal
  | .invalid faults => .invalid faults

/-- Reads values in order, numbered from `index`. -/
def each {Value : Type} (read : Json → Validated Value) (index : Nat) :
    List Json → Validated (List Value)
  | [] => .valid []
  | item :: rest => List.cons <$> (read item).below (.item index) <*> each read (index + 1) rest

/-- Most values of one recursive type that may stand in each other. -/
def depthLimit : Nat := 255

/-- Reads a list. -/
def list {Value : Type} (read : Json → Validated Value) : Json → Validated (List Value)
  | .arr items => each read 0 items
  | _ => refuse .notList

/-- Reads the name of an entry, as it is shown: a fault of the name stands at the entry's key. -/
def entryName : String × Json → Validated String
  | (name, .keyed (.halved _) _) => .valid name
  | (_, .keyed _ _) => .invalid [⟨.notString, [.field "[key]"]⟩]
  | (name, _) => .valid name

/-- Reads the value of an entry. -/
def entryValue {Value : Type} (read : Json → Validated Value) : Json → Validated Value
  | .keyed _ value => read value
  | value => read value

/-- Reads named entries in order. -/
def entries {Value : Type} (read : Json → Validated Value) :
    Json.Members → Validated (List (String × Value))
  | [] => .valid []
  | entry :: rest =>
    (fun entry more => entry :: more)
      <$> (Prod.mk <$> entryName entry <*> entryValue read entry.2).below (.ofMember entry)
      <*> entries read rest

/-- Reads a table from names to values. -/
def table {Value : Type} (read : Json → Validated Value) : Json → Validated (List (String × Value))
  | .obj members => entries read members
  | _ => refuse .notTable

/-- Reads `null` or a value. -/
def nullable {Value : Type} (read : Json → Validated Value) : Json → Validated (Option Value)
  | .null => .valid none
  | value => (read value).map some

/-- Reads the members of a record. -/
def record {Value : Type} (read : Json.Members → Validated Value) : Json → Validated Value
  | .obj members => read members
  | _ => refuse .notRecord

/-- Reads a member that must be there. -/
def required {Value : Type} (members : Json.Members) (name : String)
    (read : Json → Validated Value) : Validated Value :=
  match members.get? name with
  | some value => (read value).below (.field name)
  | none => .invalid [⟨.missing, [.field name]⟩]

/-- Reads a member that has a default. -/
def optional {Value : Type} (members : Json.Members) (name : String) (default : Value)
    (read : Json → Validated Value) : Validated Value :=
  match members.get? name with
  | some value => (read value).below (.field name)
  | none => .valid default

/-- The fault of a member that a closed record does not have. -/
def extraFault : String × Json → Fault
  | (_, .keyed (.halved _) _) => .here .halvedString
  | member@(_, .keyed _ _) => ⟨.foreignName, [.ofMember member]⟩
  | member => ⟨.extraField, [.ofMember member]⟩

/-- Faults of the members that a closed record does not have. -/
def extras (known : List String) (members : Json.Members) : List Fault :=
  (members.filter fun member => !known.contains member.1).map extraFault

/-- Whether the name of a member is a string that is no text. -/
def hasHalvedName : String × Json → Bool
  | (_, .keyed (.halved _) _) => true
  | _ => false

end Validated
end ProseCheck
