import ProseCheck.Association
import ProseCheck.Environment.Template
import ProseCheck.Text.Blank
import ProseCheck.Text.Lines

/-!
# Environments and bindings

An environment gives values to names in which case does not count.  A name may also be declared
and left without a value, which hides what was declared before it.

A file of bindings has lines `NAME=value`, comments after `#`, and names alone, which are left
without a value.  Quoted values may go over line breaks.  A line that is none of these is passed
over.  Values are templates: a reference means a binding further up, or a variable of the
environment around.
-/

namespace ProseCheck

/-- Names with their values; of one name the last declaration counts. -/
structure Environment where
  /-- Names and values in order; a name may have no value. -/
  entries : List (String × Option String)

namespace Environment

/-- The environment of nothing. -/
def empty : Environment := ⟨[]⟩

/-- The environment in which all names have values. -/
def ofList (values : List (String × String)) : Environment :=
  ⟨values.map fun (name, value) => (name, some value)⟩

/-- A letter without its case; the sign of the unit kelvin is a letter too. -/
def foldCase (char : Char) : Char := if char = '\u212a' then 'k' else char.toLower

/-- Value of a name in any case. -/
def get? (environment : Environment) (name : String) : Option String :=
  let folded := name.toList.map foldCase
  (environment.entries.reverse.find? fun entry =>
    entry.1.toList.map foldCase == folded).bind Prod.snd

/-- Value of a name in this very case. -/
def verbatim? (environment : Environment) (name : String) : Option String :=
  (environment.entries.reverse.find? fun entry => entry.1 == name).bind Prod.snd

/-- Both environments, where the upper one goes first. -/
def above (upper lower : Environment) : Environment := ⟨lower.entries ++ upper.entries⟩

end Environment
/-- A name with the value that a file gives it. -/
structure Binding where
  /-- The name. -/
  name : Text
  /-- The template of its value, if it has one. -/
  value : Option Text

namespace Binding

/-- What was read from a text and what follows it, or what was left where the reading failed. -/
abbrev Reading (Value : Type) : Type := Except Text (Value × Text)

/-- A blank within a line. -/
def isGap (char : Char) : Bool := Text.isBlank char && char != '\n'

/-- The text from its first character on that is no blank of the line. -/
def skipGap (text : Text) : Text := text.dropWhile isGap

/-- The text without the word that may stand before a name. -/
def skipExport (text : Text) : Text :=
  let rest := text.drop 6
  if "export".toList.isPrefixOf text && (rest.head?.map isGap).getD false then skipGap rest
  else text

/-- A name in single quotes, from what follows the opening one. -/
def quotedName (text : Text) : Reading Text :=
  match text.span (· != '\x27') with
  | (first :: name, _ :: rest) => .ok (first :: name, rest)
  | _ => .error ('\x27' :: text)

/-- Whether a character may be in a name that is not quoted. -/
def isNameChar (char : Char) : Bool := !(char == '=' || char == '#' || Text.isBlank char)

/-- The name that a line starts with; a comment has none. -/
def readName (text : Text) : Reading (Option Text) :=
  match text with
  | '#' :: _ => .ok (none, text)
  | '\x27' :: rest => (quotedName rest).map fun (name, rest) => (some name, rest)
  | _ =>
    match text.span isNameChar with
    | ([], _) => .error text
    | (name, rest) => .ok (some name, rest)

/-- The characters up to a closing mark, and what follows it.  A mark after a backslash closes
only if no other does. -/
def quoted? (mark : Char) : Text → Option (Text × Text)
  | [] => none
  | '\\' :: char :: rest =>
    if char = mark then
      match quoted? mark rest with
      | some (inner, after) => some ('\\' :: mark :: inner, after)
      | none => some (['\\'], rest)
    else (quoted? mark (char :: rest)).map fun (inner, after) => ('\\' :: inner, after)
  | char :: rest =>
    if char = mark then some ([], rest)
    else (quoted? mark rest).map fun (inner, after) => (char :: inner, after)

/-- Escapes between double quotes: what follows the backslash, and what it means. -/
def escapes : List (Char × Char) :=
  [('\\', '\\'), ('\x27', '\x27'), ('"', '"'), ('a', '\x07'), ('b', '\x08'), ('f', '\x0c'),
    ('n', '\n'), ('r', '\r'), ('t', '\t'), ('v', '\x0b')]

/-- Escapes between single quotes. -/
def plainEscapes : List (Char × Char) := [('\\', '\\'), ('\x27', '\x27')]

/-- The text with escapes replaced by what they mean; a backslash before anything else stays. -/
def unescape (escapes : List (Char × Char)) : Text → Text
  | '\\' :: char :: rest =>
    match escapes.lookup char with
    | some meant => meant :: unescape escapes rest
    | none => '\\' :: unescape escapes (char :: rest)
  | char :: rest => char :: unescape escapes rest
  | [] => []

/-- The characters up to a comment, which follows a blank. -/
def beforeComment (afterBlank : Bool) : Text → Text
  | [] => []
  | char :: rest =>
    if char = '#' && afterBlank then [] else char :: beforeComment (Text.isBlank char) rest

/-- The value that a text after the equals sign starts with. -/
def readValue (text : Text) : Reading Text :=
  let quotedValue (escapes : List (Char × Char)) (mark : Char) (rest : Text) : Reading Text :=
    match quoted? mark rest with
    | some (inner, after) => .ok (unescape escapes inner, after)
    | none => .error text
  match text with
  | '\x27' :: rest => quotedValue plainEscapes '\x27' rest
  | '"' :: rest => quotedValue escapes '"' rest
  | _ =>
    let (line, rest) := text.span (· != '\n')
    .ok (Text.trimRight (beforeComment false line), rest)

/-- What follows the equals sign and a value, if there is one. -/
def readAssigned (text : Text) : Reading (Option Text) :=
  match text with
  | '=' :: rest => (readValue (skipGap rest)).map fun (value, rest) => (some value, rest)
  | _ => .ok (none, text)

/-- The text without a comment at its start. -/
def skipComment (text : Text) : Text :=
  match skipGap text with
  | '#' :: rest => rest.dropWhile (· != '\n')
  | _ => text

/-- Passes over the end of a line. -/
def lineEnd (text : Text) : Reading Unit :=
  match skipGap text with
  | [] => .ok ((), [])
  | '\n' :: rest => .ok ((), rest)
  | _ => .error text

/-- Reads a line, from its first character that is no blank; a comment binds nothing. -/
def readLine (text : Text) : Except Text (Option Binding × Text) := do
  let (name, rest) ← readName (skipExport text)
  let (value, rest) ← readAssigned (skipGap rest)
  let ((), rest) ← lineEnd (skipComment rest)
  pure (name.map fun name => ⟨name, value⟩, rest)

/-- The binding that a text starts with, if it does, and the lines after it. -/
def next (text : Text) : Option Binding × Text :=
  match readLine text with
  | .ok found => found
  | .error rest => (none, (rest.dropWhile (· != '\n')).drop 1)

/-- The bindings of at most so many lines. -/
def upTo : Nat → Text → List Binding
  | 0, _ => []
  | lines + 1, text =>
    match text.dropWhile Text.isBlank with
    | [] => []
    | text =>
      let (binding, rest) := next text
      binding.toList ++ upTo lines rest

/-- The bindings of a file; each reading passes over one character or more. -/
def ofText (text : Text) : List Binding :=
  let text := Lines.unifyReturns text
  upTo text.length text

end Binding

namespace Environment

/-- What a reference means: a binding further up, or a variable of the environment around. -/
def meaning (process : Environment) (entries : List (String × Option String)) (name : Text) :
    Option (Option Text) :=
  let name := String.ofList name
  match entries.lookup name with
  | some value => some (value.map String.toList)
  | none => (process.verbatim? name).map fun value => some value.toList

/-- The entries with those of a binding. -/
def bind (process : Environment) (entries : List (String × Option String)) (binding : Binding) :
    List (String × Option String) :=
  Association.put (String.ofList binding.name)
    (binding.value.map fun template =>
      String.ofList (Template.fill (meaning process entries) template))
    entries

/-- The environment of a file, whose templates may refer to the one around. -/
def ofText (process : Environment) (text : Text) : Environment :=
  ⟨(Binding.ofText text).foldl (bind process) []⟩

end Environment
end ProseCheck
