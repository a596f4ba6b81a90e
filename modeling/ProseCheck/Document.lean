import ProseCheck.Directory
import ProseCheck.Json.Reader
import ProseCheck.Layout.Interchange
import ProseCheck.Prose
import ProseCheck.World

/-!
# Documents

A document is plain prose, or a dump: parsed files, the name of the main one, and perhaps the
laid-out pages.  A file whose name ends in `.json` holds a dump.

The strings of a dump may hold halves of pairs of units.  A source is made of octets, so it cannot
hold any, while a name of a file can.
-/

namespace ProseCheck

/-- One parsed file of a dump. -/
structure FileDump where
  /-- Name of the file. -/
  id : FileId
  /-- Text of the file, if the dump repeats it. -/
  text : Option Text
  /-- The parsed tree. -/
  root : Node

/-- The interchange form of a document. -/
structure Dump where
  /-- Name of the main file. -/
  main : Option FileId
  /-- Files in order. -/
  files : List FileDump
  /-- Laid-out pages. -/
  pages : Option (List Page)
  /-- Members that are not read. -/
  extra : Json.Members

namespace FileDump

/-- Reads a file. -/
def read : Json → Validated FileDump :=
  Validated.record fun members =>
    FileDump.mk
      <$> Validated.required members "id" Validated.string
      <*> Validated.optional members "text" none (Validated.nullable Validated.text)
      <*> Validated.required members "root" Node.readPart

/-- The file as JSON. -/
def toJson (file : FileDump) : Json :=
  .obj [("id", .str file.id), ("text", Json.option .text file.text), ("root", file.root.toJson)]

end FileDump

namespace Dump

/-- Members that are read. -/
def known : List String := ["main", "files", "pages"]

/-- Reads a dump; unknown members are kept, and their names have to be texts. -/
def read : Json → Validated Dump :=
  Validated.record fun members =>
    if members.any Validated.hasHalvedName then Validated.refuse .halvedString
    else
      (fun main files pages => Dump.mk main files pages
          (members.filter fun member => !known.contains member.1))
        <$> Validated.optional members "main" none (Validated.nullable Validated.string)
        <*> Validated.required members "files" (Validated.list FileDump.read)
        <*> Validated.optional members "pages" none
          (Validated.nullable (Validated.list Page.read))

/-- The dump as JSON. -/
def toJson (dump : Dump) : Json :=
  .obj ([("main", Json.option .str dump.main), ("files", .arr (dump.files.map FileDump.toJson)),
    ("pages", Json.option (fun pages => .arr (pages.map Page.toJson)) dump.pages)] ++ dump.extra)

end Dump

/-! ## Halves of pairs -/

namespace Dump

/-- Members whose values are names of files. -/
def naming : List String := ["main", "id", "file"]

/-- A name of a file in a dump of `length` characters.  One that is no text becomes a text that no
other name is: it is too long for a name, and its digits tell the code points. -/
def nameWithin (length : Nat) : Json → Json
  | .halved codes =>
    .text (List.replicate length '\uFFFD' ++ codes.flatMap (Text.hexDigits 6))
  | value => value

mutual

/-- The value with names of files that are texts. -/
def withNames (length : Nat) : Json → Json
  | .arr items => .arr (itemsWithNames length items)
  | .obj members => .obj (membersWithNames length members)
  | value => value

/-- Values with names of files that are texts. -/
def itemsWithNames (length : Nat) : List Json → List Json
  | [] => []
  | item :: rest => withNames length item :: itemsWithNames length rest

/-- Members with names of files that are texts. -/
def membersWithNames (length : Nat) : List (String × Json) → List (String × Json)
  | [] => []
  | (name, value) :: rest =>
    (name, if naming.contains name then nameWithin length value else withNames length value)
      :: membersWithNames length rest

end

/-- The JSON of a dump that a text holds. -/
def jsonOf (text : Text) : Except Json.Trouble Json :=
  (Json.read text).map (withNames text.length)

end Dump

/-- What a file of a dump spells, by code points. -/
structure Spelling where
  /-- The text of the file, if the dump repeats it. -/
  given : Option (List Nat)
  /-- The text of the tree. -/
  tree : List Nat

namespace Spelling

/-- What the JSON of a file spells. -/
def ofJson (value : Json) : Spelling where
  given := (value.member? "text").bind Json.codes?
  tree := Node.spelling ((value.member? "root").getD .null)

/-- What the files of a dump spell, in order. -/
def ofDump (value : Json) : List Spelling :=
  match value.member? "files" with
  | some (.arr items) => items.map ofJson
  | _ => []

end Spelling

namespace World

/-- The world of plain prose in one file. -/
def ofProse (file : FileId) (text : Text) : World where
  sources := [.ofTree file (Prose.parse text)]
  main := some file
  pages := none
  distinct := by simp
  main_mem := by simp

/-- Why a file cannot be loaded. -/
inductive LoadError where
  | document (error : DocumentError)
  /-- The path holds a character that no path can hold. -/
  | unusablePath
  /-- The octets of the file are no text. -/
  | notText
  /-- The text of a source holds half a pair of units, which no octets stand for. -/
  | halvedText
  /-- The text is JSON that cannot be read. -/
  | unreadable (trouble : Json.Trouble)

/-- The source of a file of a dump that spells its texts so: they have to be one. -/
def sourceOf (file : FileDump) (spelling : Spelling) : Except LoadError Source :=
  if spelling.given.any (· ≠ spelling.tree) then .error (.document (.textDiffers file.id))
  else if spelling.tree.any Json.isHalf then .error .halvedText
  else .ok (.ofTree file.id file.root)

/-- The world of a dump whose files spell their texts so. -/
def ofDump (spellings : List Spelling) (dump : Dump) : Except LoadError World := do
  let sources ← (dump.files.zip spellings).mapM (Function.uncurry sourceOf)
  (ofSources sources dump.main dump.pages).mapError .document

/-- The world that a dump in a text holds. -/
def ofDumpText (path : String) (text : Text) : Except LoadError World :=
  match Dump.jsonOf text with
  | .error .malformed => .error (.document (.brokenJson (Path.normal path)))
  | .error trouble => .error (.unreadable trouble)
  | .ok value =>
    match Dump.read value with
    | .invalid faults => .error (.document (.invalidDump (Path.normal path) faults))
    | .valid dump => ofDump (Spelling.ofDump value) dump

/-- The world of a file: a dump if its name ends in `.json`, else plain prose. -/
def load (path : String) (entry : PathEntry) : Except LoadError World :=
  if path.toList.contains '\x00' then .error .unusablePath
  else
    match entry with
    | .nothing | .directory => .error (.document (.unreadable (Path.normal path)))
    | .file octets =>
      match Utf8.decode? octets with
      | none => .error .notText
      | some text =>
        let text := Lines.unifyReturns text
        if Path.lowerSuffix path = ".json" then ofDumpText path text
        else .ok (ofProse (Path.name path) text)

end World
end ProseCheck
