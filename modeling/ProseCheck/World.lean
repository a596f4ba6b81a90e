import ProseCheck.Layout.Page
import ProseCheck.Source.Basic
import ProseCheck.Validation.Basic

/-!
# Worlds

A world is what one check sees: sources of distinct names, one of them the main one, and the
laid-out pages of the document where they are known.
-/

namespace ProseCheck

/-- Why a document cannot be used. -/
inductive DocumentError where
  | textDiffers (file : FileId)
  | duplicateFile (file : FileId)
  | mainNotFound (file : FileId)
  | unknownFile (file : FileId)
  | unreadable (path : String)
  | brokenJson (path : String)
  | invalidDump (path : String) (faults : List Fault)

/-- Text of an error. -/
def DocumentError.message : DocumentError → String
  | .textDiffers file => s!"Source text of {file} does not match its syntax tree"
  | .duplicateFile file => s!"Duplicate file id: {file}"
  | .mainNotFound file => s!"Main file not found: {file}"
  | .unknownFile file => s!"Unknown file id: {file}"
  | .unreadable path => s!"Cannot read {path}"
  | .brokenJson path => s!"Invalid JSON in {path}"
  | .invalidDump path _ => s!"Invalid document dump {path}"

/-- Sources of distinct names, a main file, and the pages where they are known. -/
structure World where
  /-- Sources in order. -/
  sources : List Source
  /-- Name of the main file. -/
  main : Option FileId
  /-- Laid-out pages. -/
  pages : Option (List Page)
  distinct : (sources.map Source.id).Nodup
  main_mem : ∀ file, main = some file → file ∈ sources.map Source.id

namespace World

/-- Names of the files, in order. -/
def files (world : World) : List FileId := world.sources.map Source.id

/-- The world of no file. -/
def empty : World := ⟨[], none, none, .nil, by simp⟩

/-- Adds a source under a name that is not taken. -/
def add (world : World) (source : Source) : Except DocumentError World :=
  if taken : source.id ∈ world.sources.map Source.id then .error (.duplicateFile source.id)
  else
    .ok
      { world with
        sources := world.sources ++ [source]
        distinct := by
          have := world.distinct
          simp only [List.map_append, List.map_cons, List.map_nil]
          exact List.nodup_append.2 ⟨this, by simp, by
            intro file mem other other_mem same
            simp only [List.mem_singleton] at other_mem
            exact taken (other_mem ▸ same ▸ mem)⟩
        main_mem := by
          intro file found
          simp only [List.map_append, List.mem_append]
          exact .inl (world.main_mem file found) }

/-- Adds sources one after the other. -/
def addAll (world : World) : List Source → Except DocumentError World
  | [] => .ok world
  | source :: rest =>
    match world.add source with
    | .ok world => addAll world rest
    | .error error => .error error

/-- Makes a file the main one; without a name it is the first. -/
def withMain (world : World) (main : Option FileId) : Except DocumentError World :=
  match main.or world.files.head? with
  | none => .ok { world with main := none, main_mem := by simp }
  | some file =>
    if known : file ∈ world.sources.map Source.id then
      .ok
        { world with
          main := some file
          main_mem := by
            intro other same
            cases same
            exact known }
    else .error (.mainNotFound file)

/-- The world of some sources. -/
def ofSources (sources : List Source) (main : Option FileId) (pages : Option (List Page)) :
    Except DocumentError World := do
  let world ← empty.addAll sources
  let world ← world.withMain main
  pure { world with pages }

/-- The source of a name. -/
def source? (world : World) (file : FileId) : Option Source :=
  world.sources.find? fun source => source.id == file

/-- The source of a name, or an error that names the file. -/
def source (world : World) (file : FileId) : Except DocumentError Source :=
  match world.source? file with
  | some source => .ok source
  | none => .error (.unknownFile file)

/-- The node of a span. -/
def find? (world : World) (span : Span) : Option Placed :=
  match span.file with
  | none => none
  | some file => (world.source? file).bind fun source => source.find? span

end World
end ProseCheck
