import ProseCheck.Chunk.Draft
import ProseCheck.Diagnostic
import ProseCheck.Json.Basic
import ProseCheck.Report.Console

/-!
# Listings

Diagnostics are listed one a line, for programs to read, or with the lines that they are about,
for people.  Lines and columns are counted from one.  Chunks are listed with their language and
the number of their characters, as JSON or one after the other below headings.
-/

namespace ProseCheck

/-- A chunk as it is shown. -/
def Chunk.view (chunk : Chunk) : Json :=
  .obj [("text", .text chunk.stream), ("language", .str chunk.language),
    ("characters", .nat chunk.stream.length)]

/-- Why diagnostics cannot be listed. -/
inductive ListingError where
  | document (error : DocumentError)
  /-- A diagnostic ends before the first octet of its file. -/
  | noSuchLine

namespace Listing

/-- Most replacements that are shown. -/
def limit : Nat := 20

/-- Replacements that are shown. -/
def presentable (replacements : List String) : List String :=
  (replacements.filter Diagnostic.isPresentable).take limit

/-- Name that is shown for a file. -/
def nameOf (names : List (String × String)) (file : FileId) : String :=
  (names.lookup file).getD file

/-- A line and column, both from zero, as they are shown. -/
def place (position : Int × Nat) : String := s!"{position.1 + 1}:{position.2 + 1}"

/-- Line of a diagnostic for programs to read. -/
def line (name : String) (source : Source) (diagnostic : Diagnostic) : String :=
  let start := place (source.position diagnostic.first.start)
  let stop := place (source.position diagnostic.first.stop)
  let replacements := presentable diagnostic.replacements
  let listed := ", ".intercalate replacements
  let ending := if replacements.isEmpty then "" else " (" ++ listed ++ ")"
  s!"{name} {start}-{stop} info {diagnostic.message}{ending}"

/-- Lines of diagnostics for programs to read. -/
def plain (world : World) (names : List (String × String)) (diagnostics : List Diagnostic) :
    Except ListingError (List Text) := do
  let lines ← diagnostics.mapM fun diagnostic => do
    let source ← (world.source diagnostic.first.file).mapError .document
    let line := line (nameOf names diagnostic.first.file) source diagnostic
    pure (Console.withoutSequences line.toList)
  pure ("START".toList :: (lines ++ ["END".toList]))

/-- A number at the right end of four columns. -/
def padded (number : Int) : Text :=
  let digits := (toString number).toList
  List.replicate (4 - digits.length) ' ' ++ digits

/-- The lines of a diagnostic in its file, from the start of the first to the end of the last. -/
def snippet (source : Source) (location : Location) (last : Nat) : Text :=
  let first := (source.lineStart? (source.lineOf location.start)).getD 0
  source.slice first location.start ++ source.slice location.start location.stop
    ++ source.slice location.stop (max last location.stop)

/-- Paragraphs of a diagnostic for people to read, on a console of some columns. -/
def paragraphs (columns : Nat) (name : String) (source : Source) (diagnostic : Diagnostic) :
    Except ListingError (List Text) :=
  let location := diagnostic.first
  let position := source.position location.start
  match source.lineRange? (source.lineOf location.stop) with
  | none => .error .noSuchLine
  | some (_, last) =>
    let escape (text : String) := Console.escape text.toList
    let heading := "[bold blue]info[/bold blue][[dim]".toList ++ escape diagnostic.ruleId
      ++ "[/dim]]: [bold]".toList ++ escape diagnostic.ruleDescription ++ "[/bold]".toList
    let reference := "  [blue]-->[/blue] ".toList ++ escape name
      ++ ':' :: (place position).toList
    let excerpt := padded (position.1 + 1) ++ " | ".toList ++ snippet source location last
    let message := "       [red]".toList ++ escape diagnostic.message ++ "[/red]".toList
    let replacements := (presentable diagnostic.replacements).map fun replacement =>
      "       [green]= ".toList ++ escape replacement ++ "[/green]".toList
    let render := Console.render columns
    .ok ([render heading, render reference, Console.shown columns excerpt, render message]
      ++ replacements.map render ++ [[]])

/-- Paragraphs of diagnostics for people to read, on a console of some columns. -/
def pretty (columns : Nat) (world : World) (names : List (String × String))
    (diagnostics : List Diagnostic) : Except ListingError (List Text) := do
  let shown ← diagnostics.mapM fun diagnostic => do
    let source ← (world.source diagnostic.first.file).mapError .document
    paragraphs columns (nameOf names diagnostic.first.file) source diagnostic
  pure ([[], "Checking Document".toList, []] ++ shown.flatten)

/-! ## Chunks -/

/-- Chunks as JSON. -/
def chunksJson (chunks : List Chunk) : Json := .obj [("chunks", .arr (chunks.map Chunk.view))]

/-- Heading of a chunk by its place, from one. -/
def heading (number : Nat) (chunk : Chunk) : Text :=
  s!"--- chunk {number} ({chunk.language}, {chunk.stream.length} chars) ---".toList

/-- Paragraphs of chunks, numbered from `number`. -/
def chunksFrom (number : Nat) : List Chunk → List Text
  | [] => []
  | chunk :: rest =>
    Console.withoutSequences (heading number chunk) :: Console.withoutSequences chunk.stream
      :: chunksFrom (number + 1) rest

/-- Paragraphs of chunks. -/
def chunks (chunks : List Chunk) : List Text := chunksFrom 1 chunks

end Listing
end ProseCheck
