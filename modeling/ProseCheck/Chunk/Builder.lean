import ProseCheck.Chunk.Draft

/-!
# Builders of chunks

A builder takes the output of one chunk call by call.  It keeps no piece: a segment pends until one
of another kind comes or the chunk is finished, and the characters, their number, their runs and
the files they come from are each kept on their own.
-/

namespace ProseCheck

/-- The output of one chunk so far. -/
structure Builder where
  /-- Language code. -/
  language : String
  /-- Segments that later ones do not join. -/
  segments : List Segment
  /-- Whether some character comes from a node. -/
  hasContent : Bool
  /-- Files that characters come from, each once. -/
  files : List FileId
  /-- Segment that a next one of its kind joins. -/
  pending : Option Segment
  /-- Parts of the stream in order. -/
  parts : List Text
  /-- Runs of characters in order. -/
  entries : List Entry
  /-- Number of characters. -/
  length : Nat
deriving DecidableEq, Repr

namespace Builder

/-- The builder of a chunk without output. -/
def empty (language : String) : Builder := ⟨language, [], false, [], none, [], [], 0⟩

/-- Seals the pending segment. -/
def flush (builder : Builder) : Builder :=
  match builder.pending with
  | some pending => { builder with segments := builder.segments ++ [pending], pending := none }
  | none => builder

/-- Takes a segment, which joins the pending one if that is of its kind. -/
def push (builder : Builder) (segment : Segment) : Builder :=
  match builder.pending with
  | some pending =>
    if pending.kind = segment.kind then { builder with pending := some (pending.join segment) }
    else { builder.flush with pending := some segment }
  | none => { builder with pending := some segment }

/-- Files with the one that characters come from, if there is one. -/
def withFile (files : List FileId) : Option FileId → List FileId
  | none => files
  | some file => if files.contains file then files else files ++ [file]

/-- Marks the content as that of a node. -/
def note (builder : Builder) (span : Span) : Builder :=
  { builder with hasContent := true, files := withFile builder.files span.file }

/-- Takes characters of one origin; without any, nothing is taken. -/
def emit (builder : Builder) (text : Text) (span : Option Span) (offset : Int) (exact : Bool)
    (sourceLength : Int) : Builder :=
  if text.isEmpty then builder
  else
    let entry : Entry := ⟨builder.length, text.length, span, offset, exact, sourceLength⟩
    let taken : Builder := { builder with
      parts := builder.parts ++ [text]
      entries := entry.push builder.entries
      length := builder.length + text.length }
    match span with
    | none => taken
    | some span => taken.note span

/-- Takes text that is checked as it stands; it starts at octet `offset` of its node. -/
def text (builder : Builder) (written : Text) (span : Option Span) (offset : Int) : Builder :=
  (builder.push ⟨.text, written, []⟩).emit written span offset true (Utf8.size written)

/-- Takes markup that is hidden. -/
def markup (builder : Builder) (written : Text) : Builder :=
  builder.push ⟨.markup, written, []⟩

/-- Takes text that is checked by a substitute. -/
def encoded (builder : Builder) (written substitute : Text) (span : Option Span) : Builder :=
  (builder.push ⟨.encoded, written, substitute⟩).emit substitute span 0 false (Utf8.size written)

/-- Makes the call that gives a piece. -/
def add (builder : Builder) : Piece → Builder
  | .plain written span offset => builder.text written span offset
  | .hidden written => builder.markup written
  | .encoded written substitute span => builder.encoded written substitute span

/-- The builder after calls in order, from no output on. -/
def ofPieces (language : String) (pieces : List Piece) : Builder :=
  pieces.foldl add (empty language)

/-- Finishes the chunk. -/
def finish (builder : Builder) : Chunk × Builder :=
  let sealed := builder.flush
  (⟨sealed.segments, ⟨sealed.parts.flatten, sealed.entries⟩, sealed.language⟩, sealed)

end Builder
end ProseCheck
