import ProseCheck.Chunk.Draft

/-!
# Collecting chunks

Converted output is a sequence of events: pieces, and places where a chunk may or must end.  A
paragraph break ends a chunk that exceeds the size limit, so a chunk exceeds it by at most what
came since the break before.  A finished chunk is kept if it holds a character of the file of
interest or, when no file is of interest, any character that comes from a node.
-/

namespace ProseCheck

/-- One step of converted output. -/
inductive Event where
  /-- More output. -/
  | piece (piece : Piece)
  /-- A place where a chunk that is too long ends. -/
  | paragraphBreak
  /-- Another language; the chunk ends if it is not the same. -/
  | language (language : String)
  /-- The chunk ends. -/
  | cut
deriving DecidableEq, Repr

/-- Chunks so far and the draft of the next one. -/
structure Collector where
  /-- Characters that a chunk may hold and go on after a paragraph break. -/
  limit : Int
  /-- The file of interest. -/
  interest : Option FileId
  /-- The chunk in the making. -/
  draft : Draft
  /-- Kept chunks in order. -/
  chunks : List Chunk
deriving Repr

namespace Collector

/-- A collector without chunks. -/
def empty (limit : Int) (interest : Option FileId) (language : String) : Collector :=
  ⟨limit, interest, .empty language, []⟩

/-- Whether the chunk of a draft is kept. -/
def keeps (interest : Option FileId) (draft : Draft) : Bool :=
  match interest with
  | some file => draft.files.contains file
  | none => draft.hasContent

/-- Ends the chunk and begins one in `language`. -/
def cutTo (collector : Collector) (language : String) : Collector :=
  { collector with
    draft := .empty language
    chunks :=
      if keeps collector.interest collector.draft then collector.chunks ++ [collector.draft.chunk]
      else collector.chunks }

/-- Ends the chunk. -/
def cut (collector : Collector) : Collector := collector.cutTo collector.draft.language

/-- Takes one event. -/
def step (collector : Collector) : Event → Collector
  | .piece piece => { collector with draft := collector.draft.add piece }
  | .paragraphBreak =>
    if collector.limit < collector.draft.size then collector.cut else collector
  | .language language =>
    if language = collector.draft.language then collector else collector.cutTo language
  | .cut => collector.cut

/-- Takes events in order. -/
def run (collector : Collector) (events : List Event) : Collector := events.foldl step collector

/-- Chunks of a whole sequence of events. -/
def collect (limit : Int) (interest : Option FileId) (language : String) (events : List Event) :
    List Chunk :=
  ((empty limit interest language).run events).cut.chunks

theorem run_append (collector : Collector) (first second : List Event) :
    collector.run (first ++ second) = (collector.run first).run second := by
  simp [run]

end Collector
end ProseCheck
