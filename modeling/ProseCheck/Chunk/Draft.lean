import ProseCheck.Chunk.Piece
import ProseCheck.Request

/-!
# Chunks and their drafts

A chunk is one independently checkable part of a document.  A draft collects the pieces of one;
finishing it seals its last segment, which later pieces do not join.
-/

namespace ProseCheck

/-- A part of a document that is checked on its own. -/
structure Chunk where
  /-- Segments in order. -/
  segments : List Segment
  /-- Origins of the characters of its stream. -/
  map : PositionMap
  /-- Language code. -/
  language : String
deriving DecidableEq, Repr

namespace Chunk

/-- Text that is checked. -/
def stream (chunk : Chunk) : Text := chunk.map.stream

/-- Text of the document that the chunk stands for. -/
def written (chunk : Chunk) : Text := chunk.segments.flatMap Segment.written

/-- The request that checks a chunk. -/
def request (chunk : Chunk) (disabledRules allowedWords : Option (List String)) : Request :=
  ⟨chunk.segments, chunk.language, disabledRules, allowedWords⟩

end Chunk

/-- Pieces of a chunk in the making, in groups that a finish closed, and the open group. -/
structure Draft where
  /-- Language code. -/
  language : String
  /-- Closed groups in order. -/
  closed : List (List Piece)
  /-- Open group. -/
  current : List Piece
deriving DecidableEq, Repr

namespace Draft

/-- A draft without pieces. -/
def empty (language : String) : Draft := ⟨language, [], []⟩

/-- Adds a piece. -/
def add (draft : Draft) (piece : Piece) : Draft :=
  { draft with current := draft.current ++ [piece] }

/-- All pieces in order. -/
def pieces (draft : Draft) : List Piece := draft.closed.flatten ++ draft.current

/-- Number of characters of the stream. -/
def size (draft : Draft) : Nat := (Piece.stream draft.pieces).length

/-- Whether some character comes from a node. -/
def hasContent (draft : Draft) : Bool := draft.pieces.any Piece.hasContent

/-- Files that characters come from, each once. -/
def files (draft : Draft) : List FileId := (draft.pieces.filterMap Piece.file?).eraseDups

/-- Segments that later pieces do not join. -/
def sealedSegments (draft : Draft) : List Segment :=
  draft.closed.flatMap Piece.segments ++ (Piece.segments draft.current).dropLast

/-- The chunk of the pieces so far. -/
def chunk (draft : Draft) : Chunk :=
  ⟨(draft.closed ++ [draft.current]).flatMap Piece.segments, Piece.positionMap draft.pieces,
    draft.language⟩

/-- The draft after a finish: its open group is closed. -/
def finished (draft : Draft) : Draft :=
  { draft with closed := draft.closed ++ [draft.current], current := [] }

end Draft
end ProseCheck
