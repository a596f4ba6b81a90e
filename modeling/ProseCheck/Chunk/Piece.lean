import ProseCheck.Chunk.PositionMap
import ProseCheck.Segment

/-!
# Pieces

A piece is what the conversion of one leaf or separator gives: a segment, the characters it
emits, and where they come from.  The segments, the stream and the position map of a sequence of
pieces follow from the pieces alone.
-/

namespace ProseCheck

/-- The smallest unit of converted output. -/
inductive Piece where
  /-- Text that is checked as it stands; it starts at octet `offset` of its node. -/
  | plain (written : Text) (span : Option Span) (offset : Int)
  /-- Markup that is hidden. -/
  | hidden (written : Text)
  /-- Text that is checked by a substitute. -/
  | encoded (written substitute : Text) (span : Option Span)
deriving DecidableEq, Repr

namespace Piece

/-- Text of the document that a piece stands for. -/
def written : Piece → Text
  | .plain written _ _ => written
  | .hidden written => written
  | .encoded written _ _ => written

/-- Characters that a piece adds to the stream. -/
def emitted : Piece → Text
  | .plain written _ _ => written
  | .hidden _ => []
  | .encoded _ substitute _ => substitute

/-- Node that the characters of a piece come from. -/
def span? : Piece → Option Span
  | .plain _ span _ => span
  | .hidden _ => none
  | .encoded _ _ span => span

/-- Segment of a piece. -/
def segment : Piece → Segment
  | .plain written _ _ => ⟨.text, written, []⟩
  | .hidden written => ⟨.markup, written, []⟩
  | .encoded written substitute _ => ⟨.encoded, written, substitute⟩

/-- Entry of a piece whose first character stands at `start`. -/
def entry (start : Nat) : Piece → Entry
  | .plain written span offset => ⟨start, written.length, span, offset, true, Utf8.size written⟩
  | .hidden _ => ⟨start, 0, none, 0, false, 0⟩
  | .encoded written substitute span =>
    ⟨start, substitute.length, span, 0, false, Utf8.size written⟩

/-- Whether a piece emits characters that come from a node. -/
def hasContent (piece : Piece) : Bool := !piece.emitted.isEmpty && piece.span?.isSome

/-- File that the characters of a piece come from. -/
def file? (piece : Piece) : Option FileId :=
  if piece.emitted.isEmpty then none else piece.span?.bind Span.file

/-- Stream of some pieces. -/
def stream (pieces : List Piece) : Text := pieces.flatMap emitted

/-- Entries with those of pieces whose stream starts at `start`. -/
def pushEntries (start : Nat) (entries : List Entry) : List Piece → List Entry
  | [] => entries
  | piece :: rest =>
    pushEntries (start + piece.emitted.length) ((piece.entry start).push entries) rest

/-- Entries of some pieces. -/
def entries (pieces : List Piece) : List Entry := pushEntries 0 [] pieces

/-- Segments of some pieces, neighbours of one kind joined. -/
def segments (pieces : List Piece) : List Segment := Segment.merge (pieces.map segment)

/-- Position map of some pieces. -/
def positionMap (pieces : List Piece) : PositionMap := ⟨stream pieces, entries pieces⟩

@[simp]
theorem emitted_segment (piece : Piece) : piece.segment.emitted = piece.emitted := by
  cases piece <;> rfl

@[simp]
theorem written_segment (piece : Piece) : piece.segment.written = piece.written := by
  cases piece <;> rfl

@[simp]
theorem length_entry (piece : Piece) (start : Nat) :
    (piece.entry start).length = piece.emitted.length := by
  cases piece <;> rfl

@[simp]
theorem stream_append (left right : List Piece) :
    stream (left ++ right) = stream left ++ stream right := by
  simp [stream]

end Piece
end ProseCheck
