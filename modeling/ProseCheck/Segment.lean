import ProseCheck.Validation.Scalar

/-!
# Segments

The output of a conversion is a sequence of segments: text that is checked as it stands, markup
that is hidden, and encoded stretches that are checked by a substitute.  What all segments were
written as is the document, and what they emit is the stream that a server checks.
-/

namespace ProseCheck

/-- How a segment is checked. -/
inductive SegmentKind where
  | text
  | markup
  | encoded
deriving DecidableEq, Repr

namespace SegmentKind

/-- Name of a kind in requests. -/
def name : SegmentKind → String
  | .text => "text"
  | .markup => "markup"
  | .encoded => "encoded"

/-- Kind of a name. -/
def ofName? : String → Option SegmentKind
  | "text" => some .text
  | "markup" => some .markup
  | "encoded" => some .encoded
  | _ => none

/-- Reads a kind. -/
def read : Json → Validated SegmentKind
  | .str written =>
    match ofName? written with
    | some kind => .valid kind
    | none => .refuse .noSuchChoice
  | _ => .refuse .noSuchChoice

end SegmentKind

/-- One classified run of converted output. -/
structure Segment where
  /-- How the run is checked. -/
  kind : SegmentKind
  /-- Text of the document that the run stands for. -/
  written : Text
  /-- What is checked for an encoded run. -/
  substitute : Text
deriving DecidableEq, Repr

namespace Segment

/-- What a server sees of a segment. -/
def emitted (segment : Segment) : Text :=
  match segment.kind with
  | .text => segment.written
  | .markup => []
  | .encoded => segment.substitute

/-- Two segments as one of the kind of the first. -/
def join (first second : Segment) : Segment :=
  ⟨first.kind, first.written ++ second.written, first.substitute ++ second.substitute⟩

/-- Segments with one more in front, which joins the first one if that is of its kind. -/
def place (segment : Segment) : List Segment → List Segment
  | [] => [segment]
  | next :: rest =>
    if segment.kind = next.kind then segment.join next :: rest else segment :: next :: rest

/-- Segments with neighbours of one kind joined. -/
def merge (segments : List Segment) : List Segment := segments.foldr place []

/-- Reads a segment. -/
def read : Json → Validated Segment :=
  Validated.record fun members =>
    Segment.mk
      <$> Validated.required members "kind" SegmentKind.read
      <*> Validated.optional members "original" [] Validated.text
      <*> Validated.optional members "substitute" [] Validated.text

/-- The segment as JSON. -/
def toJson (segment : Segment) : Json :=
  .obj [("kind", .str segment.kind.name), ("original", .text segment.written),
    ("substitute", .text segment.substitute)]

end Segment
end ProseCheck
