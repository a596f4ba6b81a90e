import ProseCheck.Chunk.Collector
import ProseCheck.Layout.Page
import ProseCheck.LanguageCode
import ProseCheck.Slice

/-!
# Conversion of laid-out pages

Frames show no words, lines or paragraphs, so these follow from where runs stand: runs on one
line are joined, with a blank where there is a gap, and a new line begins a paragraph unless the
text goes on in the node where the line before it ended.  A page break ends the line, and a
change of language ends the chunk.
-/

namespace ProseCheck
namespace Layout

/-- How geometry is read. -/
structure Options where
  /-- Leading between lines, in multiples of the font size. -/
  lineSpacing : Float
  /-- Codes that the user set for languages. -/
  languages : List (String × String)

/-- Least gap that counts, in points. -/
def tolerance : Float := 0.01

/-- A run at its place on a page, or the break between two pages. -/
inductive Step where
  | run (run : TextRun) (x y : Float)
  | pageBreak

mutual

/-- Runs of a frame whose corner stands at a place. -/
def frameSteps (x y : Float) : Frame → List Step
  | ⟨_, _, items⟩ => itemsSteps x y items

/-- Runs of items of a frame. -/
def itemsSteps (x y : Float) : List FrameItem → List Step
  | [] => []
  | item :: rest => itemSteps x y item ++ itemsSteps x y rest

/-- Runs of an item of a frame. -/
def itemSteps (x y : Float) : FrameItem → List Step
  | ⟨dx, dy, kind, run, frame⟩ =>
    match frame, run with
    | some frame, run =>
      if kind = "group" then frameSteps (x + dx) (y + dy) frame
      else if kind = "text" then (run.map fun run => Step.run run (x + dx) (y + dy)).toList
      else []
    | none, some run => if kind = "text" then [.run run (x + dx) (y + dy)] else []
    | none, none => []

end

/-- Runs of pages in order, with a break between two pages. -/
def steps : List Page → List Step
  | [] => []
  | [page] => frameSteps 0 0 page.frame
  | page :: next :: rest => frameSteps 0 0 page.frame ++ .pageBreak :: steps (next :: rest)

/-- Where the run before ended. -/
structure Cursor where
  /-- Right end. -/
  right : Float
  /-- Height on the page; none after a page break. -/
  y : Option Float
  /-- Font size. -/
  size : Float
  /-- Height of capitals, in multiples of the font size. -/
  capHeight : Float
  /-- Node that the last attached glyph came from. -/
  span : Option Span
  /-- Octet of that node after the glyph. -/
  offset : Int

/-- State between two runs. -/
structure State where
  /-- Language code of the chunk. -/
  language : String
  /-- Where the run before ended; none at the start of a language. -/
  cursor : Option Cursor

/-- Width of a run: its own, or that of its glyphs. -/
def runWidth (run : TextRun) : Float :=
  if run.width != 0 then run.width
  else run.glyphs.foldl (fun total glyph => total + glyph.advance) 0 * run.size

/-- Whether a glyph goes on where a cursor stands in its node. -/
def continues (cursor : Cursor) (glyph : Glyph) : Bool :=
  glyph.span.isSome && glyph.span == cursor.span && glyph.offset == cursor.offset

/-- Whether a height is on the line of a cursor: less than half a line away. -/
def isSameLine (options : Options) (cursor : Cursor) (y : Float) : Bool :=
  let pitch := cursor.size * (cursor.capHeight + options.lineSpacing)
  match cursor.y with
  | some before => (y - before).abs < pitch / 2 + tolerance
  | none => false

/-- Events between the run before and a run whose first glyph is `first`. -/
def separation (options : Options) (cursor : Cursor) (first : Glyph) (x y : Float) : List Event :=
  if isSameLine options cursor y then
    if continues cursor first || (x - cursor.right).abs ≤ tolerance then []
    else [.piece (.encoded [] [' '] none)]
  else if continues cursor first then []
  else [.piece (.encoded [] ['\n', '\n'] none), .paragraphBreak]

/-- Glyphs that are shown: a glyph within the octets of the last one shown adds nothing. -/
def shownFrom (last : Option (Int × Int)) : List Glyph → List Glyph
  | [] => []
  | glyph :: rest =>
    if last.any fun range => range.1 ≤ glyph.range.1 && glyph.range.2 ≤ range.2 then
      shownFrom last rest
    else glyph :: shownFrom (some glyph.range) rest

/-- Glyphs of a run that are shown. -/
def shown (run : TextRun) : List Glyph := shownFrom none run.glyphs

/-- Node that a glyph is attached to. -/
def attached? (glyph : Glyph) : Option Span := glyph.span.filter fun span => !span.isDetached

/-- Characters of a glyph in the octets of its run. -/
def cluster (octets : List Nat) (glyph : Glyph) : Text :=
  Utf8.decodeLossy (Slice.between octets glyph.range.1 glyph.range.2)

/-- Event of a glyph. -/
def glyphEvent (octets : List Nat) (glyph : Glyph) : Event :=
  .piece (.plain (cluster octets glyph) (attached? glyph) glyph.offset)

/-- Node and octet after the last attached glyph. -/
def advance (before : Option Span × Int) (glyphs : List Glyph) : Option Span × Int :=
  glyphs.foldl
    (fun place glyph =>
      match attached? glyph with
      | some span => (some span, glyph.offset + (glyph.range.2 - glyph.range.1))
      | none => place) before

/-- Events of a run, and the state after it. -/
def runEvents (options : Options) (state : State) (run : TextRun) (x y : Float) :
    State × List Event :=
  match run.glyphs with
  | [] => (state, [])
  | first :: _ =>
    let language := LanguageCode.resolve options.languages run.lang run.region
    let changed := language ≠ state.language
    let cursor := if changed then none else state.cursor
    let glyphs := shown run
    let (span, offset) :=
      advance (cursor.elim (none, 0) fun cursor => (cursor.span, cursor.offset)) glyphs
    let events := (if changed then [.language language] else [])
      ++ (match cursor with
        | some cursor => separation options cursor first x y
        | none => [])
      ++ glyphs.map (glyphEvent (Utf8.encode run.text))
    (⟨language, some ⟨x + runWidth run, some y, run.size, run.capHeight, span, offset⟩⟩, events)

/-- Events of steps in order. -/
def events (options : Options) (state : State) : List Step → List Event
  | [] => []
  | .pageBreak :: rest =>
    .paragraphBreak :: events options
      { state with cursor := state.cursor.map fun cursor => { cursor with y := none } } rest
  | .run run x y :: rest =>
    (runEvents options state run x y).2 ++ events options (runEvents options state run x y).1 rest

/-- Chunks of pages. -/
def convert (options : Options) (limit : Int) (interest : Option FileId) (pages : List Page) :
    List Chunk :=
  Collector.collect limit interest LanguageCode.standard
    (events options ⟨LanguageCode.standard, none⟩ (steps pages))

end Layout
end ProseCheck
