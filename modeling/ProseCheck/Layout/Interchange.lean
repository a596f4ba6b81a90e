import ProseCheck.Layout.Page
import ProseCheck.Node.Interchange

/-!
# Laid-out pages in documents

Frames and their items are records that hold each other; every member has a default but the
octets of a glyph and the text of a run.
-/

namespace ProseCheck
open Validated

namespace Glyph

/-- Reads a glyph. -/
def read : Json → Validated Glyph :=
  record fun members =>
    Glyph.mk
      <$> required members "range" pair
      <*> optional members "span" none (nullable Span.read)
      <*> optional members "offset" 0 integer
      <*> optional members "x_advance" 0 number

/-- The glyph as JSON. -/
def toJson (glyph : Glyph) : Json :=
  .obj [("range", .arr [.int glyph.range.1, .int glyph.range.2]),
    ("span", Json.option Span.toJson glyph.span), ("offset", .int glyph.offset),
    ("x_advance", .float glyph.advance)]

end Glyph

namespace TextRun

/-- Reads a run. -/
def read : Json → Validated TextRun :=
  record fun members =>
    TextRun.mk
      <$> required members "text" Validated.text
      <*> optional members "lang" "en" string
      <*> optional members "region" none (nullable string)
      <*> optional members "size" 11 number
      <*> optional members "cap_height" 0.7 number
      <*> optional members "width" 0 number
      <*> optional members "glyphs" [] (list Glyph.read)

/-- The run as JSON. -/
def toJson (run : TextRun) : Json :=
  .obj [("text", .text run.text), ("lang", .str run.lang), ("region", Json.option .str run.region),
    ("size", .float run.size), ("cap_height", .float run.capHeight), ("width", .float run.width),
    ("glyphs", .arr (run.glyphs.map Glyph.toJson))]

end TextRun

/-- How deep frames may stand in each other; the levels that are left are counted at the frames, or
else at their items. -/
structure Depth where
  /-- Whether items are counted, and not frames. -/
  countsItems : Bool
  /-- Levels that are left. -/
  levels : Nat

namespace Depth

/-- The depth below a frame or an item; none if no level is left. -/
def below? (isItem : Bool) (depth : Depth) : Option Depth :=
  if depth.countsItems = isItem then
    match depth.levels with
    | 0 => none
    | levels + 1 => some { depth with levels }
  else some depth

end Depth

namespace Frame

mutual

/-- Reads a frame. -/
def readWithin (depth : Depth) (value : Json) : Validated Frame :=
  match depth.below? false, value with
  | none, _ => refuse .tooDeep
  | some depth, .obj members =>
    let items :=
      match _found : Json.Members.get? members "items" with
      | some value => (readItems depth value).below (.field "items")
      | none => .valid []
    Frame.mk
      <$> optional members "width" 0 number
      <*> optional members "height" 0 number
      <*> items
  | some _, _ => refuse .notRecord
termination_by sizeOf value
decreasing_by
  have := Json.Members.sizeOf_get? _found
  simp only [Json.obj.sizeOf_spec]
  omega

/-- Reads a list of items. -/
def readItems (depth : Depth) (value : Json) : Validated (List FrameItem) :=
  match value with
  | .arr items => readEach depth 0 items
  | _ => refuse .notList
termination_by sizeOf value
decreasing_by
  simp only [Json.arr.sizeOf_spec]
  omega

/-- Reads items in order, numbered from `index`. -/
def readEach (depth : Depth) (index : Nat) (items : List Json) : Validated (List FrameItem) :=
  match items with
  | [] => .valid []
  | item :: rest =>
    List.cons <$> (readItemWithin depth item).below (.item index)
      <*> readEach depth (index + 1) rest
termination_by sizeOf items

/-- Reads an item. -/
def readItemWithin (depth : Depth) (value : Json) : Validated FrameItem :=
  match depth.below? true, value with
  | none, _ => refuse .tooDeep
  | some depth, .obj members =>
    let frame :=
      match _found : Json.Members.get? members "frame" with
      | some .null => .valid none
      | some value => ((readWithin depth value).map some).below (.field "frame")
      | none => .valid none
    FrameItem.mk
      <$> optional members "x" 0 number
      <*> optional members "y" 0 number
      <*> optional members "kind" "text" string
      <*> optional members "text" none (nullable TextRun.read)
      <*> frame
  | some _, _ => refuse .notRecord
termination_by sizeOf value
decreasing_by
  have := Json.Members.sizeOf_get? _found
  simp only [Json.obj.sizeOf_spec]
  omega

end

/-- Reads a frame that stands alone. -/
def read (value : Json) : Validated Frame := readWithin ⟨false, depthLimit⟩ value

/-- Reads a frame that is part of a page; that takes a level. -/
def readPart (value : Json) : Validated Frame := readWithin ⟨false, depthLimit - 1⟩ value

/-- Reads an item that stands alone. -/
def readItem (value : Json) : Validated FrameItem := readItemWithin ⟨true, depthLimit⟩ value

mutual

/-- The frame as JSON. -/
def toJson : Frame → Json
  | ⟨width, height, items⟩ =>
    .obj [("width", .float width), ("height", .float height), ("items", .arr (itemsToJson items))]

/-- Items as JSON. -/
def itemsToJson : List FrameItem → List Json
  | [] => []
  | item :: rest => itemToJson item :: itemsToJson rest

/-- An item as JSON. -/
def itemToJson : FrameItem → Json
  | ⟨x, y, kind, run, frame⟩ =>
    .obj [("x", .float x), ("y", .float y), ("kind", .str kind),
      ("text", Json.option TextRun.toJson run), ("frame", frameToJson frame)]

/-- A frame that may be missing as JSON. -/
def frameToJson : Option Frame → Json
  | none => .null
  | some frame => frame.toJson

end

end Frame

namespace Page

/-- Reads a page. -/
def read : Json → Validated Page :=
  record fun members =>
    Page.mk
      <$> optional members "number" 1 integer
      <*> optional members "frame" ⟨0, 0, []⟩ Frame.readPart

/-- The page as JSON. -/
def toJson (page : Page) : Json :=
  .obj [("number", .int page.number), ("frame", page.frame.toJson)]

end Page
end ProseCheck
