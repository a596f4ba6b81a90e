import ProseCheck.Node.Basic

/-!
# Laid-out pages

A page is a frame of items at coordinates; an item is a run of glyphs or a frame again.  A glyph
names the octets of its run that it draws and the place in the document where they come from.
-/

namespace ProseCheck

/-- A glyph. -/
structure Glyph where
  /-- Octets of the run's text that the glyph draws, up to the second bound. -/
  range : Int × Int
  /-- Node that the glyph comes from. -/
  span : Option Span
  /-- Octet of the node's text where the glyph starts. -/
  offset : Int
  /-- Advance width, in multiples of the font size. -/
  advance : Float

/-- A run of glyphs in one font and language. -/
structure TextRun where
  /-- Text of the run. -/
  text : Text
  /-- Language of the run, without region. -/
  lang : String
  /-- Region of the language. -/
  region : Option String
  /-- Font size in points. -/
  size : Float
  /-- Height of capitals, in multiples of the font size. -/
  capHeight : Float
  /-- Width in points; zero if it is not known. -/
  width : Float
  /-- Glyphs in order. -/
  glyphs : List Glyph

mutual

/-- An item of a frame; only items of the kinds `text` and `group` are read. -/
structure FrameItem where
  /-- Distance from the left side of the frame. -/
  x : Float
  /-- Distance from the top of the frame. -/
  y : Float
  /-- Kind of the item. -/
  kind : String
  /-- The run of an item of the kind `text`. -/
  run : Option TextRun
  /-- The frame of an item of the kind `group`. -/
  frame : Option Frame

/-- A frame. -/
structure Frame where
  /-- Width in points. -/
  width : Float
  /-- Height in points. -/
  height : Float
  /-- Items in drawing order. -/
  items : List FrameItem

end

/-- A page. -/
structure Page where
  /-- Number of the page. -/
  number : Int
  /-- Contents of the page. -/
  frame : Frame

end ProseCheck
