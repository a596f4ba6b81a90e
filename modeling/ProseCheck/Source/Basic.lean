import ProseCheck.Bisect
import ProseCheck.Slice
import ProseCheck.Source.Placement
import ProseCheck.Text.Lines

/-!
# Sources

A source is one parsed file: a tree under a file name.  Its text is that of the tree, its nodes
carry the spans of the file, and a span finds the node of its number.  Octet offsets convert to
lines and columns.
-/

namespace ProseCheck

/-- Octets at which lines start.  The place after a last line is a start only if a line feed or
a carriage return ends the text. -/
def Lines.starts (text : Text) : List Nat :=
  let ends := (Lines.split text).foldl
    (fun (starts : List Nat × Nat) line =>
      (starts.1 ++ [starts.2 + Utf8.size line], starts.2 + Utf8.size line)) ([0], 0)
  if ends.1.length > 1 && !(text.getLast? == some '\n' || text.getLast? == some '\r') then
    ends.1.dropLast
  else ends.1

/-- A parsed file.  What follows from name and tree is stored beside them. -/
structure Source where
  /-- Name of the file. -/
  id : FileId
  /-- The parsed tree; its spans do not matter. -/
  tree : Node
  /-- The tree with the spans of the file. -/
  root : Node := tree.numbered id 0
  /-- Text of the file. -/
  text : Text := tree.fullText
  /-- Nodes by number. -/
  placements : Array Placed := (root.place 0 []).toArray
  /-- Octets of the text. -/
  octets : List Nat := Utf8.encode text
  /-- Octets at which lines start. -/
  lineStarts : List Nat := Lines.starts text
  root_eq : root = tree.numbered id 0 := by rfl
  text_eq : text = tree.fullText := by rfl
  placements_eq : placements = (root.place 0 []).toArray := by rfl
  octets_eq : octets = Utf8.encode text := by rfl
  lineStarts_eq : lineStarts = Lines.starts text := by rfl

namespace Source

/-- The source of a tree. -/
def ofTree (id : FileId) (tree : Node) : Source := { id, tree }

/-- Number of octets. -/
def size (source : Source) : Nat := source.octets.length

/-- The node of a span. -/
def find? (source : Source) (span : Span) : Option Placed :=
  if span.file = some source.id ∧ 0 ≤ span.number then source.placements[span.number.toNat]?
  else none

/-- Text of a stretch of octets; a cut character shows as U+FFFD. -/
def slice (source : Source) (start stop : Int) : Text :=
  Utf8.decodeLossy (Slice.between source.octets start stop)

/-- Line of an octet; before the first octet it is the line −1. -/
def lineOf (source : Source) (offset : Int) : Int :=
  if offset < 0 then -1 else (Bisect.countAtMost source.lineStarts offset.toNat : Int) - 1

/-- First octet of a line. -/
def lineStart? (source : Source) (line : Int) : Option Nat :=
  if 0 ≤ line then source.lineStarts[line.toNat]? else none

/-- Octets of a line.  Of a line that another follows, the last octet is left out. -/
def lineRange? (source : Source) (line : Int) : Option (Nat × Nat) :=
  (source.lineStart? line).map fun start =>
    match source.lineStart? (line + 1) with
    | none => (start, source.size)
    | some next => (start, if next > start then next - 1 else next)

/-- First octet of the line of an octet; the line −1 is the last one. -/
def startOfLine (source : Source) (offset : Int) : Nat :=
  match source.lineStart? (source.lineOf offset) with
  | some start => start
  | none => source.lineStarts.getLastD 0

/-- Column of an octet: the characters between the start of its line and it. -/
def columnOf (source : Source) (offset : Int) : Nat :=
  (source.slice (source.startOfLine offset) offset).length

/-- Line and column of an octet, both from zero. -/
def position (source : Source) (offset : Int) : Int × Nat :=
  (source.lineOf offset, source.columnOf offset)

@[simp]
theorem ofTree_id (id : FileId) (tree : Node) : (ofTree id tree).id = id := rfl

@[simp]
theorem ofTree_text (id : FileId) (tree : Node) : (ofTree id tree).text = tree.fullText := rfl

theorem size_eq (source : Source) : source.size = Utf8.size source.text := by
  rw [size, source.octets_eq, Utf8.length_encode]

end Source
end ProseCheck
